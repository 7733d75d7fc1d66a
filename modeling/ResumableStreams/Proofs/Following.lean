import ResumableStreams.Disk.Mode

namespace ResumableStreams

/-!
# Following a path to a file that has been written

A file that is created or replaced is no directory, and takes no directory
away.  It stands in a directory that was there already, so all that it can add
are the directories above it, which were there as well.  A path that led to the
file, or to where it was to be, therefore leads to it afterwards, step by step
in the same way.
-/

namespace Disk

/-! ## What is there after a file has been stored -/

/-- Putting a file in place adds its location to the others. -/
theorem any_putFile (location : Location) (bytes : Bytes) (files : List (Location × Bytes))
    (wanted : Location -> Bool) :
    ((putFile location bytes files).any fun (file, _) => wanted file) =
      ((files.any fun (file, _) => wanted file) || wanted location) := by
  induction files with
  | nil => simp only [putFile, List.any_cons, List.any_nil, Bool.or_false, Bool.false_or]
  | cons entry files inductionHypothesis =>
    rcases entry with ⟨other, old⟩
    by_cases here : other = location
    · subst here
      simp only [putFile, if_true, List.any_cons]
      rw [Bool.or_right_comm, Bool.or_self]
    · simp only [putFile, if_neg here, List.any_cons, inductionHypothesis, Bool.or_assoc]

/-- The only new directories are those above the file. -/
theorem hasDirectory_store (disk : Disk) (location other : Location) (bytes : Bytes) :
    (disk.store location bytes).hasDirectory other =
      (disk.hasDirectory other || (other.isPrefixOf location && other != location)) := by
  simp only [hasDirectory, store, any_putFile location bytes disk.files fun file =>
    other.isPrefixOf file && other != file, Bool.or_assoc]

/-- A directory stays one. -/
theorem hasDirectory_store_of_hasDirectory {disk : Disk} {other : Location}
    (there : disk.hasDirectory other = true) (location : Location) (bytes : Bytes) :
    (disk.store location bytes).hasDirectory other = true := by
  rw [hasDirectory_store, there, Bool.true_or]

/-- A file is not a directory because it is stored. -/
theorem hasDirectory_store_self (disk : Disk) (location : Location) (bytes : Bytes) :
    (disk.store location bytes).hasDirectory location = disk.hasDirectory location := by
  rw [hasDirectory_store, bne_self_eq_false, Bool.and_false, Bool.or_false]

theorem hasFile_store_self (disk : Disk) (location : Location) (bytes : Bytes) :
    (disk.store location bytes).hasFile location = true := by
  rw [hasFile, store, lookup_putFile_self, Option.isSome_some]

/-! ## Following the path again -/

/-- What a path leads to is a place for a file, whether or not there is one. -/
inductive Target.IsPlace (location : Location) (slashed : Bool) : Target -> Prop where
  | file : IsPlace location slashed (.file location slashed)
  | free : IsPlace location slashed (.free location slashed)

section

variable {disk : Disk} {path : String} {target : Target} {location : Location} {slashed : Bool}

/-- The last step of a path that leads to a place for a file names the file in a
directory, where it is no directory itself. -/
theorem follow_last {ends : Bool} {here : List String} {name : String} (dot : name ≠ ".")
    (dots : name ≠ "..") (followed : disk.follow path ends here [name] = .ok target)
    (place : target.IsPlace location slashed) (bytes : Bytes) :
    (disk.store location bytes).follow path ends here [name] = .ok (.file location slashed) := by
  rw [follow.eq_4 _ _ _ _ _ dot dots] at followed ⊢
  by_cases long : name.utf8ByteSize > nameLimit
  · rw [if_pos long] at followed
    cases followed
    cases place
  · rw [if_neg long] at followed ⊢
    by_cases directory : disk.hasDirectory (name :: here).reverse = true
    · rw [if_pos directory] at followed
      cases followed
      cases place
    · rw [if_neg directory] at followed
      have found : location = (name :: here).reverse ∧ slashed = ends := by
        by_cases file : disk.hasFile (name :: here).reverse = true
        · rw [if_pos file] at followed
          cases followed
          cases place
          exact ⟨rfl, rfl⟩
        · rw [if_neg file] at followed
          cases followed
          cases place
          exact ⟨rfl, rfl⟩
      rcases found with ⟨rfl, rfl⟩
      rw [hasDirectory_store_self, if_neg directory, hasFile_store_self, if_pos rfl]

/-- A path that leads somewhere goes on from a directory, which stays one. -/
theorem follow_next {ends : Bool} {here steps : List String} {name : String} (dot : name ≠ ".")
    (dots : name ≠ "..") (more : steps ≠ [])
    (followed : disk.follow path ends here (name :: steps) = .ok target)
    (location : Location) (bytes : Bytes) :
    disk.follow path ends (name :: here) steps = .ok target ∧
      (disk.store location bytes).follow path ends here (name :: steps) =
        (disk.store location bytes).follow path ends (name :: here) steps := by
  rw [follow.eq_5 _ _ _ _ _ _ dot dots more] at followed ⊢
  by_cases long : name.utf8ByteSize > nameLimit
  · rw [if_pos long] at followed
    have more' : ¬ steps.isEmpty = true := by
      rw [List.isEmpty_iff]
      exact more
    rw [if_neg more'] at followed
    cases followed
  · rw [if_neg long] at followed ⊢
    by_cases directory : disk.hasDirectory (name :: here).reverse = true
    · rw [if_pos directory] at followed
      rw [hasDirectory_store_of_hasDirectory directory, if_pos rfl]
      exact ⟨followed, rfl⟩
    · rw [if_neg directory] at followed
      by_cases file : disk.hasFile (name :: here).reverse = true
      · rw [if_pos file] at followed
        cases followed
      · rw [if_neg file] at followed
        cases followed

/-- What a path leads to is found there after it has been stored. -/
theorem follow_store {ends : Bool} {here steps : List String}
    (followed : disk.follow path ends here steps = .ok target)
    (place : target.IsPlace location slashed) (bytes : Bytes) :
    (disk.store location bytes).follow path ends here steps = .ok (.file location slashed) := by
  induction steps generalizing here with
  | nil =>
    cases followed
    cases place
  | cons step steps inductionHypothesis =>
    by_cases dot : step = "."
    · subst dot
      exact inductionHypothesis followed
    · by_cases dots : step = ".."
      · subst dots
        exact inductionHypothesis followed
      · by_cases more : steps = []
        · subst more
          exact follow_last dot dots followed place bytes
        · rcases follow_next dot dots more followed location bytes with ⟨onward, same⟩
          rw [same]
          exact inductionHypothesis onward

/-- What has been opened for writing is empty, and it is at the place to which
the path led. -/
theorem openPath_writing {emptied : Disk}
    (opened : disk.openPath path ⟨.writing, false, false⟩ = .ok (location, emptied)) :
    emptied = disk.store location [] ∧
      ∃ target, disk.resolve path = .ok target ∧ target.IsPlace location false := by
  simp only [openPath, bind, Except.bind] at opened
  cases resolved : disk.resolve path with
  | error refusal =>
    rw [resolved] at opened
    cases opened
  | ok target =>
    rw [resolved] at opened
    cases target with
    | file here slashed =>
      cases slashed <;> cases opened
      exact ⟨rfl, _, rfl, .file⟩
    | directory slashed => cases slashed <;> cases opened
    | free here slashed =>
      cases slashed <;> cases opened
      exact ⟨rfl, _, rfl, .free⟩
    | overlong slashed => cases slashed <;> cases opened

/-- What has been opened for writing can be read under the same path, whatever
has been written meanwhile. -/
theorem openPath_written {emptied : Disk}
    (opened : disk.openPath path ⟨.writing, false, false⟩ = .ok (location, emptied))
    (bytes : Bytes) :
    (disk.store location bytes).openPath path ⟨.reading, false, false⟩ =
      .ok (location, disk.store location bytes) := by
  rcases (openPath_writing opened).2 with ⟨target, resolved, place⟩
  have again : (disk.store location bytes).resolve path = .ok (.file location false) := by
    unfold resolve at resolved ⊢
    split at resolved
    · cases resolved
    · rename_i filled
      split at resolved
      · cases resolved
      · rename_i short
        rw [if_neg filled, if_neg short]
        exact follow_store resolved place bytes
  simp only [openPath, bind, Except.bind, again]

end

end Disk

end ResumableStreams
