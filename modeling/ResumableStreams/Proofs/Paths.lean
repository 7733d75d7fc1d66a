import ResumableStreams.Host

namespace ResumableStreams

/-!
# Normal paths

A path in normal form has no two slashes after each other, but for two at its
start.  So it is never an address, even if it was made from one, and it is
opened as a path.  All its characters were there before, apart from slashes and
dots.
-/

namespace Path

/-- The pieces between slashes have no slashes, and only characters that were
there. -/
theorem of_mem_splitOn {chars piece : List Char} (member : piece ∈ chars.splitOn '/') :
    ∀ char ∈ piece, char ≠ '/' ∧ char ∈ chars := by
  have collected (rest begun : List Char)
      (clean : ∀ char ∈ begun, char ≠ '/' ∧ char ∈ chars) (among : ∀ char ∈ rest, char ∈ chars)
      (member : piece ∈ List.splitOnPPrepend (· == '/') rest begun) :
      ∀ char ∈ piece, char ≠ '/' ∧ char ∈ chars := by
    induction rest generalizing begun with
    | nil =>
      rw [List.splitOnPPrepend_nil, List.mem_singleton] at member
      rw [member]
      exact fun char inside => clean char (List.mem_reverse.mp inside)
    | cons next rest inductionHypothesis =>
      have later : ∀ char ∈ rest, char ∈ chars := fun char inside =>
        among char (List.mem_cons_of_mem _ inside)
      by_cases slash : next = '/'
      · have cut : (next == '/') = true := beq_iff_eq.mpr slash
        rw [List.splitOnPPrepend_cons_pos (p := fun char => char == '/') cut] at member
        rcases List.mem_cons.mp member with rfl | member
        · exact fun char inside => clean char (List.mem_reverse.mp inside)
        · exact inductionHypothesis [] nofun later member
      · have uncut : (next == '/') = false := beq_eq_false_iff_ne.mpr slash
        rw [List.splitOnPPrepend_cons_neg (p := fun char => char == '/') uncut] at member
        refine inductionHypothesis (next :: begun) (fun char inside => ?_) later member
        rcases List.mem_cons.mp inside with rfl | inside
        · exact ⟨slash, among char List.mem_cons_self⟩
        · exact clean char inside
  exact collected chars [] nofun (fun _ inside => inside) member

/-- A step is not empty and has no slash, and all its characters are in the
path. -/
theorem of_mem_steps {path step : String} (member : step ∈ steps path) :
    step.toList ≠ [] ∧ ∀ char ∈ step.toList, char ≠ '/' ∧ char ∈ path.toList := by
  rcases List.mem_map.mp member with ⟨piece, kept, rfl⟩
  rcases List.mem_filter.mp kept with ⟨split, filled⟩
  rw [String.toList_ofList]
  refine ⟨?_, of_mem_splitOn split⟩
  rintro rfl
  cases filled

/-- No two slashes of joined steps are next to each other, and none is at the
start. -/
theorem slashes_apart {pieces : List (List Char)}
    (steps : ∀ piece ∈ pieces, piece ≠ [] ∧ ∀ char ∈ piece, char ≠ '/') :
    (['/'].intercalate pieces)[0]? ≠ some '/' ∧
      ∀ index, (['/'].intercalate pieces)[index]? = some '/' ->
        (['/'].intercalate pieces)[index + 1]? ≠ some '/' := by
  induction pieces with
  | nil => exact ⟨nofun, nofun⟩
  | cons piece pieces inductionHypothesis =>
    rcases steps piece List.mem_cons_self with ⟨filled, clean⟩
    have later := inductionHypothesis fun piece member =>
      steps piece (List.mem_cons_of_mem _ member)
    have inside {index : Nat} : piece[index]? ≠ some '/' :=
      fun found => clean '/' (List.mem_of_getElem? found) rfl
    cases pieces with
    | nil =>
      rw [List.intercalate_singleton]
      exact ⟨inside, fun index _ => inside⟩
    | cons next pieces =>
      rw [List.intercalate_cons_cons, List.append_assoc, List.singleton_append]
      generalize ['/'].intercalate (next :: pieces) = joined at later
      have positive : 0 < piece.length := List.length_pos_iff.mpr filled
      refine ⟨?_, fun index found => ?_⟩
      · rw [List.getElem?_append_left positive]
        exact inside
      · by_cases early : index < piece.length
        · rw [List.getElem?_append_left early] at found
          exact absurd found inside
        · rw [List.getElem?_append_right (by omega)] at found ⊢
          have shift : index + 1 - piece.length = (index - piece.length) + 1 := by omega
          rw [shift, List.getElem?_cons_succ]
          cases gap : index - piece.length with
          | zero => exact later.1
          | succ gap' =>
            rw [gap, List.getElem?_cons_succ] at found
            exact later.2 gap' found

theorem root_eq (path : String) : root path = "" ∨ root path = "/" ∨ root path = "//" := by
  unfold root
  split
  · exact .inr (.inl rfl)
  · exact .inr (.inr rfl)
  · exact .inr (.inl rfl)
  · exact .inl rfl

/-- The steps of a path that are not dots, joined. -/
def joined (path : String) : List Char :=
  ['/'].intercalate (((steps path).filter fun step => step ≠ ".").map String.toList)

theorem toList_normalize (path : String) :
    (normalize path).toList = ['.'] ∨
      (normalize path).toList = (root path).toList ++ joined path := by
  simp only [normalize]
  split
  · exact .inl rfl
  · refine .inr ?_
    rw [String.toList_append, String.toList_intercalate]
    rfl

theorem joined_slashes (path : String) :
    ∀ index, (joined path)[index]? = some '/' -> (joined path)[index + 1]? ≠ some '/' := by
  refine (slashes_apart fun piece member => ?_).2
  rcases List.mem_map.mp member with ⟨step, kept, rfl⟩
  rcases of_mem_steps (List.mem_filter.mp kept).1 with ⟨filled, clean⟩
  exact ⟨filled, fun char inside => (clean char inside).1⟩

/-- A path in normal form is no address. -/
theorem isAddress_normalize (path : String) : isAddress (normalize path) = false := by
  have refused (scheme : String) (count : Nat) (first : scheme.toList[0]? = some 'h')
      (slash : scheme.toList[count]? = some '/') (again : scheme.toList[count + 1]? = some '/') :
      (normalize path).startsWith scheme = false := by
    rw [Bool.eq_false_iff]
    intro starts
    rcases String.startsWith_string_iff.mp starts with ⟨rest, split⟩
    have found {index : Nat} {char : Char} (there : scheme.toList[index]? = some char) :
        (normalize path).toList[index]? = some char := by
      rw [← split, List.getElem?_append_left (List.getElem?_eq_some_iff.mp there).1, there]
    rcases toList_normalize path with dot | normal
    · have dash := found first
      rw [dot] at dash
      cases dash
    · rcases root_eq path with none | one | two
      · rw [none] at normal
        have before := found slash
        have after := found again
        rw [normal] at before after
        exact joined_slashes path count before after
      · have dash := found first
        rw [normal, one] at dash
        cases dash
      · have dash := found first
        rw [normal, two] at dash
        cases dash
  rw [isAddress, refused "http://" 5 rfl rfl rfl, refused "https://" 6 rfl rfl rfl]
  rfl

theorem mem_intercalate {pieces : List (List Char)} {char : Char}
    (member : char ∈ ['/'].intercalate pieces) : char = '/' ∨ ∃ piece ∈ pieces, char ∈ piece := by
  induction pieces with
  | nil => cases member
  | cons piece pieces inductionHypothesis =>
    cases pieces with
    | nil =>
      rw [List.intercalate_singleton] at member
      exact .inr ⟨piece, List.mem_cons_self, member⟩
    | cons next pieces =>
      rw [List.intercalate_cons_cons, List.append_assoc] at member
      rcases List.mem_append.mp member with here | behind
      · exact .inr ⟨piece, List.mem_cons_self, here⟩
      · rcases List.mem_cons.mp behind with slash | later
        · exact .inl slash
        · rcases inductionHypothesis later with slash | ⟨other, listed, inside⟩
          · exact .inl slash
          · exact .inr ⟨other, List.mem_cons_of_mem _ listed, inside⟩

/-- The characters of a path in normal form. -/
theorem mem_normalize {path : String} {char : Char} (member : char ∈ (normalize path).toList) :
    char = '/' ∨ char = '.' ∨ char ∈ path.toList := by
  rcases toList_normalize path with dot | normal
  · rw [dot, List.mem_singleton] at member
    exact .inr (.inl member)
  · rw [normal] at member
    rcases List.mem_append.mp member with start | inside
    · rcases root_eq path with none | one | two
      · rw [none] at start
        cases start
      · rw [one] at start
        exact .inl (List.mem_singleton.mp start)
      · rw [two] at start
        have slash : char ∈ List.replicate 2 '/' := start
        exact .inl (List.mem_replicate.mp slash).2
    · rcases mem_intercalate inside with slash | ⟨piece, listed, here⟩
      · exact .inl slash
      · rcases List.mem_map.mp listed with ⟨step, kept, rfl⟩
        exact .inr (.inr ((of_mem_steps (List.mem_filter.mp kept).1).2 char here).2)

/-- A null character has no way into a path. -/
theorem no_null_normalize {path : String} (clean : path.toList.contains '\x00' = false) :
    (normalize path).toList.contains '\x00' = false := by
  rw [Bool.eq_false_iff]
  intro found
  rcases mem_normalize (List.contains_iff_mem.mp found) with slash | dot | inside
  · cases slash
  · cases dot
  · rw [List.contains_iff_mem.mpr inside] at clean
    cases clean

end Path

end ResumableStreams
