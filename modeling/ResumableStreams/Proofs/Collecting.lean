import ResumableStreams.Command
import ResumableStreams.Proofs.Following
import ResumableStreams.Proofs.Paths
import ResumableStreams.Proofs.Possession

namespace ResumableStreams

/-!
# Sinks that collect what is written

A file that is opened for writing only is emptied, and then grows by what is
written.  Part of that is on the disk already, and the rest waits in the block;
only both together are what has been written.  Closing the file brings all of
it to the disk.

The standard output is a file in memory, which holds at once whatever is
written.
-/

namespace Disk

/-- Of two contents of one file the later counts. -/
theorem store_store (disk : Disk) (location : Location) (first second : Bytes) :
    (disk.store location first).store location second = disk.store location second := by
  have same (files : List (Location × Bytes)) :
      putFile location second (putFile location first files) = putFile location second files := by
    induction files with
    | nil => simp only [putFile, if_true]
    | cons entry files inductionHypothesis =>
      cases entry with
      | mk other old =>
        by_cases here : other = location
        · simp only [putFile, if_pos here, if_true]
        · simp only [putFile, if_neg here, inductionHypothesis]
  rw [store, store, store, same]

end Disk

/-! ## Files that are only written -/

namespace OpenFile

/-- What has been written into the block, from its start on. -/
structure Holds (file : OpenFile) (waiting : Bytes) : Prop where
  anchor : file.anchor = 0
  passed : file.passed.bytes = waiting
  unsaved : file.unsaved = none ∧ waiting = [] ∨ file.unsaved = some (0, file.cursor)

theorem Holds.cursor {file : OpenFile} {waiting : Bytes} (holds : file.Holds waiting) :
    file.cursor = waiting.length := by
  rw [← holds.passed, Collected.length_bytes]
  rfl

theorem Holds.hold {file : OpenFile} {waiting : Bytes} (holds : file.Holds waiting) (data : Bytes) :
    (file.hold data).Holds (waiting ++ data) where
  anchor := holds.anchor
  passed := by
    show (file.passed.append data).bytes = _
    rw [Collected.bytes_append, holds.passed]
  unsaved := by
    have cursor : (file.hold data).cursor = file.cursor + data.length := rfl
    refine .inr ?_
    rw [cursor]
    rcases holds.unsaved with ⟨saved, nothing⟩ | unsaved
    · have start : file.cursor = 0 := by rw [holds.cursor, nothing, List.length_nil]
      simp only [OpenFile.hold, saved, start]
    · simp only [OpenFile.hold, unsaved, Nat.zero_min]
      rw [Nat.max_eq_right (Nat.le_add_right _ _)]

/-- A file that has been opened for writing at a location of a disk.  Some of
what was written is stored, and the rest waits. -/
structure Spools (base : Disk) (location : Location) (stored waiting : Bytes) (file : OpenFile)
    (disk : Disk) : Prop where
  place : file.location = location
  mode : file.mode = ⟨.writing, false, false⟩
  opened : file.closes = 0
  unfilled : file.filled = false
  position : file.position = stored.length
  disk : disk = base.store location stored
  block : file.unsaved = none ∧ waiting = [] ∨ file.Holds waiting

section

variable {base disk : Disk} {location : Location} {stored waiting : Bytes} {file : OpenFile}

theorem spools_start (base : Disk) (location : Location) :
    Spools base location [] []
      (start location ⟨.writing, false, false⟩ (base.store location []))
      (base.store location []) :=
  ⟨rfl, rfl, rfl, rfl, rfl, rfl, .inl ⟨rfl, rfl⟩⟩

/-- Bytes that go to the disk are stored after the others. -/
theorem Spools.putOnDisk (spools : Spools base location stored waiting file disk) (data : Bytes) :
    file.putOnDisk data disk =
      ({ file with position := (stored ++ data).length },
        base.store location (stored ++ data)) := by
  have contents : disk.contents file.location = stored := by
    rw [spools.disk, spools.place, Disk.contents_store_self]
  simp only [OpenFile.putOnDisk, contents, spools.mode, spools.position, reduceCtorEq, if_false,
    Bytes.overAt_length, List.length_append]
  rw [spools.place, spools.disk, Disk.store_store]

theorem Spools.not_closed (spools : Spools base location stored waiting file disk) :
    ¬ file.closes > 0 :=
  Nat.not_lt.mpr (Nat.le_of_eq spools.opened)

/-- What waits is stored. -/
theorem Spools.settle (spools : Spools base location stored waiting file disk) :
    ∃ after disk', file.settle disk = (after, disk') ∧
      Spools base location (stored ++ waiting) [] after disk' ∧ after.unsaved = none := by
  have settled : Spools base location stored [] { file with unsaved := none } disk :=
    { spools with block := .inl ⟨rfl, rfl⟩ }
  by_cases nothing : waiting = []
  · have same : file.settle disk = ({ file with unsaved := none }, disk) := by
      rcases spools.block with ⟨saved, -⟩ | holds
      · simp only [OpenFile.settle, saved]
      · rcases holds.unsaved with ⟨saved, -⟩ | unsaved
        · simp only [OpenFile.settle, saved]
        · have start : file.cursor = 0 := by rw [holds.cursor, nothing, List.length_nil]
          simp only [OpenFile.settle, unsaved, start, if_true]
    rw [nothing, List.append_nil]
    exact ⟨_, _, same, settled, rfl⟩
  · rcases spools.block with ⟨-, empty⟩ | holds
    · exact absurd empty nothing
    · rcases holds.unsaved with ⟨-, empty⟩ | unsaved
      · exact absurd empty nothing
      · have some_bytes : ¬ 0 = file.cursor := by
          rw [holds.cursor]
          exact fun none => nothing (List.eq_nil_of_length_eq_zero none.symm)
        have data : (file.passed.bytes.drop 0).take (file.cursor - 0) = waiting := by
          rw [holds.passed, holds.cursor, List.drop_zero, Nat.sub_zero, List.take_length]
        have unmoved : ({ file with unsaved := none } : OpenFile).moveBack
            ((file.anchor : Int) - (0 : Nat)) = { file with unsaved := none } := by
          simp only [moveBack, holds.anchor, Int.sub_self, Int.sub_zero, Int.toNat_natCast]
        have same : file.settle disk = ({ file with
            unsaved := none, position := (stored ++ waiting).length, anchor := file.cursor },
            base.store location (stored ++ waiting)) := by
          simp only [OpenFile.settle, unsaved, if_neg some_bytes, data, unmoved,
            settled.putOnDisk waiting]
        exact ⟨_, _, same, ⟨spools.place, spools.mode, spools.opened, spools.unfilled, rfl, rfl,
          .inl ⟨rfl, rfl⟩⟩, rfl⟩

theorem Spools.hold (spools : Spools base location stored waiting file disk)
    (holds : file.Holds waiting) (data : Bytes) :
    Spools base location stored (waiting ++ data) (file.hold data) disk :=
  { spools with block := .inr (holds.hold data) }

/-- A block in which nothing waits may be begun anew. -/
theorem Spools.begin (spools : Spools base location stored [] file disk)
    (saved : file.unsaved = none) :
    Spools base location stored [] { file.dropBlock with anchor := 0 } disk ∧
      ({ file.dropBlock with anchor := 0 } : OpenFile).Holds [] :=
  have holds : ({ file.dropBlock with anchor := 0 } : OpenFile).Holds [] :=
    ⟨rfl, Collected.bytes_empty, .inl ⟨saved, rfl⟩⟩
  ⟨⟨spools.place, spools.mode, spools.opened, rfl, spools.position, spools.disk, .inr holds⟩, holds⟩

/-- Bytes that do not fit the block are stored or begin a new one. -/
theorem Spools.writeOn (spools : Spools base location stored waiting file disk) (data : Bytes) :
    ∃ after disk' stored' waiting', file.writeOn data disk = (after, disk') ∧
      stored' ++ waiting' = stored ++ waiting ++ data ∧
      Spools base location stored' waiting' after disk' := by
  rcases spools.settle with ⟨settled, disk', settles, spools', saved⟩
  have unmoved : settled.moveBack settled.lead = settled := by
    have lead : settled.lead = 0 := by
      rw [OpenFile.lead, spools'.unfilled, saved]
      rfl
    simp only [moveBack, lead, Int.sub_zero, Int.toNat_natCast]
  rcases spools'.begin saved with ⟨begun, holds⟩
  simp only [OpenFile.writeOn, settles, unmoved]
  -- What exceeds a block goes to the disk, and a new block begins with nothing.
  by_cases large : data.length > blockSize
  · rw [if_pos large, begun.putOnDisk]
    refine ⟨_, _, stored ++ waiting ++ data, [], rfl, List.append_nil _, ?_⟩
    have put : Spools base location (stored ++ waiting ++ data) []
        { ({ settled.dropBlock with anchor := 0 } : OpenFile) with
          position := (stored ++ waiting ++ data).length }
        (base.store location (stored ++ waiting ++ data)) :=
      ⟨begun.place, begun.mode, begun.opened, rfl, rfl, rfl, .inl ⟨saved, rfl⟩⟩
    exact put.hold ⟨holds.anchor, holds.passed, holds.unsaved⟩ []
  · rw [if_neg large]
    exact ⟨_, _, stored ++ waiting, [] ++ data, rfl, rfl, begun.hold holds data⟩

/-- A write takes all it is offered. -/
theorem Spools.write (spools : Spools base location stored waiting file disk) (lent : Lent) :
    ∃ after disk' stored' waiting',
      write lent (file, disk) = (.moved lent.bytes.length, after, disk') ∧
      stored' ++ waiting' = stored ++ waiting ++ lent.bytes ∧
      Spools base location stored' waiting' after disk' := by
  have writable : (!file.mode.writable) = false := by
    rw [spools.mode]
    rfl
  have begun : ∃ begun : OpenFile,
      (if file.filled || file.unsaved.isSome then file else { file.dropBlock with anchor := 0 }) =
        begun ∧ Spools base location stored waiting begun disk ∧ begun.Holds waiting := by
    rw [spools.unfilled, Bool.false_or]
    cases saved : file.unsaved with
    | none =>
      have nothing : waiting = [] := by
        rcases spools.block with ⟨-, empty⟩ | holds
        · exact empty
        · rcases holds.unsaved with ⟨-, empty⟩ | unsaved
          · exact empty
          · cases saved.symm.trans unsaved
      subst nothing
      exact ⟨_, rfl, spools.begin saved⟩
    | some ends =>
      refine ⟨file, rfl, spools, ?_⟩
      rcases spools.block with ⟨none, -⟩ | holds
      · cases saved.symm.trans none
      · exact holds
  rcases begun with ⟨begun, begins, spools', holds⟩
  simp only [OpenFile.write, if_neg spools.not_closed, writable, Bool.false_eq_true, if_false,
    begins]
  by_cases fits : lent.bytes.length ≤ blockSize - begun.cursor ∧ lent.bytes.length < blockSize
  · rw [if_pos fits]
    exact ⟨_, _, stored, waiting ++ lent.bytes, rfl, (List.append_assoc _ _ _).symm,
      spools'.hold holds lent.bytes⟩
  · rw [if_neg fits]
    rcases spools'.writeOn lent.bytes with ⟨after, disk', stored', waiting', written, all, spools''⟩
    rw [written]
    exact ⟨after, disk', stored', waiting', rfl, all, spools''⟩

/-- A flush stores what waits. -/
theorem Spools.flush (spools : Spools base location stored waiting file disk) :
    ∃ after disk', flush (file, disk) = (none, after, disk') ∧
      Spools base location (stored ++ waiting) [] after disk' := by
  rcases spools.settle with ⟨after, disk', settles, settled, -⟩
  refine ⟨after, disk', ?_, settled⟩
  simp only [OpenFile.flush, if_neg spools.not_closed, rewind, settles, spools.mode, settled.mode]
  rfl

/-- In the end everything is on the disk. -/
theorem Spools.close (spools : Spools base location stored waiting file disk) :
    ∃ after, close (file, disk) = (none, after, base.store location (stored ++ waiting)) := by
  rcases spools.settle with ⟨after, disk', settles, settled, -⟩
  refine ⟨{ after with closes := after.closes + 1 }, ?_⟩
  simp only [OpenFile.close, settles, settled.disk]

end

end OpenFile

namespace Host

/-- The file under a handle has been opened for writing at a location of a disk
and has taken these bytes, some of which may still wait in it. -/
structure Spooling (base : Disk) (location : Location) (inner : Handle) (taken : Bytes)
    (host : Host) : Prop where
  file : ∃ file stored waiting, host.devices[inner]? = some (.openFile file) ∧
    stored ++ waiting = taken ∧ file.Spools base location stored waiting host.disk

section

variable {base : Disk} {location : Location} {inner : Handle} {taken : Bytes} {host : Host}

theorem Spooling.has (spooling : Spooling base location inner taken host) :
    host.Has (.device inner) := by
  rcases spooling.file with ⟨_, _, _, found, -⟩
  exact has_of_found found

/-- Nothing matters but the file and the disk. -/
theorem Spooling.retained {other : Host} (spooling : Spooling base location inner taken host)
    (same : other.devices[inner]? = host.devices[inner]?) (disk : other.disk = host.disk) :
    Spooling base location inner taken other := by
  rcases spooling.file with ⟨file, stored, waiting, found, all, spools⟩
  exact ⟨file, stored, waiting, same.trans found, all, disk ▸ spools⟩

/-- What is done to the file and to the disk changes nothing else. -/
theorem Spooling.changed {file : OpenFile} {stored waiting : Bytes} {disk : Disk}
    (there : host.Has (.device inner)) (all : stored ++ waiting = taken)
    (spools : file.Spools base location stored waiting disk) :
    Spooling base location inner taken
      ({ host with disk := disk }.setDevice inner (.openFile file)) :=
  ⟨file, stored, waiting, @found_setDevice { host with disk := disk } inner there _, all, spools⟩

/-- The file takes whatever is offered. -/
theorem Spooling.offer (spooling : Spooling base location inner taken host) (lent : Lent) :
    ∃ disk device, let after := { host with disk := disk }.setDevice inner device
      (host.stream inner).asFile.unplugged.offer .blocking lent host =
        (.moved lent.bytes.length, after) ∧
      Spooling base location inner (taken ++ lent.bytes) after := by
  have there := spooling.has
  rcases spooling.file with ⟨file, stored, waiting, found, rfl, spools⟩
  rcases spools.write lent with ⟨after, disk, stored', waiting', wrote, all, spools'⟩
  refine ⟨disk, .openFile after, ?_, changed there all spools'⟩
  rw [asFile_openFile found]
  show (filePlace inner file).run (OpenFile.write lent) host = _
  simp only [Stream.Place.run, filePlace, found, wrote]

/-- Flushing writes nothing and loses nothing. -/
theorem Spooling.flush (spooling : Spooling base location inner taken host) :
    ∃ flush disk device, let after := { host with disk := disk }.setDevice inner device
      (host.stream inner).asFile.flush = some flush ∧ flush host = (none, after) ∧
      Spooling base location inner taken after := by
  have there := spooling.has
  rcases spooling.file with ⟨file, stored, waiting, found, rfl, spools⟩
  rcases spools.flush with ⟨after, disk, flushed, spools'⟩
  refine ⟨(filePlace inner file).run OpenFile.flush, disk, .openFile after, ?_, ?_,
    changed there (List.append_nil _) spools'⟩
  · rw [asFile_openFile found]
    rfl
  · simp only [Stream.Place.run, filePlace, found, flushed]

/-- Closing brings everything to the disk. -/
theorem Spooling.close (spooling : Spooling base location inner taken host) :
    ∃ close device, (host.stream inner).asFile.close = some close ∧
      close host =
        (none, { host with disk := base.store location taken }.setDevice inner device) := by
  rcases spooling.file with ⟨file, stored, waiting, found, rfl, spools⟩
  rcases spools.close with ⟨after, closed⟩
  refine ⟨(filePlace inner file).run OpenFile.close, .openFile after, ?_, ?_⟩
  · rw [asFile_openFile found]
    rfl
  · simp only [Stream.Place.run, filePlace, found, closed]

end

end Host

/-! ## The sink of the command -/

namespace Command

/-- What the file behind the sink has taken: the standard output, which is not
at a location, or a file that has been opened.  The standard output is there
in any case. -/
inductive Collects (base : Disk) (inner : Handle) (host : Host) :
    Option Location -> (taken : Bytes) -> Prop where
  | standard {taken : Bytes} : inner = stdout ->
      host.devices[stdout]? = some (.memoryFile ⟨taken, taken.length, false⟩) ->
      host.disk = base -> Collects base inner host none taken
  | file {file : OpenFile} {location : Location} {stored waiting taken : Bytes} :
      stored ++ waiting = taken -> host.devices[inner]? = some (.openFile file) ->
      file.Spools base location stored waiting host.disk ->
      host.devices[stdout]? = some (.memoryFile (.ofBytes [])) ->
      Collects base inner host (some location) taken

section

variable {base : Disk} {sink inner : Handle} {host : Host} {location : Option Location}
  {taken : Bytes}

theorem Collects.exists_standard (collects : Collects base inner host location taken) :
    ∃ file, host.devices[stdout]? = some (.memoryFile file) := by
  cases collects with
  | standard _ found _ => exact ⟨_, found⟩
  | file _ _ _ found => exact ⟨_, found⟩

/-- Another device may be replaced. -/
theorem Collects.setDevice (collects : Collects base inner host location taken)
    (behind : sink ≠ inner) (apart : sink ≠ stdout) (device : Device) :
    Collects base inner (host.setDevice sink device) location taken := by
  cases collects with
  | standard standard found disk =>
    exact .standard standard ((Host.found_setDevice_of_ne apart device).trans found) disk
  | file all found spools standard =>
    exact .file all ((Host.found_setDevice_of_ne behind device).trans found) spools
      ((Host.found_setDevice_of_ne apart device).trans standard)

/-- An operation of the file behind the sink, which leaves the other devices
alone. -/
structure Changes (host : Host) (inner : Handle) (base : Disk) (location : Option Location)
    (taken : Bytes) (after : Host) : Prop where
  collects : Collects base inner after location taken
  others : ∀ other, other ≠ inner -> after.devices[other]? = host.devices[other]?

/-- A file that has been opened is behind the sink, and nothing is written to the
standard output. -/
theorem Collects.of_spooling {location : Location}
    (spooling : Host.Spooling base location inner taken host)
    (standard : host.devices[stdout]? = some (.memoryFile (.ofBytes []))) :
    Collects base inner host (some location) taken := by
  rcases spooling.file with ⟨file, stored, waiting, found, all, spools⟩
  exact .file all found spools standard

/-- What is done to an open file and the disk changes nothing else. -/
theorem changes_file {location : Location} {disk : Disk} {device : Device} {other : OpenFile}
    (found : host.devices[inner]? = some (.openFile other))
    (standard : host.devices[stdout]? = some (.memoryFile (.ofBytes [])))
    (spooling : Host.Spooling base location inner taken
      ({ host with disk := disk }.setDevice inner device)) :
    Changes host inner base (some location) taken
      ({ host with disk := disk }.setDevice inner device) := by
  have apart : inner ≠ stdout := by
    rintro rfl
    cases found.symm.trans standard
  refine ⟨.of_spooling spooling ?_,
    fun other different => Host.found_setDevice_of_ne (Ne.symm different) _⟩
  exact (Host.found_setDevice_of_ne apart _).trans standard

theorem Collects.offer (collects : Collects base inner host location taken) (lent : Lent) :
    ∃ after, (host.stream inner).asFile.unplugged.offer .blocking lent host =
        (.moved lent.bytes.length, after) ∧
      Changes host inner base location (taken ++ lent.bytes) after := by
  cases collects with
  | standard standard found disk =>
    subst standard
    have wrote : MemoryFile.write lent ⟨taken, taken.length, false⟩ =
        (.moved lent.bytes.length,
          ⟨taken ++ lent.bytes, (taken ++ lent.bytes).length, false⟩) := by
      cases bytes : lent.bytes with
      | nil =>
        simp only [MemoryFile.write, bytes, List.append_nil]
        rfl
      | cons byte rest =>
        simp only [MemoryFile.write, bytes, Bytes.overAt_length, List.length_append]
        rfl
    refine ⟨host.setDevice stdout (.memoryFile
      ⟨taken ++ lent.bytes, (taken ++ lent.bytes).length, false⟩), ?_, ?_, ?_⟩
    · rw [Host.asFile_memoryFile found]
      show (Host.memoryPlace stdout _).run (MemoryFile.write lent) host = _
      simp only [Stream.Place.run, Host.memoryPlace, found, wrote]
    · exact .standard rfl (Host.found_setDevice (Host.has_of_found found) _) disk
    · exact fun other different => Host.found_setDevice_of_ne (Ne.symm different) _
  | @file file location stored waiting _ all found spools standard =>
    have spooling : Host.Spooling base location inner taken host :=
      ⟨file, stored, waiting, found, all, spools⟩
    rcases spooling.offer lent with ⟨disk, device, offered, spoolingAfter⟩
    exact ⟨_, offered, changes_file found standard spoolingAfter⟩

/-- Flushing writes nothing and loses nothing. -/
theorem Collects.flush (collects : Collects base inner host location taken) :
    ∃ flush after, (host.stream inner).asFile.flush = some flush ∧ flush host = (none, after) ∧
      Changes host inner base location taken after := by
  cases collects with
  | standard standard found disk =>
    subst standard
    refine ⟨(Host.memoryPlace stdout ⟨taken, taken.length, false⟩).run MemoryFile.flush,
      host.setDevice stdout (.memoryFile ⟨taken, taken.length, false⟩), ?_, ?_, ?_, ?_⟩
    · rw [Host.asFile_memoryFile found]
      rfl
    · simp only [Stream.Place.run, Host.memoryPlace, found]
      rfl
    · exact .standard rfl (Host.found_setDevice (Host.has_of_found found) _) disk
    · exact fun other different => Host.found_setDevice_of_ne (Ne.symm different) _
  | @file file location stored waiting _ all found spools standard =>
    have spooling : Host.Spooling base location inner taken host :=
      ⟨file, stored, waiting, found, all, spools⟩
    rcases spooling.flush with ⟨flush, disk, device, flushes, flushed, spoolingAfter⟩
    exact ⟨flush, _, flushes, flushed, changes_file found standard spoolingAfter⟩

/-- Everything that was written is where it belongs. -/
def Delivered (base : Disk) (taken : Bytes) (host : Host) : Option Location -> Prop
  | none => written host = taken ∧ host.disk = base
  | some location => written host = [] ∧ host.disk = base.store location taken

theorem Delivered.setDevice (delivered : Delivered base taken host location)
    (apart : sink ≠ stdout) (device : Device) :
    Delivered base taken (host.setDevice sink device) location := by
  have same : written (host.setDevice sink device) = written host := by
    rw [written, written, Host.found_setDevice_of_ne apart]
  cases location with
  | none => exact ⟨same.trans delivered.1, delivered.2⟩
  | some location => exact ⟨same.trans delivered.1, delivered.2⟩

/-- The standard output holds what it is to hold at any time. -/
theorem Collects.delivered (collects : Collects base inner host none taken) :
    Delivered base taken host none := by
  cases collects with
  | standard _ found disk =>
    refine ⟨?_, disk⟩
    rw [written, found]

/-- A file that is closed leaves everything on the disk. -/
theorem Collects.close {location : Location}
    (collects : Collects base inner host (some location) taken) :
    ∃ close after, (host.stream inner).asFile.close = some close ∧ close host = (none, after) ∧
      Delivered base taken after (some location) := by
  cases collects with
  | @file file location stored waiting _ all found spools standard =>
    have spooling : Host.Spooling base location inner taken host :=
      ⟨file, stored, waiting, found, all, spools⟩
    rcases spooling.close with ⟨close, device, closes, closed⟩
    have apart : inner ≠ stdout := by
      rintro rfl
      cases found.symm.trans standard
    refine ⟨close, _, closes, closed, ?_, rfl⟩
    rw [written, Host.found_setDevice_of_ne apart]
    simp only [standard]
    rfl

/-- The stream of the sink stands before a file that has taken these bytes.  It
closes the file if there is one at a location. -/
structure Sinks (base : Disk) (sink inner : Handle) (location : Option Location) (taken : Bytes)
    (host : Host) : Prop where
  stands : ∃ file, host.devices[sink]? = some (.localFile .blocking inner file) ∧
    file.forgotten = false ∧ file.owned = location.isSome
  smaller : inner < sink
  collects : Collects base inner host location taken

theorem Sinks.ne_stdout (sinks : Sinks base sink inner location taken host) : sink ≠ stdout := by
  rintro rfl
  rcases sinks.stands with ⟨_, found, -⟩
  rcases sinks.collects.exists_standard with ⟨_, standard⟩
  cases found.symm.trans standard

/-- After the file behind it, the stream of the sink is put back. -/
theorem Sinks.after {later : Bytes} {after : Host} {file : LocalFile}
    (sinks : Sinks base sink inner location taken host)
    (changes : Changes host inner base location later after) (remembered : file.forgotten = false)
    (owned : file.owned = location.isSome) :
    Sinks base sink inner location later
      (after.setDevice sink (.localFile .blocking inner file)) := by
  have behind : sink ≠ inner := Nat.ne_of_gt sinks.smaller
  rcases sinks.stands with ⟨_, found, -⟩
  have there : after.devices[sink]? = host.devices[sink]? := changes.others sink behind
  exact ⟨⟨file, Host.found_setDevice (Host.has_of_found (there.trans found)) _, remembered, owned⟩,
    sinks.smaller, changes.collects.setDevice behind sinks.ne_stdout _⟩

/-- The sink takes whatever is offered. -/
theorem Sinks.offer (sinks : Sinks base sink inner location taken host) (lent : Lent) :
    ∃ after, (host.stream sink).offer .blocking lent host = (.moved lent.bytes.length, after) ∧
      Sinks base sink inner location (taken ++ lent.bytes) after := by
  rcases sinks.stands with ⟨file, found, remembered, owned⟩
  rcases sinks.collects.offer lent with ⟨after, offered, changes⟩
  have wrote := Host.offer_localFile found sinks.smaller remembered .blocking lent
  rw [offered] at wrote
  exact ⟨_, wrote, sinks.after changes remembered owned⟩

theorem Sinks.flush (sinks : Sinks base sink inner location taken host) :
    ∃ after, host.flush sink = (.ok (), after) ∧ Sinks base sink inner location taken after := by
  rcases sinks.stands with ⟨file, found, remembered, owned⟩
  rcases sinks.collects.flush with ⟨flush, after, flushes, flushed, changes⟩
  exact ⟨_, Host.flush_localFile found sinks.smaller remembered flushes flushed,
    sinks.after changes remembered owned⟩

/-- When the sink has been closed, everything is where it belongs. -/
theorem Sinks.close (sinks : Sinks base sink inner location taken host) :
    ∃ after, host.close sink = (.ok (), after) ∧ Delivered base taken after location := by
  rcases sinks.stands with ⟨file, found, remembered, owned⟩
  cases location with
  | none =>
    exact ⟨_, Host.close_localFile_of_not_owned found sinks.smaller owned,
      sinks.collects.delivered.setDevice sinks.ne_stdout _⟩
  | some location =>
    rcases sinks.collects.close with ⟨close, after, closes, closed, delivered⟩
    exact ⟨_, Host.close_localFile found sinks.smaller remembered owned closes closed,
      delivered.setDevice sinks.ne_stdout _⟩

end

/-! ## Opening the sink -/

/-- Where on a disk the sink is, if it is not the standard output. -/
inductive Lands (disk : Disk) : (output : Option String) -> Option Location -> Prop where
  | standard : Lands disk none none
  | file {path : String} {location : Location} {emptied : Disk} :
      disk.openPath (Path.normalize path) ⟨.writing, false, false⟩ = .ok (location, emptied) ->
      Lands disk (some path) (some location)

/-- A sink that can be opened has taken nothing yet. -/
theorem Lands.opens {host : Host} {output : Option String} {location : Option Location}
    (lands : Lands host.disk output location)
    (clean : ∀ path, output = some path -> path.toList.contains '\x00' = false)
    (standard : host.devices[stdout]? = some (.memoryFile (.ofBytes []))) :
    ∃ sink inner after, openSink output host = (.ok sink, after) ∧
      Sinks host.disk sink inner location [] after := by
  have there := Host.has_of_found standard
  cases lands with
  | standard =>
    have opens : openSink none host =
        (.ok host.devices.size, (host.add (.localFile .blocking stdout (.fresh false))).2) := by
      simp only [openSink, Host.openSource, Host.openLocal, Host.isFile_memoryFile standard, if_true,
        Host.add]
    exact ⟨_, stdout, _, opens, ⟨_, host.found_add _, rfl, rfl⟩, there,
      .standard rfl ((Host.found_add_of_has there _).trans standard) rfl⟩
  | @file path location emptied opened =>
    have mode : Mode.parse Mode.sink = .ok ⟨.writing, false, false⟩ := by rfl
    cases (Disk.openPath_writing opened).1
    rcases Host.openLocal_text .blocking mode rfl (Path.no_null_normalize (clean path rfl)) opened
      with ⟨sink, inner, after, opens, isOpen⟩
    have opensSink : openSink (some path) host = (.ok sink, after) := by
      rw [← opens]
      simp only [openSink, Host.openSource, Path.isAddress_normalize, Bool.false_eq_true, if_false]
      rfl
    have kept : after.devices[stdout]? = host.devices[stdout]? :=
      @Host.Moves.same _ _ _ _ isOpen.moves (.device stdout) there (by rintro ⟨⟩)
    have disk : after.disk = host.disk.store location [] := isOpen.moves.disk
    have spools := OpenFile.spools_start host.disk location
    rw [← disk] at spools
    exact ⟨sink, inner, after, opensSink, ⟨_, isOpen.stands, rfl, rfl⟩, isOpen.smaller,
      .file rfl isOpen.file spools (kept.trans standard)⟩

end Command

end ResumableStreams
