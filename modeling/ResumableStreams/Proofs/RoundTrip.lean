import ResumableStreams.Proofs.Copying
import ResumableStreams.Proofs.Following

namespace ResumableStreams

/-!
# What is written can be read back

Writing everything to a path leaves a file with exactly these bytes there,
whatever the file held before, and the rest of the disk as it was.  Reading
the path gives what the file holds, in pieces that the capacity decides, and
leaves the disk alone.  So what has been written is read, to the end or up to
any length, for either runtime and as often as one likes.

The one thing that a capacity can do is to be too large.  A buffer of that
length cannot be allocated, and the machine is refused before anything is read.
-/

/-! ## Paths as sources -/

/-- The text under which a source is opened as a path, if it is one. -/
def Source.pathText : Source -> Option String
  | .text name => if isAddress name then none else some name
  | .path name => some (Path.normalize name)
  | .stream _ => none

theorem Host.openSource_of_pathText {source : Source} {path : String}
    (named : source.pathText = some path) (host : Host) (concurrency : Concurrency)
    (mode : String) :
    host.openSource concurrency source mode = host.openLocal concurrency (.text path) mode := by
  cases source with
  | text name =>
    simp only [Source.pathText] at named
    split at named
    · cases named
    · rename_i noAddress
      cases named
      simp only [openSource, if_neg noAddress]
  | path name =>
    cases named
    simp only [openSource, Path.isAddress_normalize, Bool.false_eq_true, if_false]
    rfl
  | stream handle => cases named

/-! ## Machines that read -/

/-- The first so many bytes, or the error that there are too few. -/
def Bytes.initial (size : Nat) (bytes : Bytes) : Except Fault Bytes :=
  if size ≤ bytes.length then .ok (bytes.take size) else .error (Offering.shortage size bytes)

/-- A machine that is built in this way, with a buffer of the given length, comes
to the result on any stream that gives the content. -/
def Gathers {Machine : Type} [Resumable Machine Bytes] (build : Memory -> Construction Machine)
    (length : Nat) (content : Bytes) (result : Except Fault Bytes) : Prop :=
  ∀ memory : Memory, (build memory).Gives length memory.room fun machine after =>
    ∀ {State : Type} {stream : Stream State} {concurrency : Concurrency}
      (supply : stream.Supply concurrency) (journal : Array Event) (state : State) (limit : Nat),
      supply.Ready state -> supply.rest state = content -> content.length + 1 < limit ->
      let run := drive concurrency stream limit machine ⟨after, journal, state⟩
      run.ending.outcome = result ∧ supply.Ready run.context.state

theorem ReadToEnd.gathers {capacity : Nat} (positive : 0 < capacity) (content : Bytes) :
    Gathers (make capacity) capacity content (.ok content) := by
  intro memory
  refine (make_gives positive memory).imp ?_
  rintro _ _ ⟨rfl, rfl⟩ State stream concurrency supply journal state limit source holds enough run
  have drained : Drained supply (supply.rest state) run :=
    @Ready.drained _ _ _ supply limit _ ⟨(create capacity memory).2, journal, state⟩ []
      (ready_create positive memory) source (holds ▸ enough)
  refine ⟨?_, drained.source⟩
  rw [drained.ending, holds]
  rfl

theorem ReadExact.outcome_shortage (target : Nat) (gathered : Bytes) :
    (shortage (target - gathered.length) target gathered).outcome =
      .error (Offering.shortage target gathered) := by
  unfold shortage Offering.shortage
  by_cases writable : Text.Writable target
  · rw [if_pos writable, if_pos writable]
    rfl
  · rw [if_neg writable, if_neg writable]
    rfl

theorem ReadExact.gathers (size : Nat) {capacity : Nat} (positive : 0 < capacity)
    (content : Bytes) :
    Gathers (make size capacity) (min capacity size) content (content.initial size) := by
  intro memory
  refine (make_gives size positive memory).imp ?_
  rintro _ _ ⟨rfl, rfl⟩ State stream concurrency supply journal state limit source holds enough run
  have settled : Settled supply (create size capacity memory).1 (supply.rest state) run :=
    @Ready.settled _ _ _ supply limit _ ⟨(create size capacity memory).2, journal, state⟩ []
      (ready_create size positive memory) source
      (Nat.lt_of_le_of_lt (Nat.min_le_right _ _) (holds ▸ enough))
  have target : outcome (create size capacity memory).1.target
      (create size capacity memory).1.collected.bytes content = outcome size [] content := rfl
  refine ⟨?_, settled.source⟩
  rw [settled.ending, holds, target, outcome, Bytes.initial, List.length_nil, Nat.zero_add]
  by_cases there : size ≤ content.length
  · rw [if_pos there, if_pos there]
    rfl
  · rw [if_neg there, if_neg there]
    exact outcome_shortage size content

/-! ## Reading a file -/

namespace Host

section

variable {host first : Host} {disk : Disk} {concurrency : Concurrency} {handle inner : Handle}

/-- What is still to be read of the open file under a handle. -/
def coming (host : Host) (inner : Handle) : Bytes :=
  match host.devices[inner]? with
  | some (.openFile file) => file.coming host.disk
  | _ => []

theorem Stores.coming_eq {content : Bytes} (stores : host.Stores inner .disk content) :
    host.coming inner = content := by
  cases stores with
  | disk found reads => simp only [coming, found]

/-- A local stream stands before a file of its own, of which it reads what is on
the disk. -/
structure Consults (disk : Disk) (concurrency : Concurrency) (handle inner : Handle)
    (host : Host) : Prop where
  stands : ∃ file, host.devices[handle]? = some (.localFile concurrency inner file) ∧
    file.forgotten = false ∧ file.owned = true
  smaller : inner < handle
  stores : host.Stores inner .disk (host.coming inner)
  disk : host.disk = disk

/-- A file that can be read is opened at its start. -/
theorem consults_openLocal {path : String} {location : Location} {after : Disk}
    (clean : path.toList.contains '\x00' = false)
    (opened : host.disk.openPath path ⟨.reading, false, false⟩ = .ok (location, after))
    (concurrency : Concurrency) :
    ∃ handle inner opening,
      host.openLocal concurrency (.text path) Mode.source = (.ok handle, opening) ∧
      Consults host.disk concurrency handle inner opening ∧
      opening.coming inner = host.disk.contents location := by
  have mode : Mode.parse Mode.source = .ok ⟨.reading, false, false⟩ := by rfl
  cases Disk.openPath_reading opened
  rcases openLocal_text concurrency mode rfl clean opened with ⟨handle, inner, after, opens, isOpen⟩
  have disk : after.disk = host.disk := isOpen.moves.disk
  rcases OpenFile.reads_start location host.disk with ⟨reads, coming⟩
  have stores : after.Stores inner .disk _ := .disk isOpen.file reads
  rw [disk, coming] at stores
  exact ⟨handle, inner, after, opens,
    ⟨⟨_, isOpen.stands, rfl, rfl⟩, isOpen.smaller, stores.coming_eq.symm ▸ stores, disk⟩,
    stores.coming_eq⟩

/-- A local stream gives what its file holds. -/
def localSupply (consults : Consults disk concurrency handle inner first) (asked : Concurrency) :
    (first.stream handle).Supply asked where
  Ready := Consults disk concurrency handle inner
  rest host := host.coming inner
  fill := by
    intro contents host ready room
    rcases consults.stands with ⟨_, made, -⟩
    rcases ready.stands with ⟨file, found, remembered, owned⟩
    rcases consults.stores.fill ready.stores room with ⟨device, filled, storesAfter⟩
    have reads := fill_localFile made ready.smaller found remembered asked ⟨contents, true⟩
    rw [filled] at reads
    rcases storesAfter.moves_before (has_of_found found) ready.smaller ready.stores.has with
      ⟨moves, here, there⟩
    rw [reads]
    have left := there.coming_eq
    refine ⟨⟨⟨_, here, remembered, owned⟩, ready.smaller, ?_, moves.disk.trans ready.disk⟩,
      min contents.length (host.coming inner).length, ?_, ?_⟩
    · exact left.symm ▸ there
    · exact Filling.delivers_put (List.length_pos_iff.mpr room) (Nat.le_refl _)
    · rw [← List.drop_eq_drop_min]
      exact left

/-- Closing a file that was read leaves the disk alone. -/
theorem Consults.close (consults : Consults disk concurrency handle inner host) :
    ∃ after, host.close handle = (.ok (), after) ∧ after.disk = disk := by
  rcases consults.stands with ⟨file, found, remembered, owned⟩
  rcases consults.stores.close with ⟨close, device, closes, closed⟩
  exact ⟨_, close_localFile found consults.smaller remembered owned closes closed, consults.disk⟩

end

end Host

/-- A path that leads to a file is read by any machine to the result that its
contents give. -/
theorem Action.reads_file {Machine : Type} [Resumable Machine Bytes]
    {build : Memory -> Construction Machine} {length : Nat} {result : Except Fault Bytes}
    {context : Context Host} {source : Source} {path : String} {location : Location} {disk : Disk}
    {limit : Nat} (gathers : Gathers build length (context.state.disk.contents location) result)
    (named : source.pathText = some path) (clean : path.toList.contains '\x00' = false)
    (opened : context.state.disk.openPath path ⟨.reading, false, false⟩ = .ok (location, disk))
    (enough : (context.state.disk.contents location).length + 1 < limit)
    (concurrency : Concurrency) :
    ∃ final, outcomeOf (withSource concurrency source Mode.source (fun handle => do
        let machine <- construct build
        driveToValue concurrency limit machine handle) context) =
          (checkLength length context.memory.room >>= fun _ => result, final) ∧
      final.state.disk = context.state.disk := by
  rcases Host.consults_openLocal clean opened concurrency with
    ⟨handle, inner, opening, opens, consults, coming⟩
  rw [← Host.openSource_of_pathText named] at opens
  rw [withSource_of_opened opens]
  let use : Action Bytes := do
    let machine <- construct build
    driveToValue concurrency limit machine handle
  have used : ∃ reached, outcomeOf (use { context with state := opening }) =
        (checkLength length context.memory.room >>= fun _ => result, reached) ∧
      Host.Consults context.state.disk concurrency handle inner reached.state := by
    cases checked : checkLength length context.memory.room with
    | error fault =>
      simp only [use, bind, EStateM.bind, construct, (gathers context.memory).refused checked]
      exact ⟨_, rfl, consults⟩
    | ok _ =>
      rcases (gathers context.memory).exists_of_allowed checked with ⟨machine, built, drives⟩
      simp only [use, bind, EStateM.bind, construct, built]
      rw [outcomeOf_driveToValue]
      have driven := drives (Host.localSupply consults concurrency)
        (context.note (build context.memory).events).journal opening limit consults coming enough
      exact ⟨_, Prod.ext driven.1 rfl, driven.2⟩
  rcases used with ⟨reached, used, consults'⟩
  rcases consults'.close with ⟨closed, closes, disk⟩
  exact ⟨_, outcomeOf_thenAlways used closes, disk⟩

/-! ## Writing a file -/

theorem Action.driveToValue_of_finished {Machine Value : Type} [Resumable Machine Value]
    {concurrency : Concurrency} {limit : Nat} {machine : Machine} {handle : Handle}
    {context : Context Host} {value : Value}
    (finished : (drive concurrency (context.state.stream handle) limit machine context).ending =
      .finished value) :
    driveToValue concurrency limit machine handle context =
      .ok value (drive concurrency (context.state.stream handle) limit machine context).context := by
  simp only [driveToValue, finished]
  rfl

namespace Host

section

variable {base : Disk} {location : Location} {concurrency : Concurrency} {handle inner : Handle}
  {taken : Bytes} {host : Host}

/-- A local stream stands before a file of its own, which has taken these
bytes. -/
structure Records (base : Disk) (location : Location) (concurrency : Concurrency)
    (handle inner : Handle) (taken : Bytes) (host : Host) : Prop where
  stands : ∃ file, host.devices[handle]? = some (.localFile concurrency inner file) ∧
    file.forgotten = false ∧ file.owned = true
  smaller : inner < handle
  spooling : Spooling base location inner taken host

/-- A file that can be written is opened empty. -/
theorem records_openLocal {path : String} {emptied : Disk}
    (clean : path.toList.contains '\x00' = false)
    (opened : host.disk.openPath path ⟨.writing, false, false⟩ = .ok (location, emptied))
    (concurrency : Concurrency) :
    ∃ handle inner opening,
      host.openLocal concurrency (.text path) Mode.sink = (.ok handle, opening) ∧
      Records host.disk location concurrency handle inner [] opening := by
  have mode : Mode.parse Mode.sink = .ok ⟨.writing, false, false⟩ := by rfl
  cases (Disk.openPath_writing opened).1
  rcases openLocal_text concurrency mode rfl clean opened with ⟨handle, inner, after, opens, isOpen⟩
  have disk : after.disk = host.disk.store location [] := isOpen.moves.disk
  have spools := OpenFile.spools_start host.disk location
  rw [← disk] at spools
  exact ⟨handle, inner, after, opens,
    ⟨_, isOpen.stands, rfl, rfl⟩, isOpen.smaller, ⟨_, [], [], isOpen.file, rfl, spools⟩⟩

/-- After the file behind it, the local stream is put back. -/
theorem Records.after {later : Bytes} {disk : Disk} {device : Device} {file : LocalFile}
    (records : Records base location concurrency handle inner taken host)
    (spooling : Spooling base location inner later
      ({ host with disk := disk }.setDevice inner device))
    (remembered : file.forgotten = false) (owned : file.owned = true) :
    Records base location concurrency handle inner later
      (({ host with disk := disk }.setDevice inner device).setDevice handle
        (.localFile concurrency inner file)) := by
  have behind : handle ≠ inner := Nat.ne_of_gt records.smaller
  rcases records.stands with ⟨_, found, -⟩
  have there : ({ host with disk := disk }.setDevice inner device).devices[handle]? =
      host.devices[handle]? := found_setDevice_of_ne behind.symm _
  exact ⟨⟨file, found_setDevice (has_of_found (there.trans found)) _, remembered, owned⟩,
    records.smaller, spooling.retained (found_setDevice_of_ne behind _) rfl⟩

theorem Records.offer (records : Records base location concurrency handle inner taken host)
    (asked : Concurrency) (lent : Lent) :
    ∃ after, (host.stream handle).offer asked lent host = (.moved lent.bytes.length, after) ∧
      Records base location concurrency handle inner (taken ++ lent.bytes) after := by
  rcases records.stands with ⟨file, found, remembered, owned⟩
  rcases records.spooling.offer lent with ⟨disk, device, offered, spooling⟩
  have wrote := offer_localFile found records.smaller remembered asked lent
  rw [offered] at wrote
  exact ⟨_, wrote, records.after spooling remembered owned⟩

theorem Records.flush (records : Records base location concurrency handle inner taken host) :
    ∃ after, host.flush handle = (.ok (), after) ∧
      Records base location concurrency handle inner taken after := by
  rcases records.stands with ⟨file, found, remembered, owned⟩
  rcases records.spooling.flush with ⟨flush, disk, device, flushes, flushed, spooling⟩
  exact ⟨_, flush_localFile found records.smaller remembered flushes flushed,
    records.after spooling remembered owned⟩

/-- Everything is written to a file that has taken nothing yet. -/
theorem Records.driveToValue {context : Context Host}
    (records : Records base location concurrency handle inner [] context.state) (data : Bytes)
    {limit : Nat} (enough : 2 ≤ limit) (memory : Memory) :
    ∃ after, Action.driveToValue concurrency limit (WriteAll.make (.frozen data) memory).1 handle
        context = .ok data.length after ∧
      Records base location concurrency handle inner data after.state := by
  rcases records.offer concurrency ⟨data, false⟩ with ⟨offered, offers, records'⟩
  rcases WriteAll.drive_taken enough offers memory with ⟨finished, left⟩
  refine ⟨_, Action.driveToValue_of_finished finished, ?_⟩
  -- No bytes are not even offered.
  rcases left with ⟨nothing, same⟩ | reached
  · subst nothing
    rw [same]
    exact records
  · rw [reached]
    exact records'

/-- Closing leaves the bytes on the disk, and the rest of the disk as it was. -/
theorem Records.close (records : Records base location concurrency handle inner taken host) :
    ∃ after, host.close handle = (.ok (), after) ∧ after.disk = base.store location taken := by
  rcases records.stands with ⟨file, found, remembered, owned⟩
  rcases records.spooling.close with ⟨close, device, closes, closed⟩
  exact ⟨_, close_localFile found records.smaller remembered owned closes closed, rfl⟩

end

end Host

theorem Action.bind_of_ok {Value Result : Type} {action : Action Value}
    {next : Value -> Action Result} {context : Context Host} (value : Value)
    (reached : Context Host) (acted : action context = .ok value reached) :
    (action >>= next) context = next value reached := by
  simp only [bind, EStateM.bind, acted]

/-- Everything is written to a path that can be opened for writing. -/
theorem writeAll_file {context : Context Host} {sink : Source} {path : String}
    {location : Location} {emptied : Disk} {limit : Nat} (named : sink.pathText = some path)
    (clean : path.toList.contains '\x00' = false)
    (opened : context.state.disk.openPath path ⟨.writing, false, false⟩ =
      .ok (location, emptied)) (data : Bytes) (enough : 2 ≤ limit) (concurrency : Concurrency) :
    ∃ final, Action.outcomeOf (writeAll concurrency limit sink (.frozen data) context) =
        (.ok data.length, final) ∧
      final.state.disk = context.state.disk.store location data := by
  rcases Host.records_openLocal clean opened concurrency with
    ⟨handle, inner, opening, opens, records⟩
  rw [← Host.openSource_of_pathText named] at opens
  rw [writeAll, Action.withSource_of_opened opens]
  let made := WriteAll.make (.frozen data) context.memory
  let before : Context Host := { context.note made.2 with state := opening }
  have recordsBefore : Host.Records context.state.disk location concurrency handle inner []
      before.state := records
  rcases recordsBefore.driveToValue data enough context.memory with ⟨after, drove, wrote⟩
  rcases wrote.flush with ⟨flushed, flushes, recordsAfter⟩
  let reached : Context Host := { after with state := flushed }
  have flushing : Action.onHost (fun host => host.flush handle) after = .ok () reached := by
    simp only [Action.onHost, flushes]
    rfl
  rcases recordsAfter.close with ⟨closed, closes, disk⟩
  have closesReached : reached.state.close handle = (.ok (), closed) := closes
  refine ⟨_, Action.outcomeOf_thenAlways ?_ closesReached, disk⟩
  have drove' : Action.driveToValue concurrency limit made.1 handle before =
      .ok data.length after := drove
  refine (congrArg Action.outcomeOf (Action.bind_of_ok made.1 before (by rfl))).trans ?_
  simp only [bind, EStateM.bind, drove', flushing]
  rfl

/-! ## Writing and reading -/

/-- What reading `size` bytes comes to where these are all and there is this much
room, through a buffer of the given length: the first so many, or the report that
there are too few.  Of a size with too many digits to be written, nothing is said
where there are too few. -/
structure ReadsFirst (data : Bytes) (size length room : Nat) (outcome : Except Fault Bytes) :
    Prop where
  refused : ∀ {fault}, checkLength length room = .error fault -> outcome = .error fault
  there : checkLength length room = .ok () -> size ≤ data.length -> outcome = .ok (data.take size)
  short : checkLength length room = .ok () -> data.length < size -> Text.Writable size ->
    outcome = .error (.reported (.unexpectedEnd (size - data.length : Nat) size (.frozen data)))

theorem readsFirst_initial (data : Bytes) (size length room : Nat) :
    ReadsFirst data size length room (checkLength length room >>= fun _ => data.initial size) where
  refused := by
    intro fault refused
    rw [refused]
    rfl
  there := by
    intro allowed there
    rw [allowed]
    exact if_pos there
  short := by
    intro allowed short writable
    rw [allowed]
    have tooFew : data.initial size = .error (Offering.shortage size data) :=
      if_neg (Nat.not_le.mpr short)
    exact tooFew.trans (congrArg _ (if_pos writable))

/-- What has been written to a path is read from it.

Whatever the file held before, writing everything gives the number of the bytes
and leaves a disk that differs from the one before in this file only, which
holds the bytes.  On any host with that disk, later on, reading the path to the
end gives all of the bytes, and reading a number of them gives the first so
many, or reports how many there were and how many were missing.  It makes no
difference whether the path is given as a text or as a path value, for which
runtime each stream is made, and how long the buffer is, unless no buffer of that
length can be allocated.  Then this is what the reader is told.  No reading
changes the disk. -/
theorem reads_back_what_was_written {context : Context Host} {sink : Source} {path : String}
    {location : Location} {emptied : Disk} (named : sink.pathText = some path)
    (clean : path.toList.contains '\x00' = false)
    (opened : context.state.disk.openPath path ⟨.writing, false, false⟩ = .ok (location, emptied))
    (data : Bytes) {limit : Nat} (enough : data.length + 1 < limit) (writing : Concurrency) :
    ∃ after,
      Action.outcomeOf (writeAll writing limit sink (.frozen data) context) =
        (.ok data.length, after) ∧
      after.state.disk = context.state.disk.store location data ∧
      ∀ (later : Context Host) (source : Source) (reading : Concurrency),
        later.state.disk = after.state.disk -> source.pathText = some path ->
        (∀ capacity : Nat, 0 < capacity -> ∃ final,
          Action.outcomeOf (readToEnd reading limit source capacity later) =
            (checkLength capacity later.memory.room >>= fun _ => .ok data, final) ∧
          final.state.disk = later.state.disk) ∧
        ∀ size capacity : Nat, 0 < capacity -> ∃ outcome final,
          Action.outcomeOf (readExact reading limit source size capacity later) =
            (outcome, final) ∧
          ReadsFirst data size (min capacity size) later.memory.room outcome ∧
          final.state.disk = later.state.disk := by
  have twice : 2 ≤ limit := Nat.le_trans (Nat.le_add_left _ _) enough
  rcases writeAll_file named clean opened data twice writing with ⟨after, wrote, disk⟩
  refine ⟨after, wrote, disk, ?_⟩
  intro later source reading same sourceNamed
  have stored : later.state.disk = context.state.disk.store location data := same.trans disk
  have reopened := Disk.openPath_written opened data
  have holds : later.state.disk.contents location = data := by
    rw [stored, Disk.contents_store_self]
  rw [← stored] at reopened
  refine ⟨fun capacity positive => ?_, fun size capacity positive => ?_⟩
  · exact Action.reads_file (holds.symm ▸ ReadToEnd.gathers positive data) sourceNamed clean
      reopened (holds.symm ▸ enough) reading
  · have gathers := ReadExact.gathers size positive data
    rw [← holds] at gathers
    rcases Action.reads_file gathers sourceNamed clean reopened (holds.symm ▸ enough) reading with
      ⟨final, read, kept⟩
    rw [holds] at read
    exact ⟨_, final, read, readsFirst_initial data size _ _, kept⟩

/-- Three bytes take the place of four that were there. -/
theorem reads_back_what_was_written_of_three :
    let disk : Disk := ⟨[(["a.bin"], [9, 9, 9, 9])], []⟩
    let context : Context Host := ⟨.empty, #[], .initial disk (.ofScript [])⟩
    let sink := Source.path "./a.bin"
    sink.pathText = some "a.bin" ∧ "a.bin".toList.contains '\x00' = false ∧
      disk.openPath "a.bin" ⟨.writing, false, false⟩ = .ok (["a.bin"], ⟨[(["a.bin"], [])], []⟩) ∧
      ∃ after final,
        Action.outcomeOf (writeAll .asynchronous 5 sink (.frozen [1, 2, 3]) context) =
          (.ok 3, after) ∧
        Action.outcomeOf
            (readExact .blocking 5 (.text "a.bin") 5 2 ⟨.empty, #[], after.state⟩) =
          (.error (.reported (.unexpectedEnd 2 5 (.frozen [1, 2, 3]))), final) := by
  intro disk context sink
  have named : sink.pathText = some "a.bin" := by rfl
  have clean : "a.bin".toList.contains '\x00' = false := by rfl
  have opened : disk.openPath "a.bin" ⟨.writing, false, false⟩ =
      .ok (["a.bin"], ⟨[(["a.bin"], [])], []⟩) := by with_unfolding_all rfl
  rcases @reads_back_what_was_written context _ _ _ _ named clean opened [1, 2, 3] 5 (by decide)
    .asynchronous with ⟨after, wrote, -, reads⟩
  rcases (reads ⟨.empty, #[], after.state⟩ (.text "a.bin") .blocking rfl (by rfl)).2 5 2
    (by decide) with ⟨_, final, read, first, -⟩
  rw [first.short rfl (by decide) (by decide)] at read
  exact ⟨named, clean, opened, after, final, wrote, read⟩

/-- Of a size with too many digits to be written, where there are too few bytes
and there is room for them, nothing is reported: the error cannot be built. -/
theorem readExact_overlong {context : Context Host} {data : Bytes} {location : Location}
    {path : String} {source : Source} {disk : Disk} {size limit : Nat}
    (named : source.pathText = some path) (clean : path.toList.contains '\x00' = false)
    (opened : context.state.disk.openPath path ⟨.reading, false, false⟩ = .ok (location, disk))
    (holds : context.state.disk.contents location = data) (enough : data.length + 1 < limit)
    (room : checkLength (min 1 size) context.memory.room = .ok ()) (short : data.length < size)
    (overlong : ¬ Text.Writable size) (concurrency : Concurrency) :
    (Action.outcomeOf (readExact concurrency limit source size (1 : Nat) context)).1 =
      .error .overlongInteger := by
  have gathers := ReadExact.gathers size (show 0 < 1 by decide) data
  rw [← holds] at gathers
  rcases Action.reads_file gathers named clean opened (holds.symm ▸ enough) concurrency with
    ⟨final, read, -⟩
  have tooFew : data.initial size = .error .overlongInteger := by
    rw [Bytes.initial, if_neg (Nat.not_le.mpr short), Offering.shortage, if_neg overlong]
  rw [holds, room, tooFew] at read
  exact congrArg Prod.fst read

/-- A capacity that no buffer can have lets nothing be read.  And a size of one
digit too many is not reported where there are too few bytes: the error cannot be
built. -/
theorem not_read_back_where_unaddressable_or_overlong :
    let context : Context Host := ⟨.empty, #[], .initial .empty (.ofScript [])⟩
    let wrote := Action.outcomeOf (writeAll .blocking 5 (.text "a.bin") (.frozen [1, 2, 3]) context)
    wrote.1 = .ok 3 ∧
      (Action.outcomeOf (readToEnd .blocking 5 (.text "a.bin") 9223372036854775808 wrote.2)).1 =
        .error .lengthNotAddressable ∧
      (Action.outcomeOf (readExact .blocking 5 (.text "a.bin") Text.leastOverlong (1 : Nat)
        wrote.2)).1 = .error .overlongInteger := by
  refine ⟨by with_unfolding_all rfl, by with_unfolding_all rfl, ?_⟩
  have long : 3 < Text.leastOverlong := Text.lt_leastOverlong (by decide)
  have small : min 1 Text.leastOverlong = 1 := Nat.min_eq_left (by omega)
  refine @readExact_overlong _ [1, 2, 3] ["a.bin"] "a.bin" _ ⟨[(["a.bin"], [1, 2, 3])], []⟩ _ _
    (by rfl) (by rfl) (by with_unfolding_all rfl) (by with_unfolding_all rfl) (by decide) ?_ long
    Text.not_writable_leastOverlong .blocking
  rw [small]
  with_unfolding_all rfl

end ResumableStreams
