import ResumableStreams.Command.Arguments
import ResumableStreams.Proofs.Copying

namespace ResumableStreams

/-!
# Reading in turn or by tasks

What the command leaves behind is determined by its sources, its sink and what
they hold before: the bytes in the sink, the lines about sources that fail, the
failure that escapes, and the exit code.  So it cannot be told whether the
sources were read one after the other or by tasks that took turns, and in which
order the turns came.

There is one thing that tasks of different sources may share: the standard
input, if it is named more than once.  Read in turn, it goes to the first source
as far as that wants it, and what is left to the next.  Tasks divide it among
them piece by piece.
-/

namespace Command

/-! ## Asking for the blocking mode -/

/-- The same options for the blocking mode. -/
def Options.inTurn (options : Options) : Options := { options with concurrency := .blocking }

/-! ## What a batch comes to -/

namespace Batch

/-- Where the sink is, or why it cannot be opened. -/
def landing (batch : Batch) : Except Fault (Option Location) :=
  match batch.options.output with
  | none => .ok none
  | some path =>
    match batch.disk.openPath (Path.normalize path) ⟨.writing, false, false⟩ with
    | .error refusal => .error (.system refusal)
    | .ok (location, _) => .ok (some location)

/-- What escapes: the failure to open the sink. -/
def escaped (batch : Batch) : Option Fault :=
  match batch.landing with
  | .error fault => some fault
  | .ok _ => none

def exitCode (batch : Batch) : Nat :=
  if batch.escaped.isSome || (batch.options.sources.map batch.result).any isFailure then 1 else 0

/-- What is on the standard output in the end. -/
def shown (batch : Batch) : Bytes :=
  match batch.landing with
  | .ok none => batch.copied batch.options.sources
  | _ => []

/-- What is on the disk in the end. -/
def left (batch : Batch) : Disk :=
  match batch.landing with
  | .ok (some location) => batch.disk.store location (batch.copied batch.options.sources)
  | _ => batch.disk

/-- The lines about sources that fail, which are shown once the sink is open. -/
def told (echo : String -> String) (batch : Batch) : List String :=
  match batch.landing with
  | .error _ => []
  | .ok _ => (batch.reports batch.options.sources).map echo

end Batch

/-- The outcome of the command is what the batch determines. -/
structure Batch.Ends (echo : String -> String) (batch : Batch) (outcome : Outcome) : Prop where
  exitCode : outcome.exitCode = batch.exitCode
  stdout : outcome.stdout = batch.shown
  disk : outcome.host.disk = batch.left
  escaped : outcome.escaped = batch.escaped
  tells : outcome.Tells (batch.told echo) batch.options.verbose

section

variable {echo : String -> String} {batch : Batch} {limit : Nat} {net : Net} {outcome : Outcome}

theorem Batch.lands {location : Option Location} (landing : batch.landing = .ok location) :
    Lands batch.disk batch.options.output location := by
  unfold Batch.landing at landing
  cases named : batch.options.output with
  | none =>
    rw [named] at landing
    cases landing
    exact .standard
  | some path =>
    rw [named] at landing
    dsimp only at landing
    cases opened : batch.disk.openPath (Path.normalize path) ⟨.writing, false, false⟩ with
    | error refusal =>
      rw [opened] at landing
      cases landing
    | ok found =>
      rw [opened] at landing
      cases landing
      exact .file opened

/-- A sink that cannot be opened is refused, and nothing is different. -/
theorem Batch.openSink_refused {fault : Fault} {host : Host}
    (refused : batch.landing = .error fault) (disk : host.disk = batch.disk) :
    openSink batch.options.output host = (.error fault, host) := by
  unfold Batch.landing at refused
  cases named : batch.options.output with
  | none =>
    rw [named] at refused
    cases refused
  | some path =>
    rw [named] at refused
    dsimp only at refused
    have mode : Mode.parse Mode.sink = .ok ⟨.writing, false, false⟩ := by rfl
    cases opened : batch.disk.openPath (Path.normalize path) ⟨.writing, false, false⟩ with
    | error refusal =>
      rw [opened] at refused
      cases refused
      simp only [openSink, Host.openSource, Path.isAddress_normalize, Bool.false_eq_true, if_false,
        Host.openLocal, Host.openPath, mode,
        Path.no_null_normalize (batch.options.output_clean path named), disk, opened]
    | ok found =>
      rw [opened] at refused
      cases refused

theorem Batch.escaped_of_error {fault : Fault} (refused : batch.landing = .error fault) :
    batch.escaped = some fault := by
  simp only [Batch.escaped, refused]

/-- What has been copied is what the batch determines. -/
theorem Batch.Copied.ends {location : Option Location}
    (copied : batch.Copied echo location outcome) (landing : batch.landing = .ok location) :
    batch.Ends echo outcome := by
  have told : batch.told echo = (batch.reports batch.options.sources).map echo := by
    simp only [Batch.told, landing]
  have sink := copied.sink
  refine ⟨?_, ?_, ?_, ?_, told ▸ copied.report⟩
  · have failed := (batch.any_isFailure_iff batch.options.sources).trans copied.exitCode_iff.symm
    have within := copied.exitCode_le
    simp only [Batch.exitCode, Batch.escaped, landing, Option.isSome_none, Bool.false_or]
    by_cases fails : (batch.options.sources.map batch.result).any isFailure = true
    · rw [if_pos fails, failed.mp fails]
    · rw [if_neg fails]
      have other : outcome.exitCode ≠ 1 := fun one => fails (failed.mpr one)
      omega
  · cases location with
    | none => simp only [Batch.shown, landing, sink.1]
    | some location => simp only [Batch.shown, landing, sink.1]
  · cases location with
    | none => simp only [Batch.left, landing, sink.2]
    | some location => simp only [Batch.left, landing, sink.2]
  · simp only [Batch.escaped, landing, copied.escaped]

/-- Whether the sink can be opened or not, and in whichever order the sources are
read, the command comes to what the batch determines. -/
theorem Batch.ends_copy (echo : String -> String) (some_sources : batch.options.sources ≠ [])
    (once : batch.options.sources.count "-" ≤ 1)
    (enough : ∀ source ∈ batch.options.sources, batch.length source + 2 < limit)
    (answers : Net.Answers batch.answerOf (batch.options.sources.countP isAddress) net.script)
    (schedule : List Nat) :
    batch.Ends echo
      (copy echo limit schedule batch.options (start batch.room batch.input batch.disk net)) := by
  cases landing : batch.landing with
  | ok location =>
    exact (copied_copy echo some_sources once enough answers (Batch.lands landing) schedule).ends
      landing
  | error fault =>
    have gives := gives_readAll schedule once enough answers
    have escaped := Batch.escaped_of_error landing
    rw [copy_eq]
    generalize readAll limit schedule batch.options (start batch.room batch.input batch.disk net) =
      read at gives
    rcases read with ⟨results, context⟩
    have refused := Batch.openSink_refused landing gives.disk
    have writes : writeSink echo limit batch.options (batch.options.sources.zip results)
        ⟨[], context⟩ = (some fault, ⟨[], context⟩) := by
      simp only [writeSink, refused]
    have shows : Shows batch.options.verbose
        ((Console.mk [] context).showJournal batch.options.verbose) [] :=
      Shows.showJournal ⟨.refl _, fun _ => rfl⟩
    simp only [writes, Option.isSome_some, Bool.true_or, if_true]
    refine ⟨?_, ?_, ?_, escaped.symm, ?_⟩
    · simp only [Batch.exitCode, escaped, Option.isSome_some, Bool.true_or, if_true]
    · have unused : written context.state = [] := by
        rw [written, gives.sink]
        rfl
      simp only [Batch.shown, landing]
      exact unused
    · simp only [Batch.left, landing]
      exact gives.disk
    · simp only [Batch.told, landing]
      exact ⟨_, rfl, shows.among, shows.only⟩

end

/-! ## Either mode -/

/-- Whoever called the command cannot tell the two outcomes apart: not by the exit
code, the standard output, the disk, or a failure that escaped.  The same lines
about sources are on the standard error, which is the same unless more is asked
for. -/
structure Outcome.Agrees (told : List String) (verbose : Bool) (first second : Outcome) :
    Prop where
  exitCode : second.exitCode = first.exitCode
  stdout : second.stdout = first.stdout
  disk : second.host.disk = first.host.disk
  escaped : second.escaped = first.escaped
  first_tells : first.Tells told verbose
  second_tells : second.Tells told verbose
  stderr : verbose = false -> second.stderr = first.stderr

theorem Batch.Ends.agrees {echo : String -> String} {batch : Batch} {first second : Outcome}
    (ends : batch.Ends echo first) (same : batch.Ends echo second) :
    first.Agrees (batch.told echo) batch.options.verbose second := by
  refine ⟨same.exitCode.trans ends.exitCode.symm, same.stdout.trans ends.stdout.symm,
    same.disk.trans ends.disk.symm, same.escaped.trans ends.escaped.symm, ends.tells, same.tells,
    fun quiet => ?_⟩
  rcases ends.tells with ⟨lines, stderr, -, only⟩
  rcases same.tells with ⟨lines', stderr', -, only'⟩
  rw [stderr, stderr', only quiet, only' quiet]

/-- The same batch in the blocking mode. -/
def Batch.inTurn (batch : Batch) : Batch := { batch with options := batch.options.inTurn }

/-- What a batch comes to has nothing to do with the mode. -/
theorem Batch.Ends.of_inTurn {echo : String -> String} {batch : Batch} {outcome : Outcome}
    (ends : batch.inTurn.Ends echo outcome) : batch.Ends echo outcome := by
  have landing : batch.inTurn.landing = batch.landing := rfl
  have sources : batch.inTurn.options.sources = batch.options.sources := rfl
  have result : batch.inTurn.result = batch.result := rfl
  have escaped : batch.inTurn.escaped = batch.escaped := by
    rw [Batch.escaped, Batch.escaped, landing]
  have copied : batch.inTurn.copied = batch.copied := by
    funext sources
    rw [Batch.copied, Batch.copied, result]
  have reports : batch.inTurn.reports = batch.reports := by
    funext sources
    rw [Batch.reports, Batch.reports, result]
  refine ⟨?_, ?_, ?_, ends.escaped.trans escaped, ?_⟩
  · rw [ends.exitCode, Batch.exitCode, Batch.exitCode, escaped, sources, result]
  · rw [ends.stdout, Batch.shown, Batch.shown, landing, sources, copied]
  · rw [ends.disk, Batch.left, Batch.left, landing, sources, copied]
    rfl
  · have told : batch.inTurn.told echo = batch.told echo := by
      rw [Batch.told, Batch.told, landing, sources, reports]
    exact told ▸ ends.tells

/-- Asking for the blocking mode does not change what the command produces, in
whatever order the tasks of the other mode take their turns, as long as the
standard input is named at most once.

Where nothing is named, there is nothing to copy, and the outcome is the very same.
Otherwise the sink holds the same bytes and the rest of the disk is the same, the
same failure escapes if the sink cannot be opened, the same lines tell of the
sources that fail, and the exit code is the same.  The network is taken to answer
alike whenever an address is asked for. -/
theorem sync_makes_no_difference (echo : String -> String) (options : Options) (limit : Nat)
    (schedule schedule' : List Nat) (room : Nat) (input : Bytes) (disk : Disk) (net : Net)
    (answerOf : String -> Answer) :
    let context := start room input disk net
    let usual := run echo limit schedule options context
    let inTurn := run echo limit schedule' options.inTurn context
    (options.sources = [] -> inTurn = usual) ∧
    (options.sources ≠ [] -> options.sources.count "-" ≤ 1 ->
      let batch : Batch := ⟨options, room, input, disk, answerOf⟩
      (∀ source ∈ options.sources, batch.length source + 2 < limit) ->
      Net.Answers answerOf (options.sources.countP isAddress) net.script ->
      usual.Agrees (batch.told echo) options.verbose inTurn) := by
  intro context usual inTurn
  refine ⟨fun nothing => ?_, ?_⟩
  · simp only [usual, inTurn, run, Options.inTurn, nothing, List.isEmpty_nil, if_true]
  · intro some_sources once batch enough answers
    have usual_copies : usual = copy echo limit schedule options context :=
      run_eq_copy echo limit schedule some_sources context
    have inTurn_copies : inTurn = copy echo limit schedule' options.inTurn context :=
      @run_eq_copy echo limit schedule' options.inTurn some_sources context
    have ends : batch.Ends echo _ := Batch.ends_copy echo some_sources once enough answers schedule
    have ends' : batch.inTurn.Ends echo _ :=
      Batch.ends_copy echo some_sources once enough answers schedule'
    rw [usual_copies, inTurn_copies]
    exact ends.agrees ends'.of_inTurn

/-- A file, the standard input, a body and a file that is not there are copied to
the file that is the first of them, and nothing is copied where nothing is
named. -/
theorem sync_makes_no_difference_of_four :
    let script : List (String × List Answer) :=
      [("http://host", [.response 200 none [.bytes [5, 6], .bytes [7]]])]
    let context := start Memory.addressable [4] ⟨[(["a"], [1, 2, 3])], []⟩ (.ofScript script)
    let options : Options := {
      bytes := none, capacity := 8192, capacity_pos := by decide, output := some "a",
      output_clean := by rintro _ ⟨⟩; decide, concurrency := .asynchronous, verbose := false,
      sources := ["a", "-", "http://host", "b"] }
    let nothing : Options := { options with sources := [] }
    let usual := run Text.withoutSequences 10 [3, 2, 0, 2] options context
    let inTurn := run Text.withoutSequences 10 [] options.inTurn context
    (inTurn.exitCode = usual.exitCode ∧ inTurn.host.disk = usual.host.disk ∧
      inTurn.stderr = usual.stderr) ∧
    run Text.withoutSequences 10 [] nothing.inTurn context =
      run Text.withoutSequences 10 [] nothing context := by
  intro script context options nothing usual inTurn
  have one : options.sources.countP isAddress = 1 := by decide +kernel
  let batch : Batch := ⟨options, Memory.addressable, [4], ⟨[(["a"], [1, 2, 3])], []⟩,
    fun url => (Net.takeAnswer url script).1⟩
  have answers : Net.Answers batch.answerOf (options.sources.countP isAddress)
      (Net.ofScript script).script := by
    rw [one]
    exact fun url => ⟨rfl, trivial⟩
  have agrees : usual.Agrees (batch.told Text.withoutSequences) options.verbose inTurn :=
    (sync_makes_no_difference Text.withoutSequences options 10 [3, 2, 0, 2] [] batch.room
      batch.input batch.disk (.ofScript script) batch.answerOf).2 (by decide) (by decide)
      (by decide +kernel) answers
  refine ⟨⟨agrees.exitCode, agrees.disk, agrees.stderr rfl⟩, ?_⟩
  exact (sync_makes_no_difference Text.withoutSequences nothing 10 [] [] Memory.addressable [4]
    ⟨[(["a"], [1, 2, 3])], []⟩ (.ofScript script) fun url => (Net.takeAnswer url script).1).1 rfl

/-- Two tasks that read the standard input by turns get every other byte of
it.  Read in turn, the first source gets the first two bytes. -/
theorem sync_makes_difference_to_shared_input :
    let context := start Memory.addressable [97, 97, 99, 99] .empty (.ofScript [])
    let options : Options := {
      bytes := some 2, capacity := 1, capacity_pos := by decide, output := none,
      output_clean := nofun, concurrency := .asynchronous, verbose := false,
      sources := ["-", "-"] }
    (run id 10 [] options context).stdout = [97, 99, 97, 99] ∧
      (run id 10 [] options.inTurn context).stdout = [97, 97, 99, 99] := by
  decide +kernel

/-! ## At the edge -/

theorem readArguments_sync (arguments : List String) :
    readArguments ("--sync" :: arguments) =
      (readArguments arguments).map fun given => ((.sync, "") :: given.1, given.2) := by
  have option : isOption "--sync" = true := by with_unfolding_all rfl
  have given : readOption "--sync" arguments.head? = .ok ⟨[(.sync, "")], false⟩ := by
    with_unfolding_all rfl
  have longer : ¬ "--sync" = "--" := by decide
  rw [readArguments, readFrom, if_neg longer, if_pos option, given]
  show (readFrom false arguments >>= _) = _
  cases read : readFrom false arguments with
  | error refusal =>
    simp only [readArguments, read]
    rfl
  | ok found =>
    simp only [readArguments, read]
    rfl

theorem valueOf_sync (settings : List (Setting × String)) :
    (valueOf ((.sync, "") :: settings) .sync).isSome = true := by
  rw [valueOf, List.reverse_cons, List.lookup_append, Option.isSome_or]
  exact Bool.or_true _

/-- The other settings are what they were. -/
theorem valueOf_of_ne_sync (settings : List (Setting × String)) {setting : Setting}
    (other : setting ≠ .sync) :
    valueOf ((.sync, "") :: settings) setting = valueOf settings setting := by
  have apart : (setting == Setting.sync) = false := beq_eq_false_iff_ne.mpr other
  rw [valueOf, valueOf, List.reverse_cons, List.lookup_append, List.lookup_cons, apart]
  exact Option.or_none

theorem numberOf_of_ne_sync (settings : List (Setting × String)) {setting : Setting}
    (other : setting ≠ .sync) (minimum : Nat) :
    numberOf ((.sync, "") :: settings) setting minimum = numberOf settings setting minimum := by
  simp only [numberOf, valueOf_of_ne_sync settings other]

theorem pathOf_of_ne_sync (settings : List (Setting × String)) {setting : Setting}
    (other : setting ≠ .sync) :
    pathOf ((.sync, "") :: settings) setting = pathOf settings setting := by
  simp only [pathOf, valueOf_of_ne_sync settings other]

/-- Asking for the blocking mode changes nothing else about the options, and
nothing about whether they are understood. -/
theorem Options.ofSettings_sync (settings : List (Setting × String)) (sources : List String) :
    Options.ofSettings ((.sync, "") :: settings) sources =
      (Options.ofSettings settings sources).map Options.inTurn := by
  have verbose := valueOf_of_ne_sync settings (show Setting.verbose ≠ .sync by decide)
  have bytes := numberOf_of_ne_sync settings (show Setting.bytes ≠ .sync by decide) 0
  have capacity := numberOf_of_ne_sync settings (show Setting.capacity ≠ .sync by decide) 1
  have output := pathOf_of_ne_sync settings (show Setting.output ≠ .sync by decide)
  simp only [Options.ofSettings, bind, Except.bind, bytes, capacity, output, verbose, valueOf_sync,
    if_true]
  cases numberOf settings .bytes 0 with
  | error refusal => rfl
  | ok size =>
    cases numberOf settings .capacity 1 with
    | error refusal => rfl
    | ok capacity =>
      cases pathOf settings .output with
      | error refusal => rfl
      | ok path => rfl

/-- So the options that arguments ask for are the same for the blocking mode, and so
are those that are refused or ask for help. -/
theorem Options.parse_sync (arguments : List String) :
    Options.parse ("--sync" :: arguments) =
      (Options.parse arguments).map (Option.map Options.inTurn) := by
  rw [Options.parse, Options.parse, readArguments_sync]
  cases readArguments arguments with
  | error refusal => rfl
  | ok given =>
    rcases given with ⟨settings, sources⟩
    have help := valueOf_of_ne_sync settings (show Setting.help ≠ .sync by decide)
    simp only [Except.map, bind, Except.bind, Options.ofSettings_sync, help]
    cases Options.ofSettings settings sources with
    | error refusal => rfl
    | ok options =>
      cases (valueOf settings .help).isSome <;> rfl

/-- Arguments that ask for something to be copied ask for the same in turn where the
blocking mode is asked for as well.  Any other arguments come to the very same with
it. -/
theorem runArguments_sync (limit : Nat) (schedule schedule' : List Nat) (arguments : List String)
    (context : Context Host) :
    runArguments limit schedule' ("--sync" :: arguments) context =
      match Options.parse arguments with
      | .ok (some options) =>
        run Text.withoutSequences limit schedule' options.inTurn context
      | _ => runArguments limit schedule arguments context := by
  rw [runArguments, runArguments, Options.parse_sync]
  cases Options.parse arguments with
  | error refusal => rfl
  | ok understood => cases understood <;> rfl

end Command

end ResumableStreams
