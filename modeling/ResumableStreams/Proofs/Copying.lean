import ResumableStreams.Proofs.Acceptance
import ResumableStreams.Proofs.Collecting
import ResumableStreams.Proofs.Interleaving
import ResumableStreams.Text.Control

namespace ResumableStreams

/-!
# Copying is concatenation

When the command has read its sources, the sink has not been touched: neither
the disk nor the standard output is different from before.  What follows is one
pass over the results, in the order of the arguments.  A source that has been
read is appended to the sink, and one that has failed to the report.

So the sink holds what the sources give, one after the other, whichever of the
tasks came first, and even if the sink was one of the sources.
-/

namespace WriteAll

/-- A stream that takes all it is offered is offered the bytes once. -/
theorem drive_taken {State : Type} {concurrency : Concurrency} {stream : Stream State}
    {context : Context State} {bytes : Bytes} {after : State} {limit : Nat} (enough : 2 ≤ limit)
    (offered : stream.offer concurrency ⟨bytes, false⟩ context.state =
      (.moved bytes.length, after)) (memory : Memory) :
    let run := drive concurrency stream limit (make (.frozen bytes) memory).1 context
    run.ending = .finished bytes.length ∧
      (bytes = [] ∧ run.context.state = context.state ∨ run.context.state = after) := by
  obtain ⟨limit, rfl⟩ := Nat.exists_eq_add_of_le' enough
  by_cases nothing : bytes = []
  · have done : (make (.frozen bytes) memory).1.remaining = 0 := congrArg List.length nothing
    have ends := @ends_of_done _ concurrency stream context _ limit _ done rfl
    exact ⟨ends.ended, .inl ⟨nothing, ends.state⟩⟩
  · have left : bytes.length ≠ 0 := fun none => nothing (List.eq_nil_of_length_eq_zero none)
    have ends := @ends_of_taken _ _ _ (.frozen bytes) _ _ _ limit left rfl offered
    exact ⟨ends.ended, .inr ends.state⟩

end WriteAll

/-! ## Lines without control sequences -/

namespace Text

theorem withoutSequencesFrom_plain {chars : List Char} (plain : '\x1b' ∉ chars) (limit : Nat) :
    withoutSequencesFrom limit chars = chars := by
  induction limit generalizing chars with
  | zero => rfl
  | succ limit inductionHypothesis =>
    cases chars with
    | nil => rfl
    | cons char rest =>
      have none_begins : afterSequence (char :: rest) = none := by
        unfold afterSequence
        split
        · rename_i same
          cases same
          exact absurd List.mem_cons_self plain
        · rfl
      have later := inductionHypothesis fun inside => plain (List.mem_cons_of_mem _ inside)
      simp only [withoutSequencesFrom, none_begins, later]

/-- Where nothing begins a control sequence, nothing is left out. -/
theorem withoutSequences_plain {text : String} (plain : '\x1b' ∉ text.toList) :
    withoutSequences text = text := by
  rw [withoutSequences, withoutSequencesFrom_plain plain, String.ofList_toList]

end Text

namespace Command

/-! ## Lines of the report -/

/-- These lines are shown, and where nothing else is asked for, only these. -/
structure Shows (verbose : Bool) (console : Console) (reported : List String) : Prop where
  among : reported.Sublist console.lines.reverse
  only : verbose = false -> console.lines.reverse = reported

section

variable {verbose : Bool} {console : Console} {reported : List String}

/-- Showing the journal adds lines, if it is asked for. -/
theorem Shows.showJournal (shows : Shows verbose console reported) :
    Shows verbose (console.showJournal verbose) reported := by
  cases verbose with
  | false => exact ⟨shows.among, shows.only⟩
  | true =>
    refine ⟨shows.among.trans ?_, nofun⟩
    have lines : (console.showJournal true).lines =
        (console.context.journal.toList.map Event.line).reverse ++ console.lines := by
      simp only [Console.showJournal, if_true]
      rw [← Array.foldl_toList, List.foldl_flip_cons_eq_append]
    rw [lines, List.reverse_append]
    exact List.sublist_append_left _ _

theorem Shows.report (shows : Shows verbose console reported) (echo : String -> String)
    (line : String) :
    Shows verbose (console.report echo verbose line) (reported ++ [echo line]) := by
  have shows' := shows.showJournal
  have lines : (console.report echo verbose line).lines.reverse =
      (console.showJournal verbose).lines.reverse ++ [echo line] :=
    List.reverse_cons
  refine ⟨?_, fun quiet => ?_⟩
  · rw [lines]
    exact shows'.among.append (List.Sublist.refl _)
  · rw [lines, shows'.only quiet]

end

/-! ## One pass over the results -/

namespace Batch

/-- What the sources that do not fail give, one after the other. -/
def copied (batch : Batch) (sources : List String) : Bytes :=
  sources.flatMap fun source =>
    match batch.result source with
    | .ok bytes => bytes
    | .error _ => []

/-- What is to be said about the sources that fail. -/
def reports (batch : Batch) (sources : List String) : List String :=
  sources.filterMap fun source =>
    match batch.result source with
    | .ok _ => none
    | .error fault => some s!"{source}: {fault.message}"

end Batch

/-- The sink has taken these bytes, and these lines have been shown. -/
structure Pours (base : Disk) (sink inner : Handle) (location : Option Location) (taken : Bytes)
    (verbose : Bool) (reported : List String) (console : Console) : Prop where
  sinks : Sinks base sink inner location taken console.context.state
  shows : Shows verbose console reported

section

variable {batch : Batch} {base : Disk} {sink inner : Handle} {location : Option Location}
  {taken : Bytes} {verbose : Bool} {reported : List String} {console : Console} {limit : Nat}

theorem Pours.writeResults (batch : Batch) (echo : String -> String) (enough : 2 ≤ limit)
    (pours : Pours base sink inner location taken verbose reported console)
    (sources : List String) :
    ∃ after, writeResults echo limit verbose sink
        (sources.map fun source => (source, batch.result source)) console = (none, after) ∧
      Pours base sink inner location (taken ++ batch.copied sources) verbose
        (reported ++ (batch.reports sources).map echo) after := by
  induction sources generalizing taken reported console with
  | nil =>
    refine ⟨console, rfl, ?_⟩
    rw [Batch.copied, Batch.reports, List.flatMap_nil, List.filterMap_nil, List.map_nil,
      List.append_nil, List.append_nil]
    exact pours
  | cons source sources inductionHypothesis =>
    cases result : batch.result source with
    | error fault =>
      have copied : batch.copied (source :: sources) = batch.copied sources := by
        rw [Batch.copied, List.flatMap_cons, result]
        rfl
      have reports : batch.reports (source :: sources) =
          s!"{source}: {fault.message}" :: batch.reports sources := by
        rw [Batch.reports, List.filterMap_cons, result]
        rfl
      have told : Pours base sink inner location taken verbose
          (reported ++ [echo s!"{source}: {fault.message}"])
          (console.report echo verbose s!"{source}: {fault.message}") :=
        ⟨pours.sinks, pours.shows.report echo _⟩
      rw [List.map_cons, result, Command.writeResults, copied, reports, List.map_cons,
        List.append_cons]
      exact inductionHypothesis told
    | ok bytes =>
      have copied : batch.copied (source :: sources) = bytes ++ batch.copied sources := by
        rw [Batch.copied, List.flatMap_cons, result]
        rfl
      have reports : batch.reports (source :: sources) = batch.reports sources := by
        rw [Batch.reports, List.filterMap_cons, result]
        rfl
      rcases pours.sinks.offer ⟨bytes, false⟩ with ⟨offered, offers, sinks⟩
      rw [List.map_cons, result, copied, reports, ← List.append_assoc]
      simp only [Command.writeResults]
      let made := WriteAll.make (.frozen bytes) console.context.memory
      have offers' : (console.context.state.stream sink).offer .blocking ⟨bytes, false⟩
          (console.context.note made.2).state = (.moved bytes.length, offered) := offers
      have drives := WriteAll.drive_taken enough offers' console.context.memory
      generalize drive .blocking (console.context.state.stream sink) limit made.1
        (console.context.note made.2) = run at drives ⊢
      have wrote : Pours base sink inner location (taken ++ bytes) verbose reported
          { console with context := run.context } := by
        refine ⟨?_, pours.shows.among, pours.shows.only⟩
        -- No bytes are not even offered.
        rcases drives.2 with ⟨nothing, same⟩ | reached
        · rw [nothing, List.append_nil]
          exact same ▸ pours.sinks
        · exact reached ▸ sinks
      rw [drives.1]
      exact inductionHypothesis wrote

/-- The sink is opened, written to, flushed and closed. -/
theorem Lands.writeSink (batch : Batch) (echo : String -> String) {context : Context Host}
    {options : Options} (enough : 2 ≤ limit)
    (lands : Lands context.state.disk options.output location)
    (standard : context.state.devices[stdout]? = some (.memoryFile (.ofBytes [])))
    (sources : List String) :
    ∃ after, writeSink echo limit options
        (sources.map fun source => (source, batch.result source)) ⟨[], context⟩ = (none, after) ∧
      Delivered context.state.disk (batch.copied sources) after.context.state location ∧
      Shows options.verbose after ((batch.reports sources).map echo) := by
  rcases lands.opens options.output_clean standard with ⟨sink, inner, opened, opens, sinks⟩
  have begins : Pours context.state.disk sink inner location [] options.verbose []
      ⟨[], { context with state := opened }⟩ := ⟨sinks, .refl _, fun _ => rfl⟩
  rcases begins.writeResults batch echo enough sources with ⟨written, writes, pours⟩
  rw [List.nil_append, List.nil_append] at pours
  rcases pours.sinks.flush with ⟨flushed, flushes, sinks⟩
  rcases sinks.close with ⟨closed, closes, delivered⟩
  refine ⟨{ written with context := { written.context with state := closed } }, ?_, delivered,
    pours.shows.among, pours.shows.only⟩
  simp only [Command.writeSink, opens, writes, flushes, closes]
  rfl

end

/-! ## The whole command -/

/-- These lines are on the standard error, in order, and where nothing else is
asked for, only these. -/
def Outcome.Tells (told : List String) (verbose : Bool) (outcome : Outcome) : Prop :=
  ∃ lines, outcome.stderr = String.join (lines.map (· ++ "\n")) ∧ told.Sublist lines ∧
    (verbose = false -> lines = told)

/-- A batch of sources has been copied to the sink at a location, or to the
standard output. -/
structure Batch.Copied (echo : String -> String) (batch : Batch) (location : Option Location)
    (outcome : Outcome) : Prop where
  escaped : outcome.escaped = none
  /-- The sink holds what the sources give, and nothing else is different. -/
  sink :
    match location with
    | none => outcome.stdout = batch.copied batch.options.sources ∧ outcome.host.disk = batch.disk
    | some location => outcome.stdout = [] ∧
        outcome.host.disk = batch.disk.store location (batch.copied batch.options.sources)
  /-- There is a line for each source that fails, in order.  Other lines are
  shown only if they are asked for. -/
  report : outcome.Tells ((batch.reports batch.options.sources).map echo) batch.options.verbose
  exitCode_le : outcome.exitCode ≤ 1
  exitCode_iff : outcome.exitCode = 1 ↔
    ∃ source ∈ batch.options.sources, ∃ fault, batch.result source = .error fault

section

variable {batch : Batch} {limit : Nat} {location : Option Location} {net : Net}

/-- Some source fails exactly if one of the results is a failure. -/
theorem Batch.any_isFailure_iff (batch : Batch) (sources : List String) :
    (sources.map batch.result).any isFailure = true ↔
      ∃ source ∈ sources, ∃ fault, batch.result source = .error fault := by
  rw [List.any_map, List.any_eq_true]
  refine exists_congr fun source => and_congr_right fun _ => ?_
  cases result : batch.result source with
  | ok bytes =>
    simp only [Function.comp_apply, result, isFailure, Bool.false_eq_true, false_iff]
    rintro ⟨_, failed⟩
    cases failed
  | error fault => simp only [Function.comp_apply, result, isFailure, true_iff]; exact ⟨fault, rfl⟩

/-- However the sources are read, what was read is written in one pass. -/
theorem copy_eq (echo : String -> String) (limit : Nat) (schedule : List Nat) (options : Options)
    (context : Context Host) :
    copy echo limit schedule options context =
      let read := readAll limit schedule options context
      let sunk := writeSink echo limit options (options.sources.zip read.1) ⟨[], read.2⟩
      let console := sunk.2.showJournal options.verbose
      { exitCode := if sunk.1.isSome || read.1.any isFailure then 1 else 0
        stdout := written console.context.state
        stderr := console.text
        escaped := sunk.1
        host := console.context.state } := rfl

theorem copied_copy (echo : String -> String) (some_sources : batch.options.sources ≠ [])
    (once : batch.options.sources.count "-" ≤ 1)
    (enough : ∀ source ∈ batch.options.sources, batch.length source + 2 < limit)
    (answers : Net.Answers batch.answerOf (batch.options.sources.countP isAddress) net.script)
    (lands : Lands batch.disk batch.options.output location) (schedule : List Nat) :
    batch.Copied echo location
      (copy echo limit schedule batch.options (start batch.room batch.input batch.disk net)) := by
  have gives := gives_readAll schedule once enough answers
  rw [copy_eq]
  generalize readAll limit schedule batch.options (start batch.room batch.input batch.disk net) =
    read at gives
  cases read with
  | mk results context =>
    have results_eq : results = batch.options.sources.map batch.result := gives.results
    have disk : context.state.disk = batch.disk := gives.disk
    subst results_eq
    rw [← disk] at lands
    rcases List.exists_mem_of_ne_nil _ some_sources with ⟨source, member⟩
    have rounds : 2 ≤ limit := by
      have more := enough source member
      omega
    rcases lands.writeSink batch echo rounds gives.sink batch.options.sources with
      ⟨console, writes, delivered, shows⟩
    have shows' := shows.showJournal
    rw [List.map_prod_left_eq_zip] at writes
    have failed := batch.any_isFailure_iff batch.options.sources
    simp only [writes, Option.isSome_none, Bool.false_or]
    refine ⟨rfl, ?_, ⟨_, rfl, shows'.among, shows'.only⟩, ?_, ?_⟩
    · rw [disk] at delivered
      cases location with
      | none => exact delivered
      | some location => exact delivered
    · show (if _ then 1 else 0) ≤ 1
      split <;> decide
    · rw [← failed]
      show (if _ then 1 else 0) = 1 ↔ _
      cases (batch.options.sources.map batch.result).any isFailure <;> decide

/-- Where there are sources, running the command is copying. -/
theorem run_eq_copy (echo : String -> String) (limit : Nat) (schedule : List Nat)
    {options : Options} (some_sources : options.sources ≠ []) (context : Context Host) :
    run echo limit schedule options context = copy echo limit schedule options context := by
  rw [run, List.isEmpty_eq_false_iff.mpr some_sources]
  exact if_neg Bool.false_ne_true

/-- The command copies its sources to its sink: what the sink holds in the end
is what the sources give that do not fail, in the order of the arguments.  Of each
source that fails there is a line, as the echo shows it. -/
theorem run_copies_sources (echo : String -> String) (some_sources : batch.options.sources ≠ [])
    (once : batch.options.sources.count "-" ≤ 1)
    (answers : Net.Answers batch.answerOf (batch.options.sources.countP isAddress) net.script)
    (lands : Lands batch.disk batch.options.output location)
    (enough : ∀ source ∈ batch.options.sources, batch.length source + 2 < limit)
    (schedule : List Nat) :
    batch.Copied echo location
      (run echo limit schedule batch.options (start batch.room batch.input batch.disk net)) := by
  rw [run_eq_copy echo limit schedule some_sources]
  exact copied_copy echo some_sources once enough answers lands schedule

end

/-- Two bytes of a body in one chunk and one in another are copied after what
is on the disk and on the standard input.  The sink is the first of the
sources, and the last one is not there. -/
theorem run_copies_sources_of_four :
    let script : List (String × List Answer) :=
      [("http://host", [.response 200 none [.bytes [5, 6], .bytes [7]]])]
    let options : Options := {
      bytes := none, capacity := 8192, capacity_pos := by decide, output := some "a",
      output_clean := by rintro _ ⟨⟩; decide, concurrency := .asynchronous, verbose := false,
      sources := ["a", "-", "http://host", "b"] }
    let batch : Batch := ⟨options, Memory.addressable, [4], ⟨[(["a"], [1, 2, 3])], []⟩,
      fun url => (Net.takeAnswer url script).1⟩
    let outcome := run Text.withoutSequences 10 [3, 2, 0, 2] options
      (start batch.room batch.input batch.disk (.ofScript script))
    batch.Copied Text.withoutSequences (some ["a"]) outcome ∧
      outcome.host.disk.contents ["a"] = [1, 2, 3, 4, 5, 6, 7] ∧
      outcome.stderr = "b: [Errno 2] No such file or directory: 'b'\n" := by
  intro script options batch outcome
  have one : batch.options.sources.countP isAddress = 1 := by decide +kernel
  have answers : Net.Answers batch.answerOf (batch.options.sources.countP isAddress)
      (Net.ofScript script).script := by
    rw [one]
    exact fun url => ⟨rfl, trivial⟩
  have lands : Lands batch.disk batch.options.output (some ["a"]) :=
    @Lands.file batch.disk "a" ["a"] ⟨[(["a"], [])], []⟩ (by with_unfolding_all rfl)
  have copied : batch.Copied Text.withoutSequences (some ["a"]) outcome :=
    run_copies_sources Text.withoutSequences (by decide) (by decide) answers lands
      (by decide +kernel) [3, 2, 0, 2]
  have everything : batch.copied batch.options.sources = [1, 2, 3, 4, 5, 6, 7] := by
    decide +kernel
  have failures : batch.reports batch.options.sources =
      ["b: [Errno 2] No such file or directory: 'b'"] := by
    decide +kernel
  refine ⟨copied, ?_, ?_⟩
  · rw [copied.sink.2, Disk.contents_store_self, everything]
  · rcases copied.report with ⟨lines, stderr, -, only⟩
    have plain : Text.withoutSequences "b: [Errno 2] No such file or directory: 'b'" = _ :=
      Text.withoutSequences_plain (by decide)
    rw [stderr, only rfl, failures, List.map_singleton, plain]
    rfl

/-- A line is not the name and the message as they are where one of them has a
control sequence and the echo leaves such sequences out. -/
theorem run_report_ne_of_red :
    let source := "\x1b[31mx"
    let fault : Fault := .system (.notFound source)
    let options : Options := {
      bytes := none, capacity := 8192, capacity_pos := by decide, output := none,
      output_clean := nofun, concurrency := .blocking, verbose := false, sources := [source] }
    let outcome := run Text.withoutSequences 10 [] options
      (start Memory.addressable [] .empty (.ofScript []))
    outcome.exitCode = 1 ∧
      outcome.stderr = "x: [Errno 2] No such file or directory: '\\x1b[31mx'\n" ∧
      outcome.stderr ≠ s!"{source}: {fault.message}\n" := by
  decide +kernel

end Command

end ResumableStreams
