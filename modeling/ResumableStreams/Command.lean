import ResumableStreams.Transfer

namespace ResumableStreams

/-!
# Copying sources to one sink

The command reads all its sources first, and then writes what it has read to
one sink, in the order of the arguments.  A source that fails is reported in
its turn and contributes nothing.  So the sink may be one of the sources: its
old contents have been read before it is emptied.

In the blocking mode the sources are read one after the other.  In the
asynchronous mode each has a task, and the tasks may take turns in any way:
a schedule says which task makes the next step.

What the command says of itself is shown on the standard error by an `echo`,
which may leave something out of a line.  The lines of the journal are shown as
they are.
-/

namespace Command

/-- What the command is asked to do. -/
structure Options where
  /-- How many bytes to copy of each source; all where there is no number. -/
  bytes : Option Nat
  capacity : Nat
  capacity_pos : 0 < capacity
  output : Option String
  /-- No path contains a null character. -/
  output_clean : ∀ path, output = some path -> path.toList.contains '\x00' = false
  concurrency : Concurrency
  verbose : Bool
  sources : List String

def stdin : Handle := 0

def stdout : Handle := 1

/-- The context in which the command starts: so much room for buffers, the two
standard streams, and nothing else open. -/
def start (room : Nat) (input : Bytes) (disk : Disk) (net : Net) : Context Host where
  memory := { Memory.empty with room := room }
  journal := #[]
  state :=
    { Host.initial disk net with
      devices := #[.memoryFile (.ofBytes input), .memoryFile (.ofBytes [])] }

/-- What an argument means as a source.  One dash is the standard input. -/
def sourceOf (argument : String) : Source :=
  if argument = "-" then .stream stdin else .text argument

/-! ## Reading the sources -/

/-- Build the machine that reads a source. -/
def Options.build (options : Options) (memory : Memory) : Construction Reader :=
  Reader.make (options.bytes.map Nat.cast) options.capacity memory

/-- Read one source from start to end. -/
def readSource (limit : Nat) (options : Options) (argument : String) : Action Bytes :=
  Action.withSource .blocking (sourceOf argument) Mode.source fun handle => do
    let reader <- Action.construct options.build
    Action.driveToValue .blocking limit reader handle

/-- Read sources one after the other. -/
def readInTurn (limit : Nat) (options : Options) :
    List String -> Context Host -> List (Except Fault Bytes) × Context Host
  | [], context => ([], context)
  | argument :: rest, context =>
    let (result, context) : Except Fault Bytes × Context Host :=
      match readSource limit options argument context with
      | .ok bytes context => (.ok bytes, context)
      | .error fault context => (.error fault, context)
    let (results, context) := readInTurn limit options rest context
    (result :: results, context)

/-- How far the task of a source has come. -/
inductive Task where
  | waiting
  | reading (handle : Handle) (reader : Reader) (answer : Option Exchange)
  | finished (result : Except Fault Bytes)

namespace Task

def isFinished : Task -> Bool
  | .finished _ => true
  | _ => false

/-- Close the stream of a task that has come to a result.  A failure to close
takes the place of the result. -/
def conclude (handle : Handle) (result : Except Fault Bytes) (context : Context Host) :
    Task × Context Host :=
  match context.state.close handle with
  | (.ok (), host) => (.finished result, { context with state := host })
  | (.error fault, host) => (.finished (.error fault), { context with state := host })

/-- Open the source and build the machine. -/
def begin (options : Options) (argument : String) (context : Context Host) :
    Task × Context Host :=
  match context.state.openSource .asynchronous (sourceOf argument) Mode.source with
  | (.error fault, host) => (.finished (.error fault), { context with state := host })
  | (.ok handle, host) =>
    let context := { context with state := host }
    match Action.construct options.build context with
    | .ok reader context => (.reading handle reader none, context)
    | .error fault context => conclude handle (.error fault) context

/-- Resume the machine, and perform the exchange it needs. -/
def exchange (handle : Handle) (reader : Reader) (answer : Option Exchange)
    (context : Context Host) : Task × Context Host :=
  let step := reader.resume answer context.memory
  let context := { (context.note step.events) with memory := step.memory }
  match step.progress with
  | .needs exchange =>
    match ResumableStreams.handle .asynchronous (context.state.stream handle) exchange context with
    | (.ok answer, context) => (.reading handle step.machine (some answer), context)
    | (.error fault, context) => conclude handle (.error fault) context
  | .finished bytes => conclude handle (.ok bytes) context
  | .endOfStream => conclude handle (.error (.lacks "Eof" "value")) context
  | .failed error => conclude handle (.error (.reported error)) context
  | .raised fault => conclude handle (.error fault) context

/-- Make one step.  Between two steps any other task may make any number. -/
def advance (options : Options) (argument : String) (task : Task) (context : Context Host) :
    Task × Context Host :=
  match task with
  | .waiting => begin options argument context
  | .reading handle reader answer => exchange handle reader answer context
  | .finished result => (.finished result, context)

/-- Make steps until there is a result. -/
def complete (options : Options) (argument : String) :
    (limit : Nat) -> Task -> Context Host -> Except Fault Bytes × Context Host
  | _, .finished result, context => (result, context)
  | 0, _, context => (.error .unfinished, context)
  | limit + 1, task, context =>
    let (task, context) := advance options argument task context
    complete options argument limit task context

end Task

/-- Let the task with the given number make one step.  A number without a task
does nothing. -/
def advanceAt (options : Options) (number : Nat) (tasks : List (String × Task))
    (context : Context Host) : List (String × Task) × Context Host :=
  match tasks[number]? with
  | none => (tasks, context)
  | some (argument, task) =>
    let (task, context) := task.advance options argument context
    (tasks.set number (argument, task), context)

/-- Let the tasks with the given numbers make a step each. -/
def advanceInTurn (options : Options) (schedule : List Nat) (tasks : List (String × Task))
    (context : Context Host) : List (String × Task) × Context Host :=
  schedule.foldl (fun (tasks, context) number => advanceAt options number tasks context)
    (tasks, context)

/-- Let every task make a step, in order, and then again, until all have a
result or the limit is reached. -/
def takeRounds (options : Options) :
    (limit : Nat) -> List (String × Task) -> Context Host -> List (String × Task) × Context Host
  | 0, tasks, context => (tasks, context)
  | limit + 1, tasks, context =>
    if tasks.all fun entry => entry.2.isFinished then (tasks, context)
    else
      let (tasks, context) := advanceInTurn options (List.range tasks.length) tasks context
      takeRounds options limit tasks context

/-- Complete all tasks, in order. -/
def completeAll (limit : Nat) (options : Options) :
    List (String × Task) -> Context Host -> List (Except Fault Bytes) × Context Host
  | [], context => ([], context)
  | (argument, task) :: rest, context =>
    let (result, context) := task.complete options argument limit context
    let (results, context) := completeAll limit options rest context
    (result :: results, context)

/-- Read sources by tasks that take turns as scheduled.  When the schedule is
used up, the tasks go on in rounds.  A task that has no result after all
rounds is completed by itself. -/
def readByTasks (limit : Nat) (options : Options) (schedule : List Nat)
    (arguments : List String) (context : Context Host) :
    List (Except Fault Bytes) × Context Host :=
  let waiting := arguments.map fun argument => (argument, Task.waiting)
  let (tasks, context) := advanceInTurn options schedule waiting context
  let (tasks, context) := takeRounds options limit tasks context
  completeAll limit options tasks context

/-! ## Writing to the sink -/

/-- What is shown on the standard error, newest line first, and the context. -/
structure Console where
  lines : List String
  context : Context Host

namespace Console

/-- Show what the journal holds, if that is asked for, and empty it. -/
def showJournal (verbose : Bool) (console : Console) : Console where
  lines :=
    if verbose then console.context.journal.foldl (fun lines event => event.line :: lines)
      console.lines
    else console.lines
  context := { console.context with journal := #[] }

/-- Echo a line after everything that has been noted before. -/
def report (echo : String -> String) (verbose : Bool) (line : String) (console : Console) :
    Console :=
  let console := console.showJournal verbose
  { console with lines := echo line :: console.lines }

def text (console : Console) : String :=
  String.join (console.lines.reverse.map (· ++ "\n"))

end Console

section

variable (echo : String -> String)

/-- Write what was read of each source to the sink, and report the sources
that failed.  The first failure of the sink ends it. -/
def writeResults (limit : Nat) (verbose : Bool) (sink : Handle) :
    List (String × Except Fault Bytes) -> Console -> Option Fault × Console
  | [], console => (none, console)
  | (argument, .error fault) :: rest, console =>
    writeResults limit verbose sink rest
      (console.report echo verbose s!"{argument}: {fault.message}")
  | (_, .ok bytes) :: rest, console =>
    let context := console.context
    let (machine, events) := WriteAll.make (.frozen bytes) context.memory
    let run := drive .blocking (context.state.stream sink) limit machine (context.note events)
    let console := { console with context := run.context }
    match run.ending.value? with
    | .error fault => (some fault, console)
    | .ok _ => writeResults limit verbose sink rest console

/-- Open the sink: a path, or the standard output. -/
def openSink (output : Option String) (host : Host) : Except Fault Handle × Host :=
  host.openSource .blocking
    (match output with
      | some path => .path path
      | none => .stream stdout)
    Mode.sink

/-- Write everything to the sink, flush it, and close it in any case.  What
escapes is the last failure. -/
def writeSink (limit : Nat) (options : Options) (results : List (String × Except Fault Bytes))
    (console : Console) : Option Fault × Console :=
  let onHost := fun (change : Host -> Except Fault Unit × Host) (console : Console) =>
    let (result, host) := change console.context.state
    (match result with
      | .ok () => none
      | .error fault => some fault,
      { console with context := { console.context with state := host } })
  match openSink options.output console.context.state with
  | (.error fault, host) =>
    (some fault, { console with context := { console.context with state := host } })
  | (.ok sink, host) =>
    let console := { console with context := { console.context with state := host } }
    let (fault, console) := writeResults echo limit options.verbose sink results console
    let (fault, console) := match fault with
      | some fault => (some fault, console)
      | none => onHost (fun host => host.flush sink) console
    let (closing, console) := onHost (fun host => host.close sink) console
    (closing.or fault, console)

/-! ## The whole command -/

/-- What the command leaves behind. -/
structure Outcome where
  exitCode : Nat
  stdout : Bytes
  stderr : String
  /-- The failure that ended the command before its end. -/
  escaped : Option Fault
  host : Host

/-- What has been written to the standard output of a host. -/
def written (host : Host) : Bytes :=
  match host.devices[stdout]? with
  | some (.memoryFile file) => file.contents
  | _ => []

/-- The result of a source was a failure. -/
def isFailure : Except Fault Bytes -> Bool
  | .ok _ => false
  | .error _ => true

def copy (limit : Nat) (schedule : List Nat) (options : Options) (context : Context Host) :
    Outcome :=
  let (results, context) := match options.concurrency with
    | .blocking => readInTurn limit options options.sources context
    | .asynchronous => readByTasks limit options schedule options.sources context
  let (escaped, console) :=
    writeSink echo limit options (options.sources.zip results) ⟨[], context⟩
  let console := console.showJournal options.verbose
  { exitCode := if escaped.isSome || results.any isFailure then 1 else 0
    stdout := written console.context.state
    stderr := console.text
    escaped := escaped
    host := console.context.state }

/-- Run the command as its options ask for. -/
def run (limit : Nat) (schedule : List Nat) (options : Options) (context : Context Host) :
    Outcome :=
  if options.sources.isEmpty then
    { exitCode := 1
      stdout := []
      stderr := echo "No input sources given." ++ "\n"
      escaped := none
      host := context.state }
  else copy echo limit schedule options context

end

end Command

end ResumableStreams
