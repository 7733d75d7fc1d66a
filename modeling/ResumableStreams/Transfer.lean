import ResumableStreams.Machine.Reader
import ResumableStreams.Machine.WriteAll
import ResumableStreams.Run.Drive
import ResumableStreams.Host

namespace ResumableStreams

/-!
# Whole transfers

Each of these functions opens a source or sink, drives one machine on it, and
closes it again whether or not the machine succeeded.  Closing a stream that
stands before one that was handed in leaves that one open.

An `Action` is what runs in a context and either has a result or stops with a
fault; the context is kept in both cases.
-/

/-- A computation in a context, which may stop with a fault. -/
abbrev Action (Result : Type) := EStateM Fault (Context Host) Result

namespace Action

/-- What a change of the host gives. -/
def onHost {Result : Type} (change : Host -> Except Fault Result × Host) : Action Result :=
  fun context =>
    match change context.state with
    | (.ok result, host) => .ok result { context with state := host }
    | (.error fault, host) => .error fault { context with state := host }

/-- A newly built machine. -/
def construct {Kind : Type} (build : Memory -> Construction Kind) : Action Kind :=
  fun context =>
    let built := build context.memory
    let context := { (context.note built.events) with memory := built.memory }
    match built.result with
    | .ok machine => .ok machine context
    | .error fault => .error fault context

/-- The value that driving a machine gives.  The end of the stream has none. -/
def driveToValue {Kind Value : Type} [Resumable Kind Value] (concurrency : Concurrency)
    (limit : Nat) (machine : Kind) (handle : Handle) : Action Value :=
  fun context =>
    let run := drive concurrency (context.state.stream handle) limit machine context
    match run.ending.value? with
    | .ok (some value) => .ok value run.context
    | .ok none => .error (.lacks "Eof" "value") run.context
    | .error fault => .error fault run.context

/-- Run an action, and then another in any case.  A fault of the second takes
the place of what the first gave. -/
def thenAlways {Result : Type} (action : Action Result) (last : Action Unit) : Action Result :=
  fun context =>
    match action context with
    | .ok result context =>
      match last context with
      | .ok () context => .ok result context
      | .error fault context => .error fault context
    | .error fault context =>
      match last context with
      | .ok () context => .error fault context
      | .error closing context => .error closing context

/-- Open a source, use the stream, and close it in any case. -/
def withSource {Result : Type} (concurrency : Concurrency) (source : Source) (mode : String)
    (use : Handle -> Action Result) : Action Result := do
  let handle <- onHost fun host => host.openSource concurrency source mode
  (use handle).thenAlways (onHost fun host => host.close handle)

end Action

def readToEnd (concurrency : Concurrency) (limit : Nat) (source : Source) (capacity : Int) :
    Action Bytes :=
  Action.withSource concurrency source Mode.source fun handle => do
    let machine <- Action.construct (ReadToEnd.make capacity)
    Action.driveToValue concurrency limit machine handle

def readExact (concurrency : Concurrency) (limit : Nat) (source : Source) (size capacity : Int) :
    Action Bytes :=
  Action.withSource concurrency source Mode.source fun handle => do
    let machine <- Action.construct (ReadExact.make size capacity)
    Action.driveToValue concurrency limit machine handle

/-- Write the whole of a buffer to a sink and flush it.  A sink that did not
take everything is not flushed. -/
def writeAll (concurrency : Concurrency) (limit : Nat) (sink : Source) (data : Buffer) :
    Action Nat :=
  Action.withSource concurrency sink Mode.sink fun handle => do
    let machine <- Action.construct fun memory =>
      let (machine, events) := WriteAll.make data memory
      ⟨.ok machine, memory, events⟩
    let written <- Action.driveToValue concurrency limit machine handle
    Action.onHost fun host => host.flush handle
    pure written

end ResumableStreams
