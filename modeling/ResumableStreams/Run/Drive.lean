import ResumableStreams.Run.Handle

namespace ResumableStreams

/-!
# Driving a machine

A driver resumes a machine, performs the exchange it needs, and resumes it
with the answer, until the machine has come to its end or something has
failed.  A failure of the stream ends the run at once: nothing is tried
again.  The machine keeps what it has, so it may be driven again.

A machine on a stream that would block for ever never comes to its end.  A
driver therefore has a limit on how often it resumes the machine.  When the
limit is reached after an exchange, the answer is lost to the machine.
-/

/-- How a run ended. -/
inductive Ending (Value : Type) where
  | finished (value : Value)
  | endOfStream
  /-- The machine reported an error. -/
  | failed (error : StreamError)
  /-- The stream, the check of its reply, or the machine itself failed. -/
  | raised (fault : Fault)
  /-- The machine had not come to its end at the limit. -/
  | unfinished

/-- What performing an exchange came to. -/
inductive Turn.Result where
  | moved (count : Nat)
  | nothing
  | raised
  deriving DecidableEq

/-- One exchange of a run: the request, the length of its buffer when it was
made, and what performing it came to. -/
structure Turn where
  request : Exchange
  size : Nat
  result : Turn.Result
  deriving DecidableEq

/-- What the answer to a request says has moved. -/
def Turn.Result.ofAnswer (answer : Exchange) : Turn.Result :=
  match answer.payload with
  | .request _ => .nothing
  | .response output => .moved output.count

/-- A run: how it ended, the machine and everything else as they are
afterwards, and the exchanges performed, in order. -/
structure Run (Machine Value State : Type) where
  ending : Ending Value
  machine : Machine
  context : Context State
  turns : List Turn

section

variable {Machine Value State : Type} [Resumable Machine Value]

/-- Drive a machine from an answer on, after the given exchanges, newest
first. -/
def driveFrom (perform : Exchange -> Context State -> Except Fault Exchange × Context State) :
    (limit : Nat) -> Machine -> Option Exchange -> Context State -> List Turn ->
      Run Machine Value State
  | 0, machine, _, context, turns => ⟨.unfinished, machine, context, turns.reverse⟩
  | limit + 1, machine, answer, context, turns =>
    let step := Resumable.resume machine answer context.memory
    let context := { (context.note step.events) with memory := step.memory }
    match step.progress with
    | .finished value => ⟨.finished value, step.machine, context, turns.reverse⟩
    | .endOfStream => ⟨.endOfStream, step.machine, context, turns.reverse⟩
    | .failed error => ⟨.failed error, step.machine, context, turns.reverse⟩
    | .raised fault => ⟨.raised fault, step.machine, context, turns.reverse⟩
    | .needs exchange =>
      let size := exchange.carried.size context.memory
      match perform exchange context with
      | (.ok answer, context) =>
        driveFrom perform limit step.machine (some answer) context
          (⟨exchange, size, .ofAnswer answer⟩ :: turns)
      | (.error fault, context) =>
        ⟨.raised fault, step.machine, context, (⟨exchange, size, .raised⟩ :: turns).reverse⟩

/-- Drive a machine on a stream, starting with the given answer to a request
it may have made before. -/
def driveOn (concurrency : Concurrency) (stream : Stream State) (limit : Nat)
    (machine : Machine) (answer : Option Exchange) (context : Context State) :
    Run Machine Value State :=
  driveFrom (handle concurrency stream) limit machine answer context []

/-- Drive a machine on a stream. -/
def drive (concurrency : Concurrency) (stream : Stream State) (limit : Nat)
    (machine : Machine) (context : Context State) : Run Machine Value State :=
  driveOn concurrency stream limit machine none context

end

/-- The value of a run that a caller waits for.  Whatever the machine reported
or the stream failed with is a fault; the end of the stream has no value. -/
def Ending.value? {Value : Type} : Ending Value -> Except Fault (Option Value)
  | .finished value => .ok (some value)
  | .endOfStream => .ok none
  | .failed error => .error (.reported error)
  | .raised fault => .error fault
  | .unfinished => .error .unfinished

end ResumableStreams
