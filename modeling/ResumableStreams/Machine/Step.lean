import ResumableStreams.Event
import ResumableStreams.Fault

namespace ResumableStreams

/-!
# Steps of a machine

A machine is a value.  Resuming it gives a `Step`: how far it came, the
machine as it is afterwards, the memory afterwards, and what it noted in the
journal.  A machine that is resumed without an exchange asks for its next
request; one that is resumed with an exchange takes it as the answer to its
last request.  What goes wrong is reported as progress.  The one thing that
cannot be reported is an error that cannot be built; then the step fails.
-/

/-- How far a machine came. -/
inductive Progress (Value : Type) where
  | finished (value : Value)
  /-- The machine needs this exchange to be performed before it can go on. -/
  | needs (exchange : Exchange)
  /-- The stream ended.  Only the consumer knows if that is an error. -/
  | endOfStream
  | failed (error : StreamError)
  /-- The step failed, and nothing is reported. -/
  | raised (fault : Fault)

/-- Report an error, which has to be built first. -/
def Progress.reporting {Value : Type} (error : StreamError) : Progress Value :=
  match error.build with
  | .ok error => .failed error
  | .error fault => .raised fault

theorem Progress.reporting_eq_ite {Value : Type} (error : StreamError) :
    (reporting error : Progress Value) =
      if ∀ number ∈ error.shown, Text.Writable number then .failed error
      else .raised .overlongInteger := by
  unfold reporting StreamError.build
  by_cases writable : ∀ number ∈ error.shown, Text.Writable number
  · simp only [if_pos writable]
  · simp only [if_neg writable]

/-- The error for a stream that ends too early shows the target and a part of it, and
can be built if the target can be written. -/
theorem Progress.reporting_unexpectedEnd {Value : Type} {remaining target : Nat}
    (le : remaining ≤ target) (partialBytes : Buffer) :
    (reporting (.unexpectedEnd remaining target partialBytes) : Progress Value) =
      if Text.Writable target then .failed (.unexpectedEnd remaining target partialBytes)
      else .raised .overlongInteger := by
  have shown : (∀ number ∈ (StreamError.unexpectedEnd remaining target partialBytes).shown,
      Text.Writable number) ↔ Text.Writable target := by
    simp only [StreamError.shown, List.forall_mem_cons, List.not_mem_nil, false_implies,
      implies_true, and_true, and_iff_right_iff_imp]
    exact fun writable => writable.of_le le
  simp only [reporting_eq_ite, shown]

theorem Progress.reporting_ne_needs {Value : Type} (error : StreamError) (exchange : Exchange) :
    (reporting error : Progress Value) ≠ .needs exchange := by
  rw [reporting_eq_ite]
  split <;> exact nofun

/-- What resuming a machine gives. -/
structure Step (Machine Value : Type) where
  progress : Progress Value
  machine : Machine
  memory : Memory
  events : List Event

/-- The same step, with events noted before its own. -/
def Step.after {Machine Value : Type} (events : List Event) (step : Step Machine Value) :
    Step Machine Value :=
  { step with events := events ++ step.events }

/-- See the result of a progress as another. -/
def Progress.map {First Second : Type} (change : First -> Second) :
    Progress First -> Progress Second
  | .finished value => .finished (change value)
  | .needs exchange => .needs exchange
  | .endOfStream => .endOfStream
  | .failed error => .failed error
  | .raised fault => .raised fault

theorem Progress.map_reporting {First Second : Type} (change : First -> Second)
    (error : StreamError) : (reporting error).map change = reporting error := by
  simp only [reporting_eq_ite]
  split <;> rfl

/-- See the machine and the result of a step as others. -/
def Step.map {Machine Other Value Result : Type} (machine : Machine -> Other)
    (value : Value -> Result) (step : Step Machine Value) : Step Other Result :=
  ⟨step.progress.map value, machine step.machine, step.memory, step.events⟩

/-- What building a machine gives: the machine, or the reason why its
arguments were refused.  Events may have been noted in either case. -/
structure Construction (Machine : Type) where
  result : Except Fault Machine
  memory : Memory
  events : List Event

/-- See a newly built machine as another. -/
def Construction.map {Machine Other : Type} (change : Machine -> Other)
    (construction : Construction Machine) : Construction Other :=
  ⟨construction.result.map change, construction.memory, construction.events⟩

/-- The type of machines with results of type `Value`. -/
class Resumable (Machine : Type) (Value : outParam Type) where
  /-- Make the machine progress. -/
  resume : Machine -> Option Exchange -> Memory -> Step Machine Value

/-- Refuse the length of a buffer that cannot be allocated where there is this
much room. -/
def checkLength (length room : Nat) : Except Fault Unit :=
  if length ≥ Memory.addressable then .error .lengthNotAddressable
  else if length ≥ room then .error .outOfMemory
  else .ok ()

/-- How bytes given one by one are refused: the first number that is no byte
refuses all of them. -/
def bytesOfNumbers (numbers : List Int) : Except Fault Bytes :=
  numbers.mapM fun number =>
    if 0 ≤ number ∧ number < 256 then .ok (UInt8.ofNat number.toNat) else .error .byteOutOfRange

end ResumableStreams
