import ResumableStreams.Machine.ReadExact
import ResumableStreams.Machine.ReadToEnd
import ResumableStreams.Machine.WriteAll

namespace ResumableStreams

/-!
# Machines of any kind

Where the kind of a machine is known only at run time, a `Machine` is one of
the five, and its result a `Value`.  Resuming it is resuming the machine that
it is.
-/

/-- A machine of one of the five kinds. -/
inductive Machine where
  | read (machine : Read)
  | write (machine : Write)
  | readExact (machine : ReadExact)
  | readToEnd (machine : ReadToEnd)
  | writeAll (machine : WriteAll)

/-- A result of a machine of any kind: an output, the bytes read, or the
number of bytes written. -/
inductive Value where
  | output (output : Output)
  | bytes (bytes : Bytes)
  | count (count : Nat)

namespace Machine

def resume (machine : Machine) (answer : Option Exchange) (memory : Memory) :
    Step Machine Value :=
  match machine with
  | .read machine => (machine.resume answer memory).map .read .output
  | .write machine => (machine.resume answer memory).map .write .output
  | .readExact machine => (machine.resume answer memory).map .readExact .bytes
  | .readToEnd machine => (machine.resume answer memory).map .readToEnd .bytes
  | .writeAll machine => (machine.resume answer memory).map .writeAll .count

instance : Resumable Machine Value := ⟨resume⟩

/-- How to seed bytes that are already known.  Only the two machines that
collect bytes take any. -/
def extend (machine : Machine) : Option (Bytes -> Machine) :=
  match machine with
  | .readExact machine => some fun bytes => .readExact (machine.extend bytes)
  | .readToEnd machine => some fun bytes => .readToEnd (machine.extend bytes)
  | _ => none

end Machine

end ResumableStreams
