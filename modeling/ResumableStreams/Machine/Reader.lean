import ResumableStreams.Machine.ReadExact
import ResumableStreams.Machine.ReadToEnd

namespace ResumableStreams

/-!
# Reading a piece or all of a source

A `Reader` gathers either a given number of bytes or everything up to the
end.  It is resumed as the machine that it is.
-/

/-- A machine that gathers bytes. -/
inductive Reader where
  | exact (machine : ReadExact)
  | toEnd (machine : ReadToEnd)

namespace Reader

/-- A machine for so many bytes, or for all where no number is given. -/
def make (size : Option Int) (capacity : Int) (memory : Memory) : Construction Reader :=
  match size with
  | some size => (ReadExact.make size capacity memory).map .exact
  | none => (ReadToEnd.make capacity memory).map .toEnd

def resume (reader : Reader) (answer : Option Exchange) (memory : Memory) : Step Reader Bytes :=
  match reader with
  | .exact machine => (machine.resume answer memory).map .exact id
  | .toEnd machine => (machine.resume answer memory).map .toEnd id

instance : Resumable Reader Bytes := ⟨resume⟩

end Reader

end ResumableStreams
