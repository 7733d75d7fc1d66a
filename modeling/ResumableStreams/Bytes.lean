namespace ResumableStreams

/-!
# Byte strings

Everything that moves through a stream is a finite list of bytes.  This
module gives the few operations on such lists that buffers and files need:
a run of zeros, and writing over a part of some contents.  Writing over
contents never loses the bytes outside the written part; where the written
part reaches past the end, the contents grow, and a gap in front of it is
filled with zeros.
-/

/-- A byte string. -/
abbrev Bytes := List UInt8

namespace Bytes

def zeros (count : Nat) : Bytes := List.replicate count 0

@[simp] theorem length_zeros (count : Nat) : (zeros count).length = count :=
  List.length_replicate

/-- Put `data` over the start of `contents`.  Data longer than the contents
makes the result longer. -/
def overStart (data contents : Bytes) : Bytes := data ++ contents.drop data.length

@[simp] theorem overStart_nil (contents : Bytes) : overStart [] contents = contents := rfl

theorem length_overStart (data contents : Bytes) :
    (overStart data contents).length = max data.length contents.length := by
  simp only [overStart, List.length_append, List.length_drop]
  omega

/-- Data that fits keeps the length of the contents. -/
theorem length_overStart_of_le {data contents : Bytes} (fits : data.length ≤ contents.length) :
    (overStart data contents).length = contents.length := by
  rw [length_overStart, Nat.max_eq_right fits]

@[simp] theorem take_overStart (data contents : Bytes) :
    (overStart data contents).take data.length = data := by
  simp [overStart]

/-- Put `data` over `contents` from position `offset` on.  Where the contents
end before `offset`, zeros fill the gap. -/
def overAt (offset : Nat) (data contents : Bytes) : Bytes :=
  contents.take offset ++ zeros (offset - contents.length) ++ data ++
    contents.drop (offset + data.length)

@[simp] theorem overAt_zero (data contents : Bytes) :
    overAt 0 data contents = overStart data contents := by
  simp [overAt, overStart, zeros]

theorem overAt_length (data contents : Bytes) :
    overAt contents.length data contents = contents ++ data := by
  simp [overAt, zeros]

/-- A position counted from the start, or from the end if negative, brought
into the range `0..length`. -/
def position (index : Int) (length : Nat) : Nat :=
  min (if index < 0 then index + length else index).toNat length

/-- Replace the part of `contents` between two positions by `data`.  A part
that ends before it starts is empty and stands at its start. -/
def splice (start stop : Int) (data contents : Bytes) : Bytes :=
  let first := position start contents.length
  contents.take first ++ data ++ contents.drop (max first (position stop contents.length))

end Bytes

/-!
## Collected bytes

Machines gather bytes piece by piece.  A `Collected` keeps them newest first,
so that adding a piece costs only the length of the piece.  Its view is
`Collected.bytes`, the bytes in the order of arrival.
-/

/-- Bytes gathered so far, with their number. -/
structure Collected where
  newestFirst : Bytes
  size : Nat
  size_eq_length : size = newestFirst.length

namespace Collected

def empty : Collected := ⟨[], 0, rfl⟩

/-- The gathered bytes in the order of arrival. -/
def bytes (collected : Collected) : Bytes := collected.newestFirst.reverse

/-- Add a piece after everything gathered so far. -/
def append (collected : Collected) (piece : Bytes) : Collected where
  newestFirst := piece.reverseAux collected.newestFirst
  size := collected.size + piece.length
  size_eq_length := by
    rw [List.reverseAux_eq, List.length_append, List.length_reverse, collected.size_eq_length,
      Nat.add_comm]

@[simp] theorem bytes_empty : empty.bytes = [] := rfl

@[simp] theorem bytes_append (collected : Collected) (piece : Bytes) :
    (collected.append piece).bytes = collected.bytes ++ piece := by
  simp [bytes, append, List.reverseAux_eq]

@[simp] theorem length_bytes (collected : Collected) :
    collected.bytes.length = collected.size := by
  rw [bytes, List.length_reverse, collected.size_eq_length]

end Collected

end ResumableStreams
