import ResumableStreams.Bytes

namespace ResumableStreams

/-!
# Shared buffers

A mutable buffer may be held in several places at once: by a machine, by the
request it has sent out, by the runtime that fills it.  All of them name the
same `Cell` of a `Memory`, and see each other's changes.  Immutable bytes
need no cell.

The only view of a memory is `Memory.contents`.  Storing changes one cell and
no other; allocating changes no cell that exists.  How long a buffer may be is a
matter of the memory as well, and nothing changes it.
-/

/-- The name of a mutable buffer. -/
structure Cell where
  index : Nat
  deriving DecidableEq

/-- The contents of all mutable buffers. -/
structure Memory where
  cells : Array Bytes
  /-- A buffer of this many bytes or more finds no room, a shorter one always
  does. -/
  room : Nat

namespace Memory

/-- The length of a buffer is below this number, or it could not be addressed. -/
def addressable : Nat := 1 <<< 63

/-- A memory without buffers, and with room for every one that can be addressed. -/
def empty : Memory := ⟨#[], addressable⟩

/-- The buffer `cell` exists in this memory. -/
def Holds (memory : Memory) (cell : Cell) : Prop := cell.index < memory.cells.size

/-- What the buffer holds at present.  A cell that does not exist reads as
empty. -/
def contents (memory : Memory) (cell : Cell) : Bytes := memory.cells.getD cell.index []

/-- Give a buffer new contents, possibly of another length. -/
def store (memory : Memory) (cell : Cell) (bytes : Bytes) : Memory :=
  { memory with cells := memory.cells.setIfInBounds cell.index bytes }

def allocate (memory : Memory) (bytes : Bytes) : Cell × Memory :=
  (⟨memory.cells.size⟩, { memory with cells := memory.cells.push bytes })

@[simp] theorem room_store (memory : Memory) (cell : Cell) (bytes : Bytes) :
    (memory.store cell bytes).room = memory.room := rfl

@[simp] theorem room_allocate (memory : Memory) (bytes : Bytes) :
    (memory.allocate bytes).2.room = memory.room := rfl

theorem contents_store_self {memory : Memory} {cell : Cell} (held : memory.Holds cell)
    (bytes : Bytes) : (memory.store cell bytes).contents cell = bytes := by
  have held' : cell.index < memory.cells.size := held
  simp [contents, store, held']

/-- Storing what a buffer holds already changes nothing. -/
theorem store_contents (memory : Memory) (cell : Cell) :
    memory.store cell (memory.contents cell) = memory := by
  unfold store contents
  congr 1
  apply Array.ext_getElem?
  intro index
  by_cases same : cell.index = index
  · subst same
    by_cases held : cell.index < memory.cells.size
    · simp [held]
    · simp [Nat.le_of_not_lt held]
  · rw [Array.getElem?_setIfInBounds_ne same]

/-- There is nothing where there is no buffer. -/
theorem contents_of_not_holds {memory : Memory} {cell : Cell} (missing : ¬ memory.Holds cell) :
    memory.contents cell = [] := by
  have outside : memory.cells.size ≤ cell.index := Nat.le_of_not_lt missing
  simp [contents, outside]

/-- Storing where there is no buffer changes nothing. -/
theorem store_of_not_holds {memory : Memory} {cell : Cell} (missing : ¬ memory.Holds cell)
    (bytes : Bytes) : memory.store cell bytes = memory :=
  congrArg (Memory.mk · memory.room)
    (Array.setIfInBounds_eq_of_size_le (Nat.le_of_not_lt missing))

theorem contents_store_of_ne {memory : Memory} {cell other : Cell} (different : other ≠ cell)
    (bytes : Bytes) : (memory.store cell bytes).contents other = memory.contents other := by
  have apart : cell.index ≠ other.index := fun same => different (by
    cases cell; cases other; cases same; rfl)
  simp [contents, store, Array.getElem?_setIfInBounds_ne apart]

@[simp] theorem contents_allocate_new (memory : Memory) (bytes : Bytes) :
    (memory.allocate bytes).2.contents (memory.allocate bytes).1 = bytes := by
  simp [contents, allocate]

theorem contents_allocate_of_holds {memory : Memory} {cell : Cell} (held : memory.Holds cell)
    (bytes : Bytes) : (memory.allocate bytes).2.contents cell = memory.contents cell := by
  have held' : cell.index < memory.cells.size := held
  have apart : cell.index ≠ memory.cells.size := Nat.ne_of_lt held'
  simp [contents, allocate, Array.getElem?_push, apart]

/-- Further buffers without contents are not seen. -/
theorem contents_allocate_nil (memory : Memory) (cell : Cell) :
    (memory.allocate []).2.contents cell = memory.contents cell := by
  by_cases held : memory.Holds cell
  · exact contents_allocate_of_holds held []
  · rw [contents_of_not_holds held]
    by_cases new : cell.index = memory.cells.size
    · simp [contents, allocate, new]
    · have beyond : ¬ (memory.allocate []).2.Holds cell := by
        have outside : memory.cells.size ≤ cell.index := Nat.le_of_not_lt held
        simp only [Holds, allocate, Array.size_push]
        omega
      exact contents_of_not_holds beyond

theorem holds_allocate_new (memory : Memory) (bytes : Bytes) :
    (memory.allocate bytes).2.Holds (memory.allocate bytes).1 := by
  simp [Holds, allocate]

theorem holds_allocate_of_holds {memory : Memory} {cell : Cell} (held : memory.Holds cell)
    (bytes : Bytes) : (memory.allocate bytes).2.Holds cell := by
  have held' : cell.index < memory.cells.size := held
  simp only [Holds, allocate, Array.size_push]
  omega

/-- A new buffer is none of those that existed. -/
theorem allocate_ne_of_holds {memory : Memory} {cell : Cell} (held : memory.Holds cell)
    (bytes : Bytes) : (memory.allocate bytes).1 ≠ cell := by
  intro same
  have held' : cell.index < memory.cells.size := held
  have index : memory.cells.size = cell.index := congrArg Cell.index same
  omega

@[simp] theorem holds_store_iff (memory : Memory) (cell other : Cell) (bytes : Bytes) :
    (memory.store cell bytes).Holds other ↔ memory.Holds other := by
  simp [Holds, store]

end Memory

/-- A buffer as machines and runtimes pass it around: immutable bytes, or the
name of a mutable buffer. -/
inductive Buffer where
  | frozen (bytes : Bytes)
  | shared (cell : Cell)
  deriving DecidableEq

namespace Buffer

/-- The bytes a buffer holds at present. -/
def bytes (buffer : Buffer) (memory : Memory) : Bytes :=
  match buffer with
  | .frozen bytes => bytes
  | .shared cell => memory.contents cell

/-- The contents of the buffer may be changed. -/
def isMutable (buffer : Buffer) : Bool :=
  match buffer with
  | .frozen _ => false
  | .shared _ => true

def size (buffer : Buffer) (memory : Memory) : Nat := (buffer.bytes memory).length

@[simp] theorem bytes_frozen (bytes : Bytes) (memory : Memory) :
    (Buffer.frozen bytes).bytes memory = bytes := rfl

@[simp] theorem bytes_shared (cell : Cell) (memory : Memory) :
    (Buffer.shared cell).bytes memory = memory.contents cell := rfl

/-- Everything after the first `count` bytes, as a buffer of the same kind.
The rest of a mutable buffer is a new buffer, not a window on the old one. -/
def rest (buffer : Buffer) (count : Nat) (memory : Memory) : Buffer × Memory :=
  match buffer with
  | .frozen bytes => (.frozen (bytes.drop count), memory)
  | .shared cell =>
    let (fresh, memory) := memory.allocate ((memory.contents cell).drop count)
    (.shared fresh, memory)

/-- The rest holds what follows the first `count` bytes. -/
theorem bytes_rest (buffer : Buffer) (count : Nat) (memory : Memory) :
    (buffer.rest count memory).1.bytes (buffer.rest count memory).2 =
      (buffer.bytes memory).drop count := by
  cases buffer <;> simp [rest]

/-- What is left of a buffer when everything has been taken adds nothing to what
the other buffers hold. -/
theorem bytes_rest_size (buffer other : Buffer) (memory : Memory) :
    other.bytes (buffer.rest (buffer.size memory) memory).2 = other.bytes memory := by
  cases buffer with
  | frozen bytes => rfl
  | shared cell =>
    cases other with
    | frozen bytes => rfl
    | shared other =>
      show (memory.allocate ((memory.contents cell).drop (memory.contents cell).length)).2.contents
        other = _
      rw [List.drop_length, Memory.contents_allocate_nil]
      rfl

end Buffer

end ResumableStreams
