import ResumableStreams.Proofs.Conservation

namespace ResumableStreams

/-!
# Shorter buffers

A `ReadExact` shortens the buffer in hand to what is missing, and nothing ever
makes a buffer longer again but a longer one that is given back.  Two things are
said about this here.

A machine whose buffer has been shortened early, but not below what is missing,
does the same as one whose buffer has not: both make it fit before they do
anything else.

A machine whose buffer has been shortened further stays behind one whose buffer
has not.  It hands out shorter requests, and everything else is the same, as
long as a response that is passed to both is about bytes that the shorter buffer
holds.
-/

/-! ## Shortening a buffer in hand -/

namespace Memory

/-- Of two contents stored into one cell the second stays. -/
theorem store_store (memory : Memory) (cell : Cell) (first second : Bytes) :
    (memory.store cell first).store cell second = memory.store cell second := by
  simp only [store, Array.setIfInBounds_setIfInBounds]

theorem store_comm (memory : Memory) {cell other : Cell} (different : cell ≠ other)
    (first second : Bytes) :
    (memory.store cell first).store other second =
      (memory.store other second).store cell first := by
  have apart : cell.index ≠ other.index := fun same => different (by
    cases cell; cases other; cases same; rfl)
  simp only [store, Array.setIfInBounds_comm _ _ apart]

/-- A byte that is put into a buffer is there, if there is room for it. -/
theorem contents_store_set (memory : Memory) (cell : Cell) (index : Nat) (byte : UInt8) :
    (memory.store cell ((memory.contents cell).set index byte)).contents cell =
      (memory.contents cell).set index byte := by
  by_cases held : memory.Holds cell
  · exact contents_store_self held _
  · rw [store_of_not_holds held, contents_of_not_holds held, List.set_nil]

end Memory

namespace Read

/-- Of two lengths to which a buffer is shortened, the smaller counts if it
comes last. -/
theorem truncate_truncate (read : Read) {length longer : Nat} (le : length ≤ longer)
    (memory : Memory) :
    (read.truncate longer memory).1.truncate length (read.truncate longer memory).2 =
      read.truncate length memory := by
  rcases Nat.lt_or_ge longer read.capacity with short | long
  · rw [truncate_of_lt short, truncate_of_lt (Nat.lt_of_le_of_lt le short)]
    rcases Nat.lt_or_eq_of_le le with less | same
    · rw [@truncate_of_lt { read with capacity := longer } length less]
      rcases read with ⟨capacity, _ | cell⟩
      · rfl
      · simp only [Memory.contents_store_take, List.take_take, Nat.min_eq_left le,
          Memory.store_store]
    · subst same
      exact truncate_of_le (Nat.le_refl _) _
  · rw [truncate_of_le long]

/-- Shortening a buffer and putting a byte into one may change places. -/
theorem truncate_store_set (read : Read) (length : Nat) (memory : Memory) (cell : Cell)
    (index : Nat) (byte : UInt8) :
    read.truncate length (memory.store cell ((memory.contents cell).set index byte)) =
      ((read.truncate length memory).1,
        (read.truncate length memory).2.store cell
          (((read.truncate length memory).2.contents cell).set index byte)) := by
  rcases Nat.lt_or_ge length read.capacity with short | long
  · rw [truncate_of_lt short, truncate_of_lt short]
    rcases read with ⟨capacity, _ | inHand⟩
    · rfl
    · by_cases same : inHand = cell
      · subst same
        simp only [Memory.contents_store_take, Memory.contents_store_set, Memory.store_store,
          List.take_set]
      · have apart : cell ≠ inHand := fun equal => same equal.symm
        simp only [Memory.contents_store_of_ne same, Memory.contents_store_of_ne apart]
        rw [Memory.store_comm _ apart]
  · rw [truncate_of_le long, truncate_of_le long]

end Read

namespace ReadExact

/-- The machine with its buffer shortened, and the memory then. -/
def cut (machine : ReadExact) (length : Nat) (memory : Memory) : ReadExact × Memory :=
  ({ machine with read := (machine.read.truncate length memory).1 },
    (machine.read.truncate length memory).2)

/-- A machine whose buffer has been shortened, but not below what is missing,
makes it fit as it would have done before. -/
theorem trimmed_cut (machine : ReadExact) {length : Nat} (enough : machine.remaining ≤ length)
    (memory : Memory) :
    (machine.cut length memory).1.trimmed (machine.cut length memory).2 =
      machine.trimmed memory := by
  rw [trimmed_eq_truncate, trimmed_eq_truncate]
  exact machine.read.truncate_truncate enough memory

/-- As long as something is missing, such a machine does the same with any
answer. -/
theorem resume_cut {machine : ReadExact} (incomplete : ¬ machine.Complete) {length : Nat}
    (enough : machine.remaining ≤ length) (answer : Option Exchange) (memory : Memory) :
    (machine.cut length memory).1.resume answer (machine.cut length memory).2 =
      machine.resume answer memory := by
  have same := machine.trimmed_cut enough memory
  have incomplete' : ¬ (machine.cut length memory).1.Complete := incomplete
  cases answer with
  | none =>
    show (machine.cut length memory).1.request (machine.cut length memory).2 =
      machine.request memory
    rw [request, request, if_neg incomplete, if_neg incomplete', same]
    rfl
  | some exchange =>
    show (machine.cut length memory).1.receive exchange (machine.cut length memory).2 =
      machine.receive exchange memory
    rw [receive, receive, if_neg incomplete, if_neg incomplete', same]
    rfl

/-- A refusal does nothing but shorten the buffer to what is missing. -/
theorem resume_refused {machine : ReadExact} (incomplete : ¬ machine.Complete) (payload : Payload)
    (memory : Memory) :
    ∃ events, machine.resume (some ⟨.write, payload⟩) memory =
      ⟨.failed (.wrap .readExact (.invalidArgument "read output" ⟨.write, payload⟩
          (Exchange.describe ⟨.write, payload⟩ (machine.cut machine.remaining memory).2))),
        (machine.cut machine.remaining memory).1, (machine.cut machine.remaining memory).2,
        events⟩ := by
  refine ⟨[.remainingToRead machine.remaining, .readResumed], ?_⟩
  show machine.receive ⟨.write, payload⟩ memory = _
  rw [receive, if_neg incomplete, trimmed_eq_truncate]
  rfl

end ReadExact

/-! ## Memories of which one holds less -/

namespace Memory

/-- Every buffer holds a start of what it holds in the other memory. -/
structure Starts (memory other : Memory) : Prop where
  size : memory.cells.size = other.cells.size
  contents : ∀ cell, memory.contents cell <+: other.contents cell

variable {memory other : Memory}

theorem Starts.refl (memory : Memory) : memory.Starts memory :=
  ⟨rfl, fun _ => List.prefix_rfl⟩

theorem Starts.holds_iff (starts : memory.Starts other) {cell : Cell} :
    memory.Holds cell ↔ other.Holds cell := by
  unfold Holds
  rw [starts.size]

theorem Starts.store (starts : memory.Starts other) (cell : Cell) {bytes longer : Bytes}
    (start : bytes <+: longer) : (memory.store cell bytes).Starts (other.store cell longer) where
  size := by
    simp only [Memory.store, Array.size_setIfInBounds]
    exact starts.size
  contents := by
    intro name
    by_cases same : name = cell
    · subst same
      by_cases held : memory.Holds name
      · rw [contents_store_self held, contents_store_self (starts.holds_iff.mp held)]
        exact start
      · rw [store_of_not_holds held, contents_of_not_holds held]
        exact List.nil_prefix
    · rw [contents_store_of_ne same, contents_store_of_ne same]
      exact starts.contents name

/-- A new buffer has the same name in both memories. -/
theorem Starts.allocate (starts : memory.Starts other) {bytes longer : Bytes}
    (start : bytes <+: longer) :
    (memory.allocate bytes).1 = (other.allocate longer).1 ∧
      (memory.allocate bytes).2.Starts (other.allocate longer).2 := by
  refine ⟨congrArg Cell.mk starts.size, ?_, ?_⟩
  · simp only [Memory.allocate, Array.size_push]
    exact congrArg (· + 1) starts.size
  · intro cell
    simp only [Memory.allocate, Memory.contents, Array.getD_eq_getD_getElem?, Array.getElem?_push,
      starts.size]
    split
    · exact start
    · have contents := starts.contents cell
      simp only [Memory.contents, Array.getD_eq_getD_getElem?] at contents
      exact contents

/-- A buffer is no longer than what has been stored into it, also where there is
no such buffer. -/
theorem length_contents_store_le (memory : Memory) (cell : Cell) (bytes : Bytes) :
    ((memory.store cell bytes).contents cell).length ≤ bytes.length := by
  by_cases held : memory.Holds cell
  · exact Nat.le_of_eq (congrArg List.length (contents_store_self held bytes))
  · rw [store_of_not_holds held, contents_of_not_holds held]
    exact Nat.zero_le _

/-- What a response says has moved is the same in both memories, if the shorter
buffer holds it. -/
theorem Starts.bytes_eq (starts : memory.Starts other) {output : Output}
    (within : output.count ≤ output.buffer.size memory) :
    output.bytes memory = output.bytes other := by
  rcases output with ⟨buffer, count⟩
  cases buffer with
  | frozen bytes => rfl
  | shared cell =>
    have start := starts.contents cell
    have fits : count ≤ (memory.contents cell).length := within
    show (memory.contents cell).take count = (other.contents cell).take count
    rw [List.prefix_iff_eq_take.mp start, List.take_take, Nat.min_eq_left fits]

end Memory

theorem Bytes.zeros_prefix {count more : Nat} (le : count ≤ more) : zeros count <+: zeros more := by
  rw [List.prefix_iff_eq_take, length_zeros, take_zeros, Nat.min_eq_left le]

/-! ## Machines with less room -/

namespace Read

/-- Both have the same buffer in hand, or none, and the first has less room. -/
structure Behind (read : Read) (memory : Memory) (other : Read) (memory' : Memory) : Prop where
  slot : read.slot = other.slot
  capacity : read.capacity ≤ other.capacity
  memories : memory.Starts memory'
  inHand : ∀ cell, read.slot = some cell -> (memory.contents cell).length ≤ read.capacity

variable {read other : Read} {memory memory' : Memory}

/-- The first may be shortened alone. -/
theorem Behind.truncate_left (behind : read.Behind memory other memory') (length : Nat) :
    (read.truncate length memory).1.Behind (read.truncate length memory).2 other memory' := by
  rcases Nat.lt_or_ge length read.capacity with short | long
  · rw [truncate_of_lt short]
    have capacity : length ≤ other.capacity := Nat.le_trans (Nat.le_of_lt short) behind.capacity
    have slot := behind.slot
    rcases read with ⟨_, _ | cell⟩
    · exact ⟨slot, capacity, behind.memories, nofun⟩
    · have start : (memory.contents cell).take length <+: memory'.contents cell :=
        (List.take_prefix _ _).trans (behind.memories.contents cell)
      have memories := behind.memories.store cell start
      rw [memory'.store_contents cell] at memories
      refine ⟨slot, capacity, memories, ?_⟩
      rintro _ ⟨⟩
      simp only [Memory.contents_store_take]
      exact List.length_take_le _ _
  · rw [truncate_of_le long]
    exact behind

/-- The second may be shortened as long as the first is shorter still. -/
theorem Behind.truncate_right (behind : read.Behind memory other memory') {length : Nat}
    (fits : read.capacity ≤ length) :
    read.Behind memory (other.truncate length memory').1 (other.truncate length memory').2 := by
  rcases Nat.lt_or_ge length other.capacity with short | long
  · rw [truncate_of_lt short]
    have slot := behind.slot
    rcases other with ⟨_, _ | cell⟩
    · exact ⟨slot, fits, behind.memories, behind.inHand⟩
    · have start : memory.contents cell <+: (memory'.contents cell).take length :=
        List.prefix_take_iff.mpr ⟨behind.memories.contents cell,
          Nat.le_trans (behind.inHand cell slot) fits⟩
      have memories := behind.memories.store cell start
      rw [memory.store_contents cell] at memories
      exact ⟨slot, fits, memories, behind.inHand⟩
  · rw [truncate_of_le long]
    exact behind

/-- Both may be shortened to the same length. -/
theorem Behind.truncate (behind : read.Behind memory other memory') (length : Nat) :
    (read.truncate length memory).1.Behind (read.truncate length memory).2
      (other.truncate length memory').1 (other.truncate length memory').2 := by
  apply (behind.truncate_left length).truncate_right
  rw [capacity_truncate, Int.toNat_natCast]
  exact Nat.min_le_left _ _

/-- Both lend the same buffer out, or a new one of the same name. -/
theorem Behind.request (behind : read.Behind memory other memory') :
    (read.request memory).1 = (other.request memory').1 ∧
      (read.request memory).2.1.Behind (read.request memory).2.2 (other.request memory').2.1
        (other.request memory').2.2 := by
  unfold Read.request
  rw [← behind.slot]
  cases read.slot with
  | none =>
    rcases behind.memories.allocate (Bytes.zeros_prefix behind.capacity) with ⟨name, memories⟩
    simp only [name]
    exact ⟨trivial, rfl, behind.capacity, memories, nofun⟩
  | some cell => exact ⟨rfl, rfl, behind.capacity, behind.memories, nofun⟩

/-- Both take a buffer back as long as it is there. -/
theorem behind_replace (read other : Read) (starts : memory.Starts memory') (buffer : Buffer) :
    (read.replace buffer memory).1.Behind (read.replace buffer memory).2
      (other.replace buffer memory').1 (other.replace buffer memory').2 := by
  cases buffer with
  | frozen bytes =>
    rcases starts.allocate (List.prefix_rfl : Bytes.zeros bytes.length <+: _) with ⟨name, memories⟩
    refine ⟨congrArg some name, Nat.le_refl _, memories, ?_⟩
    rintro _ ⟨⟩
    exact Nat.le_of_eq (congrArg List.length (memory.contents_allocate_new _))
  | shared cell =>
    have sizes : (memory.contents cell).length ≤ (memory'.contents cell).length :=
      (starts.contents cell).length_le
    have zeros := Bytes.zeros_prefix sizes
    refine ⟨rfl, zeros.length_le, starts.store cell zeros, ?_⟩
    rintro _ ⟨⟩
    exact memory.length_contents_store_le cell _

end Read

namespace ReadExact

/-- Both have collected the same toward the same target, and the first has less
room in its buffer. -/
structure Behind (machine : ReadExact) (memory : Memory) (other : ReadExact) (memory' : Memory) :
    Prop where
  target : machine.target = other.target
  collected : machine.collected = other.collected
  read : machine.read.Behind memory other.read memory'

variable {machine other : ReadExact} {memory memory' : Memory}

/-- Both steps come to the same, and leave the first behind. -/
structure StaysBehind (step other : Step ReadExact Bytes) : Prop where
  progress : step.progress = other.progress
  behind : step.machine.Behind step.memory other.machine other.memory

theorem Behind.remaining_eq (behind : machine.Behind memory other memory') :
    machine.remaining = other.remaining := by
  rw [remaining, remaining, behind.target, behind.collected]

theorem Behind.complete_iff (behind : machine.Behind memory other memory') :
    machine.Complete ↔ other.Complete := by
  rw [Complete, Complete, behind.target, behind.collected]

theorem Behind.trimmed (behind : machine.Behind memory other memory') :
    (machine.trimmed memory).1.Behind (machine.trimmed memory).2 (other.trimmed memory').1
      (other.trimmed memory').2 := by
  rw [trimmed_eq_truncate, trimmed_eq_truncate, ← behind.remaining_eq]
  exact behind.read.truncate machine.remaining

theorem Behind.finish (behind : machine.Behind memory other memory') :
    StaysBehind (machine.finish memory) (other.finish memory') :=
  ⟨by rw [ReadExact.finish, ReadExact.finish, behind.collected], behind.target, rfl, behind.read⟩

theorem Behind.request (behind : machine.Behind memory other memory') :
    StaysBehind (machine.request memory) (other.request memory') := by
  by_cases complete : machine.Complete
  · rw [ReadExact.request, ReadExact.request, if_pos complete,
      if_pos (behind.complete_iff.mp complete)]
    exact behind.finish
  · rw [ReadExact.request, ReadExact.request, if_neg complete,
      if_neg (complete ∘ behind.complete_iff.mpr)]
    rcases behind.trimmed.request with ⟨same, lent⟩
    exact ⟨congrArg Progress.needs same, behind.target, behind.collected, lent⟩

/-- Both take the same bytes of a response, if the shorter buffer holds what is
said to have moved. -/
theorem Behind.bytes_eq (behind : machine.Behind memory other memory')
    (incomplete : ¬ machine.Complete) {output : Output}
    (within : output.count ≤ output.buffer.size memory) :
    output.bytes (machine.trimmed memory).2 = output.bytes (other.trimmed memory').2 := by
  have same := behind.read.memories.bytes_eq within
  have length : (output.bytes memory).length ≤ output.count := output.length_bytes_le memory
  rw [bytes_output_trimmed incomplete,
    bytes_output_trimmed (incomplete ∘ behind.complete_iff.mpr), takesOf, takesOf,
    if_neg incomplete, if_neg (incomplete ∘ behind.complete_iff.mpr), ← behind.remaining_eq, ← same]
  by_cases shortens : machine.Shortens output.buffer
  · have shortens' : other.Shortens output.buffer :=
      ⟨behind.remaining_eq ▸ Nat.lt_of_lt_of_le shortens.1 behind.read.capacity,
        behind.read.slot ▸ shortens.2⟩
    rw [if_pos shortens, if_pos shortens']
  · rw [if_neg shortens]
    split
    · rename_i shortens'
      -- The first does not shorten this buffer, since it is no longer than what is missing.
      rcases Option.map_eq_some_iff.mp shortens'.2 with ⟨cell, inHand, buffer⟩
      have mine : machine.read.slot = some cell := behind.read.slot.trans inHand
      have fits : machine.read.capacity ≤ machine.remaining := by
        refine Nat.le_of_not_lt fun short => shortens ⟨short, ?_⟩
        rw [mine, Option.map_some, buffer]
      have room : (memory.contents cell).length ≤ machine.read.capacity :=
        behind.read.inHand cell mine
      have size : output.buffer.size memory = (memory.contents cell).length := by
        rw [← buffer]
        rfl
      rw [List.take_of_length_le (by omega)]
    · rfl

/-- Both take the bytes of a response, and the buffer as long as it is there. -/
theorem Behind.absorb (behind : machine.Behind memory other memory')
    (incomplete : ¬ machine.Complete) {output : Output}
    (within : output.count ≤ output.buffer.size memory) :
    let first := machine.trimmed memory
    let second := other.trimmed memory'
    let absorbed := ReadExact.absorb { machine with read := first.1 } output first.2
    let absorbed' := ReadExact.absorb { other with read := second.1 } output second.2
    absorbed.1.Behind absorbed.2 absorbed'.1 absorbed'.2 := by
  intro first second absorbed absorbed'
  refine ⟨behind.target, ?_, Read.behind_replace first.1 second.1 behind.trimmed.memories _⟩
  show machine.collected.append (output.bytes first.2) =
    other.collected.append (output.bytes second.2)
  rw [behind.collected, behind.bytes_eq incomplete within]

theorem Behind.receive (behind : machine.Behind memory other memory') {exchange : Exchange}
    (reads : ¬ machine.Complete -> exchange.direction = .read)
    (within : ∀ output, exchange = ⟨.read, .response output⟩ ->
      output.count ≤ output.buffer.size memory) :
    StaysBehind (machine.receive exchange memory) (other.receive exchange memory') := by
  by_cases complete : machine.Complete
  · rw [ReadExact.receive, ReadExact.receive, if_pos complete,
      if_pos (behind.complete_iff.mp complete)]
    exact behind.finish
  · rw [ReadExact.receive, ReadExact.receive, if_neg complete,
      if_neg (complete ∘ behind.complete_iff.mpr)]
    rcases exchange with ⟨direction, payload⟩
    cases reads complete
    cases payload with
    | request buffer => exact ⟨rfl, behind.target, behind.collected, behind.trimmed⟩
    | response output =>
      have returned := Read.behind_replace (machine.trimmed memory).1 (other.trimmed memory').1
        behind.trimmed.memories output.buffer
      by_cases nothing : output.count = 0
      · simp only [Read.receive, if_pos nothing]
        refine ⟨?_, behind.target, rfl, returned⟩
        show Progress.reporting (.unexpectedEnd machine.remaining machine.target
            (.frozen machine.collected.bytes)) =
          .reporting
            (.unexpectedEnd other.remaining other.target (.frozen other.collected.bytes))
        rw [behind.remaining_eq, behind.target, behind.collected]
      · simp only [Read.receive, if_neg nothing]
        have absorbed := behind.absorb complete (within output rfl)
        exact ⟨absorbed.request.progress, absorbed.request.behind⟩

/-- Where the first machine is behind, a call of both comes to the same. -/
theorem Behind.resume (behind : machine.Behind memory other memory') {answer : Option Exchange}
    (reads : ∀ exchange, answer = some exchange -> ¬ machine.Complete ->
      exchange.direction = .read)
    (within : ∀ output, answer = some ⟨.read, .response output⟩ ->
      output.count ≤ output.buffer.size memory) :
    StaysBehind (machine.resume answer memory) (other.resume answer memory') := by
  cases answer with
  | none => exact behind.request
  | some exchange =>
    exact behind.receive (reads exchange rfl) fun output same => within output (congrArg some same)

end ReadExact

end ResumableStreams
