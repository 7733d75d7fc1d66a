import ResumableStreams.Machine.Read

namespace ResumableStreams

/-!
# The buffer that a read lends out

A read that has a buffer in hand has one of exactly the configured capacity,
and there is nothing in it but zeros.  Every operation keeps it so, provided
that nobody else writes into a buffer while the machine has it in hand.  A
buffer that is lent out is none of the machine's business: nothing is said
about it until it is given back.
-/

@[simp] theorem Bytes.take_zeros (count length : Nat) :
    (Bytes.zeros length).take count = Bytes.zeros (min count length) :=
  List.take_replicate

theorem Bytes.zeros_ne_nil {count : Nat} (positive : 0 < count) : Bytes.zeros count ≠ [] := by
  apply List.length_pos_iff.mp
  rw [Bytes.length_zeros]
  exact positive

/-- Building comes to a machine of which something holds, where a buffer of the
given length can be allocated, and is refused as the buffer is where it cannot. -/
def Construction.Gives {Machine : Type} (construction : Construction Machine) (length room : Nat)
    (holds : Machine -> Memory -> Prop) : Prop :=
  match checkLength length room with
  | .error fault => construction.result = .error fault
  | .ok () => ∃ machine, construction.result = .ok machine ∧ holds machine construction.memory

namespace Construction.Gives

variable {Machine Other : Type} {construction : Construction Machine} {length room : Nat}
  {holds weaker : Machine -> Memory -> Prop}

theorem imp (gives : construction.Gives length room holds)
    (follows : ∀ machine memory, holds machine memory -> weaker machine memory) :
    construction.Gives length room weaker := by
  unfold Gives at gives ⊢
  split
  · rename_i refused
    simp only [refused] at gives
    exact gives
  · rename_i allowed
    simp only [allowed] at gives
    rcases gives with ⟨machine, built, now⟩
    exact ⟨machine, built, follows machine _ now⟩

theorem exists_of_allowed (gives : construction.Gives length room holds)
    (allowed : checkLength length room = .ok ()) :
    ∃ machine, construction.result = .ok machine ∧ holds machine construction.memory := by
  simpa only [Gives, allowed] using gives

theorem refused (gives : construction.Gives length room holds) {fault : Fault}
    (refused : checkLength length room = .error fault) : construction.result = .error fault := by
  simpa only [Gives, refused] using gives

/-- However much room there is, a buffer that cannot be addressed is refused. -/
theorem unaddressable (gives : construction.Gives Memory.addressable room holds) :
    construction.result = .error .lengthNotAddressable :=
  gives.refused rfl

/-- A machine built around another is given or refused with it. -/
theorem around (gives : construction.Gives length room holds) (outer : Machine -> Other)
    (events : List Event) :
    (Construction.mk (construction.result.map outer) construction.memory events).Gives length room
      fun machine memory => ∃ inner, outer inner = machine ∧ holds inner memory := by
  unfold Gives at gives ⊢
  split
  · rename_i refused
    simp only [refused] at gives
    exact congrArg (Except.map outer) gives
  · rename_i allowed
    simp only [allowed] at gives
    rcases gives with ⟨machine, built, now⟩
    exact ⟨outer machine, congrArg (Except.map outer) built, machine, rfl, now⟩

end Construction.Gives

namespace Read

/-- The buffer in hand, if there is one, consists of as many zeros as the
capacity says. -/
def Armed (read : Read) (memory : Memory) : Prop :=
  ∀ cell, read.slot = some cell ->
    memory.Holds cell ∧ memory.contents cell = Bytes.zeros read.capacity

theorem armed_of_lent {read : Read} (lent : read.slot = none) (memory : Memory) :
    read.Armed memory := by
  intro cell inHand
  rw [lent] at inHand
  cases inHand

theorem armed_create (capacity : Nat) (memory : Memory) :
    (create capacity memory).1.Armed (create capacity memory).2 := by
  intro cell inHand
  cases inHand
  exact ⟨memory.holds_allocate_new _, memory.contents_allocate_new _⟩

/-- Building a machine gives the one that `create` describes. -/
theorem make_gives (capacity : Nat) (memory : Memory) :
    (make capacity memory).Gives capacity memory.room fun read after =>
      read = (create capacity memory).1 ∧ after = (create capacity memory).2 := by
  have notNegative : ¬ (capacity : Int) < 0 := by omega
  rw [make, if_neg notNegative, Int.toNat_natCast]
  unfold Construction.Gives
  cases checkLength capacity memory.room with
  | error fault => rfl
  | ok _ => exact ⟨_, rfl, rfl, rfl⟩

/-- A machine that is built is the one that `create` describes. -/
theorem create_of_make {capacity : Int} {memory : Memory} {read : Read}
    (built : (make capacity memory).result = .ok read) :
    0 ≤ capacity ∧ create capacity.toNat memory = (read, (make capacity memory).memory) := by
  unfold make at built ⊢
  by_cases negative : capacity < 0
  · rw [if_pos negative] at built
    cases built
  · rw [if_neg negative] at built ⊢
    cases checked : checkLength capacity.toNat memory.room with
    | error fault =>
      simp only [checked] at built
      cases built
    | ok _ =>
      simp only [checked] at built ⊢
      cases built
      exact ⟨Int.not_lt.mp negative, rfl⟩

/-- A machine that is built without a refusal has its buffer in order. -/
theorem armed_make {capacity : Int} {memory : Memory} {read : Read}
    (built : (make capacity memory).result = .ok read) :
    read.Armed (make capacity memory).memory ∧ read.capacity = capacity.toNat := by
  have armed := armed_create capacity.toNat memory
  have created := (create_of_make built).2
  rw [created] at armed
  exact ⟨armed, (congrArg (fun created => created.1.capacity) created).symm⟩

/-! ## Shortening the buffer -/

@[simp] theorem capacity_truncate (read : Read) (length : Int) (memory : Memory) :
    (read.truncate length memory).1.capacity = min length.toNat read.capacity := by
  unfold truncate
  split
  · simp only
    omega
  · simp only
    omega

@[simp] theorem slot_truncate (read : Read) (length : Int) (memory : Memory) :
    (read.truncate length memory).1.slot = read.slot := by
  unfold truncate
  split <;> rfl

/-- Shortening keeps the zeros that fit. -/
theorem Armed.truncate {read : Read} {memory : Memory} (armed : read.Armed memory) (length : Int) :
    (read.truncate length memory).1.Armed (read.truncate length memory).2 := by
  intro cell inHand
  rw [slot_truncate] at inHand
  rw [capacity_truncate]
  rcases armed cell inHand with ⟨held, zeros⟩
  unfold Read.truncate
  split
  · simp only [inHand]
    refine ⟨(Memory.holds_store_iff _ _ _ _).mpr held, ?_⟩
    rw [Memory.contents_store_self held, zeros, Bytes.take_zeros]
  · rename_i notShorter
    have same : min length.toNat read.capacity = read.capacity := by omega
    rw [same]
    exact ⟨held, zeros⟩

/-! ## Taking a buffer back -/

@[simp] theorem capacity_replace (read : Read) (buffer : Buffer) (memory : Memory) :
    (read.replace buffer memory).1.capacity = buffer.size memory :=
  Bytes.length_zeros _

/-- Whatever was in a buffer that is given back, there are zeros in the one in
hand afterwards. -/
theorem armed_replace (read : Read) {buffer : Buffer} {memory : Memory}
    (held : ∀ cell, buffer = .shared cell -> memory.Holds cell) :
    (read.replace buffer memory).1.Armed (read.replace buffer memory).2 := by
  intro cell inHand
  rw [capacity_replace]
  cases buffer with
  | shared _ =>
    cases inHand
    exact ⟨(Memory.holds_store_iff _ _ _ _).mpr (held cell rfl),
      Memory.contents_store_self (held cell rfl) _⟩
  | frozen bytes =>
    cases inHand
    exact ⟨memory.holds_allocate_new _, memory.contents_allocate_new _⟩

/-! ## Lending the buffer out -/

/-- An armed machine lends a buffer of its capacity, and has none afterwards. -/
theorem Armed.exists_request {read : Read} {memory : Memory} (armed : read.Armed memory) :
    ∃ cell after, read.request memory =
        (⟨.read, .request (.shared cell)⟩, { read with slot := none }, after) ∧
      after.Holds cell ∧ after.contents cell = Bytes.zeros read.capacity := by
  cases inHand : read.slot with
  | some cell =>
    refine ⟨cell, memory, ?_, armed cell inHand⟩
    simp only [request, inHand]
  | none =>
    refine ⟨(memory.allocate (Bytes.zeros read.capacity)).1,
      (memory.allocate (Bytes.zeros read.capacity)).2, ?_,
      memory.holds_allocate_new _, memory.contents_allocate_new _⟩
    simp only [request, inHand]

end Read

end ResumableStreams
