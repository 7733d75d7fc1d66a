import ResumableStreams.Proofs.Separation

namespace ResumableStreams

/-!
# In hand and on loan

Whoever holds a `Read` may shorten its buffer, give it another one, and resume
it with nothing or with any exchange whatever, in any order.  In between anybody
may change buffers, except for the one that the machine has in hand.

Two things are followed through all of this.  A buffer in hand consists of
zeros, exactly as many as the capacity says (`Read.Armed`).  And a buffer that
the machine has lent out does not come into its hands again before it is given
back (`Read.Act.Away`), so it is not shortened together with the one in hand.

There are five things that an act can come to (`Read.Act.Effect`).  What holds
throughout is shown for each of them, and then for any number of acts.
-/

namespace Read

/-- What may be done with a machine, or with the buffers around it. -/
inductive Act where
  | truncate (length : Int)
  | replace (buffer : Buffer)
  | resume (answer : Option Exchange)
  /-- Change buffers, which leaves this memory. -/
  | elsewhere (memory : Memory)

namespace Act

/-- The machine and the memory after the act. -/
def after (act : Act) (state : Read × Memory) : Read × Memory :=
  match act with
  | .truncate length => state.1.truncate length state.2
  | .replace buffer => state.1.replace buffer state.2
  | .resume answer =>
    let step := state.1.resume answer state.2
    (step.machine, step.memory)
  | .elsewhere memory => (state.1, memory)

def afterAll (start : Read × Memory) (acts : List Act) : Read × Memory :=
  acts.foldl (fun state act => act.after state) start

/-- The buffer that the machine is given, be it with a response that tells it of
the end of the stream. -/
def given : Act -> Option Buffer
  | .replace buffer => some buffer
  | .resume (some ⟨.read, .response output⟩) =>
    if output.count = 0 then some output.buffer else none
  | _ => none

/-- The cells that are passed. -/
def cells : Act -> List Cell
  | .replace buffer => buffer.cells
  | .resume answer => answerCells answer
  | .truncate _ | .elsewhere _ => []

/-- The act can take place: what is passed exists.  No buffer is ever done away
with, and nobody but the machine changes the one that it has in hand. -/
structure Fair (act : Act) (state : Read × Memory) : Prop where
  passed : ∀ cell ∈ act.cells, state.2.Holds cell
  remains : ∀ memory, act = .elsewhere memory ->
    ∀ {cell}, state.2.Holds cell -> memory.Holds cell
  spares : ∀ memory, act = .elsewhere memory ->
    ∀ cell, state.1.slot = some cell -> memory.contents cell = state.2.contents cell

/-- Each act is fair when its turn comes. -/
def AllFair (start : Read × Memory) : List Act -> Prop
  | [] => True
  | act :: acts => act.Fair start ∧ AllFair (act.after start) acts

/-- The buffer has been lent out, and has not been given back since.  A request
that is passed and comes out again lends nothing: its buffer is not taken from
the machine. -/
def OnLoan (start : Read × Memory) (acts : List Act) (cell : Cell) : Prop :=
  ∃ earlier later, acts = earlier ++ .resume none :: later ∧
    ((afterAll start earlier).1.resume none (afterAll start earlier).2).progress =
      .needs ⟨.read, .request (.shared cell)⟩ ∧
    ∀ act ∈ later, act.given ≠ some (.shared cell)

/-! ## One act -/

/-- What may come of an act. -/
inductive Effect (state : Read × Memory) : Act -> Read × Memory -> Prop where
  | shortened (length : Int) :
      Effect state (.truncate length) (state.1.truncate length state.2)
  /-- The machine has another buffer in hand. -/
  | supplied {act : Act} {buffer : Buffer} : act.given = some buffer ->
      Effect state act (state.1.replace buffer state.2)
  | lent : Effect state (.resume none) (state.1.request state.2).2
  /-- An exchange leaves the machine as it is. -/
  | ignored (exchange : Exchange) : Effect state (.resume (some exchange)) state
  | changed (memory : Memory) : Effect state (.elsewhere memory) (state.1, memory)

theorem effect (act : Act) (state : Read × Memory) : Effect state act (act.after state) := by
  cases act with
  | truncate length => exact .shortened length
  | replace buffer => exact .supplied rfl
  | elsewhere memory => exact .changed memory
  | resume answer =>
    cases answer with
    | none => exact .lent
    | some exchange =>
      rcases exchange with ⟨direction, payload⟩
      cases direction with
      | write => exact .ignored _
      | read =>
        cases payload with
        | request buffer => exact .ignored _
        | response output =>
          by_cases nothing : output.count = 0
          · have taken : after (.resume (some ⟨.read, .response output⟩)) state =
                state.1.replace output.buffer state.2 := by
              simp only [after, Read.resume, receive, if_pos nothing]
            rw [taken]
            exact .supplied (if_pos nothing)
          · have kept : after (.resume (some ⟨.read, .response output⟩)) state = state := by
              simp only [after, Read.resume, receive, if_neg nothing]
            rw [kept]
            exact .ignored _

theorem given_eq_some_iff {act : Act} {buffer : Buffer} :
    act.given = some buffer ↔
      act = .replace buffer ∨ act = .resume (some ⟨.read, .response ⟨buffer, 0⟩⟩) := by
  constructor
  · intro given
    unfold Act.given at given
    split at given
    · cases given
      exact .inl rfl
    · rename_i output
      rcases output with ⟨carried, count⟩
      by_cases nothing : count = 0
      · subst nothing
        cases given
        exact .inr rfl
      · rw [if_neg nothing] at given
        cases given
    · cases given
  · rintro (rfl | rfl)
    · rfl
    · rfl

/-- What the machine is given is passed to it. -/
theorem mem_cells_of_given {act : Act} {buffer : Buffer} (given : act.given = some buffer) :
    ∀ cell ∈ buffer.cells, cell ∈ act.cells := by
  intro cell member
  rcases given_eq_some_iff.mp given with rfl | rfl
  · exact member
  · exact member

theorem armed_after {act : Act} {state : Read × Memory} (armed : state.1.Armed state.2)
    (fair : act.Fair state) : (act.after state).1.Armed (act.after state).2 := by
  have effect := act.effect state
  generalize act.after state = left at effect ⊢
  cases effect with
  | shortened length => exact armed.truncate length
  | @supplied act buffer given =>
    apply armed_replace
    rintro cell rfl
    exact fair.passed cell (mem_cells_of_given given cell List.mem_cons_self)
  | lent => exact armed_of_lent rfl _
  | ignored exchange => exact armed
  | changed memory =>
    intro cell inHand
    rcases armed cell inHand with ⟨held, zeros⟩
    exact ⟨fair.remains memory rfl held, (fair.spares memory rfl cell inHand).trans zeros⟩

/-- Only with a buffer that it is given does a machine get a larger capacity. -/
theorem given_of_capacity_lt {act : Act} {state : Read × Memory}
    (raised : state.1.capacity < (act.after state).1.capacity) :
    ∃ buffer, act.given = some buffer ∧
      (act.after state).1.capacity = buffer.size state.2 := by
  have effect := act.effect state
  generalize act.after state = left at effect raised ⊢
  cases effect with
  | shortened length =>
    rw [capacity_truncate] at raised
    omega
  | supplied given => exact ⟨_, given, capacity_replace _ _ _⟩
  | lent => exact absurd raised (Nat.lt_irrefl _)
  | ignored exchange => exact absurd raised (Nat.lt_irrefl _)
  | changed memory => exact absurd raised (Nat.lt_irrefl _)

/-! ## Buffers that are away -/

/-- The machine is in order, and has another buffer in hand than this one, or
none. -/
structure Away (cell : Cell) (state : Read × Memory) : Prop where
  armed : state.1.Armed state.2
  held : state.2.Holds cell
  apart : cell ∉ state.1.cells

/-- A buffer that is away stays away until it is given back. -/
theorem Away.after {act : Act} {state : Read × Memory} {cell : Cell} (away : Away cell state)
    (fair : act.Fair state) (kept : act.given ≠ some (.shared cell)) :
    Away cell (act.after state) := by
  have held := held_cells away.armed
  have inOrder := armed_after away.armed fair
  have effect := act.effect state
  generalize act.after state = left at effect inOrder ⊢
  suffices there : left.2.Holds cell ∧ cell ∉ left.1.cells from ⟨inOrder, there.1, there.2⟩
  cases effect with
  | shortened length =>
    have moves := moves_truncate length held
    exact ⟨moves.holds away.held, moves.not_mem away.held away.apart⟩
  | @supplied act buffer given =>
    have exist : ∀ other ∈ buffer.cells, state.2.Holds other := fun other member =>
      fair.passed other (mem_cells_of_given given other member)
    have moves := moves_replace state.1 exist
    refine ⟨moves.holds away.held, moves.not_mem away.held ?_⟩
    intro member
    cases buffer with
    | frozen bytes => exact List.not_mem_nil member
    | shared other =>
      rw [List.mem_singleton.mp member] at kept
      exact kept given
  | lent =>
    have moves := moves_request held
    refine ⟨moves.1.holds away.held, ?_⟩
    rw [moves.2]
    exact List.not_mem_nil
  | ignored exchange => exact ⟨away.held, away.apart⟩
  | changed memory => exact ⟨fair.remains memory rfl away.held, away.apart⟩

/-- What a machine has just lent out is away. -/
theorem away_of_lent {state : Read × Memory} {cell : Cell} (armed : state.1.Armed state.2)
    (lends : (state.1.resume none state.2).progress = .needs ⟨.read, .request (.shared cell)⟩) :
    Away cell (after (.resume none) state) := by
  rcases armed.exists_request with ⟨other, memory, requested, held, -⟩
  have same : other = cell := by
    simp only [Read.resume, requested] at lends
    cases lends
    rfl
  subst same
  simp only [after, Read.resume, requested]
  exact ⟨armed_of_lent rfl memory, held, List.not_mem_nil⟩

/-! ## Any number of acts -/

theorem allFair_append {start : Read × Memory} {earlier later : List Act} :
    AllFair start (earlier ++ later) ↔
      AllFair start earlier ∧ AllFair (afterAll start earlier) later := by
  induction earlier generalizing start with
  | nil => exact ⟨fun fair => ⟨trivial, fair⟩, And.right⟩
  | cons act acts inductionHypothesis =>
    simp only [List.cons_append, AllFair, inductionHypothesis, and_assoc]
    rfl

/-- What each act of a kind keeps is kept by any number of them. -/
theorem afterAll_of_after {Holds : Read × Memory -> Prop} {kind : Act -> Prop}
    (kept : ∀ {act state}, Holds state -> act.Fair state -> kind act -> Holds (act.after state))
    {start : Read × Memory} (now : Holds start) {acts : List Act} (fair : AllFair start acts)
    (kinds : ∀ act ∈ acts, kind act) : Holds (afterAll start acts) := by
  induction acts generalizing start with
  | nil => exact now
  | cons act acts inductionHypothesis =>
    rw [List.forall_mem_cons] at kinds
    exact inductionHypothesis (kept now fair.1 kinds.1) fair.2 kinds.2

theorem armed_afterAll {start : Read × Memory} (armed : start.1.Armed start.2) {acts : List Act}
    (fair : AllFair start acts) : (afterAll start acts).1.Armed (afterAll start acts).2 := by
  apply @afterAll_of_after (fun state => state.1.Armed state.2) (fun _ => True) _ start armed acts
    fair (fun _ _ => trivial)
  intro act state armed fair _
  exact armed_after armed fair

/-- A buffer on loan is not in hand. -/
theorem OnLoan.away {start : Read × Memory} {acts : List Act} {cell : Cell}
    (loan : OnLoan start acts cell) (armed : start.1.Armed start.2) (fair : AllFair start acts) :
    Away cell (afterAll start acts) := by
  rcases loan with ⟨earlier, later, rfl, lends, kept⟩
  rw [allFair_append] at fair
  rcases fair with ⟨fairEarlier, -, fairLater⟩
  have away := away_of_lent (armed_afterAll armed fairEarlier) lends
  rw [afterAll, List.foldl_append]
  exact afterAll_of_after (fun away fair kept => away.after fair kept) away fairLater kept

end Act

/-! ## Slot, contents and capacity -/

/-- A new machine is used in any way whatever, and nobody else writes into a
buffer that it has in hand.

Then it has always got a buffer of zeros in hand, exactly as long as the capacity
says, or none.  Resumed with nothing it lends such a buffer out and has none in
hand.  Shortening makes the capacity the lesser of the two lengths, where a
negative length counts as zero, whether or not there is a buffer in hand; a
buffer that has been lent out, and not been given back since, is left alone.  The
capacity is raised only where the machine is given a buffer, by its holder or at
the end of the stream, and then it is the length of that buffer. -/
theorem buffer_in_hand_keeps_to_capacity {capacity : Int} {memory : Memory} {read : Read}
    (built : (make capacity memory).result = .ok read) {acts : List Act}
    (fair : Act.AllFair (read, (make capacity memory).memory) acts) :
    let start := (read, (make capacity memory).memory)
    let now := Act.afterAll start acts
    (start.1.capacity : Int) = capacity ∧
    (now.1.slot = none ∨ ∃ cell, now.1.slot = some cell ∧ now.2.Holds cell ∧
      now.2.contents cell = Bytes.zeros now.1.capacity) ∧
    (∃ cell after,
      now.1.resume none now.2 =
        ⟨.needs ⟨.read, .request (.shared cell)⟩, { now.1 with slot := none }, after,
          [.readRequested]⟩ ∧
      after.Holds cell ∧ after.contents cell = Bytes.zeros now.1.capacity) ∧
    (∀ length : Int,
      let shorter := now.1.truncate length now.2
      (shorter.1.capacity : Int) = min (now.1.capacity : Int) (max length 0) ∧
      shorter.1.slot = now.1.slot ∧
      ∀ cell, Act.OnLoan start acts cell -> shorter.2.contents cell = now.2.contents cell) ∧
    ∀ act : Act, now.1.capacity < (act.after now).1.capacity ->
      ∃ buffer,
        (act = .replace buffer ∨ act = .resume (some ⟨.read, .response ⟨buffer, 0⟩⟩)) ∧
        (act.after now).1.capacity = buffer.size now.2 := by
  intro start now
  rcases armed_make built with ⟨armedStart, room⟩
  have armed : now.1.Armed now.2 := Act.armed_afterAll armedStart fair
  refine ⟨?_, ?_, ?_, ?_, ?_⟩
  · have notNegative := (create_of_make built).1
    rw [room]
    exact Int.toNat_of_nonneg notNegative
  · cases inHand : now.1.slot with
    | none => exact .inl rfl
    | some cell => exact .inr ⟨cell, rfl, armed cell inHand⟩
  · rcases armed.exists_request with ⟨cell, after, requested, held, zeros⟩
    refine ⟨cell, after, ?_, held, zeros⟩
    simp only [resume, requested]
  · intro length shorter
    refine ⟨?_, slot_truncate now.1 length now.2, ?_⟩
    · rw [capacity_truncate]
      omega
    · intro cell loan
      have away : Act.Away cell now := loan.away armedStart fair
      exact (moves_truncate length (held_cells armed)).contents away.held fun _ => away.apart
  · intro act raised
    rcases Act.given_of_capacity_lt raised with ⟨buffer, given, size⟩
    exact ⟨buffer, Act.given_eq_some_iff.mp given, size⟩

/-- Three bytes are lent out, and the machine is shortened meanwhile.  A buffer
of five is given to it, and then the stream ends with two immutable bytes. -/
theorem buffer_in_hand_keeps_to_capacity_of_four :
    let start := create 4 .empty
    let acts : List Act :=
      [.truncate 3, .resume none,
        .elsewhere { start.2 with cells := #[[7, 8, 9], [1, 2, 3, 4, 5]] }, .truncate 2,
        .resume (some ⟨.write, .request (.shared ⟨1⟩)⟩), .replace (.shared ⟨1⟩),
        .resume (some ⟨.read, .response ⟨.frozen [6, 6], 0⟩⟩)]
    let now := Act.afterAll start acts
    (make 4 .empty).result = .ok start.1 ∧ Act.AllFair start acts ∧ Act.OnLoan start acts ⟨0⟩ ∧
      (∃ cell after, now.1.resume none now.2 =
          ⟨.needs ⟨.read, .request (.shared cell)⟩, ⟨2, none⟩, after, [.readRequested]⟩ ∧
        after.contents cell = [0, 0]) ∧
      (now.1.truncate (-1) now.2).1.capacity = 0 ∧
      (now.1.truncate (-1) now.2).2.contents ⟨0⟩ = [7, 8, 9] := by
  intro start acts now
  have made : make 4 .empty = ⟨.ok start.1, start.2, [.readCreated 4]⟩ := rfl
  have built : (make 4 .empty).result = .ok start.1 := congrArg Construction.result made
  have fair : Act.AllFair start acts := by
    refine ⟨?_, ?_, ?_, ?_, ?_, ?_, ?_, trivial⟩
    · exact ⟨List.forall_mem_nil _, nofun, nofun⟩
    · exact ⟨List.forall_mem_nil _, nofun, nofun⟩
    · refine ⟨List.forall_mem_nil _, ?_, ?_⟩
      · rintro _ ⟨⟩ cell held
        exact Nat.lt_of_lt_of_le held (by decide)
      · rintro _ _ _ ⟨⟩
    · exact ⟨List.forall_mem_nil _, nofun, nofun⟩
    · exact ⟨List.forall_mem_singleton.mpr (show 1 < 2 by decide), nofun, nofun⟩
    · exact ⟨List.forall_mem_singleton.mpr (show 1 < 2 by decide), nofun, nofun⟩
    · exact ⟨List.forall_mem_nil _, nofun, nofun⟩
  have loan : Act.OnLoan start acts ⟨0⟩ := by
    refine ⟨[.truncate 3], acts.drop 2, rfl, rfl, ?_⟩
    exact of_decide_eq_true rfl
  have holds := @buffer_in_hand_keeps_to_capacity 4 .empty start.1 built acts
  rw [made] at holds
  rcases holds fair with ⟨-, -, ⟨cell, after, lends, -, zeros⟩, shortens, -⟩
  rcases shortens (-1) with ⟨capacity, -, spares⟩
  exact ⟨built, fair, loan, ⟨cell, after, lends, zeros⟩, Int.ofNat_eq_zero.mp capacity,
    spares ⟨0⟩ loan⟩

end Read

end ResumableStreams
