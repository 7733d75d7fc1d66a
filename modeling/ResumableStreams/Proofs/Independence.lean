import ResumableStreams.Proofs.Holding
import ResumableStreams.Stream.MemoryFile

namespace ResumableStreams

/-!
# Machines side by side

Any number of machines may be in use at once in one memory, each on a stream
of its own, and their steps may alternate in any way.  Every machine then does
what it does alone, and nothing that was lent to a machine or given out by one
is written into: not a payload, not a seed, not a result.

The invariant is that the cells a machine may write into are apart from those
that any other uses, from all that was there from the beginning, and from all
results.
-/

/-! ## Many machines -/

theorem Recipe.mem_payload_of_mem_cells {recipe : Recipe} {cell : Cell}
    (member : cell ∈ recipe.cells) : cell ∈ recipe.payload.cells := by
  unfold cells at member
  split at member
  · cases member
  · exact member

/-- What is seeded, if something is, was there from the beginning. -/
def Deed.SeedsFrom (base : Memory) (deed : Deed) : Prop :=
  ∀ seed, deed = .extend seed -> ∀ cell ∈ seed.cells, base.Holds cell

/-- Machines in one memory, each with the state of its own stream. -/
structure World (Name : Type) (State : Name -> Type) where
  memory : Memory
  journal : Array Event
  seats : Name -> Seat
  states : (name : Name) -> State name

namespace World

variable {Name : Type} {State : Name -> Type}

/-- No machine has been built yet. -/
def start (memory : Memory) (journal : Array Event) (states : (name : Name) -> State name) :
    World Name State :=
  ⟨memory, journal, fun _ => .empty, states⟩

def context (world : World Name State) (name : Name) : Context (State name) :=
  ⟨world.memory, world.journal, world.states name⟩

/-- No machine may write into what was there from the beginning, into what
another uses, or into a result.  There is as much room as at the beginning. -/
structure Separate (base : Memory) (world : World Name State) : Prop where
  kept : ∀ {cell}, base.Holds cell ->
    world.memory.Holds cell ∧ world.memory.contents cell = base.contents cell
  sound : ∀ name, (world.seats name).Sound world.memory
  untouched : ∀ name, ∀ cell ∈ (world.seats name).written, ¬ base.Holds cell
  apart : ∀ name other, name ≠ other -> ∀ cell ∈ (world.seats name).written,
    cell ∉ (world.seats other).cells
  results : ∀ name, ∀ entry ∈ (world.seats name).said, entry.1.wanted = none ->
    entry.1.snapshot world.memory = entry.2 ∧
      ∀ cell ∈ entry.1.cells Value.cells, world.memory.Holds cell ∧
        ∀ other, cell ∉ (world.seats other).written
  room : world.memory.room = base.room

theorem separate_start (memory : Memory) (journal : Array Event)
    (states : (name : Name) -> State name) : (start memory journal states).Separate memory where
  kept := fun held => ⟨held, rfl⟩
  sound := fun _ => ⟨nofun, nofun⟩
  untouched := fun _ => nofun
  apart := fun _ _ _ => nofun
  results := fun _ _ member => absurd member List.not_mem_nil
  room := rfl

/-- What was there from the beginning is the same in all worlds. -/
theorem Separate.matches_of_base {base : Memory} {world other : World Name State}
    (separate : world.Separate base) (separate' : other.Separate base) {buffer : Buffer}
    (there : ∀ cell ∈ buffer.cells, base.Holds cell) :
    buffer.Matches world.memory other.memory buffer := by
  cases buffer with
  | frozen bytes => exact .frozen bytes
  | shared cell =>
    have held := there cell List.mem_cons_self
    rcases separate.kept held with ⟨left, same⟩
    rcases separate'.kept held with ⟨right, same'⟩
    exact .shared ⟨left, right, same.trans same'.symm⟩

variable [DecidableEq Name]

section

variable (parts : (name : Name) -> Part (State name))

/-- Do something with one of the machines. -/
def next (world : World Name State) (turn : Name × Deed) : World Name State :=
  let (seat, context) :=
    (parts turn.1).act turn.2 (world.seats turn.1) (world.context turn.1)
  { memory := context.memory
    journal := context.journal
    seats := fun name => if name = turn.1 then seat else world.seats name
    states := fun name => if same : name = turn.1 then same ▸ context.state else world.states name }

def run (world : World Name State) (schedule : List (Name × Deed)) : World Name State :=
  schedule.foldl (next parts) world

end

variable {parts : (name : Name) -> Part (State name)} {base : Memory} {world : World Name State}

/-- Of the other machines nothing is different. -/
theorem seats_next_of_ne {turn : Name × Deed} {name : Name} (other : name ≠ turn.1) :
    (world.next parts turn).seats name = world.seats name :=
  if_neg other

theorem states_next_of_ne {turn : Name × Deed} {name : Name} (other : name ≠ turn.1) :
    (world.next parts turn).states name = world.states name :=
  dif_neg other

theorem seats_next_self (turn : Name × Deed) :
    (world.next parts turn).seats turn.1 =
      ((parts turn.1).act turn.2 (world.seats turn.1) (world.context turn.1)).1 :=
  if_pos rfl

theorem states_next_self (turn : Name × Deed) :
    (world.next parts turn).states turn.1 =
      ((parts turn.1).act turn.2 (world.seats turn.1) (world.context turn.1)).2.state :=
  dif_pos rfl

theorem Separate.acts (separate : world.Separate base)
    (payloads : ∀ name, ∀ cell ∈ (parts name).recipe.payload.cells, base.Holds cell)
    (turn : Name × Deed) :
    (world.seats turn.1).Acts (parts turn.1).recipe.cells world.memory
      (world.next parts turn).memory ((world.next parts turn).seats turn.1) := by
  rw [seats_next_self]
  exact @Part.acts _ (parts turn.1) (world.seats turn.1) (world.context turn.1) turn.2
    (separate.sound turn.1) fun cell member =>
      (separate.kept (payloads turn.1 cell (Recipe.mem_payload_of_mem_cells member))).1

/-- Whatever is done with one of the machines, they stay separate. -/
theorem Separate.next (separate : world.Separate base)
    (payloads : ∀ name, ∀ cell ∈ (parts name).recipe.payload.cells, base.Holds cell)
    (turn : Name × Deed) : (world.next parts turn).Separate base := by
  have acts := separate.acts payloads turn
  have inUse {name : Name} {cell : Cell} (member : cell ∈ (world.seats name).written) :
      world.memory.Holds cell :=
    (separate.sound name).held cell (Seat.mem_cells_of_mem_written member)
  -- What nobody might write into before, nobody may write into afterwards.
  have unwritten {cell : Cell} (held : world.memory.Holds cell)
      (free : ∀ name, cell ∉ (world.seats name).written) (name : Name) :
      cell ∉ ((world.next parts turn).seats name).written := by
    by_cases acting : name = turn.1
    · subst acting
      intro member
      rcases acts.written cell member with known | new
      · exact free _ known
      · exact new held
    · rw [seats_next_of_ne acting]
      exact free name
  have settled {name : Name} {entry : Progress Value × Progress Value}
      (member : entry ∈ (world.seats name).said) (result : entry.1.wanted = none) :
      entry.1.snapshot (world.next parts turn).memory = entry.2 ∧
        ∀ cell ∈ entry.1.cells Value.cells, (world.next parts turn).memory.Holds cell ∧
          ∀ other, cell ∉ ((world.next parts turn).seats other).written := by
    rcases separate.results name entry member result with ⟨look, given⟩
    constructor
    · rw [← look]
      refine Progress.snapshot_of_contents fun cell used => ?_
      exact acts.contents (given cell used).1 ((given cell used).2 turn.1)
    · intro cell used
      exact ⟨acts.holds (given cell used).1, unwritten (given cell used).1 (given cell used).2⟩
  refine ⟨?_, ?_, ?_, ?_, ?_, acts.room.trans separate.room⟩
  · intro cell held
    rcases separate.kept held with ⟨there, same⟩
    exact ⟨acts.holds there,
      (acts.contents there fun member => separate.untouched _ cell member held).trans same⟩
  · intro name
    by_cases acting : name = turn.1
    · subst acting
      exact acts.sound
    · rw [seats_next_of_ne acting]
      have sound := separate.sound name
      exact ⟨fun cell member => acts.holds (sound.held cell member), sound.goes⟩
  · intro name cell member held
    exact unwritten (separate.kept held).1
      (fun other into => separate.untouched other cell into held) name member
  · intro name other distinct cell member
    by_cases acting : name = turn.1
    · subst acting
      rw [seats_next_of_ne (Ne.symm distinct)]
      intro used
      rcases acts.written cell member with known | new
      · exact separate.apart _ other distinct cell known used
      · exact new ((separate.sound other).held cell used)
    · rw [seats_next_of_ne acting] at member
      by_cases acted : other = turn.1
      · subst acted
        intro used
        rcases acts.cells cell used with known | payload | new
        · exact separate.apart name _ distinct cell member known
        · exact separate.untouched name cell member
            (payloads _ cell (Recipe.mem_payload_of_mem_cells payload))
        · exact new (inUse member)
      · rw [seats_next_of_ne acted]
        exact separate.apart name other distinct cell member
  · intro name entry member result
    by_cases acting : name = turn.1
    · subst acting
      rcases acts.said entry member with before | ⟨look, given⟩
      · exact settled before result
      · refine ⟨look.symm, fun cell used => ?_⟩
        rcases given result cell used with ⟨held, let_go, origin⟩
        refine ⟨held, fun other into => ?_⟩
        by_cases acted : other = turn.1
        · subst acted
          exact let_go into
        · rw [seats_next_of_ne acted] at into
          rcases origin with known | new
          · exact separate.apart other _ acted cell into known
          · exact new (inUse into)
    · rw [seats_next_of_ne acting] at member
      exact settled member result

/-! ## Together and alone -/

/-- One of the machines is the same in both worlds but for names, and its
stream is the same. -/
structure Agrees (name : Name) (world other : World Name State) : Prop where
  seat : (world.seats name).Matches world.memory other.memory (other.seats name)
  state : world.states name = other.states name

/-- What is done with another machine makes no difference. -/
theorem Agrees.next_of_ne {other : World Name State} {name : Name} (agrees : Agrees name world other)
    (separate : world.Separate base)
    (payloads : ∀ name, ∀ cell ∈ (parts name).recipe.payload.cells, base.Holds cell)
    {turn : Name × Deed} (elsewhere : name ≠ turn.1) :
    Agrees name (world.next parts turn) other := by
  have acts := separate.acts payloads turn
  refine ⟨?_, (states_next_of_ne elsewhere).trans agrees.state⟩
  rw [seats_next_of_ne elsewhere]
  refine agrees.seat.retained fun cell used held => ⟨acts.holds held, ?_⟩
  exact acts.contents held fun member =>
    separate.apart _ name (Ne.symm elsewhere) cell member used

/-- What is done with the machine itself has the same effect in both worlds. -/
theorem Agrees.next {other : World Name State} {turn : Name × Deed}
    (agrees : Agrees turn.1 world other) (separate : world.Separate base)
    (separate' : other.Separate base)
    (payloads : ∀ name, ∀ cell ∈ (parts name).recipe.payload.cells, base.Holds cell)
    (seeds : turn.2.SeedsFrom base) :
    Agrees turn.1 (world.next parts turn) (other.next parts turn) := by
  have same := @Part.matches_act _ (parts turn.1) _ _ (world.context turn.1) (other.context turn.1)
    turn.2 agrees.seat (separate.sound turn.1) agrees.state
    (separate.matches_of_base separate' (payloads turn.1))
    (separate.room.trans separate'.room.symm)
    fun seed given => separate.matches_of_base separate' (seeds seed given)
  refine ⟨?_, ?_⟩
  · rw [seats_next_self, seats_next_self]
    exact same.1
  · rw [states_next_self, states_next_self]
    exact same.2

theorem Separate.run (separate : world.Separate base)
    (payloads : ∀ name, ∀ cell ∈ (parts name).recipe.payload.cells, base.Holds cell)
    (schedule : List (Name × Deed)) : (world.run parts schedule).Separate base := by
  induction schedule generalizing world with
  | nil => exact separate
  | cons turn schedule inductionHypothesis =>
    exact inductionHypothesis (separate.next payloads turn)

theorem mem_said_run {name : Name} {entry : Progress Value × Progress Value}
    (member : entry ∈ (world.seats name).said) (schedule : List (Name × Deed)) :
    entry ∈ ((world.run parts schedule).seats name).said := by
  induction schedule generalizing world with
  | nil => exact member
  | cons turn schedule inductionHypothesis =>
    refine inductionHypothesis ?_
    by_cases acting : name = turn.1
    · subst acting
      rw [seats_next_self]
      exact Part.mem_said_act member turn.2
    · rw [seats_next_of_ne acting]
      exact member

/-- A machine that is used among others agrees with itself alone. -/
theorem Agrees.run {other : World Name State} {name : Name} (agrees : Agrees name world other)
    (separate : world.Separate base) (separate' : other.Separate base)
    (payloads : ∀ name, ∀ cell ∈ (parts name).recipe.payload.cells, base.Holds cell)
    {schedule : List (Name × Deed)} (seeds : ∀ turn ∈ schedule, turn.2.SeedsFrom base) :
    Agrees name (world.run parts schedule)
      (other.run parts (schedule.filter fun turn => turn.1 = name)) := by
  induction schedule generalizing world other with
  | nil => exact agrees
  | cons turn schedule inductionHypothesis =>
    have later : ∀ turn ∈ schedule, turn.2.SeedsFrom base :=
      fun turn member => seeds turn (List.mem_cons_of_mem _ member)
    by_cases acting : turn.1 = name
    · subst acting
      rw [List.filter_cons_of_pos (by simp only [decide_true])]
      exact inductionHypothesis
        (agrees.next separate separate' payloads (seeds turn List.mem_cons_self))
        (separate.next payloads turn) (separate'.next payloads turn) later
    · rw [List.filter_cons_of_neg (by simpa only [decide_eq_true_eq] using acting)]
      exact inductionHypothesis (agrees.next_of_ne separate payloads (Ne.symm acting))
        (separate.next payloads turn) separate' later

/-- Machines that are used in any order, each with its own stream, do what each
does alone: they hand out the same requests and the same results, fail in the
same way, and leave their streams the same.  Payloads and seeds, and whatever
else was there from the beginning, are not changed, and neither is a result,
whatever is done afterwards. -/
theorem machines_independent (parts : (name : Name) -> Part (State name)) (base : Memory)
    (journal : Array Event) (states : (name : Name) -> State name)
    (payloads : ∀ name, ∀ cell ∈ (parts name).recipe.payload.cells, base.Holds cell)
    (schedule : List (Name × Deed)) (seeds : ∀ turn ∈ schedule, turn.2.SeedsFrom base) :
    let world := (start base journal states).run parts schedule
    (∀ name,
      let alone := (start base journal states).run parts
        (schedule.filter fun turn => turn.1 = name)
      (world.seats name).said.map Prod.snd = (alone.seats name).said.map Prod.snd ∧
        (world.seats name).exchange.map (·.snapshot world.memory) =
          (alone.seats name).exchange.map (·.snapshot alone.memory) ∧
        (world.seats name).faults = (alone.seats name).faults ∧
        world.states name = alone.states name) ∧
    (∀ cell, base.Holds cell -> world.memory.contents cell = base.contents cell) ∧
    ∀ (later : List (Name × Deed)) (name : Name), ∀ entry ∈ (world.seats name).said,
      entry.1.wanted = none -> entry.1.snapshot (world.run parts later).memory = entry.2 := by
  intro world
  have separate : (start base journal states).Separate base := separate_start base journal states
  have separateWorld : world.Separate base := separate.run payloads schedule
  refine ⟨?_, fun cell held => (separateWorld.kept held).2, ?_⟩
  · intro name alone
    have first : Agrees name (start base journal states) (start base journal states) :=
      ⟨⟨.none, .none, rfl, rfl⟩, rfl⟩
    have agrees : Agrees name world alone := first.run separate separate payloads seeds
    refine ⟨agrees.seat.said, ?_, agrees.seat.faults, agrees.state⟩
    have exchanges := agrees.seat.exchange
    generalize (world.seats name).exchange = exchange at exchanges ⊢
    generalize (alone.seats name).exchange = exchange' at exchanges ⊢
    cases exchanges with
    | none => rfl
    | some same => exact congrArg some same.snapshot_eq
  · intro later name entry member result
    have there : entry ∈ ((world.run parts later).seats name).said := mem_said_run member later
    exact ((separateWorld.run payloads later).results name entry there result).1

/-- One machine writes two bytes, which are seeded into another that reads a
third, each step of one between two of the other. -/
theorem machines_independent_of_two :
    let base : Memory := { Memory.empty with cells := #[[7, 8]] }
    let writer : Part MemoryFile :=
      ⟨⟨.writeAll, false, none, none, some (.shared ⟨0⟩)⟩, .blocking, MemoryFile.stream⟩
    let reader : Part MemoryFile :=
      ⟨⟨.readExact, false, some 2, some 3, none⟩, .blocking, MemoryFile.stream⟩
    let parts : (name : Bool) -> Part MemoryFile := fun name => if name then writer else reader
    let schedule : List (Bool × Deed) := [(true, .build), (false, .build), (true, .ask),
      (false, .extend (.shared ⟨0⟩)), (false, .ask), (true, .perform), (false, .perform),
      (true, .answer), (false, .answer)]
    let begin : World Bool fun _ => MemoryFile := start base #[] fun _ => .ofBytes [1, 2, 3]
    let world := begin.run parts schedule
    let alone := begin.run parts (schedule.filter fun turn => turn.1 = false)
    (world.seats false).said.map Prod.snd = (alone.seats false).said.map Prod.snd ∧
      world.memory.contents ⟨0⟩ = [7, 8] := by
  intro base writer reader parts schedule begin world alone
  have payloads : ∀ name, ∀ cell ∈ (parts name).recipe.payload.cells, base.Holds cell := by
    intro name
    cases name with
    | false => exact fun _ => nofun
    | true =>
      intro cell member
      rw [List.mem_singleton.mp member]
      exact Nat.zero_lt_one
  have seeds : ∀ turn ∈ schedule, turn.2.SeedsFrom base := by
    intro turn member seed extends_ cell used
    have seeded : seed = .shared ⟨0⟩ := by
      simp only [schedule, List.mem_cons, List.not_mem_nil, or_false] at member
      rcases member with rfl | rfl | rfl | rfl | rfl | rfl | rfl | rfl | rfl
      all_goals first | cases extends_; rfl | cases extends_
    subst seeded
    rw [List.mem_singleton.mp used]
    exact Nat.zero_lt_one
  have independent := machines_independent parts base #[] (fun _ => .ofBytes [1, 2, 3]) payloads
    schedule seeds
  -- Written out, what is to be shown can be compared without being computed.
  dsimp only [world, alone, begin]
  exact ⟨(independent.1 false).1, independent.2.1 ⟨0⟩ Nat.zero_lt_one⟩

end World

end ResumableStreams
