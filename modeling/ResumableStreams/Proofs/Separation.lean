import ResumableStreams.Machine.Reader
import ResumableStreams.Machine.Recipe
import ResumableStreams.Proofs.Lending
import ResumableStreams.Run.Handle

namespace ResumableStreams

/-!
# Whose buffer it is

Many machines may live in one memory.  What keeps them apart is that a step of
a machine writes into no buffer but its own: the one it has in hand, the one
that comes back with an answer, or a new one.  Machines that write to streams
write into no buffer at all.

So every step is described by two lists of cells, those in use before it and
those in use after it.  The steps of one machine fit together if the second
list of each is the first of the next, and whoever uses other cells does not
notice any of them.

A machine never has a buffer in hand and another under way.  Therefore what it
gives away with a result is not written into again.
-/

/-! ## Cells in use -/

/-- The cell of a mutable buffer. -/
def Buffer.cells : Buffer -> List Cell
  | .frozen _ => []
  | .shared cell => [cell]

def Exchange.cells (exchange : Exchange) : List Cell := exchange.carried.cells

/-- The cells of the answer, if there is one. -/
def answerCells (answer : Option Exchange) : List Cell :=
  match answer with
  | none => []
  | some exchange => exchange.cells

/-- Work in this direction leads from a memory in which the cells `uses` are in
use to one in which `left` are.  Only work that reads from streams writes into
cells, and into none but those in use.  There is as much room as before. -/
structure Memory.Moves (direction : Direction) (before : Memory) (uses : List Cell)
    (after : Memory) (left : List Cell) : Prop where
  holds : ∀ {cell}, before.Holds cell -> after.Holds cell
  contents : ∀ {cell}, before.Holds cell -> (direction = .read -> cell ∉ uses) ->
    after.contents cell = before.contents cell
  held : ∀ cell ∈ left, after.Holds cell
  origin : ∀ cell ∈ left, cell ∈ uses ∨ ¬ before.Holds cell
  room : after.room = before.room

namespace Memory

variable {direction : Direction} {before between after : Memory} {uses middle left : List Cell}

/-- Cells may be let go of. -/
theorem Moves.letGo {fewer : List Cell} (moves : before.Moves direction uses after left)
    (among : ∀ cell ∈ fewer, cell ∈ left) : before.Moves direction uses after fewer :=
  { moves with
    held := fun cell member => moves.held cell (among cell member)
    origin := fun cell member => moves.origin cell (among cell member) }

theorem Moves.refl (direction : Direction) (held : ∀ cell ∈ uses, before.Holds cell) :
    before.Moves direction uses before uses where
  holds := id
  contents := fun _ _ => rfl
  held := held
  origin := fun _ member => .inl member
  room := rfl

/-- What exists and is not in use does not come into use. -/
theorem Moves.not_mem (moves : before.Moves direction uses after left) {cell : Cell}
    (held : before.Holds cell) (unused : cell ∉ uses) : cell ∉ left := by
  intro member
  rcases moves.origin cell member with known | new
  · exact unused known
  · exact new held

theorem Moves.trans (first : before.Moves direction uses between middle)
    (second : between.Moves direction middle after left) :
    before.Moves direction uses after left where
  holds := fun held => second.holds (first.holds held)
  contents := by
    intro cell held apart
    have apart' : direction = .read -> cell ∉ middle := fun reads =>
      first.not_mem held (apart reads)
    exact (second.contents (first.holds held) apart').trans (first.contents held apart)
  held := second.held
  origin := by
    intro cell member
    rcases second.origin cell member with known | new
    · exact first.origin cell known
    · exact .inr fun held => new (first.holds held)
  room := second.room.trans first.room

/-- Storing into a cell in use. -/
theorem moves_store {cell : Cell} (used : cell ∈ uses) (held : ∀ cell ∈ uses, before.Holds cell)
    (bytes : Bytes) : before.Moves .read uses (before.store cell bytes) uses where
  holds := (before.holds_store_iff cell _ bytes).mpr
  contents := by
    intro other _ apart
    refine contents_store_of_ne ?_ bytes
    rintro rfl
    exact apart rfl used
  held := fun other member => (before.holds_store_iff cell other bytes).mpr (held other member)
  origin := fun _ member => .inl member
  room := rfl

theorem moves_allocate (direction : Direction) (held : ∀ cell ∈ uses, before.Holds cell)
    (bytes : Bytes) :
    before.Moves direction uses (before.allocate bytes).2 ((before.allocate bytes).1 :: uses) where
  holds := fun held' => holds_allocate_of_holds held' bytes
  contents := fun held' _ => contents_allocate_of_holds held' bytes
  held := by
    intro cell member
    rcases List.mem_cons.mp member with rfl | known
    · exact before.holds_allocate_new bytes
    · exact holds_allocate_of_holds (held cell known) bytes
  origin := by
    intro cell member
    rcases List.mem_cons.mp member with rfl | known
    · exact .inr fun held' => allocate_ne_of_holds held' bytes rfl
    · exact .inl known
  room := rfl

end Memory

/-! ## Steps that keep to their own cells -/

/-- The cells that a machine hands over with its progress. -/
def Progress.cells {Value : Type} (released : Value -> List Cell) : Progress Value -> List Cell
  | .finished value => released value
  | .needs exchange => exchange.cells
  | .endOfStream | .failed _ | .raised _ => []

theorem Progress.cells_reporting {Value : Type} (released : Value -> List Cell)
    (error : StreamError) : (reporting error).cells released = [] := by
  rw [reporting_eq_ite]
  split <;> rfl

/-- A step by which a machine that used `uses` comes to use the cells it has in
hand afterwards and those it hands over.  It never has both, and while it waits
for an answer it has none. -/
structure Step.Confined {Machine Value : Type} (cells : Machine -> List Cell)
    (released : Value -> List Cell) (direction : Direction) (before : Memory) (uses : List Cell)
    (step : Step Machine Value) : Prop where
  moves : before.Moves direction uses step.memory
    (cells step.machine ++ step.progress.cells released)
  apart : cells step.machine = [] ∨ step.progress.cells released = []
  goes : ∀ exchange, step.progress = .needs exchange ->
    exchange.direction = direction ∧ cells step.machine = []

theorem Step.Confined.after {Machine Value : Type} {cells : Machine -> List Cell}
    {released : Value -> List Cell} {direction : Direction} {before : Memory} {uses : List Cell}
    {step : Step Machine Value} (confined : step.Confined cells released direction before uses)
    (events : List Event) : (step.after events).Confined cells released direction before uses :=
  ⟨confined.moves, confined.apart, confined.goes⟩

/-- An error that a machine reports hands nothing over. -/
theorem Step.Confined.reporting {Machine Value : Type} {cells : Machine -> List Cell}
    {released : Value -> List Cell} {direction : Direction} {before after : Memory}
    {uses : List Cell} (machine : Machine)
    (moves : before.Moves direction uses after (cells machine)) (error : StreamError)
    (events : List Event) :
    Step.Confined cells released direction before uses
      ⟨.reporting error, machine, after, events⟩ where
  moves := by
    simp only [Progress.cells_reporting, List.append_nil]
    exact moves
  apart := .inr (Progress.cells_reporting released error)
  goes := fun exchange needs => absurd needs (Progress.reporting_ne_needs error exchange)

/-- What leads to a confined step is confined with it. -/
theorem Step.Confined.of_moves {Machine Value : Type} {cells : Machine -> List Cell}
    {released : Value -> List Cell} {direction : Direction} {before between : Memory}
    {uses middle : List Cell} {step : Step Machine Value}
    (moves : before.Moves direction uses between middle)
    (confined : step.Confined cells released direction between middle) :
    step.Confined cells released direction before uses :=
  ⟨moves.trans confined.moves, confined.apart, confined.goes⟩

/-- The type of machines that keep to the cells they have in hand and the cells
of the answers they are given. -/
class Confining (Machine : Type) {Value : outParam Type} [Resumable Machine Value] where
  /-- The cells in hand. -/
  cells : Machine -> List Cell
  /-- The cells of a result. -/
  released : Value -> List Cell
  direction : Machine -> Direction
  direction_resume : ∀ machine answer memory,
    direction (Resumable.resume machine answer memory).machine = direction machine
  confined : ∀ machine answer memory,
    (∀ cell ∈ cells machine ++ answerCells answer, memory.Holds cell) ->
    (∀ exchange, answer = some exchange ->
      exchange.direction = direction machine ∧ cells machine = []) ->
    (Resumable.resume machine answer memory).Confined cells released (direction machine) memory
      (cells machine ++ answerCells answer)

/-! ## Reading -/

namespace Read

/-- The cell of the buffer in hand. -/
def cells (read : Read) : List Cell := read.slot.toList

theorem held_cells {read : Read} {memory : Memory} (armed : read.Armed memory) :
    ∀ cell ∈ read.cells, memory.Holds cell := by
  intro cell member
  exact (armed cell (Option.mem_toList.mp member)).1

theorem moves_truncate {read : Read} {memory : Memory} (length : Int)
    (held : ∀ cell ∈ read.cells, memory.Holds cell) :
    memory.Moves .read read.cells (read.truncate length memory).2
      (read.truncate length memory).1.cells := by
  unfold truncate
  split
  · cases inHand : read.slot with
    | none =>
      simp only [cells, inHand]
      exact .refl .read (fun _ => nofun)
    | some cell =>
      rw [cells, inHand] at held
      simp only [cells, inHand]
      exact Memory.moves_store List.mem_cons_self held _
  · exact .refl .read held

theorem moves_replace (read : Read) {buffer : Buffer} {memory : Memory}
    (held : ∀ cell ∈ buffer.cells, memory.Holds cell) :
    memory.Moves .read buffer.cells (read.replace buffer memory).2
      (read.replace buffer memory).1.cells := by
  cases buffer with
  | frozen bytes => exact Memory.moves_allocate .read held _
  | shared cell => exact Memory.moves_store List.mem_cons_self held _

/-- The buffer in hand is lent out, or a new one. -/
theorem moves_request {read : Read} {memory : Memory}
    (held : ∀ cell ∈ read.cells, memory.Holds cell) :
    memory.Moves .read read.cells (read.request memory).2.2 (read.request memory).1.cells ∧
      (read.request memory).2.1.cells = [] := by
  cases inHand : read.slot with
  | none =>
    simp only [request, cells, inHand]
    exact ⟨Memory.moves_allocate .read (List.forall_mem_nil _) _, rfl⟩
  | some cell =>
    rw [cells, inHand] at held
    simp only [request, cells, inHand]
    exact ⟨.refl .read held, rfl⟩

theorem confined_receive {read : Read} {exchange : Exchange} {memory : Memory}
    (held : ∀ cell ∈ exchange.cells, memory.Holds cell) (lent : read.cells = [])
    (goes : exchange.direction = .read) :
    (read.receive exchange memory).Confined cells (fun output => output.buffer.cells) .read memory
      exchange.cells := by
  rcases exchange with ⟨direction, payload⟩
  cases goes
  cases payload with
  | request buffer =>
    refine ⟨?_, .inl lent, by rintro _ ⟨⟩; exact ⟨rfl, lent⟩⟩
    rw [receive_request, lent]
    exact .refl .read held
  | response output =>
    by_cases nothing : output.count = 0
    · simp only [receive, if_pos nothing]
      refine ⟨?_, .inr rfl, nofun⟩
      rw [Progress.cells, List.append_nil]
      exact read.moves_replace held
    · simp only [receive, if_neg nothing]
      refine ⟨?_, .inl lent, nofun⟩
      rw [lent]
      exact .refl .read held

instance : Confining Read where
  cells := cells
  released output := output.buffer.cells
  direction _ := .read
  direction_resume _ _ _ := rfl
  confined := by
    intro read answer memory held fits
    cases answer with
    | none =>
      rw [answerCells, List.append_nil] at held ⊢
      rcases moves_request held with ⟨moves, lent⟩
      refine ⟨?_, .inl lent, by rintro _ ⟨⟩; exact ⟨rfl, lent⟩⟩
      show memory.Moves .read read.cells (read.request memory).2.2
        ((read.request memory).2.1.cells ++ (read.request memory).1.cells)
      rw [lent]
      exact moves
    | some exchange =>
      rcases fits exchange rfl with ⟨goes, lent⟩
      rw [answerCells, lent, List.nil_append] at held ⊢
      exact confined_receive held lent goes

end Read

namespace ReadExact

theorem moves_trimmed {machine : ReadExact} {memory : Memory}
    (held : ∀ cell ∈ machine.read.cells, memory.Holds cell) :
    memory.Moves .read machine.read.cells (machine.trimmed memory).2
      (machine.trimmed memory).1.cells := by
  rw [trimmed_eq_truncate]
  exact Read.moves_truncate _ held

/-- A buffer that is lent out is not shortened. -/
theorem trimmed_of_lent {machine : ReadExact} (lent : machine.read.slot = none) (memory : Memory) :
    (machine.trimmed memory).2 = memory ∧ (machine.trimmed memory).1.slot = none := by
  rw [trimmed_eq_truncate]
  refine ⟨?_, (Read.slot_truncate _ _ memory).trans lent⟩
  unfold Read.truncate
  split
  · simp only [lent]
  · rfl

/-- The cells are those of the inner machine, and a result has none. -/
abbrev Confined (memory : Memory) (uses : List Cell) (step : Step ReadExact Bytes) : Prop :=
  Step.Confined (fun machine => machine.read.cells) (fun _ => []) .read memory uses step

theorem confined_finish {machine : ReadExact} {memory : Memory} {uses : List Cell}
    (held : ∀ cell ∈ uses, memory.Holds cell) (among : ∀ cell ∈ machine.read.cells, cell ∈ uses) :
    Confined memory uses (machine.finish memory) := by
  refine ⟨(Memory.Moves.refl .read held).letGo ?_, .inr rfl, nofun⟩
  intro cell member
  exact among cell ((List.append_nil _).subst member)

theorem confined_request {machine : ReadExact} {memory : Memory}
    (held : ∀ cell ∈ machine.read.cells, memory.Holds cell) :
    Confined memory machine.read.cells (machine.request memory) := by
  by_cases complete : machine.Complete
  · rw [request, if_pos complete]
    exact confined_finish held fun _ => id
  · rw [request, if_neg complete]
    have trims := moves_trimmed held
    rcases Read.moves_request trims.held with ⟨lends, lent⟩
    refine ⟨?_, .inl lent, by rintro _ ⟨⟩; exact ⟨rfl, lent⟩⟩
    refine trims.trans (lends.letGo ?_)
    intro cell member
    rcases List.mem_append.mp member with inHand | out
    · exact absurd inHand (lent ▸ List.not_mem_nil)
    · exact out

/-- The buffer goes into the hand of the inner machine, and from there into the
next request. -/
theorem confined_absorb (machine : ReadExact) {output : Output} {memory : Memory}
    (held : ∀ cell ∈ output.buffer.cells, memory.Holds cell) :
    Confined memory output.buffer.cells
      ((machine.absorb output memory).1.request (machine.absorb output memory).2) := by
  have returned : memory.Moves .read output.buffer.cells (machine.absorb output memory).2
      (machine.absorb output memory).1.read.cells := machine.read.moves_replace held
  exact (confined_request returned.held).of_moves returned

theorem confined_receive {machine : ReadExact} {exchange : Exchange} {memory : Memory}
    (held : ∀ cell ∈ exchange.cells, memory.Holds cell) (lent : machine.read.slot = none)
    (goes : exchange.direction = .read) :
    Confined memory exchange.cells (machine.receive exchange memory) := by
  have nothing {read : Read} (none_left : read.slot = none) : read.cells = [] := by
    rw [Read.cells, none_left]
    rfl
  by_cases complete : machine.Complete
  · rw [receive, if_pos complete]
    exact confined_finish held fun cell member => absurd member (nothing lent ▸ List.not_mem_nil)
  · rw [receive, if_neg complete]
    rcases machine.trimmed_of_lent lent memory with ⟨same, lent'⟩
    simp only [same]
    have inner := Read.confined_receive held (nothing lent') goes
    cases stepped : (machine.trimmed memory).1.receive exchange memory with
    | mk progress read between events =>
      rw [stepped] at inner
      cases progress with
      | needs exchange => exact ⟨inner.moves, inner.apart, by rintro _ ⟨⟩; exact inner.goes _ rfl⟩
      | failed error => exact ⟨inner.moves, .inr rfl, nofun⟩
      | raised fault => exact ⟨inner.moves, .inr rfl, nofun⟩
      | endOfStream =>
        have kept : memory.Moves .read exchange.cells between read.cells :=
          inner.moves.letGo fun _ => List.mem_append_left _
        exact Step.Confined.reporting (ReadExact.mk machine.target read .empty) kept _ _
      | finished output =>
        have returned := inner.moves.letGo fun _ => List.mem_append_right read.cells
        exact ((confined_absorb _ returned.held).of_moves returned).after _

instance : Confining ReadExact where
  cells machine := machine.read.cells
  released _ := []
  direction _ := .read
  direction_resume _ _ _ := rfl
  confined := by
    intro machine answer memory held fits
    cases answer with
    | none =>
      rw [answerCells, List.append_nil] at held ⊢
      exact confined_request held
    | some exchange =>
      rcases fits exchange rfl with ⟨goes, lent⟩
      rw [answerCells, lent, List.nil_append] at held ⊢
      exact confined_receive held (Option.toList_eq_nil_iff.mp lent) goes

end ReadExact

namespace ReadToEnd

abbrev Confined (memory : Memory) (uses : List Cell) (step : Step ReadToEnd Bytes) : Prop :=
  Step.Confined (fun machine => machine.read.cells) (fun _ => []) .read memory uses step

theorem confined_request {machine : ReadToEnd} {memory : Memory}
    (held : ∀ cell ∈ machine.read.cells, memory.Holds cell) :
    Confined memory machine.read.cells (machine.request memory) := by
  rcases Read.moves_request held with ⟨lends, lent⟩
  refine ⟨lends.letGo ?_, .inl lent, by rintro _ ⟨⟩; exact ⟨rfl, lent⟩⟩
  intro cell member
  rcases List.mem_append.mp member with inHand | out
  · exact absurd inHand (lent ▸ List.not_mem_nil)
  · exact out

/-- The buffer goes into the hand of the inner machine, and from there into the
next request. -/
theorem confined_absorb (machine : ReadToEnd) {output : Output} {memory : Memory}
    (held : ∀ cell ∈ output.buffer.cells, memory.Holds cell) :
    Confined memory output.buffer.cells
      ((machine.absorb output memory).1.request (machine.absorb output memory).2) := by
  have returned : memory.Moves .read output.buffer.cells (machine.absorb output memory).2
      (machine.absorb output memory).1.read.cells := machine.read.moves_replace held
  exact (confined_request returned.held).of_moves returned

theorem confined_receive {machine : ReadToEnd} {exchange : Exchange} {memory : Memory}
    (held : ∀ cell ∈ exchange.cells, memory.Holds cell) (lent : machine.read.cells = [])
    (goes : exchange.direction = .read) :
    Confined memory exchange.cells (machine.receive exchange memory) := by
  have inner := Read.confined_receive held lent goes
  unfold receive
  cases stepped : machine.read.receive exchange memory with
  | mk progress read between events =>
    rw [stepped] at inner
    cases progress with
    | needs exchange => exact ⟨inner.moves, inner.apart, by rintro _ ⟨⟩; exact inner.goes _ rfl⟩
    | failed error => exact ⟨inner.moves, .inr rfl, nofun⟩
    | raised fault => exact ⟨inner.moves, .inr rfl, nofun⟩
    | endOfStream => exact ⟨inner.moves, .inr rfl, nofun⟩
    | finished output =>
      have returned := inner.moves.letGo fun _ => List.mem_append_right read.cells
      exact ((confined_absorb _ returned.held).of_moves returned).after _

instance : Confining ReadToEnd where
  cells machine := machine.read.cells
  released _ := []
  direction _ := .read
  direction_resume _ _ _ := rfl
  confined := by
    intro machine answer memory held fits
    cases answer with
    | none =>
      rw [answerCells, List.append_nil] at held ⊢
      exact confined_request held
    | some exchange =>
      rcases fits exchange rfl with ⟨goes, lent⟩
      rw [answerCells, lent, List.nil_append] at held ⊢
      exact confined_receive held lent goes

end ReadToEnd

/-! ## Writing -/

/-- The rest of a mutable buffer is in a new cell. -/
theorem Buffer.moves_rest {buffer : Buffer} {memory : Memory} (count : Nat)
    (held : ∀ cell ∈ buffer.cells, memory.Holds cell) :
    memory.Moves .write buffer.cells (buffer.rest count memory).2
      (buffer.rest count memory).1.cells := by
  cases buffer with
  | frozen bytes => exact .refl .write held
  | shared cell =>
    refine (Memory.moves_allocate .write held _).letGo ?_
    intro fresh member
    exact List.mem_cons.mpr (.inl (List.mem_singleton.mp member))

namespace Write

abbrev Confined (memory : Memory) (uses : List Cell) (step : Step Write Output) : Prop :=
  Step.Confined (fun write => write.payload.cells) (fun output => output.buffer.cells) .write memory
    uses step

theorem confined_receive {write : Write} {exchange : Exchange} {memory : Memory}
    (held : ∀ cell ∈ exchange.cells, memory.Holds cell) (lent : write.payload.cells = [])
    (goes : exchange.direction = .write) :
    Confined memory exchange.cells (write.receive exchange memory) := by
  rcases exchange with ⟨direction, payload⟩
  cases goes
  cases payload with
  | request buffer =>
    refine ⟨?_, .inl lent, by rintro _ ⟨⟩; exact ⟨rfl, lent⟩⟩
    rw [receive_request, lent]
    exact .refl .write held
  | response output =>
    by_cases nothing : output.count = 0
    · simp only [receive, if_pos nothing]
      refine ⟨?_, .inr rfl, nofun⟩
      rw [Progress.cells, lent]
      exact (Memory.Moves.refl .write held).letGo nofun
    · simp only [receive, if_neg nothing]
      refine ⟨?_, .inl lent, nofun⟩
      rw [lent]
      exact .refl .write held

instance : Confining Write where
  cells write := write.payload.cells
  released output := output.buffer.cells
  direction _ := .write
  direction_resume _ _ _ := rfl
  confined := by
    intro write answer memory held fits
    cases answer with
    | none =>
      rw [answerCells, List.append_nil] at held ⊢
      exact ⟨.refl .write held, .inl rfl, by rintro _ ⟨⟩; exact ⟨rfl, rfl⟩⟩
    | some exchange =>
      rcases fits exchange rfl with ⟨goes, lent⟩
      rw [answerCells, lent, List.nil_append] at held ⊢
      exact confined_receive held lent goes

end Write

namespace WriteAll

abbrev Confined (memory : Memory) (uses : List Cell) (step : Step WriteAll Nat) : Prop :=
  Step.Confined (fun machine => machine.write.payload.cells) (fun _ => []) .write memory uses step

theorem confined_done {machine : WriteAll} {memory : Memory} {uses : List Cell}
    (held : ∀ cell ∈ uses, memory.Holds cell)
    (among : ∀ cell ∈ machine.write.payload.cells, cell ∈ uses) :
    Confined memory uses ⟨.finished machine.total, machine, memory, []⟩ := by
  refine ⟨(Memory.Moves.refl .write held).letGo ?_, .inr rfl, nofun⟩
  intro cell member
  exact among cell ((List.append_nil _).subst member)

theorem confined_request {machine : WriteAll} {memory : Memory}
    (held : ∀ cell ∈ machine.write.payload.cells, memory.Holds cell) :
    Confined memory machine.write.payload.cells (machine.request memory) := by
  unfold request
  split
  · exact confined_done held fun _ => id
  · exact ⟨.refl .write held, .inl rfl, by rintro _ ⟨⟩; exact ⟨rfl, rfl⟩⟩

theorem confined_absorb (machine : WriteAll) {output : Output} {memory : Memory}
    (held : ∀ cell ∈ output.buffer.cells, memory.Holds cell) :
    Confined memory output.buffer.cells
      ((machine.absorb output memory).1.request (machine.absorb output memory).2.1) := by
  have rest : memory.Moves .write output.buffer.cells (machine.absorb output memory).2.1
      (machine.absorb output memory).1.write.payload.cells := Buffer.moves_rest output.count held
  exact (confined_request rest.held).of_moves rest

theorem confined_receive {machine : WriteAll} {exchange : Exchange} {memory : Memory}
    (held : ∀ cell ∈ exchange.cells, memory.Holds cell) (lent : machine.write.payload.cells = [])
    (goes : exchange.direction = .write) :
    Confined memory exchange.cells (machine.receive exchange memory) := by
  unfold receive
  split
  · exact confined_done held fun cell member => absurd member (lent ▸ List.not_mem_nil)
  · have inner := Write.confined_receive held lent goes
    cases stepped : machine.write.receive exchange memory with
    | mk progress write between events =>
      rw [stepped] at inner
      cases progress with
      | needs exchange => exact ⟨inner.moves, inner.apart, by rintro _ ⟨⟩; exact inner.goes _ rfl⟩
      | failed error => exact ⟨inner.moves, .inr rfl, nofun⟩
      | raised fault => exact ⟨inner.moves, .inr rfl, nofun⟩
      | endOfStream => exact ⟨inner.moves, .inr rfl, nofun⟩
      | finished output =>
        have returned := inner.moves.letGo fun _ => List.mem_append_right write.payload.cells
        exact ((confined_absorb _ returned.held).of_moves returned).after _

instance : Confining WriteAll where
  cells machine := machine.write.payload.cells
  released _ := []
  direction _ := .write
  direction_resume _ _ _ := rfl
  confined := by
    intro machine answer memory held fits
    cases answer with
    | none =>
      rw [answerCells, List.append_nil] at held ⊢
      exact confined_request held
    | some exchange =>
      rcases fits exchange rfl with ⟨goes, lent⟩
      rw [answerCells, lent, List.nil_append] at held ⊢
      exact confined_receive held lent goes

end WriteAll

/-! ## Machines of any kind -/

section

variable {Kind Other Value Result : Type}

theorem Progress.cells_map {released : Value -> List Cell} {released' : Result -> List Cell}
    {change : Value -> Result} (same : ∀ value, released' (change value) = released value)
    (progress : Progress Value) :
    (progress.map change).cells released' = progress.cells released := by
  cases progress with
  | finished value => exact same value
  | needs exchange => rfl
  | endOfStream => rfl
  | failed error => rfl
  | raised fault => rfl

/-- A machine seen as another uses the same cells. -/
theorem Step.Confined.map {cells : Kind -> List Cell} {released : Value -> List Cell}
    {direction : Direction} {before : Memory} {uses : List Cell} {step : Step Kind Value}
    (confined : step.Confined cells released direction before uses) {seen : Kind -> Other}
    {change : Value -> Result} {cells' : Other -> List Cell} {released' : Result -> List Cell}
    (sameCells : ∀ machine, cells' (seen machine) = cells machine)
    (sameReleased : ∀ value, released' (change value) = released value) :
    (step.map seen change).Confined cells' released' direction before uses := by
  have out := Progress.cells_map sameReleased step.progress
  refine ⟨?_, ?_, ?_⟩
  · show before.Moves direction uses step.memory
      (cells' (seen step.machine) ++ (step.progress.map change).cells released')
    rw [sameCells, out]
    exact confined.moves
  · show cells' (seen step.machine) = [] ∨ (step.progress.map change).cells released' = []
    rw [sameCells, out]
    exact confined.apart
  · intro exchange needs
    cases progress : step.progress with
    | needs other =>
      rw [Step.map, progress] at needs
      cases needs
      rcases confined.goes exchange progress with ⟨goes, lent⟩
      exact ⟨goes, (sameCells step.machine).trans lent⟩
    | finished value => rw [Step.map, progress] at needs; cases needs
    | endOfStream => rw [Step.map, progress] at needs; cases needs
    | failed error => rw [Step.map, progress] at needs; cases needs
    | raised fault => rw [Step.map, progress] at needs; cases needs

end

/-- The mutable buffer of a result, if it has one. -/
def Value.cells : Value -> List Cell
  | .output used => used.buffer.cells
  | .bytes _ | .count _ => []

namespace Machine

def cells : Machine -> List Cell
  | .read machine => Confining.cells machine
  | .write machine => Confining.cells machine
  | .readExact machine => Confining.cells machine
  | .readToEnd machine => Confining.cells machine
  | .writeAll machine => Confining.cells machine

def direction : Machine -> Direction
  | .read _ | .readExact _ | .readToEnd _ => .read
  | .write _ | .writeAll _ => .write

instance : Confining Machine where
  cells := cells
  released := Value.cells
  direction := direction
  direction_resume machine _ _ := by cases machine <;> rfl
  confined := by
    intro machine answer memory held fits
    cases machine with
    | read machine =>
      exact (Confining.confined machine answer memory held fits).map (fun _ => rfl) fun _ => rfl
    | write machine =>
      exact (Confining.confined machine answer memory held fits).map (fun _ => rfl) fun _ => rfl
    | readExact machine =>
      exact (Confining.confined machine answer memory held fits).map (fun _ => rfl) fun _ => rfl
    | readToEnd machine =>
      exact (Confining.confined machine answer memory held fits).map (fun _ => rfl) fun _ => rfl
    | writeAll machine =>
      exact (Confining.confined machine answer memory held fits).map (fun _ => rfl) fun _ => rfl

theorem cells_extend {machine : Machine} {seeded : Bytes -> Machine}
    (collects : machine.extend = some seeded) (bytes : Bytes) :
    (seeded bytes).cells = machine.cells ∧ (seeded bytes).direction = machine.direction := by
  cases machine with
  | read machine => cases collects
  | write machine => cases collects
  | writeAll machine => cases collects
  | readExact machine =>
    cases collects
    exact ⟨rfl, rfl⟩
  | readToEnd machine =>
    cases collects
    exact ⟨rfl, rfl⟩

end Machine

/-! ## Building machines -/

/-- The cells of a machine, if it could be built. -/
def Construction.cells {Kind : Type} (cells : Kind -> List Cell) (built : Construction Kind) :
    List Cell :=
  match built.result with
  | .ok machine => cells machine
  | .error _ => []

/-- A machine built and then seen as another has the same cells. -/
theorem Memory.Moves.map {Kind Other : Type} {cells : Kind -> List Cell}
    {cells' : Other -> List Cell} {before : Memory} {uses : List Cell} {built : Construction Kind}
    (moves : before.Moves .write uses built.memory (built.cells cells)) (seen : Kind -> Other)
    (same : ∀ machine, cells' (seen machine) = cells machine) :
    before.Moves .write uses (built.map seen).memory ((built.map seen).cells cells') := by
  rcases built with ⟨result, memory, events⟩
  cases result with
  | ok machine =>
    show before.Moves .write uses memory (cells' (seen machine))
    rw [same]
    exact moves
  | error fault => exact moves

/-- A buffer is made, and no other is touched. -/
theorem Read.moves_make (capacity : Int) (memory : Memory) :
    memory.Moves .write [] (make capacity memory).memory
      ((make capacity memory).cells Read.cells) := by
  unfold make
  split
  · exact .refl .write (by nofun)
  · cases checked : checkLength capacity.toNat memory.room with
    | error fault => exact .refl .write (by nofun)
    | ok allowed => exact Memory.moves_allocate .write (by nofun) _

theorem ReadExact.moves_make (target capacity : Int) (memory : Memory) :
    memory.Moves .write [] (make target capacity memory).memory
      ((make target capacity memory).cells fun machine => machine.read.cells) := by
  unfold make
  split
  · exact .refl .write (by nofun)
  · split
    · exact .refl .write (by nofun)
    · exact (Read.moves_make (min capacity target) memory).map
        (fun read => ReadExact.mk target.toNat read .empty) fun _ => rfl

theorem ReadToEnd.moves_make (capacity : Int) (memory : Memory) :
    memory.Moves .write [] (make capacity memory).memory
      ((make capacity memory).cells fun machine => machine.read.cells) := by
  unfold make
  split
  · exact .refl .write (by nofun)
  · exact (Read.moves_make capacity memory).map (fun read => ReadToEnd.mk read .empty) fun _ => rfl

namespace Recipe

/-- The bytes to be written, or none where none are given. -/
def payload (recipe : Recipe) : Buffer := recipe.data.getD (.frozen [])

/-- Which way the bytes of the machine will go. -/
def direction (recipe : Recipe) : Direction :=
  match recipe.kind with
  | .read | .readExact | .readToEnd => .read
  | .write | .writeAll => .write

/-- The cell of the payload, where the machine is to write one. -/
def cells (recipe : Recipe) : List Cell :=
  match recipe.direction with
  | .read => []
  | .write => recipe.payload.cells

/-- Building a machine writes into no cell.  What the machine then has in hand
is new, or it is the payload. -/
theorem moves_build {recipe : Recipe} {memory : Memory}
    (held : ∀ cell ∈ recipe.cells, memory.Holds cell) :
    memory.Moves .write recipe.cells (recipe.build memory).memory
      ((recipe.build memory).cells Machine.cells) := by
  rcases recipe with ⟨kind, byCapacity, capacity, target, data⟩
  unfold build
  split
  · exact (Memory.Moves.refl .write held).letGo (by nofun)
  · rename_i kinds
    cases kinds
    exact (Read.moves_make _ memory).map Machine.read fun _ => rfl
  · rename_i kinds
    cases kinds
    exact (ReadExact.moves_make _ _ memory).map Machine.readExact fun _ => rfl
  · rename_i kinds
    cases kinds
    exact (ReadToEnd.moves_make _ memory).map Machine.readToEnd fun _ => rfl
  · rename_i kinds
    cases kinds
    exact .refl .write held
  · rename_i kinds
    cases kinds
    exact .refl .write held

theorem direction_build {recipe : Recipe} {memory : Memory} {machine : Machine}
    (built : (recipe.build memory).result = .ok machine) :
    machine.direction = recipe.direction := by
  have kept {Kind : Type} {seen : Kind -> Machine} {construction : Construction Kind}
      {expected : Direction} (all : ∀ machine, (seen machine).direction = expected)
      (made : (construction.map seen).result = .ok machine) : machine.direction = expected := by
    rcases construction with ⟨result, _, _⟩
    cases result with
    | error fault => cases made
    | ok inner =>
      cases made
      exact all inner
  rcases recipe with ⟨kind, byCapacity, capacity, target, data⟩
  unfold build at built
  split at built
  · cases built
  · rename_i kinds
    cases kinds
    exact kept (fun _ => rfl) built
  · rename_i kinds
    cases kinds
    exact kept (fun _ => rfl) built
  · rename_i kinds
    cases kinds
    exact kept (fun _ => rfl) built
  · rename_i kinds
    cases kinds
    cases built
    rfl
  · rename_i kinds
    cases kinds
    cases built
    rfl

end Recipe

/-! ## Performing exchanges -/

theorem Output.buffer_of_make {buffer : Buffer} {count : Int} {memory : Memory} {output : Output}
    (made : Output.make buffer count memory = .ok output) : output.buffer = buffer := by
  unfold Output.make at made
  split at made
  · cases made
    rfl
  · cases made

theorem Exchange.cells_answer {direction : Direction} {buffer : Buffer} {reply : Reply}
    {memory : Memory} {answer : Exchange}
    (given : Exchange.answer ⟨direction, .request buffer⟩ buffer reply memory = .ok answer) :
    answer.cells = buffer.cells := by
  cases reply with
  | wouldBlock =>
    cases given
    rfl
  | raised fault => cases given
  | moved count =>
    cases made : Output.make buffer count memory with
    | error fault =>
      simp only [Exchange.answer, made] at given
      cases given
    | ok output =>
      simp only [Exchange.answer, made] at given
      cases given
      exact congrArg Buffer.cells (Output.buffer_of_make made)

/-- Performing an exchange writes into its own buffer at most, and into none if
it is a write.  The answer carries the same buffer the same way. -/
theorem moves_handle {State : Type} (concurrency : Concurrency) (stream : Stream State)
    {exchange : Exchange} {context : Context State}
    (held : ∀ cell ∈ exchange.cells, context.memory.Holds cell) :
    let performed := handle concurrency stream exchange context
    context.memory.Moves exchange.direction exchange.cells performed.2.memory exchange.cells ∧
      ∀ answer, performed.1 = .ok answer ->
        answer.cells = exchange.cells ∧ answer.direction = exchange.direction := by
  rcases exchange with ⟨direction, payload⟩
  cases payload with
  | response output =>
    rw [handle_response]
    exact ⟨.refl direction held, by rintro _ ⟨⟩; exact ⟨rfl, rfl⟩⟩
  | request buffer =>
    have replied {reply : Reply} {memory : Memory} {answer : Exchange}
        (given : Exchange.answer ⟨direction, .request buffer⟩ buffer reply memory = .ok answer) :
        answer.cells = buffer.cells ∧ answer.direction = direction :=
      ⟨Exchange.cells_answer given, Exchange.direction_answer given⟩
    cases direction with
    | write => exact ⟨.refl .write held, fun _ => replied⟩
    | read =>
      cases buffer with
      | frozen bytes => exact ⟨.refl .read held, fun _ => replied⟩
      | shared cell => exact ⟨Memory.moves_store List.mem_cons_self held _, fun _ => replied⟩

end ResumableStreams
