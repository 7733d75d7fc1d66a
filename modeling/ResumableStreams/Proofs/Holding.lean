import ResumableStreams.Proofs.Driving
import ResumableStreams.Proofs.Likeness

namespace ResumableStreams

/-!
# Holding a machine

The holder of a machine builds it, seeds it, resumes it and has its exchanges
performed, in any order.  It may resume the machine with nothing while a
request is under way, put a failed exchange to the stream again, or never take
up an answer.  It only does not mix up the exchanges of different machines.

Two things are shown of everything that a holder can do.  Only the cells of
its own machine are written into, and what the machine has given out is not
among those that may be written into later.  And in another memory, where its
cells have other names and hold the same, the effect is the same.
-/

/-! ## How things look -/

/-- The bytes that a buffer holds at present, which do not change any more. -/
def Buffer.snapshot (buffer : Buffer) (memory : Memory) : Buffer := .frozen (buffer.bytes memory)

def Output.snapshot (output : Output) (memory : Memory) : Output :=
  ⟨output.buffer.snapshot memory, output.count⟩

def Exchange.snapshot (exchange : Exchange) (memory : Memory) : Exchange :=
  match exchange with
  | ⟨direction, .request buffer⟩ => ⟨direction, .request (buffer.snapshot memory)⟩
  | ⟨direction, .response output⟩ => ⟨direction, .response (output.snapshot memory)⟩

def Value.snapshot (value : Value) (memory : Memory) : Value :=
  match value with
  | .output used => .output (used.snapshot memory)
  | .bytes read => .bytes read
  | .count written => .count written

/-- How a progress looks at present. -/
def Progress.snapshot (progress : Progress Value) (memory : Memory) : Progress Value :=
  match progress with
  | .finished value => .finished (value.snapshot memory)
  | .needs exchange => .needs (exchange.snapshot memory)
  | .endOfStream => .endOfStream
  | .failed error => .failed error
  | .raised fault => .raised fault

section

variable {first second : Memory}

theorem Buffer.Matches.snapshot_eq {buffer other : Buffer}
    (same : buffer.Matches first second other) : buffer.snapshot first = other.snapshot second :=
  congrArg Buffer.frozen same.bytes_eq

theorem Exchange.Matches.snapshot_eq {exchange other : Exchange}
    (same : exchange.Matches first second other) :
    exchange.snapshot first = other.snapshot second := by
  cases same with
  | request direction buffers => simp only [Exchange.snapshot, buffers.snapshot_eq]
  | response direction count buffers =>
    simp only [Exchange.snapshot, Output.snapshot, buffers.snapshot_eq]

/-- What is equal but for names looks the same. -/
theorem Progress.Matches.snapshot_eq {progress other : Progress Value}
    (same : progress.Matches (Value.Matches first second) first second other) :
    progress.snapshot first = other.snapshot second := by
  cases same with
  | needs exchanges => exact congrArg Progress.needs exchanges.snapshot_eq
  | endOfStream => rfl
  | failed error => rfl
  | raised fault => rfl
  | finished values =>
    cases values with
    | bytes bytes => rfl
    | count count => rfl
    | @output used other outputs =>
      rcases used with ⟨buffer, count⟩
      rcases other with ⟨buffer', _⟩
      rcases outputs with ⟨rfl, buffers⟩
      simp only [Progress.snapshot, Value.snapshot, Output.snapshot, buffers.snapshot_eq]

/-- What a buffer holds, it shows. -/
theorem Buffer.snapshot_of_contents {buffer : Buffer}
    (kept : ∀ cell ∈ buffer.cells, second.contents cell = first.contents cell) :
    buffer.snapshot second = buffer.snapshot first := by
  cases buffer with
  | frozen bytes => rfl
  | shared cell => exact congrArg Buffer.frozen (kept cell List.mem_cons_self)

theorem Progress.snapshot_of_contents {progress : Progress Value}
    (kept : ∀ cell ∈ progress.cells Value.cells, second.contents cell = first.contents cell) :
    progress.snapshot second = progress.snapshot first := by
  cases progress with
  | endOfStream => rfl
  | failed error => rfl
  | raised fault => rfl
  | needs exchange =>
    rcases exchange with ⟨direction, payload⟩
    cases payload with
    | request buffer =>
      have same : buffer.snapshot second = buffer.snapshot first := Buffer.snapshot_of_contents kept
      simp only [Progress.snapshot, Exchange.snapshot, same]
    | response output =>
      have same : output.buffer.snapshot second = output.buffer.snapshot first :=
        Buffer.snapshot_of_contents kept
      simp only [Progress.snapshot, Exchange.snapshot, Output.snapshot, same]
  | finished value =>
    cases value with
    | bytes bytes => rfl
    | count count => rfl
    | output used =>
      have same : used.buffer.snapshot second = used.buffer.snapshot first :=
        Buffer.snapshot_of_contents kept
      simp only [Progress.snapshot, Value.snapshot, Output.snapshot, same]

end

/-! ## Holding a machine -/

/-- The request that a machine needs to be performed. -/
def Progress.wanted : Progress Value -> Option Exchange
  | .needs exchange => some exchange
  | _ => none

/-- How to seed bytes, which only some machines take. -/
def Machine.seeded (machine : Machine) (bytes : Bytes) : Machine :=
  match machine.extend with
  | none => machine
  | some extended => extended bytes

/-- What may be done with a machine. -/
inductive Deed where
  /-- Build the machine, anew if there is one already. -/
  | build
  | extend (seed : Buffer)
  /-- Resume the machine with nothing. -/
  | ask
  /-- Resume the machine with the exchange in hand, performed or not. -/
  | answer
  /-- Perform the exchange in hand. -/
  | perform

/-- What a machine is built from, and where its exchanges are performed. -/
structure Part (State : Type) where
  recipe : Recipe
  concurrency : Concurrency
  stream : Stream State

/-- The holder of a machine, with everything that it has been told. -/
structure Seat where
  machine : Option Machine
  /-- What the machine has handed out last, or the answer to it. -/
  exchange : Option Exchange
  /-- What the machine reported, newest first, and how it looked then. -/
  said : List (Progress Value × Progress Value)
  /-- Refusals to build the machine and failures of the stream. -/
  faults : List Fault

namespace Seat

def empty : Seat := ⟨none, none, [], []⟩

variable {State : Type}

def resume (seat : Seat) (machine : Machine) (answer : Option Exchange) (context : Context State) :
    Seat × Context State :=
  let step := Resumable.resume machine answer context.memory
  ({ seat with
      machine := some step.machine
      exchange := step.progress.wanted
      said := (step.progress, step.progress.snapshot step.memory) :: seat.said },
    context.after step.memory step.events)

end Seat

/-- Do something with a machine.  What cannot be done is left alone. -/
def Part.act {State : Type} (part : Part State) (deed : Deed) (seat : Seat)
    (context : Context State) : Seat × Context State :=
  match deed with
  | .build =>
    let built := part.recipe.build context.memory
    let context := context.after built.memory built.events
    match built.result with
    | .ok machine => ({ seat with machine := some machine, exchange := none }, context)
    | .error fault =>
      ({ seat with machine := none, exchange := none, faults := fault :: seat.faults }, context)
  | .extend seed =>
    ({ seat with machine := seat.machine.map (·.seeded (seed.bytes context.memory)) }, context)
  | .ask =>
    match seat.machine with
    | none => (seat, context)
    | some machine => seat.resume machine none context
  | .answer =>
    match seat.machine, seat.exchange with
    | some machine, some exchange => seat.resume machine (some exchange) context
    | _, _ => (seat, context)
  | .perform =>
    match seat.exchange with
    | none => (seat, context)
    | some exchange =>
      match handle part.concurrency part.stream exchange context with
      | (.ok answer, context) => ({ seat with exchange := some answer }, context)
      | (.error fault, context) => ({ seat with faults := fault :: seat.faults }, context)

/-! ## One deed among many machines -/

namespace Seat

/-- The cells that the machine has in hand. -/
def inHand (seat : Seat) : List Cell :=
  match seat.machine with
  | none => []
  | some machine => machine.cells

def cells (seat : Seat) : List Cell := seat.inHand ++ answerCells seat.exchange

/-- Which way the bytes of the machine go. -/
def direction (seat : Seat) : Direction :=
  match seat.machine with
  | none => .read
  | some machine => machine.direction

/-- The cells that may be written into. -/
def written (seat : Seat) : List Cell :=
  match seat.direction with
  | .read => seat.cells
  | .write => []

theorem mem_cells_of_mem_written {seat : Seat} {cell : Cell} (member : cell ∈ seat.written) :
    cell ∈ seat.cells := by
  unfold written at member
  split at member
  · exact member
  · cases member

/-- The cells in use exist, and while an exchange is under way the machine has
none in hand. -/
structure Sound (seat : Seat) (memory : Memory) : Prop where
  held : ∀ cell ∈ seat.cells, memory.Holds cell
  goes : ∀ exchange, seat.exchange = some exchange ->
    exchange.direction = seat.direction ∧ seat.inHand = []

/-- Something has been done with a machine.  Only its own cells have been
written into, and what it has given out is not among those that it may write
into later.  There is as much room as before. -/
structure Acts (payload : List Cell) (before : Memory) (seat : Seat) (after : Memory)
    (left : Seat) : Prop where
  sound : left.Sound after
  holds : ∀ {cell}, before.Holds cell -> after.Holds cell
  contents : ∀ {cell}, before.Holds cell -> cell ∉ seat.written ->
    after.contents cell = before.contents cell
  cells : ∀ cell ∈ left.cells, cell ∈ seat.cells ∨ cell ∈ payload ∨ ¬ before.Holds cell
  written : ∀ cell ∈ left.written, cell ∈ seat.written ∨ ¬ before.Holds cell
  said : ∀ entry ∈ left.said, entry ∈ seat.said ∨
    entry.2 = entry.1.snapshot after ∧ (entry.1.wanted = none ->
      ∀ cell ∈ entry.1.cells Value.cells, after.Holds cell ∧ cell ∉ left.written ∧
        (cell ∈ seat.cells ∨ ¬ before.Holds cell))
  room : after.room = before.room

variable {payload : List Cell} {before after : Memory} {seat left : Seat}

theorem Sound.acts (sound : seat.Sound before) : Acts payload before seat before seat where
  sound := sound
  holds := id
  contents := fun _ _ => rfl
  cells := fun _ member => .inl member
  written := fun _ member => .inl member
  said := fun _ member => .inl member
  room := rfl

/-- The machine has been replaced by another with the same cells. -/
theorem Sound.acts_of_same (sound : seat.Sound before) (inHand : left.inHand = seat.inHand)
    (direction : left.direction = seat.direction) (exchange : left.exchange = seat.exchange)
    (said : left.said = seat.said) : Acts payload before seat before left := by
  have cells : left.cells = seat.cells := by rw [Seat.cells, Seat.cells, inHand, exchange]
  have written : left.written = seat.written := by
    rw [Seat.written, Seat.written, direction, cells]
  refine ⟨⟨cells ▸ sound.held, ?_⟩, id, fun _ _ => rfl, ?_, ?_, ?_, rfl⟩
  · rw [exchange, direction, inHand]
    exact sound.goes
  · exact fun cell member => .inl (cells ▸ member)
  · exact fun cell member => .inl (written ▸ member)
  · exact fun entry member => .inl (said ▸ member)

/-- Work within the cells in use. -/
theorem acts_of_moves {uses cells : List Cell} (moves : before.Moves seat.direction uses after cells)
    (direction : left.direction = seat.direction) (among : ∀ cell ∈ uses, cell ∈ seat.cells)
    (kept : ∀ cell ∈ left.cells, cell ∈ cells)
    (goes : ∀ exchange, left.exchange = some exchange ->
      exchange.direction = seat.direction ∧ left.inHand = [])
    (said : ∀ entry ∈ left.said, entry ∈ seat.said ∨
      entry.2 = entry.1.snapshot after ∧ (entry.1.wanted = none ->
        ∀ cell ∈ entry.1.cells Value.cells, cell ∈ cells ∧ cell ∉ left.cells)) :
    Acts payload before seat after left where
  sound := ⟨fun cell member => moves.held cell (kept cell member), direction ▸ goes⟩
  holds := moves.holds
  contents := by
    intro cell held apart
    refine moves.contents held fun reads member => apart ?_
    rw [written, reads]
    exact among cell member
  cells := by
    intro cell member
    rcases moves.origin cell (kept cell member) with known | new
    · exact .inl (among cell known)
    · exact .inr (.inr new)
  written := by
    intro cell member
    rcases moves.origin cell (kept cell (mem_cells_of_mem_written member)) with known | new
    · unfold written at member ⊢
      rw [direction] at member
      split
      · exact .inl (among cell known)
      · rename_i writes
        rw [writes] at member
        cases member
    · exact .inr new
  said := by
    intro entry member
    rcases said entry member with before | ⟨look, given⟩
    · exact .inl before
    · refine .inr ⟨look, fun result cell used => ?_⟩
      rcases given result cell used with ⟨out, let_go⟩
      refine ⟨moves.held cell out, fun into => let_go (mem_cells_of_mem_written into), ?_⟩
      exact (moves.origin cell out).imp_left (among cell)
  room := moves.room

/-- Resuming the machine, with nothing or with what is in hand. -/
theorem acts_resume {State : Type} {context : Context State} {machine : Machine}
    {answer : Option Exchange} (sound : seat.Sound context.memory)
    (there : seat.machine = some machine) (given : answer = none ∨ answer = seat.exchange) :
    Acts payload context.memory seat (seat.resume machine answer context).2.memory
      (seat.resume machine answer context).1 := by
  have inHand : seat.inHand = machine.cells := by rw [Seat.inHand, there]
  have direction : seat.direction = machine.direction := by rw [Seat.direction, there]
  have among : ∀ cell ∈ machine.cells ++ answerCells answer, cell ∈ seat.cells := by
    intro cell member
    rw [Seat.cells, inHand]
    rcases given with rfl | rfl
    · rw [answerCells, List.append_nil] at member
      exact List.mem_append_left _ member
    · exact member
  have fits : ∀ exchange, answer = some exchange ->
      exchange.direction = machine.direction ∧ machine.cells = [] := by
    intro exchange same
    rw [← inHand, ← direction]
    rcases given with none_given | as_held
    · rw [none_given] at same
      cases same
    · exact sound.goes exchange (as_held.symm.trans same)
  have confined : (Resumable.resume machine answer context.memory).Confined Machine.cells
      Value.cells machine.direction context.memory (machine.cells ++ answerCells answer) :=
    Confining.confined machine answer context.memory
      (fun cell member => sound.held cell (among cell member)) fits
  have turned : (Resumable.resume machine answer context.memory).machine.direction =
      machine.direction := Confining.direction_resume machine answer context.memory
  rw [← direction] at confined turned
  unfold resume
  generalize Resumable.resume machine answer context.memory = step at confined turned ⊢
  rcases step with ⟨progress, machine', memory, events⟩
  have asked : ∀ exchange, progress.wanted = some exchange -> progress = .needs exchange := by
    intro exchange wanted
    cases progress with
    | needs other => exact congrArg Progress.needs (Option.some.inj wanted)
    | finished value => cases wanted
    | endOfStream => cases wanted
    | failed error => cases wanted
    | raised fault => cases wanted
  refine acts_of_moves confined.moves turned among ?_ ?_ ?_
  · intro cell member
    rcases List.mem_append.mp member with inHand | under_way
    · exact List.mem_append_left _ inHand
    · cases wanted : progress.wanted with
      | none =>
        simp only [wanted] at under_way
        cases under_way
      | some exchange =>
        simp only [wanted] at under_way
        refine List.mem_append_right _ ?_
        rw [asked exchange wanted]
        exact under_way
  · intro exchange wanted
    exact confined.goes exchange (asked exchange wanted)
  · intro entry member
    rcases List.mem_cons.mp member with rfl | before
    · refine .inr ⟨rfl, fun result cell used => ⟨List.mem_append_right _ used, ?_⟩⟩
      rcases confined.apart with none_kept | none_out
      · intro member
        simp only [Seat.cells, Seat.inHand, result, answerCells, List.append_nil] at member
        exact List.not_mem_nil (none_kept ▸ member)
      · exact absurd used (none_out ▸ List.not_mem_nil)
    · exact .inl before

end Seat

theorem Machine.cells_seeded (machine : Machine) (bytes : Bytes) :
    (machine.seeded bytes).cells = machine.cells ∧
      (machine.seeded bytes).direction = machine.direction := by
  unfold seeded
  cases collects : machine.extend with
  | none => exact ⟨rfl, rfl⟩
  | some extended => exact cells_extend collects bytes

namespace Part

variable {State : Type} {part : Part State} {seat : Seat} {context : Context State}

theorem acts_build (payload : ∀ cell ∈ part.recipe.cells, context.memory.Holds cell) :
    seat.Acts part.recipe.cells context.memory (part.act .build seat context).2.memory
      (part.act .build seat context).1 := by
  have moves := Recipe.moves_build payload
  have direction := @Recipe.direction_build part.recipe context.memory
  unfold act
  generalize part.recipe.build context.memory = built at moves direction ⊢
  rcases built with ⟨result, memory, events⟩
  have contents {cell : Cell} (held : context.memory.Holds cell) (_ : cell ∉ seat.written) :
      memory.contents cell = context.memory.contents cell := moves.contents held nofun
  cases result with
  | error fault =>
    exact ⟨⟨nofun, nofun⟩, moves.holds, contents, nofun, nofun, fun _ member => .inl member,
      moves.room⟩
  | ok machine =>
    have cells {cell : Cell} (member : cell ∈ machine.cells ++ []) : cell ∈ machine.cells :=
      (List.append_nil machine.cells).subst member
    refine ⟨⟨fun cell member => moves.held cell (cells member), nofun⟩, moves.holds, contents, ?_, ?_,
      fun _ member => .inl member, moves.room⟩
    · exact fun cell member => .inr (moves.origin cell (cells member))
    · intro cell member
      rcases moves.origin cell (cells (Seat.mem_cells_of_mem_written member)) with known | new
      · -- A payload is there only for machines that write, which write into no cell.
        have writes : machine.direction = .write := by
          rw [direction rfl]
          unfold Recipe.cells at known
          cases way : part.recipe.direction with
          | read => rw [way] at known; cases known
          | write => rfl
        simp only [Seat.written, Seat.direction, writes] at member
        cases member
      · exact .inr new

theorem acts_perform (sound : seat.Sound context.memory) :
    seat.Acts part.recipe.cells context.memory (part.act .perform seat context).2.memory
      (part.act .perform seat context).1 := by
  unfold act
  cases there : seat.exchange with
  | none => exact sound.acts
  | some exchange =>
    rcases sound.goes exchange there with ⟨goes, lent⟩
    have cells : seat.cells = exchange.cells := by
      rw [Seat.cells, lent, there]
      rfl
    rcases moves_handle part.concurrency part.stream fun cell member =>
      sound.held cell (cells ▸ member) with ⟨moves, answered⟩
    rw [goes] at moves
    cases performed : handle part.concurrency part.stream exchange context with
    | mk result reached =>
      simp only [performed] at moves answered ⊢
      cases result with
      | error fault =>
        refine Seat.acts_of_moves moves rfl (fun cell member => cells ▸ member) ?_ ?_
          fun _ member => .inl member
        · intro cell member
          change cell ∈ seat.inHand ++ exchange.cells at member
          rw [lent] at member
          exact member
        · rintro _ ⟨⟩
          exact ⟨goes, lent⟩
      | ok answer =>
        rcases answered answer rfl with ⟨same, direction⟩
        refine Seat.acts_of_moves moves rfl (fun cell member => cells ▸ member) ?_ ?_
          fun _ member => .inl member
        · intro cell member
          change cell ∈ seat.inHand ++ answer.cells at member
          rw [lent, same] at member
          exact member
        · rintro _ ⟨⟩
          exact ⟨direction.trans goes, lent⟩

/-- What the machine has said is not forgotten. -/
theorem mem_said_act {entry : Progress Value × Progress Value} (member : entry ∈ seat.said)
    (deed : Deed) : entry ∈ (part.act deed seat context).1.said := by
  cases deed with
  | build =>
    unfold act
    generalize part.recipe.build context.memory = built
    rcases built with ⟨result, memory, events⟩
    cases result <;> exact member
  | extend seed => exact member
  | ask =>
    unfold act
    cases seat.machine with
    | none => exact member
    | some machine => exact List.mem_cons_of_mem _ member
  | answer =>
    unfold act
    cases seat.machine with
    | none => exact member
    | some machine =>
      cases seat.exchange with
      | none => exact member
      | some exchange => exact List.mem_cons_of_mem _ member
  | perform =>
    unfold act
    cases seat.exchange with
    | none => exact member
    | some exchange =>
      simp only
      generalize handle part.concurrency part.stream exchange context = performed
      rcases performed with ⟨result, reached⟩
      cases result <;> exact member

/-- Whatever is done with a machine, only its own cells are written into. -/
theorem acts (deed : Deed) (sound : seat.Sound context.memory)
    (payload : ∀ cell ∈ part.recipe.cells, context.memory.Holds cell) :
    seat.Acts part.recipe.cells context.memory (part.act deed seat context).2.memory
      (part.act deed seat context).1 := by
  cases deed with
  | build => exact acts_build payload
  | perform => exact acts_perform sound
  | extend seed =>
    refine sound.acts_of_same ?_ ?_ rfl rfl
    · cases there : seat.machine with
      | none => simp only [act, Seat.inHand, there, Option.map_none]
      | some machine =>
        simp only [act, Seat.inHand, there, Option.map_some, (machine.cells_seeded _).1]
    · cases there : seat.machine with
      | none => simp only [act, Seat.direction, there, Option.map_none]
      | some machine =>
        simp only [act, Seat.direction, there, Option.map_some, (machine.cells_seeded _).2]
  | ask =>
    unfold act
    cases there : seat.machine with
    | none => exact sound.acts
    | some machine => exact Seat.acts_resume sound there (.inl rfl)
  | answer =>
    unfold act
    cases there : seat.machine with
    | none => exact sound.acts
    | some machine =>
      cases given : seat.exchange with
      | none => exact sound.acts
      | some exchange => exact Seat.acts_resume sound there (.inr given.symm)

end Part

/-! ## The same deed in another memory -/

theorem Machine.Matches.seeded {first second : Memory} {machine other : Machine}
    (same : machine.Matches first second other) (bytes : Bytes) :
    (machine.seeded bytes).Matches first second (other.seeded bytes) := by
  have seeds := same.extend bytes
  unfold Machine.seeded
  generalize machine.extend = extended at seeds ⊢
  generalize other.extend = extended' at seeds ⊢
  cases seeds with
  | none => exact same
  | some same => exact same

/-- Two holders have machines and exchanges that are equal but for names, and
have been told what looks the same. -/
structure Seat.Matches (first second : Memory) (seat other : Seat) : Prop where
  machine : Option.Rel (Machine.Matches first second) seat.machine other.machine
  exchange : Option.Rel (Exchange.Matches first second) seat.exchange other.exchange
  said : seat.said.map Prod.snd = other.said.map Prod.snd
  faults : seat.faults = other.faults

namespace Seat

variable {first second after : Memory} {seat other : Seat}

theorem Matches.retained (same : seat.Matches first second other)
    (retains : first.Retains after seat.cells) : seat.Matches after second other := by
  rcases seat with ⟨machine, exchange, said, faults⟩
  rcases other with ⟨_, _, _, _⟩
  rcases same with ⟨machines, exchanges, said, faults⟩
  have ofMachine : first.Retains after (inHand ⟨machine, exchange, [], []⟩) :=
    fun cell member => retains cell (List.mem_append_left _ member)
  have ofExchange : first.Retains after (answerCells exchange) :=
    fun cell member => retains cell (List.mem_append_right _ member)
  refine ⟨?_, ?_, said, faults⟩
  · cases machines with
    | none => exact .none
    | some same => exact .some (same.retained ofMachine)
  · cases exchanges with
    | none => exact .none
    | some same => exact .some (same.retained ofExchange)

theorem Matches.resume {State : Type} {context context' : Context State}
    (same : seat.Matches context.memory context'.memory other)
    (states : context.state = context'.state) {machine machine' : Machine}
    (machines : machine.Matches context.memory context'.memory machine')
    {answer given : Option Exchange}
    (answers : Option.Rel (Exchange.Matches context.memory context'.memory) answer given)
    (fits : ∀ exchange, answer = some exchange ->
      exchange.direction = machine.direction ∧ machine.cells = []) :
    (seat.resume machine answer context).1.Matches (seat.resume machine answer context).2.memory
        (other.resume machine' given context').2.memory (other.resume machine' given context').1 ∧
      (seat.resume machine answer context).2.state =
        (other.resume machine' given context').2.state := by
  have steps : (Resumable.resume machine answer context.memory).Matches
      (fun first second => Machine.Matches first second)
      (fun first second => Value.Matches first second)
      (Resumable.resume machine' given context'.memory) := machines.resume answers fits
  unfold Seat.resume
  generalize Resumable.resume machine answer context.memory = step at steps ⊢
  generalize Resumable.resume machine' given context'.memory = step' at steps ⊢
  refine ⟨⟨.some steps.machine, ?_, ?_, same.faults⟩, states⟩
  · rcases step with ⟨progress, _, memory, _⟩
    rcases step' with ⟨progress', _, memory', _⟩
    cases steps.progress with
    | needs exchanges => exact .some exchanges
    | finished values => exact .none
    | endOfStream => exact .none
    | failed error => exact .none
    | raised fault => exact .none
  · exact List.cons_eq_cons.mpr ⟨steps.progress.snapshot_eq, same.said⟩

end Seat

namespace Part

variable {State : Type} {part : Part State} {seat other : Seat} {context context' : Context State}

theorem matches_build (same : seat.Matches context.memory context'.memory other)
    (payload : part.recipe.payload.Matches context.memory context'.memory part.recipe.payload)
    (room : context.memory.room = context'.memory.room) :
    (part.act .build seat context).1.Matches (part.act .build seat context).2.memory
      (part.act .build other context').2.memory (part.act .build other context').1 := by
  have builds := Recipe.matches_build payload room
  unfold act
  generalize part.recipe.build context.memory = built at builds ⊢
  generalize part.recipe.build context'.memory = built' at builds ⊢
  cases builds with
  | ok machines => exact ⟨.some machines, .none, same.said, same.faults⟩
  | error fault => exact ⟨.none, .none, same.said, congrArg (fault :: ·) same.faults⟩

/-- Building a machine does nothing to the stream. -/
theorem state_build (seat : Seat) (context : Context State) :
    (part.act .build seat context).2.state = context.state := by
  unfold act
  generalize part.recipe.build context.memory = built
  rcases built with ⟨result, memory, events⟩
  cases result <;> rfl

theorem matches_perform (same : seat.Matches context.memory context'.memory other)
    (sound : seat.Sound context.memory) (states : context.state = context'.state) :
    (part.act .perform seat context).1.Matches (part.act .perform seat context).2.memory
        (part.act .perform other context').2.memory (part.act .perform other context').1 ∧
      (part.act .perform seat context).2.state = (part.act .perform other context').2.state := by
  rcases seat with ⟨machine, exchange, said, faults⟩
  rcases other with ⟨machine', exchange', said', faults'⟩
  rcases same with ⟨machines, exchanges, saids, sameFaults⟩
  unfold act
  cases exchanges with
  | none => exact ⟨⟨machines, .none, saids, sameFaults⟩, states⟩
  | @some exchange exchange' exchanges =>
    have performs := matches_handle part.concurrency part.stream exchanges states
    -- The machine has nothing in hand, so it is the same whatever the memory has become.
    have inHand : Seat.inHand ⟨machine, some exchange, said, faults⟩ = [] :=
      (sound.goes exchange rfl).2
    have machines' (first second : Memory) :
        Option.Rel (Machine.Matches first second) machine machine' := by
      cases machines with
      | none => exact .none
      | some same => exact .some (same.anywhere inHand first second)
    simp only
    generalize handle part.concurrency part.stream exchange context = performed at performs ⊢
    generalize handle part.concurrency part.stream exchange' context' = performed' at performs ⊢
    rcases performed with ⟨result, after⟩
    rcases performed' with ⟨result', after'⟩
    rcases performs with ⟨answers, exchanges, statesAfter⟩
    cases answers with
    | ok answers => exact ⟨⟨machines' _ _, .some answers, saids, sameFaults⟩, statesAfter⟩
    | error fault =>
      exact ⟨⟨machines' _ _, .some exchanges, saids, congrArg (fault :: ·) sameFaults⟩, statesAfter⟩

theorem matches_extend (same : seat.Matches context.memory context'.memory other) {seed : Buffer}
    (seeds : seed.Matches context.memory context'.memory seed) :
    (part.act (.extend seed) seat context).1.Matches context.memory context'.memory
      (part.act (.extend seed) other context').1 := by
  refine ⟨?_, same.exchange, same.said, same.faults⟩
  have machines := same.machine
  simp only [act, seeds.bytes_eq]
  generalize seat.machine = machine at machines ⊢
  generalize other.machine = machine' at machines ⊢
  cases machines with
  | none => exact .none
  | some same => exact .some (same.seeded _)

/-- Whatever is done with machines that are equal but for names leaves them
equal but for names. -/
theorem matches_act {deed : Deed} (same : seat.Matches context.memory context'.memory other)
    (sound : seat.Sound context.memory) (states : context.state = context'.state)
    (payload : part.recipe.payload.Matches context.memory context'.memory part.recipe.payload)
    (room : context.memory.room = context'.memory.room)
    (seeds : ∀ seed, deed = .extend seed -> seed.Matches context.memory context'.memory seed) :
    (part.act deed seat context).1.Matches (part.act deed seat context).2.memory
        (part.act deed other context').2.memory (part.act deed other context').1 ∧
      (part.act deed seat context).2.state = (part.act deed other context').2.state := by
  have resumes {machine machine' : Machine} (there : seat.machine = some machine)
      (machines : machine.Matches context.memory context'.memory machine')
      {answer given : Option Exchange} (known : answer = none ∨ answer = seat.exchange)
      (answers : Option.Rel (Exchange.Matches context.memory context'.memory) answer given) :=
    same.resume states machines answers fun exchange held => by
      rcases known with none_given | as_held
      · rw [none_given] at held
        cases held
      · have goes := sound.goes exchange (as_held.symm.trans held)
        rw [Seat.direction, Seat.inHand, there] at goes
        exact goes
  cases deed with
  | build =>
    exact ⟨matches_build same payload room, (state_build seat context).trans
      (states.trans (state_build other context').symm)⟩
  | perform => exact matches_perform same sound states
  | extend seed => exact ⟨matches_extend same (seeds seed rfl), states⟩
  | ask =>
    rcases seat with ⟨machine, exchange, said, faults⟩
    rcases other with ⟨machine', exchange', said', faults'⟩
    rcases id same with ⟨machines, -, -, -⟩
    cases machines with
    | none => exact ⟨same, states⟩
    | some machines => exact resumes rfl machines (.inl rfl) .none
  | answer =>
    rcases seat with ⟨machine, exchange, said, faults⟩
    rcases other with ⟨machine', exchange', said', faults'⟩
    rcases id same with ⟨machines, exchanges, -, -⟩
    cases machines with
    | none => exact ⟨same, states⟩
    | some machines =>
      cases exchanges with
      | none => exact ⟨same, states⟩
      | some exchanges => exact resumes rfl machines (.inr rfl) (.some exchanges)

end Part

end ResumableStreams
