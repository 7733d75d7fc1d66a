import ResumableStreams.Proofs.Persistence
import ResumableStreams.Proofs.Excess

namespace ResumableStreams

/-!
# One buffer for a whole run

A machine that reads again and again needs no more than one buffer.  It lends
the buffer out, gets it back in the response, and lends it out again; so it
goes through any number of drives, until the stream fails while the buffer is
lent out.

At every moment either the machine has the buffer in hand, or the driver has
it.  `Tenure` says what is known of the machine in the two cases.  What has to
be shown of a machine is that each of its calls leads from one case to the
other; that every later moment is one of the two follows by induction.

What a machine hands over as its result is never the buffer, so it does not
change with it.
-/

/-! ## From moment to moment -/

/-- No drive is under way. -/
def Phase.isIdle {Value : Type} : Phase Value -> Bool
  | .resting _ => true
  | .asking _ | .answered _ => false

/-- The exchange that is to be performed. -/
def Phase.asked {Value : Type} : Phase Value -> Option Exchange
  | .asking exchange => some exchange
  | .resting _ | .answered _ => none

theorem Phase.asked_eq_some {Value : Type} {phase : Phase Value} {exchange : Exchange} :
    phase.asked = some exchange ↔ phase = .asking exchange := by
  cases phase with
  | asking other => simp only [asked, Option.some.injEq, asking.injEq]
  | resting ending => simp only [asked, reduceCtorEq]
  | answered answer => simp only [asked, reduceCtorEq]

namespace Moment

variable {Machine Value State : Type}

/-- The number of bytes in a buffer at this moment. -/
def size (moment : Moment Machine Value State) (cell : Cell) : Nat :=
  (moment.context.memory.contents cell).length

variable [Resumable Machine Value]
  (perform : Exchange -> Context State -> Except Fault Exchange × Context State)

/-- The exchange that is to be performed will fail. -/
def fails (moment : Moment Machine Value State) : Bool :=
  moment.phase.asked.any fun exchange => !(perform exchange moment.context).1.isOk

/-- At no earlier moment has this been the case. -/
def Before (stops : Moment Machine Value State -> Bool) (start : Moment Machine Value State)
    (steps : Nat) : Prop :=
  ∀ earlier < steps, stops (start.later perform earlier) = false

/-- No exchange has failed before. -/
abbrev Undisturbed (start : Moment Machine Value State) (steps : Nat) : Prop :=
  start.Before perform (fails perform) steps

/-- The same drive has gone on all the time. -/
abbrev Driving (start : Moment Machine Value State) (steps : Nat) : Prop :=
  start.Before perform (fun moment => moment.phase.isIdle) steps

instance (stops : Moment Machine Value State -> Bool) (start : Moment Machine Value State)
    (steps : Nat) : Decidable (start.Before perform stops steps) :=
  inferInstanceAs (Decidable (∀ earlier < steps, _))

variable {perform}

theorem later_add (moment : Moment Machine Value State) (steps further : Nat) :
    moment.later perform (steps + further) = (moment.later perform steps).later perform further := by
  induction steps generalizing moment with
  | zero => rw [Nat.zero_add, later]
  | succ steps inductionHypothesis =>
    rw [Nat.succ_add]
    exact inductionHypothesis (moment.next perform)

theorem Before.later {stops : Moment Machine Value State -> Bool}
    {start : Moment Machine Value State} {steps further : Nat}
    (before : start.Before perform stops (steps + further)) :
    (start.later perform steps).Before perform stops further := by
  intro earlier precedes
  rw [← later_add]
  exact before _ (Nat.add_lt_add_left precedes steps)

theorem Before.of_le {stops : Moment Machine Value State -> Bool}
    {start : Moment Machine Value State} {steps fewer : Nat}
    (before : start.Before perform stops steps) (order : fewer ≤ steps) :
    start.Before perform stops fewer :=
  fun earlier precedes => before earlier (Nat.lt_of_lt_of_le precedes order)

theorem Before.or {stops stops' : Moment Machine Value State -> Bool}
    {start : Moment Machine Value State} {steps : Nat} (before : start.Before perform stops steps)
    (before' : start.Before perform stops' steps) :
    start.Before perform (fun moment => stops moment || stops' moment) steps :=
  fun earlier precedes =>
    Bool.or_eq_false_iff.mpr ⟨before earlier precedes, before' earlier precedes⟩

/-- What every step keeps before a certain moment holds until then. -/
theorem Before.later_of_next {stops : Moment Machine Value State -> Bool}
    {Holds : Moment Machine Value State -> Prop}
    (kept : ∀ moment, Holds moment -> stops moment = false -> Holds (moment.next perform))
    {moment : Moment Machine Value State} (now : Holds moment) {steps : Nat}
    (before : moment.Before perform stops steps) : Holds (moment.later perform steps) := by
  induction steps generalizing moment with
  | zero => exact now
  | succ steps inductionHypothesis =>
    apply inductionHypothesis (kept moment now (before 0 (Nat.succ_pos steps)))
    intro earlier precedes
    exact before (earlier + 1) (Nat.succ_lt_succ precedes)

end Moment

/-! ## Who has the buffer -/

/-- A driver that gives every buffer back: whatever comes of a read request, an
answer is the request itself, or a response with the same buffer, which is as
long as before. -/
structure GivesBack {State : Type}
    (perform : Exchange -> Context State -> Except Fault Exchange × Context State) : Prop where
  held : ∀ {cell context answer after}, context.memory.Holds cell ->
    perform ⟨.read, .request (.shared cell)⟩ context = (.ok answer, after) ->
    after.memory.Holds cell ∧
      (after.memory.contents cell).length = (context.memory.contents cell).length
  answer : ∀ {cell context answer after}, context.memory.Holds cell ->
    perform ⟨.read, .request (.shared cell)⟩ context = (.ok answer, after) ->
    answer = ⟨.read, .request (.shared cell)⟩ ∨
      ∃ count ≤ (context.memory.contents cell).length,
        answer = ⟨.read, .response ⟨.shared cell, count⟩⟩

/-- A runtime gives every buffer back, if no read of the stream changes the
length of one. -/
theorem Stream.KeepsLengths.givesBack {State : Type} {stream : Stream State}
    {concurrency : Concurrency} (keeps : stream.KeepsLengths concurrency) :
    GivesBack (handle concurrency stream) where
  held := by
    intro cell context answer after held performed
    have kept := keeps (context.memory.contents cell) context.state
    simp only [handle, Context.readInto, Context.note, Prod.mk.injEq] at performed
    rcases performed with ⟨_, rfl⟩
    refine ⟨(Memory.holds_store_iff _ _ _ _).mpr held, ?_⟩
    rw [Memory.contents_store_self held]
    exact kept
  answer := by
    intro cell context answer after held performed
    have kept := keeps (context.memory.contents cell) context.state
    simp only [handle, Context.readInto, Context.note, Prod.mk.injEq] at performed
    rcases performed with ⟨answered, rfl⟩
    have gives := Exchange.gives_answer .read (.shared cell)
      (stream.fill concurrency ⟨context.memory.contents cell, true⟩ context.state).1.reply
      (context.memory.store cell
        (stream.fill concurrency ⟨context.memory.contents cell, true⟩ context.state).1.contents)
    rw [answered] at gives
    generalize (stream.fill concurrency ⟨context.memory.contents cell, true⟩
      context.state).1.reply = reply at gives
    cases gives with
    | blocked => exact .inl rfl
    | moved count fits =>
      refine .inr ⟨count, ?_, rfl⟩
      rw [Buffer.size, Buffer.bytes_shared, Memory.contents_store_self held] at fits
      exact Nat.le_trans fits (Nat.le_of_eq kept)

/-- What is known of a machine that has the buffer in hand, and of one that has
lent it out. -/
structure Tenure (Machine : Type) where
  Rests : Machine -> Memory -> Prop
  Waits : Machine -> Memory -> Prop

namespace Tenure

variable {Machine State : Type} {tenure : Tenure Machine} {cell : Cell}
  {perform : Exchange -> Context State -> Except Fault Exchange × Context State}

/-- A call of the machine lends the buffer out, or leaves it in hand. -/
def After (tenure : Tenure Machine) (cell : Cell) (step : Step Machine Bytes) : Prop :=
  match step.progress with
  | .needs exchange =>
    exchange = ⟨.read, .request (.shared cell)⟩ ∧ tenure.Waits step.machine step.memory
  | .finished _ | .endOfStream | .failed _ | .raised _ => tenure.Rests step.machine step.memory

theorem after_reporting {error : StreamError} {machine : Machine} {memory : Memory}
    {events : List Event} (rests : tenure.Rests machine memory) :
    tenure.After cell ⟨.reporting error, machine, memory, events⟩ := by
  rw [Progress.reporting_eq_ite]
  split <;> exact rests

/-- The machine or the driver has the buffer at this moment. -/
def At (tenure : Tenure Machine) (cell : Cell) (moment : Moment Machine Bytes State) : Prop :=
  match moment.phase with
  | .resting _ => tenure.Rests moment.machine moment.context.memory
  | .asking exchange =>
    exchange = ⟨.read, .request (.shared cell)⟩ ∧
      tenure.Waits moment.machine moment.context.memory
  | .answered answer =>
    tenure.Waits moment.machine moment.context.memory ∧
      (answer = ⟨.read, .request (.shared cell)⟩ ∨
        ∃ count ≤ (moment.context.memory.contents cell).length,
          answer = ⟨.read, .response ⟨.shared cell, count⟩⟩)

/-- While a request is under way, it is for the buffer, which is lent out. -/
theorem At.of_asking {moment : Moment Machine Bytes State} (now : tenure.At cell moment)
    {exchange : Exchange} (asking : moment.phase.asked = some exchange) :
    exchange = ⟨.read, .request (.shared cell)⟩ ∧
      tenure.Waits moment.machine moment.context.memory := by
  unfold At at now
  rw [Phase.asked_eq_some.mp asking] at now
  exact now

theorem at_of_asking {moment : Moment Machine Bytes State}
    (asking : moment.phase.asked = some ⟨.read, .request (.shared cell)⟩)
    (waits : tenure.Waits moment.machine moment.context.memory) : tenure.At cell moment := by
  unfold At
  rw [Phase.asked_eq_some.mp asking]
  exact ⟨rfl, waits⟩

/-- While a drive is under way, every answer leads from one case to the other. -/
structure Kept [Resumable Machine Bytes] (tenure : Tenure Machine) (cell : Cell) : Prop where
  held : ∀ {machine memory}, tenure.Waits machine memory -> memory.Holds cell
  /-- Nothing about a machine that waits hangs on what its buffer holds. -/
  filled : ∀ {machine before after}, tenure.Waits machine before -> after.Holds cell ->
    (after.contents cell).length = (before.contents cell).length -> tenure.Waits machine after
  repeats : ∀ {machine memory}, tenure.Waits machine memory ->
    Repeats machine ⟨.read, .request (.shared cell)⟩
  takes : ∀ {machine memory count}, tenure.Waits machine memory ->
    count ≤ (memory.contents cell).length ->
    tenure.After cell
      (Resumable.resume machine (some ⟨.read, .response ⟨.shared cell, count⟩⟩) memory)

variable [Resumable Machine Bytes]

theorem at_resume {moment : Moment Machine Bytes State} {answer : Option Exchange}
    (after : tenure.After cell
      (Resumable.resume moment.machine answer moment.context.memory)) :
    tenure.At cell (moment.resume answer) := by
  unfold Moment.resume
  cases stepped : Resumable.resume moment.machine answer moment.context.memory with
  | mk progress machine memory events =>
    rw [stepped] at after
    cases progress with
    | _ => exact after

/-- One step of a drive that is under way. -/
theorem Kept.next (kept : tenure.Kept cell) (givesBack : GivesBack perform)
    {moment : Moment Machine Bytes State} (now : tenure.At cell moment)
    (busy : moment.phase.isIdle = false) (smooth : moment.fails perform = false) :
    tenure.At cell (moment.next perform) := by
  rcases moment with ⟨phase, machine, context⟩
  cases phase with
  | resting ending => cases busy
  | asking exchange =>
    rcases now with ⟨rfl, waits⟩
    have waits : tenure.Waits machine context.memory := waits
    simp only [Moment.next]
    cases performed : perform ⟨.read, .request (.shared cell)⟩ context with
    | mk result after =>
      cases result with
      | error fault =>
        simp only [Moment.fails, Phase.asked, Option.any_some, performed] at smooth
        cases smooth
      | ok answer =>
        rcases givesBack.held (kept.held waits) performed with ⟨held, length⟩
        refine ⟨kept.filled waits held length, ?_⟩
        rcases givesBack.answer (kept.held waits) performed with same | ⟨count, fits, same⟩
        · exact .inl same
        · exact .inr ⟨count, length ▸ fits, same⟩
  | answered answer =>
    rcases now with ⟨waits, same⟩
    have waits : tenure.Waits machine context.memory := waits
    apply at_resume
    rcases same with rfl | ⟨count, fits, rfl⟩
    · rcases kept.repeats waits context.memory with ⟨events, resumed⟩
      rw [resumed]
      exact ⟨rfl, waits⟩
    · exact kept.takes waits fits

/-- As long as one drive goes on. -/
theorem Kept.later_of_driving (kept : tenure.Kept cell) (givesBack : GivesBack perform)
    {moment : Moment Machine Bytes State} (now : tenure.At cell moment) {steps : Nat}
    (driving : moment.Driving perform steps) (undisturbed : moment.Undisturbed perform steps) :
    tenure.At cell (moment.later perform steps) := by
  refine (driving.or undisturbed).later_of_next ?_ now
  intro moment before goesOn
  rcases Bool.or_eq_false_iff.mp goesOn with ⟨busy, smooth⟩
  exact kept.next givesBack before busy smooth

/-- Through any number of drives. -/
theorem Kept.later (kept : tenure.Kept cell) (givesBack : GivesBack perform)
    (begins : ∀ {machine memory}, tenure.Rests machine memory ->
      tenure.After cell (Resumable.resume machine none memory))
    {moment : Moment Machine Bytes State} (now : tenure.At cell moment) {steps : Nat}
    (undisturbed : moment.Undisturbed perform steps) :
    tenure.At cell (moment.later perform steps) := by
  refine undisturbed.later_of_next ?_ now
  intro moment before smooth
  cases phase : moment.phase with
  | resting ending =>
    have rests : tenure.Rests moment.machine moment.context.memory := by
      unfold At at before
      rw [phase] at before
      exact before
    unfold Moment.next
    rw [phase]
    exact at_resume (begins rests)
  | asking exchange => exact kept.next givesBack before (phase ▸ rfl) smooth
  | answered answer => exact kept.next givesBack before (phase ▸ rfl) smooth

end Tenure

/-! ## The two machines -/

namespace Read

/-- A new machine has a buffer in hand. -/
theorem exists_slot_make {capacity : Int} {memory : Memory} {read : Read}
    (built : (make capacity memory).result = .ok read) : ∃ cell, read.slot = some cell := by
  have created := (create_of_make built).2
  exact ⟨_, (congrArg (fun created => created.1.slot) created).symm⟩

/-- What is lent out is the buffer in hand. -/
theorem request_of_slot {read : Read} {cell : Cell} (inHand : read.slot = some cell)
    (memory : Memory) :
    read.request memory = (⟨.read, .request (.shared cell)⟩, { read with slot := none }, memory) := by
  simp only [request, inHand]

end Read

namespace ReadToEnd

theorem exists_slot_make {capacity : Int} {memory : Memory} {machine : ReadToEnd}
    (built : (make capacity memory).result = .ok machine) :
    ∃ cell, machine.read.slot = some cell := by
  rcases of_make built with ⟨-, read, inner, rfl, -⟩
  exact Read.exists_slot_make inner

/-- The buffer has the same length all the time. -/
def tenure (cell : Cell) (length : Nat) : Tenure ReadToEnd where
  Rests machine memory :=
    machine.Ready memory ∧ machine.read.slot = some cell ∧ machine.read.capacity = length
  Waits machine memory := machine.Waits cell memory ∧ (memory.contents cell).length = length

variable {cell : Cell} {length : Nat}

theorem after_begin {machine : ReadToEnd} {memory : Memory}
    (rests : (tenure cell length).Rests machine memory) :
    (tenure cell length).After cell (Resumable.resume machine none memory) := by
  rcases rests with ⟨ready, inHand, capacity⟩
  rcases ready.armed cell inHand with ⟨held, zeros⟩
  have size : (memory.contents cell).length = machine.read.capacity := by
    rw [zeros, Bytes.length_zeros]
  rw [resume_none, request, Read.request_of_slot inHand]
  refine ⟨rfl, ⟨rfl, ready.room, held, ?_⟩, size.trans capacity⟩
  exact List.length_pos_iff.mp (size ▸ ready.room)

theorem tenure_kept (cell : Cell) (length : Nat) : (tenure cell length).Kept cell where
  held := fun waits => waits.1.held
  filled := by
    intro machine before after waits held same
    exact ⟨waits.1.of_length held same, same.trans waits.2⟩
  repeats := fun _ _ => ⟨_, resume_request _ _ _⟩
  takes := by
    intro machine memory count waits fits
    rcases waits with ⟨waits, size⟩
    have rests (collected : Collected) : (tenure cell length).Rests
        ⟨(machine.read.replace (.shared cell) memory).1, collected⟩
        (machine.read.replace (.shared cell) memory).2 :=
      ⟨machine.ready_of_replace collected waits.held waits.room, rfl,
        (Read.capacity_replace machine.read (.shared cell) memory).trans size⟩
    by_cases ended : count = 0
    · subst ended
      rw [resume_end]
      exact rests .empty
    · have moved : (Output.mk (.shared cell) count).count ≠ 0 := ended
      rw [machine.resume_bytes moved]
      exact after_begin (rests _)

end ReadToEnd

namespace ReadExact

theorem exists_slot_make {target capacity : Int} {memory : Memory} {machine : ReadExact}
    (built : (make target capacity memory).result = .ok machine) :
    ∃ cell, machine.read.slot = some cell := by
  rcases of_make built with ⟨-, read, inner, rfl, -⟩
  exact Read.exists_slot_make inner

/-- A machine that has its buffer in hand and misses something lends this very
buffer out, which then has room for no more than what is missing. -/
theorem exists_lent_of_slot {machine : ReadExact} {cell : Cell} {memory : Memory}
    (ready : machine.Ready memory) (inHand : machine.read.slot = some cell)
    (incomplete : ¬ machine.Complete) :
    let waiting := { machine with read := ⟨min machine.remaining machine.read.capacity, none⟩ }
    ∃ after events,
      Resumable.resume machine none memory =
        ⟨.needs ⟨.read, .request (.shared cell)⟩, waiting, after, events⟩ ∧
      waiting.Waits cell after := by
  intro waiting
  have missing : 0 < machine.remaining := Nat.sub_pos_of_lt (Nat.not_le.mp incomplete)
  have wanted : 0 < machine.target := Nat.lt_of_lt_of_le missing (Nat.sub_le _ _)
  rcases exists_lent ready.armed incomplete with ⟨other, after, asked, held, zeros⟩
  have same : other = cell := by
    have progress := congrArg Step.progress asked
    have slot : (machine.trimmed memory).1.slot = some cell := by
      rw [trimmed_eq_truncate, Read.slot_truncate, inHand]
    simp only [resume_none, request, if_neg incomplete, Read.request_of_slot slot] at progress
    cases progress
    rfl
  subst same
  exact ⟨after, _, asked,
    { incomplete := incomplete
      lent := rfl
      held := held
      length := by rw [zeros, Bytes.length_zeros]
      room := Nat.lt_min.mpr ⟨missing, ready.room wanted⟩
      fits := Nat.min_le_left _ _ }⟩

/-- The capacity never grows beyond what it is. -/
def tenure (cell : Cell) (bound : Nat) : Tenure ReadExact where
  Rests machine memory :=
    machine.Ready memory ∧ machine.read.slot = some cell ∧ machine.read.capacity ≤ bound
  Waits machine memory := machine.Waits cell memory ∧ machine.read.capacity ≤ bound

/-- In the first drive, the capacity is what was configured unless less is
missing. -/
def firstTenure (cell : Cell) (capacity : Nat) : Tenure ReadExact where
  Rests _ _ := True
  Waits machine memory :=
    machine.Waits cell memory ∧ machine.read.capacity = min capacity machine.remaining

variable {cell : Cell}

/-- No response makes more bytes missing. -/
theorem remaining_fed_le (machine : ReadExact) (cell : Cell) (count : Nat) (memory : Memory) :
    (machine.fed cell count memory).1.remaining ≤ machine.remaining := by
  rw [remaining_eq_sub, remaining_eq_sub, bytes_fed, List.length_append]
  show machine.target - _ ≤ _
  omega

theorem after_begin {machine : ReadExact} {memory : Memory} {bound : Nat}
    (rests : (tenure cell bound).Rests machine memory) :
    (tenure cell bound).After cell (Resumable.resume machine none memory) := by
  rcases rests with ⟨ready, inHand, bounded⟩
  by_cases complete : machine.Complete
  · rw [resume_of_complete complete]
    exact ⟨⟨ready.armed, ready.room⟩, inHand, bounded⟩
  · rcases exists_lent_of_slot ready inHand complete with ⟨after, events, asked, waits⟩
    rw [asked]
    exact ⟨rfl, waits, Nat.le_trans (Nat.min_le_right _ _) bounded⟩

theorem tenure_kept (cell : Cell) (bound : Nat) : (tenure cell bound).Kept cell where
  held := fun waits => waits.1.held
  filled := fun waits held same => ⟨waits.1.of_length held same, waits.2⟩
  repeats := fun waits => waits.1.fitted.repeats _
  takes := by
    intro machine memory count waits fits
    rcases waits with ⟨waits, bounded⟩
    have ready := waits.ready_fed count
    have bounded' : (machine.fed cell count memory).1.read.capacity ≤ bound :=
      waits.capacity_fed count ▸ bounded
    by_cases ended : count = 0
    · subst ended
      rcases waits.receive_end with ⟨events, received⟩
      rw [received]
      exact Tenure.after_reporting ⟨⟨ready.armed, ready.room⟩, rfl, bounded'⟩
    · rcases waits.receive_bytes (Nat.pos_of_ne_zero ended) with ⟨events, received⟩
      rw [received]
      exact after_begin ⟨ready, rfl, bounded'⟩

/-- A machine whose capacity is what was configured, unless less is missing,
goes on so. -/
theorem first_after_begin {machine : ReadExact} {memory : Memory} {capacity : Nat}
    (ready : machine.Ready memory) (inHand : machine.read.slot = some cell)
    (least : min machine.remaining machine.read.capacity = min capacity machine.remaining) :
    (firstTenure cell capacity).After cell (Resumable.resume machine none memory) := by
  by_cases complete : machine.Complete
  · rw [resume_of_complete complete]
    exact trivial
  · rcases exists_lent_of_slot ready inHand complete with ⟨after, events, asked, waits⟩
    rw [asked]
    exact ⟨rfl, waits, least⟩

theorem firstTenure_kept (cell : Cell) (capacity : Nat) :
    (firstTenure cell capacity).Kept cell where
  held := fun waits => waits.1.held
  filled := fun waits held same => ⟨waits.1.of_length held same, waits.2⟩
  repeats := fun waits => waits.1.fitted.repeats _
  takes := by
    intro machine memory count waits fits
    rcases waits with ⟨waits, configured⟩
    by_cases ended : count = 0
    · subst ended
      rcases waits.receive_end with ⟨events, received⟩
      rw [received]
      exact Tenure.after_reporting trivial
    · rcases waits.receive_bytes (Nat.pos_of_ne_zero ended) with ⟨events, received⟩
      rw [received]
      refine first_after_begin (waits.ready_fed count) rfl ?_
      have fewer := machine.remaining_fed_le cell count memory
      rw [waits.capacity_fed, configured]
      omega

end ReadExact

/-! ## Results -/

/-- The bytes that the ending of a drive shows: all that were read, or those
that came before the end of the stream. -/
def Ending.shown (ending : Ending Bytes) (memory : Memory) : Option Bytes :=
  match ending with
  | .finished value => some value
  | .failed (.unexpectedEnd _ _ partialBytes) => some (partialBytes.bytes memory)
  | _ => none

/-- No buffer is part of what is shown, so nothing that happens to buffers
changes it. -/
def Ending.Copied (ending : Ending Bytes) : Prop :=
  ∀ first second, ending.shown second = ending.shown first

namespace Moment

variable {Machine State : Type} [Resumable Machine Bytes]
  {perform : Exchange -> Context State -> Except Fault Exchange × Context State}

/-- Where every call of the machine shows copies, every drive does. -/
theorem later_copied
    (copied : ∀ (machine : Machine) answer memory ending,
      Phase.ofProgress (Resumable.resume machine answer memory).progress =
        .resting (some ending) -> ending.Copied)
    {start : Moment Machine Bytes State} (before : start.phase = .resting none) (steps : Nat)
    (ending : Ending Bytes) (rests : (start.later perform steps).phase = .resting (some ending)) :
    ending.Copied := by
  let Shows (moment : Moment Machine Bytes State) : Prop :=
    ∀ ending, moment.phase = .resting (some ending) -> ending.Copied
  have kept : ∀ moment, Shows moment -> Shows (moment.next perform) := by
    intro moment _ ending rests
    unfold next at rests
    split at rests
    · exact copied _ _ _ ending rests
    · exact copied _ _ _ ending rests
    · split at rests
      · cases rests
      · cases rests
        exact fun _ _ => rfl
  have now : Shows start := by
    intro ending rests
    cases before.symm.trans rests
  exact later_of_next kept now steps ending rests

end Moment

namespace ReadToEnd

theorem copied_resume (machine : ReadToEnd) (answer : Option Exchange) (memory : Memory)
    (ending : Ending Bytes)
    (rests : Phase.ofProgress (Resumable.resume machine answer memory).progress =
      .resting (some ending)) : ending.Copied := by
  intro first second
  cases answer with
  | none => cases rests
  | some exchange =>
    rcases exchange with ⟨direction, payload⟩
    cases direction with
    | write =>
      cases rests
      rfl
    | read =>
      cases payload with
      | request buffer => cases rests
      | response output =>
        by_cases nothing : output.count = 0
        · rcases output with ⟨buffer, count⟩
          cases nothing
          cases rests
          rfl
        · rw [resume_bytes machine nothing] at rests
          cases rests

variable {State : Type}
  {perform : Exchange -> Context State -> Except Fault Exchange × Context State}

/-- A new machine, seeded or not, reads everything into one buffer, which has
the configured length whenever it is lent out. -/
theorem one_buffer (givesBack : GivesBack perform) {capacity : Int} {memory : Memory}
    {machine : ReadToEnd} (built : (make capacity memory).result = .ok machine)
    (seeds : List Bytes) (journal : Array Event) (state : State) :
    let start : Moment ReadToEnd Bytes State :=
      ⟨.resting none, seeds.foldl extend machine, (make capacity memory).memory, journal, state⟩
    ∃ cell, ∀ steps, start.Undisturbed perform steps -> ∀ exchange,
      (start.later perform steps).phase.asked = some exchange ->
        exchange = ⟨.read, .request (.shared cell)⟩ ∧
          ((start.later perform steps).size cell : Int) = capacity := by
  intro start
  rcases exists_slot_make built with ⟨cell, inHand⟩
  rcases of_make built with ⟨useful, read, inner, same, -⟩
  have seeded : start.machine.read = machine.read :=
    @Collecting.seeded_of_extend ReadToEnd _ (fun seeded => seeded.read = machine.read)
      (fun _ _ same => same) machine rfl seeds
  have configured : machine.read.capacity = capacity.toNat := by
    rw [same]
    exact (Read.armed_make inner).2
  have now : (tenure cell capacity.toNat).At cell start :=
    ⟨(ready_make built).seeded seeds, seeded ▸ inHand, seeded ▸ configured⟩
  refine ⟨cell, fun steps undisturbed exchange asking => ?_⟩
  have later := (tenure_kept cell capacity.toNat).later givesBack after_begin now undisturbed
  rcases later.of_asking asking with ⟨request, _, length⟩
  refine ⟨request, ?_⟩
  rw [Moment.size, length, Int.toNat_of_nonneg (Int.le_of_lt useful)]

end ReadToEnd

namespace ReadExact

theorem copied_request (machine : ReadExact) (memory : Memory) (ending : Ending Bytes)
    (rests : Phase.ofProgress (machine.request memory).progress = .resting (some ending)) :
    ending.Copied := by
  by_cases complete : machine.Complete
  · rw [request, if_pos complete] at rests
    cases rests
    exact fun _ _ => rfl
  · rw [request, if_neg complete] at rests
    cases rests

theorem copied_resume (machine : ReadExact) (answer : Option Exchange) (memory : Memory)
    (ending : Ending Bytes)
    (rests : Phase.ofProgress (Resumable.resume machine answer memory).progress =
      .resting (some ending)) : ending.Copied := by
  cases answer with
  | none => exact copied_request machine memory ending rests
  | some exchange =>
    rw [resume_some] at rests
    by_cases complete : machine.Complete
    · rw [receive, if_pos complete] at rests
      cases rests
      exact fun _ _ => rfl
    · rw [receive, if_neg complete] at rests
      rcases exchange with ⟨direction, payload⟩
      cases direction with
      | write =>
        cases rests
        exact fun _ _ => rfl
      | read =>
        cases payload with
        | request buffer => cases rests
        | response output =>
          by_cases nothing : output.count = 0
          · simp only [Read.receive, if_pos nothing, Progress.reporting_eq_ite] at rests
            split at rests
            · cases rests
              exact fun _ _ => rfl
            · cases rests
              exact fun _ _ => rfl
          · simp only [Read.receive, if_neg nothing] at rests
            exact copied_request _ _ ending rests

variable {State : Type}
  {perform : Exchange -> Context State -> Except Fault Exchange × Context State}

/-- The capacity never grows from one moment to a later one. -/
theorem capacity_later_le (givesBack : GivesBack perform) {cell : Cell} {bound : Nat}
    {moment : Moment ReadExact Bytes State} (now : (tenure cell bound).At cell moment)
    {steps : Nat} (undisturbed : moment.Undisturbed perform steps) {exchange : Exchange}
    (asking : (moment.later perform steps).phase.asked = some exchange) :
    (moment.later perform steps).size cell ≤ bound := by
  have later := (tenure_kept cell bound).later givesBack after_begin now undisturbed
  rcases later.of_asking asking with ⟨_, waits, bounded⟩
  exact Nat.le_trans (Nat.le_of_eq waits.length) bounded

/-- A new machine, seeded or not, reads into one buffer, which has room for
something but not for more than is missing whenever it is lent out.  It never
grows, and in the first drive it is only as much shorter than configured as it
must be. -/
theorem one_buffer (givesBack : GivesBack perform) {target capacity : Int} {memory : Memory}
    {machine : ReadExact} (built : (make target capacity memory).result = .ok machine)
    (seeds : List Bytes) (journal : Array Event) (state : State) :
    let start : Moment ReadExact Bytes State :=
      ⟨.resting none, seeds.foldl extend machine, (make target capacity memory).memory, journal,
        state⟩
    ∃ cell, ∀ steps, start.Undisturbed perform steps -> ∀ exchange,
      (start.later perform steps).phase.asked = some exchange ->
        let size := (start.later perform steps).size cell
        let remaining := (start.later perform steps).machine.remaining
        exchange = ⟨.read, .request (.shared cell)⟩ ∧ 1 ≤ size ∧ size ≤ remaining ∧
          (∀ earlier ≤ steps, ∀ before, (start.later perform earlier).phase.asked = some before ->
            size ≤ (start.later perform earlier).size cell) ∧
          ((∀ between < steps, 0 < between ->
              (start.later perform between).phase.isIdle = false) ->
            (size : Int) = min capacity remaining) := by
  intro start
  rcases exists_slot_make built with ⟨cell, inHand⟩
  rcases of_make built with ⟨useful, read, inner, same, -⟩
  have seeded : start.machine.read = machine.read :=
    @Collecting.seeded_of_extend ReadExact _ (fun seeded => seeded.read = machine.read)
      (fun _ _ same => same) machine rfl seeds
  have configured : start.machine.read.capacity = (min capacity target).toNat := by
    rw [seeded, same]
    exact (Read.armed_make inner).2
  have wanted : start.machine.target = target.toNat := by
    rw [target_seeded, same]
  have ready : start.machine.Ready start.context.memory := (ready_make built).seeded seeds
  have now : (tenure cell start.machine.read.capacity).At cell start :=
    ⟨ready, seeded ▸ inHand, Nat.le_refl _⟩
  refine ⟨cell, fun steps undisturbed exchange asking => ?_⟩
  have later := (tenure_kept cell _).later givesBack after_begin now undisturbed
  rcases later.of_asking asking with ⟨request, waits, -⟩
  have length : (start.later perform steps).size cell = _ := waits.length
  refine ⟨request, length ▸ waits.room, length ▸ waits.fits, ?_, ?_⟩
  · intro earlier order before asked
    have between :=
      (tenure_kept cell _).later givesBack after_begin now (undisturbed.of_le order)
    rcases Nat.exists_eq_add_of_le order with ⟨further, rfl⟩
    rcases between.of_asking asked with ⟨rfl, lent, -⟩
    rw [Moment.later_add] at asking ⊢
    apply capacity_later_le givesBack _ undisturbed.later asking
    exact Tenure.at_of_asking asked ⟨lent, Nat.le_of_eq lent.length.symm⟩
  · intro busy
    cases steps with
    | zero => cases asking
    | succ steps =>
      have first : (firstTenure cell capacity.toNat).At cell (start.next perform) := by
        apply Tenure.at_resume
        apply first_after_begin ready (seeded ▸ inHand)
        have most : start.machine.remaining ≤ start.machine.target := Nat.sub_le _ _
        rw [configured]
        omega
      have driving : (start.next perform).Driving perform steps := fun earlier before =>
        busy (earlier + 1) (Nat.succ_lt_succ before) (Nat.succ_pos earlier)
      have smooth : (start.next perform).Undisturbed perform steps := fun earlier before =>
        undisturbed (earlier + 1) (Nat.succ_lt_succ before)
      have reached := (firstTenure_kept cell capacity.toNat).later_of_driving givesBack first
        driving smooth
      have least : (start.later perform (steps + 1)).machine.read.capacity =
          min capacity.toNat (start.later perform (steps + 1)).machine.remaining :=
        (reached.of_asking asking).2.2
      have room := waits.room
      rw [least] at length room
      omega

end ReadExact

/-- One buffer serves a whole run.  Take a new machine that reads to the end, or
one that reads exactly so many bytes, of any capacity and with any seeds, and
any driver that gives buffers back, with any counts and after any waits.  In
any number of drives, until the stream fails in one of them, every request is
for the same buffer.  Where the machine reads to the end, it always has the
configured length.  Where it reads a given number, it has room for something
but for no more than is missing, it never grows, and in the first drive it is
only as much shorter than configured as it must be.

What the machine hands over is a copy: no change of a buffer changes it. -/
theorem one_buffer_serves_a_whole_run {State : Type}
    (perform : Exchange -> Context State -> Except Fault Exchange × Context State)
    (givesBack : GivesBack perform) (capacity : Int) (seeds : List Bytes) (memory : Memory)
    (journal : Array Event) (state : State) :
    (∀ machine, (ReadToEnd.make capacity memory).result = .ok machine ->
      let start : Moment ReadToEnd Bytes State :=
        ⟨.resting none, seeds.foldl ReadToEnd.extend machine,
          (ReadToEnd.make capacity memory).memory, journal, state⟩
      (∃ cell, ∀ steps, start.Undisturbed perform steps -> ∀ exchange,
        (start.later perform steps).phase.asked = some exchange ->
          exchange = ⟨.read, .request (.shared cell)⟩ ∧
            ((start.later perform steps).size cell : Int) = capacity) ∧
      ∀ steps ending, (start.later perform steps).phase = .resting (some ending) ->
        ending.Copied) ∧
    ∀ target machine, (ReadExact.make target capacity memory).result = .ok machine ->
      let start : Moment ReadExact Bytes State :=
        ⟨.resting none, seeds.foldl ReadExact.extend machine,
          (ReadExact.make target capacity memory).memory, journal, state⟩
      (∃ cell, ∀ steps, start.Undisturbed perform steps -> ∀ exchange,
        (start.later perform steps).phase.asked = some exchange ->
          let size := (start.later perform steps).size cell
          let remaining := (start.later perform steps).machine.remaining
          exchange = ⟨.read, .request (.shared cell)⟩ ∧ 1 ≤ size ∧ size ≤ remaining ∧
            (∀ earlier ≤ steps, ∀ before, (start.later perform earlier).phase.asked = some before ->
              size ≤ (start.later perform earlier).size cell) ∧
            ((∀ between < steps, 0 < between ->
                (start.later perform between).phase.isIdle = false) ->
              (size : Int) = min capacity remaining)) ∧
      ∀ steps ending, (start.later perform steps).phase = .resting (some ending) ->
        ending.Copied := by
  refine ⟨?_, ?_⟩
  · intro machine built start
    exact ⟨ReadToEnd.one_buffer givesBack built seeds journal state,
      Moment.later_copied ReadToEnd.copied_resume rfl⟩
  · intro target machine built start
    exact ⟨ReadExact.one_buffer givesBack built seeds journal state,
      Moment.later_copied ReadExact.copied_resume rfl⟩

/-- Five bytes are wanted and one of them is known.  The buffer holds three
bytes in the first request and one in the last, and the drive after that uses it
once more. -/
theorem one_buffer_serves_a_whole_run_of_five :
    let perform := handle .blocking MemoryFile.stream
    let built := ReadExact.create 5 3 .empty
    let start : Moment ReadExact Bytes MemoryFile :=
      ⟨.resting none, [[9]].foldl ReadExact.extend built.1, built.2, #[],
        .ofBytes [1, 2, 3, 4, 5, 6]⟩
    ∃ cell,
      (start.later perform 1).phase.asked = some ⟨.read, .request (.shared cell)⟩ ∧
      (start.later perform 1).size cell = 3 ∧
      (start.later perform 3).phase.asked = some ⟨.read, .request (.shared cell)⟩ ∧
      (start.later perform 3).size cell = 1 ∧
      (start.later perform 5).phase.isIdle = true ∧
      (start.later perform 6).phase.asked = some ⟨.read, .request (.shared cell)⟩ ∧
      (start.later perform 6).size cell = 1 := by
  intro perform built start
  have made : (ReadExact.make 5 3 .empty).result = .ok built.1 ∧
      (ReadExact.make 5 3 .empty).memory = built.2 := ⟨rfl, rfl⟩
  have whole := one_buffer_serves_a_whole_run perform
    (Stream.KeepsLengths.givesBack MemoryFile.keepsLengths) 3 [[9]] .empty #[]
    (.ofBytes [1, 2, 3, 4, 5, 6])
  have serves := whole.2 5 built.1 made.1
  rw [made.2] at serves
  have undisturbed : start.Undisturbed perform 6 := by decide +kernel
  have busy : ∀ between < 3, 0 < between -> (start.later perform between).phase.isIdle = false := by
    decide +kernel
  have asked : ∀ steps ∈ [1, 3, 6], (start.later perform steps).phase.asked =
      some ⟨.read, .request (.shared ⟨0⟩)⟩ := by
    decide +kernel
  have left : (start.later perform 1).machine.remaining = 4 ∧
      (start.later perform 3).machine.remaining = 1 ∧
      (start.later perform 5).phase.isIdle = true := by
    decide +kernel
  -- What the machine does must not be computed with from here on.
  have named : start = ⟨.resting none, _, _, _, _⟩ := rfl
  rw [← named] at serves
  clear named whole
  clear_value start
  rcases serves with ⟨⟨cell, lends⟩, _⟩
  rcases lends 1 (undisturbed.of_le (by decide)) _ (asked 1 (by decide)) with ⟨same, _, _, _, most⟩
  cases same
  rcases lends 3 (undisturbed.of_le (by decide)) _ (asked 3 (by decide)) with ⟨_, _, _, _, least⟩
  rcases lends 6 undisturbed _ (asked 6 (by decide)) with ⟨_, room, _, grows, _⟩
  have three := most fun _ before begun => absurd begun (Nat.not_lt.mpr (Nat.le_of_lt_succ before))
  have one := least busy
  have again := grows 3 (by decide) _ (asked 3 (by decide))
  rw [left.1] at three
  rw [left.2.1] at one
  exact ⟨⟨0⟩, asked 1 (by decide), by omega, asked 3 (by decide), by omega, left.2.2,
    asked 6 (by decide), by omega⟩

end ResumableStreams
