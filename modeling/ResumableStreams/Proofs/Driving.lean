import ResumableStreams.Run.Drive

namespace ResumableStreams

/-!
# The course of a drive

`driveFrom` tells how a drive ends.  What happens on the way is told by
`Moment.next`, which goes one step further: it resumes the machine, or it
performs the exchange that the machine has handed out.  Where no drive is
under way, the next step begins one, so the moments that follow each other
make up any number of drives of the same machine.

Nothing is assumed here about the machine or the stream.
-/

variable {Machine Value State : Type}

/-- Everything as it is after a step of a machine, which leaves the given
memory and notes the given events. -/
def Context.after (context : Context State) (memory : Memory) (events : List Event) :
    Context State :=
  { (context.note events) with memory := memory }

@[simp] theorem Context.state_after (context : Context State) (memory : Memory)
    (events : List Event) : (context.after memory events).state = context.state := rfl

/-- Of two memories the later counts, and the events add up. -/
theorem Context.after_after (context : Context State) (first second : Memory)
    (earlier later : List Event) :
    (context.after first earlier).after second later = context.after second (earlier ++ later) := by
  have journal : context.journal ++ earlier ++ later = context.journal ++ (earlier ++ later) :=
    Array.ext' (by simp only [Array.toList_appendList, List.append_assoc])
  simp only [Context.after, Context.note, journal]

theorem Exchange.answer_moved (request : Exchange) {buffer : Buffer} {count : Nat} {memory : Memory}
    (fits : count ≤ buffer.size memory) :
    request.answer buffer (.moved count) memory =
      .ok ⟨request.direction, .response ⟨buffer, count⟩⟩ := by
  have made : Output.make buffer count memory = .ok ⟨buffer, count⟩ := by
    rw [Output.make, if_pos ⟨Int.natCast_nonneg count, Int.ofNat_le.mpr fits⟩, Int.toNat_natCast]
  simp only [answer, made]
  rfl

/-- A runtime answers a write with what the stream replies, and no buffer changes. -/
theorem handle_write_of_offer {stream : Stream State} {concurrency : Concurrency}
    {buffer : Buffer} {context : Context State} {reply : Reply} {after : State}
    (offered : stream.offer concurrency ⟨buffer.bytes context.memory, buffer.isMutable⟩
      context.state = (reply, after)) :
    handle concurrency stream ⟨.write, .request buffer⟩ context =
      (Exchange.answer ⟨.write, .request buffer⟩ buffer reply context.memory,
        { (context.note [.writingTo concurrency]) with state := after }) := by
  simp only [handle, Context.writeFrom, Context.note, offered]

section

variable [Resumable Machine Value]
  {perform : Exchange -> Context State -> Except Fault Exchange × Context State}

/-! ## One round of a drive -/

theorem driveFrom_finished {machine after : Machine} {answer : Option Exchange}
    {context : Context State} {turns : List Turn} {value : Value} {memory : Memory}
    {events : List Event} (limit : Nat)
    (resumed : Resumable.resume machine answer context.memory =
      ⟨.finished value, after, memory, events⟩) :
    driveFrom perform (limit + 1) machine answer context turns =
      ⟨.finished value, after, context.after memory events, turns.reverse⟩ := by
  simp only [driveFrom, resumed, Context.after]

/-- A step that fails ends the drive. -/
theorem driveFrom_of_raised {machine after : Machine} {answer : Option Exchange}
    {context : Context State} {turns : List Turn} {fault : Fault} {memory : Memory}
    {events : List Event} (limit : Nat)
    (resumed : Resumable.resume machine answer context.memory =
      ⟨.raised fault, after, memory, events⟩) :
    driveFrom perform (limit + 1) machine answer context turns =
      ⟨.raised fault, after, context.after memory events, turns.reverse⟩ := by
  simp only [driveFrom, resumed, Context.after]

theorem driveFrom_failed {machine after : Machine} {answer : Option Exchange}
    {context : Context State} {turns : List Turn} {error : StreamError} {memory : Memory}
    {events : List Event} (limit : Nat)
    (resumed : Resumable.resume machine answer context.memory =
      ⟨.failed error, after, memory, events⟩) :
    driveFrom perform (limit + 1) machine answer context turns =
      ⟨.failed error, after, context.after memory events, turns.reverse⟩ := by
  simp only [driveFrom, resumed, Context.after]

/-- A machine that hands out an exchange is resumed with the answer to it. -/
theorem driveFrom_needs {machine waiting : Machine} {answer : Option Exchange}
    {context reached : Context State} {turns : List Turn} {exchange reply : Exchange}
    {memory : Memory} {events : List Event} (limit : Nat)
    (resumed : Resumable.resume machine answer context.memory =
      ⟨.needs exchange, waiting, memory, events⟩)
    (performed : perform exchange (context.after memory events) = (.ok reply, reached)) :
    driveFrom perform (limit + 1) machine answer context turns =
      driveFrom perform limit waiting (some reply) reached
        (⟨exchange, exchange.carried.size memory, .ofAnswer reply⟩ :: turns) := by
  simp only [Context.after] at performed
  simp only [driveFrom, resumed, performed]

theorem driveFrom_endOfStream {machine after : Machine} {answer : Option Exchange}
    {context : Context State} {turns : List Turn} {memory : Memory} {events : List Event}
    (limit : Nat)
    (resumed : Resumable.resume machine answer context.memory =
      ⟨.endOfStream, after, memory, events⟩) :
    driveFrom perform (limit + 1) machine answer context turns =
      ⟨.endOfStream, after, context.after memory events, turns.reverse⟩ := by
  simp only [driveFrom, resumed, Context.after]

/-- A failure of the stream ends the drive. -/
theorem driveFrom_raised {machine waiting : Machine} {answer : Option Exchange}
    {context reached : Context State} {turns : List Turn} {exchange : Exchange} {fault : Fault}
    {memory : Memory} {events : List Event} (limit : Nat)
    (resumed : Resumable.resume machine answer context.memory =
      ⟨.needs exchange, waiting, memory, events⟩)
    (performed : perform exchange (context.after memory events) = (.error fault, reached)) :
    driveFrom perform (limit + 1) machine answer context turns =
      ⟨.raised fault, waiting, reached,
        (⟨exchange, exchange.carried.size memory, .raised⟩ :: turns).reverse⟩ := by
  simp only [Context.after] at performed
  simp only [driveFrom, resumed, performed]

/-- A machine that takes an answer and goes on like a second one that is only
asked for more may be replaced by the second. -/
theorem driveFrom_of_resume_eq {machine next : Machine} {answer : Exchange}
    {context : Context State} {memory : Memory} {events : List Event} (limit : Nat)
    (turns : List Turn)
    (resumed : Resumable.resume machine (some answer) context.memory =
      (Resumable.resume next none memory).after events) :
    driveFrom perform (limit + 1) machine (some answer) context turns =
      driveFrom perform (limit + 1) next none (context.after memory events) turns := by
  have reached : context.after (Resumable.resume next none memory).memory
        (events ++ (Resumable.resume next none memory).events) =
      (context.after memory events).after (Resumable.resume next none memory).memory
        (Resumable.resume next none memory).events :=
    (context.after_after memory _ events _).symm
  simp only [Context.after] at reached
  simp only [driveFrom, resumed, Step.after, Context.after, reached]

end

/-! ## Moments -/

/-- What the driver of a machine is about to do. -/
inductive Phase (Value : Type) where
  /-- No drive is under way.  If there has been one, the last ended so. -/
  | resting (ending : Option (Ending Value))
  /-- The machine has handed this exchange out, and it is to be performed. -/
  | asking (exchange : Exchange)
  /-- The exchange has been performed, and the machine is to be resumed with
  this answer. -/
  | answered (answer : Exchange)

/-- The phase after a step of the machine. -/
def Phase.ofProgress : Progress Value -> Phase Value
  | .finished value => .resting (some (.finished value))
  | .needs exchange => .asking exchange
  | .endOfStream => .resting (some .endOfStream)
  | .failed error => .resting (some (.failed error))
  | .raised fault => .resting (some (.raised fault))

/-- How many bytes have moved of which the machine has yet to be told. -/
def Phase.untold : Phase Value -> Nat
  | .answered ⟨_, .response output⟩ => output.count
  | _ => 0

/-- A machine and everything around it, between two steps of its driver. -/
structure Moment (Machine Value State : Type) where
  phase : Phase Value
  machine : Machine
  context : Context State

namespace Moment

variable [Resumable Machine Value]
  (perform : Exchange -> Context State -> Except Fault Exchange × Context State)

def resume (moment : Moment Machine Value State) (answer : Option Exchange) :
    Moment Machine Value State :=
  let step := Resumable.resume moment.machine answer moment.context.memory
  ⟨.ofProgress step.progress, step.machine, moment.context.after step.memory step.events⟩

/-- Go one step further.  Where no drive is under way, this begins one. -/
def next (moment : Moment Machine Value State) : Moment Machine Value State :=
  match moment.phase with
  | .resting _ => moment.resume none
  | .answered answer => moment.resume (some answer)
  | .asking exchange =>
    match perform exchange moment.context with
    | (.ok answer, context) => ⟨.answered answer, moment.machine, context⟩
    | (.error fault, context) => ⟨.resting (some (.raised fault)), moment.machine, context⟩

def later : Nat -> Moment Machine Value State -> Moment Machine Value State
  | 0, moment => moment
  | steps + 1, moment => later steps (moment.next perform)

variable {perform}

/-- What every step keeps holds at every later moment. -/
theorem later_of_next {Holds : Moment Machine Value State -> Prop}
    (kept : ∀ moment, Holds moment -> Holds (moment.next perform))
    {moment : Moment Machine Value State} (now : Holds moment) (steps : Nat) :
    Holds (moment.later perform steps) := by
  induction steps generalizing moment with
  | zero => exact now
  | succ steps inductionHypothesis => exact inductionHypothesis (kept moment now)

/-- A drive that ends leaves the machine and everything else as they are at
some later moment, at which it has just ended so. -/
theorem exists_later_of_driveFrom (limit : Nat) (moment : Moment Machine Value State)
    (answer : Option Exchange) (turns : List Turn)
    (ended : (driveFrom perform limit moment.machine answer moment.context turns).ending ≠
      .unfinished) :
    ∃ steps, (moment.resume answer).later perform steps =
      let run := driveFrom perform limit moment.machine answer moment.context turns
      ⟨.resting (some run.ending), run.machine, run.context⟩ := by
  induction limit generalizing moment answer turns with
  | zero => exact absurd rfl ended
  | succ limit inductionHypothesis =>
    cases stepped : Resumable.resume moment.machine answer moment.context.memory with
    | mk progress machine memory events =>
      have resumed : moment.resume answer =
          ⟨.ofProgress progress, machine, moment.context.after memory events⟩ := by
        simp only [resume, stepped]
      rw [resumed]
      simp only [driveFrom, stepped] at ended ⊢
      cases progress with
      | finished value => exact ⟨0, rfl⟩
      | endOfStream => exact ⟨0, rfl⟩
      | failed error => exact ⟨0, rfl⟩
      | raised fault => exact ⟨0, rfl⟩
      | needs exchange =>
        cases performed : perform exchange (moment.context.after memory events) with
        | mk result context =>
          simp only [Context.after] at performed
          simp only [performed] at ended ⊢
          cases result with
          | error fault =>
            refine ⟨1, ?_⟩
            simp only [later, next, Phase.ofProgress, Context.after, performed]
          | ok reply =>
            -- The exchange is one step, and resuming the machine with the answer is another.
            rcases inductionHypothesis ⟨.answered reply, machine, context⟩ (some reply) _ ended with
              ⟨steps, reached⟩
            refine ⟨steps + 2, ?_⟩
            simp only [later, next, Phase.ofProgress, Context.after, performed]
            exact reached

/-- Every drive that ends is among the moments after its beginning. -/
theorem exists_later_of_drive (concurrency : Concurrency) (stream : Stream State) (limit : Nat)
    (moment : Moment Machine Value State) (before : Option (Ending Value))
    (resting : moment.phase = .resting before)
    (ended : (drive concurrency stream limit moment.machine moment.context).ending ≠
      .unfinished) :
    ∃ steps, moment.later (handle concurrency stream) steps =
      let run := drive concurrency stream limit moment.machine moment.context
      ⟨.resting (some run.ending), run.machine, run.context⟩ := by
  rcases exists_later_of_driveFrom limit moment none [] ended with ⟨steps, reached⟩
  refine ⟨steps + 1, ?_⟩
  simp only [later, next, resting]
  exact reached

end Moment

end ResumableStreams
