import ResumableStreams.Machine

namespace ResumableStreams

/-!
# The loops inside the machines

The machines that are built from others work in a loop: each pass makes a step
of the inner machine, and either the call returns with what has come of it, or
the next pass begins, now without an answer.  Nothing in the loop itself says
that it ends.

Here the loops are written out with any number of passes allowed, and the steps
of the inner machine are counted where they are made.  Two passes are always
enough.  An inner machine without an answer makes a request, so a pass without
an answer returns; and every pass after the first is one without an answer.
-/

/-- A computation that counts the steps of an inner machine. -/
abbrev Counting := StateM Nat

/-- Make one step of an inner machine, and count it. -/
def makeStep {Inner Output : Type} [Resumable Inner Output] (machine : Inner)
    (answer : Option Exchange) (memory : Memory) : Counting (Step Inner Output) :=
  fun steps => (Resumable.resume machine answer memory, steps + 1)

/-- What one pass comes to: the call returns, or the machine goes on from here
without an answer. -/
inductive Pass (Machine Value : Type) where
  | returns (step : Step Machine Value)
  | again (machine : Machine) (memory : Memory) (events : List Event)

section

variable {Machine Value : Type}

/-- Make passes until one returns, and at most so many.  There is no result if
none of them does. -/
def loop (pass : Machine -> Option Exchange -> Memory -> Counting (Pass Machine Value)) :
    (passes : Nat) -> Machine -> Option Exchange -> Memory ->
      Counting (Option (Step Machine Value))
  | 0, _, _, _ => pure none
  | passes + 1, machine, answer, memory => do
    match <- pass machine answer memory with
    | .returns step => pure (some step)
    | .again machine memory events =>
      let step <- loop pass passes machine none memory
      pure (step.map (Step.after events))

/-- The pass comes to this step of the machine: it returns the step, or what
comes next gives it. -/
def Pass.Gives [Resumable Machine Value] (step : Step Machine Value) : Pass Machine Value -> Prop
  | .returns returned => returned = step
  | .again machine memory events => (Resumable.resume machine none memory).after events = step

/-- A pass without an answer returns, and a pass with one returns or leads to a
pass without.  The result is that of the machine, and the inner machine makes at
most one step in each pass. -/
structure LoopsOnce [Resumable Machine Value]
    (pass : Machine -> Option Exchange -> Memory -> Counting (Pass Machine Value)) : Prop where
  asked : ∀ machine memory steps, ∃ inner ≤ 1,
    pass machine none memory steps =
      (.returns (Resumable.resume machine none memory), steps + inner)
  answered : ∀ machine exchange memory steps, ∃ inner ≤ 1, ∃ outcome,
    pass machine (some exchange) memory steps = (outcome, steps + inner) ∧
      outcome.Gives (Resumable.resume machine (some exchange) memory)

variable {pass : Machine -> Option Exchange -> Memory -> Counting (Pass Machine Value)}

theorem loop_of_returns {machine : Machine} {answer : Option Exchange} {memory : Memory}
    {steps counted : Nat} {step : Step Machine Value}
    (returned : pass machine answer memory steps = (.returns step, counted)) (passes : Nat) :
    loop pass (passes + 1) machine answer memory steps = (some step, counted) := by
  simp only [loop, bind, StateT.bind, returned]
  rfl

theorem loop_of_again {machine next : Machine} {answer : Option Exchange}
    {memory after : Memory} {steps counted total : Nat} {events : List Event}
    {step : Step Machine Value}
    (goesOn : pass machine answer memory steps = (.again next after events, counted))
    {passes : Nat} (returned : loop pass passes next none after counted = (some step, total)) :
    loop pass (passes + 1) machine answer memory steps = (some (step.after events), total) := by
  simp only [loop, bind, StateT.bind, goesOn, returned]
  rfl

/-- The loop returns what the machine does, after at most two steps of the inner
machine. -/
theorem LoopsOnce.loop_eq_resume [Resumable Machine Value] (loops : LoopsOnce pass)
    (machine : Machine) (answer : Option Exchange) (memory : Memory) (passes steps : Nat) :
    ∃ inner ≤ 2, loop pass (passes + 2) machine answer memory steps =
      (some (Resumable.resume machine answer memory), steps + inner) := by
  cases answer with
  | none =>
    rcases loops.asked machine memory steps with ⟨inner, few, returned⟩
    exact ⟨inner, Nat.le_succ_of_le few, loop_of_returns returned (passes + 1)⟩
  | some exchange =>
    rcases loops.answered machine exchange memory steps with ⟨inner, few, outcome, passed, gives⟩
    cases outcome with
    | returns step =>
      cases gives
      exact ⟨inner, Nat.le_succ_of_le few, loop_of_returns passed (passes + 1)⟩
    | again next after events =>
      rcases loops.asked next after (steps + inner) with ⟨more, few', returned⟩
      refine ⟨inner + more, Nat.add_le_add few few', ?_⟩
      rw [← gives, ← Nat.add_assoc]
      exact loop_of_again passed (loop_of_returns returned passes)

end

/-! ## The three loops -/

/-- One pass: hand over what has been collected, or make a step of the inner
machine with its buffer no longer than what is missing. -/
def ReadExact.pass (machine : ReadExact) (answer : Option Exchange) (memory : Memory) :
    Counting (Pass ReadExact Bytes) :=
  if machine.Complete then pure (.returns (machine.finish memory))
  else do
    let (read, memory) := machine.trimmed memory
    let inner <- makeStep read answer memory
    let events := .remainingToRead machine.remaining :: inner.events
    let machine := { machine with read := inner.machine }
    match inner.progress with
    | .needs exchange => pure (.returns ⟨.needs exchange, machine, inner.memory, events⟩)
    | .failed error =>
      pure (.returns ⟨.failed (.wrap .readExact error), machine, inner.memory, events⟩)
    | .raised fault => pure (.returns ⟨.raised fault, machine, inner.memory, events⟩)
    | .endOfStream =>
      pure (.returns
        ⟨.reporting (.unexpectedEnd machine.remaining machine.target
            (.frozen machine.collected.bytes)),
          { machine with collected := .empty }, inner.memory, events⟩)
    | .finished output =>
      let (machine, memory) := machine.absorb output inner.memory
      pure (.again machine memory events)

/-- One pass: make a step of the inner machine, whose end of the stream is the
result. -/
def ReadToEnd.pass (machine : ReadToEnd) (answer : Option Exchange) (memory : Memory) :
    Counting (Pass ReadToEnd Bytes) := do
  let inner <- makeStep machine.read answer memory
  let machine := { machine with read := inner.machine }
  match inner.progress with
  | .needs exchange => pure (.returns ⟨.needs exchange, machine, inner.memory, inner.events⟩)
  | .failed error =>
    pure (.returns ⟨.failed (.wrap .readToEnd error), machine, inner.memory, inner.events⟩)
  | .raised fault => pure (.returns ⟨.raised fault, machine, inner.memory, inner.events⟩)
  | .endOfStream =>
    pure (.returns ⟨.finished machine.collected.bytes, { machine with collected := .empty },
      inner.memory, inner.events⟩)
  | .finished output =>
    let (machine, memory) := machine.absorb output inner.memory
    pure (.again machine memory inner.events)

/-- One pass: nothing remains, or the inner machine makes a step with what
does. -/
def WriteAll.pass (machine : WriteAll) (answer : Option Exchange) (memory : Memory) :
    Counting (Pass WriteAll Nat) :=
  if machine.remaining = 0 then pure (.returns ⟨.finished machine.total, machine, memory, []⟩)
  else do
    let inner <- makeStep machine.write answer memory
    let machine := { machine with write := inner.machine }
    match inner.progress with
    | .needs exchange => pure (.returns ⟨.needs exchange, machine, inner.memory, inner.events⟩)
    | .failed error =>
      pure (.returns ⟨.failed (.wrap .writeAll error), machine, inner.memory, inner.events⟩)
    | .raised fault => pure (.returns ⟨.raised fault, machine, inner.memory, inner.events⟩)
    | .endOfStream =>
      pure (.returns
        ⟨.failed (.writeZero machine.remaining machine.total
            (machine.total - machine.remaining)),
          machine, inner.memory, inner.events⟩)
    | .finished output =>
      let (machine, memory, events) := machine.absorb output inner.memory
      pure (.again machine memory (inner.events ++ events))

theorem ReadExact.loopsOnce : LoopsOnce ReadExact.pass where
  asked := by
    intro machine memory steps
    by_cases complete : machine.Complete
    · refine ⟨0, Nat.zero_le _, ?_⟩
      show pass machine none memory steps = (.returns (machine.request memory), steps)
      rw [pass, request, if_pos complete, if_pos complete]
      rfl
    · refine ⟨1, Nat.le_refl _, ?_⟩
      show pass machine none memory steps = (.returns (machine.request memory), steps + 1)
      rw [pass, request, if_neg complete, if_neg complete]
      rfl
  answered := by
    intro machine exchange memory steps
    by_cases complete : machine.Complete
    · refine ⟨0, Nat.zero_le _, .returns (machine.receive exchange memory), ?_, rfl⟩
      rw [pass, receive, if_pos complete, if_pos complete]
      rfl
    · refine ⟨1, Nat.le_refl _, ?_⟩
      show ∃ outcome, pass machine (some exchange) memory steps = (outcome, steps + 1) ∧
        outcome.Gives (machine.receive exchange memory)
      have stepped : makeStep (machine.trimmed memory).1 (some exchange) (machine.trimmed memory).2
          steps = ((machine.trimmed memory).1.receive exchange (machine.trimmed memory).2,
            steps + 1) := rfl
      rw [pass, receive, if_neg complete, if_neg complete]
      simp only [bind, StateT.bind, stepped]
      cases ((machine.trimmed memory).1.receive exchange (machine.trimmed memory).2).progress with
      | needs exchange => exact ⟨_, rfl, rfl⟩
      | failed error => exact ⟨_, rfl, rfl⟩
      | raised fault => exact ⟨_, rfl, rfl⟩
      | endOfStream => exact ⟨_, rfl, rfl⟩
      | finished output => exact ⟨_, rfl, rfl⟩

theorem ReadToEnd.loopsOnce : LoopsOnce ReadToEnd.pass where
  asked := fun _ _ _ => ⟨1, Nat.le_refl _, rfl⟩
  answered := by
    intro machine exchange memory steps
    refine ⟨1, Nat.le_refl _, ?_⟩
    show ∃ outcome, pass machine (some exchange) memory steps = (outcome, steps + 1) ∧
      outcome.Gives (machine.receive exchange memory)
    have stepped : makeStep machine.read (some exchange) memory steps =
        (machine.read.receive exchange memory, steps + 1) := rfl
    rw [pass, receive]
    simp only [bind, StateT.bind, stepped]
    cases (machine.read.receive exchange memory).progress with
    | needs exchange => exact ⟨_, rfl, rfl⟩
    | failed error => exact ⟨_, rfl, rfl⟩
    | raised fault => exact ⟨_, rfl, rfl⟩
    | endOfStream => exact ⟨_, rfl, rfl⟩
    | finished output => exact ⟨_, rfl, rfl⟩

theorem WriteAll.loopsOnce : LoopsOnce WriteAll.pass where
  asked := by
    intro machine memory steps
    by_cases done : machine.remaining = 0
    · refine ⟨0, Nat.zero_le _, ?_⟩
      show pass machine none memory steps = (.returns (machine.request memory), steps)
      rw [pass, request, if_pos done, if_pos done]
      rfl
    · refine ⟨1, Nat.le_refl _, ?_⟩
      show pass machine none memory steps = (.returns (machine.request memory), steps + 1)
      rw [pass, request, if_neg done, if_neg done]
      rfl
  answered := by
    intro machine exchange memory steps
    by_cases done : machine.remaining = 0
    · refine ⟨0, Nat.zero_le _, .returns (machine.receive exchange memory), ?_, rfl⟩
      rw [pass, receive, if_pos done, if_pos done]
      rfl
    · refine ⟨1, Nat.le_refl _, ?_⟩
      show ∃ outcome, pass machine (some exchange) memory steps = (outcome, steps + 1) ∧
        outcome.Gives (machine.receive exchange memory)
      have stepped : makeStep machine.write (some exchange) memory steps =
          (machine.write.receive exchange memory, steps + 1) := rfl
      rw [pass, receive, if_neg done, if_neg done]
      simp only [bind, StateT.bind, stepped]
      cases (machine.write.receive exchange memory).progress with
      | needs exchange => exact ⟨_, rfl, rfl⟩
      | failed error => exact ⟨_, rfl, rfl⟩
      | raised fault => exact ⟨_, rfl, rfl⟩
      | endOfStream => exact ⟨_, rfl, rfl⟩
      | finished output => exact ⟨_, rfl, rfl⟩

end ResumableStreams
