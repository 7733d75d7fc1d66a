import ResumableStreams.Machine.ReadExact
import ResumableStreams.Machine.ReadToEnd

namespace ResumableStreams

/-!
# Machines in any hands

No driver is assumed here.  Whoever holds a machine may seed bytes at any
time, resume the machine with nothing or with any exchange whatever, and
change buffers in between, also those that are lent out.  A `Session` is such
a use of a machine, and its entries are the calls made so far, each with what
was the case before it.

What is asked about a session is where the bytes have gone.  For this it is
enough to know where they go in a single call: `Session.balance` adds the
calls up.
-/

/-- The type of machines that collect bytes and hand them over. -/
class Collecting (Machine : Type) extends Resumable Machine Bytes where
  extend : Machine -> Bytes -> Machine
  /-- The bytes collected and not yet handed over. -/
  collected : Machine -> Bytes
  collected_extend : ∀ machine bytes,
    collected (extend machine bytes) = collected machine ++ bytes

instance : Collecting ReadExact where
  extend := ReadExact.extend
  collected machine := machine.collected.bytes
  collected_extend machine := Collected.bytes_append machine.collected

instance : Collecting ReadToEnd where
  extend := ReadToEnd.extend
  collected machine := machine.collected.bytes
  collected_extend machine := Collected.bytes_append machine.collected

section

variable {Machine : Type} [Collecting Machine]

/-- What seeding keeps is kept however many pieces are seeded. -/
theorem Collecting.seeded_of_extend {Holds : Machine -> Prop}
    (kept : ∀ machine bytes, Holds machine -> Holds (extend machine bytes)) {machine : Machine}
    (now : Holds machine) (seeds : List Bytes) : Holds (seeds.foldl extend machine) := by
  induction seeds generalizing machine with
  | nil => exact now
  | cons seed seeds inductionHypothesis => exact inductionHypothesis (kept machine seed now)

theorem Collecting.collected_seeded (machine : Machine) (seeds : List Bytes) :
    collected (seeds.foldl extend machine) = collected machine ++ seeds.flatten := by
  induction seeds generalizing machine with
  | nil =>
    rw [List.flatten_nil, List.append_nil]
    rfl
  | cons seed seeds inductionHypothesis =>
    rw [List.foldl_cons, inductionHypothesis, collected_extend, List.flatten_cons,
      List.append_assoc]

end

theorem ReadExact.bytes_absorb (machine : ReadExact) (output : Output) (memory : Memory) :
    (machine.absorb output memory).1.collected.bytes =
      machine.collected.bytes ++ output.bytes memory :=
  Collected.bytes_append machine.collected (output.bytes memory)

theorem ReadToEnd.bytes_absorb (machine : ReadToEnd) (output : Output) (memory : Memory) :
    (machine.absorb output memory).1.collected.bytes =
      machine.collected.bytes ++ output.bytes memory :=
  Collected.bytes_append machine.collected (output.bytes memory)

/-! ## What goes in and what comes out -/

/-- The bytes of a read response, as its buffer holds them at present. -/
def Exchange.payloadBytes (memory : Memory) : Exchange -> Bytes
  | ⟨.read, .response output⟩ => output.bytes memory
  | _ => []

/-- The bytes of a result. -/
def Progress.value : Progress Bytes -> Bytes
  | .finished value => value
  | _ => []

/-- The bytes of a result, or those that an early end leaves. -/
def Progress.released (memory : Memory) : Progress Bytes -> Bytes
  | .finished value => value
  | .failed (.unexpectedEnd _ _ partialBytes) => partialBytes.bytes memory
  | _ => []

/-- What the holder of a machine does. -/
inductive Call where
  | extend (bytes : Bytes)
  | resume (answer : Option Exchange)
  /-- Change buffers, which leaves this memory. -/
  | elsewhere (memory : Memory)

/-- The bytes that a call brings. -/
def Call.supplied (memory : Memory) : Call -> Bytes
  | .extend bytes => bytes
  | .resume (some exchange) => exchange.payloadBytes memory
  | _ => []

/-! ## Sessions -/

structure Session (Machine : Type) where
  machine : Machine
  memory : Memory
  /-- The request that the machine waits for. -/
  outstanding : Option Exchange

/-- A call, and what was the case before it. -/
structure Entry (Machine : Type) where
  before : Session Machine
  call : Call

section

variable {Machine : Type} [Collecting Machine]

/-- The bytes collected and not yet handed over. -/
def Session.collected (session : Session Machine) : Bytes :=
  Collecting.collected session.machine

namespace Entry

/-- How far the machine came, if it was resumed. -/
def progress (entry : Entry Machine) : Option (Progress Bytes) :=
  match entry.call with
  | .resume answer =>
    some (Resumable.resume entry.before.machine answer entry.before.memory).progress
  | _ => none

/-- The request that the machine waits for after a step.  An exchange that is
refused leaves the machine waiting as before. -/
def outstandingAfter (before : Option Exchange) : Progress Bytes -> Option Exchange
  | .needs exchange => some exchange
  | .failed (.wrapping _ _ _) => before
  | _ => none

/-- What is the case after the call. -/
def after (entry : Entry Machine) : Session Machine :=
  match entry.call with
  | .extend bytes => { entry.before with machine := Collecting.extend entry.before.machine bytes }
  | .resume answer =>
    let step := Resumable.resume entry.before.machine answer entry.before.memory
    ⟨step.machine, step.memory, outstandingAfter entry.before.outstanding step.progress⟩
  | .elsewhere memory => { entry.before with memory := memory }

def supplied (entry : Entry Machine) : Bytes := entry.call.supplied entry.before.memory

/-- The bytes of the result, if there is one. -/
def value (entry : Entry Machine) : Bytes := (entry.progress.map Progress.value).getD []

/-- The bytes of the result or of the early end, if there is one. -/
def released (entry : Entry Machine) : Bytes :=
  (entry.progress.map (Progress.released entry.after.memory)).getD []

/-- A response that is passed answers the request that the machine waits
for: it goes the same way and carries the same buffer. -/
def Answers (entry : Entry Machine) : Prop :=
  ∀ direction output, entry.call = .resume (some ⟨direction, .response output⟩) ->
    entry.before.outstanding = some ⟨direction, .request output.buffer⟩

end Entry

namespace Session

/-- The calls with what was the case before each of them. -/
def entries (session : Session Machine) : List Call -> List (Entry Machine)
  | [] => []
  | call :: calls => ⟨session, call⟩ :: (Entry.after ⟨session, call⟩).entries calls

def afterAll (session : Session Machine) : List Call -> Session Machine
  | [] => session
  | call :: calls => (Entry.after ⟨session, call⟩).afterAll calls

/-- Where every call hands out or keeps all that it takes, so do all calls
together. -/
theorem balance {given taken : Entry Machine -> Bytes}
    (step : ∀ entry : Entry Machine,
      given entry ++ entry.after.collected = entry.before.collected ++ taken entry)
    (session : Session Machine) (calls : List Call) :
    (session.entries calls).flatMap given ++ (session.afterAll calls).collected =
      session.collected ++ (session.entries calls).flatMap taken := by
  induction calls generalizing session with
  | nil => rw [entries, afterAll, List.flatMap_nil, List.flatMap_nil, List.append_nil]; rfl
  | cons call calls inductionHypothesis =>
    simp only [entries, afterAll, List.flatMap_cons]
    rw [List.append_assoc, inductionHypothesis, ← List.append_assoc, step ⟨session, call⟩,
      List.append_assoc]

end Session

end

end ResumableStreams
