import ResumableStreams.Machine
import ResumableStreams.Proofs.Driving
import ResumableStreams.Proofs.Lending

namespace ResumableStreams

/-!
# Waiting changes nothing

A stream that can move nothing at present gives a request back, and the
machine presents it again.  Any number of such waits may come before any reply
of the stream.  They cost time and nothing else: the drive ends as it would
have ended without them, and what the stream is asked after a wait is what it
was asked before.

Two facts carry this.  A machine that has handed out a request is not changed
by getting it back, for every kind of machine and in every condition; this is
`Patient`.  And a wait leaves the buffer as it was, so the memory is the same
when the request is presented again.  Only the journal tells the difference.
-/

/-! ## Getting a request back -/

/-- A machine that is given this exchange hands it out and is otherwise
unchanged, whatever has happened to the buffers. -/
def Repeats {Machine Value : Type} [Resumable Machine Value] (machine : Machine)
    (exchange : Exchange) : Prop :=
  ∀ memory, ∃ events,
    Resumable.resume machine (some exchange) memory = ⟨.needs exchange, machine, memory, events⟩

/-- The type of machines that repeat every exchange they have handed out. -/
class Patient (Machine : Type) {Value : outParam Type} [Resumable Machine Value] : Prop where
  repeats : ∀ (machine : Machine) (answer : Option Exchange) (memory : Memory)
    (exchange : Exchange), (Resumable.resume machine answer memory).progress = .needs exchange ->
      Repeats (Resumable.resume machine answer memory).machine exchange

/-- All that a `Read` ever hands out is a request to read. -/
theorem Read.resume_needs {read : Read} {answer : Option Exchange} {memory : Memory}
    {exchange : Exchange} (needs : (read.resume answer memory).progress = .needs exchange) :
    ∃ buffer, exchange = ⟨.read, .request buffer⟩ := by
  cases answer with
  | none =>
    cases needs
    exact ⟨_, rfl⟩
  | some given =>
    rcases given with ⟨direction, payload⟩
    cases direction with
    | write => cases needs
    | read =>
      cases payload with
      | request buffer =>
        cases needs
        exact ⟨buffer, rfl⟩
      | response output =>
        by_cases nothing : output.count = 0
        · simp only [resume, receive, if_pos nothing] at needs
          cases needs
        · simp only [resume, receive, if_neg nothing] at needs
          cases needs

theorem Write.resume_needs {write : Write} {answer : Option Exchange} {memory : Memory}
    {exchange : Exchange} (needs : (write.resume answer memory).progress = .needs exchange) :
    ∃ buffer, exchange = ⟨.write, .request buffer⟩ := by
  cases answer with
  | none =>
    cases needs
    exact ⟨_, rfl⟩
  | some given =>
    rcases given with ⟨direction, payload⟩
    cases direction with
    | read => cases needs
    | write =>
      cases payload with
      | request buffer =>
        cases needs
        exact ⟨buffer, rfl⟩
      | response output =>
        by_cases nothing : output.count = 0
        · simp only [resume, receive, if_pos nothing] at needs
          cases needs
        · simp only [resume, receive, if_neg nothing] at needs
          cases needs

instance : Patient Read where
  repeats := by
    intro read answer memory exchange needs later
    rcases Read.resume_needs needs with ⟨buffer, rfl⟩
    exact ⟨[.readResumed], rfl⟩

instance : Patient Write where
  repeats := by
    intro write answer memory exchange needs later
    rcases Write.resume_needs needs with ⟨buffer, rfl⟩
    exact ⟨[.writeResumed], rfl⟩

namespace ReadExact

/-- The machine misses something, and the buffer it lends is no longer than
that. -/
structure Fitted (machine : ReadExact) : Prop where
  incomplete : ¬ machine.Complete
  fits : machine.read.capacity ≤ machine.remaining

theorem Fitted.repeats {machine : ReadExact} (fitted : machine.Fitted) (buffer : Buffer) :
    Repeats machine ⟨.read, .request buffer⟩ := by
  intro memory
  have short : ¬ machine.remaining < machine.read.capacity := Nat.not_lt.mpr fitted.fits
  refine ⟨[.remainingToRead machine.remaining, .readResumed], ?_⟩
  show machine.receive ⟨.read, .request buffer⟩ memory = _
  rw [receive, if_neg fitted.incomplete, trimmed, if_neg short]
  rfl

theorem capacity_trimmed_le (machine : ReadExact) (memory : Memory) :
    (machine.trimmed memory).1.capacity ≤ machine.remaining := by
  rw [trimmed_eq_truncate, Read.capacity_truncate]
  exact Nat.min_le_left _ _

/-- A machine that asks for more has made its buffer fit. -/
theorem request_needs {machine : ReadExact} {memory : Memory} {exchange : Exchange}
    (needs : (machine.request memory).progress = .needs exchange) :
    (machine.request memory).machine.Fitted ∧ ∃ buffer, exchange = ⟨.read, .request buffer⟩ := by
  by_cases complete : machine.Complete
  · rw [request, if_pos complete] at needs
    cases needs
  · rw [request, if_neg complete] at needs ⊢
    cases needs
    exact ⟨⟨complete, machine.capacity_trimmed_le memory⟩, _, rfl⟩

theorem receive_needs {machine : ReadExact} {given exchange : Exchange} {memory : Memory}
    (needs : (machine.receive given memory).progress = .needs exchange) :
    (machine.receive given memory).machine.Fitted ∧
      ∃ buffer, exchange = ⟨.read, .request buffer⟩ := by
  by_cases complete : machine.Complete
  · rw [receive, if_pos complete] at needs
    cases needs
  · rw [receive, if_neg complete] at needs ⊢
    rcases given with ⟨direction, payload⟩
    cases direction with
    | write => cases needs
    | read =>
      cases payload with
      | request buffer =>
        cases needs
        exact ⟨⟨complete, machine.capacity_trimmed_le memory⟩, buffer, rfl⟩
      | response output =>
        by_cases nothing : output.count = 0
        · simp only [Read.receive, if_pos nothing] at needs
          exact absurd needs (Progress.reporting_ne_needs _ exchange)
        · simp only [Read.receive, if_neg nothing] at needs ⊢
          -- The output has been taken, and what follows is a call that asks for more.
          exact request_needs needs

instance : Patient ReadExact where
  repeats := by
    intro machine answer memory exchange needs
    cases answer with
    | none =>
      rcases request_needs needs with ⟨fitted, buffer, rfl⟩
      exact fitted.repeats buffer
    | some given =>
      rcases receive_needs needs with ⟨fitted, buffer, rfl⟩
      exact fitted.repeats buffer

end ReadExact

namespace ReadToEnd

theorem resume_needs {machine : ReadToEnd} {answer : Option Exchange} {memory : Memory}
    {exchange : Exchange} (needs : (machine.resume answer memory).progress = .needs exchange) :
    ∃ buffer, exchange = ⟨.read, .request buffer⟩ := by
  cases answer with
  | none =>
    cases needs
    exact ⟨_, rfl⟩
  | some given =>
    rcases given with ⟨direction, payload⟩
    cases direction with
    | write => cases needs
    | read =>
      cases payload with
      | request buffer =>
        cases needs
        exact ⟨buffer, rfl⟩
      | response output =>
        by_cases nothing : output.count = 0
        · simp only [resume, receive, Read.receive, if_pos nothing] at needs
          cases needs
        · simp only [resume, receive, Read.receive, if_neg nothing] at needs
          cases needs
          exact ⟨_, rfl⟩

instance : Patient ReadToEnd where
  repeats := by
    intro machine answer memory exchange needs later
    rcases resume_needs needs with ⟨buffer, rfl⟩
    exact ⟨[.readResumed], rfl⟩

end ReadToEnd

namespace WriteAll

theorem repeats_of_left {machine : WriteAll} (left : machine.remaining ≠ 0) (buffer : Buffer) :
    Repeats machine ⟨.write, .request buffer⟩ :=
  fun _ => ⟨[.writeResumed], if_neg left⟩

/-- A machine that asks for more has something left. -/
theorem request_needs {machine : WriteAll} {memory : Memory} {exchange : Exchange}
    (needs : (machine.request memory).progress = .needs exchange) :
    (machine.request memory).machine.remaining ≠ 0 ∧
      ∃ buffer, exchange = ⟨.write, .request buffer⟩ := by
  by_cases done : machine.remaining = 0
  · rw [request, if_pos done] at needs
    cases needs
  · rw [request, if_neg done] at needs ⊢
    cases needs
    exact ⟨done, _, rfl⟩

theorem receive_needs {machine : WriteAll} {given exchange : Exchange} {memory : Memory}
    (needs : (machine.receive given memory).progress = .needs exchange) :
    (machine.receive given memory).machine.remaining ≠ 0 ∧
      ∃ buffer, exchange = ⟨.write, .request buffer⟩ := by
  by_cases done : machine.remaining = 0
  · rw [receive, if_pos done] at needs
    cases needs
  · rw [receive, if_neg done] at needs ⊢
    rcases given with ⟨direction, payload⟩
    cases direction with
    | read => cases needs
    | write =>
      cases payload with
      | request buffer =>
        cases needs
        exact ⟨done, buffer, rfl⟩
      | response output =>
        by_cases nothing : output.count = 0
        · simp only [Write.receive, if_pos nothing] at needs
          cases needs
        · simp only [Write.receive, if_neg nothing] at needs ⊢
          exact request_needs needs

instance : Patient WriteAll where
  repeats := by
    intro machine answer memory exchange needs
    cases answer with
    | none =>
      rcases request_needs needs with ⟨left, buffer, rfl⟩
      exact repeats_of_left left buffer
    | some given =>
      rcases receive_needs needs with ⟨left, buffer, rfl⟩
      exact repeats_of_left left buffer

end WriteAll

/-! ## Machines of any kind -/

theorem Progress.needs_of_map {First Second : Type} {change : First -> Second}
    {progress : Progress First} {exchange : Exchange}
    (needs : progress.map change = .needs exchange) : progress = .needs exchange := by
  cases progress with
  | needs other =>
    cases needs
    rfl
  | finished value => cases needs
  | endOfStream => cases needs
  | failed error => cases needs
  | raised fault => cases needs

section

variable {Kind Other Value Result : Type} [Resumable Kind Value] [Resumable Other Result]

/-- A machine seen as another repeats what it repeats as itself. -/
theorem Repeats.map {seen : Kind -> Other} {value : Value -> Result}
    (same : ∀ machine answer memory,
      Resumable.resume (seen machine) answer memory =
        (Resumable.resume machine answer memory).map seen value)
    {machine : Kind} {exchange : Exchange} (repeats : Repeats machine exchange) :
    Repeats (seen machine) exchange := by
  intro memory
  rcases repeats memory with ⟨events, resumed⟩
  refine ⟨events, ?_⟩
  rw [same, resumed]
  rfl

theorem repeats_of_map [Patient Kind] {seen : Kind -> Other} {value : Value -> Result}
    (same : ∀ machine answer memory,
      Resumable.resume (seen machine) answer memory =
        (Resumable.resume machine answer memory).map seen value)
    (machine : Kind) (answer : Option Exchange) (memory : Memory) (exchange : Exchange)
    (needs : (Resumable.resume (seen machine) answer memory).progress = .needs exchange) :
    Repeats (Resumable.resume (seen machine) answer memory).machine exchange := by
  rw [same] at needs ⊢
  have repeats := Patient.repeats machine answer memory exchange (Progress.needs_of_map needs)
  exact repeats.map same

end

instance : Patient Machine where
  repeats := by
    intro machine
    cases machine with
    | read machine => exact repeats_of_map (fun _ _ _ => rfl) machine
    | write machine => exact repeats_of_map (fun _ _ _ => rfl) machine
    | readExact machine => exact repeats_of_map (fun _ _ _ => rfl) machine
    | readToEnd machine => exact repeats_of_map (fun _ _ _ => rfl) machine
    | writeAll machine => exact repeats_of_map (fun _ _ _ => rfl) machine

end ResumableStreams
