import Mathlib.Data.List.Forall2
import ResumableStreams.Proofs.Holding
import ResumableStreams.Proofs.Patience
import ResumableStreams.Proofs.Persistence
import ResumableStreams.Proofs.Shortening

namespace ResumableStreams

/-!
# Calls that are refused

A machine that is resumed with an exchange for the other direction refuses it,
unless it has reached its target and does not look at its answer.  A refusal is
reported, and the question is whether it leaves a trace in what the machine says
later.  For four of the machines there is nothing to ask, since a refusal does
not change them.

A `ReadExact` shortens the buffer in hand to what is missing before it looks at
the answer, and a refusal comes after that.  The next call that finds something
missing would have shortened the buffer as much, or more, if nothing had been
refused; from then on there is no difference.  The exception is a machine whose
target is reached by seeds in between.  It hands over what it has, misses its
whole target again, and still has the buffer that was shortened for less.  Its
requests are then for fewer bytes at a time, and this is all that a refusal can
ever change.
-/

/-! ## What is refused, and how -/

namespace Machine

/-- The machine has reached its target, and does not look at an answer. -/
def Met : Machine -> Prop
  | .readExact machine => machine.Complete
  | .writeAll machine => machine.remaining = 0
  | .read _ | .write _ | .readToEnd _ => False

instance : (machine : Machine) -> Decidable machine.Met
  | .readExact machine => inferInstanceAs (Decidable machine.Complete)
  | .writeAll machine => inferInstanceAs (Decidable (machine.remaining = 0))
  | .read _ | .write _ | .readToEnd _ => inferInstanceAs (Decidable False)

/-- The exchange goes the other way, and the machine looks at it. -/
def Refuses (machine : Machine) (exchange : Exchange) : Prop :=
  ¬ machine.Met ∧ exchange.direction ≠ machine.direction

instance (machine : Machine) (exchange : Exchange) : Decidable (machine.Refuses exchange) :=
  inferInstanceAs (Decidable (_ ∧ _))

/-- Under which name the machine reports errors of an inner machine. -/
def composition : Machine -> Option Composition
  | .readExact _ => some .readExact
  | .readToEnd _ => some .readToEnd
  | .writeAll _ => some .writeAll
  | .read _ | .write _ => none

/-- What the machine says that it expects. -/
def expected : Machine -> String
  | .read _ | .readExact _ | .readToEnd _ => "read output"
  | .write _ | .writeAll _ => "write output"

/-- What the machine reports when it refuses an exchange, where this is the
memory at the time. -/
def refusal (machine : Machine) (exchange : Exchange) (memory : Memory) : StreamError :=
  let error := .invalidArgument machine.expected exchange (exchange.describe memory)
  match machine.composition with
  | none => error
  | some outer => .wrap outer error

/-- Wrapped or not, the report says what was expected and what came. -/
theorem message_refusal (machine : Machine) (exchange : Exchange) (memory : Memory) :
    (machine.refusal exchange memory).message =
      s!"Invalid argument: expected {machine.expected}, got {exchange.describe memory}" := by
  cases machine <;> rfl

/-- The number of bytes that a machine which reads exactly so many misses. -/
def missing : Machine -> Nat
  | .readExact machine => machine.remaining
  | _ => 0

/-- The machine has a longer buffer than it needs, and will shorten it. -/
def Oversized : Machine -> Prop
  | .readExact machine => machine.remaining < machine.read.capacity
  | _ => False

instance : (machine : Machine) -> Decidable machine.Oversized
  | .readExact machine => inferInstanceAs (Decidable (machine.remaining < machine.read.capacity))
  | .read _ | .write _ | .readToEnd _ | .writeAll _ => inferInstanceAs (Decidable False)

end Machine

/-! ## What the holder of a machine does -/

/-- What may be done with a machine, or with a buffer that someone holds. -/
inductive Move where
  | extend (seed : Bytes)
  | resume (answer : Option Exchange)
  /-- Put a byte into a buffer, which keeps its length. -/
  | poke (cell : Cell) (index : Nat) (byte : UInt8)

/-- A machine and the memory around it. -/
structure Situation where
  machine : Machine
  memory : Memory

namespace Situation

/-- The step that a call of the machine makes. -/
def step (situation : Situation) (answer : Option Exchange) : Step Machine Value :=
  situation.machine.resume answer situation.memory

def after (situation : Situation) : Move -> Situation
  | .extend seed => ⟨situation.machine.seeded seed, situation.memory⟩
  | .resume answer => ⟨(situation.step answer).machine, (situation.step answer).memory⟩
  | .poke cell index byte =>
    ⟨situation.machine,
      situation.memory.store cell ((situation.memory.contents cell).set index byte)⟩

/-- What the machine says to a move, and how it looks. -/
def said (situation : Situation) : Move -> Option (Progress Value × Progress Value)
  | .resume answer =>
    let step := situation.step answer
    some (step.progress, step.progress.snapshot step.memory)
  | .extend _ | .poke _ _ _ => none

/-- The move is a call that the machine refuses. -/
def Refuses (situation : Situation) : Move -> Prop
  | .resume (some exchange) => situation.machine.Refuses exchange
  | _ => False

instance (situation : Situation) : (move : Move) -> Decidable (situation.Refuses move)
  | .resume (some exchange) => inferInstanceAs (Decidable (situation.machine.Refuses exchange))
  | .resume none | .extend _ | .poke _ _ _ => inferInstanceAs (Decidable False)

end Situation

namespace Move

/-- The move is a call of the machine. -/
def isCall : Move -> Bool
  | .resume _ => true
  | .extend _ | .poke _ _ _ => false

/-- Everything that the machine says in the course of the moves. -/
def said : List Move -> Situation -> List (Progress Value × Progress Value)
  | [], _ => []
  | move :: moves, situation =>
    (situation.said move).toList ++ said moves (situation.after move)

/-- Everything that the machine says but for refusals. -/
def saidElse : List Move -> Situation -> List (Progress Value × Progress Value)
  | [], _ => []
  | move :: moves, situation =>
    if situation.Refuses move then saidElse moves (situation.after move)
    else (situation.said move).toList ++ saidElse moves (situation.after move)

/-- The moves without the calls that are refused. -/
def purged : List Move -> Situation -> List Move
  | [], _ => []
  | move :: moves, situation =>
    if situation.Refuses move then purged moves (situation.after move)
    else move :: purged moves (situation.after move)

/-- Where a refusal has shortened the buffer of a machine, the next call that is
not refused finds the machine still missing something.  The first argument says
whether a buffer has been shortened and there has been no such call yet. -/
def Smooth : Bool -> List Move -> Situation -> Prop
  | _, [], _ => True
  | short, move :: moves, situation =>
    if situation.Refuses move then
      Smooth (short || situation.machine.Oversized) moves (situation.after move)
    else if move.isCall = true then
      (short = true -> ¬ situation.machine.Met) ∧ Smooth false moves (situation.after move)
    else Smooth short moves (situation.after move)

instance decidableSmooth :
    (short : Bool) -> (moves : List Move) -> (situation : Situation) ->
      Decidable (Smooth short moves situation)
  | _, [], _ => inferInstanceAs (Decidable True)
  | short, move :: moves, situation =>
    have := decidableSmooth (short || situation.machine.Oversized) moves
      (situation.after move)
    have := decidableSmooth false moves (situation.after move)
    have := decidableSmooth short moves (situation.after move)
    inferInstanceAs (Decidable
      (if situation.Refuses move then
        Smooth (short || situation.machine.Oversized) moves (situation.after move)
      else if move.isCall = true then
        (short = true -> ¬ situation.machine.Met) ∧ Smooth false moves (situation.after move)
      else Smooth short moves (situation.after move)))

end Move

/-! ## Shortening the buffer of a machine -/

namespace Situation

/-- The same machine with its buffer shortened, if it is one that reads exactly
so many bytes. -/
def cut (situation : Situation) (length : Nat) : Situation :=
  match situation.machine with
  | .readExact machine =>
    ⟨.readExact (machine.cut length situation.memory).1, (machine.cut length situation.memory).2⟩
  | _ => situation

theorem cut_readExact (machine : ReadExact) (memory : Memory) (length : Nat) :
    cut ⟨.readExact machine, memory⟩ length =
      ⟨.readExact (machine.cut length memory).1, (machine.cut length memory).2⟩ := rfl

theorem missing_cut (situation : Situation) (length : Nat) :
    (situation.cut length).machine.missing = situation.machine.missing := by
  rcases situation with ⟨machine, memory⟩
  cases machine <;> rfl

theorem met_cut (situation : Situation) (length : Nat) :
    (situation.cut length).machine.Met ↔ situation.machine.Met := by
  rcases situation with ⟨machine, memory⟩
  cases machine <;> rfl

/-- Of two lengths the smaller counts if it comes last. -/
theorem cut_cut (situation : Situation) {length longer : Nat} (le : length ≤ longer) :
    (situation.cut longer).cut length = situation.cut length := by
  rcases situation with ⟨machine, memory⟩
  cases machine with
  | readExact machine =>
    have same := machine.read.truncate_truncate le memory
    simp only [cut_readExact, ReadExact.cut, same]
  | _ => rfl

/-- A buffer that is no longer than what is missing is not shortened. -/
theorem cut_of_not_oversized {situation : Situation} (fits : ¬ situation.machine.Oversized) :
    situation.cut situation.machine.missing = situation := by
  rcases situation with ⟨machine, memory⟩
  cases machine with
  | readExact machine =>
    have long : machine.read.capacity ≤ machine.remaining := Nat.le_of_not_lt fits
    show cut ⟨.readExact machine, memory⟩ machine.remaining = _
    rw [cut_readExact, ReadExact.cut, Read.truncate_of_le long]
  | _ => rfl

/-- A machine that misses something does the same with its buffer shortened, but
not below what is missing. -/
theorem step_cut {situation : Situation} (unmet : ¬ situation.machine.Met) {length : Nat}
    (enough : situation.machine.missing ≤ length) (answer : Option Exchange) :
    (situation.cut length).step answer = situation.step answer := by
  rcases situation with ⟨machine, memory⟩
  cases machine with
  | readExact machine =>
    have same := ReadExact.resume_cut unmet enough answer memory
    exact congrArg (Step.map Machine.readExact Value.bytes) same
  | _ => rfl

/-- Seeds make what is missing less, and the buffer does not matter to them. -/
theorem after_extend_cut (situation : Situation) (length : Nat) (seed : Bytes) :
    (situation.cut length).after (.extend seed) = (situation.after (.extend seed)).cut length ∧
      (situation.after (.extend seed)).machine.missing ≤ situation.machine.missing := by
  rcases situation with ⟨machine, memory⟩
  cases machine with
  | readExact machine =>
    refine ⟨rfl, ?_⟩
    show machine.target - (machine.collected.size + seed.length) ≤
      machine.target - machine.collected.size
    omega
  | _ => exact ⟨rfl, Nat.le_refl _⟩

theorem after_poke_cut (situation : Situation) (length : Nat) (cell : Cell) (index : Nat)
    (byte : UInt8) :
    (situation.cut length).after (.poke cell index byte) =
      (situation.after (.poke cell index byte)).cut length := by
  rcases situation with ⟨machine, memory⟩
  cases machine with
  | readExact machine =>
    have change := machine.read.truncate_store_set length memory cell index byte
    simp only [after, cut_readExact, ReadExact.cut, change]
  | _ => rfl

/-- A machine remains of its kind. -/
theorem others_after {situation : Situation}
    (others : ∀ exact, situation.machine ≠ .readExact exact) (move : Move) :
    ∀ exact, (situation.after move).machine ≠ .readExact exact := by
  rcases situation with ⟨machine, memory⟩
  cases machine with
  | readExact exact => exact absurd rfl (others exact)
  | _ => cases move <;> exact nofun

end Situation

/-- A refusal is reported as it should be, and does nothing but shorten the
buffer of a machine that reads exactly so many bytes to what is missing. -/
theorem Machine.resume_refused {machine : Machine} {exchange : Exchange}
    (refuses : machine.Refuses exchange) (memory : Memory) :
    let after := Situation.cut ⟨machine, memory⟩ machine.missing
    ∃ events, machine.resume (some exchange) memory =
      ⟨.failed (machine.refusal exchange after.memory), after.machine, after.memory, events⟩ := by
  rcases exchange with ⟨direction, payload⟩
  rcases refuses with ⟨unmet, other⟩
  cases machine with
  | read machine =>
    cases direction with
    | read => exact absurd rfl other
    | write => exact ⟨_, rfl⟩
  | write machine =>
    cases direction with
    | read => exact ⟨_, rfl⟩
    | write => exact absurd rfl other
  | readToEnd machine =>
    cases direction with
    | read => exact absurd rfl other
    | write => exact ⟨_, rfl⟩
  | readExact machine =>
    cases direction with
    | read => exact absurd rfl other
    | write =>
      rcases ReadExact.resume_refused unmet payload memory with ⟨events, refused⟩
      exact ⟨events, congrArg (Step.map Machine.readExact Value.bytes) refused⟩
  | writeAll machine =>
    cases direction with
    | read =>
      refine ⟨[.writeResumed], ?_⟩
      show (machine.receive ⟨.read, payload⟩ memory).map Machine.writeAll Value.count = _
      have left : machine.remaining ≠ 0 := unmet
      rw [WriteAll.receive, if_neg left]
      rfl
    | write => exact absurd rfl other

theorem Situation.after_refused {situation : Situation} {move : Move}
    (refuses : situation.Refuses move) :
    situation.after move = situation.cut situation.machine.missing := by
  cases move with
  | extend seed => exact refuses.elim
  | poke cell index byte => exact refuses.elim
  | resume answer =>
    cases answer with
    | none => exact refuses.elim
    | some exchange =>
      rcases Machine.resume_refused refuses situation.memory with ⟨events, refused⟩
      simp only [after, step, refused]

/-! ## Two runs that cannot be told apart -/

/-- How a situation in which calls have been refused lags behind one in which
they have not been made: not at all, or its buffer is shorter, but not shorter
than what is missing. -/
inductive Situation.Lags (situation other : Situation) : (short : Bool) -> Prop where
  | level : situation = other -> Lags situation other false
  | shortened (length : Nat) : other.machine.missing ≤ length -> situation = other.cut length ->
      Lags situation other true

namespace Situation.Lags

variable {situation other : Situation} {short : Bool}

/-- A refusal leaves a machine at most as far behind as it will be when it next
asks for something. -/
theorem refused (lags : situation.Lags other short) {move : Move}
    (refuses : situation.Refuses move) :
    (situation.after move).Lags other (short || situation.machine.Oversized) := by
  rw [after_refused refuses]
  cases lags with
  | level same =>
    subst same
    by_cases oversized : situation.machine.Oversized
    · rw [Bool.false_or, decide_eq_true oversized]
      exact .shortened _ (Nat.le_refl _) rfl
    · rw [Bool.false_or, decide_eq_false oversized]
      exact .level (cut_of_not_oversized oversized)
  | shortened length enough same =>
    rw [Bool.true_or, same, missing_cut, cut_cut _ enough]
    exact .shortened _ (Nat.le_refl _) rfl

theorem extend (lags : situation.Lags other short) (seed : Bytes) :
    (situation.after (.extend seed)).Lags (other.after (.extend seed)) short := by
  cases lags with
  | level same => exact .level (congrArg (Situation.after · _) same)
  | shortened length enough same =>
    rcases other.after_extend_cut length seed with ⟨extended, fewer⟩
    exact .shortened length (Nat.le_trans fewer enough) (same ▸ extended)

theorem poke (lags : situation.Lags other short) (cell : Cell) (index : Nat) (byte : UInt8) :
    (situation.after (.poke cell index byte)).Lags (other.after (.poke cell index byte)) short := by
  cases lags with
  | level same => exact .level (congrArg (Situation.after · _) same)
  | shortened length enough same =>
    exact .shortened length enough (same ▸ other.after_poke_cut length cell index byte)

/-- A call that finds something missing, or finds the machine level, does the
same in both situations, which are then the same. -/
theorem step_eq (lags : situation.Lags other short)
    (smooth : short = true -> ¬ situation.machine.Met) (answer : Option Exchange) :
    situation.step answer = other.step answer := by
  cases lags with
  | level same => rw [same]
  | shortened length enough same =>
    have unmet := smooth rfl
    rw [same, met_cut] at unmet
    rw [same, step_cut unmet enough]

end Situation.Lags

namespace Move

/-- The machine says the same in two runs of which one lags behind the other,
with calls that are refused, and the other has none of these calls. -/
theorem said_purged {short : Bool} {moves : List Move} {situation other : Situation}
    (lags : situation.Lags other short) (smooth : Smooth short moves situation) :
    said (purged moves situation) other = saidElse moves situation := by
  induction moves generalizing short situation other with
  | nil => rfl
  | cons move moves inductionHypothesis =>
    by_cases refuses : situation.Refuses move
    · rw [Smooth, if_pos refuses] at smooth
      rw [purged, saidElse, if_pos refuses, if_pos refuses]
      exact inductionHypothesis (lags.refused refuses) smooth
    · rw [Smooth, if_neg refuses] at smooth
      rw [purged, saidElse, if_neg refuses, if_neg refuses, said]
      cases move with
      | extend seed =>
        rw [inductionHypothesis (lags.extend seed) smooth]
        rfl
      | poke cell index byte =>
        rw [inductionHypothesis (lags.poke cell index byte) smooth]
        rfl
      | resume answer =>
        have same := lags.step_eq smooth.1 answer
        have level : (situation.after (.resume answer)).Lags (other.after (.resume answer)) false :=
          .level (by simp only [Situation.after, same])
        rw [inductionHypothesis level smooth.2]
        simp only [Situation.said, same]

/-- Only a machine that reads exactly so many bytes can fail to be smooth. -/
theorem smooth_of_other (moves : List Move) {situation : Situation}
    (others : ∀ exact, situation.machine ≠ .readExact exact) : Smooth false moves situation := by
  induction moves generalizing situation with
  | nil => trivial
  | cons move moves inductionHypothesis =>
    have fits : ¬ situation.machine.Oversized := by
      intro oversized
      rcases situation with ⟨machine, memory⟩
      cases machine with
      | readExact exact => exact others exact rfl
      | _ => exact oversized
    have later := inductionHypothesis (situation.others_after others move)
    rw [Smooth]
    split
    · rw [Bool.false_or, decide_eq_false fits]
      exact later
    · split
      · exact ⟨nofun, later⟩
      · exact later

end Move

/-! ## Two runs of which one asks for less -/

/-- How a progress looks where another looks like this: the same, except that a
request may be for fewer bytes. -/
inductive Progress.Abridges : Progress Value -> Progress Value -> Prop where
  | same (look : Progress Value) : Abridges look look
  | request (direction : Direction) {bytes longer : Bytes} : bytes <+: longer ->
      Abridges (.needs ⟨direction, .request (.frozen bytes)⟩)
        (.needs ⟨direction, .request (.frozen longer)⟩)

/-- All that a machine which reads exactly so many bytes hands out is a request
to read. -/
theorem ReadExact.resume_needs {machine : ReadExact} {answer : Option Exchange} {memory : Memory}
    {exchange : Exchange} (needs : (machine.resume answer memory).progress = .needs exchange) :
    ∃ buffer, exchange = ⟨.read, .request buffer⟩ := by
  cases answer with
  | none => exact (request_needs needs).2
  | some given => exact (receive_needs needs).2

/-- What comes to the same looks the same, but for the length of a request. -/
theorem ReadExact.StaysBehind.abridges {step other : Step ReadExact Bytes}
    (stays : StaysBehind step other)
    (requests : ∀ exchange, step.progress = .needs exchange ->
      ∃ buffer, exchange = ⟨.read, .request buffer⟩) :
    ((step.progress.map Value.bytes).snapshot step.memory).Abridges
      ((other.progress.map Value.bytes).snapshot other.memory) := by
  have memories := stays.behind.read.memories
  rw [← stays.progress]
  cases came : step.progress with
  | finished value => exact .same _
  | endOfStream => exact .same _
  | failed error => exact .same _
  | raised fault => exact .same _
  | needs exchange =>
    rcases requests exchange came with ⟨buffer, rfl⟩
    cases buffer with
    | frozen bytes => exact .same _
    | shared cell => exact .request .read (memories.contents cell)

namespace Situation

/-- A response that is passed to read is about bytes that its buffer holds. -/
def Allows (situation : Situation) : Move -> Prop
  | .resume (some ⟨.read, .response output⟩) => output.count ≤ output.buffer.size situation.memory
  | _ => True

/-- Two machines that read exactly so many bytes, of which the first has less
room in its buffer. -/
inductive Behind : Situation -> Situation -> Prop where
  | intro {machine other : ReadExact} {memory memory' : Memory} :
      machine.Behind memory other memory' ->
      Behind ⟨.readExact machine, memory⟩ ⟨.readExact other, memory'⟩

namespace Behind

variable {situation other : Situation}

/-- A call that is refused leaves the first still further behind, or as it
was. -/
theorem refused (behind : situation.Behind other) {move : Move}
    (refuses : situation.Refuses move) : (situation.after move).Behind other := by
  rw [after_refused refuses]
  rcases behind with ⟨behind⟩
  exact ⟨behind.target, behind.collected, behind.read.truncate_left _⟩

theorem extend (behind : situation.Behind other) (seed : Bytes) :
    (situation.after (.extend seed)).Behind (other.after (.extend seed)) := by
  rcases behind with ⟨behind⟩
  exact ⟨behind.target, congrArg (Collected.append · seed) behind.collected, behind.read⟩

theorem poke (behind : situation.Behind other) (cell : Cell) (index : Nat) (byte : UInt8) :
    (situation.after (.poke cell index byte)).Behind (other.after (.poke cell index byte)) := by
  rcases behind with @⟨machine, other, memory, memory', behind⟩
  have start : (memory.contents cell).set index byte <+:
      (memory'.contents cell).set index byte := by
    have start := List.prefix_iff_eq_take.mp (behind.read.memories.contents cell)
    rw [List.prefix_iff_eq_take, List.length_set, List.take_set, ← start]
  refine ⟨behind.target, behind.collected, behind.read.slot, behind.read.capacity,
    behind.read.memories.store cell start, ?_⟩
  intro inHand held
  by_cases same : inHand = cell
  · subst same
    rw [Memory.contents_store_set, List.length_set]
    exact behind.read.inHand inHand held
  · rw [Memory.contents_store_of_ne same]
    exact behind.read.inHand inHand held

/-- A call that is not refused leaves the first behind, and comes to the same
but for the length of a request. -/
theorem resume (behind : situation.Behind other) {answer : Option Exchange}
    (accepted : ¬ situation.Refuses (.resume answer))
    (allowed : situation.Allows (.resume answer)) :
    (situation.after (.resume answer)).Behind (other.after (.resume answer)) ∧
      (situation.step answer).progress = (other.step answer).progress ∧
      ((situation.step answer).progress.snapshot (situation.step answer).memory).Abridges
        ((other.step answer).progress.snapshot (other.step answer).memory) := by
  rcases behind with @⟨machine, other, memory, memory', behind⟩
  have reads : ∀ exchange, answer = some exchange -> ¬ machine.Complete ->
      exchange.direction = .read := by
    rintro ⟨direction, payload⟩ rfl incomplete
    cases direction with
    | read => rfl
    | write => exact absurd ⟨incomplete, nofun⟩ accepted
  have within : ∀ output, answer = some ⟨.read, .response output⟩ ->
      output.count ≤ output.buffer.size memory := by
    rintro output rfl
    exact allowed
  have stays := behind.resume reads within
  exact ⟨⟨stays.behind⟩, congrArg (Progress.map Value.bytes) stays.progress,
    stays.abridges fun exchange => ReadExact.resume_needs⟩

end Behind

end Situation

namespace Move

/-- Every response that is passed to read is about bytes that its buffer holds. -/
def Allowed : List Move -> Situation -> Prop
  | [], _ => True
  | move :: moves, situation => situation.Allows move ∧ Allowed moves (situation.after move)

/-- The same is said, but a request may be for fewer bytes. -/
def Abridges (first second : Progress Value × Progress Value) : Prop :=
  first.1 = second.1 ∧ first.2.Abridges second.2

/-- In a run with calls that are refused, requests may be for fewer bytes than
without these calls, and nothing else that is said is different. -/
theorem abridges_purged {moves : List Move} {situation other : Situation}
    (behind : situation.Behind other) (allowed : Allowed moves situation) :
    List.Forall₂ Abridges (saidElse moves situation) (said (purged moves situation) other) := by
  induction moves generalizing situation other with
  | nil => exact .nil
  | cons move moves inductionHypothesis =>
    rcases allowed with ⟨now, later⟩
    by_cases refuses : situation.Refuses move
    · rw [purged, saidElse, if_pos refuses, if_pos refuses]
      exact inductionHypothesis (behind.refused refuses) later
    · rw [purged, saidElse, if_neg refuses, if_neg refuses, said]
      cases move with
      | extend seed => exact inductionHypothesis (behind.extend seed) later
      | poke cell index byte => exact inductionHypothesis (behind.poke cell index byte) later
      | resume answer =>
        rcases behind.resume refuses now with ⟨stays, progress, look⟩
        exact .cons ⟨progress, look⟩ (inductionHypothesis stays later)

end Move

/-! ## All runs -/

/-- Each machine that has not reached its target refuses every exchange for the
other direction.  It reports what it expected and what came, under its own name
if it is built from another machine.

Whatever is done with a machine, the calls that it refuses can be left out, and
it says the same to all other calls, with the same bytes in its requests.  Only a
machine that reads exactly so many bytes is not always so, and only if seeds
bring it to its target after a refusal has shortened its buffer, and no call
comes between the refusal and the last of these seeds.  It says the same
even then, except that the requests it makes may be for fewer bytes. -/
theorem refusals_leave_no_trace :
    (∀ (machine : Machine) (exchange : Exchange) (memory : Memory), machine.Refuses exchange ->
      let step := machine.resume (some exchange) memory
      step.progress = .failed (machine.refusal exchange step.memory) ∧
        (machine.refusal exchange step.memory).message =
          s!"Invalid argument: expected {machine.expected}, got {exchange.describe step.memory}") ∧
    (∀ (moves : List Move) (situation : Situation), Move.Smooth false moves situation ->
      Move.said (Move.purged moves situation) situation = Move.saidElse moves situation) ∧
    (∀ (moves : List Move) (situation : Situation),
      (∀ exact, situation.machine ≠ .readExact exact) -> Move.Smooth false moves situation) ∧
    ∀ (target capacity : Int) (memory : Memory) (machine : ReadExact) (moves : List Move),
      (ReadExact.make target capacity memory).result = .ok machine ->
      let situation := ⟨.readExact machine, (ReadExact.make target capacity memory).memory⟩
      Move.Allowed moves situation ->
      List.Forall₂ Move.Abridges (Move.saidElse moves situation)
        (Move.said (Move.purged moves situation) situation) := by
  refine ⟨?_, ?_, ?_, ?_⟩
  · intro machine exchange memory refuses
    rcases Machine.resume_refused refuses memory with ⟨events, refused⟩
    simp only [refused]
    exact ⟨trivial, machine.message_refusal exchange _⟩
  · intro moves situation smooth
    exact Move.said_purged (.level rfl) smooth
  · intro moves situation others
    exact Move.smooth_of_other moves others
  · intro target capacity memory machine moves built situation allowed
    have ready := ReadExact.ready_make built
    have level : situation.Behind situation := by
      refine ⟨rfl, rfl, rfl, Nat.le_refl _, .refl _, ?_⟩
      intro cell inHand
      have zeros := congrArg List.length (ready.armed cell inHand).2
      exact Nat.le_of_eq (zeros.trans (Bytes.length_zeros _))
    exact Move.abridges_purged level allowed

/-- A machine that misses three bytes of four refuses a write, and then takes the
three bytes as if nothing had been.  Where the fourth is seeded after three have
been, it is not the same, but the machine still hands the four bytes over. -/
theorem refusals_leave_no_trace_of_two :
    let built := ReadExact.create 4 4 .empty
    let situation : Situation := ⟨.readExact built.1, built.2⟩
    let refused : Exchange := ⟨.write, .request (.frozen [])⟩
    let smooth : List Move :=
      [.extend [97], .resume none, .resume (some refused), .poke ⟨0⟩ 0 98,
        .resume (some ⟨.read, .response ⟨.shared ⟨0⟩, 3⟩⟩)]
    let rough : List Move :=
      [.extend [97, 98, 99], .resume (some refused), .extend [100], .resume none]
    (situation.step (some refused)).progress =
        .failed (situation.machine.refusal refused (situation.step (some refused)).memory) ∧
      Move.said (Move.purged smooth situation) situation = Move.saidElse smooth situation ∧
      List.Forall₂ Move.Abridges (Move.saidElse rough situation)
        (Move.said (Move.purged rough situation) situation) := by
  intro built situation refused smooth rough
  have refuses : situation.machine.Refuses refused := by decide
  have evenly : Move.Smooth false smooth situation := by decide
  have allowed : Move.Allowed rough situation := ⟨trivial, trivial, trivial, trivial, trivial⟩
  exact ⟨(refusals_leave_no_trace.1 situation.machine refused situation.memory refuses).1,
    refusals_leave_no_trace.2.1 smooth situation evenly,
    refusals_leave_no_trace.2.2.2 4 4 .empty built.1 rough rfl allowed⟩

/-- Three bytes of four are seeded, a write is refused, and the fourth byte is
seeded.  After it has handed the four bytes over, the machine asks for a single
byte, where it would have asked for four. -/
theorem refusal_leaves_shorter_request :
    let built := ReadExact.create 4 4 .empty
    let situation : Situation := ⟨.readExact built.1, built.2⟩
    let moves : List Move :=
      [.extend [97, 98, 99], .resume (some ⟨.write, .request (.frozen [])⟩), .extend [100],
        .resume none, .resume none]
    (Move.saidElse moves situation).map Prod.snd =
        [.finished (.bytes [97, 98, 99, 100]), .needs ⟨.read, .request (.frozen [0])⟩] ∧
      (Move.said (Move.purged moves situation) situation).map Prod.snd =
        [.finished (.bytes [97, 98, 99, 100]),
          .needs ⟨.read, .request (.frozen [0, 0, 0, 0])⟩] :=
  ⟨rfl, rfl⟩

end ResumableStreams
