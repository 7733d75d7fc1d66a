import ResumableStreams.Proofs.Driving
import ResumableStreams.Proofs.Separation

namespace ResumableStreams

/-!
# The names of buffers do not matter

What a machine does depends on what its buffers hold and not on where they
are.  Two machines that are equal but for the names of their cells, in two
memories in which these cells hold the same, take equal steps in this sense,
and so do two runtimes on equal streams.

Only an exchange for the wrong direction is left out.  The error about it
carries the exchange itself, name and all.
-/

/-! ## Equal but for names -/

/-- Both cells exist and hold the same, each in its own memory. -/
structure Cell.Matches (first second : Memory) (cell other : Cell) : Prop where
  left : first.Holds cell
  right : second.Holds other
  same : first.contents cell = second.contents other

inductive Buffer.Matches (first second : Memory) : Buffer -> Buffer -> Prop where
  | frozen (bytes : Bytes) : Matches first second (.frozen bytes) (.frozen bytes)
  | shared {cell other : Cell} : Cell.Matches first second cell other ->
      Matches first second (.shared cell) (.shared other)

inductive Exchange.Matches (first second : Memory) : Exchange -> Exchange -> Prop where
  | request (direction : Direction) {buffer other : Buffer} :
      Buffer.Matches first second buffer other ->
      Matches first second ⟨direction, .request buffer⟩ ⟨direction, .request other⟩
  | response (direction : Direction) (count : Nat) {buffer other : Buffer} :
      Buffer.Matches first second buffer other ->
      Matches first second ⟨direction, .response ⟨buffer, count⟩⟩
        ⟨direction, .response ⟨other, count⟩⟩

/-- A memory that agrees with `first` on these cells. -/
def Memory.Retains (first after : Memory) (cells : List Cell) : Prop :=
  ∀ cell ∈ cells, first.Holds cell -> after.Holds cell ∧ after.contents cell = first.contents cell

section

variable {first second after : Memory}

theorem Cell.Matches.store {cell other : Cell} (same : cell.Matches first second other)
    (bytes : Bytes) :
    cell.Matches (first.store cell bytes) (second.store other bytes) other where
  left := (first.holds_store_iff cell cell bytes).mpr same.left
  right := (second.holds_store_iff other other bytes).mpr same.right
  same := by
    rw [Memory.contents_store_self same.left, Memory.contents_store_self same.right]

theorem Memory.matches_allocate (first second : Memory) (bytes : Bytes) :
    (first.allocate bytes).1.Matches (first.allocate bytes).2 (second.allocate bytes).2
      (second.allocate bytes).1 where
  left := first.holds_allocate_new bytes
  right := second.holds_allocate_new bytes
  same := by rw [contents_allocate_new, contents_allocate_new]

namespace Buffer.Matches

variable {buffer other : Buffer}

theorem bytes_eq (same : buffer.Matches first second other) :
    buffer.bytes first = other.bytes second := by
  cases same with
  | frozen bytes => rfl
  | shared cells => exact cells.same

theorem size_eq (same : buffer.Matches first second other) :
    buffer.size first = other.size second :=
  congrArg List.length same.bytes_eq

theorem retained (same : buffer.Matches first second other)
    (retains : first.Retains after buffer.cells) : buffer.Matches after second other := by
  cases same with
  | frozen bytes => exact .frozen bytes
  | @shared cell _ cells =>
    rcases retains cell List.mem_cons_self cells.left with ⟨held, kept⟩
    exact .shared ⟨held, cells.right, kept.trans cells.same⟩

/-- What is in no cell is the same in all memories. -/
theorem anywhere (same : buffer.Matches first second other) (none_used : buffer.cells = [])
    (first' second' : Memory) : buffer.Matches first' second' other := by
  cases same with
  | frozen bytes => exact .frozen bytes
  | shared cells => cases none_used

theorem rest (same : buffer.Matches first second other) (count : Nat) :
    (buffer.rest count first).1.Matches (buffer.rest count first).2 (other.rest count second).2
      (other.rest count second).1 := by
  cases same with
  | frozen bytes => exact .frozen _
  | shared cells =>
    simp only [Buffer.rest, cells.same]
    exact .shared (Memory.matches_allocate first second _)

end Buffer.Matches

namespace Exchange.Matches

variable {exchange other : Exchange}

theorem retained (same : exchange.Matches first second other)
    (retains : first.Retains after exchange.cells) : exchange.Matches after second other := by
  cases same with
  | request direction buffers => exact .request direction (buffers.retained retains)
  | response direction count buffers => exact .response direction count (buffers.retained retains)

end Exchange.Matches

end

/-! ## Equal steps -/

section

variable {Machine Value : Type}

inductive Progress.Matches (values : Value -> Value -> Prop) (first second : Memory) :
    Progress Value -> Progress Value -> Prop where
  | finished {value other : Value} : values value other ->
      Matches values first second (.finished value) (.finished other)
  | needs {exchange other : Exchange} : exchange.Matches first second other ->
      Matches values first second (.needs exchange) (.needs other)
  | endOfStream : Matches values first second .endOfStream .endOfStream
  | failed (error : StreamError) : Matches values first second (.failed error) (.failed error)
  | raised (fault : Fault) : Matches values first second (.raised fault) (.raised fault)

theorem Progress.Matches.reporting (values : Value -> Value -> Prop) (first second : Memory)
    (error : StreamError) :
    (Progress.reporting error).Matches values first second (Progress.reporting error) := by
  rw [Progress.reporting_eq_ite]
  split
  · exact .failed error
  · exact .raised _

/-- Two steps lead to machines and to progress that are equal but for names. -/
structure Step.Matches (machines : Memory -> Memory -> Machine -> Machine -> Prop)
    (values : Memory -> Memory -> Value -> Value -> Prop) (step other : Step Machine Value) :
    Prop where
  machine : machines step.memory other.memory step.machine other.machine
  progress : step.progress.Matches (values step.memory other.memory) step.memory other.memory
    other.progress

theorem Step.Matches.after {machines : Memory -> Memory -> Machine -> Machine -> Prop}
    {values : Memory -> Memory -> Value -> Value -> Prop} {step other : Step Machine Value}
    (same : step.Matches machines values other) (events events' : List Event) :
    (step.after events).Matches machines values (other.after events') :=
  ⟨same.machine, same.progress⟩

end

/-- The type of machines that do not look at the names of cells. -/
class Uniform (Machine : Type) {Value : outParam Type} [Resumable Machine Value]
    [Confining Machine] where
  Matches : Memory -> Memory -> Machine -> Machine -> Prop
  /-- Two results are equal but for names. -/
  Values : Memory -> Memory -> Value -> Value -> Prop
  retained : ∀ {first second after machine other}, Matches first second machine other ->
    first.Retains after (Confining.cells machine) -> Matches after second machine other
  anywhere : ∀ {first second machine other}, Matches first second machine other ->
    Confining.cells machine = [] -> ∀ first' second', Matches first' second' machine other
  resumed : ∀ {first second machine other answer given}, Matches first second machine other ->
    Option.Rel (Exchange.Matches first second) answer given ->
    (∀ exchange, answer = some exchange ->
      exchange.direction = Confining.direction machine ∧ Confining.cells machine = []) ->
    (Resumable.resume machine answer first).Matches Matches Values
      (Resumable.resume other given second)

/-! ## Reading -/

namespace Read

/-- The same capacity, and like buffers in hand. -/
structure Matches (first second : Memory) (read other : Read) : Prop where
  capacity : read.capacity = other.capacity
  slot : Option.Rel (Cell.Matches first second) read.slot other.slot

variable {first second : Memory} {read other : Read}

theorem Matches.truncate (same : Matches first second read other) (length : Int) :
    Matches (read.truncate length first).2 (other.truncate length second).2
      (read.truncate length first).1 (other.truncate length second).1 := by
  rcases read with ⟨capacity, slot⟩
  rcases other with ⟨_, _⟩
  rcases same with ⟨rfl, slots⟩
  unfold Read.truncate
  split
  · refine ⟨rfl, ?_⟩
    cases slots with
    | none => exact .none
    | some cells =>
      simp only [cells.same]
      exact .some (cells.store _)
  · exact ⟨rfl, slots⟩

theorem matches_replace (read other : Read) {buffer buffer' : Buffer}
    (same : buffer.Matches first second buffer') :
    Matches (read.replace buffer first).2 (other.replace buffer' second).2
      (read.replace buffer first).1 (other.replace buffer' second).1 := by
  refine ⟨?_, ?_⟩
  · rw [capacity_replace, capacity_replace, same.size_eq]
  · have zeros := congrArg Bytes.zeros same.size_eq
    cases same with
    | frozen bytes => exact .some (Memory.matches_allocate first second _)
    | shared cells =>
      simp only [replace, zeros]
      exact .some (cells.store _)

theorem Matches.request (same : Matches first second read other) :
    Matches (read.request first).2.2 (other.request second).2.2 (read.request first).2.1
        (other.request second).2.1 ∧
      (read.request first).1.Matches (read.request first).2.2 (other.request second).2.2
        (other.request second).1 := by
  rcases read with ⟨capacity, slot⟩
  rcases other with ⟨_, _⟩
  rcases same with ⟨rfl, slots⟩
  cases slots with
  | none => exact ⟨⟨rfl, .none⟩, .request .read (.shared (Memory.matches_allocate first second _))⟩
  | some cells => exact ⟨⟨rfl, .none⟩, .request .read (.shared cells)⟩

theorem Matches.retained {after : Memory} (same : Matches first second read other)
    (retains : first.Retains after read.cells) : Matches after second read other := by
  rcases read with ⟨capacity, slot⟩
  rcases other with ⟨_, _⟩
  rcases same with ⟨rfl, slots⟩
  refine ⟨rfl, ?_⟩
  cases slots with
  | none => exact .none
  | @some cell _ cells =>
    rcases retains cell List.mem_cons_self cells.left with ⟨held, kept⟩
    exact .some ⟨held, cells.right, kept.trans cells.same⟩

theorem Matches.anywhere (same : Matches first second read other) (lent : read.cells = [])
    (first' second' : Memory) : Matches first' second' read other := by
  rcases read with ⟨capacity, slot⟩
  rcases other with ⟨_, _⟩
  rcases same with ⟨rfl, slots⟩
  cases slots with
  | none => exact ⟨rfl, .none⟩
  | some cells => cases lent

/-- Results of a read are equal but for the name of the buffer. -/
def Values (first second : Memory) (output other : Output) : Prop :=
  output.count = other.count ∧ output.buffer.Matches first second other.buffer

theorem Matches.receive (same : Matches first second read other) {exchange given : Exchange}
    (given_same : exchange.Matches first second given) (goes : exchange.direction = .read) :
    (read.receive exchange first).Matches Matches Values (other.receive given second) := by
  cases given_same with
  | request direction buffers =>
    cases goes
    exact ⟨same, .needs (.request .read buffers)⟩
  | response direction count buffers =>
    cases goes
    by_cases nothing : count = 0
    · simp only [Read.receive, if_pos nothing]
      exact ⟨read.matches_replace other buffers, .endOfStream⟩
    · simp only [Read.receive, if_neg nothing]
      exact ⟨same, .finished ⟨rfl, buffers⟩⟩

instance : Uniform Read where
  Matches := Matches
  Values := Values
  retained := Matches.retained
  anywhere := Matches.anywhere
  resumed := by
    intro first second read other answer given same answers fits
    cases answers with
    | none => exact ⟨same.request.1, .needs same.request.2⟩
    | some exchanges => exact same.receive exchanges (fits _ rfl).1

end Read

namespace ReadExact

structure Matches (first second : Memory) (machine other : ReadExact) : Prop where
  target : machine.target = other.target
  read : Read.Matches first second machine.read other.read
  collected : machine.collected = other.collected

abbrev Alike (step other : Step ReadExact Bytes) : Prop :=
  step.Matches Matches (fun _ _ => Eq) other

variable {first second : Memory} {machine other : ReadExact}

theorem Matches.remaining_eq (same : Matches first second machine other) :
    machine.remaining = other.remaining := by
  unfold remaining
  rw [same.target, same.collected]

theorem Matches.complete_iff (same : Matches first second machine other) :
    machine.Complete ↔ other.Complete := by
  unfold Complete
  rw [same.target, same.collected]

theorem Matches.finish (same : Matches first second machine other) :
    Alike (machine.finish first) (other.finish second) :=
  ⟨⟨same.target, same.read, rfl⟩, .finished (congrArg Collected.bytes same.collected)⟩

theorem Matches.trimmed (same : Matches first second machine other) :
    Read.Matches (machine.trimmed first).2 (other.trimmed second).2 (machine.trimmed first).1
      (other.trimmed second).1 := by
  rw [trimmed_eq_truncate, trimmed_eq_truncate, same.remaining_eq]
  exact same.read.truncate _

theorem Matches.request (same : Matches first second machine other) :
    Alike (machine.request first) (other.request second) := by
  unfold ReadExact.request
  by_cases complete : machine.Complete
  · rw [if_pos complete, if_pos (same.complete_iff.mp complete)]
    exact same.finish
  · rw [if_neg complete, if_neg (mt same.complete_iff.mpr complete)]
    rcases same.trimmed.request with ⟨reads, exchanges⟩
    exact ⟨⟨same.target, reads, same.collected⟩, .needs exchanges⟩

theorem Matches.absorb (same : Matches first second machine other) {output output' : Output}
    (outputs : Read.Values first second output output') :
    Matches (machine.absorb output first).2 (other.absorb output' second).2
      (machine.absorb output first).1 (other.absorb output' second).1 := by
  rcases outputs with ⟨count, buffers⟩
  refine ⟨same.target, machine.read.matches_replace other.read buffers, ?_⟩
  show machine.collected.append (output.bytes first) = other.collected.append (output'.bytes second)
  rw [same.collected, Output.bytes, Output.bytes, buffers.bytes_eq, count]

theorem Matches.receive (same : Matches first second machine other) {exchange given : Exchange}
    (exchanges : exchange.Matches first second given) (goes : exchange.direction = .read)
    (lent : machine.read.slot = none) :
    Alike (machine.receive exchange first) (other.receive given second) := by
  rcases machine with ⟨target, read, collected⟩
  rcases other with ⟨_, read', _⟩
  rcases same with ⟨rfl, reads, rfl⟩
  have same : Matches first second ⟨target, read, collected⟩ ⟨target, read', collected⟩ :=
    ⟨rfl, reads, rfl⟩
  have lent' : read'.slot = none := by
    rcases read with ⟨_, _⟩
    rcases read' with ⟨_, _⟩
    cases lent
    cases reads.slot
    rfl
  unfold ReadExact.receive
  by_cases complete : Complete ⟨target, read, collected⟩
  · rw [if_pos complete, if_pos (same.complete_iff.mp complete)]
    exact same.finish
  · rw [if_neg complete, if_neg (mt same.complete_iff.mpr complete)]
    have trims := same.trimmed
    have unchanged := (@trimmed_of_lent ⟨target, read, collected⟩ lent first).1
    have unchanged' := (@trimmed_of_lent ⟨target, read', collected⟩ lent' second).1
    simp only [unchanged, unchanged'] at trims ⊢
    have inner := trims.receive exchanges goes
    cases stepped : (ReadExact.trimmed ⟨target, read, collected⟩ first).1.receive exchange first with
    | mk progress read between events =>
      cases stepped' : (ReadExact.trimmed ⟨target, read', collected⟩ second).1.receive given second with
      | mk progress' read' between' events' =>
        rw [stepped, stepped'] at inner
        rcases inner with ⟨reads, progresses⟩
        have machines : Matches between between' ⟨target, read, collected⟩
            ⟨target, read', collected⟩ := ⟨rfl, reads, rfl⟩
        cases progresses with
        | needs exchanges => exact ⟨machines, .needs exchanges⟩
        | failed error => exact ⟨machines, .failed _⟩
        | raised fault => exact ⟨machines, .raised _⟩
        | finished outputs => exact (machines.absorb outputs).request.after _ _
        | endOfStream => exact ⟨⟨rfl, reads, rfl⟩, .reporting _ _ _ _⟩

instance : Uniform ReadExact where
  Matches := Matches
  Values := fun _ _ => Eq
  retained same retains := ⟨same.target, same.read.retained retains, same.collected⟩
  anywhere same lent first second :=
    ⟨same.target, same.read.anywhere lent first second, same.collected⟩
  resumed := by
    intro first second machine other answer given same answers fits
    cases answers with
    | none => exact same.request
    | some exchanges =>
      rcases fits _ rfl with ⟨goes, lent⟩
      exact same.receive exchanges goes (Option.toList_eq_nil_iff.mp lent)

end ReadExact

namespace ReadToEnd

structure Matches (first second : Memory) (machine other : ReadToEnd) : Prop where
  read : Read.Matches first second machine.read other.read
  collected : machine.collected = other.collected

abbrev Alike (step other : Step ReadToEnd Bytes) : Prop :=
  step.Matches Matches (fun _ _ => Eq) other

variable {first second : Memory} {machine other : ReadToEnd}

theorem Matches.request (same : Matches first second machine other) :
    Alike (machine.request first) (other.request second) := by
  rcases same.read.request with ⟨reads, exchanges⟩
  exact ⟨⟨reads, same.collected⟩, .needs exchanges⟩

theorem Matches.absorb (same : Matches first second machine other) {output output' : Output}
    (outputs : Read.Values first second output output') :
    Matches (machine.absorb output first).2 (other.absorb output' second).2
      (machine.absorb output first).1 (other.absorb output' second).1 := by
  rcases outputs with ⟨count, buffers⟩
  refine ⟨machine.read.matches_replace other.read buffers, ?_⟩
  show machine.collected.append (output.bytes first) = other.collected.append (output'.bytes second)
  rw [same.collected, Output.bytes, Output.bytes, buffers.bytes_eq, count]

theorem Matches.receive (same : Matches first second machine other) {exchange given : Exchange}
    (exchanges : exchange.Matches first second given) (goes : exchange.direction = .read) :
    Alike (machine.receive exchange first) (other.receive given second) := by
  have inner := same.read.receive exchanges goes
  unfold ReadToEnd.receive
  cases stepped : machine.read.receive exchange first with
  | mk progress read between events =>
    cases stepped' : other.read.receive given second with
    | mk progress' read' between' events' =>
      rw [stepped, stepped'] at inner
      rcases inner with ⟨reads, progresses⟩
      have machines : Matches between between' { machine with read := read }
          { other with read := read' } := ⟨reads, same.collected⟩
      cases progresses with
      | needs exchanges => exact ⟨machines, .needs exchanges⟩
      | failed error => exact ⟨machines, .failed _⟩
      | raised fault => exact ⟨machines, .raised _⟩
      | finished outputs => exact (machines.absorb outputs).request.after _ _
      | endOfStream =>
        exact ⟨⟨reads, rfl⟩, .finished (congrArg Collected.bytes same.collected)⟩

instance : Uniform ReadToEnd where
  Matches := Matches
  Values := fun _ _ => Eq
  retained same retains := ⟨same.read.retained retains, same.collected⟩
  anywhere same lent first second := ⟨same.read.anywhere lent first second, same.collected⟩
  resumed := by
    intro first second machine other answer given same answers fits
    cases answers with
    | none => exact same.request
    | some exchanges => exact same.receive exchanges (fits _ rfl).1

end ReadToEnd

/-! ## Writing -/

namespace Write

def Matches (first second : Memory) (write other : Write) : Prop :=
  write.payload.Matches first second other.payload

variable {first second : Memory} {write other : Write}

theorem Matches.receive (same : Matches first second write other) {exchange given : Exchange}
    (exchanges : exchange.Matches first second given) (goes : exchange.direction = .write) :
    (write.receive exchange first).Matches Matches Read.Values (other.receive given second) := by
  cases exchanges with
  | request direction buffers =>
    cases goes
    exact ⟨same, .needs (.request .write buffers)⟩
  | response direction count buffers =>
    cases goes
    by_cases nothing : count = 0
    · simp only [Write.receive, if_pos nothing]
      exact ⟨same, .endOfStream⟩
    · simp only [Write.receive, if_neg nothing]
      exact ⟨same, .finished ⟨rfl, buffers⟩⟩

instance : Uniform Write where
  Matches := Matches
  Values := Read.Values
  retained same retains := Buffer.Matches.retained same retains
  anywhere same lent := Buffer.Matches.anywhere same lent
  resumed := by
    intro first second write other answer given same answers fits
    cases answers with
    | none => exact ⟨.frozen [], .needs (.request .write same)⟩
    | some exchanges => exact Matches.receive same exchanges (fits _ rfl).1

end Write

namespace WriteAll

structure Matches (first second : Memory) (machine other : WriteAll) : Prop where
  total : machine.total = other.total
  remaining : machine.remaining = other.remaining
  write : Write.Matches first second machine.write other.write

abbrev Alike (step other : Step WriteAll Nat) : Prop :=
  step.Matches Matches (fun _ _ => Eq) other

variable {first second : Memory} {machine other : WriteAll}

theorem Matches.done (same : Matches first second machine other) :
    Alike ⟨.finished machine.total, machine, first, []⟩
      ⟨.finished other.total, other, second, []⟩ :=
  ⟨same, .finished same.total⟩

theorem Matches.request (same : Matches first second machine other) :
    Alike (machine.request first) (other.request second) := by
  rcases machine with ⟨total, remaining, write⟩
  rcases other with ⟨_, _, write'⟩
  rcases same with ⟨rfl, rfl, writes⟩
  unfold WriteAll.request
  split
  · exact Matches.done ⟨rfl, rfl, writes⟩
  · exact ⟨⟨rfl, rfl, .frozen []⟩, .needs (.request .write writes)⟩

theorem Matches.absorb (same : Matches first second machine other) {output output' : Output}
    (outputs : Read.Values first second output output') :
    Matches (machine.absorb output first).2.1 (other.absorb output' second).2.1
      (machine.absorb output first).1 (other.absorb output' second).1 := by
  rcases outputs with ⟨count, buffers⟩
  have rests := buffers.rest output.count
  rw [WriteAll.absorb, WriteAll.absorb, ← count]
  exact ⟨same.total, rests.size_eq, rests⟩

theorem Matches.receive (same : Matches first second machine other) {exchange given : Exchange}
    (exchanges : exchange.Matches first second given) (goes : exchange.direction = .write) :
    Alike (machine.receive exchange first) (other.receive given second) := by
  rcases machine with ⟨total, remaining, write⟩
  rcases other with ⟨_, _, write'⟩
  rcases same with ⟨rfl, rfl, writes⟩
  have inner := writes.receive exchanges goes
  unfold WriteAll.receive
  split
  · exact Matches.done ⟨rfl, rfl, writes⟩
  · cases stepped : write.receive exchange first with
    | mk progress write between events =>
      cases stepped' : write'.receive given second with
      | mk progress' write' between' events' =>
        rw [stepped, stepped'] at inner
        rcases inner with ⟨writes, progresses⟩
        have machines : Matches between between' ⟨total, remaining, write⟩
            ⟨total, remaining, write'⟩ := ⟨rfl, rfl, writes⟩
        cases progresses with
        | needs exchanges => exact ⟨machines, .needs exchanges⟩
        | failed error => exact ⟨machines, .failed _⟩
        | raised fault => exact ⟨machines, .raised _⟩
        | finished outputs => exact (machines.absorb outputs).request.after _ _
        | endOfStream => exact ⟨machines, .failed _⟩

instance : Uniform WriteAll where
  Matches := Matches
  Values := fun _ _ => Eq
  retained same retains :=
    ⟨same.total, same.remaining, Buffer.Matches.retained same.write retains⟩
  anywhere same lent first second :=
    ⟨same.total, same.remaining, Buffer.Matches.anywhere same.write lent first second⟩
  resumed := by
    intro first second machine other answer given same answers fits
    cases answers with
    | none => exact same.request
    | some exchanges => exact same.receive exchanges (fits _ rfl).1

end WriteAll

/-! ## Machines of any kind -/

section

variable {Kind Other Value Result : Type}

/-- Steps that are equal but for names are so if the machines are seen as
others. -/
theorem Step.Matches.map {machines : Memory -> Memory -> Kind -> Kind -> Prop}
    {values : Memory -> Memory -> Value -> Value -> Prop} {step other : Step Kind Value}
    (same : step.Matches machines values other) {seen : Kind -> Other} {change : Value -> Result}
    {machines' : Memory -> Memory -> Other -> Other -> Prop}
    {values' : Memory -> Memory -> Result -> Result -> Prop}
    (sameMachines : ∀ {first second machine other}, machines first second machine other ->
      machines' first second (seen machine) (seen other))
    (sameValues : ∀ {first second value other}, values first second value other ->
      values' first second (change value) (change other)) :
    (step.map seen change).Matches machines' values' (other.map seen change) := by
  rcases step with ⟨progress, machine, memory, events⟩
  rcases other with ⟨progress', machine', memory', events'⟩
  rcases same with ⟨same, progresses⟩
  refine ⟨sameMachines same, ?_⟩
  cases progresses with
  | finished values => exact .finished (sameValues values)
  | needs exchanges => exact .needs exchanges
  | endOfStream => exact .endOfStream
  | failed error => exact .failed error
  | raised fault => exact .raised fault

end

inductive Value.Matches (first second : Memory) : Value -> Value -> Prop where
  | output {used other : Output} : Read.Values first second used other ->
      Matches first second (.output used) (.output other)
  | bytes (bytes : Bytes) : Matches first second (.bytes bytes) (.bytes bytes)
  | count (count : Nat) : Matches first second (.count count) (.count count)

namespace Machine

inductive Matches (first second : Memory) : Machine -> Machine -> Prop where
  | read {machine other : Read} : Read.Matches first second machine other ->
      Matches first second (.read machine) (.read other)
  | write {machine other : Write} : Write.Matches first second machine other ->
      Matches first second (.write machine) (.write other)
  | readExact {machine other : ReadExact} : ReadExact.Matches first second machine other ->
      Matches first second (.readExact machine) (.readExact other)
  | readToEnd {machine other : ReadToEnd} : ReadToEnd.Matches first second machine other ->
      Matches first second (.readToEnd machine) (.readToEnd other)
  | writeAll {machine other : WriteAll} : WriteAll.Matches first second machine other ->
      Matches first second (.writeAll machine) (.writeAll other)

theorem Matches.retained {first second after : Memory} {machine other : Machine}
    (same : machine.Matches first second other) (retains : first.Retains after machine.cells) :
    machine.Matches after second other := by
  cases same with
  | read machines => exact .read (Uniform.retained machines retains)
  | write machines => exact .write (Uniform.retained machines retains)
  | readExact machines => exact .readExact (Uniform.retained machines retains)
  | readToEnd machines => exact .readToEnd (Uniform.retained machines retains)
  | writeAll machines => exact .writeAll (Uniform.retained machines retains)

theorem Matches.anywhere {first second : Memory} {machine other : Machine}
    (same : machine.Matches first second other) (lent : machine.cells = [])
    (first' second' : Memory) : machine.Matches first' second' other := by
  cases same with
  | read machines => exact .read (Uniform.anywhere machines lent first' second')
  | write machines => exact .write (Uniform.anywhere machines lent first' second')
  | readExact machines => exact .readExact (Uniform.anywhere machines lent first' second')
  | readToEnd machines => exact .readToEnd (Uniform.anywhere machines lent first' second')
  | writeAll machines => exact .writeAll (Uniform.anywhere machines lent first' second')

theorem Matches.resume {first second : Memory} {machine other : Machine}
    (same : machine.Matches first second other) {answer given : Option Exchange}
    (answers : Option.Rel (Exchange.Matches first second) answer given)
    (fits : ∀ exchange, answer = some exchange ->
      exchange.direction = machine.direction ∧ machine.cells = []) :
    (machine.resume answer first).Matches (fun first second => Matches first second)
      (fun first second => Value.Matches first second) (other.resume given second) := by
  cases same with
  | read machines => exact (Uniform.resumed machines answers fits).map .read .output
  | write machines => exact (Uniform.resumed machines answers fits).map .write .output
  | readExact machines =>
    exact (Uniform.resumed machines answers fits).map .readExact (by rintro _ _ _ _ ⟨⟩; exact .bytes _)
  | readToEnd machines =>
    exact (Uniform.resumed machines answers fits).map .readToEnd (by rintro _ _ _ _ ⟨⟩; exact .bytes _)
  | writeAll machines =>
    exact (Uniform.resumed machines answers fits).map .writeAll (by rintro _ _ _ _ ⟨⟩; exact .count _)

instance : Uniform Machine where
  Matches first second := Matches first second
  Values first second := Value.Matches first second
  retained := Matches.retained
  anywhere := Matches.anywhere
  resumed same answers fits := same.resume answers fits

theorem Matches.extend {first second : Memory} {machine other : Machine}
    (same : machine.Matches first second other) (bytes : Bytes) :
    Option.Rel (fun seeded seeded' => (seeded bytes).Matches first second (seeded' bytes))
      machine.extend other.extend := by
  cases same with
  | read machines => exact .none
  | write machines => exact .none
  | writeAll machines => exact .none
  | readExact machines =>
    exact .some (.readExact ⟨machines.target, machines.read,
      congrArg (Collected.append · bytes) machines.collected⟩)
  | readToEnd machines =>
    exact .some (.readToEnd ⟨machines.read, congrArg (Collected.append · bytes) machines.collected⟩)

end Machine

/-! ## Building machines -/

inductive Construction.Matches {Kind : Type} (machines : Memory -> Memory -> Kind -> Kind -> Prop) :
    Construction Kind -> Construction Kind -> Prop where
  | ok {machine other : Kind} {memory memory' : Memory} {events events' : List Event} :
      machines memory memory' machine other ->
      Matches machines ⟨.ok machine, memory, events⟩ ⟨.ok other, memory', events'⟩
  | error (fault : Fault) {memory memory' : Memory} {events events' : List Event} :
      Matches machines ⟨.error fault, memory, events⟩ ⟨.error fault, memory', events'⟩

theorem Construction.Matches.map {Kind Other : Type}
    {machines : Memory -> Memory -> Kind -> Kind -> Prop} {built other : Construction Kind}
    (same : built.Matches machines other) {seen : Kind -> Other}
    {machines' : Memory -> Memory -> Other -> Other -> Prop}
    (sameMachines : ∀ {first second machine other}, machines first second machine other ->
      machines' first second (seen machine) (seen other)) :
    (built.map seen).Matches machines' (other.map seen) := by
  cases same with
  | ok machines => exact .ok (sameMachines machines)
  | error fault => exact .error fault

theorem Read.matches_make (capacity : Int) {first second : Memory}
    (room : first.room = second.room) :
    (make capacity first).Matches Matches (make capacity second) := by
  unfold make
  rw [room]
  split
  · exact .error _
  · cases checkLength capacity.toNat second.room with
    | error fault => exact .error fault
    | ok allowed => exact .ok ⟨rfl, .some (Memory.matches_allocate first second _)⟩

theorem ReadExact.matches_make (target capacity : Int) {first second : Memory}
    (room : first.room = second.room) :
    (make target capacity first).Matches Matches (make target capacity second) := by
  unfold make
  split
  · exact .error _
  · split
    · exact .error _
    · have inner := Read.matches_make (min capacity target) room
      generalize Read.make (min capacity target) first = built at inner ⊢
      generalize Read.make (min capacity target) second = other at inner ⊢
      cases inner with
      | ok machines => exact .ok ⟨rfl, machines, rfl⟩
      | error fault => exact .error fault

theorem ReadToEnd.matches_make (capacity : Int) {first second : Memory}
    (room : first.room = second.room) :
    (make capacity first).Matches Matches (make capacity second) := by
  unfold make
  split
  · exact .error _
  · have inner := Read.matches_make capacity room
    generalize Read.make capacity first = built at inner ⊢
    generalize Read.make capacity second = other at inner ⊢
    cases inner with
    | ok machines => exact .ok ⟨machines, rfl⟩
    | error fault => exact .error fault

theorem Recipe.matches_build {recipe : Recipe} {first second : Memory}
    (payload : recipe.payload.Matches first second recipe.payload)
    (room : first.room = second.room) :
    (recipe.build first).Matches (fun first second => Machine.Matches first second)
      (recipe.build second) := by
  rcases recipe with ⟨kind, byCapacity, capacity, target, data⟩
  unfold Recipe.build
  generalize refused : Recipe.refusal ⟨kind, byCapacity, capacity, target, data⟩ = refusal
  cases refusal with
  | some fault => exact .error fault
  | none =>
    cases kind with
    | read => exact (Read.matches_make _ room).map .read
    | readExact => exact (ReadExact.matches_make _ _ room).map .readExact
    | readToEnd => exact (ReadToEnd.matches_make _ room).map .readToEnd
    | write => exact .ok (.write payload)
    | writeAll => exact .ok (.writeAll ⟨payload.size_eq, payload.size_eq, payload⟩)

/-! ## Performing exchanges -/

/-- Two answers, or two failures, are equal but for names. -/
inductive MatchingAnswers (first second : Memory) :
    Except Fault Exchange -> Except Fault Exchange -> Prop where
  | ok {answer given : Exchange} : answer.Matches first second given ->
      MatchingAnswers first second (.ok answer) (.ok given)
  | error (fault : Fault) : MatchingAnswers first second (.error fault) (.error fault)

theorem Exchange.matches_answer {first second : Memory} {buffer other : Buffer}
    (same : buffer.Matches first second other) (direction : Direction) (reply : Reply) :
    MatchingAnswers first second (Exchange.answer ⟨direction, .request buffer⟩ buffer reply first)
      (Exchange.answer ⟨direction, .request other⟩ other reply second) := by
  cases reply with
  | wouldBlock => exact .ok (.request direction same)
  | raised fault => exact .error fault
  | moved count =>
    simp only [Exchange.answer, Output.make, same.size_eq]
    split
    · exact .ok (.response direction count.toNat same)
    · exact .error _

/-- On equal streams, exchanges that are equal but for names have equal
effects.  They remain so, whether or not they have been answered. -/
theorem matches_handle {State : Type} (concurrency : Concurrency) (stream : Stream State)
    {exchange other : Exchange} {context context' : Context State}
    (same : exchange.Matches context.memory context'.memory other)
    (states : context.state = context'.state) :
    let performed := handle concurrency stream exchange context
    let performed' := handle concurrency stream other context'
    MatchingAnswers performed.2.memory performed'.2.memory performed.1 performed'.1 ∧
      exchange.Matches performed.2.memory performed'.2.memory other ∧
      performed.2.state = performed'.2.state := by
  rcases context with ⟨memory, journal, state⟩
  rcases context' with ⟨memory', journal', _⟩
  cases states
  cases same with
  | response direction count buffers =>
    rw [handle_response, handle_response]
    exact ⟨.ok (.response direction count buffers), .response direction count buffers, rfl⟩
  | @request direction buffer buffer' buffers =>
    cases direction with
    | write =>
      have lent : (⟨buffer.bytes memory, buffer.isMutable⟩ : Lent) =
          ⟨buffer'.bytes memory', buffer'.isMutable⟩ := by
        rw [show buffer.bytes memory = buffer'.bytes memory' from buffers.bytes_eq]
        cases buffers <;> rfl
      simp only [handle, Context.writeFrom, Context.note, lent]
      exact ⟨Exchange.matches_answer buffers .write _, .request .write buffers, trivial⟩
    | read =>
      cases buffers with
      | frozen bytes =>
        exact ⟨Exchange.matches_answer (.frozen bytes) .read _, .request .read (.frozen bytes), rfl⟩
      | shared cells =>
        simp only [handle, Context.readInto, Context.note,
          show memory.contents _ = memory'.contents _ from cells.same]
        exact ⟨Exchange.matches_answer (.shared (cells.store _)) .read _,
          .request .read (.shared (cells.store _)), trivial⟩

/-! ## Whole drives -/

/-- Two drives have ended alike, up to the names in their results. -/
inductive Ending.Matches {Value : Type} (values : Value -> Value -> Prop) :
    Ending Value -> Ending Value -> Prop where
  | finished {value other : Value} : values value other ->
      Matches values (.finished value) (.finished other)
  | endOfStream : Matches values .endOfStream .endOfStream
  | failed (error : StreamError) : Matches values (.failed error) (.failed error)
  | raised (fault : Fault) : Matches values (.raised fault) (.raised fault)
  | unfinished : Matches values .unfinished .unfinished

/-- Where results have no names in them, the drives have ended equally. -/
theorem Ending.Matches.eq {Value : Type} {values : Value -> Value -> Prop}
    {ending other : Ending Value} (same : ending.Matches values other)
    (nameless : ∀ {value other}, values value other -> value = other) : ending = other := by
  cases same with
  | finished value => exact congrArg Ending.finished (nameless value)
  | endOfStream => rfl
  | failed error => rfl
  | raised fault => rfl
  | unfinished => rfl

theorem Exchange.Matches.held {first second : Memory} {exchange other : Exchange}
    (same : exchange.Matches first second other) : ∀ cell ∈ exchange.cells, first.Holds cell := by
  have buffers {buffer buffer' : Buffer} (same : buffer.Matches first second buffer') :
      ∀ cell ∈ buffer.cells, first.Holds cell := by
    cases same with
    | frozen bytes => exact List.forall_mem_nil _
    | shared cells => exact List.forall_mem_singleton.mpr cells.left
  cases same with
  | request direction same => exact buffers same
  | response direction count same => exact buffers same

/-- Where the first steps of two drives are equal but for names, so are the
drives.  The induction carries along that a machine that waits has no buffer in
hand, since performing its request may change any buffer but those in hand. -/
theorem matches_driveFrom {Machine Value State : Type} [Resumable Machine Value]
    [Confining Machine] [Uniform Machine] (concurrency : Concurrency) (stream : Stream State)
    (limit : Nat) {machine other : Machine} {answer given : Option Exchange}
    {context context' : Context State} (turns turns' : List Turn)
    (steps : (Resumable.resume machine answer context.memory).Matches Uniform.Matches
      (Uniform.Values Machine) (Resumable.resume other given context'.memory))
    (goes : ∀ exchange,
      (Resumable.resume machine answer context.memory).progress = .needs exchange ->
      exchange.direction = Confining.direction machine ∧
        Confining.cells (Resumable.resume machine answer context.memory).machine = [])
    (states : context.state = context'.state) :
    let run := driveFrom (handle concurrency stream) limit machine answer context turns
    let run' := driveFrom (handle concurrency stream) limit other given context' turns'
    run.ending.Matches (Uniform.Values Machine run.context.memory run'.context.memory)
      run'.ending := by
  induction limit generalizing machine other answer given context context' turns turns' with
  | zero => exact .unfinished
  | succ limit inductionHypothesis =>
    have direction := Confining.direction_resume machine answer context.memory
    cases stepped : Resumable.resume machine answer context.memory with
    | mk progress after memory events =>
    cases stepped' : Resumable.resume other given context'.memory with
    | mk progress' after' memory' events' =>
    rw [stepped, stepped'] at steps
    rw [stepped] at goes direction
    rcases steps with ⟨machines, progresses⟩
    cases progresses with
    | finished values =>
      rw [driveFrom_finished limit stepped, driveFrom_finished limit stepped']
      exact .finished values
    | endOfStream =>
      rw [driveFrom_endOfStream limit stepped, driveFrom_endOfStream limit stepped']
      exact .endOfStream
    | failed error =>
      rw [driveFrom_failed limit stepped, driveFrom_failed limit stepped']
      exact .failed error
    | raised fault =>
      rw [driveFrom_of_raised limit stepped, driveFrom_of_raised limit stepped']
      exact .raised fault
    | @needs exchange exchange' exchanges =>
      rcases goes exchange rfl with ⟨goes, lent⟩
      have exchangesNow : exchange.Matches (context.after memory events).memory
        (context'.after memory' events').memory exchange' := exchanges
      have performs := matches_handle concurrency stream exchangesNow states
      have moves := @moves_handle State concurrency stream exchange (context.after memory events)
        exchangesNow.held
      cases performed : handle concurrency stream exchange (context.after memory events) with
      | mk result reached =>
      cases performed' : handle concurrency stream exchange' (context'.after memory' events') with
      | mk result' reached' =>
      rw [performed, performed'] at performs
      rw [performed] at moves
      rcases performs with ⟨answers, -, statesAfter⟩
      cases answers with
      | error fault =>
        rw [driveFrom_raised limit stepped performed, driveFrom_raised limit stepped' performed']
        exact .raised fault
      | @ok reply reply' replies =>
        have repliesWay :
            reply.direction = Confining.direction after ∧ Confining.cells after = [] :=
          ⟨((moves.2 reply rfl).2.trans goes).trans direction.symm, lent⟩
        have fits : ∀ exchange, some reply = some exchange ->
            exchange.direction = Confining.direction after ∧ Confining.cells after = [] := by
          rintro _ ⟨⟩
          exact repliesWay
        have held : ∀ cell ∈ Confining.cells after ++ answerCells (some reply),
            reached.memory.Holds cell := by
          rw [lent, List.nil_append]
          exact replies.held
        rw [driveFrom_needs limit stepped performed, driveFrom_needs limit stepped' performed']
        refine inductionHypothesis _ _ ?_ ?_ statesAfter
        · exact Uniform.resumed (Uniform.anywhere machines lent _ _) (.some replies) fits
        · exact (Confining.confined after (some reply) reached.memory held fits).goes

end ResumableStreams
