import Mathlib.Data.List.Forall2
import ResumableStreams.Proofs.Conservation
import ResumableStreams.Proofs.Holding
import ResumableStreams.Proofs.Persistence

namespace ResumableStreams

/-!
# What buffers held before

A buffer that comes back with a response may hold anything behind the bytes that
the response is about, and it may be immutable or not.  Here two machines of one
kind are used in the same way, call by call, except that their responses differ
in this.  Nobody who is told the results, the errors and what the requests look
like can tell the two uses apart.

The argument needs little of the two machines: they have collected the same, and
the buffers in hand are as long as each other and hold zeros.  A machine that
takes a buffer back brings it into this form, whatever was in it.

A `ReadExact` makes one exception.  It shortens the buffer in hand before it
looks at what it is passed, and in one of two uses it may be passed this very
buffer.
-/

/-! ## What is told of a call -/

deriving instance DecidableEq for StreamError, Fault

/-- How an error looks at present. -/
def StreamError.snapshot (memory : Memory) : StreamError -> StreamError
  | .invalidArgument expected got description =>
    .invalidArgument expected (got.snapshot memory) description
  | .wrapping outer source text => .wrapping outer (source.snapshot memory) text
  | .unexpectedEnd remaining expected partialBytes =>
    .unexpectedEnd remaining expected (partialBytes.snapshot memory)
  | error => error

/-- What the holder of a machine is told. -/
inductive Told where
  | finished (value : Bytes)
  /-- The machine asks for this, as it looks when it is handed out. -/
  | asked (exchange : Exchange)
  /-- The exchange that was passed comes out again. -/
  | same
  | endOfStream
  | failed (error : StreamError)
  | raised (fault : Fault)
  deriving DecidableEq

def Progress.told (answer : Option Exchange) (memory : Memory) : Progress Bytes -> Told
  | .finished value => .finished value
  | .needs exchange => if answer = some exchange then .same else .asked (exchange.snapshot memory)
  | .endOfStream => .endOfStream
  | .failed error => .failed (error.snapshot memory)
  | .raised fault => .raised fault

/-- What is told of a call, if the machine is resumed. -/
def Entry.told {Machine : Type} [Collecting Machine] (entry : Entry Machine) : Option Told :=
  match entry.call with
  | .resume answer =>
    let step := Resumable.resume entry.before.machine answer entry.before.memory
    some (step.progress.told answer step.memory)
  | _ => none

/-- The description of an exchange is about what can be seen of it. -/
theorem Exchange.describe_snapshot (exchange : Exchange) (memory other : Memory) :
    (exchange.snapshot memory).describe other = exchange.describe memory := by
  rcases exchange with ⟨direction, payload⟩
  cases payload <;> rfl

/-! ## Buffers in hand -/

namespace Read

/-- The buffer in hand, if there is one, consists of as many zeros as the
capacity says. -/
def Blank (read : Read) (memory : Memory) : Prop :=
  ∀ cell, read.slot = some cell -> memory.contents cell = Bytes.zeros read.capacity

/-- Both machines have a blank buffer in hand, of one length, or neither has
any. -/
structure Abreast (read : Read) (memory : Memory) (other : Read) (memory' : Memory) : Prop where
  capacity : read.capacity = other.capacity
  inHand : read.slot.isSome = other.slot.isSome
  blank : read.Blank memory
  blank' : other.Blank memory'

variable {read other : Read} {memory memory' : Memory}

theorem Blank.truncate (blank : read.Blank memory) (length : Int) :
    (read.truncate length memory).1.Blank (read.truncate length memory).2 := by
  intro cell inHand
  rw [slot_truncate] at inHand
  have zeros := blank cell inHand
  rw [capacity_truncate]
  unfold Read.truncate
  split
  · simp only [inHand]
    rw [Memory.contents_store_take, zeros, Bytes.take_zeros]
  · rename_i notShorter
    rw [show min length.toNat read.capacity = read.capacity by omega]
    exact zeros

theorem Abreast.truncate (abreast : read.Abreast memory other memory') (length : Int) :
    (read.truncate length memory).1.Abreast (read.truncate length memory).2
      (other.truncate length memory').1 (other.truncate length memory').2 where
  capacity := by
    rw [capacity_truncate, capacity_truncate, abreast.capacity]
  inHand := by
    rw [slot_truncate, slot_truncate, abreast.inHand]
  blank := abreast.blank.truncate length
  blank' := abreast.blank'.truncate length

/-- A buffer that is taken back is blank, also where it does not exist. -/
theorem blank_replace (read : Read) (buffer : Buffer) (memory : Memory) :
    (read.replace buffer memory).1.Blank (read.replace buffer memory).2 := by
  intro cell inHand
  rw [capacity_replace]
  cases buffer with
  | frozen bytes =>
    cases inHand
    exact memory.contents_allocate_new _
  | shared _ =>
    cases inHand
    by_cases held : memory.Holds cell
    · exact Memory.contents_store_self held _
    · have nothing := Memory.contents_of_not_holds held
      simp only [replace, Buffer.size, Buffer.bytes_shared, nothing]
      exact (Memory.contents_of_not_holds (by rwa [Memory.holds_store_iff])).trans rfl

/-- It makes no difference which buffers of one length are taken back. -/
theorem abreast_replace (read other : Read) {buffer buffer' : Buffer}
    (sizes : buffer.size memory = buffer'.size memory') :
    (read.replace buffer memory).1.Abreast (read.replace buffer memory).2
      (other.replace buffer' memory').1 (other.replace buffer' memory').2 where
  capacity := by
    rw [capacity_replace, capacity_replace, sizes]
  inHand := rfl
  blank := blank_replace read buffer memory
  blank' := blank_replace other buffer' memory'

/-- A blank buffer is lent out, or a new one of the same length. -/
theorem Blank.snapshot_request (blank : read.Blank memory) :
    (read.request memory).1.snapshot (read.request memory).2.2 =
      ⟨.read, .request (.frozen (Bytes.zeros read.capacity))⟩ := by
  rcases read with ⟨capacity, slot⟩
  cases slot with
  | none =>
    simp only [Read.request, Exchange.snapshot, Buffer.snapshot, Buffer.bytes_shared,
      Memory.contents_allocate_new]
  | some cell =>
    simp only [Read.request, Exchange.snapshot, Buffer.snapshot, Buffer.bytes_shared,
      blank cell rfl]

/-- What is lent out looks the same, and leaves both with nothing in hand. -/
theorem Abreast.request (abreast : read.Abreast memory other memory') :
    (read.request memory).1.snapshot (read.request memory).2.2 =
        (other.request memory').1.snapshot (other.request memory').2.2 ∧
      (read.request memory).2.1.Abreast (read.request memory).2.2 (other.request memory').2.1
        (other.request memory').2.2 := by
  refine ⟨?_, abreast.capacity, rfl, nofun, nofun⟩
  rw [abreast.blank.snapshot_request, abreast.blank'.snapshot_request, abreast.capacity]

/-- What nobody has in hand may change. -/
theorem Abreast.spared (abreast : read.Abreast memory other memory') {after after' : Memory}
    (spares : ∀ cell, read.slot = some cell -> after.contents cell = memory.contents cell)
    (spares' : ∀ cell, other.slot = some cell -> after'.contents cell = memory'.contents cell) :
    read.Abreast after other after' where
  capacity := abreast.capacity
  inHand := abreast.inHand
  blank cell inHand := (spares cell inHand).trans (abreast.blank cell inHand)
  blank' cell inHand := (spares' cell inHand).trans (abreast.blank' cell inHand)

end Read

/-! ## One call of each machine -/

/-- What is told of two steps is the same, and so is how they leave the
machines. -/
structure Step.Abreast {Machine : Type} (abreast : Machine -> Memory -> Machine -> Memory -> Prop)
    (answer given : Option Exchange) (step other : Step Machine Bytes) : Prop where
  told : step.progress.told answer step.memory = other.progress.told given other.memory
  abreast : abreast step.machine step.memory other.machine other.memory

theorem Step.Abreast.after {Machine : Type}
    {abreast : Machine -> Memory -> Machine -> Memory -> Prop} {answer given : Option Exchange}
    {step other : Step Machine Bytes} (same : Step.Abreast abreast answer given step other)
    (events events' : List Event) :
    Step.Abreast abreast answer given (step.after events) (other.after events') :=
  ⟨same.told, same.abreast⟩

/-- Two exchanges that are passed in like calls.  Requests may come out again as
they are; responses have moved the same bytes, in buffers of one length; and
what goes the wrong way looks the same. -/
inductive Exchange.Alike (first second : Memory) : Exchange -> Exchange -> Prop where
  | request (buffer other : Buffer) :
      Alike first second ⟨.read, .request buffer⟩ ⟨.read, .request other⟩
  | response {output other : Output} : output.count = other.count ->
      output.buffer.size first = other.buffer.size second ->
      output.bytes first = other.bytes second ->
      Alike first second ⟨.read, .response output⟩ ⟨.read, .response other⟩
  | write {payload other : Payload} :
      Exchange.snapshot ⟨.write, payload⟩ first = Exchange.snapshot ⟨.write, other⟩ second ->
      Alike first second ⟨.write, payload⟩ ⟨.write, other⟩

/-- The exchange is a request to read, which comes out again unless the machine
has come to its end. -/
def Exchange.AsksToRead : Exchange -> Prop
  | ⟨.read, .request _⟩ => True
  | _ => False

instance : DecidablePred Exchange.AsksToRead
  | ⟨.read, .request _⟩ => .isTrue trivial
  | ⟨.read, .response _⟩ => .isFalse id
  | ⟨.write, _⟩ => .isFalse id

theorem Progress.told_needs {answer : Option Exchange} {buffer : Buffer} {memory : Memory}
    (fresh : ∀ exchange, answer = some exchange -> ¬ exchange.AsksToRead) :
    (Progress.needs ⟨.read, .request buffer⟩).told answer memory =
      .asked (Exchange.snapshot ⟨.read, .request buffer⟩ memory) := by
  rw [Progress.told, if_neg]
  intro passed
  exact fresh _ passed trivial

theorem Exchange.fresh_of_response (output : Output) :
    ∀ exchange, some (⟨.read, .response output⟩ : Exchange) = some exchange ->
      ¬ exchange.AsksToRead := by
  rintro _ ⟨⟩
  exact id

/-- Nothing that an error with immutable bytes tells hangs on a buffer. -/
theorem Progress.told_reporting_shortage (remaining expected : Int) (bytes : Bytes)
    (answer given : Option Exchange) (memory memory' : Memory) :
    (Progress.reporting (.unexpectedEnd remaining expected (.frozen bytes))).told answer memory =
      (Progress.reporting (.unexpectedEnd remaining expected (.frozen bytes))).told given
        memory' := by
  rw [Progress.reporting_eq_ite]
  split <;> rfl

/-- Of exchanges that go the wrong way and look the same, the same is told. -/
theorem Progress.told_refused (outer : Composition) {exchange given : Exchange}
    {memory memory' : Memory} (same : exchange.snapshot memory = given.snapshot memory')
    {answer answer' : Option Exchange} :
    (Progress.failed (.wrap outer (.invalidArgument "read output" exchange
        (exchange.describe memory)))).told answer memory =
      (Progress.failed (.wrap outer (.invalidArgument "read output" given
        (given.describe memory')))).told answer' memory' := by
  have described : exchange.describe memory = given.describe memory' := by
    rw [← exchange.describe_snapshot memory memory, same, given.describe_snapshot]
  simp only [Progress.told, StreamError.wrap, StreamError.snapshot, same, described]

namespace ReadExact

structure Abreast (machine : ReadExact) (memory : Memory) (other : ReadExact) (memory' : Memory) :
    Prop where
  target : machine.target = other.target
  collected : machine.collected = other.collected
  read : machine.read.Abreast memory other.read memory'

variable {machine other : ReadExact} {memory memory' : Memory}

theorem Abreast.remaining_eq (abreast : machine.Abreast memory other memory') :
    machine.remaining = other.remaining := by
  rw [remaining, remaining, abreast.target, abreast.collected]

theorem Abreast.complete_iff (abreast : machine.Abreast memory other memory') :
    machine.Complete ↔ other.Complete := by
  rw [Complete, Complete, abreast.target, abreast.collected]

theorem Abreast.trimmed (abreast : machine.Abreast memory other memory') :
    (machine.trimmed memory).1.Abreast (machine.trimmed memory).2 (other.trimmed memory').1
      (other.trimmed memory').2 := by
  rw [trimmed_eq_truncate, trimmed_eq_truncate, ← abreast.remaining_eq]
  exact abreast.read.truncate machine.remaining

theorem Abreast.finish (abreast : machine.Abreast memory other memory')
    (answer given : Option Exchange) :
    Step.Abreast Abreast answer given (machine.finish memory) (other.finish memory') where
  told := by
    rw [ReadExact.finish, ReadExact.finish, abreast.collected]
    rfl
  abreast := ⟨abreast.target, rfl, abreast.read⟩

theorem Abreast.request (abreast : machine.Abreast memory other memory')
    {answer given : Option Exchange}
    (fresh : ∀ exchange, answer = some exchange -> ¬ exchange.AsksToRead)
    (fresh' : ∀ exchange, given = some exchange -> ¬ exchange.AsksToRead) :
    Step.Abreast Abreast answer given (machine.request memory) (other.request memory') := by
  by_cases complete : machine.Complete
  · rw [ReadExact.request, ReadExact.request, if_pos complete,
      if_pos (abreast.complete_iff.mp complete)]
    exact abreast.finish answer given
  · rw [ReadExact.request, ReadExact.request, if_neg complete,
      if_neg (complete ∘ abreast.complete_iff.mpr)]
    rcases abreast.trimmed.request with ⟨same, lent⟩
    refine ⟨?_, abreast.target, abreast.collected, lent⟩
    exact (Progress.told_needs fresh).trans
      ((congrArg Told.asked same).trans (Progress.told_needs fresh').symm)

/-- What a buffer holds once the machine has made the one in hand fit. -/
theorem bytes_trimmed (machine : ReadExact) (buffer : Buffer) (memory : Memory) :
    buffer.bytes (machine.trimmed memory).2 =
      if machine.Shortens buffer then (buffer.bytes memory).take machine.remaining
      else buffer.bytes memory := by
  split
  · rename_i shortens
    exact bytes_trimmed_of_shortens shortens memory
  · rename_i apart
    exact bytes_trimmed_of_not_shortens apart memory

/-- A machine that misses something shortens what it is passed, before it looks
at it.  A request that comes out again is left out. -/
def CutsShort (machine : ReadExact) (exchange : Exchange) : Prop :=
  ¬ machine.Complete ∧ ¬ exchange.AsksToRead ∧ machine.Shortens exchange.carried

instance (machine : ReadExact) (exchange : Exchange) : Decidable (machine.CutsShort exchange) :=
  inferInstanceAs (Decidable (_ ∧ _ ∧ _))

/-- Buffers of one length have one length when the one in hand has been made to
fit, if both machines have it in hand or neither has. -/
theorem Abreast.size_trimmed (abreast : machine.Abreast memory other memory')
    {buffer buffer' : Buffer} (sizes : buffer.size memory = buffer'.size memory')
    (cuts : machine.Shortens buffer ↔ other.Shortens buffer') :
    buffer.size (machine.trimmed memory).2 = buffer'.size (other.trimmed memory').2 := by
  unfold Buffer.size at sizes ⊢
  rw [bytes_trimmed, bytes_trimmed]
  by_cases shortens : machine.Shortens buffer
  · rw [if_pos shortens, if_pos (cuts.mp shortens), List.length_take, List.length_take, sizes,
      abreast.remaining_eq]
  · rw [if_neg shortens, if_neg (shortens ∘ cuts.mpr), sizes]

/-- The same bytes are taken of both responses. -/
theorem Abreast.bytes_eq (abreast : machine.Abreast memory other memory')
    (incomplete : ¬ machine.Complete) {output output' : Output}
    (same : output.bytes memory = output'.bytes memory')
    (cuts : machine.Shortens output.buffer ↔ other.Shortens output'.buffer) :
    output.bytes (machine.trimmed memory).2 = output'.bytes (other.trimmed memory').2 := by
  rw [bytes_output_trimmed incomplete, bytes_output_trimmed (incomplete ∘ abreast.complete_iff.mpr),
    takesOf, takesOf, if_neg incomplete, if_neg (incomplete ∘ abreast.complete_iff.mpr), same,
    abreast.remaining_eq]
  by_cases shortens : machine.Shortens output.buffer
  · rw [if_pos shortens, if_pos (cuts.mp shortens)]
  · rw [if_neg shortens, if_neg (shortens ∘ cuts.mpr)]

/-- What looked the same looks the same when the buffer in hand has been made to
fit. -/
theorem Abreast.snapshot_trimmed (abreast : machine.Abreast memory other memory')
    {exchange given : Exchange} (same : exchange.snapshot memory = given.snapshot memory')
    (cuts : machine.Shortens exchange.carried ↔ other.Shortens given.carried) :
    exchange.snapshot (machine.trimmed memory).2 = given.snapshot (other.trimmed memory').2 := by
  have trims {buffer buffer' : Buffer} (bytes : buffer.bytes memory = buffer'.bytes memory')
      (cuts : machine.Shortens buffer ↔ other.Shortens buffer') :
      buffer.snapshot (machine.trimmed memory).2 = buffer'.snapshot (other.trimmed memory').2 := by
    rw [Buffer.snapshot, Buffer.snapshot, bytes_trimmed, bytes_trimmed, bytes,
      abreast.remaining_eq]
    by_cases shortens : machine.Shortens buffer
    · rw [if_pos shortens, if_pos (cuts.mp shortens)]
    · rw [if_neg shortens, if_neg (shortens ∘ cuts.mpr)]
  rcases exchange with ⟨direction, buffer | ⟨buffer, count⟩⟩
  · rcases given with ⟨direction', buffer' | ⟨buffer', count'⟩⟩
    · simp only [Exchange.snapshot, Exchange.mk.injEq, Payload.request.injEq, Buffer.snapshot,
        Buffer.frozen.injEq] at same
      simp only [Exchange.snapshot, same.1, trims same.2 cuts]
    · cases same
  · rcases given with ⟨direction', buffer' | ⟨buffer', count'⟩⟩
    · cases same
    · simp only [Exchange.snapshot, Exchange.mk.injEq, Payload.response.injEq, Output.snapshot,
        Output.mk.injEq, Buffer.snapshot, Buffer.frozen.injEq] at same
      simp only [Exchange.snapshot, Output.snapshot, same.1, same.2.2, trims same.2.1 cuts]

/-- Both take the same bytes of a response, and its buffer back. -/
theorem Abreast.absorb (abreast : machine.Abreast memory other memory')
    (incomplete : ¬ machine.Complete) {output output' : Output}
    (sizes : output.buffer.size memory = output'.buffer.size memory')
    (same : output.bytes memory = output'.bytes memory')
    (cuts : machine.Shortens output.buffer ↔ other.Shortens output'.buffer) :
    let first := machine.trimmed memory
    let second := other.trimmed memory'
    let absorbed := ReadExact.absorb { machine with read := first.1 } output first.2
    let absorbed' := ReadExact.absorb { other with read := second.1 } output' second.2
    absorbed.1.Abreast absorbed.2 absorbed'.1 absorbed'.2 := by
  intro first second absorbed absorbed'
  refine ⟨abreast.target, ?_,
    Read.abreast_replace first.1 second.1 (abreast.size_trimmed sizes cuts)⟩
  show machine.collected.append (output.bytes first.2) =
    other.collected.append (output'.bytes second.2)
  rw [abreast.collected, abreast.bytes_eq incomplete same cuts]

theorem Abreast.receive (abreast : machine.Abreast memory other memory')
    {exchange given : Exchange} (alike : exchange.Alike memory memory' given)
    (cuts : machine.CutsShort exchange ↔ other.CutsShort given) :
    Step.Abreast Abreast (some exchange) (some given) (machine.receive exchange memory)
      (other.receive given memory') := by
  by_cases complete : machine.Complete
  · rw [ReadExact.receive, ReadExact.receive, if_pos complete,
      if_pos (abreast.complete_iff.mp complete)]
    exact abreast.finish _ _
  have incomplete : ¬ other.Complete := complete ∘ abreast.complete_iff.mpr
  have trimmed : Abreast { machine with read := (machine.trimmed memory).1 }
      (machine.trimmed memory).2 { other with read := (other.trimmed memory').1 }
      (other.trimmed memory').2 := ⟨abreast.target, abreast.collected, abreast.trimmed⟩
  rw [ReadExact.receive, ReadExact.receive, if_neg complete, if_neg incomplete]
  have shortens_iff (passed : ¬ exchange.AsksToRead) (passed' : ¬ given.AsksToRead) :
      machine.Shortens exchange.carried ↔ other.Shortens given.carried :=
    ⟨fun shortens => (cuts.mp ⟨complete, passed, shortens⟩).2.2,
      fun shortens => (cuts.mpr ⟨incomplete, passed', shortens⟩).2.2⟩
  cases alike with
  | request buffer buffer' =>
    refine ⟨?_, trimmed⟩
    exact (if_pos rfl).trans (if_pos rfl).symm
  | write same =>
    have looks := abreast.snapshot_trimmed same (shortens_iff id id)
    exact ⟨Progress.told_refused .readExact looks, trimmed⟩
  | @response output output' counts sizes bytes =>
    have cuts : machine.Shortens output.buffer ↔ other.Shortens output'.buffer :=
      shortens_iff id id
    by_cases nothing : output.count = 0
    · have returned := Read.abreast_replace (machine.trimmed memory).1 (other.trimmed memory').1
        (abreast.size_trimmed sizes cuts)
      simp only [Read.receive, if_pos nothing, if_pos (counts.symm.trans nothing)]
      refine ⟨?_, abreast.target, rfl, returned⟩
      show (Progress.reporting (.unexpectedEnd machine.remaining machine.target
          (.frozen machine.collected.bytes))).told _ _ =
        (Progress.reporting (.unexpectedEnd other.remaining other.target
          (.frozen other.collected.bytes))).told _ _
      rw [abreast.remaining_eq, abreast.target, abreast.collected]
      exact Progress.told_reporting_shortage _ _ _ _ _ _ _
    · simp only [Read.receive, if_neg nothing, if_neg (counts ▸ nothing)]
      have absorbed := abreast.absorb complete sizes bytes cuts
      exact (absorbed.request (Exchange.fresh_of_response output)
        (Exchange.fresh_of_response output')).after _ _

end ReadExact

namespace ReadToEnd

structure Abreast (machine : ReadToEnd) (memory : Memory) (other : ReadToEnd) (memory' : Memory) :
    Prop where
  collected : machine.collected = other.collected
  read : machine.read.Abreast memory other.read memory'

variable {machine other : ReadToEnd} {memory memory' : Memory}

theorem Abreast.request (abreast : machine.Abreast memory other memory')
    {answer given : Option Exchange}
    (fresh : ∀ exchange, answer = some exchange -> ¬ exchange.AsksToRead)
    (fresh' : ∀ exchange, given = some exchange -> ¬ exchange.AsksToRead) :
    Step.Abreast Abreast answer given (machine.request memory) (other.request memory') := by
  rcases abreast.read.request with ⟨same, lent⟩
  refine ⟨?_, abreast.collected, lent⟩
  exact (Progress.told_needs fresh).trans
    ((congrArg Told.asked same).trans (Progress.told_needs fresh').symm)

/-- This machine looks at what it is passed first. -/
theorem Abreast.receive (abreast : machine.Abreast memory other memory')
    {exchange given : Exchange} (alike : exchange.Alike memory memory' given) :
    Step.Abreast Abreast (some exchange) (some given) (machine.receive exchange memory)
      (other.receive given memory') := by
  cases alike with
  | request buffer buffer' =>
    refine ⟨?_, abreast⟩
    exact (if_pos rfl).trans (if_pos rfl).symm
  | write same => exact ⟨Progress.told_refused .readToEnd same, abreast⟩
  | @response output output' counts sizes bytes =>
    have returned := Read.abreast_replace machine.read other.read sizes
    by_cases nothing : output.count = 0
    · simp only [ReadToEnd.receive, Read.receive, if_pos nothing,
        if_pos (counts.symm.trans nothing)]
      refine ⟨?_, rfl, returned⟩
      exact congrArg (fun collected => Told.finished collected.bytes) abreast.collected
    · simp only [ReadToEnd.receive, Read.receive, if_neg nothing, if_neg (counts ▸ nothing)]
      have absorbed : (machine.absorb output memory).1.Abreast (machine.absorb output memory).2
          (other.absorb output' memory').1 (other.absorb output' memory').2 := by
        refine ⟨?_, returned⟩
        show machine.collected.append (output.bytes memory) =
          other.collected.append (output'.bytes memory')
        rw [abreast.collected, bytes]
      exact (absorbed.request (Exchange.fresh_of_response output)
        (Exchange.fresh_of_response output')).after _ _

end ReadToEnd

/-! ## Like uses of like machines -/

/-- The type of machines that collect bytes through the buffer of an inner `Read`.
Two of them may go abreast. -/
class Buffering (Machine : Type) extends Collecting Machine where
  inner : Machine -> Read
  Abreast : Machine -> Memory -> Machine -> Memory -> Prop
  extended : ∀ {machine memory other memory'}, Abreast machine memory other memory' ->
    ∀ bytes, Abreast (extend machine bytes) memory (extend other bytes) memory'
  spared : ∀ {machine memory other memory' after after'}, Abreast machine memory other memory' ->
    (∀ cell, (inner machine).slot = some cell -> after.contents cell = memory.contents cell) ->
    (∀ cell, (inner other).slot = some cell -> after'.contents cell = memory'.contents cell) ->
    Abreast machine after other after'

instance : Buffering ReadExact where
  inner := ReadExact.read
  Abreast := ReadExact.Abreast
  extended abreast bytes :=
    ⟨abreast.target, congrArg (Collected.append · bytes) abreast.collected, abreast.read⟩
  spared abreast spares spares' :=
    ⟨abreast.target, abreast.collected, abreast.read.spared spares spares'⟩

instance : Buffering ReadToEnd where
  inner := ReadToEnd.read
  Abreast := ReadToEnd.Abreast
  extended abreast bytes := ⟨congrArg (Collected.append · bytes) abreast.collected, abreast.read⟩
  spared abreast spares spares' := ⟨abreast.collected, abreast.read.spared spares spares'⟩

/-- The same is done in both calls, as far as can be seen when they are made. -/
inductive Call.Alike (first second : Memory) : Call -> Call -> Prop where
  | extend (bytes : Bytes) : Alike first second (.extend bytes) (.extend bytes)
  | ask : Alike first second (.resume none) (.resume none)
  | pass {exchange given : Exchange} : exchange.Alike first second given ->
      Alike first second (.resume (some exchange)) (.resume (some given))
  | elsewhere (memory memory' : Memory) :
      Alike first second (.elsewhere memory) (.elsewhere memory')

section

variable {Machine : Type} [Buffering Machine]

/-- A buffer that the machine has in hand is not written into. -/
def Entry.Spares (entry : Entry Machine) : Prop :=
  ∀ memory, entry.call = .elsewhere memory ->
    ∀ cell, (Buffering.inner entry.before.machine).slot = some cell ->
      memory.contents cell = entry.before.memory.contents cell

theorem Entry.spares_resume (session : Session Machine) (answer : Option Exchange) :
    Entry.Spares ⟨session, .resume answer⟩ := fun _ called => nomatch called

theorem Entry.spares_extend (session : Session Machine) (bytes : Bytes) :
    Entry.Spares ⟨session, .extend bytes⟩ := fun _ called => nomatch called

/-- Where nothing is in hand, anything may be written. -/
theorem Entry.spares_of_lent {session : Session Machine}
    (lent : (Buffering.inner session.machine).slot = none) (memory : Memory) :
    Entry.Spares ⟨session, .elsewhere memory⟩ := by
  intro _ _ cell inHand
  cases lent.symm.trans inHand

/-- Like calls, which leave the buffers in hand alone. -/
structure Entry.Alike (entry other : Entry Machine) : Prop where
  calls : entry.call.Alike entry.before.memory other.before.memory other.call
  spares : entry.Spares
  spares' : other.Spares

/-- The machines of both sessions go abreast. -/
def Session.Abreast (first second : Session Machine) : Prop :=
  Buffering.Abreast first.machine first.memory second.machine second.memory

/-- After like calls the machines go abreast if they do so after each step. -/
theorem Entry.Alike.after {entry other : Entry Machine} (alike : entry.Alike other)
    (abreast : entry.before.Abreast other.before)
    (resumed : ∀ answer given, entry.call = .resume answer -> other.call = .resume given ->
      Step.Abreast Buffering.Abreast answer given
        (Resumable.resume entry.before.machine answer entry.before.memory)
        (Resumable.resume other.before.machine given other.before.memory)) :
    entry.told = other.told ∧ entry.after.Abreast other.after := by
  rcases entry with ⟨⟨machine, memory, outstanding⟩, call⟩
  rcases other with ⟨⟨machine', memory', outstanding'⟩, call'⟩
  have calls : call.Alike memory memory' call' := alike.calls
  cases calls with
  | extend bytes => exact ⟨rfl, Buffering.extended abreast bytes⟩
  | elsewhere after after' =>
    exact ⟨rfl, Buffering.spared abreast (alike.spares after rfl) (alike.spares' after' rfl)⟩
  | ask =>
    have step := resumed none none rfl rfl
    exact ⟨congrArg some step.told, step.abreast⟩
  | @pass exchange given =>
    have step := resumed (some exchange) (some given) rfl rfl
    exact ⟨congrArg some step.told, step.abreast⟩

/-- What each pair of calls keeps tells two uses apart in none of their calls. -/
theorem Session.map_told_eq {level : Session Machine -> Session Machine -> Prop}
    {fair : Entry Machine -> Entry Machine -> Prop}
    (step : ∀ {entry other : Entry Machine}, level entry.before other.before -> fair entry other ->
      entry.told = other.told ∧ level entry.after other.after)
    {first second : Session Machine} (start : level first second) {calls others : List Call}
    (fairs : List.Forall₂ fair (first.entries calls) (second.entries others)) :
    (first.entries calls).map Entry.told = (second.entries others).map Entry.told := by
  induction calls generalizing first second others with
  | nil =>
    cases others with
    | nil => rfl
    | cons call others => cases fairs
  | cons call calls inductionHypothesis =>
    cases others with
    | nil => cases fairs
    | cons call' others =>
      rcases List.forall₂_cons.mp fairs with ⟨now, later⟩
      rcases @step ⟨first, call⟩ ⟨second, call'⟩ start now with ⟨told, after⟩
      simp only [entries, List.map_cons, told, inductionHypothesis after later]

end

namespace ReadExact

/-- What is passed in this call is shortened before it is looked at. -/
def CutsShortIn (entry : Entry ReadExact) : Prop :=
  match entry.call with
  | .resume (some exchange) => entry.before.machine.CutsShort exchange
  | _ => False

instance : DecidablePred CutsShortIn
  | ⟨session, .resume (some exchange)⟩ =>
    inferInstanceAs (Decidable (session.machine.CutsShort exchange))
  | ⟨_, .resume none⟩ => .isFalse id
  | ⟨_, .extend _⟩ => .isFalse id
  | ⟨_, .elsewhere _⟩ => .isFalse id

theorem after_of_alike {entry other : Entry ReadExact} (abreast : entry.before.Abreast other.before)
    (alike : entry.Alike other) (cuts : CutsShortIn entry ↔ CutsShortIn other) :
    entry.told = other.told ∧ entry.after.Abreast other.after := by
  apply alike.after abreast
  intro answer given called called'
  have calls := alike.calls
  rw [called, called'] at calls
  cases calls with
  | ask => exact Abreast.request abreast nofun nofun
  | @pass exchange given passed =>
    simp only [CutsShortIn, called, called'] at cuts
    exact Abreast.receive abreast passed cuts

/-! ## Machines that wait -/

/-- While a request is under way, the machine has nothing in hand. -/
def LendsOut (session : Session ReadExact) : Prop :=
  session.outstanding ≠ none -> session.machine.read.slot = none

/-- What is passed is passed while a request is under way. -/
def Timely (entry : Entry ReadExact) : Prop :=
  ∀ exchange, entry.call = .resume (some exchange) -> entry.before.outstanding ≠ none

/-- A machine that has nothing in hand cuts nothing short. -/
theorem LendsOut.not_cutsShortIn {entry : Entry ReadExact} (lends : LendsOut entry.before)
    (timely : Timely entry) : ¬ CutsShortIn entry := by
  intro cuts
  unfold CutsShortIn at cuts
  split at cuts
  · rename_i exchange passed
    have inHand := cuts.2.2.2
    rw [lends (timely exchange passed)] at inHand
    cases inHand
  · exact cuts

theorem lendsOut_request (machine : ReadExact) (memory : Memory) (before : Option Exchange) :
    LendsOut ⟨(machine.request memory).machine, (machine.request memory).memory,
      Entry.outstandingAfter before (machine.request memory).progress⟩ :=
  fun waiting => (machine.suspended_request memory before waiting).2

theorem lendsOut_receive {machine : ReadExact} (lent : machine.read.slot = none)
    (exchange : Exchange) (memory : Memory) (before : Option Exchange) :
    LendsOut ⟨(machine.receive exchange memory).machine, (machine.receive exchange memory).memory,
      Entry.outstandingAfter before (machine.receive exchange memory).progress⟩ := by
  have lentAfter := (machine.slot_trimmed memory).trans lent
  by_cases complete : machine.Complete
  · rw [receive, if_pos complete]
    exact fun _ => lent
  · rw [receive, if_neg complete]
    rcases exchange with ⟨direction, payload⟩
    cases direction with
    | write => exact fun _ => lentAfter
    | read =>
      cases payload with
      | request buffer => exact fun _ => lentAfter
      | response output =>
        by_cases nothing : output.count = 0
        · simp only [Read.receive, if_pos nothing, Progress.reporting_eq_ite]
          split
          · exact fun waiting => absurd rfl waiting
          · exact fun waiting => absurd rfl waiting
        · simp only [Read.receive, if_neg nothing]
          exact lendsOut_request _ _ before

theorem LendsOut.after {entry : Entry ReadExact} (lends : LendsOut entry.before)
    (timely : Timely entry) : LendsOut entry.after := by
  rcases entry with ⟨⟨machine, memory, outstanding⟩, call⟩
  cases call with
  | extend bytes => exact lends
  | elsewhere memory => exact lends
  | resume answer =>
    cases answer with
    | none => exact machine.lendsOut_request memory outstanding
    | some exchange =>
      exact lendsOut_receive (lends (timely exchange rfl)) exchange memory outstanding

end ReadExact

theorem ReadToEnd.after_of_alike {entry other : Entry ReadToEnd}
    (abreast : entry.before.Abreast other.before) (alike : entry.Alike other) :
    entry.told = other.told ∧ entry.after.Abreast other.after := by
  apply alike.after abreast
  intro answer given called called'
  have calls := alike.calls
  rw [called, called'] at calls
  cases calls with
  | ask => exact ReadToEnd.Abreast.request abreast nofun nofun
  | pass passed => exact ReadToEnd.Abreast.receive abreast passed

/-! ## New machines -/

theorem Read.abreast_make {capacity : Int} {memory memory' : Memory} {read other : Read}
    (built : (make capacity memory).result = .ok read)
    (built' : (make capacity memory').result = .ok other) :
    read.Abreast (make capacity memory).memory other (make capacity memory').memory := by
  rcases armed_make built with ⟨armed, room⟩
  rcases armed_make built' with ⟨armed', room'⟩
  have slot : read.slot.isSome = true :=
    (congrArg (fun created => created.1.slot.isSome) (create_of_make built).2).symm
  have slot' : other.slot.isSome = true :=
    (congrArg (fun created => created.1.slot.isSome) (create_of_make built').2).symm
  exact ⟨room.trans room'.symm, slot.trans slot'.symm, fun cell inHand => (armed cell inHand).2,
    fun cell inHand => (armed' cell inHand).2⟩

theorem ReadExact.abreast_make {target capacity : Int} {memory memory' : Memory}
    {machine other : ReadExact} (built : (make target capacity memory).result = .ok machine)
    (built' : (make target capacity memory').result = .ok other) :
    machine.Abreast (make target capacity memory).memory other
      (make target capacity memory').memory := by
  rcases of_make built with ⟨-, read, inner, rfl, same⟩
  rcases of_make built' with ⟨-, read', inner', rfl, same'⟩
  rw [same, same']
  exact ⟨rfl, rfl, Read.abreast_make inner inner'⟩

theorem ReadToEnd.abreast_make {capacity : Int} {memory memory' : Memory}
    {machine other : ReadToEnd} (built : (make capacity memory).result = .ok machine)
    (built' : (make capacity memory').result = .ok other) :
    machine.Abreast (make capacity memory).memory other (make capacity memory').memory := by
  rcases of_make built with ⟨-, read, inner, rfl, same⟩
  rcases of_make built' with ⟨-, read', inner', rfl, same'⟩
  rw [same, same']
  exact ⟨rfl, Read.abreast_make inner inner'⟩

/-! ## Uses that cannot be told apart -/

theorem ReadExact.not_cutsShortIn_of_timely {session : Session ReadExact}
    (lends : LendsOut session) {calls : List Call}
    (timely : ∀ entry ∈ session.entries calls, Timely entry) :
    ∀ entry ∈ session.entries calls, ¬ CutsShortIn entry := by
  induction calls generalizing session with
  | nil => exact fun _ member => absurd member List.not_mem_nil
  | cons call calls inductionHypothesis =>
    rw [Session.entries, List.forall_mem_cons] at timely ⊢
    have now : LendsOut (Entry.mk session call).before := lends
    exact ⟨now.not_cutsShortIn timely.1, inductionHypothesis (now.after timely.1) timely.2⟩

theorem ReadExact.forall₂_cutsShortIn {entries entries' : List (Entry ReadExact)}
    (alike : List.Forall₂ Entry.Alike entries entries')
    (never : ∀ entry ∈ entries, ¬ CutsShortIn entry)
    (never' : ∀ entry ∈ entries', ¬ CutsShortIn entry) :
    List.Forall₂ (fun entry entry' => entry.Alike entry' ∧
      (CutsShortIn entry ↔ CutsShortIn entry')) entries entries' := by
  induction alike with
  | nil => exact .nil
  | cons alike _ inductionHypothesis =>
    rw [List.forall_mem_cons] at never never'
    exact .cons ⟨alike, iff_of_false never.1 never'.1⟩ (inductionHypothesis never.2 never'.2)

/-- Two machines of one kind, built alike in any two memories, are used in the
same way.  The responses that are passed to them agree in how many bytes have
moved, in these bytes, and in the lengths of their buffers.  Behind the bytes
that have moved anything may be in the buffers, and any of them may be immutable
in one of the two uses only.  Then the uses cannot be told apart by what the
machines say: by bytes, errors, and new requests with all that they hold.

Of a machine that reads exactly so many bytes this is said for uses in which it
cuts the same calls short.  It cuts none short where everything is passed while
a request is under way. -/
theorem stale_bytes_do_not_show (memory memory' : Memory) :
    (∀ (target capacity : Int) (machine other : ReadExact),
      let built := ReadExact.make target capacity memory
      let built' := ReadExact.make target capacity memory'
      built.result = .ok machine -> built'.result = .ok other -> ∀ calls others,
        let entries := Session.entries ⟨machine, built.memory, none⟩ calls
        let entries' := Session.entries ⟨other, built'.memory, none⟩ others
        (List.Forall₂ (fun entry entry' => entry.Alike entry' ∧
            (ReadExact.CutsShortIn entry ↔ ReadExact.CutsShortIn entry')) entries entries' ->
          entries.map Entry.told = entries'.map Entry.told) ∧
        (List.Forall₂ Entry.Alike entries entries' ->
          (∀ entry ∈ entries ++ entries', ReadExact.Timely entry) ->
          entries.map Entry.told = entries'.map Entry.told)) ∧
    ∀ (capacity : Int) (machine other : ReadToEnd),
      let built := ReadToEnd.make capacity memory
      let built' := ReadToEnd.make capacity memory'
      built.result = .ok machine -> built'.result = .ok other -> ∀ calls others,
        let entries := Session.entries ⟨machine, built.memory, none⟩ calls
        let entries' := Session.entries ⟨other, built'.memory, none⟩ others
        List.Forall₂ Entry.Alike entries entries' ->
        entries.map Entry.told = entries'.map Entry.told := by
  constructor
  · intro target capacity machine other built built' made made' calls others entries entries'
    have start : Session.Abreast ⟨machine, built.memory, none⟩ ⟨other, built'.memory, none⟩ :=
      ReadExact.abreast_make made made'
    have told (fair : List.Forall₂ (fun entry entry' => entry.Alike entry' ∧
        (ReadExact.CutsShortIn entry ↔ ReadExact.CutsShortIn entry')) entries entries') :
        entries.map Entry.told = entries'.map Entry.told :=
      Session.map_told_eq
        (fun abreast fair => ReadExact.after_of_alike abreast fair.1 fair.2) start fair
    refine ⟨told, fun alike timely => told (ReadExact.forall₂_cutsShortIn alike ?_ ?_)⟩
    · apply ReadExact.not_cutsShortIn_of_timely (fun waiting => absurd rfl waiting)
      exact fun entry member => timely entry (List.mem_append_left _ member)
    · apply ReadExact.not_cutsShortIn_of_timely (fun waiting => absurd rfl waiting)
      exact fun entry member => timely entry (List.mem_append_right _ member)
  · intro capacity machine other built built' made made' calls others entries entries' alike
    have start : Session.Abreast ⟨machine, built.memory, none⟩ ⟨other, built'.memory, none⟩ :=
      ReadToEnd.abreast_make made made'
    exact Session.map_told_eq ReadToEnd.after_of_alike start alike

/-- Three bytes are asked for in pieces of two, and one comes.  In one use there
are other bytes behind it in the buffer that was lent, and in the other it comes
in immutable bytes. -/
theorem stale_bytes_do_not_show_behind_one :
    let response (buffer : Buffer) (count : Nat) : Call :=
      .resume (some ⟨.read, .response ⟨buffer, count⟩⟩)
    let holding (bytes : Bytes) : Memory := { Memory.empty with cells := #[bytes] }
    let calls : List Call :=
      [.resume none, .elsewhere (holding [1, 9]), response (.shared ⟨0⟩) 1,
        response (.shared ⟨0⟩) 0]
    let others : List Call :=
      [.resume none, .elsewhere (holding [8, 8]), response (.frozen [1, 7]) 1,
        response (.frozen [5, 5]) 0]
    let exact := ReadExact.create 3 2 .empty
    let entries := Session.entries ⟨exact.1, exact.2, none⟩ calls
    let entries' := Session.entries ⟨exact.1, exact.2, none⟩ others
    let whole := ReadToEnd.create 2 .empty
    let toEnd := Session.entries ⟨whole.1, whole.2, none⟩ calls
    let toEnd' := Session.entries ⟨whole.1, whole.2, none⟩ others
    (∀ entry ∈ entries ++ entries', ReadExact.Timely entry) ∧
      List.Forall₂ Entry.Alike entries entries' ∧ entries.map Entry.told = entries'.map Entry.told ∧
      List.Forall₂ Entry.Alike toEnd toEnd' ∧ toEnd.map Entry.told = toEnd'.map Entry.told := by
  intro response holding calls others exact entries entries' whole toEnd toEnd'
  have made : (ReadExact.make 3 2 .empty).result = .ok exact.1 ∧
      (ReadExact.make 3 2 .empty).memory = exact.2 := ⟨rfl, rfl⟩
  have made' : (ReadToEnd.make 2 .empty).result = .ok whole.1 ∧
      (ReadToEnd.make 2 .empty).memory = whole.2 := ⟨rfl, rfl⟩
  have alike : List.Forall₂ Entry.Alike entries entries' :=
    .cons ⟨.ask, Entry.spares_resume _ _, Entry.spares_resume _ _⟩
      (.cons ⟨.elsewhere _ _, Entry.spares_of_lent rfl _, Entry.spares_of_lent rfl _⟩
      (.cons ⟨.pass (.response rfl rfl rfl), Entry.spares_resume _ _, Entry.spares_resume _ _⟩
      (.cons ⟨.pass (.response rfl rfl rfl), Entry.spares_resume _ _, Entry.spares_resume _ _⟩
        .nil)))
  have alike' : List.Forall₂ Entry.Alike toEnd toEnd' :=
    .cons ⟨.ask, Entry.spares_resume _ _, Entry.spares_resume _ _⟩
      (.cons ⟨.elsewhere _ _, Entry.spares_of_lent rfl _, Entry.spares_of_lent rfl _⟩
      (.cons ⟨.pass (.response rfl rfl rfl), Entry.spares_resume _ _, Entry.spares_resume _ _⟩
      (.cons ⟨.pass (.response rfl rfl rfl), Entry.spares_resume _ _, Entry.spares_resume _ _⟩
        .nil)))
  have waits {entry : Entry ReadExact} {exchange : Exchange}
      (waiting : entry.before.outstanding = some exchange) : ReadExact.Timely entry := by
    intro _ _
    rw [waiting]
    exact Option.some_ne_none _
  have timely : ∀ entry ∈ entries ++ entries', ReadExact.Timely entry := by
    refine List.forall_mem_append.mpr ⟨?_, ?_⟩
    · exact List.forall_mem_cons.mpr ⟨nofun, List.forall_mem_cons.mpr ⟨nofun,
        List.forall_mem_cons.mpr ⟨waits rfl, List.forall_mem_singleton.mpr (waits rfl)⟩⟩⟩
    · exact List.forall_mem_cons.mpr ⟨nofun, List.forall_mem_cons.mpr ⟨nofun,
        List.forall_mem_cons.mpr ⟨waits rfl, List.forall_mem_singleton.mpr (waits rfl)⟩⟩⟩
  have told := (stale_bytes_do_not_show .empty .empty).1 3 2 exact.1 exact.1 made.1 made.1 calls
    others
  have told' := (stale_bytes_do_not_show .empty .empty).2 2 whole.1 whole.1 made'.1 made'.1 calls
    others
  rw [made.2] at told
  rw [made'.2] at told'
  exact ⟨timely, alike, told.2 alike timely, alike', told' alike'⟩

/-- A response that is passed goes the way of the request that the machine waits
for. -/
def Entry.InTime {Machine : Type} (entry : Entry Machine) : Prop :=
  ∀ direction output, entry.call = .resume (some ⟨direction, .response output⟩) ->
    ∃ buffer, entry.before.outstanding = some ⟨direction, .request buffer⟩

/-- A buffer that has come back from two bytes that were asked for is in the hands
of the machine, unless it was immutable bytes.  Once a byte has been seeded, the
machine shortens the buffer in hand.  A request to write that carries this very
buffer is then told of as one of a single byte, and a request that is presented
again after it was answered brings one byte less. -/
theorem ReadExact.told_of_cut_short :
    let built := create 2 2 .empty
    let session : Session ReadExact := ⟨built.1, built.2, none⟩
    let response (buffer : Buffer) : Call := .resume (some ⟨.read, .response ⟨buffer, 2⟩⟩)
    let astray (buffer : Buffer) : List Call :=
      [.resume none, response buffer, .extend [0x7a],
        .resume (some ⟨.write, .request (.shared ⟨0⟩)⟩)]
    let again (buffer : Buffer) : List Call :=
      [.resume none, response buffer, .resume (some ⟨.read, .request (.shared ⟨0⟩)⟩),
        .extend [0x7a], response buffer]
    ∀ uses ∈ [astray, again],
      let entries := session.entries (uses (.shared ⟨0⟩))
      let entries' := session.entries (uses (.frozen [0, 0]))
      (∀ entry ∈ entries, entry.InTime) ∧ (∀ entry ∈ entries', entry.InTime) ∧
        List.Forall₂ Entry.Alike entries entries' ∧
        entries.map Entry.told ≠ entries'.map Entry.told := by
  intro built session response astray again uses member
  have inTime {entry : Entry ReadExact} {direction : Direction} {buffer : Buffer}
      (waits : entry.before.outstanding = some ⟨direction, .request buffer⟩) {output : Output}
      (called : entry.call = .resume (some ⟨direction, .response output⟩)) : entry.InTime := by
    intro _ _ passed
    cases called.symm.trans passed
    exact ⟨buffer, waits⟩
  rcases List.mem_pair.mp member with rfl | rfl
  · refine ⟨?_, ?_, ?_, by decide⟩
    · exact List.forall_mem_cons.mpr ⟨nofun, List.forall_mem_cons.mpr ⟨inTime rfl rfl,
        List.forall_mem_cons.mpr ⟨nofun, List.forall_mem_singleton.mpr nofun⟩⟩⟩
    · exact List.forall_mem_cons.mpr ⟨nofun, List.forall_mem_cons.mpr ⟨inTime rfl rfl,
        List.forall_mem_cons.mpr ⟨nofun, List.forall_mem_singleton.mpr nofun⟩⟩⟩
    · exact .cons ⟨.ask, Entry.spares_resume _ _, Entry.spares_resume _ _⟩
        (.cons ⟨.pass (.response rfl rfl rfl), Entry.spares_resume _ _, Entry.spares_resume _ _⟩
        (.cons ⟨.extend _, Entry.spares_extend _ _, Entry.spares_extend _ _⟩
        (.cons ⟨.pass (.write rfl), Entry.spares_resume _ _, Entry.spares_resume _ _⟩ .nil)))
  · refine ⟨?_, ?_, ?_, by decide⟩
    · exact List.forall_mem_cons.mpr ⟨nofun, List.forall_mem_cons.mpr ⟨inTime rfl rfl,
        List.forall_mem_cons.mpr ⟨nofun, List.forall_mem_cons.mpr ⟨nofun,
        List.forall_mem_singleton.mpr (inTime rfl rfl)⟩⟩⟩⟩
    · exact List.forall_mem_cons.mpr ⟨nofun, List.forall_mem_cons.mpr ⟨inTime rfl rfl,
        List.forall_mem_cons.mpr ⟨nofun, List.forall_mem_cons.mpr ⟨nofun,
        List.forall_mem_singleton.mpr (inTime rfl rfl)⟩⟩⟩⟩
    · exact .cons ⟨.ask, Entry.spares_resume _ _, Entry.spares_resume _ _⟩
        (.cons ⟨.pass (.response rfl rfl rfl), Entry.spares_resume _ _, Entry.spares_resume _ _⟩
        (.cons ⟨.pass (.request _ _), Entry.spares_resume _ _, Entry.spares_resume _ _⟩
        (.cons ⟨.extend _, Entry.spares_extend _ _, Entry.spares_extend _ _⟩
        (.cons ⟨.pass (.response rfl rfl rfl), Entry.spares_resume _ _, Entry.spares_resume _ _⟩
        .nil))))

end ResumableStreams
