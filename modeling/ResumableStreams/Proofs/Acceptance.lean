import ResumableStreams.Machine.WriteAll
import ResumableStreams.Proofs.Sink

namespace ResumableStreams

/-!
# Writing everything, once and in order

A `WriteAll` keeps no more than a number: how many bytes remain.  The bytes
themselves are in the request under way, then in the buffer of the response,
and then in the next request.  That the three agree is what has to be shown,
over any number of drives of one machine, however they end.

At any moment the machine is in one of two conditions.  While it is `Going`,
what it offers is what the stream has not taken.  Once it has reported an
error, or the stream has failed, it is `Lost`: the request that was under way
took the rest of the payload with it, and nothing but empty requests follows.
-/

namespace WriteAll

/-! ## One call -/

theorem resume_of_done {machine : WriteAll} (done : machine.remaining = 0)
    (answer : Option Exchange) (memory : Memory) :
    Resumable.resume machine answer memory = ⟨.finished machine.total, machine, memory, []⟩ := by
  cases answer with
  | none => exact if_pos done
  | some exchange => exact if_pos done

/-- A machine with something left hands its payload out and keeps nothing. -/
theorem resume_none {machine : WriteAll} (left : machine.remaining ≠ 0) (memory : Memory) :
    Resumable.resume machine none memory =
      ⟨.needs ⟨.write, .request machine.write.payload⟩, { machine with write := ⟨.frozen []⟩ },
        memory, [.writeRequested]⟩ :=
  if_neg left

theorem resume_request {machine : WriteAll} (left : machine.remaining ≠ 0) (buffer : Buffer)
    (memory : Memory) :
    Resumable.resume machine (some ⟨.write, .request buffer⟩) memory =
      ⟨.needs ⟨.write, .request buffer⟩, machine, memory, [.writeResumed]⟩ :=
  if_neg left

theorem resume_nothing {machine : WriteAll} (left : machine.remaining ≠ 0) (buffer : Buffer)
    (memory : Memory) :
    Resumable.resume machine (some ⟨.write, .response ⟨buffer, 0⟩⟩) memory =
      ⟨.failed (.writeZero machine.remaining machine.total (machine.total - machine.remaining)),
        machine, memory, [.writeResumed]⟩ :=
  if_neg left

/-- What the stream has not taken becomes the payload, and the machine goes on
as if asked for more. -/
theorem resume_moved {machine : WriteAll} (left : machine.remaining ≠ 0) {output : Output}
    (moved : output.count ≠ 0) (memory : Memory) :
    ∃ events, Resumable.resume machine (some ⟨.write, .response output⟩) memory =
      (Resumable.resume (machine.absorb output memory).1 none
        (machine.absorb output memory).2.1).after events := by
  refine ⟨[.writeResumed, .writeCompleted output.count] ++ (machine.absorb output memory).2.2, ?_⟩
  show machine.receive ⟨.write, .response output⟩ memory = _
  simp only [receive, if_neg left, Write.receive, if_neg moved]
  rfl

/-- The machine misses something and has handed its payload out. -/
structure Engaged (machine : WriteAll) (size : Nat) : Prop where
  total : machine.total = size
  left : machine.remaining ≠ 0
  le : machine.remaining ≤ size
  spent : machine.write.payload = .frozen []

/-- What such a machine counts as written is not everything. -/
theorem Engaged.sub_ne {machine : WriteAll} {size : Nat} (engaged : machine.Engaged size) :
    size - machine.remaining ≠ size := by
  have left := engaged.left
  have le := engaged.le
  omega

/-- The machine has in hand what remains of the payload. -/
structure Loaded (machine : WriteAll) (payload : Bytes) (memory : Memory) : Prop where
  total : machine.total = payload.length
  le : machine.remaining ≤ payload.length
  bytes : machine.write.payload.bytes memory = payload.drop (payload.length - machine.remaining)

theorem loaded_make (payload : Buffer) (memory : Memory) :
    (make payload memory).1.Loaded (payload.bytes memory) memory where
  total := rfl
  le := Nat.le_refl _
  bytes := by
    show payload.bytes memory =
      (payload.bytes memory).drop (payload.size memory - payload.size memory)
    rw [Nat.sub_self, List.drop_zero]

/-- What is left of a buffer of which some bytes have been taken. -/
theorem remaining_absorb (machine : WriteAll) (output : Output) (memory : Memory) :
    (machine.absorb output memory).1.remaining = output.buffer.size memory - output.count ∧
      (machine.absorb output memory).1.write.payload.size (machine.absorb output memory).2.1 =
        (machine.absorb output memory).1.remaining := by
  refine ⟨?_, rfl⟩
  show Buffer.size (output.buffer.rest output.count memory).1
    (output.buffer.rest output.count memory).2 = _
  rw [Buffer.size, Buffer.bytes_rest, List.length_drop]
  rfl

theorem Engaged.loaded_absorb {machine : WriteAll} {payload : Bytes} {memory : Memory}
    {buffer : Buffer} (engaged : machine.Engaged payload.length)
    (bytes : buffer.bytes memory = payload.drop (payload.length - machine.remaining)) {count : Nat}
    (fits : count ≤ machine.remaining) :
    (machine.absorb ⟨buffer, count⟩ memory).1.remaining = machine.remaining - count ∧
      (machine.absorb ⟨buffer, count⟩ memory).1.Loaded payload
        (machine.absorb ⟨buffer, count⟩ memory).2.1 := by
  have le := engaged.le
  have size : buffer.size memory = machine.remaining := by
    rw [Buffer.size, bytes, List.length_drop]
    omega
  have remaining : (machine.absorb ⟨buffer, count⟩ memory).1.remaining =
      machine.remaining - count := size ▸ (machine.remaining_absorb ⟨buffer, count⟩ memory).1
  have rest := Buffer.bytes_rest buffer count memory
  rw [bytes, List.drop_drop] at rest
  refine ⟨remaining, engaged.total, remaining ▸ (by omega), ?_⟩
  rw [remaining]
  refine rest.trans (congrArg (payload.drop ·) ?_)
  omega

/-! ## One drive -/

/-- A machine for so many bytes has returned, or it has given its payload away in
vain. -/
inductive Comes (size : Nat) : Ending Nat -> WriteAll -> Prop where
  | returned {machine : WriteAll} : machine.remaining = 0 -> machine.total = size ->
      Comes size (.finished size) machine
  | spent {ending : Ending Nat} : (∀ value, ending ≠ .finished value) -> size ≠ 0 ->
      Comes size ending ⟨size, size, ⟨.frozen []⟩⟩

theorem Comes.done_or_spent {size : Nat} {ending : Ending Nat} {machine : WriteAll}
    (comes : Comes size ending machine) :
    ending = .finished size ∧ machine.remaining = 0 ∧ machine.total = size ∨
      (∀ value, ending ≠ .finished value) ∧ size ≠ 0 ∧ machine = ⟨size, size, ⟨.frozen []⟩⟩ := by
  cases comes with
  | returned done counted => exact .inl ⟨rfl, done, counted⟩
  | spent unsuccessful left => exact .inr ⟨unsuccessful, left, rfl⟩

theorem Comes.value_eq {size value : Nat} {machine : WriteAll}
    (comes : Comes size (.finished value) machine) : value = size := by
  cases comes with
  | returned done counted => rfl
  | spent unsuccessful left => exact absurd rfl (unsuccessful value)

/-- A drive has ended in this way, with the stream in this state, and no buffer
has changed. -/
structure Ends {State : Type} (memory : Memory) (size : Nat) (ending : Ending Nat)
    (state : State) (run : Run WriteAll Nat State) : Prop where
  ended : run.ending = ending
  comes : Comes size ending run.machine
  state : run.context.state = state
  bytes : ∀ buffer : Buffer, buffer.bytes run.context.memory = buffer.bytes memory

section

variable {State : Type} {concurrency : Concurrency} {stream : Stream State} {buffer : Buffer}
  {context : Context State} {after : State} {size limit : Nat}

/-- A machine that has returned does so again, and does not look at the stream. -/
theorem ends_of_done {machine : WriteAll} (done : machine.remaining = 0)
    (total : machine.total = size) :
    Ends context.memory size (.finished size) context.state
      (drive concurrency stream (limit + 2) machine context) := by
  show Ends context.memory size (.finished size) context.state
    (driveFrom _ (limit + 1 + 1) machine none context [])
  rw [driveFrom_finished (limit + 1) (resume_of_done done none context.memory), total]
  exact ⟨rfl, .returned done total, rfl, fun _ => rfl⟩

/-- A stream that says how many bytes it has taken lets the machine go on, and
the machine does not have them any more. -/
theorem exists_drive_of_moved (left : size ≠ 0) {count : Nat}
    (fits : count ≤ buffer.size context.memory)
    (offered : stream.offer concurrency ⟨buffer.bytes context.memory, buffer.isMutable⟩
      context.state = (.moved count, after)) :
    ∃ reached turns, reached.memory = context.memory ∧ reached.state = after ∧
      drive concurrency stream (limit + 2) (⟨size, size, ⟨buffer⟩⟩ : WriteAll) context =
        driveFrom (handle concurrency stream) (limit + 1) ⟨size, size, ⟨.frozen []⟩⟩
          (some ⟨.write, .response ⟨buffer, count⟩⟩) reached turns := by
  have performed := @handle_write_of_offer State stream concurrency buffer
    (context.after context.memory [.writeRequested]) _ _ offered
  have answered := @Exchange.answer_moved ⟨.write, .request buffer⟩ buffer count context.memory fits
  have asked := @resume_none ⟨size, size, ⟨buffer⟩⟩ left context.memory
  let asking := context.after context.memory [.writeRequested]
  refine ⟨{ (asking.note [.writingTo concurrency]) with state := after }, _, rfl, rfl,
    driveFrom_needs (limit + 1) asked (performed.trans ?_)⟩
  exact congrArg (Prod.mk · _) answered

/-- A stream that takes nothing has the machine report that all of the payload is
left. -/
theorem ends_of_refused (left : size ≠ 0)
    (offered : stream.offer concurrency ⟨buffer.bytes context.memory, buffer.isMutable⟩
      context.state = (.moved 0, after)) :
    Ends context.memory size (.failed (.writeZero size size 0)) after
      (drive concurrency stream (limit + 2) (⟨size, size, ⟨buffer⟩⟩ : WriteAll) context) := by
  rcases @exists_drive_of_moved _ _ _ _ _ _ size limit left 0 (Nat.zero_le _) offered with
    ⟨reached, turns, memory, state, same⟩
  have refused := @resume_nothing ⟨size, size, ⟨.frozen []⟩⟩ left buffer reached.memory
  simp only [Int.sub_self] at refused
  rw [same, driveFrom_failed limit refused]
  exact ⟨rfl, .spent nofun left, state, fun other => congrArg other.bytes memory⟩

/-- A stream that takes everything has the machine return. -/
theorem ends_of_taken (left : size ≠ 0) (whole : buffer.size context.memory = size)
    (offered : stream.offer concurrency ⟨buffer.bytes context.memory, buffer.isMutable⟩
      context.state = (.moved size, after)) :
    Ends context.memory size (.finished size) after
      (drive concurrency stream (limit + 2) (⟨size, size, ⟨buffer⟩⟩ : WriteAll) context) := by
  rcases @exists_drive_of_moved _ _ _ _ _ _ size limit left size (Nat.le_of_eq whole.symm) offered
    with ⟨reached, turns, memory, state, same⟩
  have waits : (⟨size, size, ⟨.frozen []⟩⟩ : WriteAll).remaining ≠ 0 := left
  rcases resume_moved waits (show (Output.mk buffer size).count ≠ 0 from left) reached.memory
    with ⟨events, resumed⟩
  let rest := (⟨size, size, ⟨.frozen []⟩⟩ : WriteAll).absorb ⟨buffer, size⟩ reached.memory
  have done : rest.1.remaining = 0 := by
    refine (remaining_absorb _ ⟨buffer, size⟩ reached.memory).1.trans ?_
    rw [memory, whole, Nat.sub_self]
  rw [same, driveFrom_of_resume_eq limit _ resumed,
    driveFrom_finished limit (resume_of_done done none _)]
  refine ⟨rfl, .returned done rfl, state, fun other => ?_⟩
  show other.bytes (buffer.rest size reached.memory).2 = _
  rw [memory, ← whole, Buffer.bytes_rest_size]

/-- A stream that fails ends the drive, whatever it has taken. -/
theorem ends_of_raised (left : size ≠ 0) {fault : Fault}
    (offered : stream.offer concurrency ⟨buffer.bytes context.memory, buffer.isMutable⟩
      context.state = (.raised fault, after)) :
    Ends context.memory size (.raised fault) after
      (drive concurrency stream (limit + 2) (⟨size, size, ⟨buffer⟩⟩ : WriteAll) context) := by
  have performed := @handle_write_of_offer State stream concurrency buffer
    (context.after context.memory [.writeRequested]) _ _ offered
  have asked := @resume_none ⟨size, size, ⟨buffer⟩⟩ left context.memory
  show Ends context.memory size (.raised fault) after
    (driveFrom _ (limit + 1 + 1) _ none context [])
  rw [driveFrom_raised (limit + 1) asked performed]
  exact ⟨rfl, .spent nofun left, rfl, fun _ => rfl⟩

end

/-! ## Two conditions -/

/-- The machine is in order where the stream has taken `taken` bytes of the
payload, which the machine need not have been told. -/
inductive Going (payload : Bytes) : Phase Nat -> WriteAll -> Memory -> Nat -> Prop where
  | fresh {machine : WriteAll} {memory : Memory} : machine.remaining = payload.length ->
      machine.Loaded payload memory -> Going payload (.resting none) machine memory 0
  | done {machine : WriteAll} {memory : Memory} : machine.remaining = 0 ->
      machine.total = payload.length ->
      Going payload (.resting (some (.finished payload.length))) machine memory payload.length
  | asking {machine : WriteAll} {memory : Memory} {buffer : Buffer} :
      machine.Engaged payload.length ->
      buffer.bytes memory = payload.drop (payload.length - machine.remaining) ->
      Going payload (.asking ⟨.write, .request buffer⟩) machine memory
        (payload.length - machine.remaining)
  | blocked {machine : WriteAll} {memory : Memory} {buffer : Buffer} :
      machine.Engaged payload.length ->
      buffer.bytes memory = payload.drop (payload.length - machine.remaining) ->
      Going payload (.answered ⟨.write, .request buffer⟩) machine memory
        (payload.length - machine.remaining)
  | moved {machine : WriteAll} {memory : Memory} {buffer : Buffer} {count : Nat} :
      machine.Engaged payload.length ->
      buffer.bytes memory = payload.drop (payload.length - machine.remaining) ->
      count ≤ machine.remaining ->
      Going payload (.answered ⟨.write, .response ⟨buffer, count⟩⟩) machine memory
        (payload.length - machine.remaining + count)

/-- The machine has given the rest of its payload away. -/
inductive Lost (machine : WriteAll) : Phase Nat -> Prop where
  | refused : Lost machine (.resting (some (.failed (.writeZero machine.remaining machine.total
      (machine.total - machine.remaining)))))
  | raised (fault : Fault) : Lost machine (.resting (some (.raised fault)))
  | asking : Lost machine (.asking ⟨.write, .request (.frozen [])⟩)
  | blocked : Lost machine (.answered ⟨.write, .request (.frozen [])⟩)
  | nothing : Lost machine (.answered ⟨.write, .response ⟨.frozen [], 0⟩⟩)

/-- A machine that has in hand what remains goes on from there. -/
theorem Loaded.going {machine : WriteAll} {payload : Bytes} {memory : Memory}
    (loaded : machine.Loaded payload memory) :
    Going payload (.ofProgress (Resumable.resume machine none memory).progress)
      (Resumable.resume machine none memory).machine (Resumable.resume machine none memory).memory
      (payload.length - machine.remaining) := by
  by_cases done : machine.remaining = 0
  · rw [resume_of_done done, loaded.total, done]
    exact .done done loaded.total
  · rw [resume_none done]
    have engaged : Engaged { machine with write := ⟨.frozen []⟩ } payload.length :=
      ⟨loaded.total, done, loaded.le, rfl⟩
    exact Going.asking engaged loaded.bytes

variable {State : Type} {stream : Stream State} {concurrency : Concurrency}

/-- The machine is going, and the stream has taken the first bytes of the
payload after those it had taken before. -/
structure Advancing (sink : stream.Sink concurrency) (payload before : Bytes)
    (moment : Moment WriteAll Nat State) : Prop where
  ready : sink.Ready moment.context.state
  account : ∃ taken, Going payload moment.phase moment.machine moment.context.memory taken ∧
    sink.taken moment.context.state = before ++ payload.take taken

/-- The machine is lost, and these are the bytes that the stream has taken. -/
structure Stuck (sink : stream.Sink concurrency) (machine : WriteAll) (taken : Bytes)
    (moment : Moment WriteAll Nat State) : Prop where
  ready : sink.Ready moment.context.state
  same : moment.machine = machine
  lost : machine.Lost moment.phase
  taken : sink.taken moment.context.state = taken

/-- Either of the two. -/
def Accounted (sink : stream.Sink concurrency) (payload before : Bytes)
    (moment : Moment WriteAll Nat State) : Prop :=
  Advancing sink payload before moment ∨
    moment.machine.Engaged payload.length ∧
      Stuck sink moment.machine
        (before ++ payload.take (payload.length - moment.machine.remaining)) moment

/-! ## One step -/

/-- A lost machine stays as it is, and the stream takes nothing more. -/
theorem Stuck.next {sink : stream.Sink concurrency} {machine : WriteAll} {taken : Bytes}
    {size : Nat} (engaged : machine.Engaged size) {moment : Moment WriteAll Nat State}
    (stuck : Stuck sink machine taken moment) :
    Stuck sink machine taken (moment.next (handle concurrency stream)) := by
  rcases moment with ⟨phase, machine', context⟩
  obtain ⟨ready, rfl, lost, already⟩ : sink.Ready context.state ∧ machine' = machine ∧
      machine.Lost phase ∧ sink.taken context.state = taken :=
    ⟨stuck.ready, stuck.same, stuck.lost, stuck.taken⟩
  -- Where a drive begins, the machine hands out what it has left, which is nothing.
  have begun : Stuck sink machine' taken
      ((⟨phase, machine', context⟩ : Moment WriteAll Nat State).resume none) := by
    have unchanged : ({ machine' with write := ⟨.frozen []⟩ } : WriteAll) = machine' := by
      rcases machine' with ⟨total, remaining, ⟨payload⟩⟩
      cases engaged.spent
      rfl
    unfold Moment.resume
    rw [resume_none engaged.left, engaged.spent, unchanged]
    exact ⟨ready, rfl, .asking, already⟩
  cases lost with
  | refused => exact begun
  | raised fault => exact begun
  | blocked =>
    unfold Moment.next Moment.resume
    simp only [resume_request engaged.left]
    exact ⟨ready, rfl, .asking, already⟩
  | nothing =>
    unfold Moment.next Moment.resume
    simp only [resume_nothing engaged.left]
    exact ⟨ready, rfl, .refused, already⟩
  | asking =>
    rcases sink.exists_handle (.frozen []) ready with
      ⟨result, after, handled, _, readyAfter, performed⟩
    unfold Moment.next
    simp only [handled]
    cases performed with
    | moved count fits moved =>
      have nothing : count = 0 := Nat.le_zero.mp fits
      subst nothing
      refine ⟨readyAfter, rfl, .nothing, ?_⟩
      rw [moved, List.take_zero, List.append_nil]
      exact already
    | blocked same => exact ⟨readyAfter, rfl, .blocked, same.trans already⟩
    | raised fault same => exact ⟨readyAfter, rfl, .raised fault, same.trans already⟩

theorem Stuck.later {sink : stream.Sink concurrency} {machine : WriteAll} {taken : Bytes}
    {size : Nat} (engaged : machine.Engaged size) {moment : Moment WriteAll Nat State}
    (stuck : Stuck sink machine taken moment) (steps : Nat) :
    Stuck sink machine taken (moment.later (handle concurrency stream) steps) := by
  refine @Moment.later_of_next WriteAll Nat State _ _ (Stuck sink machine taken) ?_ moment
    stuck steps
  intro moment' stuck'
  exact stuck'.next engaged

/-- A machine that is going goes on or gets lost, and the account stays
right. -/
theorem Advancing.next {sink : stream.Sink concurrency} {payload before : Bytes}
    {moment : Moment WriteAll Nat State} (advancing : Advancing sink payload before moment) :
    Accounted sink payload before (moment.next (handle concurrency stream)) := by
  rcases moment with ⟨phase, machine, context⟩
  have ready : sink.Ready context.state := advancing.ready
  rcases (show ∃ taken, Going payload phase machine context.memory taken ∧
    sink.taken context.state = before ++ payload.take taken from advancing.account) with
    ⟨taken, going, already⟩
  cases going with
  | fresh whole loaded =>
    refine .inl ⟨ready, _, loaded.going, ?_⟩
    rw [whole, Nat.sub_self]
    exact already
  | done done total =>
    refine .inl ⟨ready, payload.length, ?_, already⟩
    unfold Moment.next Moment.resume
    simp only [resume_of_done done, total]
    exact .done done total
  | @asking _ _ buffer engaged bytes =>
    rcases sink.exists_handle buffer ready with
      ⟨result, after, handled, kept, readyAfter, performed⟩
    unfold Moment.next
    simp only [handled]
    cases performed with
    | moved count fits moved =>
      rw [Buffer.size, bytes, List.length_drop] at fits
      have le := engaged.le
      have within : count ≤ machine.remaining := by omega
      refine .inl ⟨readyAfter, _, .moved engaged (kept.symm ▸ bytes) within, ?_⟩
      rw [moved, already, bytes, List.append_assoc, List.take_add]
    | blocked same =>
      exact .inl ⟨readyAfter, _, .blocked engaged (kept.symm ▸ bytes), same.trans already⟩
    | raised fault same =>
      exact .inr ⟨engaged, readyAfter, rfl, .raised fault, same.trans already⟩
  | blocked engaged bytes =>
    refine .inl ⟨ready, payload.length - machine.remaining, ?_, already⟩
    unfold Moment.next Moment.resume
    simp only [resume_request engaged.left]
    exact .asking engaged bytes
  | @moved _ _ buffer count engaged bytes fits =>
    by_cases nothing : count = 0
    · subst nothing
      unfold Moment.next Moment.resume
      simp only [resume_nothing engaged.left]
      exact .inr ⟨engaged, ready, rfl, .refused, already⟩
    · rcases resume_moved engaged.left (show (Output.mk buffer count).count ≠ 0 from nothing)
        context.memory with ⟨events, resumed⟩
      rcases engaged.loaded_absorb bytes fits with ⟨remaining, loaded⟩
      have told : payload.length - machine.remaining + count =
          payload.length - (machine.absorb ⟨buffer, count⟩ context.memory).1.remaining := by
        have le := engaged.le
        omega
      unfold Moment.next Moment.resume
      simp only [resumed]
      rw [told] at already
      exact .inl ⟨ready, _, loaded.going, already⟩

theorem Accounted.next {sink : stream.Sink concurrency} {payload before : Bytes}
    {moment : Moment WriteAll Nat State} (accounted : Accounted sink payload before moment) :
    Accounted sink payload before (moment.next (handle concurrency stream)) := by
  rcases accounted with advancing | ⟨engaged, stuck⟩
  · exact advancing.next
  · have stuckAfter := stuck.next engaged
    have same := stuckAfter.same
    refine .inr ?_
    rw [same]
    exact ⟨engaged, stuckAfter⟩

theorem Accounted.later {sink : stream.Sink concurrency} {payload before : Bytes}
    {moment : Moment WriteAll Nat State} (accounted : Accounted sink payload before moment)
    (steps : Nat) :
    Accounted sink payload before (moment.later (handle concurrency stream) steps) := by
  refine @Moment.later_of_next WriteAll Nat State _ _ (Accounted sink payload before) ?_ moment
    accounted steps
  intro moment' accounted'
  exact accounted'.next

/-- The account is right when a new machine is used for the first time. -/
theorem accounted_make (sink : stream.Sink concurrency) (payload : Buffer) (memory : Memory)
    (journal : Array Event) {state : State} (ready : sink.Ready state) :
    Accounted sink (payload.bytes memory) (sink.taken state)
      ⟨.resting none, (make payload memory).1, ⟨memory, journal, state⟩⟩ := by
  refine .inl ⟨ready, 0, .fresh rfl (loaded_make payload memory), ?_⟩
  rw [List.take_zero, List.append_nil]

/-! ## What the account says -/

/-- What has moved is what the machine knows of, and what it has yet to be
told. -/
theorem Going.taken_eq {payload : Bytes} {phase : Phase Nat} {machine : WriteAll} {memory : Memory}
    {taken : Nat} (going : Going payload phase machine memory taken) :
    taken = machine.total - machine.remaining + phase.untold := by
  cases going with
  | fresh whole loaded => rw [loaded.total, whole, Nat.sub_self]; rfl
  | done done total => rw [total, done]; rfl
  | asking engaged bytes => rw [engaged.total]; rfl
  | blocked engaged bytes => rw [engaged.total]; rfl
  | moved engaged bytes fits => rw [engaged.total]; rfl

theorem Going.taken_le {payload : Bytes} {phase : Phase Nat} {machine : WriteAll} {memory : Memory}
    {taken : Nat} (going : Going payload phase machine memory taken) : taken ≤ payload.length := by
  cases going with
  | fresh whole loaded => exact Nat.zero_le _
  | done done total => exact Nat.le_refl _
  | asking engaged bytes => exact Nat.sub_le _ _
  | blocked engaged bytes => exact Nat.sub_le _ _
  | moved engaged bytes fits =>
    have le := engaged.le
    omega

theorem Lost.untold_eq {machine : WriteAll} {phase : Phase Nat} (lost : machine.Lost phase) :
    phase.untold = 0 := by
  cases lost <;> rfl

theorem length_of_take_eq {payload before : Bytes} {taken : Nat} (le : taken ≤ payload.length)
    (all : before ++ payload.take taken = before ++ payload) : taken = payload.length := by
  have lengths := congrArg List.length (List.append_cancel_left all)
  rw [List.length_take, Nat.min_eq_left le] at lengths
  exact lengths

section

variable {sink : stream.Sink concurrency} {payload before : Bytes}
  {moment : Moment WriteAll Nat State}

theorem Accounted.going_or_lost {phase : Phase Nat} {machine : WriteAll} {context : Context State}
    (accounted : Accounted sink payload before ⟨phase, machine, context⟩) :
    (∃ taken, Going payload phase machine context.memory taken ∧
        sink.taken context.state = before ++ payload.take taken) ∨
      machine.Engaged payload.length ∧ machine.Lost phase ∧
        sink.taken context.state = before ++ payload.take (payload.length - machine.remaining) := by
  rcases accounted with advancing | ⟨engaged, stuck⟩
  · exact .inl advancing.account
  · exact .inr ⟨engaged, stuck.lost, stuck.taken⟩

/-- The stream has taken the start of the payload that the machine counts as
written, and what it has not told the machine yet. -/
theorem Accounted.taken_eq (accounted : Accounted sink payload before moment) :
    sink.taken moment.context.state =
      before ++ payload.take
        (moment.machine.total - moment.machine.remaining + moment.phase.untold) := by
  rcases accounted.going_or_lost with ⟨taken, going, already⟩ | ⟨engaged, lost, already⟩
  · rw [already, ← going.taken_eq]
  · rw [already, lost.untold_eq, engaged.total, Nat.add_zero]

/-- A request that is not empty offers what the stream has not taken. -/
theorem Accounted.offered (accounted : Accounted sink payload before moment) {exchange : Exchange}
    (asking : moment.phase = .asking exchange)
    (offers : exchange.carried.bytes moment.context.memory ≠ []) :
    exchange.carried.bytes moment.context.memory =
      payload.drop ((sink.taken moment.context.state).length - before.length) := by
  rcases moment with ⟨phase, machine, context⟩
  cases asking
  rcases accounted.going_or_lost with ⟨taken, going, already⟩ | ⟨engaged, lost, already⟩
  · rw [already, List.length_append, List.length_take, Nat.min_eq_left going.taken_le,
      Nat.add_sub_cancel_left]
    cases going with
    | asking engaged bytes => exact bytes
  · cases lost
    exact absurd rfl offers

/-- A drive that ends with a result ends with the right one, and the stream has
taken everything. -/
theorem Accounted.finished (accounted : Accounted sink payload before moment) {value : Nat}
    (finished : moment.phase = .resting (some (.finished value))) :
    value = payload.length ∧ sink.taken moment.context.state = before ++ payload := by
  rcases moment with ⟨phase, machine, context⟩
  cases finished
  rcases accounted.going_or_lost with ⟨taken, going, already⟩ | ⟨engaged, lost, already⟩
  · cases going with
    | done done total => exact ⟨rfl, already.trans (by rw [List.take_length])⟩
  · cases lost

/-- Once the stream has taken everything, the next step ends the drive. -/
theorem Accounted.next_finished (accounted : Accounted sink payload before moment)
    (all : sink.taken moment.context.state = before ++ payload) :
    (moment.next (handle concurrency stream)).phase =
      .resting (some (.finished payload.length)) := by
  rcases moment with ⟨phase, machine, context⟩
  rcases accounted.going_or_lost with ⟨taken, going, already⟩ | ⟨engaged, lost, already⟩
  · have whole : taken = payload.length := length_of_take_eq going.taken_le (already.symm.trans all)
    cases going with
    | fresh fresh loaded =>
      have done : machine.remaining = 0 := fresh.trans whole.symm
      simp only [Moment.next, Moment.resume, resume_of_done done, loaded.total, Phase.ofProgress]
    | done done total =>
      simp only [Moment.next, Moment.resume, resume_of_done done, total, Phase.ofProgress]
    | asking engaged bytes => exact absurd whole engaged.sub_ne
    | blocked engaged bytes => exact absurd whole engaged.sub_ne
    | @moved _ _ buffer count engaged bytes fits =>
      have something : count ≠ 0 := by
        rintro rfl
        exact engaged.sub_ne whole
      rcases resume_moved engaged.left (show (Output.mk buffer count).count ≠ 0 from something)
        context.memory with ⟨events, resumed⟩
      rcases engaged.loaded_absorb bytes fits with ⟨remaining, loaded⟩
      have done : (machine.absorb ⟨buffer, count⟩ context.memory).1.remaining = 0 := by
        have le := engaged.le
        omega
      simp only [Moment.next, Moment.resume, resumed, Step.after, resume_of_done done, loaded.total,
        Phase.ofProgress]
  · have whole := length_of_take_eq (Nat.sub_le _ _) (already.symm.trans all)
    exact absurd whole engaged.sub_ne

/-- A drive that ends with an error tells how much was and was not written. -/
theorem Accounted.failed (accounted : Accounted sink payload before moment) {error : StreamError}
    (failed : moment.phase = .resting (some (.failed error))) :
    ∃ remaining total written : Nat, error = .writeZero remaining total written ∧ 0 < remaining ∧
      (sink.taken moment.context.state).length = before.length + written ∧
      remaining + written = total ∧ total = payload.length := by
  rcases moment with ⟨phase, machine, context⟩
  cases failed
  rcases accounted.going_or_lost with ⟨taken, going, already⟩ | ⟨engaged, lost, already⟩
  · cases going
  · have le := engaged.le
    cases lost
    refine ⟨machine.remaining, machine.total, payload.length - machine.remaining, ?_,
      Nat.pos_of_ne_zero engaged.left, ?_, ?_, engaged.total⟩
    · rw [engaged.total, Int.ofNat_sub le]
    · rw [already, List.length_append, List.length_take, Nat.min_eq_left (Nat.sub_le _ _)]
    · exact (Nat.add_sub_of_le le).trans engaged.total.symm

/-- A machine whose drive has ended without a result is lost. -/
theorem Accounted.stuck (accounted : Accounted sink payload before moment)
    {ending : Ending Nat} (ended : moment.phase = .resting (some ending))
    (unsuccessful : ∀ value, ending ≠ .finished value) :
    moment.machine.Engaged payload.length ∧
      Stuck sink moment.machine (sink.taken moment.context.state) moment := by
  rcases accounted with advancing | ⟨engaged, stuck⟩
  · rcases moment with ⟨phase, machine, context⟩
    cases ended
    rcases advancing.account with ⟨taken, going, already⟩
    cases going with
    | done done total => exact absurd rfl (unsuccessful payload.length)
  · exact ⟨engaged, stuck.taken ▸ stuck⟩

end

/-! ## All moments -/

/-- However often a new machine is driven, at every moment after it has been
built the following holds.

The bytes that the stream has taken are the start of the payload that the
machine counts as written; only between a write and the call that reports it
does the count lag behind.  A request that is not empty offers exactly what
the stream has not taken.  A drive that ends with a result ends with the
length of the payload and everything taken, and it does so at the step after
everything has been taken.  A drive that ends with an error reports what was
and what was not written.  Where a drive has ended without a result, the
stream takes nothing more, and no later drive has a result.

Every drive that ends, whenever it begins, ends at one of these moments. -/
theorem writes_payload_once (sink : stream.Sink concurrency) (payload : Buffer) (memory : Memory)
    (journal : Array Event) {state : State} (ready : sink.Ready state) (steps : Nat) :
    let perform := handle concurrency stream
    let data := payload.bytes memory
    let before := sink.taken state
    let moment := (⟨.resting none, (make payload memory).1, ⟨memory, journal, state⟩⟩ :
      Moment WriteAll Nat State).later perform steps
    let taken := sink.taken moment.context.state
    (taken = before ++ data.take
      (moment.machine.total - moment.machine.remaining + moment.phase.untold)) ∧
    (∀ exchange, moment.phase = .asking exchange ->
      exchange.carried.bytes moment.context.memory ≠ [] ->
      exchange.carried.bytes moment.context.memory = data.drop (taken.length - before.length)) ∧
    (∀ value, moment.phase = .resting (some (.finished value)) ->
      value = data.length ∧ taken = before ++ data) ∧
    (taken = before ++ data ->
      (moment.next perform).phase = .resting (some (.finished data.length))) ∧
    (∀ error, moment.phase = .resting (some (.failed error)) ->
      ∃ remaining total written : Nat, error = .writeZero remaining total written ∧
        0 < remaining ∧ taken.length = before.length + written ∧ remaining + written = total ∧
        total = data.length) ∧
    (∀ ending, moment.phase = .resting (some ending) -> (∀ value, ending ≠ .finished value) ->
      ∀ more, sink.taken (moment.later perform more).context.state = taken ∧
        ∀ value, (moment.later perform more).phase ≠ .resting (some (.finished value))) ∧
    (∀ earlier limit, moment.phase = .resting earlier ->
      let run := drive concurrency stream limit moment.machine moment.context
      run.ending ≠ .unfinished ->
        ∃ more, moment.later perform more =
          ⟨.resting (some run.ending), run.machine, run.context⟩) := by
  intro perform data before moment taken
  have accounted : Accounted sink data before moment :=
    (accounted_make sink payload memory journal ready).later steps
  refine ⟨accounted.taken_eq, fun _ => accounted.offered, fun _ => accounted.finished,
    accounted.next_finished, fun _ => accounted.failed, ?_, ?_⟩
  · intro ending ended unsuccessful more
    rcases accounted.stuck ended unsuccessful with ⟨engaged, stuck⟩
    have stuckLater := stuck.later engaged more
    refine ⟨stuckLater.taken, fun value finished => ?_⟩
    have lost := stuckLater.lost
    rw [finished] at lost
    cases lost
  · intro earlier limit resting run ended
    exact Moment.exists_later_of_drive concurrency stream limit moment earlier resting ended

/-- A stream that takes two of three bytes, then cannot take any, and then
takes none: the machine reports it, and never has a result. -/
theorem writes_payload_once_of_refusal :
    let start : Scripted := ⟨[], [], [.upTo 2, .wouldBlock, .upTo 0], .empty, 0, 0⟩
    let perform := handle .blocking (Scripted.stream .blocking ⟨false, false, true, false⟩)
    let moment := (⟨.resting none, (make (.frozen [1, 2, 3]) .empty).1, ⟨.empty, #[], start⟩⟩ :
      Moment WriteAll Nat Scripted).later perform 7
    moment.phase = .resting (some (.failed (.writeZero 1 3 2))) ∧
      ∀ more, (moment.later perform more).context.state.sink.bytes = [1, 2] ∧
        ∀ value, (moment.later perform more).phase ≠ .resting (some (.finished value)) := by
  intro start perform moment
  have refused : moment.phase = .resting (some (.failed (.writeZero 1 3 2))) := rfl
  have honest : start.IsHonest := rfl
  have writes := writes_payload_once
    (Scripted.honestSink .blocking .blocking ⟨false, false, true, false⟩ rfl) (.frozen [1, 2, 3])
    .empty #[] honest 7
  exact ⟨refused, writes.2.2.2.2.2.1 _ refused nofun⟩

end WriteAll

end ResumableStreams
