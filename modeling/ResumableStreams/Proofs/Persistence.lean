import ResumableStreams.Proofs.Completeness
import ResumableStreams.Proofs.Exactness
import ResumableStreams.Proofs.Imitation

namespace ResumableStreams

/-!
# A failed read loses nothing

A stream may fail at any read, as long as such a read moves nothing.  The drive
then fails with the error of the stream and asks nothing more of it, and the
machine may be driven again.  If it is, as often as the stream fails, the last
drive comes to what a single drive would have come to.

The argument gives every machine a prospect: what driving it comes to, and what
that leaves unread, where the stream still has certain bytes to give.  Bytes
that move from the stream to the machine do not change the prospect.  A failure
does not change it either, since the machine keeps everything it has collected
and lends a new buffer when it is driven again.  Only the buffer that was lent
out is lost, and nothing is in it.
-/

/-- The stream has failed in the last exchange of the run.  Whatever else has
ended the run, the machine itself has, or the limit. -/
def Run.interrupted {Machine Value State : Type} (run : Run Machine Value State) : Bool :=
  run.turns.getLast?.any fun turn => turn.result = .raised

/-- The newest of the exchanges has been answered, if there is one. -/
def Answered (turns : List Turn) : Prop :=
  ∀ turn ∈ turns.head?, turn.result ≠ .raised

theorem answered_nil : Answered [] := by
  intro turn member
  cases member

theorem answered_cons (request reply : Exchange) (size : Nat) (turns : List Turn) :
    Answered (⟨request, size, .ofAnswer reply⟩ :: turns) := by
  intro turn member
  rw [List.head?_cons, Option.mem_some_iff] at member
  subst member
  unfold Turn.Result.ofAnswer
  split <;> exact nofun

/-- A run that ends after an answer has not been interrupted. -/
theorem Answered.interrupted {Machine Value State : Type} {turns : List Turn}
    (answered : Answered turns) (ending : Ending Value) (machine : Machine)
    (context : Context State) :
    Run.interrupted ⟨ending, machine, context, turns.reverse⟩ = false := by
  rw [Run.interrupted, List.getLast?_reverse, Option.any_eq_false_iff_get]
  intro newest
  exact decide_eq_false (answered _ (Option.get_mem newest))

section

variable {Machine Value State : Type} [Resumable Machine Value]

/-- A machine that comes to rest ends the drive, also where its step fails. -/
theorem driveFrom_resting
    {perform : Exchange -> Context State -> Except Fault Exchange × Context State}
    {machine : Machine} {answer : Option Exchange} {context : Context State} {turns : List Turn}
    {ending : Ending Value} (limit : Nat)
    (rests : Phase.ofProgress (Resumable.resume machine answer context.memory).progress =
      .resting (some ending)) :
    let step := Resumable.resume machine answer context.memory
    driveFrom perform (limit + 1) machine answer context turns =
      ⟨ending, step.machine, context.after step.memory step.events, turns.reverse⟩ := by
  intro step
  cases stepped : step with
  | mk progress after memory events =>
    have stepped : Resumable.resume machine answer context.memory =
        ⟨progress, after, memory, events⟩ := stepped
    rw [stepped] at rests
    cases progress with
    | needs exchange => cases rests
    | finished value =>
      cases rests
      exact driveFrom_finished limit stepped
    | endOfStream =>
      cases rests
      exact driveFrom_endOfStream limit stepped
    | failed error =>
      cases rests
      exact driveFrom_failed limit stepped
    | raised fault =>
      cases rests
      exact driveFrom_of_raised limit stepped

/-- Drive a machine, and drive it again whenever the stream has failed, so many
times at most. -/
def drives (concurrency : Concurrency) (stream : Stream State) (limit : Nat) :
    (times : Nat) -> Machine -> Context State -> List (Run Machine Value State)
  | 0, _, _ => []
  | times + 1, machine, context =>
    let run := drive concurrency stream limit machine context
    if run.interrupted then
      run :: drives concurrency stream limit times run.machine run.context
    else [run]

theorem drives_of_interrupted {concurrency : Concurrency} {stream : Stream State} {limit : Nat}
    {machine : Machine} {context : Context State} (times : Nat)
    (interrupted : (drive concurrency stream limit machine context).interrupted = true) :
    drives concurrency stream limit (times + 1) machine context =
      let run := drive concurrency stream limit machine context
      run :: drives concurrency stream limit times run.machine run.context :=
  if_pos interrupted

theorem drives_of_not_interrupted {concurrency : Concurrency} {stream : Stream State}
    {limit : Nat} {machine : Machine} {context : Context State} (times : Nat)
    (own : (drive concurrency stream limit machine context).interrupted = false) :
    drives concurrency stream limit (times + 1) machine context =
      [drive concurrency stream limit machine context] := by
  rw [drives, if_neg (Bool.eq_false_iff.mp own)]

end

/-! ## Streams that fail now and then -/

namespace Stream

variable {State : Type}

/-- What a stream still has to give, and a bound on how often it will fail to
give it, in each state in which it may be read.  A read that fails moves
nothing, but it may leave anything in the buffer. -/
structure Faltering (stream : Stream State) (concurrency : Concurrency) where
  Ready : State -> Prop
  rest : State -> Bytes
  failures : State -> Nat
  fill : ∀ contents state, Ready state -> contents ≠ [] ->
    let read := stream.fill concurrency ⟨contents, true⟩ state
    Ready read.2 ∧
      ((∃ count, read.1.Delivers contents (rest state) count ∧
          rest read.2 = (rest state).drop count ∧ failures read.2 ≤ failures state) ∨
        ∃ fault, read.1.reply = .raised fault ∧
          rest read.2 = rest state ∧ failures read.2 < failures state)

variable {stream : Stream State} {concurrency : Concurrency}

/-- A stream that gives what it holds never fails. -/
def Supply.faltering (supply : stream.Supply concurrency) : stream.Faltering concurrency where
  Ready := supply.Ready
  rest := supply.rest
  failures _ := 0
  fill := by
    intro contents state ready room read
    rcases supply.fill contents state ready room with ⟨readyAfter, count, delivered, rest⟩
    exact ⟨readyAfter, .inl ⟨count, delivered, rest, Nat.le_refl 0⟩⟩

/-- What performing a read into `cell` may come to. -/
inductive Faltering.Performs (faltering : stream.Faltering concurrency) (cell : Cell)
    (before after : Context State) : Except Fault Exchange -> Prop where
  | moved (count : Nat)
      (held : after.memory.Holds cell)
      (length : (after.memory.contents cell).length = (before.memory.contents cell).length)
      (start : (after.memory.contents cell).take count =
        (faltering.rest before.state).take count)
      (count_le_length : count ≤ (before.memory.contents cell).length)
      (count_le_rest : count ≤ (faltering.rest before.state).length)
      (exhausted : count = 0 -> faltering.rest before.state = [])
      (rest : faltering.rest after.state = (faltering.rest before.state).drop count)
      (failures : faltering.failures after.state ≤ faltering.failures before.state) :
      Performs faltering cell before after (.ok ⟨.read, .response ⟨.shared cell, count⟩⟩)
  | failed (fault : Fault)
      (rest : faltering.rest after.state = faltering.rest before.state)
      (failures : faltering.failures after.state < faltering.failures before.state) :
      Performs faltering cell before after (.error fault)

theorem Faltering.exists_handle (faltering : stream.Faltering concurrency)
    {context : Context State} {cell : Cell} (ready : faltering.Ready context.state)
    (held : context.memory.Holds cell) (room : context.memory.contents cell ≠ []) :
    ∃ result after,
      handle concurrency stream ⟨.read, .request (.shared cell)⟩ context = (result, after) ∧
      faltering.Ready after.state ∧ faltering.Performs cell context after result := by
  rcases faltering.fill _ context.state ready room with ⟨readyAfter, outcome⟩
  cases filled : stream.fill concurrency ⟨context.memory.contents cell, true⟩ context.state with
  | mk filling state =>
    simp only [filled] at readyAfter outcome
    rcases outcome with ⟨count, delivered, rest, failures⟩ | ⟨fault, raised, rest, failures⟩
    · rcases exists_handle_of_delivers held filled delivered with
        ⟨after, handled, rfl, heldAfter, stored⟩
      refine ⟨_, after, handled, readyAfter, ?_⟩
      exact .moved count heldAfter (by rw [stored, delivered.length])
        (by rw [stored, delivered.start]) delivered.count_le_length delivered.count_le_rest
        delivered.exhausted rest failures
    · rcases exists_handle_of_raised filled raised with ⟨after, handled, rfl⟩
      exact ⟨_, after, handled, readyAfter, .failed fault rest failures⟩

end Stream

/-! ## Prospects -/

/-- The type of machines whose prospects survive failures of the stream. -/
class Persevering (Machine : Type) [Resumable Machine Bytes] where
  /-- The machine may be driven. -/
  Ready : Machine -> Memory -> Prop
  /-- The machine has lent the buffer out. -/
  Waits : Machine -> Cell -> Memory -> Prop
  /-- What driving the machine comes to, and what it leaves unread, where the
  stream has `rest` to give. -/
  prospect : Machine -> (rest : Bytes) -> Ending Bytes × Bytes
  ends_prospect : ∀ machine rest, (prospect machine rest).1 ≠ .unfinished
  begins : ∀ {machine memory}, Ready machine memory ->
    (∃ ending,
      Phase.ofProgress (Resumable.resume machine none memory).progress = .resting (some ending) ∧
      ∀ rest, prospect machine rest = (ending, rest)) ∨
    ∃ cell waiting after events,
      Resumable.resume machine none memory =
        ⟨.needs ⟨.read, .request (.shared cell)⟩, waiting, after, events⟩ ∧
      Waits waiting cell after ∧ prospect waiting = prospect machine
  lent : ∀ {machine cell memory}, Waits machine cell memory ->
    memory.Holds cell ∧ memory.contents cell ≠ []
  /-- Nothing about a machine that waits hangs on what its buffer holds. -/
  filled : ∀ {machine cell before after}, Waits machine cell before -> after.Holds cell ->
    (after.contents cell).length = (before.contents cell).length -> Waits machine cell after
  /-- Bytes that are taken are bytes that are no longer to come. -/
  takes : ∀ {machine cell memory count rest}, Waits machine cell memory -> 0 < count ->
    count ≤ (memory.contents cell).length -> count ≤ rest.length ->
    (memory.contents cell).take count = rest.take count ->
    ∃ next after events,
      Resumable.resume machine (some ⟨.read, .response ⟨.shared cell, count⟩⟩) memory =
        (Resumable.resume next none after).after events ∧
      Ready next after ∧ prospect next (rest.drop count) = prospect machine rest
  ends : ∀ {machine cell memory}, Waits machine cell memory -> ∃ ending,
    Phase.ofProgress (Resumable.resume machine (some ⟨.read, .response ⟨.shared cell, 0⟩⟩)
      memory).progress = .resting (some ending) ∧ prospect machine [] = (ending, [])
  /-- A machine that will not get its buffer back may be driven again, whatever
  has happened to the buffers. -/
  again : ∀ {machine cell before}, Waits machine cell before -> ∀ memory, Ready machine memory

namespace Persevering

variable {Machine State : Type} [Resumable Machine Bytes] [Persevering Machine]
  {stream : Stream State} {concurrency : Concurrency}

/-- The stream has failed, and what remains to be done is done by driving again. -/
structure Interrupted (faltering : stream.Faltering concurrency) (machine : Machine)
    (state : State) (run : Run Machine Bytes State) : Prop where
  raised : ∃ fault, run.ending = .raised fault
  interrupted : run.interrupted = true
  ready : Ready run.machine run.context.memory
  source : faltering.Ready run.context.state
  prospect : prospect run.machine (faltering.rest run.context.state) =
    prospect machine (faltering.rest state)
  length : (faltering.rest run.context.state).length ≤ (faltering.rest state).length
  failures : faltering.failures run.context.state < faltering.failures state

/-- A drive comes to its prospect, or the stream fails on the way. -/
def Comes (faltering : stream.Faltering concurrency) (machine : Machine) (state : State)
    (run : Run Machine Bytes State) : Prop :=
  ((run.ending, faltering.rest run.context.state) = prospect machine (faltering.rest state) ∧
      run.interrupted = false) ∨
    Interrupted faltering machine state run

/-- What a drive comes to once some bytes have been taken is what it comes to. -/
theorem Comes.of_taken {faltering : stream.Faltering concurrency} {machine next : Machine}
    {state after : State} {run : Run Machine Bytes State} (comes : Comes faltering next after run)
    (same : Persevering.prospect next (faltering.rest after) =
      Persevering.prospect machine (faltering.rest state))
    (length : (faltering.rest after).length ≤ (faltering.rest state).length)
    (failures : faltering.failures after ≤ faltering.failures state) :
    Comes faltering machine state run := by
  rcases comes with ⟨ended, own⟩ | interrupted
  · exact .inl ⟨ended.trans same, own⟩
  · exact .inr
      { interrupted with
        prospect := interrupted.prospect.trans same
        length := Nat.le_trans interrupted.length length
        failures := Nat.lt_of_lt_of_le interrupted.failures failures }

/-- The limit leaves room for one request per byte and one for the end.  The
induction is on the limit, since every round either takes bytes or is the
last. -/
theorem comes_driveFrom (faltering : stream.Faltering concurrency) (limit : Nat)
    {machine : Machine} {context : Context State} {turns : List Turn} (answered : Answered turns)
    (ready : Ready machine context.memory) (source : faltering.Ready context.state)
    (enough : (faltering.rest context.state).length + 1 < limit) :
    Comes faltering machine context.state
      (driveFrom (handle concurrency stream) limit machine none context turns) := by
  induction limit generalizing machine context turns with
  | zero => exact absurd enough (Nat.not_lt_zero _)
  | succ limit inductionHypothesis =>
    rcases begins ready with
      ⟨ending, rests, same⟩ | ⟨cell, waiting, memory, events, asked, waits, same⟩
    · rw [driveFrom_resting limit rests]
      exact .inl ⟨(same _).symm, answered.interrupted _ _ _⟩
    · rcases lent waits with ⟨held, room⟩
      have readyAfter : faltering.Ready (context.after memory events).state := source
      rcases faltering.exists_handle readyAfter held room with
        ⟨result, reached, handled, sourceAfter, performed⟩
      cases performed with
      | failed fault rest failures =>
        rw [driveFrom_raised limit asked handled]
        have unread : faltering.rest reached.state = faltering.rest context.state := rest
        refine .inr ⟨⟨fault, rfl⟩, ?_, again waits _, sourceAfter, ?_, ?_, failures⟩
        · rw [Run.interrupted, List.getLast?_reverse]
          rfl
        · rw [same, unread]
        · exact Nat.le_of_eq (congrArg List.length unread)
      | moved count heldAfter length start fits there exhausted rest failures =>
        rw [driveFrom_needs limit asked handled]
        have waitsAfter := filled waits heldAfter length
        have there : count ≤ (faltering.rest context.state).length := there
        have rest : faltering.rest reached.state = (faltering.rest context.state).drop count := rest
        -- The answer needs another round, and the limit allows for it.
        cases limit with
        | zero => omega
        | succ limit =>
          by_cases ended : count = 0
          · subst ended
            have nothing : faltering.rest context.state = [] := exhausted rfl
            rcases ends waitsAfter with ⟨ending, rests, promised⟩
            rw [driveFrom_resting limit rests]
            refine .inl ⟨?_, (answered_cons _ _ _ turns).interrupted _ _ _⟩
            rw [nothing, ← same, promised, Context.state_after, rest, nothing, List.drop_nil]
          · rcases takes waitsAfter (Nat.pos_of_ne_zero ended) (length ▸ fits) there start with
              ⟨next, after, events', taken, readyNext, promised⟩
            rw [driveFrom_of_resume_eq limit _ taken]
            have shorter : (faltering.rest reached.state).length + count =
                (faltering.rest context.state).length := by
              rw [rest, List.length_drop]
              omega
            have comes := fun turns' answered' =>
              @inductionHypothesis next (reached.after after events') turns' answered' readyNext
                sourceAfter (by rw [Context.state_after]; omega)
            apply (comes _ (answered_cons _ _ _ _)).of_taken
            · rw [Context.state_after, rest, promised, same]
            · rw [Context.state_after]
              omega
            · exact failures

/-- Driven again after each failure, a machine comes to its prospect. -/
theorem exists_drives (faltering : stream.Faltering concurrency) {limit times : Nat}
    {machine : Machine} {context : Context State} (ready : Ready machine context.memory)
    (source : faltering.Ready context.state)
    (enough : (faltering.rest context.state).length + 1 < limit)
    (often : faltering.failures context.state < times) :
    ∃ broken last,
      drives concurrency stream limit times machine context = broken ++ [last] ∧
      (∀ run ∈ broken, run.interrupted = true ∧ ∃ fault, run.ending = .raised fault) ∧
      last.interrupted = false ∧
      (last.ending, faltering.rest last.context.state) =
        prospect machine (faltering.rest context.state) := by
  induction times generalizing machine context with
  | zero => exact absurd often (Nat.not_lt_zero _)
  | succ times inductionHypothesis =>
    rcases comes_driveFrom faltering limit answered_nil ready source enough with
      ⟨ended, own⟩ | interrupted
    · refine ⟨[], drive concurrency stream limit machine context,
        drives_of_not_interrupted times own, ?_, own, ended⟩
      intro run member
      cases member
    · rcases inductionHypothesis interrupted.ready interrupted.source
        (Nat.lt_of_le_of_lt (Nat.succ_le_succ interrupted.length) enough)
        (Nat.lt_of_lt_of_le interrupted.failures (Nat.le_of_lt_succ often)) with
        ⟨broken, last, driven, failed, own, ended⟩
      refine ⟨drive concurrency stream limit machine context :: broken, last, ?_, ?_, own,
        ended.trans interrupted.prospect⟩
      · rw [drives_of_interrupted times interrupted.interrupted]
        exact congrArg _ driven
      · intro run member
        rcases List.mem_cons.mp member with rfl | member
        · exact ⟨interrupted.interrupted, interrupted.raised⟩
        · exact failed run member

end Persevering

/-! ## The two machines that gather bytes -/

instance : Persevering ReadExact where
  Ready := ReadExact.Ready
  Waits := ReadExact.Waits
  prospect machine rest :=
    (ReadExact.outcome machine.target machine.collected.bytes rest, rest.drop machine.remaining)
  ends_prospect := by
    intro machine rest
    simp only [ReadExact.outcome, ReadExact.shortage]
    split
    · exact nofun
    · split <;> exact nofun
  begins := by
    intro machine memory ready
    by_cases complete : machine.Complete
    · have nothing : machine.remaining = 0 := Nat.sub_eq_zero_of_le complete
      refine .inl ⟨.finished machine.collected.bytes, ?_, ?_⟩
      · rw [ReadExact.resume_of_complete complete]
        rfl
      · intro rest
        rw [ReadExact.outcome_of_complete complete, nothing, List.drop_zero]
    · rcases ready.exists_request complete with
        ⟨cell, waiting, after, events, asked, waits, target, collected⟩
      refine .inr ⟨cell, waiting, after, events, asked, waits, ?_⟩
      funext rest
      simp only [ReadExact.remaining, target, collected]
  lent := by
    intro machine cell memory waits
    exact ⟨waits.held, List.length_pos_iff.mp (waits.length ▸ waits.room)⟩
  filled := fun waits held length => waits.of_length held length
  takes := by
    intro machine cell memory count rest waits positive fits there start
    rcases waits.receive_bytes positive with ⟨events, taken⟩
    have missing : count ≤ machine.remaining :=
      Nat.le_trans (waits.length ▸ fits) waits.fits
    have bytes : (machine.fed cell count memory).1.collected.bytes =
        machine.collected.bytes ++ rest.take count := by
      rw [ReadExact.bytes_fed, start]
    refine ⟨_, _, events, taken, waits.ready_fed count, ?_⟩
    apply Prod.ext
    · rw [ReadExact.remaining_eq_sub] at missing
      simp only [bytes]
      exact ReadExact.outcome_append missing there
    · have left : machine.remaining = count + (machine.fed cell count memory).1.remaining :=
        ReadExact.remaining_of_taken rfl bytes missing there
      simp only [List.drop_drop, left]
  ends := by
    intro machine cell memory waits
    rcases waits.receive_end with ⟨events, taken⟩
    refine ⟨ReadExact.shortage machine.remaining machine.target machine.collected.bytes, ?_, ?_⟩
    · rw [taken, ReadExact.reporting_shortage, ReadExact.shortage]
      split <;> rfl
    · rw [ReadExact.outcome_nil waits.incomplete, List.drop_nil]
  again := by
    intro machine cell before waits memory
    exact ⟨Read.armed_of_lent waits.lent memory, fun _ => waits.room⟩

instance : Persevering ReadToEnd where
  Ready := ReadToEnd.Ready
  Waits := ReadToEnd.Waits
  prospect machine rest := (.finished (machine.collected.bytes ++ rest), [])
  ends_prospect _ _ := nofun
  begins := by
    intro machine memory ready
    rcases ready.exists_waits with ⟨cell, waiting, after, asked, waits, collected⟩
    refine .inr ⟨cell, waiting, after, [.readRequested], asked, waits, ?_⟩
    funext rest
    rw [collected]
  lent := fun waits => ⟨waits.held, waits.room⟩
  filled := fun waits held length => waits.of_length held length
  takes := by
    intro machine cell memory count rest waits positive fits there start
    have moved : (Output.mk (.shared cell) count).count ≠ 0 := Nat.ne_of_gt positive
    refine ⟨_, _, _, machine.resume_bytes moved memory,
      machine.ready_of_replace _ waits.held waits.room, ?_⟩
    have bytes : (machine.absorb ⟨.shared cell, count⟩ memory).1.collected.bytes =
        machine.collected.bytes ++ rest.take count := by
      rw [ReadToEnd.bytes_absorb]
      exact congrArg _ start
    rw [bytes, List.append_assoc, List.take_append_drop]
  ends := by
    intro machine cell memory waits
    refine ⟨.finished machine.collected.bytes, ?_, ?_⟩
    · rw [machine.resume_end]
      rfl
    · rw [List.append_nil]
  again := by
    intro machine cell before waits memory
    exact ⟨Read.armed_of_lent waits.lent memory, waits.capacity⟩

/-! ## New machines -/

/-- A machine is built only where it is not refused and its inner machine is not
refused, and it has collected nothing. -/
theorem ReadExact.of_make {target capacity : Int} {memory : Memory} {machine : ReadExact}
    (built : (make target capacity memory).result = .ok machine) :
    (0 < target -> 0 < capacity) ∧
      ∃ read, (Read.make (min capacity target) memory).result = .ok read ∧
        machine = ⟨target.toNat, read, .empty⟩ ∧
        (make target capacity memory).memory = (Read.make (min capacity target) memory).memory := by
  unfold make at built ⊢
  by_cases negative : target < 0
  · rw [if_pos negative] at built
    cases built
  · rw [if_neg negative] at built ⊢
    by_cases useless : capacity ≤ 0 ∧ target > 0
    · rw [if_pos useless] at built
      cases built
    · rw [if_neg useless] at built ⊢
      cases inner : (Read.make (min capacity target) memory).result with
      | error fault =>
        simp only [inner] at built
        cases built
      | ok read =>
        simp only [inner] at built
        cases built
        exact ⟨by omega, read, rfl, rfl, rfl⟩

/-- A new machine misses its target. -/
theorem ReadExact.blank_make {target capacity : Int} {memory : Memory} {machine : ReadExact}
    (built : (make target capacity memory).result = .ok machine) :
    machine.target = target.toNat ∧ machine.collected = .empty := by
  rcases of_make built with ⟨-, read, -, rfl, -⟩
  exact ⟨rfl, rfl⟩

/-- Whatever target and capacity are accepted, the new machine may be driven. -/
theorem ReadExact.ready_make {target capacity : Int} {memory : Memory} {machine : ReadExact}
    (built : (make target capacity memory).result = .ok machine) :
    machine.Ready (make target capacity memory).memory := by
  rcases of_make built with ⟨useful, read, inner, rfl, same⟩
  rcases Read.armed_make inner with ⟨armed, room⟩
  refine ⟨same ▸ armed, ?_⟩
  intro (wanted : 0 < target.toNat)
  change 0 < read.capacity
  omega

theorem ReadToEnd.of_make {capacity : Int} {memory : Memory} {machine : ReadToEnd}
    (built : (make capacity memory).result = .ok machine) :
    0 < capacity ∧
      ∃ read, (Read.make capacity memory).result = .ok read ∧ machine = ⟨read, .empty⟩ ∧
        (make capacity memory).memory = (Read.make capacity memory).memory := by
  unfold make at built ⊢
  by_cases useless : capacity ≤ 0
  · rw [if_pos useless] at built
    cases built
  · rw [if_neg useless] at built ⊢
    cases inner : (Read.make capacity memory).result with
    | error fault =>
      simp only [inner] at built
      cases built
    | ok read =>
      simp only [inner] at built
      cases built
      exact ⟨Int.not_le.mp useless, read, rfl, rfl, rfl⟩

theorem ReadToEnd.ready_make {capacity : Int} {memory : Memory} {machine : ReadToEnd}
    (built : (make capacity memory).result = .ok machine) :
    machine.Ready (make capacity memory).memory := by
  rcases of_make built with ⟨useful, read, inner, rfl, same⟩
  rcases Read.armed_make inner with ⟨armed, room⟩
  refine ⟨same ▸ armed, ?_⟩
  change 0 < read.capacity
  omega

/-- A new machine has collected nothing. -/
theorem ReadToEnd.collected_make {capacity : Int} {memory : Memory} {machine : ReadToEnd}
    (built : (make capacity memory).result = .ok machine) : machine.collected = .empty := by
  rcases of_make built with ⟨-, read, -, rfl, -⟩
  rfl

/-! ## Driving until it is done -/

/-- Driven on any stream that fails now and then, again after each failure, the
machine comes to what one drive comes to on a stream that gives the same bytes
and never fails: to the same ending, with the same bytes unread.  Neither the
stream nor the limit is to blame for that ending. -/
def LosesNothing {Machine : Type} [Resumable Machine Bytes] (machine : Machine)
    (memory : Memory) : Prop :=
  ∀ ⦃State Calm : Type⦄ ⦃stream : Stream State⦄ ⦃calm : Stream Calm⦄
    ⦃concurrency asked : Concurrency⦄ (faltering : stream.Faltering concurrency)
    (supply : calm.Supply asked) (journal journal' : Array Event) (state : State) (start : Calm)
    (limit limit' times : Nat),
    faltering.Ready state -> supply.Ready start -> supply.rest start = faltering.rest state ->
    (faltering.rest state).length + 1 < limit -> (supply.rest start).length + 1 < limit' ->
    faltering.failures state < times ->
    let whole := drive asked calm limit' machine ⟨memory, journal', start⟩
    ∃ (broken : List (Run Machine Bytes State)) (last : Run Machine Bytes State),
      drives concurrency stream limit times machine ⟨memory, journal, state⟩ = broken ++ [last] ∧
      (∀ run ∈ broken, run.interrupted = true ∧ ∃ fault, run.ending = .raised fault) ∧
      last.interrupted = false ∧ whole.interrupted = false ∧ whole.ending ≠ .unfinished ∧
      last.ending = whole.ending ∧
      faltering.rest last.context.state = supply.rest whole.context.state

theorem Persevering.losesNothing {Machine : Type} [Resumable Machine Bytes] [Persevering Machine]
    {machine : Machine} {memory : Memory} (ready : Ready machine memory) :
    LosesNothing machine memory := by
  intro State Calm stream calm concurrency asked faltering supply journal journal' state start limit
    limit' times source calmSource same enough enough' often whole
  have final := ends_prospect machine (supply.rest start)
  rcases @exists_drives _ _ _ _ _ _ faltering limit times machine ⟨memory, journal, state⟩ ready
    source enough often with ⟨broken, last, driven, failed, own, ended⟩
  -- A stream that never fails leaves nothing to be driven again.
  have ended' : (whole.ending, supply.rest whole.context.state) =
      prospect machine (supply.rest start) ∧ whole.interrupted = false := by
    rcases @comes_driveFrom _ _ _ _ _ _ supply.faltering limit' machine
      ⟨memory, journal', start⟩ [] answered_nil ready calmSource enough' with ended | interrupted
    · exact ended
    · exact absurd interrupted.failures (Nat.lt_irrefl 0)
  rw [← ended'.1] at final
  refine ⟨broken, last, driven, failed, own, ended'.2, final, ?_⟩
  apply Prod.mk.inj
  rw [ended, ended'.1, same]

/-! ## Scripted streams that fail -/

namespace Scripted

/-- What is prescribed moves something if it can, or fails. -/
def IsFaltering (stream : Scripted) : Prop :=
  ∀ prescription ∈ stream.reads, prescription.isSteady = true ∨
    ∃ kind text, prescription = .raise kind text

/-- How many of the prescribed reads move nothing. -/
def failures (stream : Scripted) : Nat :=
  stream.reads.countP fun prescription => !prescription.isSteady

theorem readInto_of_raise {stream : Scripted} {kind text : String}
    {later : List Prescription} (prescribed : stream.reads = .raise kind text :: later)
    (lent : Lent) :
    stream.readInto lent = (lent.untouched (.raised (.scripted kind text)),
      { stream with reads := later, calls := stream.calls + 1 }) := by
  simp only [readInto, nextRead, prescribed, List.headD_cons, List.tail_cons]

/-- A scripted stream fails as often as its script says. -/
def faltering (made asked : Concurrency) (faces : Faces) (reads : faces.readInto = true) :
    (Scripted.stream made faces).Faltering asked where
  Ready := IsFaltering
  rest := Scripted.remaining
  failures := failures
  fill := by
    intro contents stream script room
    rw [fill_eq_readInto made asked reads]
    refine ⟨?_, ?_⟩
    · intro prescription member
      rw [reads_readInto] at member
      exact script prescription (List.mem_of_mem_tail member)
    · unfold IsFaltering at script
      unfold failures
      rw [reads_readInto]
      cases prescribed : stream.reads with
      | nil =>
        have moves : stream.upcoming.isSteady = true := by
          rw [Scripted.upcoming, prescribed]
          rfl
        rcases exists_delivers moves room with ⟨count, delivered, rest⟩
        exact .inl ⟨count, delivered, rest, Nat.le_refl _⟩
      | cons prescription later =>
        rw [prescribed] at script
        rcases script prescription List.mem_cons_self with steady | ⟨kind, text, rfl⟩
        · have moves : stream.upcoming.isSteady = true := by
            rw [Scripted.upcoming, prescribed]
            exact steady
          rcases exists_delivers moves room with ⟨count, delivered, rest⟩
          refine .inl ⟨count, delivered, rest, ?_⟩
          exact (List.sublist_cons_self _ _).countP_le
        · rw [readInto_of_raise prescribed]
          refine .inr ⟨_, rfl, rfl, ?_⟩
          rw [List.countP_cons_of_pos rfl]
          exact Nat.lt_succ_self _

end Scripted

/-! ## Interrupted drives -/

/-- In any drive of any machine, an error of the stream is the last that the
machine's driver hears of the stream, and it is what the drive fails with.

And no such error loses anything.  Take a machine that reads exactly so many
bytes, or one that reads to the end, of any capacity and with any seeds, and a
stream that gives what it holds in pieces of any size, save that any number of
its reads fail.  The machine, driven again after each failure, comes to what it
would have come to in a single drive without failures: to the same value, the
same report of what was missing or the same failure to build one, and with the
same bytes left unread. -/
theorem interrupted_drives_lose_nothing :
    (∀ {Machine Value State : Type} [Resumable Machine Value] (stream : Stream State)
      (concurrency : Concurrency) (limit : Nat) (machine : Machine) (memory : Memory)
      (journal : Array Event) (state : State),
      let run := drive concurrency stream limit machine ⟨memory, journal, state⟩
      let watched := drive concurrency (stream.recorded concurrency) limit machine
        ⟨memory, journal, ([], state)⟩
      run.Beside (fun reached record => record.2 = reached) watched ∧
        Stream.ErrorsLast watched.context.state.1 fun fault => run.ending = .raised fault) ∧
    (∀ (target capacity : Int) (seeds : List Bytes) (memory : Memory) (machine : ReadExact),
      (ReadExact.make target capacity memory).result = .ok machine ->
      LosesNothing (seeds.foldl ReadExact.extend machine)
        (ReadExact.make target capacity memory).memory) ∧
    ∀ (capacity : Int) (seeds : List Bytes) (memory : Memory) (machine : ReadToEnd),
      (ReadToEnd.make capacity memory).result = .ok machine ->
      LosesNothing (seeds.foldl ReadToEnd.extend machine)
        (ReadToEnd.make capacity memory).memory := by
  refine ⟨?_, ?_, ?_⟩
  · intro Machine Value State _ stream concurrency limit machine memory journal state run watched
    have beside : run.Beside (fun reached record => record.2 = reached) watched :=
      (stream.imitates_recorded concurrency).drive limit machine ⟨rfl, rfl⟩
    refine ⟨beside, ?_⟩
    rcases stream.replies_driveFrom concurrency limit machine none ⟨memory, journal, ([], state)⟩
      [] with ⟨replies, noted, last⟩
    have noted : watched.context.state.1 = replies := noted
    rw [noted, ← beside.ending]
    exact last
  · intro target capacity seeds memory machine built
    exact Persevering.losesNothing ((ReadExact.ready_make built).seeded seeds)
  · intro capacity seeds memory machine built
    exact Persevering.losesNothing ((ReadToEnd.ready_make built).seeded seeds)

/-- A stream fails twice on the way to the fourth of its six bytes, which
together with a seed of one complete the five that are asked for. -/
theorem interrupted_drives_lose_nothing_of_two :
    let start : Scripted :=
      ⟨[1, 2, 3, 4, 5, 6], [.raise "OSError" "reset", .upTo 2, .raise "OSError" "reset"], [],
        .empty, 0, 0⟩
    let stream := Scripted.stream .blocking ⟨true, false, false, false⟩
    let built := ReadExact.create 5 3 .empty
    let machine := [[9]].foldl ReadExact.extend built.1
    let whole := drive .asynchronous MemoryFile.stream 8 machine
      ⟨built.2, #[], MemoryFile.ofBytes [1, 2, 3, 4, 5, 6]⟩
    ∃ broken last,
      drives .blocking stream 8 3 machine ⟨built.2, #[], start⟩ = broken ++ [last] ∧
      (∀ run ∈ broken, run.interrupted = true ∧ ∃ fault, run.ending = .raised fault) ∧
      last.interrupted = false ∧ whole.interrupted = false ∧ whole.ending ≠ .unfinished ∧
      last.ending = whole.ending ∧
      last.context.state.remaining = whole.context.state.unread := by
  intro start stream built machine whole
  have script : start.IsFaltering := by
    simp [Scripted.IsFaltering, start, Prescription.isSteady]
  have twice : start.failures < 3 := by decide
  have content : start.remaining = [1, 2, 3, 4, 5, 6] := rfl
  have made : (ReadExact.make 5 3 .empty).result = .ok built.1 ∧
      (ReadExact.make 5 3 .empty).memory = built.2 := ⟨rfl, rfl⟩
  have loses := interrupted_drives_lose_nothing.2.1 5 3 [[9]] .empty built.1 made.1
  rw [made.2] at loses
  -- What the script says must not be computed with from here on.
  clear_value start built
  have lost := loses (Scripted.faltering .blocking .blocking ⟨true, false, false, false⟩ rfl)
    (MemoryFile.supply .asynchronous) #[] #[] start (MemoryFile.ofBytes [1, 2, 3, 4, 5, 6]) 8 8 3
    script rfl content.symm
  apply lost
  · change start.remaining.length + 1 < 8
    rw [content]
    decide
  · decide
  · exact twice

end ResumableStreams
