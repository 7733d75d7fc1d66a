import ResumableStreams.Proofs.Endurance
import ResumableStreams.Proofs.Transparency
import ResumableStreams.Run.Drive

namespace ResumableStreams

/-!
# How a transfer treats a file

A transfer drives one machine on a local stream before a file, perhaps flushes
the stream, and closes it in any case.  Here the file may do anything whatever:
it may move as few bytes as it likes, fail at any call, say what is not true,
and even have other operations later than before.

A `traced` file keeps a record of all calls that come to it.  What a transfer
may do to a file is read off this record.  The calls of a drive are reads only,
or writes only; a flush comes after the last write, if everything has been
taken; and the last call closes the file, if it is the stream's own.
-/

/-! ## A file that remembers its calls -/

/-- A call that a file has got, with what it has replied. -/
inductive FileCall where
  | moved (direction : Direction) (reply : Reply)
  | flushed (fault : Option Fault)
  | closed (fault : Option Fault)

namespace Stream

variable {State : Type}

/-- The same file, used as if it were no socket, with a record of its calls in
order. -/
def traced (file : Stream State) : Stream (List FileCall × State) where
  kind := file.kind
  readInto := some fun lent (calls, state) =>
    let (filling, state) := file.unplugged.fill .blocking lent state
    (filling, (calls ++ [.moved .read filling.reply], state))
  write := some fun lent (calls, state) =>
    let (reply, state) := file.unplugged.offer .blocking lent state
    (reply, (calls ++ [.moved .write reply], state))
  flush := file.flush.map fun flush (calls, state) =>
    let (fault, state) := flush state
    (fault, (calls ++ [.flushed fault], state))
  close := file.close.map fun close (calls, state) =>
    let (fault, state) := close state
    (fault, (calls ++ [.closed fault], state))

/-- No operation of the file leads out of these states. -/
structure KeepsAlways (file : Stream State) (holds : State -> Prop) : Prop extends
    file.Keeps holds where
  flush : ∀ {flush state}, file.flush = some flush -> holds state -> holds (flush state).2
  close : ∀ {close state}, file.close = some close -> holds state -> holds (close state).2

/-- No operation leads out of all states. -/
theorem keepsAlways_true (file : Stream State) : file.KeepsAlways fun _ => True :=
  ⟨⟨fun _ _ _ => trivial, fun _ _ _ => trivial⟩, fun _ _ => trivial, fun _ _ => trivial⟩

/-- In these states, which reading and writing do not leave, no read changes the
length of a buffer.  Of a file that only hands bytes out this means that it gives
no more than it is asked for. -/
structure Moderate (file : Stream State) (holds : State -> Prop) : Prop extends
    file.unplugged.Keeps holds where
  fits : ∀ contents {state}, holds state -> file.unplugged.Fits .blocking ⟨contents, true⟩ state

/-- The same file, used as if it were no socket, in no other states than these. -/
def within {file : Stream State} {holds : State -> Prop} (keeps : file.unplugged.Keeps holds) :
    Stream { state // holds state } where
  kind := file.kind
  readInto := some fun lent state =>
    let filled := file.unplugged.fill .blocking lent state.1
    (filled.1, ⟨filled.2, keeps.fill lent state.2⟩)
  write := some fun lent state =>
    let offered := file.unplugged.offer .blocking lent state.1
    (offered.1, ⟨offered.2, keeps.offer lent state.2⟩)

theorem Moderate.keepsLengths {file : Stream State} {holds : State -> Prop}
    (moderate : file.Moderate holds) : (within moderate.toKeeps).KeepsLengths .blocking :=
  fun contents state => moderate.fits contents state.2

end Stream

/-! ## Procedures -/

/-- A computation in a context over any state, which may stop with a fault. -/
abbrev Procedure (State Result : Type) := EStateM Fault (Context State) Result

namespace Procedure

variable {State Result Kind Value : Type}

/-- The context that a procedure has come to. -/
def reached : EStateM.Result Fault (Context State) Result -> Context State
  | .ok _ context => context
  | .error _ context => context

/-- A newly built machine. -/
def construct (build : Memory -> Construction Kind) : Procedure State Kind := fun context =>
  let built := build context.memory
  let context := { (context.note built.events) with memory := built.memory }
  match built.result with
  | .ok machine => .ok machine context
  | .error fault => .error fault context

/-- The value that driving a machine gives on the stream that there is. -/
def driveToValue [Resumable Kind Value] (stream : State -> Stream State)
    (concurrency : Concurrency) (limit : Nat) (machine : Kind) : Procedure State Value :=
  fun context =>
    let run := drive concurrency (stream context.state) limit machine context
    match run.ending.value? with
    | .ok (some value) => .ok value run.context
    | .ok none => .error (.lacks "Eof" "value") run.context
    | .error fault => .error fault run.context

/-- Flush or close the stream that there is. -/
def ask (stream : State -> Stream State) (name : String)
    (operation : Stream State -> Option (State -> Option Fault × State)) : Procedure State Unit :=
  fun context =>
    match operation (stream context.state) with
    | none => .error (.lacks (stream context.state).kind name) context
    | some operation =>
      match operation context.state with
      | (none, state) => .ok () { context with state := state }
      | (some fault, state) => .error fault { context with state := state }

/-- Run a procedure, and then another in any case. -/
def thenAlways (procedure : Procedure State Result) (last : Procedure State Unit) :
    Procedure State Result :=
  fun context =>
    match procedure context with
    | .ok result context =>
      match last context with
      | .ok () context => .ok result context
      | .error fault context => .error fault context
    | .error fault context =>
      match last context with
      | .ok () context => .error fault context
      | .error closing context => .error closing context

variable (stream : State -> Stream State) (concurrency : Concurrency) (limit : Nat)

/-- Build a machine and drive it. -/
def use [Resumable Kind Value] (build : Memory -> Construction Kind) : Procedure State Value := do
  let machine <- construct build
  driveToValue stream concurrency limit machine

/-- Read with a machine from a stream that is open, and close it. -/
def read [Resumable Kind Bytes] (build : Memory -> Construction Kind) : Procedure State Bytes :=
  thenAlways (use stream concurrency limit build) (ask stream "close" Stream.close)

/-- Write with a machine to a stream that is open, flush it, and close it. -/
def write [Resumable Kind Nat] (build : Memory -> Construction Kind) : Procedure State Nat :=
  thenAlways
    (do
      let written <- use stream concurrency limit build
      ask stream "flush" Stream.flush
      pure written)
    (ask stream "close" Stream.close)

end Procedure

/-- A machine for the whole of a buffer, of which nothing has been written. -/
def WriteAll.build (data : Buffer) (memory : Memory) : Construction WriteAll :=
  let (machine, events) := WriteAll.make data memory
  ⟨.ok machine, memory, events⟩

/-! ## Calls of a drive -/

/-- All requests of the machine go this way. -/
def Goes (Machine : Type) {Value : Type} [Resumable Machine Value] (direction : Direction) : Prop :=
  ∀ (machine : Machine) answer memory exchange,
    (Resumable.resume machine answer memory).progress = .needs exchange ->
      exchange.direction = direction

namespace LocalFile

variable {State Machine Value : Type} {file : Stream State} {direction : Direction}
  {holds : List FileCall × State -> Prop} {before between after : LocalFile × (List FileCall × State)}

/-- A local stream has been read from, or written to, and nothing else has been
done.  These were the replies of its file. -/
structure Moved (holds : List FileCall × State -> Prop) (direction : Direction)
    (replies : List Reply) (before after : LocalFile × (List FileCall × State)) : Prop where
  calls : after.2.1 = before.2.1 ++ replies.map (.moved direction)
  owned : after.1.owned = before.1.owned
  remembered : after.1.forgotten = false
  holds : holds after.2

theorem moved_nothing (remembered : before.1.forgotten = false) (now : holds before.2) :
    Moved holds direction [] before before :=
  ⟨(List.append_nil _).symm, rfl, remembered, now⟩

theorem Moved.append {replies later : List Reply}
    (first : Moved holds direction replies before between)
    (second : Moved holds direction later between after) :
    Moved holds direction (replies ++ later) before after where
  calls := by rw [second.calls, first.calls, List.map_append, List.append_assoc]
  owned := second.owned.trans first.owned
  remembered := second.remembered
  holds := second.holds

/-- An exchange through the local stream is a call in its own direction, or
none. -/
theorem moved_handle (concurrency : Concurrency) (keeps : file.traced.Keeps holds)
    (exchange : Exchange)
    (context : Context (List Reply × (LocalFile × (List FileCall × State))))
    (remembered : context.state.2.1.forgotten = false) (now : holds context.state.2.2) :
    let performed := handle concurrency ((stream concurrency file.traced).recorded concurrency)
      exchange context
    ∃ replies, performed.2.state.1 = context.state.1 ++ replies ∧
      Moved holds exchange.direction replies context.state.2 performed.2.state.2 := by
  rcases context with ⟨memory, journal, ⟨replies, ⟨before, calls, state⟩⟩⟩
  rcases exchange with ⟨direction, payload⟩
  cases payload with
  | response output =>
    rw [handle_response]
    exact ⟨[], (List.append_nil _).symm, moved_nothing remembered now⟩
  | request buffer =>
    cases direction with
    | read =>
      cases buffer with
      | frozen bytes =>
        simp only [handle, Context.readInto, Context.note, Stream.fill_recorded,
          fill_of_remembered remembered]
        exact ⟨_, rfl, rfl, rfl, remembered, keeps.fill _ now⟩
      | shared cell =>
        simp only [handle, Context.readInto, Context.note, Stream.fill_recorded,
          fill_of_remembered remembered]
        exact ⟨_, rfl, rfl, rfl, remembered, keeps.fill _ now⟩
    | write =>
      simp only [handle, Context.writeFrom, Context.note, Stream.offer_recorded,
        offer_of_remembered remembered]
      exact ⟨_, rfl, rfl, rfl, remembered, keeps.offer _ now⟩

variable [Resumable Machine Value]

/-- A drive of a machine whose requests all go one way is so many calls that go
this way. -/
theorem moved_driveFrom (concurrency : Concurrency) (keeps : file.traced.Keeps holds)
    (goes : Goes Machine direction) (limit : Nat) (machine : Machine) (answer : Option Exchange)
    (context : Context (List Reply × (LocalFile × (List FileCall × State)))) (turns : List Turn)
    (remembered : context.state.2.1.forgotten = false) (now : holds context.state.2.2) :
    let run := driveFrom
      (handle concurrency ((stream concurrency file.traced).recorded concurrency)) limit machine
      answer context turns
    ∃ replies, run.context.state.1 = context.state.1 ++ replies ∧
      Moved holds direction replies context.state.2 run.context.state.2 := by
  have nothing : ∃ replies, context.state.1 = context.state.1 ++ replies ∧
      Moved holds direction replies context.state.2 context.state.2 :=
    ⟨[], (List.append_nil _).symm, moved_nothing remembered now⟩
  induction limit generalizing machine answer context turns with
  | zero => exact nothing
  | succ limit inductionHypothesis =>
    cases stepped : Resumable.resume machine answer context.memory with
    | mk progress after memory events =>
      cases progress with
      | finished value =>
        rw [driveFrom_finished limit stepped]
        exact nothing
      | endOfStream =>
        rw [driveFrom_endOfStream limit stepped]
        exact nothing
      | failed error =>
        rw [driveFrom_failed limit stepped]
        exact nothing
      | raised fault =>
        rw [driveFrom_of_raised limit stepped]
        exact nothing
      | needs exchange =>
        have way := goes machine answer context.memory exchange (by rw [stepped])
        have performs := moved_handle concurrency keeps exchange (context.after memory events)
          remembered now
        cases performed : handle concurrency
          ((stream concurrency file.traced).recorded concurrency) exchange
          (context.after memory events) with
        | mk result reached =>
          rw [performed, way] at performs
          rcases performs with ⟨replies, noted, moved⟩
          cases result with
          | error fault =>
            rw [driveFrom_raised limit stepped performed]
            exact ⟨replies, noted, moved⟩
          | ok reply =>
            rw [driveFrom_needs limit stepped performed]
            rcases inductionHypothesis after (some reply) reached _ moved.remembered moved.holds
              ⟨[], (List.append_nil _).symm, moved_nothing moved.remembered moved.holds⟩ with
              ⟨further, noted', moved'⟩
            refine ⟨replies ++ further, ?_, moved.append moved'⟩
            have noted : reached.state.1 = context.state.1 ++ replies := noted
            rw [noted', noted, List.append_assoc]

/-- What a drive on a local stream has done to the file is told by the replies
that the machine has got. -/
theorem moved_drive (concurrency : Concurrency) (keeps : file.traced.Keeps holds)
    (goes : Goes Machine direction) (limit : Nat) (machine : Machine)
    (context : Context (LocalFile × (List FileCall × State)))
    (remembered : context.state.1.forgotten = false) (now : holds context.state.2) :
    let local_stream := stream concurrency file.traced
    let run := drive concurrency local_stream limit machine context
    let watched := drive concurrency (local_stream.recorded concurrency) limit machine
      ⟨context.memory, context.journal, ([], context.state)⟩
    watched.ending = run.ending ∧
      Moved holds direction watched.context.state.1 context.state run.context.state := by
  intro local_stream run watched
  have beside : run.Beside (fun reached record => record.2 = reached) watched :=
    (local_stream.imitates_recorded concurrency).drive limit machine ⟨rfl, rfl⟩
  have moves := moved_driveFrom concurrency keeps goes limit machine none
    ⟨context.memory, context.journal, ([], context.state)⟩ [] remembered now
  rcases moves with ⟨replies, noted, moved⟩
  change watched.context.state.1 = replies at noted
  change Moved holds direction replies context.state watched.context.state.2 at moved
  rw [beside.context.state] at moved
  rw [noted]
  exact ⟨beside.ending, moved⟩

end LocalFile

/-- A local stream before a file gives the replies of the file, also where the
file is in no other states than these. -/
theorem LocalFile.imitates_within {State : Type} {file : Stream State} {holds : State -> Prop}
    (keeps : file.unplugged.Keeps holds) (concurrency : Concurrency) :
    ((Stream.within keeps).recorded .blocking).Imitates
      (fun inside both => both.1 = inside.1 ∧ both.2.1.forgotten = false ∧ both.2.2.2 = inside.2.1)
      .blocking concurrency ((stream concurrency file.traced).recorded concurrency) where
  fill := by
    rintro ⟨replies, state, now⟩ ⟨_, before, calls, _⟩ ⟨rfl, remembered, rfl⟩ lent
    simp only [Stream.fill_recorded, fill_of_remembered remembered]
    exact ⟨rfl, rfl, rfl, remembered, rfl⟩
  offer := by
    rintro ⟨replies, state, now⟩ ⟨_, before, calls, _⟩ ⟨rfl, remembered, rfl⟩ lent
    simp only [Stream.offer_recorded, offer_of_remembered remembered]
    exact ⟨rfl, rfl, remembered, rfl⟩

/-! ## What each machine makes of the replies -/

theorem ReadToEnd.goes : Goes ReadToEnd .read := by
  intro machine answer memory exchange needs
  rcases resume_needs needs with ⟨buffer, rfl⟩
  rfl

namespace ReadExact

theorem goes : Goes ReadExact .read := by
  intro machine answer memory exchange needs
  cases answer with
  | none =>
    rcases request_needs needs with ⟨-, buffer, rfl⟩
    rfl
  | some given =>
    rcases receive_needs needs with ⟨-, buffer, rfl⟩
    rfl

/-- A new machine that comes to a result has gathered what the replies say, which
is no less than it was asked for, and exactly that where no buffer changes its
length. -/
theorem tallies_make {State : Type} (stream : Stream State) (concurrency : Concurrency)
    {target capacity : Int} {memory : Memory} {machine : ReadExact}
    (built : (make target capacity memory).result = .ok machine) (limit : Nat)
    (journal : Array Event) (state : State) {value : Bytes} :
    let watched := drive concurrency (stream.recorded concurrency) limit machine
      ⟨(make target capacity memory).memory, journal, ([], state)⟩
    watched.ending = .finished value ->
      (value.length : Int) = totalMoved watched.context.state.1 ∧ target ≤ value.length ∧
        (stream.KeepsLengths concurrency -> (value.length : Int) = target) := by
  intro watched finished
  rcases blank_make built with ⟨wanted, blank⟩
  have nothing : machine.collected.size = 0 := by rw [blank]; rfl
  have leads : (machine.tallying (stream.KeepsLengths concurrency)).Leads []
      (Resumable.resume machine none (make target capacity memory).memory) := by
    apply (ready_make built).leads rfl (Int.add_zero _).symm (Int.le_refl _)
    intro _
    rw [nothing]
    exact Nat.zero_le _
  have ended : (machine.tallying (stream.KeepsLengths concurrency)).Ends stream concurrency limit []
      watched.context.state.1 watched.ending :=
    ((machine.kept_tallying id).drive limit machine _ journal state leads).ended
  have accepted : 0 ≤ target := by
    rcases of_make built with ⟨-, read, inner, -, -⟩
    have notNegative := (Read.create_of_make inner).1
    omega
  rw [finished] at ended
  generalize watched.context.state.1 = replies at ended ⊢
  cases ended with
  | rested rests own =>
    rcases rests.2 value rfl with ⟨gathered, reached, whole⟩
    rw [List.nil_append, nothing] at gathered
    refine ⟨by omega, by omega, fun kept => ?_⟩
    have exactly := whole kept
    omega

end ReadExact

namespace WriteAll

theorem goes : Goes WriteAll .write := by
  intro machine answer memory exchange needs
  cases answer with
  | none =>
    rcases request_needs needs with ⟨-, buffer, rfl⟩
    rfl
  | some given =>
    rcases receive_needs needs with ⟨-, buffer, rfl⟩
    rfl

/-- The replies say that so many bytes have been taken, and none of them is an
error. -/
def Took (size : Nat) (replies : List Reply) : Prop :=
  totalMoved replies = size ∧ ∀ fault, Reply.raised fault ∉ replies

theorem took_nothing : Took 0 [] := ⟨rfl, fun _ => List.not_mem_nil⟩

theorem Took.append {size : Nat} {replies : List Reply} (took : Took size replies) {reply : Reply}
    (calm : ∀ fault, Reply.raised fault ≠ reply) {count : Nat}
    (moved : LocalFile.moved reply = count) : Took (size + count) (replies ++ [reply]) := by
  refine ⟨?_, ?_⟩
  · rw [totalMoved_append, took.1, moved, Int.natCast_add]
  · intro fault among
    rcases List.mem_append.mp among with earlier | last
    · exact took.2 fault earlier
    · exact calm fault (List.mem_singleton.mp last)

/-- While the stream is asked, what it has not taken is offered to it. -/
structure Hands (size : Nat) (replies : List Reply) (machine : WriteAll) (exchange : Exchange)
    (memory : Memory) : Prop where
  offered : ∃ buffer, exchange = ⟨.write, .request buffer⟩ ∧
    buffer.size memory = machine.remaining
  left : machine.remaining ≠ 0
  total : machine.total = size
  took : ∃ taken, taken + machine.remaining = size ∧ Took taken replies

/-- A result means that the stream has taken everything. -/
def handing (size : Nat) : Course WriteAll Nat where
  Asks := Hands size
  Rests replies ending := ∀ value, ending = .finished value -> value = size ∧ Took size replies

/-- A machine that has in hand what has not been taken offers it, unless
everything has been. -/
theorem leads_handing {size taken : Nat} {replies : List Reply} {machine : WriteAll}
    {memory : Memory} (loaded : machine.write.payload.size memory = machine.remaining)
    (total : machine.total = size) (all : taken + machine.remaining = size)
    (took : Took taken replies) :
    (handing size).Leads replies (Resumable.resume machine none memory) := by
  by_cases done : machine.remaining = 0
  · rw [resume_of_done done]
    rintro value ⟨⟩
    have whole : taken = size := by omega
    exact ⟨total, whole ▸ took⟩
  · rw [resume_none done]
    exact ⟨⟨_, rfl, loaded⟩, done, total, taken, all, took⟩

theorem kept_handing {State : Type} {stream : Stream State} {concurrency : Concurrency}
    (size : Nat) : (handing size).Kept stream concurrency where
  isRequest := by
    intro replies machine exchange memory hands
    rcases hands.offered with ⟨buffer, request, -⟩
    exact ⟨.write, buffer, request⟩
  blocked := by
    intro replies machine direction buffer before after hands leaves
    rcases hands.offered with ⟨_, ⟨⟩, length⟩
    rcases hands.took with ⟨taken, all, took⟩
    rw [resume_request hands.left, leaves.written rfl]
    have still : Took (taken + 0) (replies ++ [.wouldBlock]) := took.append (by rintro _ ⟨⟩) rfl
    exact ⟨⟨buffer, rfl, length⟩, hands.left, hands.total, taken, all, still⟩
  moved := by
    intro replies machine direction buffer before after hands leaves count fits
    rcases hands.offered with ⟨_, ⟨⟩, length⟩
    rcases hands.took with ⟨taken, all, took⟩
    by_cases nothing : count = 0
    · subst nothing
      rw [resume_nothing hands.left]
      exact nofun
    · rcases resume_moved hands.left (show (Output.mk buffer count).count ≠ 0 from nothing)
        after with ⟨events, resumed⟩
      rcases machine.remaining_absorb ⟨buffer, count⟩ after with ⟨left, loaded⟩
      have same : buffer.size after = buffer.size before := by rw [leaves.written rfl]
      rw [resumed]
      apply leads_handing loaded hands.total
      · show taken + count + _ = size
        rw [left]
        show taken + count + (buffer.size after - count) = size
        omega
      · exact took.append (by rintro _ ⟨⟩) rfl

/-- A new machine that comes to a result has had its payload taken, and counts
it. -/
theorem took_make {State : Type} {stream : Stream State} {concurrency : Concurrency}
    (data : Buffer) (memory : Memory) (limit : Nat) (journal : Array Event) (state : State)
    {value : Nat} :
    let watched := drive concurrency (stream.recorded concurrency) limit (make data memory).1
      ⟨memory, journal, ([], state)⟩
    watched.ending = .finished value ->
      value = data.size memory ∧ Took (data.size memory) watched.context.state.1 := by
  intro watched finished
  have leads : (handing (data.size memory)).Leads []
      (Resumable.resume (make data memory).1 none memory) :=
    leads_handing rfl rfl (Nat.zero_add _) took_nothing
  have ended : (handing (data.size memory)).Ends stream concurrency limit []
      watched.context.state.1 watched.ending :=
    ((kept_handing _).drive limit _ memory journal state leads).ended
  rw [finished] at ended
  generalize watched.context.state.1 = replies at ended ⊢
  cases ended with
  | rested rests own => exact rests value rfl

end WriteAll

/-! ## What a transfer does to a file -/

/-- What has been done to a file: it has moved bytes and replied this, then it
has been flushed, and then closed. -/
structure Treatment where
  replies : List Reply
  flushes : List (Option Fault)
  closes : List (Option Fault)

/-- The calls of a treatment, in order. -/
def Treatment.calls (direction : Direction) (treatment : Treatment) : List FileCall :=
  treatment.replies.map (.moved direction) ++ treatment.flushes.map .flushed ++
    treatment.closes.map .closed

/-- So often is the file closed that a local stream has, if each is closed once
that it has opened. -/
def LocalFile.dues (file : LocalFile) : Nat := if file.owned then 1 else 0

namespace LocalFile

variable {State : Type} {file : Stream State} {holds : List FileCall × State -> Prop}
  {direction : Direction} {replies : List Reply} {flushes : List (Option Fault)}
  {before after : LocalFile × (List FileCall × State)}

/-- The file of a local stream has been treated so. -/
structure Treated (holds : List FileCall × State -> Prop) (direction : Direction)
    (treatment : Treatment) (before after : LocalFile × (List FileCall × State)) : Prop where
  calls : after.2.1 = before.2.1 ++ treatment.calls direction
  owned : after.1.owned = before.1.owned
  holds : holds after.2

theorem Moved.treated (moved : Moved holds direction replies before after) :
    Treated holds direction ⟨replies, [], []⟩ before after where
  calls := by
    rw [moved.calls, Treatment.calls, List.map_nil, List.map_nil, List.append_nil, List.append_nil]
  owned := moved.owned
  holds := moved.holds

theorem flush_of_remembered {left : LocalFile} (remembered : left.forgotten = false)
    {flush : State -> Option Fault × State} (has : file.flush = some flush)
    (calls : List FileCall) (state : State) :
    LocalFile.flush file.traced (left, (calls, state)) =
      ((flush state).1, (left, (calls ++ [.flushed (flush state).1], (flush state).2))) := by
  have can : file.traced.flush = some _ := congrArg (Option.map _) has
  simp only [LocalFile.flush, remembered, can]

theorem close_of_owned {left : LocalFile} (remembered : left.forgotten = false)
    (owned : left.owned = true) {close : State -> Option Fault × State}
    (has : file.close = some close) (calls : List FileCall) (state : State) :
    LocalFile.close file.traced (left, (calls, state)) =
      ((close state).1, ({ left with forgotten := (close state).1.isNone },
        (calls ++ [.closed (close state).1], (close state).2))) := by
  have can : file.traced.close = some _ := congrArg (Option.map _) has
  have mine : (left.owned && !left.forgotten) = true := by rw [owned, remembered]; rfl
  simp only [LocalFile.close, mine, can]

/-- The file is flushed if it can be. -/
theorem Moved.flush (moved : Moved holds direction replies before after)
    (keeps : file.traced.KeepsAlways holds) :
    let flushed := (flush file.traced after).2
    ∃ flushes, flushes.length ≤ 1 ∧ Treated holds direction ⟨replies, flushes, []⟩ before flushed ∧
      flushed.1.forgotten = false := by
  rcases after with ⟨left, calls, state⟩
  cases has : file.flush with
  | none =>
    have nothing : (LocalFile.flush file.traced (left, (calls, state))).2 =
        (left, (calls, state)) := by
      have remembered : left.forgotten = false := moved.remembered
      simp only [LocalFile.flush, Stream.traced, has, remembered, Option.map_none]
    rw [nothing]
    exact ⟨[], Nat.zero_le 1, moved.treated, moved.remembered⟩
  | some flush =>
    have can : file.traced.flush = some _ := congrArg (Option.map _) has
    rw [flush_of_remembered moved.remembered has]
    refine ⟨[(flush state).1], Nat.le_refl 1, ⟨?_, moved.owned, ?_⟩, moved.remembered⟩
    · have calls : calls = before.2.1 ++ _ := moved.calls
      simp only [calls, Treatment.calls, List.map_cons, List.map_nil, List.append_nil,
        List.append_assoc]
    · exact keeps.flush can moved.holds

/-- The file is closed if it is the stream's own. -/
theorem Treated.close (treated : Treated holds direction ⟨replies, flushes, []⟩ before after)
    (remembered : after.1.forgotten = false) (keeps : file.traced.KeepsAlways holds)
    (closable : after.1.owned = true -> file.close.isSome) :
    ∃ closes, closes.length = before.1.dues ∧
      Treated holds direction ⟨replies, flushes, closes⟩ before (close file.traced after).2 := by
  rcases after with ⟨left, calls, state⟩
  have same : left.owned = before.1.owned := treated.owned
  cases owned : left.owned with
  | false =>
    refine ⟨[], by simp only [dues, ← same, owned]; rfl, ?_⟩
    simp only [LocalFile.close, owned, Bool.false_and]
    exact treated
  | true =>
    rcases Option.isSome_iff_exists.mp (closable owned) with ⟨close, has⟩
    have can : file.traced.close = some _ := congrArg (Option.map _) has
    rw [close_of_owned remembered owned has]
    refine ⟨[(close state).1], by simp only [dues, ← same, owned]; rfl, ?_, treated.owned, ?_⟩
    · have calls : calls = before.2.1 ++ _ := treated.calls
      simp only [calls, Treatment.calls, List.map_cons, List.map_nil, List.append_nil,
        List.append_assoc]
    · exact keeps.close can treated.holds

end LocalFile

namespace Procedure

variable {State Kind Value Result : Type}

theorem reached_thenAlways (procedure : Procedure State Result) (last : Procedure State Unit)
    (context : Context State) :
    reached (thenAlways procedure last context) = reached (last (reached (procedure context))) := by
  unfold thenAlways
  cases procedure context with
  | ok result context => dsimp only [reached]; cases last context <;> rfl
  | error fault context => dsimp only [reached]; cases last context <;> rfl

theorem of_thenAlways {procedure : Procedure State Result} {last : Procedure State Unit}
    {context after : Context State} {result : Result}
    (succeeds : thenAlways procedure last context = .ok result after) :
    ∃ between, procedure context = .ok result between := by
  unfold thenAlways at succeeds
  split at succeeds
  · split at succeeds
    · cases succeeds
      exact ⟨_, ‹_›⟩
    · cases succeeds
  · split at succeeds
    · cases succeeds
    · cases succeeds

section

variable [Resumable Kind Value] (stream : State -> Stream State) (concurrency : Concurrency)
  (limit : Nat) (machine : Kind) (context : Context State)

theorem reached_driveToValue :
    reached (driveToValue stream concurrency limit machine context) =
      (drive concurrency (stream context.state) limit machine context).context := by
  unfold driveToValue
  dsimp only
  split <;> rfl

theorem finished_of_driveToValue {value : Value} {after : Context State}
    (succeeds : driveToValue stream concurrency limit machine context = .ok value after) :
    (drive concurrency (stream context.state) limit machine context).ending = .finished value := by
  unfold driveToValue at succeeds
  generalize drive concurrency (stream context.state) limit machine context = run at succeeds ⊢
  cases ended : run.ending with
  | finished value =>
    simp only [ended, Ending.value?] at succeeds
    cases succeeds
    rfl
  | endOfStream | failed error | raised fault | unfinished =>
    simp only [ended, Ending.value?] at succeeds
    cases succeeds

end

/-- The local stream before a file as it is at present. -/
def before (concurrency : Concurrency) (file : State -> Stream State)
    (both : LocalFile × (List FileCall × State)) : Stream (LocalFile × (List FileCall × State)) :=
  LocalFile.stream concurrency (file both.2.2).traced

variable (concurrency : Concurrency) (limit : Nat) (file : State -> Stream State)
  (build : Memory -> Construction Kind)
  (context : Context (LocalFile × (List FileCall × State)))

/-- A machine that was built here has come to this value by these replies. -/
def Obtains [Resumable Kind Value] (value : Value) (replies : List Reply) : Prop :=
  ∃ machine journal, (build context.memory).result = .ok machine ∧
    let watched := drive concurrency ((before concurrency file context.state).recorded concurrency)
      limit machine ⟨(build context.memory).memory, journal, ([], context.state)⟩
    watched.ending = .finished value ∧ watched.context.state.1 = replies

theorem state_ask_flush :
    (reached (ask (before concurrency file) "flush" Stream.flush context)).state =
      (LocalFile.flush (file context.state.2.2).traced context.state).2 := by
  unfold ask
  simp only [before, LocalFile.stream]
  split <;> simp only [reached, *]

theorem state_ask_close :
    (reached (ask (before concurrency file) "close" Stream.close context)).state =
      (LocalFile.close (file context.state.2.2).traced context.state).2 := by
  unfold ask
  simp only [before, LocalFile.stream]
  split <;> simp only [reached, *]

section

variable {concurrency limit file context}

/-- What has been obtained of an exact number of bytes is what has moved, and no
less than that number. -/
theorem Obtains.gathered {target capacity : Int} {value : Bytes} {replies : List Reply}
    (obtains : Obtains concurrency limit file (ReadExact.make target capacity) context value
      replies) : (value.length : Int) = totalMoved replies ∧ target ≤ value.length := by
  rcases obtains with ⟨machine, journal, built, finished, rfl⟩
  have tallies := ReadExact.tallies_make _ concurrency built limit journal context.state finished
  exact ⟨tallies.1, tallies.2.1⟩

/-- It is that number if the file changes the length of no buffer. -/
theorem Obtains.exact {target capacity : Int} {value : Bytes} {replies : List Reply}
    (obtains : Obtains concurrency limit file (ReadExact.make target capacity) context value
      replies)
    {holds : State -> Prop} (moderate : (file context.state.2.2).Moderate holds)
    (now : holds context.state.2.2) (remembered : context.state.1.forgotten = false) :
    (value.length : Int) = target := by
  rcases obtains with ⟨machine, journal, built, finished, rfl⟩
  let memory := (ReadExact.make target capacity context.memory).memory
  let inside : Context (List Reply × { state // holds state }) := ⟨memory, journal, ([], ⟨_, now⟩)⟩
  let watching : Context (List Reply × (LocalFile × (List FileCall × State))) :=
    ⟨memory, journal, ([], context.state)⟩
  have imitates := LocalFile.imitates_within moderate.toKeeps concurrency
  have beside := @Stream.Imitates.drive _ _ _ _ _ _ _ _ _ _ imitates limit machine inside watching
    ⟨rfl, rfl, remembered, rfl⟩
  have tallies := ReadExact.tallies_make (Stream.within moderate.toKeeps) .blocking built limit
    journal ⟨_, now⟩ (beside.ending.symm.trans finished)
  exact tallies.2.2 moderate.keepsLengths

/-- Where a payload has been written, it has been taken. -/
theorem Obtains.took {data : Buffer} {value : Nat} {replies : List Reply}
    (obtains : Obtains concurrency limit file (WriteAll.build data) context value replies) :
    value = data.size context.memory ∧ WriteAll.Took (data.size context.memory) replies := by
  rcases obtains with ⟨_, journal, ⟨⟩, finished, rfl⟩
  exact WriteAll.took_make data context.memory limit journal context.state finished

end

variable {holds : List FileCall × State -> Prop} {direction : Direction}
  [Resumable Kind Value]

/-- To use a machine is to move bytes in its direction. -/
theorem use_moves (keeps : ∀ {both}, holds both -> (file both.2).traced.KeepsAlways holds)
    (goes : Goes Kind direction) (remembered : context.state.1.forgotten = false)
    (now : holds context.state.2) :
    let result := use (before concurrency file) concurrency limit build context
    ∃ replies, LocalFile.Moved holds direction replies context.state (reached result).state ∧
      ∀ value next, result = .ok value next ->
        Obtains concurrency limit file build context value replies := by
  intro result
  let begun : Context (LocalFile × (List FileCall × State)) :=
    { context.note (build context.memory).events with memory := (build context.memory).memory }
  cases built : (build context.memory).result with
  | error fault =>
    have refused : result = .error fault begun := by
      simp only [result, use, Bind.bind, EStateM.bind, construct, built]
      rfl
    rw [refused]
    exact ⟨[], LocalFile.moved_nothing remembered now, nofun⟩
  | ok machine =>
    have drives : result =
        driveToValue (before concurrency file) concurrency limit machine begun := by
      simp only [result, use, Bind.bind, EStateM.bind, construct, built]
      rfl
    rcases LocalFile.moved_drive concurrency (keeps now).toKeeps goes limit machine begun
      remembered now with ⟨ended, moved⟩
    rw [drives, reached_driveToValue]
    refine ⟨_, moved, ?_⟩
    intro value next succeeds
    have finished := finished_of_driveToValue _ _ _ _ _ succeeds
    exact ⟨machine, begun.journal, built, ended.trans finished, rfl⟩

/-- A reading transfer reads, and then closes a file of its own. -/
theorem read_treats {build : Memory -> Construction Kind} [Resumable Kind Bytes]
    (keeps : ∀ {both}, holds both -> (file both.2).traced.KeepsAlways holds)
    (closable : ∀ {both}, context.state.1.owned = true -> holds both -> (file both.2).close.isSome)
    (goes : Goes Kind .read) (remembered : context.state.1.forgotten = false)
    (now : holds context.state.2) :
    let result := read (before concurrency file) concurrency limit build context
    ∃ replies closes, closes.length = context.state.1.dues ∧
      LocalFile.Treated holds .read ⟨replies, [], closes⟩ context.state (reached result).state ∧
      ∀ value next, result = .ok value next ->
        Obtains concurrency limit file build context value replies := by
  intro result
  rcases use_moves concurrency limit file build context keeps goes
    remembered now with ⟨replies, moved, obtains⟩
  have closes := moved.treated.close moved.remembered (keeps moved.holds)
    fun owned => closable (moved.owned ▸ owned) moved.holds
  rcases closes with ⟨closes, once, treated⟩
  refine ⟨replies, closes, once, ?_, ?_⟩
  · simp only [result, read, reached_thenAlways, state_ask_close]
    exact treated
  · intro value next succeeds
    rcases of_thenAlways succeeds with ⟨between, used⟩
    exact obtains value between used

/-- A writing transfer writes, flushes the file only after everything has been
taken, and then closes a file of its own. -/
theorem write_treats {build : Memory -> Construction Kind} [Resumable Kind Nat]
    (keeps : ∀ {both}, holds both -> (file both.2).traced.KeepsAlways holds)
    (closable : ∀ {both}, context.state.1.owned = true -> holds both -> (file both.2).close.isSome)
    (goes : Goes Kind .write) (remembered : context.state.1.forgotten = false)
    (now : holds context.state.2) :
    let result := write (before concurrency file) concurrency limit build context
    ∃ treatment : Treatment, treatment.closes.length = context.state.1.dues ∧
      treatment.flushes.length ≤ 1 ∧
      LocalFile.Treated holds .write treatment context.state (reached result).state ∧
      (treatment.flushes ≠ [] -> ∃ value,
        Obtains concurrency limit file build context value treatment.replies) ∧
      ∀ value next, result = .ok value next ->
        Obtains concurrency limit file build context value treatment.replies := by
  intro result
  rcases use_moves concurrency limit file build context keeps goes
    remembered now with ⟨replies, moved, obtains⟩
  let flushing : Procedure (LocalFile × (List FileCall × State)) Nat := do
    let written <- use (before concurrency file) concurrency limit build
    ask (before concurrency file) "flush" Stream.flush
    pure written
  have come : reached result =
      reached (ask (before concurrency file) "close" Stream.close (reached (flushing context))) :=
    reached_thenAlways _ _ _
  rw [come, state_ask_close]
  cases used : use (before concurrency file) concurrency limit build context with
  | error fault between =>
    -- What has failed is closed without being flushed.
    have unflushed : flushing context = .error fault between := by
      simp only [flushing, Bind.bind, EStateM.bind, used]
    rw [used] at moved
    have closes := moved.treated.close moved.remembered (keeps moved.holds)
      fun owned => closable (moved.owned ▸ owned) moved.holds
    rcases closes with ⟨closes, once, treated⟩
    refine ⟨⟨replies, [], closes⟩, once, Nat.zero_le 1, unflushed ▸ treated, ?_, ?_⟩
    · intro flushed
      exact absurd rfl flushed
    · intro value next succeeds
      rcases of_thenAlways succeeds with ⟨_, finished⟩
      exact absurd (unflushed.symm.trans finished) nofun
  | ok value between =>
    have obtained := obtains value between used
    rw [used] at moved
    have flushed : (reached (flushing context)).state =
        (LocalFile.flush (file between.state.2.2).traced between.state).2 := by
      rw [← state_ask_flush concurrency file between]
      simp only [flushing, Bind.bind, EStateM.bind, used]
      cases ask (before concurrency file) "flush" Stream.flush between <;> rfl
    rcases moved.flush (keeps moved.holds) with ⟨flushes, few, treated, remembered⟩
    have closes := treated.close remembered (keeps treated.holds)
      fun owned => closable (treated.owned ▸ owned) treated.holds
    rcases closes with ⟨closes, once, treated⟩
    refine ⟨⟨replies, flushes, closes⟩, once, few, flushed ▸ treated, ?_, ?_⟩
    · intro _
      exact ⟨value, obtained⟩
    · intro other next succeeds
      rcases of_thenAlways succeeds with ⟨_, finished⟩
      simp only [Bind.bind, EStateM.bind, used] at finished
      cases asked : ask (before concurrency file) "flush" Stream.flush between with
      | ok _ after =>
        simp only [asked] at finished
        cases finished
        exact obtained
      | error fault after =>
        simp only [asked] at finished
        cases finished

end Procedure

end ResumableStreams
