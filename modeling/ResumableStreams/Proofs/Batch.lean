import ResumableStreams.Command
import ResumableStreams.Proofs.Gathering

namespace ResumableStreams

/-!
# Reading a batch of sources

A batch of sources is read either one after the other or by tasks that take
turns.  In whichever order the turns come, every source gives what it would
give alone: what it offers is settled before anything is read.

Each task has a share of the memory and of the host.  A step of one task leads
from its share to its next share, and the shares of different tasks stay apart.
So no task notices a step of another.  What the tasks have in common is the
disk, which is only looked at, and the network, whose answers are the same for
all.
-/

/-! ## Drives of readers -/

/-- What a caller makes of the end of a run that was to give bytes. -/
def Ending.outcome (ending : Ending Bytes) : Except Fault Bytes :=
  match ending.value? with
  | .ok (some bytes) => .ok bytes
  | .ok none => .error (.lacks "Eof" "value")
  | .error fault => .error fault

/-! ## What actions come to -/

namespace Action

variable {Result : Type}

/-- The result of an action, and the context in which it ends. -/
def outcomeOf (out : EStateM.Result Fault (Context Host) Result) :
    Except Fault Result × Context Host :=
  match out with
  | .ok result context => (.ok result, context)
  | .error fault context => (.error fault, context)

theorem outcomeOf_driveToValue {Machine : Type} [Resumable Machine Bytes]
    (concurrency : Concurrency) (limit : Nat) (machine : Machine) (handle : Handle)
    (context : Context Host) :
    outcomeOf (driveToValue concurrency limit machine handle context) =
      let run := drive concurrency (context.state.stream handle) limit machine context
      (run.ending.outcome, run.context) := by
  simp only [driveToValue, Ending.outcome]
  cases (drive concurrency (context.state.stream handle) limit machine context).ending.value? with
  | error fault => rfl
  | ok value => cases value <;> rfl

theorem outcomeOf_thenAlways {action : Action Result} {context reached : Context Host}
    {handle : Handle} {host : Host} {result : Except Fault Result}
    (acted : outcomeOf (action context) = (result, reached))
    (closed : reached.state.close handle = (.ok (), host)) :
    outcomeOf (action.thenAlways (onHost fun host => host.close handle) context) =
      (result, { reached with state := host }) := by
  simp only [thenAlways]
  cases out : action context with
  | ok value after =>
    rw [out] at acted
    cases acted
    simp only [onHost, closed]
    rfl
  | error fault after =>
    rw [out] at acted
    cases acted
    simp only [onHost, closed]
    rfl

/-- A stream that has been opened is used, and closed in any case. -/
theorem withSource_of_opened {concurrency : Concurrency} {source : Source} {mode : String}
    {use : Handle -> Action Result} {context : Context Host} {handle : Handle} {host : Host}
    (opened : context.state.openSource concurrency source mode = (.ok handle, host)) :
    withSource concurrency source mode use context =
      (use handle).thenAlways (onHost fun host => host.close handle)
        { context with state := host } := by
  simp only [withSource, bind, EStateM.bind, onHost, opened]

end Action

namespace Reader

variable {State : Type} {concurrency : Concurrency} {stream : Stream State} {reader next : Reader}
  {answer : Option Exchange} {context reached : Context State} {reply : Exchange}
  {result : Except Fault Bytes}

/-- A drive ends with the turn that comes to a result. -/
theorem driveFrom_concluded (limit : Nat) (turns : List Turn)
    (turned : reader.takeTurn concurrency stream answer context = (.concluded result, reached)) :
    ∃ ending machine turns', ending.outcome = result ∧
      driveFrom (handle concurrency stream) (limit + 1) reader answer context turns =
        ⟨ending, machine, reached, turns'⟩ := by
  simp only [takeTurn] at turned
  cases stepped : Resumable.resume reader answer context.memory with
  | mk progress machine memory events =>
    rw [stepped] at turned
    cases progress with
    | finished bytes =>
      cases turned
      exact ⟨_, _, _, rfl, driveFrom_finished limit stepped⟩
    | endOfStream =>
      cases turned
      exact ⟨_, _, _, rfl, driveFrom_endOfStream limit stepped⟩
    | failed error =>
      cases turned
      exact ⟨_, _, _, rfl, driveFrom_failed limit stepped⟩
    | raised fault =>
      cases turned
      exact ⟨_, _, _, rfl, driveFrom_of_raised limit stepped⟩
    | needs exchange =>
      cases performed : handle concurrency stream exchange (context.after memory events) with
      | mk outcome after =>
        simp only [performed] at turned
        cases outcome with
        | ok reply => cases turned
        | error fault =>
          cases turned
          exact ⟨_, _, _, rfl, driveFrom_raised limit stepped performed⟩

/-- Otherwise it goes on after the turn. -/
theorem driveFrom_suspended (limit : Nat) (turns : List Turn)
    (turned : reader.takeTurn concurrency stream answer context =
      (.suspended next reply, reached)) :
    ∃ turns', driveFrom (handle concurrency stream) (limit + 1) reader answer context turns =
      driveFrom (handle concurrency stream) limit next (some reply) reached turns' := by
  simp only [takeTurn] at turned
  cases stepped : Resumable.resume reader answer context.memory with
  | mk progress machine memory events =>
    rw [stepped] at turned
    cases progress with
    | finished bytes => cases turned
    | endOfStream => cases turned
    | failed error => cases turned
    | raised fault => cases turned
    | needs exchange =>
      cases performed : handle concurrency stream exchange (context.after memory events) with
      | mk outcome after =>
        simp only [performed] at turned
        cases outcome with
        | ok reply =>
          cases turned
          exact ⟨_, driveFrom_needs limit stepped performed⟩
        | error fault => cases turned

end Reader

/-- A drive with turns enough comes to the result of the whole offering. -/
theorem Reading.driveFrom {answerOf : String -> Answer} {handle : Handle} {make : Host.Make}
    {total before : Offering} {context : Context Host} {reader : Reader} {answer : Option Exchange}
    {asks asks' : Bool} {uses uses' : List Host.Asset} {turns limit count : Nat} {first : Host}
    (reading : Reading answerOf handle make total context reader answer asks uses turns)
    (made : first.Offers answerOf handle make asks' uses' before)
    (answers : Net.Answers answerOf (count + asks.toNat) context.state.net.script)
    (enough : turns ≤ limit) (concurrency : Concurrency) (past : List Turn) :
    let run := ResumableStreams.driveFrom
      (ResumableStreams.handle concurrency (first.stream handle)) limit reader answer context past
    run.ending.outcome = total.result reader.size ∧
      ∃ left asks later, run.context.state.Offers answerOf handle make asks left later ∧
        context.state.Moves uses run.context.state left ∧
        context.memory.Moves .read (reader.cells ++ answerCells answer) run.context.memory [] ∧
        Net.Answers answerOf count run.context.state.net.script := by
  induction limit generalizing context reader answer asks uses turns past with
  | zero => exact absurd reading.positive (Nat.not_lt.mpr enough)
  | succ limit inductionHypothesis =>
    rcases reading.leads made answers concurrency with ⟨left, kept, leads, moves, wrote, rest⟩
    cases turned : reader.takeTurn concurrency (first.stream handle) answer context with
    | mk outcome reached =>
      rw [turned] at leads moves wrote rest
      cases leads with
      | concluded offers =>
        rcases Reader.driveFrom_concluded limit past turned with
          ⟨ending, machine, past', concluded, driven⟩
        rw [driven]
        exact ⟨concluded, left, _, _, offers, moves, wrote, rest⟩
      | @suspended next reply size reading' =>
        rcases Reader.driveFrom_suspended limit past turned with ⟨past', driven⟩
        rw [driven, ← size]
        rcases inductionHypothesis reading' rest (by omega) past' with
          ⟨ending, left', asks', later, offers, moves', wrote', rest'⟩
        exact ⟨ending, left', asks', later, offers, moves.trans moves', wrote.trans wrote', rest'⟩

/-! ## Shares -/

/-- What one task has for itself: buffers, and parts of the host. -/
structure Share where
  cells : List Cell
  assets : List Host.Asset

namespace Share

def nothing : Share := ⟨[], []⟩

/-- Everything in the share is there. -/
structure Held (share : Share) (context : Context Host) : Prop where
  cells : ∀ cell ∈ share.cells, context.memory.Holds cell
  assets : ∀ asset ∈ share.assets, context.state.Has asset

/-- Work leads from one share to another, and touches nothing else. -/
structure Leads (before : Context Host) (share : Share) (after : Context Host) (left : Share) :
    Prop where
  memory : before.memory.Moves .read share.cells after.memory left.cells
  state : before.state.Moves share.assets after.state left.assets

variable {before between after : Context Host} {share middle left other : Share}

theorem Leads.trans (first : Leads before share between middle)
    (second : Leads between middle after left) : Leads before share after left :=
  ⟨first.memory.trans second.memory, first.state.trans second.state⟩

theorem Leads.held (leads : Leads before share after left) : left.Held after :=
  ⟨leads.memory.held, leads.state.held⟩

/-- Whoever holds a share may let go of it. -/
theorem Held.letGo (held : share.Held before) : Leads before share before .nothing :=
  ⟨(Memory.Moves.refl .read held.cells).letGo (List.forall_mem_nil _),
    (Host.Moves.refl held.assets).letGoAll⟩

theorem leads_nothing (context : Context Host) : Leads context .nothing context .nothing :=
  Held.letGo ⟨List.forall_mem_nil _, List.forall_mem_nil _⟩

/-- When the stream has been closed, nothing is left of the share. -/
theorem Leads.close {answerOf : String -> Answer} {handle : Handle} {make : Host.Make} {asks : Bool}
    {later : Offering} {cells : List Cell} {uses : List Host.Asset}
    (leads : Leads before share after ⟨cells, uses⟩)
    (offers : after.state.Offers answerOf handle make asks uses later) :
    ∃ host, after.state.close handle = (.ok (), host) ∧
      Leads before share { after with state := host } .nothing ∧
      host.net.script = after.state.net.script := by
  rcases offers.close with ⟨host, closed, moves, script⟩
  have closes : Leads after ⟨cells, uses⟩ { after with state := host } .nothing :=
    ⟨(Memory.Moves.refl .read leads.memory.held).letGo (List.forall_mem_nil _), moves⟩
  exact ⟨host, closed, leads.trans closes, script⟩

/-- Two shares have nothing in common. -/
structure Apart (share other : Share) : Prop where
  cells : ∀ cell ∈ share.cells, cell ∉ other.cells
  assets : ∀ asset ∈ share.assets, asset ∉ other.assets

theorem Apart.symm (apart : share.Apart other) : other.Apart share :=
  ⟨fun cell member used => apart.cells cell used member,
    fun asset member used => apart.assets asset used member⟩

/-- What is new is in nobody else's share. -/
theorem Leads.apart (leads : Leads before share after left) (apart : share.Apart other)
    (held : other.Held before) : left.Apart other where
  cells := by
    intro cell member used
    have unused : cell ∉ share.cells := fun known => apart.cells cell known used
    exact leads.memory.not_mem (held.cells cell used) unused member
  assets := by
    intro asset member used
    have unused : asset ∉ share.assets := fun known => apart.assets asset known used
    exact leads.state.not_mem (held.assets asset used) unused member

theorem Leads.others_held (leads : Leads before share after left) (held : other.Held before) :
    other.Held after :=
  ⟨fun cell member => leads.memory.holds (held.cells cell member),
    fun asset member => leads.state.has (held.assets asset member)⟩

end Share

namespace Command

/-! ## What is to come of each source -/

/-- What a batch of sources is read with, and what it is read from. -/
structure Batch where
  options : Options
  /-- How much room there is for buffers. -/
  room : Nat
  input : Bytes
  disk : Disk
  answerOf : String -> Answer

namespace Batch

/-- What a source offers, if it can be opened. -/
def offering (batch : Batch) (argument : String) : Except Fault Offering :=
  if argument = "-" then .ok ⟨batch.input, none⟩
  else if isAddress argument then .ok ((batch.answerOf argument).offering argument)
  else batch.disk.offering argument

/-- What reading a source comes to. -/
def result (batch : Batch) (argument : String) : Except Fault Bytes := do
  let offering <- batch.offering argument
  checkLength (Reader.bufferLength batch.options.bytes batch.options.capacity) batch.room
  offering.result batch.options.bytes

/-- How many bytes a source offers. -/
def length (batch : Batch) (argument : String) : Nat :=
  match batch.offering argument with
  | .error _ => 0
  | .ok offering => offering.content.length

/-- The parts of the host that are set apart for a source before it is
opened. -/
def reserved (argument : String) : List Host.Asset :=
  if argument = "-" then [.device stdin] else []

/-- The source that an argument names is found as it is settled before. -/
structure Finds (batch : Batch) (argument : String) (context : Context Host) : Prop where
  room : context.memory.room = batch.room
  disk : context.state.disk = batch.disk
  standard : argument = "-" ->
    context.state.devices[stdin]? = some (.memoryFile (.ofBytes batch.input))

variable {batch : Batch} {argument : String}

/-- The source that an argument names can be opened or not, as is settled
before. -/
theorem opens {context : Context Host} (finds : batch.Finds argument context)
    (concurrency : Concurrency) :
    Host.Opens batch.answerOf context.state (isAddress argument) (reserved argument)
      (batch.offering argument)
      (context.state.openSource concurrency (sourceOf argument) Mode.source) := by
  by_cases dash : argument = "-"
  · have opened := Host.opens_stream batch.answerOf (isAddress argument) (finds.standard dash) rfl
      concurrency Mode.source
    rw [offering, if_pos dash, reserved, if_pos dash, sourceOf, if_pos dash]
    exact opened
  · have opened := Host.opens_text batch.answerOf context.state concurrency argument
    rw [offering, if_neg dash, reserved, if_neg dash, sourceOf, if_neg dash, ← finds.disk]
    exact opened

/-- What a source can be found to be when it is opened and a reader is built
for it. -/
inductive Starts (batch : Batch) (argument : String) (concurrency : Concurrency)
    (context : Context Host) : Prop where
  | refused (fault : Fault) : batch.result argument = .error fault ->
      context.state.openSource concurrency (sourceOf argument) Mode.source =
        (.error fault, context.state) -> Starts batch argument concurrency context
  /-- The buffer of the reader cannot be allocated. -/
  | unbuilt {handle : Handle} {host : Host} {fault : Fault} {make : Host.Make} {asks : Bool}
      {uses : List Host.Asset} {offering : Offering} {after : Context Host} :
      batch.result argument = .error fault ->
      context.state.openSource concurrency (sourceOf argument) Mode.source = (.ok handle, host) ->
      Action.construct batch.options.build { context with state := host } = .error fault after ->
      after.state.Offers batch.answerOf handle make asks uses offering ->
      Share.Leads context ⟨[], reserved argument⟩ after ⟨[], uses⟩ ->
      after.state.net.script = context.state.net.script -> Starts batch argument concurrency context
  | reading {handle : Handle} {host : Host} {make : Host.Make} {reader : Reader}
      {uses : List Host.Asset} {total : Offering} {after : Context Host} :
      total.result reader.size = batch.result argument ->
      context.state.openSource concurrency (sourceOf argument) Mode.source = (.ok handle, host) ->
      Action.construct batch.options.build { context with state := host } = .ok reader after ->
      Reading batch.answerOf handle make total after reader none (isAddress argument) uses
        (batch.length argument + 2) ->
      Share.Leads context ⟨[], reserved argument⟩ after ⟨reader.cells, uses⟩ ->
      after.state.net.script = context.state.net.script -> Starts batch argument concurrency context

theorem starts {context : Context Host} (finds : batch.Finds argument context)
    (concurrency : Concurrency) : Starts batch argument concurrency context := by
  have opens := batch.opens finds concurrency
  cases opened : context.state.openSource concurrency (sourceOf argument) Mode.source with
  | mk outcome host =>
    rw [opened] at opens
    cases offered : batch.offering argument with
    | error fault =>
      rw [offered] at opens
      cases opens
      refine .refused fault ?_ opened
      rw [result, offered]
      rfl
    | ok total =>
      rw [offered] at opens
      cases opens with
      | @opened handle make left _ _ offers moves net =>
        let context' : Context Host := { context with state := host }
        let built := batch.options.build context.memory
        have wrote : context.memory.Moves .read [] built.memory (built.cells Reader.cells) :=
          Reader.moves_make _ _ context.memory
        have net' : host.net.script = context.state.net.script := congrArg Net.script net
        have used (cells : List Cell) (among : ∀ cell ∈ cells, cell ∈ built.cells Reader.cells) :
            Share.Leads context ⟨[], reserved argument⟩ (context'.after built.memory built.events)
              ⟨cells, left⟩ := ⟨wrote.letGo among, moves⟩
        have gives := Reader.make_gives batch.options.bytes batch.options.capacity_pos
          context.memory
        rw [finds.room] at gives
        cases checked : checkLength
          (Reader.bufferLength batch.options.bytes batch.options.capacity) batch.room with
        | error fault =>
          have refused : built.result = .error fault := gives.refused checked
          have outcome : batch.result argument = .error fault := by
            rw [result, offered]
            simp only [bind, Except.bind, checked]
          have constructs : Action.construct batch.options.build context' =
              .error fault (context'.after built.memory built.events) := by
            simp only [Action.construct, context', built, refused]
            rfl
          exact .unbuilt outcome opened constructs offers (used [] nofun) net'
        | ok allowed =>
          rcases gives.exists_of_allowed checked with ⟨reader, given, ready, nothing, size⟩
          have made : built.result = .ok reader := given
          have outcome : total.result reader.size = batch.result argument := by
            rw [result, offered, size]
            simp only [bind, Except.bind, checked]
          have constructs : Action.construct batch.options.build context' =
              .ok reader (context'.after built.memory built.events) := by
            simp only [Action.construct, context', built, made]
            rfl
          have cells : built.cells Reader.cells = reader.cells := by
            simp only [Construction.cells, built, made]
          have holds := used reader.cells fun _ => cells.symm.subst
          refine .reading outcome opened constructs ⟨?_, nofun, _, false, total.content,
            .ready ready, offers, ?_, nofun, fun _ => ?_⟩ holds net'
          · intro cell member
            exact holds.held.cells cell ((List.append_nil _).subst member)
          · rw [nothing, List.nil_append]
          · rw [length, offered]
            exact Nat.lt_succ_self _

end Batch

/-! ## Tasks -/

namespace Task

/-- The task of a source may still ask the network for it. -/
def owes (argument : String) : Task -> Bool
  | .waiting | .reading _ _ none => isAddress argument
  | .reading _ _ (some _) | .finished _ => false

theorem conclude_eq {handle : Handle} {context : Context Host} {host : Host}
    (closed : context.state.close handle = (.ok (), host)) (result : Except Fault Bytes) :
    conclude handle result context = (.finished result, { context with state := host }) := by
  simp only [conclude, closed]

/-- A task makes the turns of its reader. -/
theorem exchange_eq (handle : Handle) (reader : Reader) (answer : Option Exchange)
    (context : Context Host) :
    exchange handle reader answer context =
      match reader.takeTurn .asynchronous (context.state.stream handle) answer context with
      | (.concluded result, context) => conclude handle result context
      | (.suspended reader answer, context) => (.reading handle reader (some answer), context) := by
  have resumed : Resumable.resume reader answer context.memory =
      reader.resume answer context.memory := rfl
  simp only [exchange, Reader.takeTurn, resumed]
  cases reader.resume answer context.memory with
  | mk progress machine memory events =>
    cases progress with
    | finished bytes => rfl
    | endOfStream => rfl
    | failed error => rfl
    | raised fault => rfl
    | needs exchange =>
      simp only [Context.after, Context.note]
      cases ResumableStreams.handle .asynchronous (context.state.stream handle) exchange
          ⟨memory, context.journal ++ events, context.state⟩ with
      | mk outcome reached => cases outcome <;> rfl

/-- The task of a source has its share, and after so many steps it will have
come to what reading the source is to come to. -/
inductive Promises (batch : Batch) (argument : String) (context : Context Host) :
    Task -> Share -> (steps : Nat) -> Prop where
  | waiting {steps : Nat} : batch.length argument + 2 < steps -> batch.Finds argument context ->
      Promises batch argument context .waiting ⟨[], Batch.reserved argument⟩ steps
  | reading {handle : Handle} {make : Host.Make} {reader : Reader} {answer : Option Exchange}
      {uses : List Host.Asset} {total : Offering} {steps : Nat} :
      total.result reader.size = batch.result argument ->
      Reading batch.answerOf handle make total context reader answer
        (owes argument (.reading handle reader answer)) uses steps ->
      Promises batch argument context (.reading handle reader answer)
        ⟨reader.cells ++ answerCells answer, uses⟩ steps
  | finished {steps : Nat} :
      Promises batch argument context (.finished (batch.result argument)) .nothing steps

variable {batch : Batch} {argument : String} {context : Context Host} {task : Task} {share : Share}
  {steps : Nat}

theorem Promises.held (promises : task.Promises batch argument context share steps) :
    share.Held context := by
  cases promises with
  | finished => exact ⟨nofun, nofun⟩
  | reading result reading =>
    rcases reading.going with ⟨_, _, _, -, offers, -⟩
    exact ⟨reading.held, offers.held⟩
  | waiting _ finds =>
    refine ⟨nofun, fun asset member => ?_⟩
    by_cases dash : argument = "-"
    · rw [Batch.reserved, if_pos dash] at member
      rcases List.mem_singleton.mp member with rfl
      exact Host.has_of_found (finds.standard dash)
    · rw [Batch.reserved, if_neg dash] at member
      cases member

/-- Work within another share makes no difference to a task. -/
theorem Promises.retained (promises : task.Promises batch argument context share steps)
    {after : Context Host} {other left : Share} (leads : Share.Leads context other after left)
    (apart : other.Apart share) : task.Promises batch argument after share steps := by
  have held := promises.held
  have same : ∀ asset ∈ share.assets, asset.Same context.state after.state := fun asset member =>
    leads.state.same (held.assets asset member) fun used => apart.assets asset used member
  cases promises with
  | finished => exact .finished
  | reading result reading =>
    refine .reading result (reading.retained (fun cell member => ?_) same leads.state.disk)
    exact ⟨leads.memory.holds (held.cells cell member),
      leads.memory.contents (held.cells cell member) fun _ used => apart.cells cell used member⟩
  | waiting enough finds =>
    refine .waiting enough ⟨leads.memory.room.trans finds.room,
      leads.state.disk.trans finds.disk, fun dash => ?_⟩
    have mine : Host.Asset.device stdin ∈ Batch.reserved argument := by
      rw [Batch.reserved, if_pos dash]
      exact List.mem_cons_self
    have kept : after.state.devices[stdin]? = context.state.devices[stdin]? := same _ mine
    exact kept.trans (finds.standard dash)

/-- What a step of a task leads to. -/
structure Advances (batch : Batch) (argument : String) (context : Context Host) (share : Share)
    (steps count : Nat) (advanced : Task × Context Host) (left : Share) : Prop where
  promises : advanced.1.Promises batch argument advanced.2 left (steps - 1)
  leads : Share.Leads context share advanced.2 left
  answers : Net.Answers batch.answerOf (count + (owes argument advanced.1).toNat)
    advanced.2.state.net.script

/-- Closing a stream and keeping the result. -/
theorem advances_conclude {count : Nat} {handle : Handle} {make : Host.Make} {asks : Bool}
    {uses : List Host.Asset} {later : Offering} {reached : Context Host} {kept : List Cell}
    (leads : Share.Leads context share reached ⟨kept, uses⟩)
    (offers : reached.state.Offers batch.answerOf handle make asks uses later)
    (answers : Net.Answers batch.answerOf count reached.state.net.script) :
    Advances batch argument context share steps count
      (conclude handle (batch.result argument) reached) .nothing := by
  rcases leads.close offers with ⟨host, closed, leads', script⟩
  rw [conclude_eq closed]
  exact ⟨.finished, leads', script ▸ answers⟩

theorem advances_begin {count : Nat} (enough : batch.length argument + 2 < steps)
    (finds : batch.Finds argument context)
    (answers : Net.Answers batch.answerOf (count + (isAddress argument).toNat)
      context.state.net.script) :
    ∃ left, Advances batch argument context ⟨[], Batch.reserved argument⟩ steps count
      (begin batch.options argument context) left := by
  have unasked : Net.Answers batch.answerOf count context.state.net.script := answers.unasked
  cases Batch.starts finds .asynchronous with
  | refused fault result opened =>
    have begins : begin batch.options argument context =
        (.finished (batch.result argument), context) := by
      simp only [begin, opened, result]
    have kept : (⟨[], Batch.reserved argument⟩ : Share).Held context :=
      (Promises.waiting enough finds).held
    rw [begins]
    exact ⟨.nothing, .finished, kept.letGo, unasked⟩
  | @unbuilt handle _ _ _ _ _ _ after result opened constructs offers leads script =>
    have begins : begin batch.options argument context =
        conclude handle (batch.result argument) after := by
      simp only [begin, opened, constructs, result]
    rw [begins]
    exact ⟨_, advances_conclude leads offers (script ▸ unasked)⟩
  | @reading handle _ make reader uses total after result opened constructs reading leads script =>
    have begins : begin batch.options argument context = (.reading handle reader none, after) := by
      simp only [begin, opened, constructs]
    have going : Promises batch argument after (.reading handle reader none)
        ⟨reader.cells ++ answerCells none, uses⟩ (steps - 1) :=
      .reading result (reading.more (by omega))
    rw [answerCells, List.append_nil] at going
    rw [begins]
    exact ⟨_, going, leads, script ▸ answers⟩

/-- A step of a task. -/
theorem Promises.advances {count : Nat} (promises : task.Promises batch argument context share steps)
    (answers : Net.Answers batch.answerOf (count + (owes argument task).toNat)
      context.state.net.script) :
    ∃ left, Advances batch argument context share steps count
      (task.advance batch.options argument context) left := by
  cases promises with
  | finished => exact ⟨_, .finished, Share.leads_nothing context, answers⟩
  | waiting enough finds => exact advances_begin enough finds answers
  | @reading handle make reader answer uses total _ result reading =>
    rcases reading.going with ⟨_, _, _, -, offers, -⟩
    rcases reading.leads offers answers .asynchronous with ⟨left, kept, goes, moves, wrote, rest⟩
    show ∃ left, Advances _ _ _ _ _ _ (exchange handle reader answer context) left
    rw [exchange_eq]
    cases turned : reader.takeTurn .asynchronous (context.state.stream handle) answer context with
    | mk outcome reached =>
      rw [turned] at goes moves wrote rest
      cases goes with
      | concluded offers =>
        rw [result]
        have ends : Share.Leads context ⟨reader.cells ++ answerCells answer, uses⟩ reached
            ⟨[], left⟩ := ⟨wrote, moves⟩
        exact ⟨_, advances_conclude ends offers rest⟩
      | suspended size reading' =>
        have outcome := (congrArg total.result size).trans result
        exact ⟨_, .reading outcome reading', ⟨wrote, moves⟩, rest⟩

/-- A source has been read to the end, and everything in its share has been
let go of. -/
structure Settles (batch : Batch) (argument : String) (context : Context Host) (share : Share)
    (count : Nat) (out : Except Fault Bytes × Context Host) : Prop where
  result : out.1 = batch.result argument
  leads : Share.Leads context share out.2 .nothing
  answers : Net.Answers batch.answerOf count out.2.state.net.script

theorem complete_succ (options : Options) (limit : Nat)
    (unfinished : ∀ result, task ≠ .finished result) :
    task.complete options argument (limit + 1) context =
      complete options argument limit (task.advance options argument context).1
        (task.advance options argument context).2 := by
  cases task with
  | finished result => exact absurd rfl (unfinished result)
  | waiting => rfl
  | reading handle reader answer => rfl

/-- A task with steps enough comes to its result. -/
theorem Promises.settles {limit count : Nat}
    (promises : task.Promises batch argument context share steps) (enough : steps ≤ limit)
    (answers : Net.Answers batch.answerOf (count + (owes argument task).toNat)
      context.state.net.script) :
    Settles batch argument context share count
      (task.complete batch.options argument limit context) := by
  induction limit generalizing task share context steps with
  | zero =>
    cases promises with
    | finished => exact ⟨rfl, Share.leads_nothing context, answers⟩
    | waiting some_steps _ => omega
    | reading _ reading => exact absurd reading.positive (Nat.not_lt.mpr enough)
  | succ limit inductionHypothesis =>
    by_cases ended : ∃ result, task = .finished result
    · rcases ended with ⟨result, rfl⟩
      cases promises with
      | finished => exact ⟨rfl, Share.leads_nothing context, answers⟩
    · rw [complete_succ _ _ fun result same => ended ⟨result, same⟩]
      rcases promises.advances answers with ⟨left, advances⟩
      have settles := inductionHypothesis advances.promises (by omega) advances.answers
      exact ⟨settles.result, advances.leads.trans settles.leads, settles.answers⟩

end Task

/-! ## Reading in turn -/

section

variable {batch : Batch} {argument : String} {context : Context Host} {share : Share}

/-- Closing a stream after everything else. -/
theorem settles_close {count : Nat} {handle : Handle} {make : Host.Make} {asks : Bool}
    {uses : List Host.Asset} {later : Offering} {reached : Context Host} {kept : List Cell}
    {action : Action Bytes} {between : Context Host}
    (acted : Action.outcomeOf (action between) = (batch.result argument, reached))
    (leads : Share.Leads context share reached ⟨kept, uses⟩)
    (offers : reached.state.Offers batch.answerOf handle make asks uses later)
    (answers : Net.Answers batch.answerOf count reached.state.net.script) :
    Task.Settles batch argument context share count
      (Action.outcomeOf (action.thenAlways (Action.onHost fun host => host.close handle) between)) := by
  rcases leads.close offers with ⟨host, closed, leads', script⟩
  rw [Action.outcomeOf_thenAlways acted closed]
  exact ⟨rfl, leads', script ▸ answers⟩

/-- A source that can be opened is read through a reader, and closed. -/
theorem readSource_eq {options : Options} {handle : Handle} {host : Host} (limit : Nat)
    (opened : context.state.openSource .blocking (sourceOf argument) Mode.source =
      (.ok handle, host)) :
    readSource limit options argument context =
      Action.thenAlways (do
          let reader <- Action.construct options.build
          Action.driveToValue .blocking limit reader handle)
        (Action.onHost fun host => host.close handle) { context with state := host } :=
  Action.withSource_of_opened opened

/-- A source that is read from start to end at once comes to its result. -/
theorem settles_readSource {limit count : Nat} (enough : batch.length argument + 2 ≤ limit)
    (finds : batch.Finds argument context)
    (answers : Net.Answers batch.answerOf (count + (isAddress argument).toNat)
      context.state.net.script) :
    Task.Settles batch argument context ⟨[], Batch.reserved argument⟩ count
      (Action.outcomeOf (readSource limit batch.options argument context)) := by
  have unasked : Net.Answers batch.answerOf count context.state.net.script := answers.unasked
  cases Batch.starts finds .blocking with
  | refused fault result opened =>
    have reads : readSource limit batch.options argument context = .error fault context := by
      simp only [readSource, Action.withSource, bind, EStateM.bind, Action.onHost, opened]
    have kept : (⟨[], Batch.reserved argument⟩ : Share).Held context :=
      (Task.Promises.waiting (Nat.lt_succ_self _) finds).held
    rw [reads]
    exact ⟨result.symm, kept.letGo, unasked⟩
  | @unbuilt handle host fault _ _ _ _ after result opened constructs offers leads script =>
    rw [readSource_eq limit opened]
    refine settles_close ?_ leads offers (script ▸ unasked)
    simp only [bind, EStateM.bind, constructs, result]
    rfl
  | @reading handle host make reader uses total after result opened constructs reading leads script =>
    rcases reading.going with ⟨_, _, _, -, offers, -⟩
    have asked : Net.Answers batch.answerOf (count + (isAddress argument).toNat)
        after.state.net.script := script ▸ answers
    rcases reading.driveFrom offers asked enough .blocking [] with
      ⟨ending, left, asks, later, offersAfter, moves, wrote, rest⟩
    rw [answerCells, List.append_nil] at wrote
    have reads : Share.Leads after ⟨reader.cells, uses⟩ _ ⟨[], left⟩ := ⟨wrote, moves⟩
    rw [readSource_eq limit opened]
    refine settles_close ?_ (leads.trans reads) offersAfter rest
    simp only [bind, EStateM.bind, constructs]
    rw [Action.outcomeOf_driveToValue, ← result, ← ending]
    rfl

end

end Command

end ResumableStreams
