import Mathlib.Data.List.Induction
import Mathlib.Data.List.TakeWhile
import Mathlib.Logic.Function.Basic
import ResumableStreams.Proofs.Acceptance
import ResumableStreams.Stream.Duplex

namespace ResumableStreams

/-!
# Handing payloads over

The writing side of a `Duplex` takes everything it is offered at once, and only
then waits until it has drained.  If this fails, the bytes have been handed over
nevertheless, and the caller does not know.  A caller who drives the machine
again must not hand them over again.

A `WriteAll` sees to this, because it keeps its payload only until it asks for
the first time.  From then on it has returned, or it is spent: what it offers is
empty, and the answer is that nothing has been written.  So each payload is handed
over once, if the writing side is open when the machine is first driven, and never
otherwise.
-/

namespace Drain

/-! ## What the writing side gets -/

/-- The writing side has taken these bytes more, and has been waited for once at
most. -/
structure Gains (before : Drain) (bytes : Bytes) (after : Drain) : Prop where
  data : after.data.bytes = before.data.bytes ++ bytes
  closed : after.closed = before.closed
  drains : after.drains ≤ before.drains + 1

theorem gains_nothing (drain : Drain) : drain.Gains [] drain :=
  ⟨(List.append_nil _).symm, rfl, Nat.le_succ _⟩

/-- The writing side after it has taken a piece. -/
def take (drain : Drain) (bytes : Bytes) : Drain :=
  { drain with data := drain.data.append bytes, drains := drain.drains + 1 }

theorem gains_take (drain : Drain) (bytes : Bytes) : drain.Gains bytes (drain.take bytes) :=
  ⟨Collected.bytes_append _ _, rfl, Nat.le_refl _⟩

/-- What comes of it when a machine for so many bytes offers these. -/
inductive Answers (drain : Drain) (size : Nat) (bytes : Bytes) : Ending Nat -> Drain -> Prop where
  | refused : drain.closed = true ->
      Answers drain size bytes (.failed (.writeZero size size 0)) drain
  | taken : drain.closed = false -> drain.failure = none -> bytes.length = size ->
      Answers drain size bytes (.finished size) (drain.take bytes)
  | nothing : drain.closed = false -> drain.failure = none -> bytes = [] ->
      Answers drain size bytes (.failed (.writeZero size size 0)) (drain.take bytes)
  | raised (text : String) : drain.closed = false -> drain.failure = some text ->
      Answers drain size bytes (.raised (.connectionReset text)) (drain.take bytes)

section

variable {drain after : Drain} {size : Nat} {bytes : Bytes} {ending : Ending Nat}

theorem Answers.gains (answers : drain.Answers size bytes ending after) :
    drain.Gains (if drain.closed then [] else bytes) after := by
  cases answers with
  | refused closed =>
    rw [if_pos closed]
    exact drain.gains_nothing
  | taken isOpen drained whole =>
    rw [isOpen]
    exact drain.gains_take bytes
  | nothing isOpen drained nothing =>
    rw [isOpen]
    exact drain.gains_take bytes
  | raised text isOpen failed =>
    rw [isOpen]
    exact drain.gains_take bytes

/-- Where the writing side is closed, nothing happens to it. -/
theorem Answers.of_closed (answers : drain.Answers size bytes ending after)
    (closed : drain.closed = true) :
    ending = .failed (.writeZero size size 0) ∧ after = drain := by
  cases answers with
  | refused closed => exact ⟨rfl, rfl⟩
  | taken isOpen drained whole => exact absurd (closed.symm.trans isOpen) nofun
  | nothing isOpen drained nothing => exact absurd (closed.symm.trans isOpen) nofun
  | raised text isOpen failed => exact absurd (closed.symm.trans isOpen) nofun

theorem Answers.finished_iff (answers : drain.Answers size bytes ending after) (left : size ≠ 0) :
    (∃ value, ending = .finished value) ↔
      bytes.length = size ∧ drain.closed = false ∧ drain.failure = none := by
  cases answers with
  | refused closed => simp only [closed, reduceCtorEq, exists_false, false_and, and_false]
  | taken isOpen drained whole => exact ⟨fun _ => ⟨whole, isOpen, drained⟩, fun _ => ⟨size, rfl⟩⟩
  | nothing isOpen drained nothing =>
    have short : bytes.length ≠ size := fun whole =>
      left (whole.symm.trans (congrArg List.length nothing))
    simp only [short, reduceCtorEq, exists_false, false_and]
  | raised text isOpen failed =>
    simp only [failed, reduceCtorEq, exists_false, and_false]

end

end Drain

namespace Duplex

theorem offer_of_closed (feed : Option Feed) {drain : Drain} (closed : drain.closed = true)
    (lent : Lent) :
    stream.offer .asynchronous lent ⟨feed, some drain⟩ = (.moved 0, ⟨feed, some drain⟩) :=
  if_pos closed

theorem offer_of_open (feed : Option Feed) {drain : Drain} (isOpen : drain.closed = false)
    (lent : Lent) :
    stream.offer .asynchronous lent ⟨feed, some drain⟩ =
      (match drain.failure with
        | none => .moved lent.size
        | some text => .raised (.connectionReset text), ⟨feed, some (drain.take lent.bytes)⟩) := by
  rcases drain with ⟨data, closed, drains, failure⟩
  cases isOpen
  rfl

/-- A machine offers its payload, or nothing if it is spent. -/
theorem exists_answers {feed : Option Feed} {drain : Drain} {context : Context Duplex}
    {buffer : Buffer} {size limit : Nat} (left : size ≠ 0)
    (offers : buffer.bytes context.memory = [] ∨ buffer.size context.memory = size)
    (now : context.state = ⟨feed, some drain⟩) :
    ∃ ending after, drain.Answers size (buffer.bytes context.memory) ending after ∧
      WriteAll.Ends context.memory size ending ⟨feed, some after⟩
        (drive .asynchronous stream (limit + 2) ⟨size, size, ⟨buffer⟩⟩ context) := by
  cases closed : drain.closed with
  | true =>
    have refused := offer_of_closed feed closed ⟨buffer.bytes context.memory, buffer.isMutable⟩
    exact ⟨_, _, .refused closed, WriteAll.ends_of_refused left (now ▸ refused)⟩
  | false =>
    have offered := offer_of_open feed closed ⟨buffer.bytes context.memory, buffer.isMutable⟩
    rw [← now] at offered
    cases failure : drain.failure with
    | some text =>
      rw [failure] at offered
      exact ⟨_, _, .raised text closed failure, WriteAll.ends_of_raised left offered⟩
    | none =>
      rw [failure] at offered
      rcases offers with nothing | whole
      · have none_taken : (⟨buffer.bytes context.memory, buffer.isMutable⟩ : Lent).size = 0 :=
          congrArg List.length nothing
        simp only [none_taken] at offered
        exact ⟨_, _, .nothing closed failure nothing, WriteAll.ends_of_refused left offered⟩
      · have all_taken : (⟨buffer.bytes context.memory, buffer.isMutable⟩ : Lent).size = size :=
          whole
        simp only [all_taken] at offered
        exact ⟨_, _, .taken closed failure whole, WriteAll.ends_of_taken left whole offered⟩

/-! ## Many machines -/

/-- The same stream, where waiting for it to drain fails in this way, or does not
fail. -/
def draining (failure : Option String) (stream : Duplex) : Duplex :=
  { stream with drain := stream.drain.map fun drain => { drain with failure := failure } }

/-- What is done with a stream: one of several machines is driven on it, where
waiting for it to drain may fail, or it is closed. -/
inductive Use where
  | drive (index : Nat) (failure : Option String)
  | close
  deriving DecidableEq

namespace Use

def index? : Use -> Option Nat
  | .drive index _ => some index
  | .close => none

/-- The machines that have been driven. -/
def served (history : List Use) : List Nat := history.filterMap index?

/-- The machines whose first drive began before the stream was closed, in the
order of these drives. -/
def early (history : List Use) : List Nat :=
  (served (history.takeWhile (· ≠ .close))).eraseDups

variable {history : List Use}

theorem served_drive (history : List Use) (index : Nat) (failure : Option String) :
    served (history ++ [.drive index failure]) = served history ++ [index] := by
  rw [served, List.filterMap_append]
  rfl

theorem served_close (history : List Use) : served (history ++ [.close]) = served history := by
  rw [served, List.filterMap_append]
  exact List.append_nil _

theorem takeWhile_open (isOpen : .close ∉ history) : history.takeWhile (· ≠ .close) = history := by
  rw [List.takeWhile_eq_self_iff]
  intro use among
  have other : use ≠ .close := fun same => isOpen (same ▸ among)
  exact decide_eq_true other

/-- After the stream has been closed, nothing is early. -/
theorem early_of_closed (closed : .close ∈ history) (use : Use) :
    early (history ++ [use]) = early history := by
  have shorter : ¬ (history.takeWhile (· ≠ .close)).length = history.length := by
    intro whole
    have all := List.takeWhile_eq_self_iff.mp ((List.takeWhile_prefix _).eq_of_length whole)
    exact of_decide_eq_true (all .close closed) rfl
  rw [early, List.takeWhile_append, if_neg shorter, early]

theorem early_close (history : List Use) : early (history ++ [.close]) = early history := by
  by_cases closed : .close ∈ history
  · exact early_of_closed closed .close
  · have all := takeWhile_open closed
    have none_more : [Use.close].takeWhile (· ≠ .close) = [] := rfl
    rw [early, List.takeWhile_append, if_pos (congrArg List.length all), none_more,
      List.append_nil, early, all]

/-- A drive of an open stream is early unless the machine has been driven before. -/
theorem early_drive (isOpen : .close ∉ history) (index : Nat) (failure : Option String) :
    early (history ++ [.drive index failure]) =
      early history ++ if index ∈ served history then [] else [index] := by
  have openAfter : Use.close ∉ history ++ [.drive index failure] := by
    simpa using isOpen
  rw [early, takeWhile_open openAfter, served_drive, List.eraseDups_append, early,
    takeWhile_open isOpen]
  by_cases again : index ∈ served history
  · simp [List.removeAll, again]
  · simp [List.removeAll, again, List.eraseDups_cons]

/-- A drive adds something to what the early machines have, if it is early. -/
theorem flatMap_early_drive (history : List Use) (index : Nat) (failure : Option String)
    (bytes : Nat -> Bytes) :
    (early (history ++ [.drive index failure])).flatMap bytes = (early history).flatMap bytes ++
      if .close ∈ history then [] else if index ∈ served history then [] else bytes index := by
  by_cases closed : .close ∈ history
  · rw [early_of_closed closed, if_pos closed, List.append_nil]
  · rw [early_drive closed, List.flatMap_append, if_neg closed]
    refine congrArg (List.flatMap bytes (early history) ++ ·) ?_
    by_cases again : index ∈ served history
    · rw [if_pos again, if_pos again, List.flatMap_nil]
    · rw [if_neg again, if_neg again, List.flatMap_singleton]

theorem served_of_early {index : Nat} (among : index ∈ early history) :
    index ∈ served history := by
  have before := List.mem_eraseDups.mp among
  rw [served, List.mem_filterMap] at before ⊢
  rcases before with ⟨use, early, is⟩
  exact ⟨use, (List.takeWhile_sublist _).subset early, is⟩

theorem nodup_early (history : List Use) : (early history).Nodup := by
  induction history using List.reverseRecOn with
  | nil => exact List.nodup_nil
  | append_singleton history use inductionHypothesis =>
    by_cases closed : .close ∈ history
    · rw [early_of_closed closed]
      exact inductionHypothesis
    · cases use with
      | close =>
        rw [early_close]
        exact inductionHypothesis
      | drive index failure =>
        rw [early_drive closed]
        by_cases again : index ∈ served history
        · rw [if_pos again, List.append_nil]
          exact inductionHypothesis
        · rw [if_neg again]
          refine List.nodup_append.mpr ⟨inductionHypothesis, List.pairwise_singleton _ index, ?_⟩
          intro other among single last same
          cases List.mem_singleton.mp last
          exact again (served_of_early (same ▸ among))

end Use

/-- Machines, by numbers, and what they write to. -/
structure Desk where
  machines : Nat -> WriteAll
  context : Context Duplex

namespace Desk

/-- Machines that have not been driven. -/
def new (payload : Nat -> Buffer) (memory : Memory) (journal : Array Event) (stream : Duplex) :
    Desk :=
  ⟨fun index => (WriteAll.make (payload index) memory).1, ⟨memory, journal, stream⟩⟩

/-- Drive a machine. -/
def drive (limit : Nat) (desk : Desk) (index : Nat) (failure : Option String) :
    Run WriteAll Nat Duplex :=
  ResumableStreams.drive .asynchronous stream limit (desk.machines index)
    { desk.context with state := desk.context.state.draining failure }

def next (limit : Nat) (desk : Desk) : Use -> Desk
  | .drive index failure =>
    let run := desk.drive limit index failure
    ⟨Function.update desk.machines index run.machine, run.context⟩
  | .close =>
    { desk with context := { desk.context with state := (Duplex.close desk.context.state).2 } }

def after (limit : Nat) (desk : Desk) (history : List Use) : Desk :=
  history.foldl (next limit) desk

/-- An earlier drive of the machine has had a result. -/
def Returned (limit : Nat) (desk : Desk) (history : List Use) (index : Nat) : Prop :=
  ∃ earlier failure later value, history = earlier ++ .drive index failure :: later ∧
    ((desk.after limit earlier).drive limit index failure).ending = .finished value

theorem machines_drive (limit : Nat) (desk : Desk) (index : Nat) (failure : Option String) :
    (desk.next limit (.drive index failure)).machines =
      Function.update desk.machines index (desk.drive limit index failure).machine := rfl

theorem after_append (limit : Nat) (desk : Desk) (history : List Use) (use : Use) :
    desk.after limit (history ++ [use]) = (desk.after limit history).next limit use := by
  rw [after, List.foldl_append]
  rfl

/-- The last drive may be one that has had a result. -/
theorem returned_append {limit : Nat} {desk : Desk} {history : List Use} {use : Use} {index : Nat} :
    desk.Returned limit (history ++ [use]) index ↔ desk.Returned limit history index ∨
      ∃ failure value, use = .drive index failure ∧
        ((desk.after limit history).drive limit index failure).ending = .finished value := by
  constructor
  · rintro ⟨earlier, failure, later, value, split, finished⟩
    rcases List.eq_nil_or_concat later with rfl | ⟨later, last, rfl⟩
    · rcases List.append_inj' split rfl with ⟨rfl, same⟩
      cases same
      exact .inr ⟨failure, value, rfl, finished⟩
    · rw [List.concat_eq_append, ← List.cons_append, ← List.append_assoc] at split
      rcases List.append_inj' split rfl with ⟨rfl, -⟩
      exact .inl ⟨earlier, failure, later, value, rfl, finished⟩
  · rintro (⟨earlier, failure, later, value, rfl, finished⟩ | ⟨failure, value, rfl, finished⟩)
    · refine ⟨earlier, failure, later ++ [use], value, ?_, finished⟩
      rw [List.append_assoc, List.cons_append]
    · exact ⟨history, failure, [], value, rfl, finished⟩

theorem Returned.served {limit : Nat} {desk : Desk} {history : List Use} {index : Nat}
    (returned : desk.Returned limit history index) : index ∈ Use.served history := by
  rcases returned with ⟨earlier, failure, later, value, rfl, finished⟩
  exact List.mem_filterMap.mpr ⟨.drive index failure,
    List.mem_append_right earlier List.mem_cons_self, rfl⟩

section

variable {payload : Nat -> Buffer} {memory : Memory} {first now : Desk} {feed : Option Feed}
  {drain current : Drain} {limit : Nat} {history : List Use}

/-- How things stand after some uses: no buffer has changed, a machine that has been
driven has returned or is spent, and the writing side has the payloads of those
that were early. -/
structure Stands (payload : Nat -> Buffer) (memory : Memory) (feed : Option Feed) (drain : Drain)
    (limit : Nat) (first : Desk) (history : List Use) (now : Desk) (current : Drain) : Prop where
  state : now.context.state = ⟨feed, some current⟩
  bytes : ∀ buffer : Buffer, buffer.bytes now.context.memory = buffer.bytes memory
  closed : current.closed = true ↔ drain.closed = true ∨ .close ∈ history
  data : current.data.bytes = drain.data.bytes ++
    (if drain.closed then [] else Use.early history).flatMap fun index =>
      (payload index).bytes memory
  untouched : ∀ index ∉ Use.served history,
    now.machines index = (WriteAll.make (payload index) memory).1
  touched : ∀ index ∈ Use.served history, ∃ ending,
    WriteAll.Comes ((payload index).size memory) ending (now.machines index) ∧
      ((∃ value, ending = .finished value) ↔ first.Returned limit history index)

/-- What a drive comes to, as things stand. -/
structure Outcome (payload : Nat -> Buffer) (memory : Memory) (feed : Option Feed) (limit : Nat)
    (first : Desk) (history : List Use) (now : Desk) (current : Drain) (index : Nat)
    (failure : Option String) (ending : Ending Nat) (after : Drain) : Prop where
  ends : WriteAll.Ends now.context.memory ((payload index).size memory) ending ⟨feed, some after⟩
    (now.drive limit index failure)
  gains : current.Gains
    (if current.closed then [] else
      if index ∈ Use.served history then [] else (payload index).bytes memory) after
  finished : (∃ value, ending = .finished value) ↔ first.Returned limit history index ∨
    index ∉ Use.served history ∧
      ((payload index).size memory = 0 ∨ current.closed = false ∧ failure = none)
  unchanged : current.closed = true ∨ (payload index).size memory = 0 ->
    after = { current with failure := failure }
  refused : index ∉ Use.served history -> current.closed = true ->
    (payload index).size memory ≠ 0 ->
    ending = .failed (.writeZero ((payload index).size memory) ((payload index).size memory) 0)

/-- A machine of which nothing remains returns, whether it has returned before or
its payload is empty. -/
theorem Stands.exists_outcome_of_done (enough : 2 ≤ limit)
    (stands : Stands payload memory feed drain limit first history now current) {index : Nat}
    (failure : Option String)
    (returns : first.Returned limit history index ∨
      index ∉ Use.served history ∧ (payload index).size memory = 0)
    (done : (now.machines index).remaining = 0)
    (counted : (now.machines index).total = (payload index).size memory) :
    ∃ ending after, Outcome payload memory feed limit first history now current index failure
      ending after := by
  obtain ⟨limit, rfl⟩ := Nat.exists_eq_add_of_le' enough
  let context : Context Duplex := { now.context with state := now.context.state.draining failure }
  let faced : Drain := { current with failure := failure }
  have state : context.state = ⟨feed, some faced⟩ := congrArg (draining failure) stands.state
  have ends := @WriteAll.ends_of_done _ .asynchronous stream context _ limit _ done counted
  rw [state] at ends
  have offers : (if index ∈ Use.served history then [] else (payload index).bytes memory) = [] := by
    rcases returns with returned | ⟨-, empty⟩
    · exact if_pos returned.served
    · rw [List.eq_nil_of_length_eq_zero empty]
      exact ite_self []
  refine ⟨.finished ((payload index).size memory), faced, ends, ?_, ?_, fun _ => rfl, ?_⟩
  · rw [offers, ite_self]
    exact ⟨(List.append_nil _).symm, rfl, Nat.le_succ _⟩
  · refine ⟨fun _ => ?_, fun _ => ⟨_, rfl⟩⟩
    exact returns.imp_right fun ⟨fresh, empty⟩ => ⟨fresh, .inl empty⟩
  · intro fresh closed left
    rcases returns with returned | ⟨-, empty⟩
    · exact absurd returned.served fresh
    · exact absurd empty left

/-- A machine that has not returned offers its payload when it is driven for the
first time, and nothing later. -/
theorem Stands.exists_outcome_of_left (enough : 2 ≤ limit)
    (stands : Stands payload memory feed drain limit first history now current) {index : Nat}
    (failure : Option String) (unreturned : ¬ first.Returned limit history index)
    (left : (payload index).size memory ≠ 0) {buffer : Buffer}
    (machine : now.machines index =
      ⟨(payload index).size memory, (payload index).size memory, ⟨buffer⟩⟩)
    (offers : buffer.bytes memory =
      if index ∈ Use.served history then [] else (payload index).bytes memory) :
    ∃ ending after, Outcome payload memory feed limit first history now current index failure
      ending after := by
  obtain ⟨limit, rfl⟩ := Nat.exists_eq_add_of_le' enough
  let context : Context Duplex := { now.context with state := now.context.state.draining failure }
  let faced : Drain := { current with failure := failure }
  have state : context.state = ⟨feed, some faced⟩ := congrArg (draining failure) stands.state
  have same : buffer.bytes context.memory = buffer.bytes memory := stands.bytes buffer
  have either : buffer.bytes context.memory = [] ∨
      buffer.size context.memory = (payload index).size memory := by
    rw [Buffer.size, same, offers]
    by_cases again : index ∈ Use.served history
    · exact .inl (if_pos again)
    · exact .inr (congrArg List.length (if_neg again))
  rcases @exists_answers _ _ context _ _ limit left either state with
    ⟨ending, after, answers, ends⟩
  rw [same, offers] at answers
  refine ⟨ending, after, ?_, ?_, ?_, ?_, ?_⟩
  · rw [drive, machine]
    exact ends
  · exact ⟨answers.gains.data, answers.gains.closed, answers.gains.drains⟩
  · rw [answers.finished_iff left, or_iff_right unreturned, or_iff_right left]
    by_cases again : index ∈ Use.served history
    · rw [if_pos again]
      constructor
      · rintro ⟨whole, -⟩
        exact absurd whole.symm left
      · rintro ⟨fresh, -⟩
        exact absurd again fresh
    · rw [if_neg again]
      exact and_congr_left fun _ => ⟨fun _ => again, fun _ => rfl⟩
  · rintro (closed | empty)
    · exact (answers.of_closed closed).2
    · exact absurd empty left
  · exact fun _ closed _ => (answers.of_closed closed).1

theorem Stands.exists_outcome (enough : 2 ≤ limit)
    (stands : Stands payload memory feed drain limit first history now current) (index : Nat)
    (failure : Option String) :
    ∃ ending after, Outcome payload memory feed limit first history now current index failure
      ending after := by
  by_cases again : index ∈ Use.served history
  · rcases stands.touched index again with ⟨last, comes, returned⟩
    rcases comes.done_or_spent with ⟨rfl, done, counted⟩ | ⟨unsuccessful, left, spent⟩
    · exact stands.exists_outcome_of_done enough failure (.inl (returned.mp ⟨_, rfl⟩)) done counted
    · refine stands.exists_outcome_of_left enough failure ?_ left spent (if_pos again).symm
      intro earlier
      rcases returned.mpr earlier with ⟨value, finished⟩
      exact unsuccessful value finished
  · have machine := stands.untouched index again
    by_cases empty : (payload index).size memory = 0
    · refine stands.exists_outcome_of_done enough failure (.inr ⟨again, empty⟩) ?_ ?_
      · rw [machine]
        exact empty
      · rw [machine]
        rfl
    · exact stands.exists_outcome_of_left enough failure (fun returned => again returned.served)
        empty machine (if_neg again).symm

/-! ## All uses -/

theorem stands_new (payload : Nat -> Buffer) (memory : Memory) (journal : Array Event)
    (feed : Option Feed) (drain : Drain) (limit : Nat) :
    let first := new payload memory journal ⟨feed, some drain⟩
    Stands payload memory feed drain limit first [] first drain where
  state := rfl
  bytes _ := rfl
  closed := by simp only [List.not_mem_nil, or_false]
  data := by
    have none_early : (if drain.closed then [] else Use.early []) = [] := ite_self []
    rw [none_early]
    exact (List.append_nil _).symm
  untouched _ _ := rfl
  touched _ among := nomatch among

theorem Stands.close
    (stands : Stands payload memory feed drain limit first history now current) :
    Stands payload memory feed drain limit first (history ++ [.close]) (now.next limit .close)
      { current with closed := true } where
  state := by
    show (Duplex.close now.context.state).2 = _
    rw [stands.state]
    rfl
  bytes := stands.bytes
  closed := by simp only [List.mem_append, List.mem_singleton, or_true]
  data := by
    rw [Use.early_close]
    exact stands.data
  untouched := by
    rw [Use.served_close]
    exact stands.untouched
  touched := by
    rw [Use.served_close]
    intro index among
    rcases stands.touched index among with ⟨ending, comes, returned⟩
    refine ⟨ending, comes, returned.trans ?_⟩
    simp only [returned_append, reduceCtorEq, false_and, exists_false, or_false]

theorem Stands.drive {index : Nat} {failure : Option String} {ending : Ending Nat} {after : Drain}
    (stands : Stands payload memory feed drain limit first history (first.after limit history)
      current)
    (outcome : Outcome payload memory feed limit first history (first.after limit history) current
      index failure ending after) :
    Stands payload memory feed drain limit first (history ++ [.drive index failure])
      ((first.after limit history).next limit (.drive index failure)) after where
  state := outcome.ends.state
  bytes buffer := (outcome.ends.bytes buffer).trans (stands.bytes buffer)
  closed := by
    rw [outcome.gains.closed, stands.closed]
    simp only [List.mem_append, List.mem_singleton, reduceCtorEq, or_false]
  data := by
    rw [outcome.gains.data, stands.data, List.append_assoc]
    refine congrArg (drain.data.bytes ++ ·) ?_
    by_cases closed : drain.closed = true
    · rw [if_pos closed, if_pos closed, if_pos (stands.closed.mpr (.inl closed))]
      exact List.append_nil _
    · have since : current.closed = true ↔ .close ∈ history :=
        stands.closed.trans (or_iff_right closed)
      rw [if_neg closed, if_neg closed, Use.flatMap_early_drive]
      exact congrArg _ (if_congr since rfl rfl)
  untouched other fresh := by
    rw [Use.served_drive, List.mem_append, List.mem_singleton, not_or] at fresh
    rw [machines_drive, Function.update_of_ne fresh.2]
    exact stands.untouched other fresh.1
  touched other among := by
    rw [Use.served_drive, List.mem_append, List.mem_singleton] at among
    by_cases same : other = index
    · subst same
      refine ⟨ending, ?_, ?_⟩
      · rw [machines_drive, Function.update_self]
        exact outcome.ends.comes
      · rw [returned_append]
        constructor
        · rintro ⟨value, finished⟩
          exact .inr ⟨failure, value, rfl, outcome.ends.ended.trans finished⟩
        · rintro (returned | ⟨failure', value, used, finished⟩)
          · exact outcome.finished.mpr (.inl returned)
          · cases used
            exact ⟨value, outcome.ends.ended.symm.trans finished⟩
    · rcases stands.touched other (among.resolve_right same) with ⟨last, comes, returned⟩
      refine ⟨last, ?_, returned.trans ?_⟩
      · rw [machines_drive, Function.update_of_ne same]
        exact comes
      · have apart : index ≠ other := fun is => same is.symm
        simp only [returned_append, Use.drive.injEq, apart, false_and, exists_false, or_false]

theorem exists_stands_after (payload : Nat -> Buffer) (memory : Memory) (journal : Array Event)
    (feed : Option Feed) (drain : Drain) (enough : 2 ≤ limit) (history : List Use) :
    let first := new payload memory journal ⟨feed, some drain⟩
    ∃ current, Stands payload memory feed drain limit first history (first.after limit history)
      current := by
  intro first
  induction history using List.reverseRecOn with
  | nil => exact ⟨drain, stands_new payload memory journal feed drain limit⟩
  | append_singleton history use inductionHypothesis =>
    rcases inductionHypothesis with ⟨current, stands⟩
    rw [after_append]
    cases use with
    | close => exact ⟨_, stands.close⟩
    | drive index failure =>
      rcases stands.exists_outcome enough index failure with ⟨ending, after, outcome⟩
      exact ⟨after, stands.drive outcome⟩

end

end Desk

/-- However often several machines with any payloads are driven on a stream, in any
order, whenever waiting for it to drain fails, and whenever it is closed: the writing
side has got, in order, the payloads of those machines whose first drive began while
it was open, each once.

A drive of a machine with a payload that is not empty has a result, its length, if it
is the first one, with the stream open and the wait successful, or if an earlier one
has had a result, and otherwise not.  A first drive with the stream closed hands
nothing over and reports that everything is left.  A machine without any bytes always
returns, and asks nothing of the stream.  No drive waits more than once. -/
theorem hands_payloads_over_once (payload : Nat -> Buffer) (memory : Memory)
    (journal : Array Event) (feed : Option Feed) (drain : Drain) {limit : Nat} (enough : 2 ≤ limit)
    (history : List Use) :
    let first := Desk.new payload memory journal ⟨feed, some drain⟩
    let now := first.after limit history
    let size index := (payload index).size memory
    let early := if drain.closed then [] else Use.early history
    ∃ current : Drain, now.context.state = ⟨feed, some current⟩ ∧
      (current.closed = true ↔ drain.closed = true ∨ .close ∈ history) ∧
      current.data.bytes =
        drain.data.bytes ++ early.flatMap (fun index => (payload index).bytes memory) ∧
      early.Nodup ∧
      ∀ index failure,
        let run := now.drive limit index failure
        let isFirst := index ∉ Use.served history
        ∃ after : Drain, run.context.state = ⟨feed, some after⟩ ∧
          after.drains ≤ current.drains + 1 ∧
          (∀ value, run.ending = .finished value -> value = size index) ∧
          (size index ≠ 0 -> ((∃ value, run.ending = .finished value) ↔
            isFirst ∧ current.closed = false ∧ failure = none ∨
              first.Returned limit history index)) ∧
          (size index ≠ 0 -> isFirst -> current.closed = true ->
            run.ending = .failed (.writeZero (size index) (size index) 0) ∧
              after = { current with failure := failure }) ∧
          (size index = 0 -> run.ending = .finished 0 ∧
            after = { current with failure := failure }) := by
  intro first now size early
  rcases Desk.exists_stands_after payload memory journal feed drain enough history with
    ⟨current, stands⟩
  refine ⟨current, stands.state, stands.closed, stands.data, ?_, ?_⟩
  · show (if drain.closed then [] else Use.early history).Nodup
    by_cases closed : drain.closed = true
    · rw [if_pos closed]
      exact List.nodup_nil
    · rw [if_neg closed]
      exact Use.nodup_early history
  intro index failure run isFirst
  rcases stands.exists_outcome enough index failure with ⟨ending, after, outcome⟩
  have ended : run.ending = ending := outcome.ends.ended
  rw [ended]
  refine ⟨after, outcome.ends.state, outcome.gains.drains, ?_, ?_, ?_, ?_⟩
  · rintro value rfl
    exact outcome.ends.comes.value_eq
  · intro left
    rw [outcome.finished, or_comm]
    have empty : ¬ (payload index).size memory = 0 := left
    simp only [empty, false_or]
    rfl
  · intro left fresh closed
    exact ⟨outcome.refused fresh closed left, outcome.unchanged (.inl closed)⟩
  · intro empty
    rcases outcome.ends.comes.done_or_spent with ⟨finished, -⟩ | ⟨-, left, -⟩
    · exact ⟨finished.trans (congrArg _ empty), outcome.unchanged (.inr empty)⟩
    · exact absurd empty left

/-- The second machine fails after its payload has been handed over, and is driven
again; then the stream is closed.  Each payload is there once, the first machine
still returns, and a third one is told that everything is left. -/
theorem hands_payloads_over_once_of_failure :
    let payload index := if index = 0 then Buffer.frozen [1, 2] else .frozen [3]
    let first := Desk.new payload .empty #[] ⟨none, some ⟨.empty, false, 0, none⟩⟩
    let now := first.after 2 [.drive 0 none, .drive 1 (some "reset"), .drive 1 none, .close]
    ∃ current : Drain, now.context.state = ⟨none, some current⟩ ∧
      current.data.bytes = [1, 2, 3] ∧
      (∃ value, (now.drive 2 0 none).ending = .finished value) ∧
      (now.drive 2 2 none).ending = .failed (.writeZero 1 1 0) := by
  intro payload first now
  rcases hands_payloads_over_once payload .empty #[] none ⟨.empty, false, 0, none⟩ (Nat.le_refl 2)
    [.drive 0 none, .drive 1 (some "reset"), .drive 1 none, .close] with
    ⟨current, state, closed, data, -, drives⟩
  refine ⟨current, state, data, ?_, ?_⟩
  · rcases drives 0 none with ⟨-, -, -, -, finished, -, -⟩
    exact (finished (by decide)).mpr (.inr ⟨[], none, _, 2, rfl, rfl⟩)
  · rcases drives 2 none with ⟨after, -, -, -, -, refused, -⟩
    exact (refused (by decide) (by decide) (closed.mpr (.inr (by decide)))).1

/-- It is not so that every first drive with the stream closed is refused: a machine
without any bytes returns. -/
theorem not_refused_without_bytes :
    ¬ ∀ (payload : Nat -> Buffer) (drain : Drain) (index : Nat), drain.closed = true ->
      let size := (payload index).size .empty
      ((Desk.new payload .empty #[] ⟨none, some drain⟩).drive 2 index none).ending =
        .failed (.writeZero size size 0) := by
  intro refused
  have failed := refused (fun _ => .frozen []) ⟨.empty, true, 0, none⟩ 0 rfl
  cases failed

end Duplex

end ResumableStreams
