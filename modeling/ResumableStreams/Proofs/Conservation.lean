import ResumableStreams.Proofs.Lending
import ResumableStreams.Proofs.Session

namespace ResumableStreams

/-!
# What an exact read loses

A `ReadExact` asks first whether its target has been reached, and only then
looks at the answer it is given.  Nothing is lost by this as long as the
target is reached by the answers themselves, since no request is made then.
But bytes may be seeded while a request is under way.  If they reach the
target, the answer to the request is dropped, with all the bytes that the
stream has given up for it.

There is a second way to lose bytes.  A machine that has a buffer in hand may
shorten it before it looks at the answer, and the answer may carry this very
buffer.  It takes a request that is presented again after it was answered.

And there is a third.  What has been collected when the stream ends leaves the
machine before the error that is to carry it is built, and an error that shows
a target of too many digits cannot be built.

These are the only ways.  What a machine takes of a call is told by
`ReadExact.takes`, what it drops by `ReadExact.drops`, and a session conserves
bytes if and only if every response is taken whole and nothing is dropped.
-/

/-! ## Two lists compared piece by piece -/

section

variable {Item Element : Type} {short long : Item -> List Element}

/-- Pieces of which each starts another are together at most as long as the
others. -/
theorem length_flatMap_le_of_isPrefix (starts : ∀ item, short item <+: long item)
    (items : List Item) : (items.flatMap short).length ≤ (items.flatMap long).length := by
  induction items with
  | nil => exact Nat.le_refl _
  | cons item items inductionHypothesis =>
    rw [List.flatMap_cons, List.flatMap_cons, List.length_append, List.length_append]
    exact Nat.add_le_add (starts item).length_le inductionHypothesis

theorem length_flatMap_append (first second : Item -> List Element) (items : List Item) :
    (items.flatMap fun item => first item ++ second item).length =
      (items.flatMap first).length + (items.flatMap second).length := by
  induction items with
  | nil => rfl
  | cons item items inductionHypothesis =>
    simp only [List.flatMap_cons, List.length_append, inductionHypothesis]
    omega

/-- Pieces of which each starts another are together the same as the others
only if nothing is missing from any of them. -/
theorem flatMap_eq_iff_of_isPrefix (starts : ∀ item, short item <+: long item)
    (items : List Item) :
    items.flatMap short = items.flatMap long ↔ ∀ item ∈ items, short item = long item := by
  induction items with
  | nil => simp only [List.flatMap_nil, List.not_mem_nil, false_implies, implies_true]
  | cons item items inductionHypothesis =>
    rw [List.forall_mem_cons, ← inductionHypothesis, List.flatMap_cons, List.flatMap_cons]
    constructor
    · intro same
      have lengths := congrArg List.length same
      rw [List.length_append, List.length_append] at lengths
      have first := (starts item).length_le
      have others := length_flatMap_le_of_isPrefix starts items
      have whole : short item = long item := (starts item).eq_of_length (by omega)
      rw [whole] at same
      exact ⟨whole, List.append_cancel_left same⟩
    · rintro ⟨whole, others⟩
      rw [whole, others]

/-- Let what is released and dropped of a list of items, and what is left at the
end, be what was there at the start and what was taken.  Where what was taken of
each item starts what was supplied, all that was supplied is released or left if
and only if all of it was taken and nothing dropped. -/
theorem balanced_iff_of_isPrefix {released dropped : Item -> List Element}
    (starts : ∀ item, short item <+: long item) {items : List Item} {first last : List Element}
    (balance : (items.flatMap fun item => released item ++ dropped item) ++ last =
      first ++ items.flatMap short) :
    items.flatMap released ++ last = first ++ items.flatMap long ↔
      ∀ item ∈ items, short item = long item ∧ dropped item = [] := by
  have kept (nothing : ∀ item ∈ items, dropped item = []) :
      (items.flatMap fun item => released item ++ dropped item) = items.flatMap released := by
    rw [List.flatMap_def, List.flatMap_def, List.map_congr_left]
    intro item member
    rw [nothing item member, List.append_nil]
  constructor
  · intro same
    -- Counting the bytes leaves room neither for a drop nor for a gap.
    have counted := congrArg List.length balance
    have counted' := congrArg List.length same
    have fewer := length_flatMap_le_of_isPrefix starts items
    rw [List.length_append, List.length_append, length_flatMap_append] at counted
    rw [List.length_append, List.length_append] at counted'
    have nothing : ∀ item ∈ items, dropped item = [] :=
      List.flatMap_eq_nil_iff.mp (List.eq_nil_of_length_eq_zero (by omega))
    rw [kept nothing, same, List.append_cancel_left_eq] at balance
    exact fun item member =>
      ⟨(flatMap_eq_iff_of_isPrefix starts items).mp balance.symm item member, nothing item member⟩
  · intro whole
    rw [← kept fun item member => (whole item member).2, balance, List.append_cancel_left_eq,
      flatMap_eq_iff_of_isPrefix starts]
    exact fun item member => (whole item member).1

end

/-- Shortening a buffer leaves the start of what it held, also where there is
no such buffer. -/
theorem Memory.contents_store_take (memory : Memory) (cell : Cell) (length : Nat) :
    (memory.store cell ((memory.contents cell).take length)).contents cell =
      (memory.contents cell).take length := by
  by_cases held : memory.Holds cell
  · exact Memory.contents_store_self held _
  · rw [store_of_not_holds held, contents_of_not_holds held, List.take_nil]

namespace ReadExact

/-! ## What is taken of an answer -/

/-- The machine shortens the buffer in hand before it looks at an answer, and
it is this buffer. -/
def Shortens (machine : ReadExact) (buffer : Buffer) : Prop :=
  machine.remaining < machine.read.capacity ∧ machine.read.slot.map .shared = some buffer

instance (machine : ReadExact) (buffer : Buffer) : Decidable (machine.Shortens buffer) :=
  inferInstanceAs (Decidable (_ ∧ _))

/-- The bytes that the machine takes of a response.  A machine that has reached
its target takes none. -/
def takesOf (machine : ReadExact) (memory : Memory) (output : Output) : Bytes :=
  if machine.Complete then []
  else if machine.Shortens output.buffer then (output.bytes memory).take machine.remaining
  else output.bytes memory

def takes (machine : ReadExact) (memory : Memory) : Exchange -> Bytes
  | ⟨.read, .response output⟩ => machine.takesOf memory output
  | _ => []

/-- A response is taken whole: none that holds bytes comes too late, and none
is cut short. -/
def TakesWhole (machine : ReadExact) (memory : Memory) (output : Output) : Prop :=
  (machine.Complete -> output.bytes memory = []) ∧
    (¬ machine.Complete -> machine.Shortens output.buffer ->
      (output.bytes memory).length ≤ machine.remaining)

theorem takesOf_isPrefix (machine : ReadExact) (memory : Memory) (output : Output) :
    machine.takesOf memory output <+: output.bytes memory := by
  unfold takesOf
  split
  · exact List.nil_prefix
  · split
    · exact List.take_prefix _ _
    · exact List.prefix_rfl

/-- The machine takes all bytes of a response exactly if it takes the response
whole. -/
theorem takesOf_eq_iff (machine : ReadExact) (memory : Memory) (output : Output) :
    machine.takesOf memory output = output.bytes memory ↔ machine.TakesWhole memory output := by
  unfold takesOf TakesWhole
  by_cases complete : machine.Complete
  · rw [if_pos complete]
    constructor
    · intro nothing
      exact ⟨fun _ => nothing.symm, fun incomplete => absurd complete incomplete⟩
    · intro whole
      exact (whole.1 complete).symm
  · rw [if_neg complete]
    by_cases shortens : machine.Shortens output.buffer
    · rw [if_pos shortens]
      constructor
      · intro same
        have fits : (output.bytes memory).length ≤ machine.remaining := by
          rw [← same]
          exact List.length_take_le _ _
        exact ⟨fun reached => absurd reached complete, fun _ _ => fits⟩
      · intro whole
        exact List.take_of_length_le (whole.2 complete shortens)
    · rw [if_neg shortens]
      constructor
      · intro _
        exact ⟨fun reached => absurd reached complete, fun _ shortened => absurd shortened shortens⟩
      · intro _
        rfl

theorem bytes_trimmed_of_shortens {machine : ReadExact} {buffer : Buffer}
    (shortens : machine.Shortens buffer) (memory : Memory) :
    buffer.bytes (machine.trimmed memory).2 = (buffer.bytes memory).take machine.remaining := by
  rcases shortens with ⟨short, inHand⟩
  rcases Option.map_eq_some_iff.mp inHand with ⟨cell, slot, same⟩
  subst same
  rw [trimmed_eq_truncate, Read.truncate_of_lt short]
  simp only [slot, Buffer.bytes_shared]
  exact Memory.contents_store_take memory cell machine.remaining

theorem bytes_trimmed_of_not_shortens {machine : ReadExact} {buffer : Buffer}
    (apart : ¬ machine.Shortens buffer) (memory : Memory) :
    buffer.bytes (machine.trimmed memory).2 = buffer.bytes memory := by
  rw [trimmed_eq_truncate]
  rcases Nat.lt_or_ge machine.remaining machine.read.capacity with short | long
  · rw [Read.truncate_of_lt short]
    cases inHand : machine.read.slot with
    | none => rfl
    | some cell =>
      cases buffer with
      | frozen bytes => rfl
      | shared other =>
        have different : other ≠ cell := by
          rintro rfl
          exact apart ⟨short, by rw [inHand, Option.map_some]⟩
        exact Memory.contents_store_of_ne different _
  · rw [Read.truncate_of_le long]

/-- A machine that misses something takes what its buffer holds once it has
been made to fit. -/
theorem bytes_output_trimmed {machine : ReadExact} (incomplete : ¬ machine.Complete)
    (output : Output) (memory : Memory) :
    output.bytes (machine.trimmed memory).2 = machine.takesOf memory output := by
  rw [takesOf, if_neg incomplete]
  by_cases shortens : machine.Shortens output.buffer
  · rw [if_pos shortens, Output.bytes, bytes_trimmed_of_shortens shortens, Output.bytes,
      List.take_take, List.take_take, Nat.min_comm]
  · rw [if_neg shortens, Output.bytes, bytes_trimmed_of_not_shortens shortens, Output.bytes]

/-! ## What is dropped at the end of the stream -/

/-- An exchange that tells a machine of the end of the stream before its target
has been reached, where the target has too many digits. -/
def EndsUntold (machine : ReadExact) : Exchange -> Prop
  | ⟨.read, .response output⟩ =>
    output.count = 0 ∧ ¬ machine.Complete ∧ ¬ Text.Writable machine.target
  | _ => False

instance (machine : ReadExact) : DecidablePred machine.EndsUntold
  | ⟨.read, .response _⟩ => inferInstanceAs (Decidable (_ ∧ _))
  | ⟨.read, .request _⟩ | ⟨.write, _⟩ => .isFalse id

/-- The bytes that the machine drops when it is told of the end: all it has. -/
def drops (machine : ReadExact) (exchange : Exchange) : Bytes :=
  if machine.EndsUntold exchange then machine.collected.bytes else []

theorem EndsUntold.incomplete {machine : ReadExact} {exchange : Exchange}
    (untold : machine.EndsUntold exchange) : ¬ machine.Complete := by
  rcases exchange with ⟨_ | _, _ | _⟩
  · exact untold.elim
  · exact untold.2.1
  · exact untold.elim
  · exact untold.elim

theorem EndsUntold.not_writable {machine : ReadExact} {exchange : Exchange}
    (untold : machine.EndsUntold exchange) : ¬ Text.Writable machine.target := by
  rcases exchange with ⟨_ | _, _ | _⟩
  · exact untold.elim
  · exact untold.2.2
  · exact untold.elim
  · exact untold.elim

theorem drops_of_complete {machine : ReadExact} (complete : machine.Complete)
    (exchange : Exchange) : machine.drops exchange = [] :=
  if_neg fun untold => untold.incomplete complete

/-! ## One call -/

/-- A step hands over, keeps or drops exactly the given bytes. -/
def Balances (step : Step ReadExact Bytes) (dropped bytes : Bytes) : Prop :=
  step.progress.released step.memory ++ dropped ++ step.machine.collected.bytes = bytes

theorem Balances.after {step : Step ReadExact Bytes} {dropped bytes : Bytes}
    (balances : Balances step dropped bytes) (events : List Event) :
    Balances (step.after events) dropped bytes := balances

theorem balances_finish (machine : ReadExact) (memory : Memory) :
    Balances (machine.finish memory) [] machine.collected.bytes := by
  simp only [Balances, finish, Progress.released, Collected.bytes_empty, List.append_nil]

theorem balances_request (machine : ReadExact) (memory : Memory) :
    Balances (machine.request memory) [] machine.collected.bytes := by
  unfold request
  split
  · exact machine.balances_finish memory
  · rfl

/-- An answer adds the bytes that are taken of it. -/
theorem balances_receive (machine : ReadExact) (exchange : Exchange) (memory : Memory) :
    Balances (machine.receive exchange memory) (machine.drops exchange)
      (machine.collected.bytes ++ machine.takes memory exchange) := by
  rcases exchange with ⟨direction, payload⟩
  by_cases complete : machine.Complete
  · rw [drops_of_complete complete]
    have nothing : machine.takes memory ⟨direction, payload⟩ = [] := by
      cases direction with
      | write => rfl
      | read =>
        cases payload with
        | request buffer => rfl
        | response output => exact if_pos complete
    rw [nothing, List.append_nil, receive, if_pos complete]
    exact machine.balances_finish memory
  · rw [receive, if_neg complete]
    cases direction with
    | write => exact (List.append_nil _).symm
    | read =>
      cases payload with
      | request buffer => exact (List.append_nil _).symm
      | response output =>
        have taken := bytes_output_trimmed complete output memory
        by_cases nothing : output.count = 0
        · have noneTaken : machine.takes memory ⟨.read, .response output⟩ = [] := by
            rw [takes, ← taken, Output.bytes, nothing, List.take_zero]
          rw [noneTaken]
          simp only [Read.receive, if_pos nothing, reporting_shortage]
          by_cases writable : Text.Writable machine.target
          · have kept : machine.drops ⟨.read, .response output⟩ = [] :=
              if_neg fun untold => untold.2.2 writable
            rw [kept, if_pos writable]
            simp only [Balances, Progress.released, Buffer.bytes, Collected.bytes_empty,
              List.append_nil]
          · have dropped : machine.drops ⟨.read, .response output⟩ = machine.collected.bytes :=
              if_pos ⟨nothing, complete, writable⟩
            rw [dropped, if_neg writable]
            simp only [Balances, Progress.released, Collected.bytes_empty, List.nil_append]
        · have kept : machine.drops ⟨.read, .response output⟩ = [] :=
            if_neg fun untold => nothing untold.1
          rw [kept]
          simp only [Read.receive, if_neg nothing]
          apply Balances.after
          rw [takes, ← taken]
          have absorbed := bytes_absorb
            { machine with read := (machine.trimmed memory).1 } output (machine.trimmed memory).2
          rw [← absorbed]
          exact balances_request _ _

def taken (entry : Entry ReadExact) : Bytes :=
  match entry.call with
  | .extend bytes => bytes
  | .resume (some exchange) => entry.before.machine.takes entry.before.memory exchange
  | _ => []

def dropped (entry : Entry ReadExact) : Bytes :=
  match entry.call with
  | .resume (some exchange) => entry.before.machine.drops exchange
  | _ => []

theorem balance_entry (entry : Entry ReadExact) :
    (entry.released ++ dropped entry) ++ entry.after.collected =
      entry.before.collected ++ taken entry := by
  rcases entry with ⟨⟨machine, memory, outstanding⟩, call⟩
  cases call with
  | extend bytes => exact Collecting.collected_extend machine bytes
  | elsewhere memory => exact (List.append_nil _).symm
  | resume answer =>
    cases answer with
    | none => exact (machine.balances_request memory).trans (List.append_nil _).symm
    | some exchange => exact machine.balances_receive exchange memory

/-! ## All sessions -/

/-- A response that is passed is taken whole. -/
def WholeEntry (entry : Entry ReadExact) : Prop :=
  ∀ output, entry.call = .resume (some ⟨.read, .response output⟩) ->
    entry.before.machine.TakesWhole entry.before.memory output

theorem takes_isPrefix (machine : ReadExact) (memory : Memory) (exchange : Exchange) :
    machine.takes memory exchange <+: exchange.payloadBytes memory := by
  rcases exchange with ⟨direction, payload⟩
  cases direction with
  | write => exact List.prefix_rfl
  | read =>
    cases payload with
    | request buffer => exact List.prefix_rfl
    | response output => exact machine.takesOf_isPrefix memory output

theorem taken_isPrefix (entry : Entry ReadExact) : taken entry <+: entry.supplied := by
  rcases entry with ⟨⟨machine, memory, outstanding⟩, call⟩
  cases call with
  | extend bytes => exact List.prefix_rfl
  | elsewhere memory => exact List.prefix_rfl
  | resume answer =>
    cases answer with
    | none => exact List.prefix_rfl
    | some exchange => exact machine.takes_isPrefix memory exchange

/-- A call is taken with all that it brings exactly if a response that it
passes is taken whole. -/
theorem taken_eq_iff (entry : Entry ReadExact) :
    taken entry = entry.supplied ↔ WholeEntry entry := by
  rcases entry with ⟨⟨machine, memory, outstanding⟩, call⟩
  -- A call that passes no response brings nothing that could be missed.
  have other (apart : ∀ output, call ≠ .resume (some ⟨.read, .response output⟩)) :
      WholeEntry ⟨⟨machine, memory, outstanding⟩, call⟩ :=
    fun output passed => absurd passed (apart output)
  cases call with
  | extend bytes => exact ⟨fun _ => other (fun _ => nofun), fun _ => rfl⟩
  | elsewhere memory => exact ⟨fun _ => other (fun _ => nofun), fun _ => rfl⟩
  | resume answer =>
    cases answer with
    | none => exact ⟨fun _ => other (fun _ => nofun), fun _ => rfl⟩
    | some exchange =>
      rcases exchange with ⟨direction, payload⟩
      cases direction with
      | write => exact ⟨fun _ => other (fun _ => nofun), fun _ => rfl⟩
      | read =>
        cases payload with
        | request buffer => exact ⟨fun _ => other (fun _ => nofun), fun _ => rfl⟩
        | response output =>
          refine (machine.takesOf_eq_iff memory output).trans ⟨?_, ?_⟩
          · rintro whole _ ⟨⟩
            exact whole
          · intro whole
            exact whole output rfl

/-- The stream does not end, for a machine that has collected something, before a
target of too many digits. -/
def KeptEntry (entry : Entry ReadExact) : Prop :=
  ∀ exchange, entry.call = .resume (some exchange) ->
    entry.before.machine.EndsUntold exchange -> entry.before.collected = []

theorem dropped_eq_nil_iff (entry : Entry ReadExact) : dropped entry = [] ↔ KeptEntry entry := by
  rcases entry with ⟨before, call⟩
  cases call with
  | extend bytes => exact ⟨fun _ _ => nofun, fun _ => rfl⟩
  | elsewhere memory => exact ⟨fun _ _ => nofun, fun _ => rfl⟩
  | resume answer =>
    cases answer with
    | none => exact ⟨fun _ _ => nofun, fun _ => rfl⟩
    | some exchange =>
      show before.machine.drops exchange = [] ↔ _
      rw [drops, ite_eq_right_iff]
      constructor
      · rintro kept _ ⟨⟩
        exact kept
      · intro kept
        exact kept exchange rfl

/-- In any session, the results, what early ends have left, what has been
dropped and what is collected are together what was collected before and what
was taken.  Without what has been dropped, this is all that was seeded and
passed if and only if every response was taken whole and nothing was dropped. -/
theorem conserves_bytes_iff (session : Session ReadExact) (calls : List Call) :
    ((session.entries calls).flatMap fun entry => entry.released ++ dropped entry) ++
          (session.afterAll calls).collected =
        session.collected ++ (session.entries calls).flatMap taken ∧
      ((session.entries calls).flatMap Entry.released ++ (session.afterAll calls).collected =
          session.collected ++ (session.entries calls).flatMap Entry.supplied ↔
        ∀ entry ∈ session.entries calls, WholeEntry entry ∧ KeptEntry entry) := by
  have balance := Session.balance balance_entry session calls
  refine ⟨balance, ?_⟩
  rw [balanced_iff_of_isPrefix taken_isPrefix balance]
  simp only [taken_eq_iff, dropped_eq_nil_iff]

/-- Two bytes are seeded while a request for two bytes is under way, and the
two that come as its answer are lost. -/
theorem not_conserved_of_seeding_meanwhile :
    let session : Session ReadExact := ⟨(create 2 2 .empty).1, (create 2 2 .empty).2, none⟩
    let calls : List Call :=
      [.resume none, .extend [0x61, 0x62], .elsewhere (Memory.empty.allocate [0x63, 0x64]).2,
        .resume (some ⟨.read, .response ⟨.shared ⟨0⟩, 2⟩⟩)]
    (∀ entry ∈ session.entries calls, entry.Answers) ∧
      (session.entries calls).flatMap Entry.released ++ (session.afterAll calls).collected ≠
        session.collected ++ (session.entries calls).flatMap Entry.supplied := by
  intro session calls
  constructor
  · intro entry member direction output passed
    simp only [session, calls, Session.entries, List.mem_cons, List.not_mem_nil, or_false] at member
    rcases member with rfl | rfl | rfl | rfl
    · cases passed
    · cases passed
    · cases passed
    · cases passed
      rfl
  · decide

/-! ## Sessions in good order -/

/-- Nothing is seeded while a request is under way, only this request is
presented again, and only this request is answered. -/
def Orderly (entry : Entry ReadExact) : Prop :=
  match entry.call with
  | .extend _ => entry.before.outstanding = none
  | .resume (some ⟨direction, .request buffer⟩) =>
    entry.before.outstanding = some ⟨direction, .request buffer⟩
  | .resume (some ⟨direction, .response output⟩) =>
    entry.before.outstanding = some ⟨direction, .request output.buffer⟩
  | _ => True

/-- While a request is under way, the machine misses something and has no
buffer in hand. -/
def Suspended (session : Session ReadExact) : Prop :=
  session.outstanding ≠ none -> ¬ session.machine.Complete ∧ session.machine.read.slot = none

/-- A response that answers the request under way is taken whole. -/
theorem Suspended.wholeEntry {entry : Entry ReadExact} (suspended : Suspended entry.before)
    (orderly : Orderly entry) : WholeEntry entry := by
  intro output passed
  have waiting : entry.before.outstanding ≠ none := by
    unfold Orderly at orderly
    rw [passed] at orderly
    rw [orderly]
    exact Option.some_ne_none _
  rcases suspended waiting with ⟨incomplete, lent⟩
  refine ⟨fun complete => absurd complete incomplete, fun _ shortens => ?_⟩
  have inHand := shortens.2
  rw [lent] at inHand
  cases inHand

/-- Where the machine asks for more, it waits; otherwise it does not. -/
theorem suspended_request (machine : ReadExact) (memory : Memory) (before : Option Exchange) :
    Suspended ⟨(machine.request memory).machine, (machine.request memory).memory,
      Entry.outstandingAfter before (machine.request memory).progress⟩ := by
  intro waiting
  by_cases complete : machine.Complete
  · simp only [request, if_pos complete, finish, Entry.outstandingAfter, ne_eq, not_true] at waiting
  · simp only [request, if_neg complete]
    exact ⟨complete, rfl⟩

theorem slot_trimmed (machine : ReadExact) (memory : Memory) :
    (machine.trimmed memory).1.slot = machine.read.slot := by
  rw [trimmed_eq_truncate]
  exact Read.slot_truncate machine.read machine.remaining memory

/-- The answer to the request under way, or the request itself, leaves a
machine that waits again or has come to an end. -/
theorem suspended_receive {machine : ReadExact} {memory : Memory} {before : Option Exchange}
    {exchange : Exchange} (suspended : Suspended ⟨machine, memory, before⟩)
    (orderly : Orderly ⟨⟨machine, memory, before⟩, .resume (some exchange)⟩) :
    Suspended ⟨(machine.receive exchange memory).machine, (machine.receive exchange memory).memory,
      Entry.outstandingAfter before (machine.receive exchange memory).progress⟩ := by
  have waiting : before ≠ none := by
    rcases exchange with ⟨direction, payload⟩
    cases payload with
    | request buffer => exact fun resting => Option.some_ne_none _ (orderly.symm.trans resting)
    | response output => exact fun resting => Option.some_ne_none _ (orderly.symm.trans resting)
  rcases suspended waiting with ⟨incomplete, lent⟩
  have lentAfter := (machine.slot_trimmed memory).trans lent
  rcases exchange with ⟨direction, payload⟩
  rw [receive, if_neg incomplete]
  cases direction with
  | write => exact fun _ => ⟨incomplete, lentAfter⟩
  | read =>
    cases payload with
    | request buffer => exact fun _ => ⟨incomplete, lentAfter⟩
    | response output =>
      by_cases nothing : output.count = 0
      · simp only [Read.receive, if_pos nothing, reporting_shortage]
        intro waitsOn
        refine absurd ?_ waitsOn
        split <;> rfl
      · simp only [Read.receive, if_neg nothing]
        exact suspended_request _ _ before

/-- A call in good order keeps the machine suspended while a request is under
way. -/
theorem Suspended.after {entry : Entry ReadExact} (suspended : Suspended entry.before)
    (orderly : Orderly entry) : Suspended entry.after := by
  rcases entry with ⟨⟨machine, memory, outstanding⟩, call⟩
  cases call with
  | extend bytes => exact fun waiting => absurd orderly waiting
  | elsewhere memory => exact suspended
  | resume answer =>
    cases answer with
    | none => exact machine.suspended_request memory outstanding
    | some exchange => exact suspended_receive suspended orderly

theorem Suspended.wholeEntries {session : Session ReadExact} (suspended : Suspended session)
    {calls : List Call} (orderly : ∀ entry ∈ session.entries calls, Orderly entry) :
    ∀ entry ∈ session.entries calls, WholeEntry entry := by
  induction calls generalizing session with
  | nil => exact fun _ member => absurd member List.not_mem_nil
  | cons call calls inductionHypothesis =>
    rw [Session.entries, List.forall_mem_cons] at orderly ⊢
    have first : Suspended (Entry.mk session call).before := suspended
    exact ⟨first.wholeEntry orderly.1, inductionHypothesis (first.after orderly.1) orderly.2⟩

theorem target_request (machine : ReadExact) (memory : Memory) :
    (machine.request memory).machine.target = machine.target := by
  unfold request
  split <;> rfl

theorem target_receive (machine : ReadExact) (exchange : Exchange) (memory : Memory) :
    (machine.receive exchange memory).machine.target = machine.target := by
  by_cases complete : machine.Complete
  · rw [receive, if_pos complete]
    rfl
  · rw [receive, if_neg complete]
    rcases exchange with ⟨_ | _, buffer | output⟩
    · rfl
    · by_cases nothing : output.count = 0
      · simp only [Read.receive, if_pos nothing]
      · simp only [Read.receive, if_neg nothing]
        exact target_request _ _
    · rfl
    · rfl

theorem target_after (entry : Entry ReadExact) :
    entry.after.machine.target = entry.before.machine.target := by
  rcases entry with ⟨⟨machine, memory, outstanding⟩, call⟩
  cases call with
  | extend bytes => rfl
  | elsewhere memory => rfl
  | resume answer =>
    cases answer with
    | none => exact machine.target_request memory
    | some exchange => exact machine.target_receive exchange memory

theorem target_of_mem_entries {session : Session ReadExact} {calls : List Call}
    {entry : Entry ReadExact} (member : entry ∈ session.entries calls) :
    entry.before.machine.target = session.machine.target := by
  induction calls generalizing session with
  | nil => cases member
  | cons call calls inductionHypothesis =>
    rcases List.mem_cons.mp member with rfl | later
    · rfl
    · exact (inductionHypothesis later).trans (target_after ⟨session, call⟩)

/-- A session in good order that begins without a request under way conserves
all bytes, unless its target has too many digits. -/
theorem conserves_bytes_of_orderly {session : Session ReadExact}
    (resting : session.outstanding = none) (writable : Text.Writable session.machine.target)
    {calls : List Call} (orderly : ∀ entry ∈ session.entries calls, Orderly entry) :
    (session.entries calls).flatMap Entry.released ++ (session.afterAll calls).collected =
      session.collected ++ (session.entries calls).flatMap Entry.supplied := by
  have suspended : Suspended session := fun waiting => absurd resting waiting
  rw [balanced_iff_of_isPrefix taken_isPrefix (Session.balance balance_entry session calls)]
  intro entry member
  refine ⟨(taken_eq_iff entry).mpr (suspended.wholeEntries orderly entry member), ?_⟩
  rw [dropped_eq_nil_iff]
  intro exchange _ untold
  exact absurd writable (target_of_mem_entries member ▸ untold.not_writable)

end ReadExact

end ResumableStreams
