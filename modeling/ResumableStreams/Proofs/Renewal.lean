import ResumableStreams.Proofs.Imitation
import ResumableStreams.Proofs.Likeness
import ResumableStreams.Proofs.Persistence
import ResumableStreams.Proofs.Release
import ResumableStreams.Proofs.Succession

namespace ResumableStreams

/-!
# Requests that fail leave the stream as new

The stream of a body sends its request when it is first read.  The request may
fail in four ways, each at another depth: there is no connection, the system
fails, the status is refused, or the announced length cannot be read.  None of
them leaves anything behind by which a caller could tell the stream from a new
one.  The next read sends the request again.

What may be left behind is a client, which an asynchronous stream has made for
the request, and the response that was refused.  The one gives way to the client
of the next request, and the other is never looked at again.
-/

/-- Why a read fails whose request gets this answer, if it does. -/
def Answer.refusal : Answer -> Option Fault
  | .notConnected reason => some (.transport (.notConnected reason))
  | .systemFailure text => some (.systemText text)
  | .response status contentLength _ =>
    if status ≥ 400 then some (.refused status)
    else announcementFault contentLength

/-- What is left of the script once so many answers for an address have been
taken. -/
def Net.scriptAfter (url : String) :
    Nat -> List (String × List Answer) -> List (String × List Answer)
  | 0, script => script
  | count + 1, script => (takeAnswer url (scriptAfter url count script)).2

/-- The answer with this number that the script has for an address. -/
def Net.answerAt (url : String) (number : Nat) (script : List (String × List Answer)) : Answer :=
  (takeAnswer url (scriptAfter url number script)).1

namespace HttpBody

/-! ## Requests that fail -/

/-- Only a client and the accounts of the network tell the stream from a new one
on a network with this script. -/
structure AsNew (start : HttpBody) (script : List (String × List Answer))
    (state : HttpBody × Net) : Prop where
  body : state.1 = { start with client := state.1.client }
  script : state.2.script = script

/-- Between the two states a request has been sent, of which the body keeps a
client at most. -/
structure Asked (before after : HttpBody × Net) : Prop where
  body : after.1 = { before.1 with client := after.1.client }
  script : after.2.script = (Net.takeAnswer before.1.url before.2.script).2
  gets : after.2.gets = before.2.gets.push before.1.url

theorem asked_asked (state : HttpBody × Net) : Asked state (asked state) := by
  rcases asked_eq state with ⟨client, clients, asks⟩
  rw [asks]
  exact ⟨rfl, rfl, rfl⟩

/-- A stream without a response gives up a client at most. -/
theorem Asked.giveUp {before after : HttpBody × Net} (asks : Asked before after)
    (nothing : before.1.response = none) : Asked before (giveUp after) := by
  have unanswered : after.1.response = none :=
    (congrArg HttpBody.response asks.body).trans nothing
  rcases giveUp_eq unanswered with ⟨client, clients, gives⟩
  rw [gives]
  refine ⟨?_, asks.script, asks.gets⟩
  exact congrArg (fun body : HttpBody => { body with client := client }) asks.body

/-- A request that is refused is told of, and leaves nothing in the body but
perhaps a client. -/
theorem exists_send_of_refusal {state : HttpBody × Net} (nothing : state.1.response = none)
    {fault : Fault} (refused : (upcoming state).refusal = some fault) :
    ∃ after, send state = (some fault, after) ∧ Asked state after := by
  have asks := asked_asked state
  have hands (chunks : List Chunk) : Asked state (handed chunks state) :=
    ⟨asks.body, asks.script, asks.gets⟩
  rw [send_eq]
  cases answered : upcoming state with
  | notConnected reason =>
    rw [answered] at refused
    cases refused
    exact ⟨_, rfl, asks.giveUp nothing⟩
  | systemFailure text =>
    rw [answered] at refused
    cases refused
    exact ⟨_, rfl, asks⟩
  | response status contentLength chunks =>
    rw [answered, Answer.refusal] at refused
    by_cases high : status ≥ 400
    · rw [if_pos high] at refused
      cases refused
      have dropped : Asked state (turnedDown chunks state) := ⟨asks.body, asks.script, asks.gets⟩
      simp only [if_pos high]
      exact ⟨_, rfl, dropped.giveUp nothing⟩
    · rw [if_neg high] at refused
      simp only [if_neg high, (announcement contentLength).2 fault refused]
      exact ⟨_, rfl, hands chunks⟩

/-- So a read that meets such an answer fails, takes the answer off the script,
and leaves the buffer as it was. -/
theorem exists_readInto_of_refusal {state : HttpBody × Net} (nothing : state.1.response = none)
    {fault : Fault} (refused : (upcoming state).refusal = some fault) (lent : Lent) :
    ∃ after, readInto lent state =
        (⟨lent.bytes, .raised fault, [.sendingGet state.1.concurrency state.1.url]⟩, after) ∧
      Asked state after := by
  rcases exists_send_of_refusal nothing refused with ⟨after, sends, asks⟩
  refine ⟨after, ?_, asks⟩
  simp only [readInto_eq, ensureResponse, nothing, sends]
  rfl

theorem AsNew.response {start : HttpBody} {script : List (String × List Answer)}
    {state : HttpBody × Net} (new : AsNew start script state) (unsent : start.response = none) :
    state.1.response = none :=
  (congrArg HttpBody.response new.body).trans unsent

/-- A request that is refused leaves a body as new, with the rest of the
script. -/
theorem AsNew.asked {start : HttpBody} {script : List (String × List Answer)}
    {state after : HttpBody × Net} (new : AsNew start script state) (asks : Asked state after) :
    AsNew start (Net.takeAnswer start.url script).2 after where
  body := by
    rw [asks.body, new.body]
  script := by
    have url : state.1.url = start.url := (congrArg HttpBody.url new.body).trans rfl
    rw [asks.script, new.script, url]

/-! ## Bodies that cannot be told apart -/

/-- The chunks that have not been taken from a response. -/
def Draining (net : Net) (index : Nat) (chunks : List Chunk) : Prop :=
  ∃ response, net.responses[index]? = some response ∧ response.chunks = chunks

/-- Two bodies that differ in their clients and in the numbers of their responses
only, with the same to come from either network. -/
structure Twin (first second : HttpBody × Net) : Prop where
  body : second.1 = { first.1 with response := second.1.response, client := second.1.client }
  script : second.2.script = first.2.script
  response : Option.Rel
    (fun index other => ∃ chunks, Draining first.2 index chunks ∧ Draining second.2 other chunks)
    first.1.response second.1.response

theorem Twin.upcoming {first second : HttpBody × Net} (twin : Twin first second) :
    HttpBody.upcoming second = HttpBody.upcoming first := by
  have url : second.1.url = first.1.url := (congrArg HttpBody.url twin.body).trans rfl
  unfold HttpBody.upcoming
  rw [url, twin.script]

theorem Twin.response_eq_none {first second : HttpBody × Net} (twin : Twin first second)
    (nothing : first.1.response = none) : second.1.response = none := by
  have responses := twin.response
  rw [nothing] at responses
  cases known : second.1.response with
  | none => rfl
  | some other =>
    rw [known] at responses
    cases responses

/-- Requests that are refused leave the bodies alike. -/
theorem Twin.asked {first second first' second' : HttpBody × Net} (twin : Twin first second)
    (nothing : first.1.response = none) (asks : Asked first first')
    (asks' : Asked second second') : Twin first' second' := by
  have url : second.1.url = first.1.url := (congrArg HttpBody.url twin.body).trans rfl
  have nothing' := twin.response_eq_none nothing
  refine ⟨?_, ?_, ?_⟩
  · rw [asks'.body, asks.body, twin.body]
  · rw [asks'.script, asks.script, url, twin.script]
  · rw [asks'.body, asks.body]
    simp only [nothing, nothing']
    exact .none

/-- A request brings both bodies the same response, or the same refusal. -/
theorem Twin.send {first second : HttpBody × Net} (twin : Twin first second)
    (nothing : first.1.response = none) :
    (HttpBody.send second).1 = (HttpBody.send first).1 ∧
      Twin (HttpBody.send first).2 (HttpBody.send second).2 := by
  have nothing' := twin.response_eq_none nothing
  cases refused : (HttpBody.upcoming first).refusal with
  | some fault =>
    rcases exists_send_of_refusal nothing refused with ⟨after, sends, asks⟩
    rcases exists_send_of_refusal nothing' (twin.upcoming ▸ refused) with ⟨after', sends', asks'⟩
    rw [sends, sends']
    exact ⟨rfl, twin.asked nothing asks asks'⟩
  | none =>
    have same := twin.upcoming
    rcases asked_eq first with ⟨client, clients, asks⟩
    rcases asked_eq second with ⟨client', clients', asks'⟩
    rcases first with ⟨⟨url, concurrency, chunkSize, bytesRead, known, pending, response, _⟩, net⟩
    rcases second with ⟨⟨_, _, _, _, _, _, response', _⟩, net'⟩
    rcases twin with ⟨body, script, responses⟩
    cases body
    cases nothing
    cases nothing'
    rw [send_eq, send_eq, same]
    cases answered : HttpBody.upcoming _ with
    | notConnected reason =>
      rw [answered] at refused
      cases refused
    | systemFailure text =>
      rw [answered] at refused
      cases refused
    | response status contentLength chunks =>
      rw [answered, Answer.refusal] at refused
      by_cases high : status ≥ 400
      · rw [if_pos high] at refused
        cases refused
      · rw [if_neg high] at refused
        simp only [if_neg high, handed, asks, asks']
        rcases exists_announced ((announcement contentLength).1 refused)
          ⟨url, concurrency, chunkSize, bytesRead, known, pending, none, client⟩ with ⟨length, told⟩
        have told' := announced_eq
          ⟨url, concurrency, chunkSize, bytesRead, known, pending, none, client⟩ concurrency client'
          contentLength
        rw [told] at told'
        simp only [Except.map] at told'
        simp only [told, told']
        refine ⟨trivial, rfl, ?_, .some ⟨chunks, ⟨⟨chunks, false, 0⟩, ?_, rfl⟩,
          ⟨⟨chunks, false, 0⟩, ?_, rfl⟩⟩⟩
        · exact congrArg (fun script => (Net.takeAnswer url script).2) script
        · exact Array.getElem?_push_size
        · exact Array.getElem?_push_size

theorem Twin.ensurePending {first second : HttpBody × Net} (twin : Twin first second) :
    (HttpBody.ensurePending second).1 = (HttpBody.ensurePending first).1 ∧
      Twin (HttpBody.ensurePending first).2 (HttpBody.ensurePending second).2 := by
  rcases first with ⟨⟨url, concurrency, chunkSize, bytesRead, contentLength, pending, response,
    client⟩, net⟩
  rcases second with ⟨⟨_, _, _, _, _, _, response', client'⟩, net'⟩
  rcases twin with ⟨body, script, responses⟩
  cases body
  cases pending with
  | cons byte pending => exact ⟨rfl, rfl, script, responses⟩
  | nil =>
    cases responses with
    | none => exact ⟨rfl, rfl, script, .none⟩
    | @some index other drains =>
      rcases drains with ⟨chunks, ⟨response, found, rfl⟩, ⟨response', found', same⟩⟩
      rcases Net.exists_pull found chunkSize with ⟨after, pulls, keeps, left⟩
      rcases Net.exists_pull found' chunkSize with ⟨after', pulls', keeps', left'⟩
      rw [same] at pulls' left'
      have scripts : after'.script = after.script :=
        keeps'.script.trans (script.trans keeps.script.symm)
      have drains : ∃ chunks, Draining after index chunks ∧ Draining after' other chunks :=
        ⟨_, ⟨_, left, rfl⟩, ⟨_, left', rfl⟩⟩
      simp only [HttpBody.ensurePending, pulls, pulls']
      cases (Pull.next response.chunks).1 with
      | bytes data => exact ⟨rfl, rfl, scripts, .some drains⟩
      | ended => exact ⟨rfl, rfl, scripts, .some drains⟩
      | broken reason => exact ⟨rfl, rfl, scripts, .some drains⟩
      | systemFailure text => exact ⟨rfl, rfl, scripts, .some drains⟩

theorem Twin.ensureResponse {first second : HttpBody × Net} (twin : Twin first second) :
    (HttpBody.ensureResponse second).1 = (HttpBody.ensureResponse first).1 ∧
      Twin (HttpBody.ensureResponse first).2.2 (HttpBody.ensureResponse second).2.2 := by
  cases known : first.1.response with
  | none =>
    have nothing' := twin.response_eq_none known
    simp only [HttpBody.ensureResponse, known, nothing']
    exact twin.send known
  | some index =>
    have responses := twin.response
    rw [known] at responses
    cases known' : second.1.response with
    | none =>
      rw [known'] at responses
      cases responses
    | some other =>
      simp only [HttpBody.ensureResponse, known, known']
      exact ⟨trivial, twin⟩

/-- Whoever reads from either body gets the same. -/
theorem Twin.readInto {first second : HttpBody × Net} (twin : Twin first second) (lent : Lent) :
    let read := HttpBody.readInto lent first
    let same := HttpBody.readInto lent second
    same.1.contents = read.1.contents ∧ same.1.reply = read.1.reply ∧ Twin read.2 same.2 := by
  have ensured := twin.ensureResponse
  simp only [readInto_eq]
  generalize HttpBody.ensureResponse first = sent at ensured ⊢
  generalize HttpBody.ensureResponse second = sent' at ensured ⊢
  rcases sent with ⟨fault, events, sent⟩
  rcases sent' with ⟨fault', events', sent'⟩
  rcases ensured with ⟨rfl, twinSent⟩
  cases fault' with
  | some fault => exact ⟨rfl, rfl, twinSent⟩
  | none =>
    have pulled := Twin.ensurePending twinSent
    simp only
    generalize HttpBody.ensurePending sent = pending at pulled ⊢
    generalize HttpBody.ensurePending sent' = pending' at pulled ⊢
    rcases pending with ⟨fault, body, net⟩
    rcases pending' with ⟨fault', body', net'⟩
    obtain ⟨rfl, twinPulled⟩ : fault' = fault ∧ Twin (body, net) (body', net') := pulled
    cases fault' with
    | some fault => exact ⟨rfl, rfl, twinPulled⟩
    | none =>
      rcases body with ⟨_, _, _, _, _, _, _, _⟩
      rcases body' with ⟨_, _, _, _, _, _, _, _⟩
      rcases twinPulled with ⟨same, script, responses⟩
      cases same
      rcases lent with ⟨contents, writable⟩
      cases writable <;> exact ⟨rfl, rfl, rfl, script, responses⟩

theorem Twin.close {first second : HttpBody × Net} (twin : Twin first second) :
    Twin (HttpBody.close first) (HttpBody.close second) := by
  rcases close_eq first with ⟨client, clients, closes⟩
  rcases close_eq second with ⟨client', clients', closes'⟩
  have script (state : HttpBody × Net) : (HttpBody.close state).2.script = state.2.script :=
    (close_touches state).1
  refine ⟨?_, ?_, ?_⟩
  · rw [closes, closes', twin.body]
  · rw [script, script, twin.script]
  · rw [closes, closes']
    exact .none

/-- Nothing that is done with either body tells them apart. -/
theorem Twin.perform {first second : HttpBody × Net} (twin : Twin first second)
    (concurrency : Concurrency) (operation : Operation) :
    (HttpBody.perform concurrency operation second).1 =
        (HttpBody.perform concurrency operation first).1 ∧
      Twin (HttpBody.perform concurrency operation first).2
        (HttpBody.perform concurrency operation second).2 := by
  cases operation with
  | readInto lent =>
    rcases twin.readInto lent with ⟨contents, reply, after⟩
    rw [perform_readInto, perform_readInto, contents, reply]
    exact ⟨rfl, after⟩
  | write lent =>
    rw [perform_write, perform_write]
    exact ⟨rfl, twin⟩
  | close => exact ⟨rfl, twin.close⟩

/-- What callers of either body see of one operation after the other, the
requests on the account of the network left out. -/
theorem Twin.observations {first second : HttpBody × Net} (twin : Twin first second)
    (concurrency : Concurrency) (operations : List Operation) :
    let seen := fun observation : Observation =>
      (observation.given, observation.bytesRead, observation.contentLength)
    (HttpBody.observations concurrency operations second).map seen =
      (HttpBody.observations concurrency operations first).map seen := by
  intro seen
  induction operations generalizing first second with
  | nil => rfl
  | cons operation operations inductionHypothesis =>
    rcases twin.perform concurrency operation with ⟨given, after⟩
    have bytesRead := congrArg HttpBody.bytesRead after.body
    have contentLength := congrArg HttpBody.contentLength after.body
    simp only [HttpBody.observations, List.map_cons, inductionHypothesis after]
    refine congrArg (· :: _) ?_
    simp only [seen, observe, given, bytesRead, contentLength]

/-- Nor does a driver. -/
theorem imitates_twin (concurrency : Concurrency) :
    (stream concurrency).Imitates Twin concurrency concurrency (stream concurrency) where
  fill := by
    intro first second twin lent
    have fills (state : HttpBody × Net) :
        (stream concurrency).fill concurrency lent state = HttpBody.readInto lent state := by
      cases concurrency <;> rfl
    rw [fills, fills]
    exact twin.readInto lent
  offer := by
    intro first second twin lent
    cases concurrency <;> exact ⟨rfl, twin⟩

/-- A body that is as new cannot be told from a new one. -/
theorem AsNew.twin {start : HttpBody} {script : List (String × List Answer)}
    {state : HttpBody × Net} (new : AsNew start script state) (unsent : start.response = none) :
    Twin state (start, Net.ofScript script) where
  body := by
    rw [new.body]
  script := new.script.symm
  response := by
    rw [new.response unsent, show (start, Net.ofScript script).1.response = none from unsent]
    exact .none

/-! ## One failed request after another -/

/-- The next request of a body that is as new gets the next answer of the
script. -/
theorem AsNew.upcoming {start : HttpBody} {script : List (String × List Answer)} {count : Nat}
    {state : HttpBody × Net} (new : AsNew start (Net.scriptAfter start.url count script) state) :
    HttpBody.upcoming state = Net.answerAt start.url count script := by
  have url : state.1.url = start.url := (congrArg HttpBody.url new.body).trans rfl
  rw [HttpBody.upcoming, url, new.script, Net.answerAt]

/-- A read that meets the next failing answer fails with it, and leaves the body
as new and the buffer as it was. -/
theorem AsNew.exists_readInto {start : HttpBody} {script : List (String × List Answer)}
    {count : Nat} {state : HttpBody × Net}
    (new : AsNew start (Net.scriptAfter start.url count script) state)
    (unsent : start.response = none) {fault : Fault}
    (refused : (Net.answerAt start.url count script).refusal = some fault) (lent : Lent) :
    ∃ events after, HttpBody.readInto lent state = (⟨lent.bytes, .raised fault, events⟩, after) ∧
      AsNew start (Net.scriptAfter start.url (count + 1) script) after ∧
      after.2.gets = state.2.gets.push start.url := by
  have url : state.1.url = start.url := (congrArg HttpBody.url new.body).trans rfl
  rcases exists_readInto_of_refusal (new.response unsent) (new.upcoming ▸ refused) lent with
    ⟨after, reads, asks⟩
  exact ⟨_, after, reads, new.asked asks, url ▸ asks.gets⟩

/-- Reads that meet failing answers fail one after the other, each with the
answer that it takes, and the body is as new after them. -/
theorem AsNew.observations {start : HttpBody} {script : List (String × List Answer)}
    {count : Nat} {state : HttpBody × Net}
    (new : AsNew start (Net.scriptAfter start.url count script) state)
    (unsent : start.response = none) (concurrency : Concurrency) (lents : List Lent)
    (refused : ∀ number < count + lents.length,
      (Net.answerAt start.url number script).refusal ≠ none) :
    AsNew start (Net.scriptAfter start.url (count + lents.length) script)
        (afterAll concurrency (lents.map .readInto) state) ∧
      ∀ number lent, lents[number]? = some lent ->
        ∃ fault, (Net.answerAt start.url (count + number) script).refusal = some fault ∧
          (HttpBody.observations concurrency (lents.map .readInto) state)[number]? =
            some ⟨.read lent.bytes (.raised fault), start.bytesRead, start.contentLength,
              state.2.gets ++ Array.replicate (number + 1) start.url⟩ := by
  induction lents generalizing count state with
  | nil => exact ⟨new, fun number lent inside => absurd inside (by simp)⟩
  | cons lent lents inductionHypothesis =>
    have next : ∀ number, count + 1 + number = count + (number + 1) := by
      intro number
      omega
    rw [List.length_cons, ← next] at refused
    rcases Option.ne_none_iff_exists'.mp (refused count (by omega)) with ⟨fault, failing⟩
    rcases new.exists_readInto unsent failing lent with ⟨events, after, reads, renewed, gets⟩
    have performs : perform concurrency (.readInto lent) state =
        (.read lent.bytes (.raised fault), after) := by
      rw [perform_readInto, reads]
    rcases inductionHypothesis renewed refused with ⟨left, seen⟩
    rw [List.map_cons, afterAll_cons, performs, List.length_cons, ← next]
    refine ⟨left, ?_⟩
    have bytesRead : after.1.bytesRead = start.bytesRead :=
      (congrArg HttpBody.bytesRead renewed.body).trans rfl
    have contentLength : after.1.contentLength = start.contentLength :=
      (congrArg HttpBody.contentLength renewed.body).trans rfl
    intro number other inside
    simp only [HttpBody.observations, performs]
    cases number with
    | zero =>
      cases inside
      refine ⟨fault, failing, ?_⟩
      rw [List.getElem?_cons_zero, observe, bytesRead, contentLength, gets, Array.push_eq_append]
      rfl
    | succ number =>
      rcases seen number other inside with ⟨fault, failing, same⟩
      refine ⟨fault, next number ▸ failing, ?_⟩
      rw [List.getElem?_cons_succ, same, gets, Array.push_eq_append, Array.append_assoc,
        show #[start.url] = Array.replicate 1 start.url from rfl,
        Array.replicate_append_replicate, Nat.add_comm 1 (number + 1)]

end HttpBody

/-! ## Machines that are driven again -/

section

variable {Machine Value State : Type} [Resumable Machine Value]

/-- Resumed without an answer, the machine lends out so many zeros, and waits
like the second one. -/
def Lends (machine waiting : Machine) (size : Nat) (memory : Memory) : Prop :=
  ∃ cell after events,
    Resumable.resume machine none memory =
      ⟨.needs ⟨.read, .request (.shared cell)⟩, waiting, after, events⟩ ∧
    after.Holds cell ∧ after.contents cell = Bytes.zeros size

/-- A drive ends with the fault of its first read. -/
theorem Lends.drive_raised {machine waiting : Machine} {size : Nat} {context : Context State}
    (lends : Lends machine waiting size context.memory) {stream : Stream State}
    {concurrency : Concurrency} {bytes : Bytes} {fault : Fault} {events : List Event}
    {after : State}
    (fails : stream.fill concurrency ⟨Bytes.zeros size, true⟩ context.state =
      (⟨bytes, .raised fault, events⟩, after)) {limit : Nat} (positive : 0 < limit) :
    let run := drive concurrency stream limit machine context
    run.ending = .raised fault ∧ run.machine = waiting ∧ run.context.state = after := by
  rcases lends with ⟨cell, memory, noted, asked, held, zeros⟩
  rcases Nat.exists_eq_succ_of_ne_zero (Nat.ne_of_gt positive) with ⟨limit, rfl⟩
  have fails : stream.fill concurrency ⟨memory.contents cell, true⟩ context.state =
      (⟨bytes, .raised fault, events⟩, after) := zeros ▸ fails
  have raises : ∃ reached : Context State, reached.state = after ∧
      handle concurrency stream ⟨.read, .request (.shared cell)⟩ (context.after memory noted) =
        (.error fault, reached) := by
    simp only [handle, Context.readInto, Context.note, Context.after, fails]
    exact ⟨_, rfl, rfl⟩
  rcases raises with ⟨reached, rfl, performed⟩
  rw [drive, driveOn, driveFrom_raised limit asked performed]
  exact ⟨rfl, rfl, rfl⟩

variable [Confining Machine] [Uniform Machine]

/-- A machine that waits for the first answer of a drive.  Driven again, it
lends out as many zeros as before, and waits for their answer. -/
structure Waiting (machine : Machine) (size : Nat) : Prop where
  lends : ∀ memory, Lends machine machine size memory
  nameless : ∀ first second, Uniform.Matches first second machine machine
  lent : Confining.cells machine = []
  reads : Confining.direction machine = .read

/-- A machine and the one as which it waits, each with a memory of its own, are
driven to the same end. -/
theorem Waiting.matches_drive {machine waiting : Machine} {size : Nat}
    (waits : Waiting waiting size) {memory : Memory} (lends : Lends machine waiting size memory)
    (memory' : Memory) (journal : Array Event)
    (concurrency : Concurrency) (stream : Stream State) (limit : Nat) (state : State) :
    let run := drive concurrency stream limit machine ⟨memory, journal, state⟩
    let run' := drive concurrency stream limit waiting ⟨memory', journal, state⟩
    run.ending.Matches (Uniform.Values Machine run.context.memory run'.context.memory)
      run'.ending := by
  rcases lends with ⟨cell, after, events, asked, held, zeros⟩
  rcases waits.lends memory' with ⟨cell', after', events', asked', held', zeros'⟩
  refine matches_driveFrom concurrency stream limit [] [] ?_ ?_ rfl
  · rw [asked, asked']
    exact ⟨waits.nameless after after',
      .needs (.request .read (.shared ⟨held, held', zeros.trans zeros'.symm⟩))⟩
  · have direction := Confining.direction_resume machine none memory
    rw [asked] at direction ⊢
    rintro exchange ⟨⟩
    exact ⟨waits.reads.symm.trans direction, waits.lent⟩

end

namespace ReadExact

/-- What a machine lends that misses something, and as what it waits. -/
theorem lends {machine : ReadExact} {memory : Memory} (armed : machine.read.Armed memory)
    (incomplete : ¬ machine.Complete) :
    let size := min machine.remaining machine.read.capacity
    Lends machine { machine with read := ⟨size, none⟩ } size memory := by
  rcases exists_lent armed incomplete with ⟨cell, after, asked, held, zeros⟩
  exact ⟨cell, after, _, asked, held, zeros⟩

theorem waiting {machine : ReadExact} (fitted : machine.Fitted) (lent : machine.read.slot = none) :
    Waiting machine machine.read.capacity where
  lends := by
    intro memory
    have asks := ReadExact.lends (Read.armed_of_lent lent memory) fitted.incomplete
    rcases machine with ⟨target, ⟨capacity, slot⟩, collected⟩
    cases lent
    rwa [Nat.min_eq_right fitted.fits] at asks
  nameless := fun first second => ⟨rfl, ⟨rfl, lent ▸ .none⟩, rfl⟩
  lent := Option.toList_eq_nil_iff.mpr lent
  reads := rfl

theorem Ready.exists_waiting {machine : ReadExact} {memory : Memory}
    (ready : machine.Ready memory) (incomplete : ¬ machine.Complete) :
    ∃ waiting size, Lends machine waiting size memory ∧ Waiting waiting size :=
  ⟨_, _, lends ready.armed incomplete, waiting ⟨incomplete, Nat.min_le_left _ _⟩ rfl⟩

end ReadExact

namespace ReadToEnd

theorem lends {machine : ReadToEnd} {memory : Memory} (armed : machine.read.Armed memory) :
    Lends machine { machine with read := ⟨machine.read.capacity, none⟩ } machine.read.capacity
      memory := by
  rcases exists_lent armed with ⟨cell, after, asked, held, zeros⟩
  exact ⟨cell, after, _, asked, held, zeros⟩

theorem waiting {machine : ReadToEnd} (lent : machine.read.slot = none) :
    Waiting machine machine.read.capacity where
  lends := by
    intro memory
    have asks := ReadToEnd.lends (Read.armed_of_lent lent memory)
    rcases machine with ⟨⟨capacity, slot⟩, collected⟩
    cases lent
    exact asks
  nameless := fun first second => ⟨⟨rfl, lent ▸ .none⟩, rfl⟩
  lent := Option.toList_eq_nil_iff.mpr lent
  reads := rfl

theorem Ready.exists_waiting {machine : ReadToEnd} {memory : Memory}
    (ready : machine.Ready memory) :
    ∃ waiting size, Lends machine waiting size memory ∧ Waiting waiting size :=
  ⟨_, _, lends ready.armed, waiting rfl⟩

end ReadToEnd

namespace HttpBody

section

variable {Machine Value : Type} [Resumable Machine Value] [Confining Machine] [Uniform Machine]

/-- Driven on a stream whose requests fail, the machine fails each time with the
answer that the drive meets, and the stream is as new after it. -/
theorem AsNew.nthDrive_raised {start : HttpBody} {script : List (String × List Answer)}
    {state : HttpBody × Net} (new : AsNew start script state) (unsent : start.response = none)
    (concurrency : Concurrency) {machine waiting : Machine} {size count : Nat} {memory : Memory}
    (lends : Lends machine waiting size memory) (waits : Waiting waiting size)
    (refused : ∀ number < count, (Net.answerAt start.url number script).refusal ≠ none)
    {limit : Nat -> Nat} (positive : ∀ number < count, 0 < limit number) (journal : Array Event)
    (number : Nat) (inside : number < count) :
    let run := nthDrive concurrency (stream concurrency) limit machine ⟨memory, journal, state⟩
      number
    (∃ fault, (Net.answerAt start.url number script).refusal = some fault ∧
        run.ending = .raised fault) ∧
      run.machine = waiting ∧
      AsNew start (Net.scriptAfter start.url (number + 1) script) run.context.state := by
  -- One drive, by whatever machine that lends so many zeros.
  have fails {number : Nat} (inside : number < count) {machine : Machine}
      {context : Context (HttpBody × Net)} (lends : Lends machine waiting size context.memory)
      (new : AsNew start (Net.scriptAfter start.url number script) context.state) :
      let run := drive concurrency (stream concurrency) (limit number) machine context
      (∃ fault, (Net.answerAt start.url number script).refusal = some fault ∧
          run.ending = .raised fault) ∧
        run.machine = waiting ∧
        AsNew start (Net.scriptAfter start.url (number + 1) script) run.context.state := by
    rcases Option.ne_none_iff_exists'.mp (refused number inside) with ⟨fault, failing⟩
    rcases new.exists_readInto unsent failing ⟨Bytes.zeros size, true⟩ with
      ⟨events, after, reads, renewed, -⟩
    rw [← fill_eq_readInto concurrency] at reads
    rcases lends.drive_raised reads (positive number inside) with ⟨ending, waits, same⟩
    exact ⟨⟨fault, failing, ending⟩, waits, same ▸ renewed⟩
  induction number with
  | zero => exact fails inside lends new
  | succ number inductionHypothesis =>
    rcases inductionHypothesis (Nat.lt_of_succ_lt inside) with ⟨-, same, renewed⟩
    exact fails inside (same ▸ waits.lends _) renewed

/-- The first drive after them ends as a first drive does on a new stream with
the rest of the script, where results have no names in them. -/
theorem AsNew.ending_nthDrive {start : HttpBody} {script : List (String × List Answer)}
    {state : HttpBody × Net} (new : AsNew start script state) (unsent : start.response = none)
    (nameless : ∀ {first second : Memory} {value other : Value},
      Uniform.Values Machine first second value other -> value = other)
    (concurrency : Concurrency) {machine waiting : Machine} {size count : Nat} {memory : Memory}
    (lends : Lends machine waiting size memory) (waits : Waiting waiting size)
    (refused : ∀ number < count, (Net.answerAt start.url number script).refusal ≠ none)
    {limit : Nat -> Nat} (positive : ∀ number < count, 0 < limit number) (journal : Array Event) :
    let rest := Net.scriptAfter start.url count script
    (nthDrive concurrency (stream concurrency) limit machine ⟨memory, journal, state⟩
        count).ending =
      (drive concurrency (stream concurrency) (limit count) machine
        ⟨memory, journal, (start, Net.ofScript rest)⟩).ending := by
  intro rest
  -- The stream may be taken for the new one, whatever the machine and the memory.
  have replaced {machine : Machine} {context : Context (HttpBody × Net)}
      (new : AsNew start rest context.state) :
      (drive concurrency (stream concurrency) (limit count) machine context).ending =
        (drive concurrency (stream concurrency) (limit count) machine
          ⟨context.memory, journal, (start, Net.ofScript rest)⟩).ending := by
    have beside : context.Beside Twin ⟨context.memory, journal, (start, Net.ofScript rest)⟩ :=
      ⟨rfl, new.twin unsent⟩
    exact ((imitates_twin concurrency).drive (limit count) machine beside).ending.symm
  cases count with
  | zero => exact replaced new
  | succ count =>
    have failed := new.nthDrive_raised unsent concurrency lends waits refused positive journal
      count (Nat.lt_succ_self count)
    rw [nthDrive]
    generalize nthDrive concurrency (stream concurrency) limit machine ⟨memory, journal, state⟩
      count = before at failed ⊢
    rcases failed with ⟨-, same, renewed⟩
    refine (replaced renewed).trans ?_
    rw [same]
    exact ((waits.matches_drive lends before.context.memory journal concurrency
      (stream concurrency) (limit (count + 1)) (start, Net.ofScript rest)).eq nameless).symm

end

/-! ## Failed requests -/

/-- Driven on a new stream until the given number of requests have failed, the
machine fails each time as the request does.  Driven once more, it ends as it
would have in a single drive on a new stream with the rest of the script. -/
def Outlasts {Machine : Type} [Resumable Machine Bytes] (concurrency : Concurrency) (url : String)
    (chunkSize : Int) (script : List (String × List Answer)) (count : Nat) (machine : Machine)
    (memory : Memory) : Prop :=
  ∀ (limit : Nat -> Nat) (journal : Array Event), (∀ number < count, 0 < limit number) ->
    let body := fresh concurrency url chunkSize
    let run := nthDrive concurrency (stream concurrency) limit machine
      ⟨memory, journal, (body, Net.ofScript script)⟩
    let whole := drive concurrency (stream concurrency) (limit count) machine
      ⟨memory, journal, (body, Net.ofScript (Net.scriptAfter url count script))⟩
    (∀ number < count, ∃ fault, (Net.answerAt url number script).refusal = some fault ∧
      (run number).ending = .raised fault) ∧
    (run count).ending = whole.ending

theorem outlasts {Machine : Type} [Resumable Machine Bytes] [Confining Machine] [Uniform Machine]
    (nameless : ∀ {first second : Memory} {value other : Bytes},
      Uniform.Values Machine first second value other -> value = other)
    (concurrency : Concurrency) {url : String} (chunkSize : Int)
    {script : List (String × List Answer)} {count : Nat}
    (refused : ∀ number < count, (Net.answerAt url number script).refusal ≠ none)
    {machine waiting : Machine} {size : Nat} {memory : Memory}
    (lends : Lends machine waiting size memory) (waits : Waiting waiting size) :
    Outlasts concurrency url chunkSize script count machine memory := by
  intro limit journal positive body run whole
  have new : AsNew body script (body, Net.ofScript script) := ⟨rfl, rfl⟩
  refine ⟨?_, ?_⟩
  · intro number inside
    exact (new.nthDrive_raised rfl concurrency lends waits refused positive journal number
      inside).1
  · exact new.ending_nthDrive rfl nameless concurrency lends waits refused positive journal

/-- Any number of requests that fail, in any of the four ways, leave a stream
that cannot be told from a new one with the rest of the script.  Each read fails
with its own answer, and what is seen of it is a request more on the account of
the network.  After them whatever is done with the stream gives what it gives
with a new one, and so does every drive of a machine.

It makes no difference whether a machine has sent the failing requests.  A
machine that reads exactly so many bytes, or one that reads to the end, of any
capacity and with any seeds, is driven again after each failure and ends as if
none had happened. -/
theorem failed_requests_leave_stream_as_new (concurrency : Concurrency) (url : String)
    (chunkSize : Int) (script : List (String × List Answer)) (count : Nat)
    (refused : ∀ number < count, (Net.answerAt url number script).refusal ≠ none) :
    let body := fresh concurrency url chunkSize
    let rest := Net.scriptAfter url count script
    let new := (body, Net.ofScript rest)
    (∀ lents : List Lent, lents.length = count ->
      let start := (body, Net.ofScript script)
      let reads := lents.map Operation.readInto
      let failed := afterAll concurrency reads start
      let seen := fun observation : Observation =>
        (observation.given, observation.bytesRead, observation.contentLength)
      (∀ number lent, lents[number]? = some lent ->
        ∃ fault, (Net.answerAt url number script).refusal = some fault ∧
          (observations concurrency reads start)[number]? =
            some ⟨.read lent.bytes (.raised fault), 0, none, Array.replicate (number + 1) url⟩) ∧
      failed.2.script = rest ∧
      (∀ operations, (observations concurrency operations failed).map seen =
        (observations concurrency operations new).map seen) ∧
      ∀ {Machine Value : Type} [Resumable Machine Value] (machine : Machine) (memory : Memory)
        (journal : Array Event) (limit : Nat),
        let run := drive concurrency (stream concurrency) limit machine ⟨memory, journal, failed⟩
        let whole := drive concurrency (stream concurrency) limit machine ⟨memory, journal, new⟩
        run.ending = whole.ending ∧ run.machine = whole.machine ∧
          run.context.memory = whole.context.memory ∧ run.turns = whole.turns) ∧
    (∀ (target capacity : Int) (seeds : List Bytes) (memory : Memory) (machine : ReadExact),
      (ReadExact.make target capacity memory).result = .ok machine ->
      (seeds.flatten.length : Int) < target ->
      Outlasts concurrency url chunkSize script count (seeds.foldl ReadExact.extend machine)
        (ReadExact.make target capacity memory).memory) ∧
    ∀ (capacity : Int) (seeds : List Bytes) (memory : Memory) (machine : ReadToEnd),
      (ReadToEnd.make capacity memory).result = .ok machine ->
      Outlasts concurrency url chunkSize script count (seeds.foldl ReadToEnd.extend machine)
        (ReadToEnd.make capacity memory).memory := by
  intro body rest new
  refine ⟨?_, ?_, ?_⟩
  · intro lents length start reads failed seen
    subst length
    have begun : AsNew body (Net.scriptAfter url 0 script) start := ⟨rfl, rfl⟩
    have refused' : ∀ number < 0 + lents.length,
        (Net.answerAt url number script).refusal ≠ none := by
      rwa [Nat.zero_add]
    rcases begun.observations rfl concurrency lents refused' with ⟨renewed, noted⟩
    rw [Nat.zero_add] at renewed
    have twin : Twin failed new := renewed.twin rfl
    refine ⟨?_, renewed.script, fun operations => (twin.observations concurrency operations).symm,
      ?_⟩
    · intro number lent inside
      rcases noted number lent inside with ⟨fault, failing, told⟩
      rw [Nat.zero_add] at failing
      refine ⟨fault, failing, told.trans ?_⟩
      rw [show start.2.gets = #[] from rfl, Array.empty_append]
      rfl
    · intro Machine Value _ machine memory journal limit run whole
      have beside : run.Beside Twin whole :=
        (imitates_twin concurrency).drive limit machine ⟨rfl, twin⟩
      exact ⟨beside.ending.symm, beside.machine.symm, beside.context.memory.symm,
        beside.turns.symm⟩
  · intro target capacity seeds memory machine built short
    have ready := (ReadExact.ready_make built).seeded seeds
    have incomplete : ¬ (seeds.foldl ReadExact.extend machine).Complete := by
      have blank := ReadExact.blank_make built
      have missing := ReadExact.remaining_seeded blank.2 seeds
      rw [blank.1] at missing
      unfold ReadExact.remaining at missing
      unfold ReadExact.Complete
      omega
    rcases ready.exists_waiting incomplete with ⟨waiting, size, lends, waits⟩
    exact outlasts (fun same => same) concurrency chunkSize refused lends waits
  · intro capacity seeds memory machine built
    rcases ((ReadToEnd.ready_make built).seeded seeds).exists_waiting with
      ⟨waiting, size, lends, waits⟩
    exact outlasts (fun same => same) concurrency chunkSize refused lends waits

/-- Four requests fail, each in another way, and the fifth brings three bytes. -/
theorem failed_requests_leave_stream_as_new_after_four :
    let whole : Answer := .response 200 none [.bytes [1, 2, 3]]
    let script := [("u", [.notConnected "reset", .systemFailure "reset", .response 404 none [],
      .response 200 (some "x") [], whole])]
    let start := (fresh .asynchronous "u" 8, Net.ofScript script)
    let lents := List.replicate 4 (⟨[7, 7], true⟩ : Lent)
    let built := ReadExact.create 3 2 .empty
    let run := nthDrive .asynchronous (stream .asynchronous) (fun _ => 4) built.1
      ⟨built.2, #[], start⟩
    (∀ number < 4, (Net.answerAt "u" number script).refusal ≠ none) ∧
      (afterAll .asynchronous (lents.map .readInto) start).2.script = [("u", [whole])] ∧
      (∀ number < 4, ∃ fault, (run number).ending = .raised fault) ∧
      (run 4).ending = .finished [1, 2, 3] := by
  intro whole script start lents built run
  have refused : ∀ number < 4, (Net.answerAt "u" number script).refusal ≠ none := by
    decide
  have made : (ReadExact.make 3 2 .empty).result = .ok built.1 ∧
      (ReadExact.make 3 2 .empty).memory = built.2 := ⟨rfl, rfl⟩
  have left : Net.scriptAfter "u" 4 script = [("u", [whole])] := rfl
  have reads : (drive .asynchronous (stream .asynchronous) 4 (ReadExact.create 3 2 .empty).1
      ⟨(ReadExact.create 3 2 .empty).2, #[], (fresh .asynchronous "u" 8,
        Net.ofScript [("u", [.response 200 none [.bytes [1, 2, 3]]])])⟩).ending =
      .finished [1, 2, 3] := by rfl
  change (drive .asynchronous (stream .asynchronous) 4 built.1 ⟨built.2, #[],
    (fresh .asynchronous "u" 8, Net.ofScript [("u", [whole])])⟩).ending = _ at reads
  -- What the script says must not be computed with from here on.
  clear_value whole script built
  have renews := failed_requests_leave_stream_as_new .asynchronous "u" 8 script 4 refused
  have outlasts := renews.2.1 3 2 [] .empty built.1 made.1 (by decide)
  rw [made.2] at outlasts
  rcases outlasts (fun _ => 4) #[] (fun _ _ => by decide) with ⟨failed, ended⟩
  rw [left] at renews ended
  refine ⟨refused, (renews.1 lents rfl).2.1, ?_, ended.trans reads⟩
  intro number inside
  rcases failed number inside with ⟨fault, -, raised⟩
  exact ⟨fault, raised⟩

end HttpBody

end ResumableStreams
