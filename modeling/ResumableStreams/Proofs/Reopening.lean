import ResumableStreams.Proofs.Release

namespace ResumableStreams

/-!
# Bodies that are read again

Closing the stream of a body lets go of the response, and the next read sends a
new request.  Between two closings one response is taken up at most, and no read
gives anything before it is.

But closing does not drop what waits.  If only a part of a chunk has been handed
out, the rest of it is the first that is read of the next body.  So what is
handed out between two closings, and what waits at the second, are together what
waited at the first and a beginning of the body taken up between them.  Where
nothing waits at the first closing, only that body is read.
-/

/-- The body that an answer brings. -/
def Answer.body : Answer -> List Chunk
  | .response _ _ chunks => chunks
  | _ => []

namespace HttpBody

/-- The bytes that a call has handed out. -/
def Given.handedOut : Given -> Bytes
  | .read contents (.moved count) => contents.take count.toNat
  | _ => []

/-- The bytes that one call after the other hands out. -/
def delivered (concurrency : Concurrency) : List Operation -> HttpBody × Net -> Bytes
  | [], _ => []
  | operation :: operations, state =>
    let (given, state) := perform concurrency operation state
    given.handedOut ++ delivered concurrency operations state

/-- The body of the response that a call takes up, if it takes one up. -/
def obtained (operation : Operation) (state : HttpBody × Net) : List (List Chunk) :=
  if fate operation state = .granted then [(upcoming state).body] else []

/-- The bodies of the responses that are taken up by one call after the other. -/
def bodies (concurrency : Concurrency) :
    List Operation -> HttpBody × Net -> List (List Chunk)
  | [], _ => []
  | operation :: operations, state =>
    obtained operation state ++ bodies concurrency operations (perform concurrency operation state).2

/-! ## Taking up a response -/

/-- A response with this content is at hand under this number, and so much of
the content has been taken from it. -/
structure Draws (state : HttpBody × Net) (index : Nat) (content drawn : Bytes) : Prop where
  response : state.1.response = some index
  body : ∃ response, state.2.responses[index]? = some response ∧
    drawn ++ Chunk.deliverable response.chunks = content

/-- What sending the request comes to, where no response is at hand.  What waits
goes on waiting. -/
inductive TakesUp (before : HttpBody × Net) : Option Fault × (HttpBody × Net) -> Prop where
  | granted {after : HttpBody × Net} {index : Nat} : (upcoming before).fate = .granted ->
      after.1.pending = before.1.pending ->
      Draws after index (Chunk.deliverable (upcoming before).body) [] ->
      TakesUp before (none, after)
  | refused {fault : Fault} {after : HttpBody × Net} : (upcoming before).fate ≠ .granted ->
      after.1.pending = before.1.pending -> after.1.response = none ->
      TakesUp before (some fault, after)

theorem takesUp_send {state : HttpBody × Net} (nothing : state.1.response = none) :
    TakesUp state (send state) := by
  rcases asked_eq state with ⟨client, clients, asks⟩
  have waiting : (asked state).1.pending = state.1.pending := by rw [asks]
  have unanswered : (asked state).1.response = none := by rw [asks]; exact nothing
  have givenUp {between : HttpBody × Net} (waiting : between.1.pending = state.1.pending)
      (unanswered : between.1.response = none) :
      (giveUp between).1.pending = state.1.pending ∧ (giveUp between).1.response = none := by
    rcases giveUp_eq unanswered with ⟨client, clients, gives⟩
    rw [gives]
    exact ⟨waiting, unanswered⟩
  rw [send_eq]
  cases answered : upcoming state with
  | notConnected reason =>
    rcases givenUp waiting unanswered with ⟨waiting, unanswered⟩
    exact .refused (by rw [answered]; rintro ⟨⟩) waiting unanswered
  | systemFailure text => exact .refused (by rw [answered]; rintro ⟨⟩) waiting unanswered
  | response status contentLength chunks =>
    by_cases refused : status ≥ 400
    · simp only [if_pos refused]
      rcases @givenUp (turnedDown chunks state) waiting unanswered with ⟨waiting, unanswered⟩
      exact .refused (by rw [answered, Answer.fate, if_pos refused]; rintro ⟨⟩) waiting unanswered
    · simp only [if_neg refused]
      rcases announcement contentLength with ⟨understood, misunderstood⟩
      cases announced : announcementFault contentLength with
      | some fault =>
        rw [misunderstood fault announced]
        refine .refused ?_ waiting unanswered
        rw [answered, Answer.fate, if_neg refused, announced]
        rintro ⟨⟩
      | none =>
        rcases exists_announced (understood announced) (asked state).1 with ⟨length, told⟩
        rw [told]
        refine .granted ?_ waiting ⟨rfl, ⟨chunks, false, 0⟩, ?_, ?_⟩
        · rw [answered, Answer.fate, if_neg refused, announced]
        · simp only [handed, asks]
          exact Array.getElem?_push_size
        · rw [answered]
          rfl

/-! ## Reading of a response -/

section

variable {state : HttpBody × Net} {index : Nat} {content drawn : Bytes}

/-- What is pulled waits. -/
theorem Draws.ensurePending (draws : Draws state index content drawn) :
    ∃ data, (ensurePending state).2.1.pending = state.1.pending ++ data ∧
      Draws (ensurePending state).2 index content (drawn ++ data) := by
  rcases state with ⟨body, net⟩
  have known : body.response = some index := draws.response
  cases waiting : body.pending with
  | cons byte bytes =>
    have same : HttpBody.ensurePending (body, net) = (none, (body, net)) := by
      simp only [HttpBody.ensurePending, waiting]
    rw [same]
    refine ⟨[], ?_, ?_⟩
    · rw [List.append_nil]
      exact waiting
    · rw [List.append_nil]
      exact draws
  | nil =>
    rcases draws.body with ⟨response, found, pieces⟩
    rcases Net.exists_pull found body.chunkSize with ⟨after, pulls, -, left⟩
    simp only [HttpBody.ensurePending, waiting, known, pulls]
    cases pulled : Pull.next response.chunks with
    | mk pull rest =>
      rw [pulled] at left
      cases pull with
      | bytes data =>
        refine ⟨data, rfl, rfl, _, left, ?_⟩
        rw [← pieces, (Pull.deliverable_of_next_bytes pulled).2, List.append_assoc]
      | _ =>
        have without : ∀ data, (Pull.next response.chunks).1 ≠ .bytes data := by
          rw [pulled]
          rintro data ⟨⟩
        rcases Pull.deliverable_of_next_not_bytes without with ⟨nothing, exhausted⟩
        rw [pulled] at exhausted
        refine ⟨[], waiting, known, _, left, ?_⟩
        rw [← pieces, nothing, exhausted]
        exact List.append_nil _

/-- A read hands out what waits and what it has pulled, and the rest of it
waits. -/
theorem Draws.readInto {start : HttpBody × Net} {events : List Event}
    (ensured : ensureResponse start = (none, events, state))
    (draws : Draws state index content drawn) (lent : Lent) :
    let read := readInto lent start
    ∃ data, read.1.handedOut ++ read.2.1.pending = state.1.pending ++ data ∧
      Draws read.2 index content (drawn ++ data) := by
  rcases draws.ensurePending with ⟨data, pulled, drawsAfter⟩
  simp only [readInto_eq, ensured]
  generalize HttpBody.ensurePending state = pending at pulled drawsAfter ⊢
  rcases pending with ⟨fault, body, net⟩
  cases fault with
  | some fault => exact ⟨data, pulled, drawsAfter⟩
  | none =>
    rcases lent with ⟨contents, writable⟩
    cases writable with
    | false => exact ⟨data, pulled, drawsAfter⟩
    | true =>
      refine ⟨data, ?_, drawsAfter.response, drawsAfter.body⟩
      have taken : Filling.handedOut ((⟨contents, true⟩ : Lent).put
          (body.pending.take contents.length)) = body.pending.take contents.length :=
        Bytes.take_overStart _ contents
      exact (congrArg (· ++ body.pending.drop contents.length) taken).trans
        ((List.take_append_drop _ _).trans pulled)

end

/-! ## Between two closings -/

/-- What has happened since `waiting` was left over by a closing: which bodies
have been taken up, and which bytes have been handed out. -/
inductive SinceClosing (waiting : Bytes) :
    List (List Chunk) -> (handed : Bytes) -> HttpBody × Net -> Prop where
  | unsent {state : HttpBody × Net} : state.1.response = none -> state.1.pending = waiting ->
      SinceClosing waiting [] [] state
  | drawing {state : HttpBody × Net} {chunks : List Chunk} {index : Nat} {drawn handed : Bytes} :
      Draws state index (Chunk.deliverable chunks) drawn ->
      waiting ++ drawn = handed ++ state.1.pending ->
      SinceClosing waiting [chunks] handed state

section

variable {waiting handed : Bytes} {taken : List (List Chunk)} {state : HttpBody × Net}

/-- A call hands out what the read hands out that it makes. -/
theorem handedOut_perform (concurrency : Concurrency) (lent : Lent) (state : HttpBody × Net) :
    (perform concurrency (.readInto lent) state).1.handedOut =
      (readInto lent state).1.handedOut := by
  rw [perform_readInto]
  unfold Given.handedOut Filling.handedOut
  cases (readInto lent state).1.reply <;> rfl

/-- A read of the response that is at hand. -/
theorem SinceClosing.readOn {chunks : List Chunk} {index : Nat} {drawn : Bytes}
    (draws : Draws state index (Chunk.deliverable chunks) drawn)
    (balanced : waiting ++ drawn = handed ++ state.1.pending) {start : HttpBody × Net}
    {events : List Event} (ensured : ensureResponse start = (none, events, state)) (lent : Lent) :
    let read := readInto lent start
    SinceClosing waiting [chunks] (handed ++ read.1.handedOut) read.2 := by
  rcases draws.readInto ensured lent with ⟨data, pieces, drawsAfter⟩
  refine .drawing drawsAfter ?_
  rw [← List.append_assoc, balanced, List.append_assoc, List.append_assoc, pieces]

/-- A read, which sends the request if no response is at hand. -/
theorem SinceClosing.readInto (since : SinceClosing waiting taken handed state) (lent : Lent) :
    let read := readInto lent state
    SinceClosing waiting (taken ++ obtained (.readInto lent) state) (handed ++ read.1.handedOut)
      read.2 := by
  cases since with
  | drawing draws balanced =>
    have ensured : ensureResponse state = (none, [], state) := by
      simp only [ensureResponse, draws.response]
    have idle : fate (.readInto lent) state ≠ .granted := by
      simp only [fate, draws.response]
      rintro ⟨⟩
    rw [obtained, if_neg idle, List.append_nil]
    exact readOn draws balanced ensured lent
  | unsent nothing left =>
    have asks : fate (.readInto lent) state = (upcoming state).fate := by
      simp only [fate, nothing]
    have takesUp := takesUp_send nothing
    cases sends : send state with
    | mk fault sent =>
      have ensured : ensureResponse state =
          (fault, [.sendingGet state.1.concurrency state.1.url], sent) := by
        simp only [ensureResponse, nothing, sends]
      rw [sends] at takesUp
      cases takesUp with
      | granted granted same draws =>
        rw [obtained, if_pos (asks.trans granted), List.nil_append]
        refine readOn draws ?_ ensured lent
        rw [List.append_nil, List.nil_append, same, left]
      | refused refused same unanswered =>
        rw [obtained, if_neg fun granted => refused (asks.symm.trans granted)]
        simp only [readInto_eq, ensured]
        exact .unsent unanswered (same.trans left)

/-- A call that does not close the stream. -/
theorem SinceClosing.perform (since : SinceClosing waiting taken handed state)
    (concurrency : Concurrency) {operation : Operation} (unclosed : operation ≠ .close) :
    let called := perform concurrency operation state
    SinceClosing waiting (taken ++ obtained operation state) (handed ++ called.1.handedOut)
      called.2 := by
  cases operation with
  | close => exact absurd rfl unclosed
  | write lent =>
    have idle : fate (.write lent) state ≠ .granted := nofun
    rw [obtained, if_neg idle, perform_write]
    simpa only [Given.handedOut, List.append_nil] using since
  | readInto lent =>
    have after : (HttpBody.perform concurrency (.readInto lent) state).2 =
        (HttpBody.readInto lent state).2 := by
      rw [perform_readInto]
    simp only [handedOut_perform, after]
    exact since.readInto lent

/-- Any number of calls that do not close the stream. -/
theorem SinceClosing.afterAll (since : SinceClosing waiting taken handed state)
    (concurrency : Concurrency) {operations : List Operation}
    (unclosed : ∀ operation ∈ operations, operation ≠ .close) :
    SinceClosing waiting (taken ++ bodies concurrency operations state)
      (handed ++ delivered concurrency operations state)
      (afterAll concurrency operations state) := by
  induction operations generalizing taken handed state with
  | nil =>
    simp only [bodies, delivered, List.append_nil]
    exact since
  | cons operation operations inductionHypothesis =>
    have next := since.perform concurrency (unclosed operation List.mem_cons_self)
    have last := inductionHypothesis next fun _ member => unclosed _ (List.mem_cons_of_mem _ member)
    simp only [bodies, delivered, afterAll_cons]
    simpa only [List.append_assoc] using last

end

/-- Whatever has been done with the stream of a body before it was closed, and
whatever is done with it then: until it is closed again, it takes up one
response at most, and hands out nothing before.  What it hands out, and what
waits after that, are what waited when it was closed, and after it the bytes
drawn from that response, in order and without a gap.

So the bytes handed out are a beginning of the body of that response, if nothing
waited when the stream was closed. -/
theorem delivers_waiting_first (concurrency : Concurrency) (url : String) (chunkSize : Int)
    (script : List (String × List Answer)) (earlier operations : List Operation)
    (closed : earlier = [] ∨ ∃ others, earlier = others ++ [.close])
    (unclosed : ∀ operation ∈ operations, operation ≠ .close) :
    let before := afterAll concurrency earlier (fresh concurrency url chunkSize, Net.ofScript script)
    let after := afterAll concurrency operations before
    let taken := bodies concurrency operations before
    let handed := delivered concurrency operations before
    taken.length ≤ 1 ∧ (taken = [] -> handed = []) ∧
      (∃ drawn, drawn <+: Chunk.deliverable taken.flatten ∧
        handed ++ after.1.pending = before.1.pending ++ drawn) ∧
      (before.1.pending = [] -> handed <+: Chunk.deliverable taken.flatten) := by
  intro before after taken handed
  have nothing : before.1.response = none := by
    rcases closed with rfl | ⟨others, rfl⟩
    · rfl
    · show (afterAll concurrency (others ++ [.close]) _).1.response = none
      rw [afterAll_append]
      exact response_close _
  have since : SinceClosing before.1.pending taken handed after := by
    have later := SinceClosing.afterAll (.unsent nothing rfl) concurrency unclosed
    simp only [List.nil_append] at later
    exact later
  clear_value taken handed after
  cases since with
  | unsent none_there left =>
    refine ⟨Nat.zero_le _, fun _ => rfl, ⟨[], List.nil_prefix, ?_⟩, fun _ => List.nil_prefix⟩
    rw [left, List.append_nil, List.nil_append]
  | @drawing _ chunks index drawn _ draws balanced =>
    rcases draws.body with ⟨response, -, pieces⟩
    rw [List.flatten_singleton]
    refine ⟨Nat.le_refl _, nofun, ⟨drawn, ⟨_, pieces⟩, balanced.symm⟩, fun empty => ?_⟩
    rw [empty, List.nil_append] at balanced
    refine ⟨after.1.pending ++ Chunk.deliverable response.chunks, ?_⟩
    rw [← List.append_assoc, ← balanced, pieces]

/-- Of a first body two bytes of three are read before the stream is closed, and
then a second body is read: the third byte comes in front of it. -/
theorem delivers_waiting_first_of_one :
    let read : Operation := .readInto ⟨[0, 0], true⟩
    let script : List (String × List Answer) :=
      [("http://host", [.response 200 none [.bytes [1, 2, 3]], .notConnected "refused",
        .response 200 none [.bytes [7, 8]]])]
    let before := afterAll .blocking [read, .close]
      (fresh .blocking "http://host" 4, Net.ofScript script)
    let operations := [read, .write ⟨[9], false⟩, read, read]
    ∃ drawn, drawn <+: Chunk.deliverable (bodies .blocking operations before).flatten ∧
      delivered .blocking operations before ++ (afterAll .blocking operations before).1.pending =
        [3] ++ drawn := by
  intro read script before operations
  have delivers := delivers_waiting_first .blocking "http://host" 4 script [read, .close] operations
    (.inr ⟨[read], rfl⟩) (by simp [operations, read])
  exact delivers.2.2.1

/-- The last byte of the one chunk of a first body is read, after the stream has
been closed, in place of a byte of the second body. -/
theorem not_prefix_of_waiting :
    let read : Operation := .readInto ⟨[0], true⟩
    let script : List (String × List Answer) :=
      [("http://host", [.response 200 none [.bytes [1, 2]], .response 200 none [.bytes [3]]])]
    let before := afterAll .blocking [read, .close]
      (fresh .blocking "http://host" 4, Net.ofScript script)
    bodies .blocking [read] before = [[.bytes [3]]] ∧
      ¬ delivered .blocking [read] before <+: Chunk.deliverable [.bytes [3]] := by
  intro read script before
  have handed : delivered .blocking [read] before = [2] := rfl
  refine ⟨rfl, ?_⟩
  rw [handed]
  decide

end HttpBody

end ResumableStreams
