import ResumableStreams.Http.Body

namespace ResumableStreams

/-!
# Bodies in any hands

Whoever holds the stream of a body may read it, write to it and close it in any
order, also after it has failed or has been closed.  What such a caller can see
is what each call gives, and what the stream tells of itself afterwards.

The two classes of streams differ in what they do with themselves.  A blocking
stream that cannot get a response stays as it is.  An asynchronous one closes
itself, and the client that it has just created with it.  A caller sees nothing
of this: a stream closes itself only while it has no response, so that nothing
but the client is lost.  The two classes therefore go in step, call by call, up
to clients.
-/

/-- There is no connection, or the status is refused. -/
def Answer.IsFinal : Answer -> Prop
  | .notConnected _ => True
  | .systemFailure _ => False
  | .response status _ _ => status ≥ 400

namespace HttpBody

/-- What a caller may do. -/
inductive Operation where
  | readInto (lent : Lent)
  | write (lent : Lent)
  | close

/-- What a caller gets: a reply, and what a buffer holds after a read into it. -/
inductive Given where
  | read (contents : Bytes) (reply : Reply)
  | written (reply : Reply)
  | closed (fault : Option Fault)

/-- Perform an operation of the stream that is made for the runtime. -/
def perform (concurrency : Concurrency) (operation : Operation) (state : HttpBody × Net) :
    Given × (HttpBody × Net) :=
  match operation with
  | .readInto lent =>
    let (filling, state) := (stream concurrency).fill concurrency lent state
    (.read filling.contents filling.reply, state)
  | .write lent =>
    let (reply, state) := (stream concurrency).offer concurrency lent state
    (.written reply, state)
  | .close =>
    match (stream concurrency).close with
    | none => (.closed none, state)
    | some close =>
      let (fault, state) := close state
      (.closed fault, state)

theorem perform_readInto (concurrency : Concurrency) (lent : Lent) (state : HttpBody × Net) :
    perform concurrency (.readInto lent) state =
      (.read (readInto lent state).1.contents (readInto lent state).1.reply,
        (readInto lent state).2) := by
  cases concurrency <;> rfl

theorem perform_write (concurrency : Concurrency) (lent : Lent) (state : HttpBody × Net) :
    perform concurrency (.write lent) state =
      (.written (.raised (.unsupported "HTTP body streams are read-only")), state) := by
  cases concurrency <;> rfl

theorem perform_close (concurrency : Concurrency) (state : HttpBody × Net) :
    perform concurrency .close state = (.closed none, close state) := rfl

/-- Perform one operation after the other. -/
def afterAll (concurrency : Concurrency) (operations : List Operation)
    (state : HttpBody × Net) : HttpBody × Net :=
  operations.foldl (fun state operation => (perform concurrency operation state).2) state

theorem afterAll_cons (concurrency : Concurrency) (operation : Operation)
    (operations : List Operation) (state : HttpBody × Net) :
    afterAll concurrency (operation :: operations) state =
      afterAll concurrency operations (perform concurrency operation state).2 := rfl

theorem afterAll_append (concurrency : Concurrency) (earlier later : List Operation)
    (state : HttpBody × Net) :
    afterAll concurrency (earlier ++ later) state =
      afterAll concurrency later (afterAll concurrency earlier state) :=
  List.foldl_append

/-- What a caller sees of an operation, and of the stream and the network after
it. -/
structure Observation where
  given : Given
  bytesRead : Nat
  contentLength : Option Int
  /-- The addresses that have been asked for. -/
  gets : Array String

def observe (given : Given) (state : HttpBody × Net) : Observation :=
  ⟨given, state.1.bytesRead, state.1.contentLength, state.2.gets⟩

/-- What is seen of one operation after the other. -/
def observations (concurrency : Concurrency) :
    List Operation -> HttpBody × Net -> List Observation
  | [], _ => []
  | operation :: operations, state =>
    let (given, state) := perform concurrency operation state
    observe given state :: observations concurrency operations state

/-! ## A request by the answer that it gets -/

/-- Send the request in the way of the stream's class. -/
def send (state : HttpBody × Net) : Option Fault × (HttpBody × Net) :=
  match state.1.concurrency with
  | .blocking => Blocking.send state
  | .asynchronous => Asynchronous.send state

/-- Send the request unless there is a response already. -/
def ensureResponse (state : HttpBody × Net) : Option Fault × List Event × (HttpBody × Net) :=
  match state.1.response with
  | some _ => (none, [], state)
  | none =>
    let (fault, after) := send state
    (fault, [.sendingGet state.1.concurrency state.1.url], after)

/-- Either class reads once it has made sure of a response. -/
theorem readInto_eq (lent : Lent) (state : HttpBody × Net) :
    readInto lent state =
      let (fault, events, state) := ensureResponse state
      let noting := fun (filling : Filling) => { filling with events := events }
      match fault with
      | some fault => (noting (lent.untouched (.raised fault)), state)
      | none =>
        let (fault, (body, net)) := ensurePending state
        match fault with
        | some fault => (noting (lent.untouched (.raised fault)), (body, net))
        | none =>
          if lent.mutable then
            let (data, body) := body.deliver lent.size
            (noting (lent.put data), (body, net))
          else (noting (lent.untouched (.raised .immutableBytes)), (body, net)) := by
  rcases state with ⟨⟨_, concurrency, _, _, _, _, response, _⟩, _⟩
  cases concurrency <;> cases response <;> rfl

/-- The answer that the network has for the next request of a body. -/
def upcoming (state : HttpBody × Net) : Answer := (Net.takeAnswer state.1.url state.2.script).1

/-- Where an asynchronous stream creates a client, a blocking one does nothing. -/
def connect (state : HttpBody × Net) : HttpBody × Net :=
  match state.1.concurrency with
  | .blocking => state
  | .asynchronous =>
    ({ state.1 with client := some state.2.clients.size }, state.2.addClient.2)

/-- Where an asynchronous stream closes itself, a blocking one does nothing. -/
def giveUp (state : HttpBody × Net) : HttpBody × Net :=
  match state.1.concurrency with
  | .blocking => state
  | .asynchronous => close state

/-- The state once a request has been sent, before its answer is looked at. -/
def asked (state : HttpBody × Net) : HttpBody × Net :=
  ((connect state).1, ((connect state).2.get state.1.url).2)

/-- Of the body only the client is different. -/
theorem asked_eq (state : HttpBody × Net) :
    ∃ client clients, asked state =
      ({ state.1 with client := client },
        { (state.2.get state.1.url).2 with clients := clients }) := by
  rcases state with ⟨⟨url, concurrency, chunkSize, bytesRead, contentLength, pending, response,
    client⟩, net⟩
  cases concurrency with
  | blocking => exact ⟨client, net.clients, rfl⟩
  | asynchronous => exact ⟨some net.clients.size, net.clients.push 0, rfl⟩

/-- Closing a stream of either class lets its response go, and lets a client go at
most. -/
theorem close_eq (state : HttpBody × Net) :
    ∃ client clients, close state =
      ({ state.1 with response := none, client := client },
        { state.1.response.elim state.2 state.2.closeResponse with clients := clients }) := by
  rcases state with ⟨⟨url, concurrency, chunkSize, bytesRead, contentLength, pending, response,
    client⟩, net⟩
  cases concurrency with
  | blocking => cases response <;> exact ⟨client, net.clients, rfl⟩
  | asynchronous =>
    cases client with
    | none => cases response <;> exact ⟨none, net.clients, rfl⟩
    | some index => cases response <;> exact ⟨none, net.clients.modify index (· + 1), rfl⟩

@[simp] theorem response_close (state : HttpBody × Net) : (close state).1.response = none := by
  rcases close_eq state with ⟨client, clients, closes⟩
  rw [closes]

/-- A stream without a response gives up nothing but a client. -/
theorem giveUp_eq {state : HttpBody × Net} (nothing : state.1.response = none) :
    ∃ client clients, giveUp state =
      ({ state.1 with client := client }, { state.2 with clients := clients }) := by
  rcases state with ⟨⟨url, concurrency, chunkSize, bytesRead, contentLength, pending, response,
    client⟩, net⟩
  cases nothing
  cases concurrency with
  | blocking => exact ⟨client, net.clients, rfl⟩
  | asynchronous =>
    exact close_eq (⟨url, .asynchronous, chunkSize, bytesRead, contentLength, pending, none,
      client⟩, net)

theorem responses_asked (state : HttpBody × Net) :
    (asked state).2.responses = state.2.responses := by
  rcases asked_eq state with ⟨client, clients, asks⟩
  rw [asks]
  rfl

/-- The state once a response with this body has been handed out as well. -/
def handed (chunks : List Chunk) (state : HttpBody × Net) : HttpBody × Net :=
  ((asked state).1, ((asked state).2.handOut chunks).2)

/-- The state once this response has been closed as soon as it was handed out. -/
def turnedDown (chunks : List Chunk) (state : HttpBody × Net) : HttpBody × Net :=
  ((asked state).1, (handed chunks state).2.closeResponse state.2.responses.size)

theorem send_eq (state : HttpBody × Net) :
    send state =
      match upcoming state with
      | .notConnected reason =>
        (some (.transport (.notConnected reason)), giveUp (asked state))
      | .systemFailure text => (some (.systemText text), asked state)
      | .response status contentLength chunks =>
        if status ≥ 400 then (some (.refused status), giveUp (turnedDown chunks state))
        else
          match (asked state).1.announced contentLength with
          | .error fault => (some fault, handed chunks state)
          | .ok body =>
            (none,
              ({ body with response := some state.2.responses.size },
                (handed chunks state).2)) := by
  rcases state with ⟨⟨url, concurrency, _, _, _, _, _, _⟩, net⟩
  cases concurrency with
  | blocking =>
    simp only [send, Blocking.send, upcoming, asked, handed, turnedDown, connect, giveUp, Net.get]
    cases (Net.takeAnswer url net.script).1 <;> rfl
  | asynchronous =>
    simp only [send, Asynchronous.send, upcoming, asked, handed, turnedDown, connect, giveUp,
      close, Net.get, Net.addClient]
    cases (Net.takeAnswer url net.script).1 <;> rfl

/-! ## What the classes do with themselves -/

/-- A blocking stream whose request fails is as it was, whatever the reason, and
has nothing to do with clients. -/
theorem Blocking.send_of_fault {state : HttpBody × Net} {fault : Fault}
    (failed : (Blocking.send state).1 = some fault) :
    (Blocking.send state).2.1 = state.1 ∧ (Blocking.send state).2.2.clients = state.2.clients := by
  rcases state with ⟨body, net⟩
  simp only [Blocking.send, Net.get] at failed ⊢
  generalize Net.takeAnswer body.url net.script = taken at failed ⊢
  rcases taken with ⟨answer, script⟩
  cases answer with
  | notConnected reason => exact ⟨rfl, rfl⟩
  | systemFailure text => exact ⟨rfl, rfl⟩
  | response status announcement chunks =>
    simp only at failed ⊢
    split at failed <;> rename_i refused
    · rw [if_pos refused]
      exact ⟨rfl, rfl⟩
    · rw [if_neg refused]
      cases told : body.announced announcement with
      | error fault => exact ⟨rfl, rfl⟩
      | ok body =>
        simp only [told] at failed
        cases failed

theorem modify_push_size (closes : Array Nat) (count : Nat) :
    (closes.push count).modify closes.size (· + 1) = closes.push (count + 1) := by
  apply Array.ext_getElem?
  intro index
  simp only [Array.getElem?_modify, Array.getElem?_push]
  split <;> split <;> first | rfl | omega

/-- An asynchronous stream whose request fails has created a client.  If the answer
is final, the stream has closed itself and the client; otherwise it has the client
at hand. -/
theorem Asynchronous.send_of_fault {state : HttpBody × Net} (nothing : state.1.response = none)
    {fault : Fault} (failed : (Asynchronous.send state).1 = some fault) :
    let after := (Asynchronous.send state).2
    ((upcoming state).IsFinal ->
      after.1 = { state.1 with client := none } ∧ after.2.clients = state.2.clients.push 1) ∧
    (¬ (upcoming state).IsFinal ->
      after.1 = { state.1 with client := some state.2.clients.size } ∧
        after.2.clients = state.2.clients.push 0) := by
  rcases state with ⟨⟨url, concurrency, chunkSize, bytesRead, contentLength, pending, response,
    client⟩, net⟩
  cases nothing
  have closed := modify_push_size net.clients 0
  simp only [Asynchronous.send, upcoming, Net.get, Net.addClient] at failed ⊢
  generalize Net.takeAnswer url net.script = taken at failed ⊢
  rcases taken with ⟨answer, script⟩
  cases answer with
  | notConnected reason => exact ⟨fun _ => ⟨rfl, closed⟩, fun other => absurd trivial other⟩
  | systemFailure text => exact ⟨False.elim, fun _ => ⟨rfl, rfl⟩⟩
  | response status announcement chunks =>
    simp only at failed ⊢
    split at failed <;> rename_i refused
    · rw [if_pos refused]
      exact ⟨fun _ => ⟨rfl, closed⟩, fun accepted => absurd refused accepted⟩
    · rw [if_neg refused]
      refine ⟨fun final => absurd final refused, fun _ => ?_⟩
      split at failed
      · exact ⟨rfl, rfl⟩
      · cases failed

/-! ## The two classes in step -/

/-- What is announced has nothing to do with the class or with clients. -/
theorem announced_eq (body : HttpBody) (concurrency : Concurrency) (client : Option Nat)
    (announcement : Option String) :
    ({ body with concurrency := concurrency, client := client } : HttpBody).announced
        announcement =
      (body.announced announcement).map fun told =>
        { told with concurrency := concurrency, client := client } := by
  unfold announced
  split
  · rfl
  · rfl
  · split <;> rfl

/-- A blocking stream and an asynchronous one of the same body that have come to
the same.  The asynchronous one may have a client at hand, and clients have been
created for it. -/
inductive InStep : HttpBody × Net -> HttpBody × Net -> Prop where
  | intro (body : HttpBody) (net : Net) (client : Option Nat) (clients : Array Nat) :
      InStep ({ body with concurrency := .blocking }, net)
        ({ body with concurrency := .asynchronous, client := client },
          { net with clients := clients })

namespace InStep

variable {first second : HttpBody × Net}

theorem close (inStep : InStep first second) :
    InStep (Blocking.close first) (Asynchronous.close second) := by
  rcases inStep with ⟨⟨url, concurrency, chunkSize, bytesRead, contentLength, pending, response,
    client⟩, net, client', clients⟩
  have goesOn := intro ⟨url, concurrency, chunkSize, bytesRead, contentLength, pending, none, client⟩
  cases response <;> cases client' <;> exact goesOn _ _ _

/-- A blocking stream that does nothing keeps step with an asynchronous one that
closes itself, while they have no response. -/
theorem close_second (inStep : InStep first second) (nothing : first.1.response = none) :
    InStep first (Asynchronous.close second) := by
  have closed := inStep.close
  simp only [Blocking.close, nothing] at closed
  exact closed

/-- A response is closed in step. -/
theorem closeResponse (inStep : InStep first second) (index : Nat) :
    InStep (first.1, first.2.closeResponse index) (second.1, second.2.closeResponse index) := by
  rcases inStep with ⟨body, net, client, clients⟩
  exact .intro body (net.closeResponse index) client clients

theorem send (inStep : InStep first second) (nothing : first.1.response = none) :
    (Asynchronous.send second).1 = (Blocking.send first).1 ∧
      InStep (Blocking.send first).2 (Asynchronous.send second).2 := by
  rcases inStep with ⟨body, net, client, clients⟩
  simp only [Blocking.send, Asynchronous.send, Net.get, Net.addClient]
  generalize Net.takeAnswer body.url net.script = taken
  rcases taken with ⟨answer, script⟩
  cases answer with
  | notConnected reason =>
    exact ⟨rfl, close_second (.intro body _ (some clients.size) (clients.push 0)) nothing⟩
  | systemFailure text => exact ⟨rfl, .intro body _ (some clients.size) (clients.push 0)⟩
  | response status announcement chunks =>
    by_cases refused : status ≥ 400
    · simp only [if_pos refused]
      refine ⟨trivial, close_second ?_ nothing⟩
      exact (intro body _ (some clients.size) (clients.push 0)).closeResponse net.responses.size
    · have known := announced_eq body .blocking body.client announcement
      have known' := announced_eq body .asynchronous (some clients.size) announcement
      simp only [if_neg refused, known, known']
      cases body.announced announcement with
      | error fault => exact ⟨rfl, .intro body _ (some clients.size) (clients.push 0)⟩
      | ok told =>
        let taken := { told with response := some net.responses.size, client := body.client }
        exact ⟨rfl, .intro taken _ (some clients.size) (clients.push 0)⟩

theorem ensureResponse (inStep : InStep first second) :
    (Asynchronous.ensureResponse second).1 = (Blocking.ensureResponse first).1 ∧
      InStep (Blocking.ensureResponse first).2.2 (Asynchronous.ensureResponse second).2.2 := by
  have same : second.1.response = first.1.response := by
    rcases inStep with ⟨body, net, client, clients⟩
    rfl
  unfold Blocking.ensureResponse Asynchronous.ensureResponse
  rw [same]
  cases found : first.1.response with
  | some index => exact ⟨rfl, inStep⟩
  | none => exact inStep.send found

theorem pull_eq (net : Net) (clients : Array Nat) (index : Nat) (chunkSize : Int) :
    ({ net with clients := clients } : Net).pull index chunkSize =
      ((net.pull index chunkSize).1,
        { (net.pull index chunkSize).2 with clients := clients }) := by
  unfold Net.pull
  cases net.responses[index]? <;> rfl

theorem ensurePending (inStep : InStep first second) :
    (HttpBody.ensurePending second).1 = (HttpBody.ensurePending first).1 ∧
      InStep (HttpBody.ensurePending first).2 (HttpBody.ensurePending second).2 := by
  rcases inStep with ⟨⟨url, concurrency, chunkSize, bytesRead, contentLength, pending, response,
    client⟩, net, client', clients⟩
  have goesOn (pending : Bytes) (net : Net) := intro ⟨url, concurrency, chunkSize, bytesRead,
    contentLength, pending, response, client⟩ net client' clients
  cases pending with
  | cons byte pending => exact ⟨rfl, goesOn (byte :: pending) net⟩
  | nil =>
    cases response with
    | none => exact ⟨rfl, goesOn [] net⟩
    | some index =>
      simp only [HttpBody.ensurePending, pull_eq]
      cases (net.pull index chunkSize).1 with
      | bytes data => exact ⟨rfl, goesOn data _⟩
      | ended | broken reason | systemFailure text => exact ⟨rfl, goesOn [] _⟩

theorem deliver (length : Nat) {body body' : HttpBody} {net net' : Net}
    (inStep : InStep (body, net) (body', net')) :
    (body'.deliver length).1 = (body.deliver length).1 ∧
      InStep ((body.deliver length).2, net) ((body'.deliver length).2, net') := by
  cases inStep with
  | intro body net client clients =>
    exact ⟨rfl, .intro (body.deliver length).2 net client clients⟩

/-- A read comes to the same, and notes the same but for the class. -/
theorem readInto (inStep : InStep first second) (lent : Lent) :
    let read := Blocking.readInto lent first
    let same := Asynchronous.readInto lent second
    same.1.contents = read.1.contents ∧ same.1.reply = read.1.reply ∧ InStep read.2 same.2 := by
  have ensured := inStep.ensureResponse
  unfold Blocking.readInto Asynchronous.readInto
  generalize Blocking.ensureResponse first = asked at ensured ⊢
  generalize Asynchronous.ensureResponse second = asked' at ensured ⊢
  rcases asked with ⟨fault, events, sent⟩
  rcases asked' with ⟨fault', events', sent'⟩
  obtain rfl : fault' = fault := ensured.1
  have inStep : InStep sent sent' := ensured.2
  cases fault' with
  | some fault => exact ⟨rfl, rfl, inStep⟩
  | none =>
    have pending := inStep.ensurePending
    simp only
    generalize HttpBody.ensurePending sent = waited at pending ⊢
    generalize HttpBody.ensurePending sent' = waited' at pending ⊢
    rcases waited with ⟨fault, body, net⟩
    rcases waited' with ⟨fault', body', net'⟩
    obtain rfl : fault' = fault := pending.1
    have inStep : InStep (body, net) (body', net') := pending.2
    cases fault' with
    | some fault => exact ⟨rfl, rfl, inStep⟩
    | none =>
      rcases lent with ⟨bytes, writable⟩
      cases writable with
      | false => exact ⟨rfl, rfl, inStep⟩
      | true =>
        rcases inStep.deliver bytes.length with ⟨data, inStep⟩
        simp only [Lent.size, data, if_true]
        exact ⟨trivial, trivial, inStep⟩

/-- A call of either class gives the same, and they go on in step. -/
theorem perform (inStep : InStep first second) (operation : Operation) :
    let performed := HttpBody.perform .blocking operation first
    let same := HttpBody.perform .asynchronous operation second
    same.1 = performed.1 ∧ InStep performed.2 same.2 := by
  have classes : first.1.concurrency = .blocking ∧ second.1.concurrency = .asynchronous := by
    rcases inStep with ⟨body, net, client, clients⟩
    exact ⟨rfl, rfl⟩
  cases operation with
  | readInto lent =>
    rcases inStep.readInto lent with ⟨contents, reply, after⟩
    simp only [perform_readInto, HttpBody.readInto, classes]
    exact ⟨congr (congrArg Given.read contents) reply, after⟩
  | write lent =>
    simp only [perform_write]
    exact ⟨trivial, inStep⟩
  | close =>
    simp only [perform_close, HttpBody.close, classes]
    exact ⟨trivial, inStep.close⟩

/-- A caller sees nothing of what the two do with their clients. -/
theorem observe_eq (inStep : InStep first second) (given : Given) :
    observe given second = observe given first := by
  rcases inStep with ⟨body, net, client, clients⟩
  rfl

theorem observations_eq (inStep : InStep first second) (operations : List Operation) :
    observations .asynchronous operations second = observations .blocking operations first := by
  induction operations generalizing first second with
  | nil => rfl
  | cons operation operations inductionHypothesis =>
    rcases inStep.perform operation with ⟨same, after⟩
    simp only [observations]
    rw [same, after.observe_eq, inductionHypothesis after]

end InStep

/-- Whatever is done with the stream of a body, in whatever order, and whatever
the network answers: a blocking caller and an asynchronous one see the same.
Call by call they get the same count, the same bytes in their buffers or the
same error, and find the same number of bytes read, the same announced length
and the same requests sent. -/
theorem observations_agree (url : String) (chunkSize : Int) (net : Net)
    (operations : List Operation) :
    observations .blocking operations (fresh .blocking url chunkSize, net) =
      observations .asynchronous operations (fresh .asynchronous url chunkSize, net) :=
  (InStep.observations_eq (.intro (fresh .blocking url chunkSize) net none net.clients)
    operations).symm

end HttpBody

end ResumableStreams
