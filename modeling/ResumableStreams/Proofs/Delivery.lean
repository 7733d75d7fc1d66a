import ResumableStreams.Proofs.Completeness
import ResumableStreams.Proofs.Exactness
import ResumableStreams.Proofs.Usage

namespace ResumableStreams

/-!
# What a body delivers

The chunks of a body and the buffers into which it is read have nothing to do
with each other.  A chunk that does not fit waits and is read piece by piece;
an empty chunk is passed over.  So reading a body gives its bytes in order,
whatever the buffers: nothing is told of the end, or of a failure of the
transfer, before everything that came has been handed out.

The argument follows what is still undelivered: the bytes that wait, and after
them the chunks that have not been taken from the network.
-/

/-! ## Pieces of one stream -/

section

variable {State : Type} {stream : Stream State} {concurrency : Concurrency}

/-- The length of all pieces together. -/
def pieceLength : List (Nat × Nat) -> Nat
  | [] => 0
  | (size, _) :: pieces => size + pieceLength pieces

/-- Read one piece after another from a stream.  Each has a size, and beside
it stands the capacity of the buffer through which it is read. -/
def takePieces (concurrency : Concurrency) (stream : Stream State) (limit : Nat) :
    List (Nat × Nat) -> Context State -> List (Ending Bytes) × Context State
  | [], context => ([], context)
  | (size, capacity) :: pieces, context =>
    let (machine, memory) := ReadExact.create size capacity context.memory
    let run := drive concurrency stream limit machine { context with memory := memory }
    let (endings, context) := takePieces concurrency stream limit pieces run.context
    (run.ending :: endings, context)

/-- Where the pieces are there, they come in order and without a gap. -/
theorem exists_takePieces (supply : stream.Supply concurrency) {limit : Nat}
    {pieces : List (Nat × Nat)} {context : Context State} (source : supply.Ready context.state)
    (room : ∀ piece ∈ pieces, 0 < piece.2)
    (there : pieceLength pieces ≤ (supply.rest context.state).length)
    (enough : (supply.rest context.state).length + 1 < limit) :
    let out := takePieces concurrency stream limit pieces context
    supply.Ready out.2.state ∧ ∃ parts : List Bytes, out.1 = parts.map .finished ∧
      parts.map List.length = pieces.map Prod.fst ∧
      parts.flatten ++ supply.rest out.2.state = supply.rest context.state := by
  induction pieces generalizing context with
  | nil => exact ⟨source, [], rfl, rfl, rfl⟩
  | cons piece pieces inductionHypothesis =>
    rcases piece with ⟨size, capacity⟩
    have fits : size + pieceLength pieces ≤ (supply.rest context.state).length := there
    let built := ReadExact.create size capacity context.memory
    have ready : built.1.Ready built.2 :=
      ReadExact.ready_create size (room _ List.mem_cons_self) context.memory
    have missing : built.1.remaining = size := rfl
    have settled := @ReadExact.Ready.settled State stream concurrency supply limit built.1
      { context with memory := built.2 } [] ready source
      (Nat.lt_of_le_of_lt (Nat.min_le_right _ _) enough)
    have sized : size ≤ 0 + (supply.rest context.state).length := by omega
    have ending := settled.ending
    have rest := settled.rest
    rw [ReadExact.outcome] at ending
    rw [missing] at rest
    change _ = (supply.rest context.state).drop size at rest
    have left : (supply.rest _).length = (supply.rest context.state).length - size :=
      (congrArg List.length rest).trans List.length_drop
    rcases inductionHypothesis settled.source (fun _ member => room _ (List.mem_cons_of_mem _ member))
      (by rw [left]; omega) (by rw [left]; omega) with
      ⟨sourceAfter, parts, endings, lengths, whole⟩
    refine ⟨sourceAfter, (supply.rest context.state).take size :: parts, ?_, ?_, ?_⟩
    · exact List.cons_eq_cons.mpr ⟨ending.trans (if_pos sized), endings⟩
    · rw [List.map_cons, lengths, List.length_take, Nat.min_eq_left (by omega), List.map_cons]
    · rw [List.flatten_cons, List.append_assoc]
      exact (congrArg _ (whole.trans rest)).trans (List.take_append_drop _ _)

end

/-! ## What an answer brings -/

/-- The failure to which a transfer comes, if it does not come to its end. -/
def Chunk.failure (url : String) : List Chunk -> Option Fault
  | [] => none
  | .bytes _ :: rest => Chunk.failure url rest
  | .broken reason :: _ => some (.transport (.brokenBody url reason))
  | .systemFailure text :: _ => some (.systemText text)

/-- The length that a response announces can be understood. -/
def Announces (contentLength : Option String) : Prop :=
  ∀ text, contentLength = some text -> text = "" ∨ ∃ length, Text.readInteger text = .value length

/-- Why there is no piece to be had. -/
def Pull.fault (url : String) : Pull -> Option Fault
  | .bytes _ | .ended => none
  | .broken reason => some (.transport (.brokenBody url reason))
  | .systemFailure text => some (.systemText text)

/-- The failure comes after all pieces. -/
theorem Pull.failure_of_next_bytes (url : String) {chunks rest : List Chunk} {data : Bytes}
    (pulled : Pull.next chunks = (.bytes data, rest)) :
    Chunk.failure url chunks = Chunk.failure url rest := by
  induction chunks with
  | nil => cases pulled
  | cons chunk chunks inductionHypothesis =>
    cases chunk with
    | bytes piece =>
      cases piece with
      | nil => exact inductionHypothesis pulled
      | cons byte bytes =>
        cases pulled
        rfl
    | broken reason => cases pulled
    | systemFailure text => cases pulled

theorem Pull.failure_of_next_not_bytes (url : String) {chunks : List Chunk}
    (without : ∀ data, (Pull.next chunks).1 ≠ .bytes data) :
    Chunk.failure url chunks = (Pull.next chunks).1.fault url := by
  induction chunks with
  | nil => rfl
  | cons chunk chunks inductionHypothesis =>
    cases chunk with
    | bytes piece =>
      cases piece with
      | nil => exact inductionHypothesis without
      | cons byte bytes => exact absurd rfl (without (byte :: bytes))
    | broken reason => rfl
    | systemFailure text => rfl

/-! ## The network while a body is received -/

namespace Net

/-- Nothing is different that belongs to another response, and nothing that
tells of the requests sent. -/
structure Keeps (index : Nat) (before after : Net) : Prop where
  gets : after.gets = before.gets
  script : after.script = before.script
  size : after.responses.size = before.responses.size
  others : ∀ other, other ≠ index -> after.responses[other]? = before.responses[other]?

theorem Keeps.refl (index : Nat) (net : Net) : Keeps index net net :=
  ⟨rfl, rfl, rfl, fun _ _ => rfl⟩

/-- A pull changes nothing but the response pulled from. -/
theorem exists_pull {net : Net} {index : Nat} {response : Response}
    (found : net.responses[index]? = some response) (chunkSize : Int) :
    ∃ after, net.pull index chunkSize = ((Pull.next response.chunks).1, after) ∧
      Keeps index net after ∧
      after.responses[index]? =
        some { response with chunks := (Pull.next response.chunks).2, begun := true } := by
  have inside : index < net.responses.size := (Array.getElem?_eq_some_iff.mp found).1
  simp only [pull, found]
  refine ⟨_, rfl, ⟨rfl, rfl, Array.size_setIfInBounds, fun other apart => ?_⟩,
    Array.getElem?_setIfInBounds_self_of_lt inside⟩
  exact Array.getElem?_setIfInBounds_ne (Ne.symm apart)

end Net

/-! ## What reads hand out -/

/-- The bytes that a read has handed out. -/
def Filling.handedOut (filling : Filling) : Bytes :=
  match filling.reply with
  | .moved count => filling.contents.take count.toNat
  | _ => []

/-- A read into `buffer` has done right by what it was to give: `content`, of
which `handed` had been given before, and after it `failure` or the end. -/
structure Filling.Faithful (filling : Filling) (buffer content handed : Bytes)
    (failure : Option Fault) : Prop where
  inOrder : handed ++ filling.handedOut <+: content
  length : filling.contents.length = buffer.length
  /-- Behind what it holds of the content the buffer is as it was. -/
  reply : (∃ count : Nat, filling.reply = .moved count ∧ count ≤ buffer.length ∧
      filling.contents.drop count = buffer.drop count) ∨
    ∃ fault, filling.reply = .raised fault ∧ filling.contents = buffer
  ended : filling.reply = .moved 0 -> buffer ≠ [] -> handed = content
  failed : ∀ fault, filling.reply = .raised fault -> handed = content ∧ failure = some fault

namespace HttpBody

/-- The body is being received: under this number, with these bytes to come,
and after them this failure or else the end. -/
structure Receives (state : HttpBody × Net) (index : Nat) (content : Bytes)
    (failure : Option Fault) : Prop where
  response : state.1.response = some index
  body : ∃ response, state.2.responses[index]? = some response ∧
    state.1.pending ++ Chunk.deliverable response.chunks = content ∧
    Chunk.failure state.1.url response.chunks = failure

/-! ## Waiting for bytes -/

/-- What waiting for bytes may come to.  Where bytes are to come, some are
there afterwards. -/
inductive Waits (index : Nat) (content : Bytes) (failure : Option Fault)
    (before : HttpBody × Net) : Option Fault × (HttpBody × Net) -> Prop where
  | ready {after : HttpBody × Net} : Receives after index content failure ->
      (after.1.pending = [] -> content = [] ∧ failure = none) ->
      after.1.bytesRead = before.1.bytesRead -> before.2.Keeps index after.2 ->
      Waits index content failure before (none, after)
  | failed {fault : Fault} {after : HttpBody × Net} : content = [] -> failure = some fault ->
      Receives after index [] none -> after.1.bytesRead = before.1.bytesRead ->
      before.2.Keeps index after.2 -> Waits index content failure before (some fault, after)

theorem Receives.ensurePending {state : HttpBody × Net} {index : Nat} {content : Bytes}
    {failure : Option Fault} (receives : Receives state index content failure) :
    Waits index content failure state (ensurePending state) := by
  rcases state with ⟨body, net⟩
  have known : body.response = some index := receives.response
  rcases receives.body with ⟨response, found, undelivered, fails⟩
  cases waiting : body.pending with
  | cons byte bytes =>
    have same : HttpBody.ensurePending (body, net) = (none, (body, net)) := by
      simp only [HttpBody.ensurePending, waiting]
    rw [same]
    refine .ready receives (fun nothing => ?_) rfl (.refl index net)
    rw [show body.pending = byte :: bytes from waiting] at nothing
    cases nothing
  | nil =>
    simp only [waiting, List.nil_append] at undelivered fails
    rcases Net.exists_pull found body.chunkSize with ⟨after, pulls, keeps, left⟩
    simp only [HttpBody.ensurePending, waiting, known, pulls]
    -- A pull that gives no piece has found nothing, and leaves nothing.
    have drained (without : ∀ data, (Pull.next response.chunks).1 ≠ .bytes data) :
        content = [] ∧ failure = (Pull.next response.chunks).1.fault body.url ∧
          Receives (body, after) index [] none := by
      rcases Pull.deliverable_of_next_not_bytes without with ⟨nothing, exhausted⟩
      have fault := Pull.failure_of_next_not_bytes body.url without
      refine ⟨undelivered.symm.trans nothing, fails.symm.trans fault, known, _, left, ?_, ?_⟩
      · rw [waiting, exhausted]
        rfl
      · rw [exhausted]
        rfl
    cases pulled : Pull.next response.chunks with
    | mk pull rest =>
      rw [pulled] at left drained
      cases pull with
      | bytes data =>
        rcases Pull.deliverable_of_next_bytes pulled with ⟨some_come, pieces⟩
        refine .ready ⟨rfl, _, left, ?_, ?_⟩ (fun nothing => absurd nothing some_come) rfl keeps
        · rw [← undelivered, pieces]
        · rw [← fails, Pull.failure_of_next_bytes body.url pulled]
      | ended =>
        rcases drained (by rintro data ⟨⟩) with ⟨rfl, rfl, after⟩
        exact .ready after (fun _ => ⟨rfl, rfl⟩) rfl keeps
      | broken reason =>
        rcases drained (by rintro data ⟨⟩) with ⟨rfl, rfl, after⟩
        exact .failed rfl rfl after rfl keeps
      | systemFailure text =>
        rcases drained (by rintro data ⟨⟩) with ⟨rfl, rfl, after⟩
        exact .failed rfl rfl after rfl keeps

/-! ## One read -/

/-- What reading into a buffer may come to while `content` is to come, and
after it `failure` or the end. -/
inductive Delivers (index : Nat) (contents content : Bytes) (failure : Option Fault)
    (before : HttpBody × Net) : Filling × (HttpBody × Net) -> Prop where
  /-- The next bytes are in the buffer.  A buffer with room gets none only at
  the end. -/
  | bytes {data left : Bytes} {events : List Event} {after : HttpBody × Net} :
      content = data ++ left -> data.length ≤ contents.length ->
      (data = [] -> contents ≠ [] -> content = [] ∧ failure = none) ->
      Receives after index left failure ->
      after.1.bytesRead = before.1.bytesRead + data.length ->
      Delivers index contents content failure before
        (⟨Bytes.overStart data contents, .moved data.length, events⟩, after)
  | failed {fault : Fault} {events : List Event} {after : HttpBody × Net} : content = [] ->
      failure = some fault -> Receives after index [] none ->
      after.1.bytesRead = before.1.bytesRead ->
      Delivers index contents content failure before (⟨contents, .raised fault, events⟩, after)

/-- What waits is handed out as far as it fits, and the rest goes on waiting. -/
theorem Receives.deliver {body : HttpBody} {net : Net} {index : Nat} {content : Bytes}
    {failure : Option Fault} (receives : Receives (body, net) index content failure)
    (length : Nat) :
    (body.deliver length).1 = body.pending.take length ∧
      ∃ left, content = body.pending.take length ++ left ∧
        Receives ((body.deliver length).2, net) index left failure := by
  rcases receives.body with ⟨response, found, undelivered, fails⟩
  refine ⟨rfl, body.pending.drop length ++ Chunk.deliverable response.chunks, ?_,
    receives.response, response, found, rfl, fails⟩
  rw [← undelivered, ← List.append_assoc, List.take_append_drop]

/-- Reading into a buffer, where the response is there or has just come. -/
theorem delivers_readInto {state sent : HttpBody × Net} {events : List Event} {index : Nat}
    {content : Bytes} {failure : Option Fault}
    (ensured : ensureResponse state = (none, events, sent))
    (receives : Receives sent index content failure) (contents : Bytes) :
    Delivers index contents content failure sent (readInto ⟨contents, true⟩ state) ∧
      sent.2.Keeps index (readInto ⟨contents, true⟩ state).2.2 := by
  have waits := receives.ensurePending
  rw [readInto_eq]
  simp only [ensured]
  cases waited : HttpBody.ensurePending sent with
  | mk fault after =>
    rw [waited] at waits
    cases waits with
    | failed nothing fails receivesAfter read keeps =>
      exact ⟨.failed nothing fails receivesAfter read, keeps⟩
    | ready receivesAfter some_come read keeps =>
      rcases after with ⟨body, net⟩
      rcases receivesAfter.deliver contents.length with ⟨data, left, pieces, receivesLeft⟩
      refine ⟨.bytes pieces (List.length_take_le _ _) ?_ receivesLeft ?_, keeps⟩
      · intro none_taken room
        apply some_come
        rcases List.take_eq_nil_iff.mp none_taken with noRoom | nothing
        · exact absurd (List.length_eq_zero_iff.mp noRoom) room
        · exact nothing
      · show body.bytesRead + _ = _
        rw [show body.bytesRead = sent.1.bytesRead from read]
        rfl

/-! ## Sending the request -/

/-- A request has been sent, and the body of its response is to be received:
nothing of it has been read, and older responses are as they were. -/
structure Sent (before after : HttpBody × Net) (chunks : List Chunk) : Prop where
  receives : Receives after before.2.responses.size (Chunk.deliverable chunks)
    (Chunk.failure before.1.url chunks)
  read : after.1.bytesRead = before.1.bytesRead
  gets : after.2.gets = before.2.gets.push before.1.url
  script : after.2.script = (before.2.get before.1.url).2.script
  older : ∀ other, other < before.2.responses.size ->
    after.2.responses[other]? = before.2.responses[other]?

theorem exists_announced {contentLength : Option String} (understood : Announces contentLength)
    (body : HttpBody) :
    ∃ length, body.announced contentLength = .ok { body with contentLength := length } := by
  unfold announced
  split
  · exact ⟨body.contentLength, rfl⟩
  · exact ⟨body.contentLength, rfl⟩
  · rename_i text notEmpty
    rcases understood text rfl with empty | ⟨length, read⟩
    · exact absurd empty notEmpty
    · exact ⟨some length, by simp only [read]⟩

/-- A response that is accepted is taken up. -/
theorem exists_send {state : HttpBody × Net} {status : Int} {contentLength : Option String}
    {chunks : List Chunk} (nothing : state.1.pending = [])
    (answered : (state.2.get state.1.url).1 = .response status contentLength chunks)
    (accepted : status < 400) (understood : Announces contentLength) :
    ∃ after, send state = (none, after) ∧ Sent state after chunks := by
  rcases asked_eq state with ⟨client, clients, asks⟩
  have upcomes : upcoming state = .response status contentLength chunks := answered
  have notRefused : ¬ status ≥ 400 := Int.not_le.mpr accepted
  rcases exists_announced understood (asked state).1 with ⟨length, announces⟩
  refine ⟨({ (asked state).1 with
      contentLength := length, response := some state.2.responses.size },
    (handed chunks state).2), ?_, ?_⟩
  · simp only [send_eq, upcomes, if_neg notRefused, announces]
  · simp only [handed, asks]
    refine ⟨⟨rfl, ⟨chunks, false, 0⟩, Array.getElem?_push_size, ?_, rfl⟩, rfl, rfl, rfl, ?_⟩
    · change state.1.pending ++ _ = _
      rw [nothing, List.nil_append]
    · intro other older
      change (state.2.responses.push _)[other]? = state.2.responses[other]?
      rw [Array.getElem?_push, if_neg (Nat.ne_of_lt older)]

/-! ## Any number of reads -/

/-- Read into one buffer after another. -/
def readAll : List Bytes -> HttpBody × Net -> List Filling × (HttpBody × Net)
  | [], state => ([], state)
  | buffer :: buffers, state =>
    let (filling, state) := readInto ⟨buffer, true⟩ state
    let (fillings, state) := readAll buffers state
    (filling :: fillings, state)

/-- The one request made since `start` is that of this body, of whose content
`handed` has been handed out.  A failure that has been told is not told
again. -/
structure Underway (start : Net) (url : String) (content : Bytes) (failure : Option Fault)
    (handed : Bytes) (state : HttpBody × Net) : Prop where
  body : ∃ left failing, Receives state start.responses.size left failing ∧
    handed ++ left = content ∧ (failing = failure ∨ left = [] ∧ failing = none)
  read : state.1.bytesRead = handed.length
  gets : state.2.gets = start.gets.push url

theorem Receives.ensureResponse {state : HttpBody × Net} {index : Nat} {content : Bytes}
    {failure : Option Fault} (receives : Receives state index content failure) :
    HttpBody.ensureResponse state = (none, [], state) := by
  simp only [HttpBody.ensureResponse, receives.response]

/-- A read hands out what comes next. -/
theorem Underway.readInto {start : Net} {url : String} {content handed : Bytes}
    {failure : Option Fault} {state sent : HttpBody × Net} {events : List Event}
    (ensured : ensureResponse state = (none, events, sent))
    (underway : Underway start url content failure handed sent) (buffer : Bytes) :
    let read := HttpBody.readInto ⟨buffer, true⟩ state
    read.1.Faithful buffer content handed failure ∧
      Underway start url content failure (handed ++ read.1.handedOut) read.2 := by
  intro read
  rcases underway.body with ⟨left, failing, receives, pieces, fails⟩
  rcases delivers_readInto ensured receives buffer with ⟨delivers, keeps⟩
  have gets : read.2.2.gets = start.gets.push url := keeps.gets.trans underway.gets
  change Delivers _ _ _ _ _ read at delivers
  clear_value read
  cases delivers with
  | failed nothing failed receivesAfter count =>
    have everything : handed = content := by rw [← pieces, nothing, List.append_nil]
    have told : failure = failing := by
      rcases fails with same | ⟨-, none_left⟩
      · exact same.symm
      · rw [none_left] at failed
        cases failed
    refine ⟨⟨?_, rfl, .inr ⟨_, rfl, rfl⟩, nofun, ?_⟩, ⟨[], none, receivesAfter, ?_, ?_⟩, ?_, gets⟩
    · simp only [Filling.handedOut, List.append_nil, everything, List.prefix_rfl]
    · rintro _ ⟨⟩
      exact ⟨everything, told.trans failed⟩
    · simp only [Filling.handedOut, List.append_nil, everything]
    · exact .inr ⟨rfl, rfl⟩
    · simp only [Filling.handedOut, List.append_nil]
      exact count.trans underway.read
  | @bytes data later events after pieces' fits ended receivesAfter count =>
    have taken : Filling.handedOut
        ⟨Bytes.overStart data buffer, .moved data.length, events⟩ = data :=
      Bytes.take_overStart data buffer
    have consumed : handed ++ data ++ later = content := by
      rw [List.append_assoc, ← pieces', pieces]
    refine ⟨⟨?_, Bytes.length_overStart_of_le fits, .inl ⟨data.length, rfl, fits, ?_⟩, ?_, nofun⟩,
      ⟨later, failing, receivesAfter, ?_, ?_⟩, ?_, gets⟩
    · rw [taken]
      exact ⟨later, consumed⟩
    · exact List.drop_left
    · intro nothing room
      have empty : data = [] := by
        have none_moved : ((data.length : Nat) : Int) = 0 := by injection nothing
        exact List.length_eq_zero_iff.mp (Int.ofNat_eq_zero.mp none_moved)
      rw [← pieces, (ended empty room).1, List.append_nil]
    · rw [taken]
      exact consumed
    · rcases fails with same | ⟨none_left, silent⟩
      · exact .inl same
      · rw [none_left] at pieces'
        exact .inr ⟨(List.append_eq_nil_iff.mp pieces'.symm).2, silent⟩
    · rw [taken, List.length_append]
      exact count.trans (congrArg (· + data.length) underway.read)

/-- Reads of a body that is to be received, one after another, and then one
more. -/
theorem Underway.readAll {start : Net} {url : String} {content : Bytes} {failure : Option Fault}
    (buffers : List Bytes) {handed : Bytes} {state sent : HttpBody × Net} {events : List Event}
    (ensured : ensureResponse state = (none, events, sent))
    (underway : Underway start url content failure handed sent) (buffer : Bytes) :
    let earlier := HttpBody.readAll buffers state
    let before := handed ++ earlier.1.flatMap Filling.handedOut
    let last := HttpBody.readInto ⟨buffer, true⟩ earlier.2
    last.1.Faithful buffer content before failure ∧
      Underway start url content failure (before ++ last.1.handedOut) last.2 := by
  induction buffers generalizing handed state sent events with
  | nil =>
    simp only [HttpBody.readAll, List.flatMap_nil, List.append_nil]
    exact underway.readInto ensured buffer
  | cons first buffers inductionHypothesis =>
    have after := (underway.readInto ensured first).2
    rcases after.body with ⟨_, _, receives, _⟩
    have reads := inductionHypothesis receives.ensureResponse after
    simp only [List.append_assoc] at reads ⊢
    simpa only [HttpBody.readAll, List.flatMap_cons, List.append_assoc] using reads

/-! ## A body as a supply -/

/-- The bytes of a response that have not been handed out. -/
def undelivered (state : HttpBody × Net) : Bytes :=
  match state.1.response.bind (state.2.responses[·]?) with
  | none => []
  | some response => state.1.pending ++ Chunk.deliverable response.chunks

theorem Receives.undelivered_eq {state : HttpBody × Net} {index : Nat} {content : Bytes}
    {failure : Option Fault} (receives : Receives state index content failure) :
    undelivered state = content := by
  rcases receives.body with ⟨response, found, content, -⟩
  simp only [undelivered, receives.response, Option.bind_some, found, content]

/-- The stream of a body is read in one way by the runtime for which it is made. -/
theorem fill_eq_readInto (concurrency : Concurrency) (lent : Lent) (state : HttpBody × Net) :
    (stream concurrency).fill concurrency lent state = HttpBody.readInto lent state := by
  cases concurrency <;> rfl

/-- A body that comes to its end without a failure, sent for or not. -/
def supply (concurrency : Concurrency) : (stream concurrency).Supply concurrency where
  Ready state := ∃ events sent index content,
    ensureResponse state = (none, events, sent) ∧ Receives sent index content none
  rest state := undelivered (ensureResponse state).2.2
  fill := by
    rintro contents state ⟨events, sent, index, content, ensured, receives⟩ room
    have delivers := (delivers_readInto ensured receives contents).1
    rw [fill_eq_readInto, ensured, receives.undelivered_eq]
    generalize HttpBody.readInto ⟨contents, true⟩ state = read at delivers ⊢
    cases delivers with
    | failed _ failed => cases failed
    | @bytes data left events after pieces fits ended receivesAfter count =>
      refine ⟨⟨[], after, index, left, receivesAfter.ensureResponse, receivesAfter⟩, data.length,
        Filling.delivers_overStart pieces fits fun nothing => (ended nothing room).1, ?_⟩
      rw [receivesAfter.ensureResponse, receivesAfter.undelivered_eq, pieces, List.drop_left]

/-- A body whose response is accepted is received in order and without a gap,
whatever the lengths of its chunks and of the buffers.  One request is sent;
every read does right by the content; the bytes handed out are counted.

So where the transfer comes to its end, pieces of any sizes and through any
buffers, and then everything that is left, are together the whole body. -/
theorem reads_body_in_order (concurrency : Concurrency) (url : String) (chunkSize : Int) {net : Net}
    {status : Int} {contentLength : Option String} {chunks : List Chunk}
    (answered : (net.get url).1 = .response status contentLength chunks)
    (accepted : status < 400) (understood : Announces contentLength) :
    (∀ (buffers : List Bytes) (buffer : Bytes),
      let earlier := readAll buffers (fresh concurrency url chunkSize, net)
      let handed := earlier.1.flatMap Filling.handedOut
      let last := readInto ⟨buffer, true⟩ earlier.2
      last.1.Faithful buffer (Chunk.deliverable chunks) handed (Chunk.failure url chunks) ∧
        last.2.1.bytesRead = (handed ++ last.1.handedOut).length ∧
        last.2.2.gets = net.gets.push url) ∧
    (Chunk.failure url chunks = none ->
      ∀ (pieces : List (Nat × Nat)) (capacity limit : Nat) (memory : Memory)
        (journal : Array Event),
        (∀ piece ∈ pieces, 0 < piece.2) -> 0 < capacity ->
        pieceLength pieces ≤ (Chunk.deliverable chunks).length ->
        (Chunk.deliverable chunks).length + 1 < limit ->
        let taken := takePieces concurrency (stream concurrency) limit pieces
          ⟨memory, journal, (fresh concurrency url chunkSize, net)⟩
        let built := ReadToEnd.create capacity taken.2.memory
        let last := drive concurrency (stream concurrency) limit built.1
          { taken.2 with memory := built.2 }
        ∃ (parts : List Bytes) (final : Bytes), taken.1 = parts.map .finished ∧
          parts.map List.length = pieces.map Prod.fst ∧ last.ending = .finished final ∧
          parts.flatten ++ final = Chunk.deliverable chunks) := by
  let start : HttpBody × Net := (fresh concurrency url chunkSize, net)
  rcases @exists_send start status contentLength chunks rfl answered accepted understood with
    ⟨sent, sends, isSent⟩
  have ensured : ensureResponse start = (none, [.sendingGet concurrency url], sent) := by
    simp only [ensureResponse, sends, show start.1.response = none from rfl]
    rfl
  constructor
  · intro buffers buffer earlier handed last
    have underway : Underway net url (Chunk.deliverable chunks) (Chunk.failure url chunks) [] sent :=
      ⟨⟨_, _, isSent.receives, rfl, .inl rfl⟩, isSent.read, isSent.gets⟩
    have reads := underway.readAll buffers ensured buffer
    simp only [List.nil_append] at reads
    exact ⟨reads.1, reads.2.read, reads.2.gets⟩
  · intro succeeds pieces capacity limit memory journal room roomLast there enough taken built last
    have receives : Receives sent net.responses.size (Chunk.deliverable chunks) none :=
      succeeds ▸ isSent.receives
    have source : (supply concurrency).Ready start := ⟨_, sent, _, _, ensured, receives⟩
    have content : (supply concurrency).rest start = Chunk.deliverable chunks := by
      show undelivered (ensureResponse start).2.2 = _
      rw [ensured, receives.undelivered_eq]
    rcases @exists_takePieces _ _ _ (supply concurrency) limit pieces ⟨memory, journal, start⟩
      source room (content ▸ there) (content ▸ enough) with
      ⟨sourceAfter, parts, endings, lengths, whole⟩
    have left : ((supply concurrency).rest taken.2.state).length + 1 < limit := by
      have total := congrArg List.length whole
      rw [List.length_append] at total
      have whole' : ((supply concurrency).rest start).length + 1 < limit := content ▸ enough
      exact Nat.lt_of_le_of_lt (Nat.succ_le_succ (total ▸ Nat.le_add_left _ _)) whole'
    have drained := @ReadToEnd.Ready.drained _ _ _ (supply concurrency) limit built.1
      { taken.2 with memory := built.2 } [] (ReadToEnd.ready_create roomLast taken.2.memory)
      sourceAfter left
    exact ⟨parts, _, endings, lengths, drained.ending, whole.trans content⟩

/-- Three bytes in two chunks, an empty one between them: a read of one byte
and another, and then two of them as a piece and the rest to the end. -/
theorem reads_body_in_order_of_three :
    let chunks : List Chunk := [.bytes [1, 2], .bytes [], .bytes [3]]
    let net := Net.ofScript [("http://host", [.response 200 (some "3") chunks])]
    let start : HttpBody × Net := (fresh .asynchronous "http://host" 4, net)
    let taken := takePieces .asynchronous (stream .asynchronous) 5 [(2, 1)] ⟨.empty, #[], start⟩
    let built := ReadToEnd.create 7 taken.2.memory
    (readInto ⟨[0, 0], true⟩ (readAll [[0]] start).2).2.2.gets = #["http://host"] ∧
      ∃ (parts : List Bytes) (final : Bytes), taken.1 = parts.map .finished ∧
        parts.map List.length = [2] ∧
        (drive .asynchronous (stream .asynchronous) 5 built.1
          { taken.2 with memory := built.2 }).ending = .finished final ∧
        parts.flatten ++ final = [1, 2, 3] := by
  intro chunks net start taken built
  have understood : Announces (some "3") := by
    rintro _ ⟨⟩
    exact .inr ⟨3, by rfl⟩
  have reads := @reads_body_in_order .asynchronous "http://host" 4 net 200 (some "3") chunks rfl
    (by decide) understood
  have pieces := reads.2 rfl [(2, 1)] 7 5 .empty #[] (by decide) (by decide) (by decide) (by decide)
  refine ⟨(reads.1 [[0]] [0, 0]).2.2, ?_⟩
  -- Written out, what is to be shown can be compared without being computed.
  dsimp only [taken, built, start]
  exact pieces

end HttpBody
end ResumableStreams
