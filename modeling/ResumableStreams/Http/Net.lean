import ResumableStreams.Bytes

namespace ResumableStreams

/-!
# The network

A `Net` answers GET requests as scripted, each address with the answers given
for it, one after the other.  It keeps account of what was asked of it and
of what it handed out: every response and every client is listed with the
number of times it has been closed.
-/

/-- One piece of a body as it comes off the network. -/
inductive Chunk where
  | bytes (data : Bytes)
  /-- The transfer breaks off with this reason. -/
  | broken (reason : String)
  | systemFailure (text : String)

/-- The answer to one request. -/
inductive Answer where
  /-- No connection, for this reason. -/
  | notConnected (reason : String)
  | systemFailure (text : String)
  | response (status : Int) (contentLength : Option String) (body : List Chunk)

/-- A response that was handed out.  Once a chunk has broken off, nothing
comes after it. -/
structure Response where
  /-- What has not been taken from the body. -/
  chunks : List Chunk
  begun : Bool
  closes : Nat

/-- The network, with an account of its use. -/
structure Net where
  script : List (String × List Answer)
  gets : Array String
  /-- The chunk size asked for each body, in the order in which taking chunks
  began. -/
  chunkSizes : Array Int
  responses : Array Response
  /-- For each client, how often it has been closed. -/
  clients : Array Nat

namespace Net

/-- A network with a script that has not been used. -/
def ofScript (script : List (String × List Answer)) : Net := ⟨script, #[], #[], #[], #[]⟩

/-- Take the next answer for an address off a script. -/
def takeAnswer (url : String) : List (String × List Answer) -> Answer × List (String × List Answer)
  | [] => (.notConnected "no route", [])
  | (other, answers) :: rest =>
    if other = url then
      match answers with
      | [] => (.notConnected "no route", (other, []) :: rest)
      | answer :: answers => (answer, (other, answers) :: rest)
    else
      let (answer, rest) := takeAnswer url rest
      (answer, (other, answers) :: rest)

/-- Ask for an address. -/
def get (net : Net) (url : String) : Answer × Net :=
  let (answer, script) := takeAnswer url net.script
  (answer, { net with script := script, gets := net.gets.push url })

/-- Hand out a response with the given body. -/
def handOut (net : Net) (body : List Chunk) : Nat × Net :=
  (net.responses.size, { net with responses := net.responses.push ⟨body, false, 0⟩ })

def addClient (net : Net) : Nat × Net :=
  (net.clients.size, { net with clients := net.clients.push 0 })

def closeResponse (net : Net) (index : Nat) : Net :=
  { net with
    responses := net.responses.modify index fun response =>
      { response with closes := response.closes + 1 } }

def closeClient (net : Net) (index : Nat) : Net :=
  { net with clients := net.clients.modify index (· + 1) }

/-- The number of responses handed out and not closed. -/
def openResponses (net : Net) : Nat := net.responses.countP fun response => response.closes = 0

/-- The number of clients created and not closed. -/
def openClients (net : Net) : Nat := net.clients.countP (· = 0)

end Net

/-- What taking the next piece of a body gives. -/
inductive Pull where
  | bytes (data : Bytes)
  | ended
  | broken (reason : String)
  | systemFailure (text : String)

/-- Take chunks up to the first that is not empty.  After a failure nothing is
left. -/
def Pull.next : List Chunk -> Pull × List Chunk
  | [] => (.ended, [])
  | .bytes [] :: rest => Pull.next rest
  | .bytes data :: rest => (.bytes data, rest)
  | .broken reason :: _ => (.broken reason, [])
  | .systemFailure text :: _ => (.systemFailure text, [])

/-- The bytes that a body gives before it ends or fails. -/
def Chunk.deliverable : List Chunk -> Bytes
  | .bytes data :: rest => data ++ Chunk.deliverable rest
  | _ => []

/-- A piece is never empty, and together with what is left it is all that was
there. -/
theorem Pull.deliverable_of_next_bytes {chunks rest : List Chunk} {data : Bytes}
    (pulled : Pull.next chunks = (.bytes data, rest)) :
    data ≠ [] ∧ Chunk.deliverable chunks = data ++ Chunk.deliverable rest := by
  induction chunks with
  | nil => cases pulled
  | cons chunk chunks inductive_step =>
    cases chunk with
    | bytes piece =>
      cases piece with
      | nil => exact inductive_step pulled
      | cons byte bytes =>
        cases pulled
        exact ⟨List.cons_ne_nil byte bytes, rfl⟩
    | broken reason => cases pulled
    | systemFailure text => cases pulled

/-- A pull that gives no piece finds nothing to give, and leaves nothing. -/
theorem Pull.deliverable_of_next_not_bytes {chunks : List Chunk}
    (without : ∀ data, (Pull.next chunks).1 ≠ .bytes data) :
    Chunk.deliverable chunks = [] ∧ (Pull.next chunks).2 = [] := by
  induction chunks with
  | nil => exact ⟨rfl, rfl⟩
  | cons chunk chunks inductive_step =>
    cases chunk with
    | bytes piece =>
      cases piece with
      | nil => exact inductive_step without
      | cons byte bytes => exact absurd rfl (without (byte :: bytes))
    | broken reason => exact ⟨rfl, rfl⟩
    | systemFailure text => exact ⟨rfl, rfl⟩

/-- Take the next piece of the body of a response.  The first time, the chunk
size is put on account. -/
def Net.pull (net : Net) (index : Nat) (chunkSize : Int) : Pull × Net :=
  match net.responses[index]? with
  | none => (.ended, net)
  | some response =>
    let (pulled, rest) := Pull.next response.chunks
    (pulled,
      { net with
        chunkSizes := if response.begun then net.chunkSizes else net.chunkSizes.push chunkSize
        responses := net.responses.setIfInBounds index
          { response with chunks := rest, begun := true } })

end ResumableStreams
