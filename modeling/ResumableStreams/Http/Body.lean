import ResumableStreams.Http.Net
import ResumableStreams.Stream

namespace ResumableStreams

/-!
# The body of a GET response as a stream

The request is sent when the stream is first read.  The body comes in chunks
of any length; what a buffer cannot hold waits for the next read.  Closing
the stream closes the response, and reading after that sends a new request.

There are two classes of such streams.  A blocking stream sends its request
through clients that are not its own.  An asynchronous stream creates a client
with each request, and closes it with the stream, or at once if the request
fails in a way that belongs to the transport.
-/

/-- The stream of one body. -/
structure HttpBody where
  url : String
  concurrency : Concurrency
  chunkSize : Int
  bytesRead : Nat
  contentLength : Option Int
  /-- What has come off the network and waits to be read. -/
  pending : Bytes
  response : Option Nat
  /-- Only an asynchronous stream ever has one. -/
  client : Option Nat

namespace HttpBody

/-- The chunk size where none is asked for. -/
def defaultChunkSize : Int := 65536

/-- A stream that has not sent its request. -/
def fresh (concurrency : Concurrency) (url : String) (chunkSize : Int) : HttpBody :=
  ⟨url, concurrency, chunkSize, 0, none, [], none, none⟩

/-- Take over the length that a response announces.  An empty announcement
counts as none. -/
def announced (body : HttpBody) (contentLength : Option String) : Except Fault HttpBody :=
  match contentLength with
  | none | some "" => .ok body
  | some text =>
    match Text.readInteger text with
    | .value length => .ok { body with contentLength := some length }
    | .malformed => .error (.notAnInteger text)
    | .tooManyDigits count => .error (.tooManyDigits count)

/-- Wait for bytes to read, unless some are there. -/
def ensurePending : HttpBody × Net -> Option Fault × (HttpBody × Net)
  | (body, net) =>
    match body.pending, body.response with
    | [], some index =>
      let (pulled, net) := net.pull index body.chunkSize
      match pulled with
      | .bytes data => (none, ({ body with pending := data }, net))
      | .ended => (none, (body, net))
      | .broken reason => (some (.transport (.brokenBody body.url reason)), (body, net))
      | .systemFailure text => (some (.systemText text), (body, net))
    | _, _ => (none, (body, net))

/-- Hand out what waits, up to the given length. -/
def deliver (length : Nat) (body : HttpBody) : Bytes × HttpBody :=
  let data := body.pending.take length
  (data,
    { body with
      pending := body.pending.drop length
      bytesRead := body.bytesRead + data.length })

/-! ## Blocking streams -/

namespace Blocking

/-- Close the response, if there is one.  What waits to be read is not dropped. -/
def close : HttpBody × Net -> HttpBody × Net
  | (body, net) =>
    match body.response with
    | none => (body, net)
    | some index => ({ body with response := none }, net.closeResponse index)

/-- Send the request and take up the response.  A response whose status is
refused is closed.  The stream itself is not closed, whatever goes wrong. -/
def send : HttpBody × Net -> Option Fault × (HttpBody × Net)
  | (body, net) =>
    let (answer, net) := net.get body.url
    match answer with
    | .notConnected reason => (some (.transport (.notConnected reason)), (body, net))
    | .systemFailure text => (some (.systemText text), (body, net))
    | .response status contentLength chunks =>
      let (index, net) := net.handOut chunks
      if status ≥ 400 then (some (.refused status), (body, net.closeResponse index))
      else
        match body.announced contentLength with
        | .error fault => (some fault, (body, net))
        | .ok body => (none, ({ body with response := some index }, net))

/-- Send the request unless there is a response already. -/
def ensureResponse (state : HttpBody × Net) : Option Fault × List Event × (HttpBody × Net) :=
  match state.1.response with
  | some _ => (none, [], state)
  | none =>
    let (fault, after) := send state
    (fault, [.sendingGet .blocking state.1.url], after)

/-- Read into a buffer.  Whether it can hold the bytes shows when they are
there; if it cannot, they go on waiting. -/
def readInto (lent : Lent) (state : HttpBody × Net) : Filling × (HttpBody × Net) :=
  let (fault, events, state) := ensureResponse state
  let noting := fun (filling : Filling) => { filling with events := events }
  match fault with
  | some fault => (noting (lent.untouched (.raised fault)), state)
  | none =>
    let (fault, (body, net)) := ensurePending state
    match fault with
    | some fault => (noting (lent.untouched (.raised fault)), (body, net))
    | none =>
      if lent.mutable then
        let (data, body) := body.deliver lent.size
        (noting (lent.put data), (body, net))
      else (noting (lent.untouched (.raised .immutableBytes)), (body, net))

end Blocking

/-! ## Asynchronous streams -/

namespace Asynchronous

/-- Close the response, and then the client, if there are any.  What waits to be
read is not dropped. -/
def close : HttpBody × Net -> HttpBody × Net
  | (body, net) =>
    let (body, net) : HttpBody × Net :=
      match body.response with
      | none => (body, net)
      | some index => ({ body with response := none }, net.closeResponse index)
    match body.client with
    | none => (body, net)
    | some index => ({ body with client := none }, net.closeClient index)

/-- Create a client, send the request through it, and take up the response.  The
stream closes itself if there is no connection, or if the status is refused. -/
def send : HttpBody × Net -> Option Fault × (HttpBody × Net)
  | (body, net) =>
    let (client, net) := net.addClient
    let body := { body with client := some client }
    let (answer, net) := net.get body.url
    match answer with
    | .notConnected reason => (some (.transport (.notConnected reason)), close (body, net))
    | .systemFailure text => (some (.systemText text), (body, net))
    | .response status contentLength chunks =>
      let (index, net) := net.handOut chunks
      if status ≥ 400 then (some (.refused status), close (body, net.closeResponse index))
      else
        match body.announced contentLength with
        | .error fault => (some fault, (body, net))
        | .ok body => (none, ({ body with response := some index }, net))

/-- Send the request unless there is a response already. -/
def ensureResponse (state : HttpBody × Net) : Option Fault × List Event × (HttpBody × Net) :=
  match state.1.response with
  | some _ => (none, [], state)
  | none =>
    let (fault, after) := send state
    (fault, [.sendingGet .asynchronous state.1.url], after)

/-- Read into a buffer, once a response and bytes have been waited for. -/
def readInto (lent : Lent) (state : HttpBody × Net) : Filling × (HttpBody × Net) :=
  let (fault, events, state) := ensureResponse state
  let noting := fun (filling : Filling) => { filling with events := events }
  match fault with
  | some fault => (noting (lent.untouched (.raised fault)), state)
  | none =>
    let (fault, (body, net)) := ensurePending state
    match fault with
    | some fault => (noting (lent.untouched (.raised fault)), (body, net))
    | none =>
      if lent.mutable then
        let (data, body) := body.deliver lent.size
        (noting (lent.put data), (body, net))
      else (noting (lent.untouched (.raised .immutableBytes)), (body, net))

end Asynchronous

/-! ## Streams of either class -/

/-- Read into a buffer in the way of the stream's class. -/
def readInto (lent : Lent) (state : HttpBody × Net) : Filling × (HttpBody × Net) :=
  match state.1.concurrency with
  | .blocking => Blocking.readInto lent state
  | .asynchronous => Asynchronous.readInto lent state

/-- Close the stream in the way of its class. -/
def close (state : HttpBody × Net) : HttpBody × Net :=
  match state.1.concurrency with
  | .blocking => Blocking.close state
  | .asynchronous => Asynchronous.close state

def kind : Concurrency -> String
  | .blocking => "HTTPStream"
  | .asynchronous => "HTTPAsyncStream"

def stream (concurrency : Concurrency) : Stream (HttpBody × Net) where
  kind := kind concurrency
  concurrency := concurrency
  readInto := some readInto
  write := some fun _ state => (.raised (.unsupported "HTTP body streams are read-only"), state)
  close := some fun state => (none, close state)

end HttpBody

end ResumableStreams
