import ResumableStreams.Disk.OpenFile
import ResumableStreams.Disk.TextFile
import ResumableStreams.Http.Body
import ResumableStreams.Stream.Duplex
import ResumableStreams.Stream.LocalFile
import ResumableStreams.Stream.MemoryFile
import ResumableStreams.Stream.Scripted
import ResumableStreams.Stream.SocketPair

namespace ResumableStreams

/-!
# The host of streams

A `Host` holds everything that streams can change: the disk, the network,
and the streams themselves, each under a handle.  A local stream refers to
the stream before which it stands by a smaller handle, so following such
references comes to an end.
-/

/-- The name of a stream in a host. -/
abbrev Handle := Nat

/-- A stream of a host. -/
inductive Device where
  | memoryFile (file : MemoryFile)
  | scripted (concurrency : Concurrency) (faces : Faces) (stream : Scripted)
  /-- One end of a connected pair; `second` tells which. -/
  | socket (pair : Nat) (second : Bool)
  | duplex (stream : Duplex)
  | openFile (file : OpenFile)
  | textFile (file : TextFile)
  | localFile (concurrency : Concurrency) (inner : Handle) (file : LocalFile)
  | http (body : HttpBody)

/-- Everything that streams can change. -/
structure Host where
  disk : Disk
  net : Net
  pairs : Array SocketPair
  devices : Array Device

namespace Host

def initial (disk : Disk) (net : Net) : Host := ⟨disk, net, #[], #[]⟩

def setDevice (host : Host) (handle : Handle) (device : Device) : Host :=
  { host with devices := host.devices.setIfInBounds handle device }

def add (host : Host) (device : Device) : Handle × Host :=
  (host.devices.size, { host with devices := host.devices.push device })

/-- Add the two ends of a new connection. -/
def addPair (host : Host) : Handle × Handle × Host :=
  let pair := host.pairs.size
  let host := { host with pairs := host.pairs.push ⟨.fresh, .fresh⟩ }
  let (first, host) := host.add (.socket pair false)
  let (second, host) := host.add (.socket pair true)
  (first, second, host)

/-! ## Where the state of each kind of stream is kept -/

open ResumableStreams.Stream (Place)

/-- The place of a file in memory.  Another device there reads as `initially`. -/
def memoryPlace (handle : Handle) (initially : MemoryFile) : Place Host MemoryFile where
  get host := match host.devices[handle]? with
    | some (.memoryFile file) => file
    | _ => initially
  put file host := host.setDevice handle (.memoryFile file)

def scriptedPlace (handle : Handle) (concurrency : Concurrency) (faces : Faces)
    (initially : Scripted) : Place Host Scripted where
  get host := match host.devices[handle]? with
    | some (.scripted _ _ stream) => stream
    | _ => initially
  put stream host := host.setDevice handle (.scripted concurrency faces stream)

/-- The place of a connection, seen from one end. -/
def socketPlace (pair : Nat) (second : Bool) : Place Host SocketPair where
  get host :=
    let ends := host.pairs.getD pair ⟨.fresh, .fresh⟩
    if second then ends.swap else ends
  put ends host :=
    { host with pairs := host.pairs.setIfInBounds pair (if second then ends.swap else ends) }

def duplexPlace (handle : Handle) (initially : Duplex) : Place Host Duplex where
  get host := match host.devices[handle]? with
    | some (.duplex stream) => stream
    | _ => initially
  put stream host := host.setDevice handle (.duplex stream)

/-- The place of an open file, together with the disk. -/
def filePlace (handle : Handle) (initially : OpenFile) : Place Host (OpenFile × Disk) where
  get host := match host.devices[handle]? with
    | some (.openFile file) => (file, host.disk)
    | _ => (initially, host.disk)
  put state host := { host with disk := state.2 }.setDevice handle (.openFile state.1)

/-- The place of a file opened as text, together with the disk. -/
def textPlace (handle : Handle) (initially : TextFile) : Place Host (TextFile × Disk) where
  get host := match host.devices[handle]? with
    | some (.textFile file) => (file, host.disk)
    | _ => (initially, host.disk)
  put state host := { host with disk := state.2 }.setDevice handle (.textFile state.1)

/-- The place of a body, together with the network. -/
def httpPlace (handle : Handle) (initially : HttpBody) : Place Host (HttpBody × Net) where
  get host := match host.devices[handle]? with
    | some (.http body) => (body, host.net)
    | _ => (initially, host.net)
  put state host := { host with net := state.2 }.setDevice handle (.http state.1)

/-- The place of what a local stream keeps, together with the whole host, in
which the file lies. -/
def localPlace (handle : Handle) (concurrency : Concurrency) (inner : Handle)
    (initially : LocalFile) : Place Host (LocalFile × Host) where
  get host := match host.devices[handle]? with
    | some (.localFile _ _ file) => (file, host)
    | _ => (initially, host)
  put state _ := state.2.setDevice handle (.localFile concurrency inner state.1)

/-- The stream under a handle below a bound.  A handle without a device has no
operations, and neither has a local stream that does not stand before a
smaller handle. -/
def streamBelow (host : Host) : (bound : Nat) -> Handle -> Stream Host
  | 0, _ => { kind := "NoneType" }
  | bound + 1, handle =>
    match host.devices[handle]? with
    | none => { kind := "NoneType" }
    | some (.memoryFile file) => MemoryFile.stream.lift (memoryPlace handle file)
    | some (.scripted concurrency faces stream) =>
      (Scripted.stream concurrency faces).lift (scriptedPlace handle concurrency faces stream)
    | some (.socket pair second) => SocketPair.stream.lift (socketPlace pair second)
    | some (.duplex stream) => Duplex.stream.lift (duplexPlace handle stream)
    | some (.openFile file) => OpenFile.stream.lift (filePlace handle file)
    | some (.textFile file) => TextFile.stream.lift (textPlace handle file)
    | some (.http body) => (HttpBody.stream body.concurrency).lift (httpPlace handle body)
    | some (.localFile concurrency inner file) =>
      if inner < handle then
        (LocalFile.stream concurrency (host.streamBelow bound inner).asFile).lift
          (localPlace handle concurrency inner file)
      else { kind := "NoneType" }

def stream (host : Host) (handle : Handle) : Stream Host :=
  host.streamBelow (handle + 1) handle

/-- Any two bounds above a handle give the same stream. -/
theorem streamBelow_eq (host : Host) {first second handle : Nat} (below : handle < first)
    (belowSecond : handle < second) :
    host.streamBelow first handle = host.streamBelow second handle := by
  induction first generalizing second handle with
  | zero => omega
  | succ first inductive_step =>
    cases second with
    | zero => omega
    | succ second =>
      rw [streamBelow, streamBelow]
      cases found : host.devices[handle]? with
      | none => rfl
      | some device =>
        cases device with
        | localFile concurrency inner file =>
          by_cases smaller : inner < handle
          · have same := inductive_step (Nat.lt_of_lt_of_le smaller (Nat.le_of_lt_succ below))
              (Nat.lt_of_lt_of_le smaller (Nat.le_of_lt_succ belowSecond))
            simp only [smaller, same]
          · simp only [smaller, if_false]
        | _ => rfl

/-- A local stream stands before the stream under the smaller handle. -/
theorem stream_localFile {host : Host} {handle inner : Handle} {concurrency : Concurrency}
    {file : LocalFile} (found : host.devices[handle]? = some (.localFile concurrency inner file))
    (smaller : inner < handle) :
    host.stream handle =
      (LocalFile.stream concurrency (host.stream inner).asFile).lift
        (localPlace handle concurrency inner file) := by
  have same : host.streamBelow handle inner = host.stream inner :=
    host.streamBelow_eq smaller (Nat.lt_succ_self inner)
  simp only [stream, streamBelow, found, smaller, if_true] at same ⊢
  rw [same]

end Host

/-! ## Opening and closing -/

/-- What can be opened: a text, which is a path or an address; a path value;
or a stream that is there already. -/
inductive Source where
  | text (text : String)
  | path (path : String)
  | stream (handle : Handle)

/-- A text is an address if it starts in one of two ways.  Case matters. -/
def isAddress (text : String) : Bool := text.startsWith "http://" || text.startsWith "https://"

namespace Host

/-- Open a path in the given mode.  A mode that is wrong in itself is refused
first, a mode without a purpose only after the path. -/
def openPath (host : Host) (path mode : String) : Except Fault Handle × Host :=
  match Mode.parse mode, path.toList.contains '\x00' with
  | .error .noPurpose, true | .ok _, true => (.error .nullInPath, host)
  | .error bad, _ => (.error (.badMode bad), host)
  | .ok mode, false =>
    match host.disk.openPath path mode with
    | .error refusal => (.error (.system refusal), host)
    | .ok (location, disk) =>
      let file : Device :=
        if mode.text then .textFile (.start location mode disk)
        else .openFile (.start location mode disk)
      let (handle, host) := { host with disk := disk }.add file
      (.ok handle, host)

/-- Open a local stream before a stream that is there, or before the file at a
path.  What can stand for no file is taken for a path, and is none. -/
def openLocal (host : Host) (concurrency : Concurrency) (source : Source) (mode : String) :
    Except Fault Handle × Host :=
  let before := fun (host : Host) (inner : Handle) (owned : Bool) =>
    let (handle, host) := host.add (.localFile concurrency inner (.fresh owned))
    ((.ok handle, host) : Except Fault Handle × Host)
  let beforePath := fun (path : String) =>
    match host.openPath path mode with
    | (.error fault, host) => (.error fault, host)
    | (.ok inner, host) => before host inner true
  match source with
  | .stream inner =>
    if (host.stream inner).isFile then before host inner false
    else if mode.toList.contains '\x00' then (.error (.badMode .containsNull), host)
    else (.error (.notAPath (host.stream inner).kind), host)
  | .text path => beforePath path
  | .path path => beforePath (Path.normalize path)

/-- Open a stream for a body.  No request is sent yet. -/
def openHttp (host : Host) (concurrency : Concurrency) (url : String) (chunkSize : Int) :
    Handle × Host :=
  host.add (.http (.fresh concurrency url chunkSize))

/-- Open whatever a source is: an address as the stream of its body, anything
else as a local stream. -/
def openSource (host : Host) (concurrency : Concurrency) (source : Source) (mode : String) :
    Except Fault Handle × Host :=
  let address := match source with
    | .text text => if isAddress text then some text else none
    | .path path => if isAddress (Path.normalize path) then some (Path.normalize path) else none
    | .stream _ => none
  match address with
  | some url =>
    let (handle, host) := host.openHttp concurrency url HttpBody.defaultChunkSize
    (.ok handle, host)
  | none => host.openLocal concurrency source mode

/-- Stop sending on the socket under a handle. -/
def finishSending (host : Host) (handle : Handle) : Except Fault Unit × Host :=
  match host.devices[handle]? with
  | some (.socket pair second) =>
    match (socketPlace pair second).run SocketPair.finishSending host with
    | (none, host) => (.ok (), host)
    | (some fault, host) => (.error fault, host)
  | _ => (.error (.lacks (host.stream handle).kind "shutdown"), host)

def flush (host : Host) (handle : Handle) : Except Fault Unit × Host :=
  let stream := host.stream handle
  match stream.flush with
  | none => (.error (.lacks stream.kind "flush"), host)
  | some flush =>
    match flush host with
    | (none, host) => (.ok (), host)
    | (some fault, host) => (.error fault, host)

def close (host : Host) (handle : Handle) : Except Fault Unit × Host :=
  let stream := host.stream handle
  match stream.close with
  | none => (.error (.lacks stream.kind "close"), host)
  | some close =>
    match close host with
    | (none, host) => (.ok (), host)
    | (some fault, host) => (.error fault, host)

/-! ## Scopes

A stream may be used in a scope, at the end of which it is closed.
-/

/-- The runtime in whose scopes the stream under a handle can be used.  Scripted
streams have no scopes. -/
def scopeOf (host : Host) (handle : Handle) : Option Concurrency :=
  match host.devices[handle]? with
  | none | some (.scripted _ _ _) => none
  | some _ => some (host.stream handle).concurrency

/-- Refuse a scope of a runtime in whose scopes the stream under a handle cannot
be used. -/
def checkScope (host : Host) (concurrency : Concurrency) (handle : Handle)
    (operation : String) : Except Fault Unit :=
  if host.scopeOf handle = some concurrency then .ok ()
  else
    .error (.lacks (host.stream handle).kind (match concurrency with
      | .blocking => "__" ++ operation ++ "__"
      | .asynchronous => "__a" ++ operation ++ "__"))

/-- Enter a scope in which the stream under a handle is used.  Only a file in
memory minds being closed before. -/
def enter (host : Host) (concurrency : Concurrency) (handle : Handle) : Except Fault Unit := do
  host.checkScope concurrency handle "enter"
  match host.devices[handle]? with
  | some (.memoryFile file) => if file.closed then .error .closedFile else .ok ()
  | _ => .ok ()

/-- Leave a scope in which the stream under a handle was used. -/
def exit (host : Host) (concurrency : Concurrency) (handle : Handle) :
    Except Fault Unit × Host :=
  match host.checkScope concurrency handle "exit" with
  | .error fault => (.error fault, host)
  | .ok () => host.close handle

/-! ## Letting go

Nothing can be done any more with a stream that nobody holds.  A file there
is closed, so what waits in it goes to the disk.
-/

/-- A handle and the handles of all streams before which its stream stands. -/
def chainBelow (host : Host) : (bound : Nat) -> Handle -> List Handle
  | 0, _ => []
  | bound + 1, handle =>
    handle :: match host.devices[handle]? with
      | some (.localFile _ inner _) => if inner < handle then host.chainBelow bound inner else []
      | _ => []

/-- There is an open file under the handle. -/
def holdsOpenFile (host : Host) (handle : Handle) : Bool :=
  match host.devices[handle]? with
  | some (.openFile file) => file.closes = 0
  | some (.textFile file) => file.closes = 0
  | _ => false

/-- Let go of all streams but the given ones and those before which they
stand. -/
def retain (host : Host) (held : List Handle) : Host :=
  let chains := held.flatMap fun handle => host.chainBelow (handle + 1) handle
  (List.range host.devices.size).foldl
    (fun host handle =>
      if chains.contains handle || !host.holdsOpenFile handle then host
      else (host.close handle).2)
    host

end Host

end ResumableStreams
