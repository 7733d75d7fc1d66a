import ResumableStreams.Host
import ResumableStreams.Proofs.Offering

namespace ResumableStreams

/-!
# Whose stream it is

Many streams may live on one host, and what is done with one of them is not
noticed by whoever uses another.  Of a source that is open, this is shown in
the same way as of the buffers of a machine.  What a reader of the source uses
is listed: the devices of its stream, and the response from which it receives.
A read leads from one list to the next, and touches nothing that is not
listed.  The disk is never touched.

What is offered depends on nothing but what is listed and the disk.  Only a
request draws on the network, which is common to all.
-/

/-- A stream in a larger state is read at the place where its own state is
kept. -/
theorem Stream.fill_lift {State Outer : Type} {stream : Stream State} (place : Place Outer State)
    {readInto : Lent -> State -> Filling × State} (plain : stream.receive = none)
    (reads : stream.readInto = some readInto) (concurrency : Concurrency) (lent : Lent)
    (outer : Outer) :
    (stream.lift place).fill concurrency lent outer = place.run (readInto lent) outer := by
  cases concurrency with
  | blocking =>
    simp only [fill, lift, plain, reads, Option.map_none, Option.map_some]
    rfl
  | asynchronous => simp only [fill, lift, reads, Option.map_some]

namespace Host

/-! ## Parts of a host in use -/

/-- A part of a host that one of its users may have for itself. -/
inductive Asset where
  | device (handle : Handle)
  | response (index : Nat)

def Has (host : Host) : Asset -> Prop
  | .device handle => handle < host.devices.size
  | .response index => index < host.net.responses.size

/-- The part is the same on both hosts. -/
def Asset.Same (before after : Host) : Asset -> Prop
  | .device handle => after.devices[handle]? = before.devices[handle]?
  | .response index => after.net.responses[index]? = before.net.responses[index]?

theorem Asset.Same.trans {before between after : Host} {asset : Asset}
    (first : asset.Same before between) (second : asset.Same between after) :
    asset.Same before after := by
  cases asset with
  | device handle => exact Eq.trans second first
  | response index => exact Eq.trans second first

/-- Work leads from a host of which the parts `uses` are in use to one of which
`left` are.  Nothing else is different, except that there may be more. -/
structure Moves (before : Host) (uses : List Asset) (after : Host) (left : List Asset) : Prop where
  disk : after.disk = before.disk
  has : ∀ {asset}, before.Has asset -> after.Has asset
  same : ∀ {asset}, before.Has asset -> asset ∉ uses -> asset.Same before after
  held : ∀ asset ∈ left, after.Has asset
  origin : ∀ asset ∈ left, asset ∈ uses ∨ ¬ before.Has asset

variable {before between after : Host} {uses middle left : List Asset}

theorem Moves.refl (held : ∀ asset ∈ uses, before.Has asset) : before.Moves uses before uses where
  disk := rfl
  has := id
  same := by
    intro asset _ _
    cases asset <;> rfl
  held := held
  origin := fun _ member => .inl member

theorem Moves.letGo {fewer : List Asset} (moves : before.Moves uses after left)
    (among : ∀ asset ∈ fewer, asset ∈ left) : before.Moves uses after fewer :=
  { moves with
    held := fun asset member => moves.held asset (among asset member)
    origin := fun asset member => moves.origin asset (among asset member) }

theorem Moves.letGoAll (moves : before.Moves uses after left) : before.Moves uses after [] :=
  moves.letGo (List.forall_mem_nil _)

/-- What exists and is not in use does not come into use. -/
theorem Moves.not_mem (moves : before.Moves uses after left) {asset : Asset}
    (held : before.Has asset) (unused : asset ∉ uses) : asset ∉ left := by
  intro member
  rcases moves.origin asset member with known | new
  · exact unused known
  · exact new held

theorem Moves.trans (first : before.Moves uses between middle)
    (second : between.Moves middle after left) : before.Moves uses after left where
  disk := second.disk.trans first.disk
  has := fun held => second.has (first.has held)
  same := by
    intro asset held apart
    have apart' : asset ∉ middle := first.not_mem held apart
    exact (first.same held apart).trans (second.same (first.has held) apart')
  held := second.held
  origin := by
    intro asset member
    rcases second.origin asset member with known | new
    · exact first.origin asset known
    · exact .inr fun held => new (first.has held)

theorem moves_setDevice {handle : Handle} (used : .device handle ∈ uses)
    (held : ∀ asset ∈ uses, before.Has asset) (device : Device) :
    before.Moves uses (before.setDevice handle device) uses := by
  have kept {asset : Asset} (there : before.Has asset) :
      (before.setDevice handle device).Has asset := by
    cases asset with
    | device other =>
      show other < (before.devices.setIfInBounds handle device).size
      rw [Array.size_setIfInBounds]
      exact there
    | response index => exact there
  refine ⟨rfl, kept, ?_, fun asset member => kept (held asset member), fun _ => .inl⟩
  intro asset _ apart
  cases asset with
  | device other =>
    have different : handle ≠ other := by
      rintro rfl
      exact apart used
    exact Array.getElem?_setIfInBounds_ne different
  | response index => rfl

/-- Where another network takes the place of the one before, it differs in
nothing but the response in use and new ones. -/
theorem moves_net {net : Net} {response later : Option Nat}
    (held : ∀ asset ∈ uses, before.Has asset)
    (among : ∀ index, response = some index -> .response index ∈ uses)
    (touches : before.net.Touches response later net)
    (there : ∀ index, later = some index -> index < net.responses.size) :
    before.Moves uses { before with net := net } (uses ++ later.toList.map .response) := by
  have kept {asset : Asset} (held' : before.Has asset) : Has { before with net := net } asset := by
    cases asset with
    | device handle => exact held'
    | response index => exact Nat.lt_of_lt_of_le held' touches.size
  have given {asset : Asset} (member : asset ∈ later.toList.map Asset.response) :
      ∃ index, later = some index ∧ asset = .response index := by
    rcases List.mem_map.mp member with ⟨index, listed, rfl⟩
    exact ⟨index, Option.mem_toList.mp listed, rfl⟩
  refine ⟨rfl, kept, ?_, ?_, ?_⟩
  · intro asset held' apart
    cases asset with
    | device handle => rfl
    | response index => exact touches.others index held' fun same => apart (among index same)
  · intro asset member
    rcases List.mem_append.mp member with inUse | new
    · exact kept (held asset inUse)
    · rcases given new with ⟨index, same, rfl⟩
      exact there index same
  · intro asset member
    rcases List.mem_append.mp member with inUse | new
    · exact .inl inUse
    · rcases given new with ⟨index, same, rfl⟩
      rcases touches.origin index same with old | added
      · exact .inl (among index old)
      · exact .inr (Nat.not_lt.mpr added)

theorem moves_add (held : ∀ asset ∈ uses, before.Has asset) (device : Device) :
    before.Moves uses (before.add device).2 (.device (before.add device).1 :: uses) := by
  have kept {asset : Asset} (there : before.Has asset) : (before.add device).2.Has asset := by
    cases asset with
    | device handle =>
      show handle < (before.devices.push device).size
      rw [Array.size_push]
      exact Nat.lt_succ_of_lt there
    | response index => exact there
  have new : (before.add device).2.Has (.device (before.add device).1) := by
    show before.devices.size < (before.devices.push device).size
    rw [Array.size_push]
    exact Nat.lt_succ_self _
  refine ⟨rfl, kept, ?_, ?_, ?_⟩
  · intro asset there _
    cases asset with
    | device handle =>
      show (before.devices.push device)[handle]? = _
      rw [Array.getElem?_push, if_neg (Nat.ne_of_lt there)]
    | response index => rfl
  · intro asset member
    rcases List.mem_cons.mp member with rfl | inUse
    · exact new
    · exact kept (held asset inUse)
  · intro asset member
    rcases List.mem_cons.mp member with rfl | inUse
    · exact .inr (Nat.lt_irrefl _)
    · exact .inl inUse

/-! ## Files behind local streams -/

/-- What a local stream reads. -/
inductive Medium where
  | memory
  | disk

/-- What is still to be read of the file under a handle. -/
inductive Stores (host : Host) (inner : Handle) : Medium -> Bytes -> Prop where
  | memory {source : MemoryFile} : host.devices[inner]? = some (.memoryFile source) ->
      source.closed = false -> Stores host inner .memory source.unread
  | disk {source : OpenFile} : host.devices[inner]? = some (.openFile source) -> source.Reads ->
      Stores host inner .disk (source.coming host.disk)

variable {first host other : Host} {handle inner : Handle} {medium : Medium} {content : Bytes}

theorem has_of_found {device : Device} (found : host.devices[handle]? = some device) :
    host.Has (.device handle) :=
  (Array.getElem?_eq_some_iff.mp found).1

theorem found_setDevice (there : host.Has (.device handle)) (device : Device) :
    (host.setDevice handle device).devices[handle]? = some device :=
  Array.getElem?_setIfInBounds_self_of_lt there

theorem found_setDevice_of_ne (different : handle ≠ inner) (device : Device) :
    (host.setDevice handle device).devices[inner]? = host.devices[inner]? :=
  Array.getElem?_setIfInBounds_ne different

theorem Stores.has (stores : host.Stores inner medium content) : host.Has (.device inner) := by
  cases stores with
  | memory found _ => exact has_of_found found
  | disk found _ => exact has_of_found found

theorem Stores.retained (stores : host.Stores inner medium content)
    (same : other.devices[inner]? = host.devices[inner]?) (disk : other.disk = host.disk) :
    other.Stores inner medium content := by
  cases stores with
  | memory found opened => exact .memory (same.trans found) opened
  | disk found reads => exact disk ▸ .disk (same.trans found) reads

theorem asFile_memoryFile {file : MemoryFile}
    (found : host.devices[inner]? = some (.memoryFile file)) :
    (host.stream inner).asFile = MemoryFile.stream.lift (memoryPlace inner file) := by
  simp only [stream, streamBelow, found]
  rfl

theorem asFile_openFile {file : OpenFile}
    (found : host.devices[inner]? = some (.openFile file)) :
    (host.stream inner).asFile = OpenFile.stream.lift (filePlace inner file) := by
  simp only [stream, streamBelow, found]
  rfl

theorem isFile_memoryFile {file : MemoryFile}
    (found : host.devices[inner]? = some (.memoryFile file)) :
    (host.stream inner).isFile = true := by
  simp only [stream, streamBelow, found]
  rfl

/-- Reading takes what comes next, and of the host nothing but the file is
different. -/
theorem Stores.fill {before buffer : Bytes} (made : first.Stores inner medium before)
    (stores : host.Stores inner medium content) (room : buffer ≠ []) :
    ∃ device, (first.stream inner).asFile.unplugged.fill .blocking ⟨buffer, true⟩ host =
        ((⟨buffer, true⟩ : Lent).put (content.take buffer.length), host.setDevice inner device) ∧
      (host.setDevice inner device).Stores inner medium (content.drop buffer.length) := by
  have there := stores.has
  cases stores with
  | @memory source found opened =>
    cases made with
    | @memory source' found' _ =>
      refine ⟨.memoryFile (source.advance (source.unread.take buffer.length).length), ?_, ?_⟩
      · rw [asFile_memoryFile found', Stream.unplugged_eq rfl rfl, Stream.fill_lift _ rfl rfl]
        simp only [Stream.Place.run, memoryPlace, found, MemoryFile.readInto, opened,
          MemoryFile.next, Lent.size]
        rfl
      · have unread : (source.advance (source.unread.take buffer.length).length).unread =
            source.unread.drop buffer.length := by
          rw [MemoryFile.unread_advance, List.length_take, ← List.drop_eq_drop_min]
        exact unread ▸ .memory (found_setDevice there _) opened
  | @disk source found reads =>
    cases made with
    | @disk source' found' _ =>
      rcases reads.readInto host.disk room with ⟨after, read, readsAfter, coming⟩
      refine ⟨.openFile after, ?_, ?_⟩
      · rw [asFile_openFile found', Stream.unplugged_eq rfl rfl, Stream.fill_lift _ rfl rfl]
        simp only [Stream.Place.run, filePlace, found, read]
      · rw [← coming]
        exact .disk (found_setDevice there _) readsAfter

/-- A file that can be read can be closed. -/
theorem Stores.close (stores : host.Stores inner medium content) :
    ∃ close device, (host.stream inner).asFile.close = some close ∧
      close host = (none, host.setDevice inner device) := by
  cases stores with
  | @memory source found opened =>
    refine ⟨(memoryPlace inner source).run fun file => (none, { file with closed := true }),
      .memoryFile { source with closed := true }, ?_, ?_⟩
    · rw [asFile_memoryFile found]
      rfl
    · simp only [Stream.Place.run, memoryPlace, found]
  | @disk source found reads =>
    have settled : source.settle host.disk = (source, host.disk) := by
      have same : { source with unsaved := none } = source := by rw [← reads.saved]
      simp only [OpenFile.settle, reads.saved, same]
    refine ⟨(filePlace inner source).run OpenFile.close,
      .openFile { source with closes := source.closes + 1 }, ?_, ?_⟩
    · rw [asFile_openFile found]
      rfl
    · simp only [Stream.Place.run, filePlace, found, OpenFile.close, settled]

/-! ## Streams of sources -/

/-- How the stream of a source is made: as a local stream before a file, or as
that of a body. -/
inductive Make where
  | before (inner : Handle) (medium : Medium)
  | body

/-- What the stream under a handle offers, whether it may ask the network for
it, and the parts of the host on which this depends. -/
inductive Offers (answerOf : String -> Answer) (host : Host) (handle : Handle) :
    Make -> (asks : Bool) -> (uses : List Asset) -> Offering -> Prop where
  | before {asks : Bool} {concurrency : Concurrency} {inner : Handle} {medium : Medium}
      {file : LocalFile} {content : Bytes} :
      host.devices[handle]? = some (.localFile concurrency inner file) -> inner < handle ->
      file.forgotten = false -> host.Stores inner medium content ->
      Offers answerOf host handle (.before inner medium) asks [.device handle, .device inner]
        ⟨content, none⟩
  | body {asks : Bool} {response : Option Nat} {offering : Offering} {body : HttpBody} :
      host.devices[handle]? = some (.http body) ->
      HttpBody.Offers answerOf (body, host.net) asks response offering ->
      Offers answerOf host handle .body asks (.device handle :: response.toList.map .response)
        offering

variable {answerOf : String -> Answer} {make : Make} {asks : Bool} {offering : Offering}

theorem Offers.held (offers : host.Offers answerOf handle make asks uses offering) :
    ∀ asset ∈ uses, host.Has asset := by
  intro asset member
  cases offers with
  | before found smaller remembered stores =>
    rcases List.mem_cons.mp member with rfl | behind
    · exact has_of_found found
    · rcases List.mem_singleton.mp behind with rfl
      exact stores.has
  | body found offers =>
    rcases List.mem_cons.mp member with rfl | given
    · exact has_of_found found
    · rcases List.mem_map.mp given with ⟨index, listed, rfl⟩
      exact offers.lt_size (Option.mem_toList.mp listed)

theorem Offers.retained (offers : host.Offers answerOf handle make asks uses offering)
    (same : ∀ asset ∈ uses, asset.Same host other) (disk : other.disk = host.disk) :
    other.Offers answerOf handle make asks uses offering := by
  cases offers with
  | before found smaller remembered stores =>
    have here : other.devices[handle]? = host.devices[handle]? := same _ List.mem_cons_self
    have there : other.devices[_]? = host.devices[_]? :=
      same _ (List.mem_cons_of_mem _ List.mem_cons_self)
    exact .before (here.trans found) smaller remembered (stores.retained there disk)
  | body found offers =>
    have here : other.devices[handle]? = host.devices[handle]? := same _ List.mem_cons_self
    refine .body (here.trans found) (offers.retained fun index given => ?_)
    exact same (.response index) (List.mem_cons_of_mem _
      (List.mem_map.mpr ⟨index, Option.mem_toList.mpr given, rfl⟩))

/-- A local stream is read by reading the file behind it. -/
theorem fill_localFile {concurrency concurrency' : Concurrency} {file file' : LocalFile}
    (made : first.devices[handle]? = some (.localFile concurrency inner file'))
    (smaller : inner < handle)
    (found : host.devices[handle]? = some (.localFile concurrency' inner file))
    (remembered : file.forgotten = false) (asked : Concurrency) (lent : Lent) :
    let read := (first.stream inner).asFile.unplugged.fill .blocking lent host
    (first.stream handle).fill asked lent host =
      (read.1, read.2.setDevice handle
        (.localFile concurrency inner (file.countRead read.1.reply))) := by
  rw [stream_localFile made smaller, Stream.fill_lift _ rfl rfl]
  simp only [Stream.Place.run, localPlace, found, LocalFile.readInto_of_remembered remembered]

/-- What is offered to a local stream is offered to the file behind it. -/
theorem offer_localFile {concurrency : Concurrency} {file : LocalFile}
    (found : host.devices[handle]? = some (.localFile concurrency inner file))
    (smaller : inner < handle) (remembered : file.forgotten = false) (asked : Concurrency)
    (lent : Lent) :
    let wrote := (host.stream inner).asFile.unplugged.offer .blocking lent host
    (host.stream handle).offer asked lent host =
      (wrote.1, wrote.2.setDevice handle
        (.localFile concurrency inner (file.countWritten wrote.1))) := by
  have offers : (host.stream handle).offer asked lent host =
      (localPlace handle concurrency inner file).run
        (LocalFile.write (host.stream inner).asFile lent) host := by
    rw [stream_localFile found smaller]
    cases asked <;> rfl
  rw [offers]
  simp only [Stream.Place.run, localPlace, found, LocalFile.write_of_remembered remembered]

/-- A local stream is flushed by flushing the file behind it. -/
theorem flush_localFile {concurrency : Concurrency} {file : LocalFile} {after : Host}
    {flush : Host -> Option Fault × Host}
    (found : host.devices[handle]? = some (.localFile concurrency inner file))
    (smaller : inner < handle) (remembered : file.forgotten = false)
    (flushes : (host.stream inner).asFile.flush = some flush) (flushed : flush host = (none, after)) :
    host.flush handle =
      (.ok (), after.setDevice handle (.localFile concurrency inner file)) := by
  simp only [Host.flush, stream_localFile found smaller, Stream.lift, LocalFile.stream,
    Option.map_some, Stream.Place.run, localPlace, found, LocalFile.flush, remembered, flushes,
    flushed]

/-- A local stream closes a file of its own and forgets it. -/
theorem close_localFile {concurrency : Concurrency} {file : LocalFile} {after : Host}
    {close : Host -> Option Fault × Host}
    (found : host.devices[handle]? = some (.localFile concurrency inner file))
    (smaller : inner < handle) (remembered : file.forgotten = false) (owned : file.owned = true)
    (closes : (host.stream inner).asFile.close = some close) (closed : close host = (none, after)) :
    host.close handle = (.ok (), after.setDevice handle
      (.localFile concurrency inner { file with forgotten := true })) := by
  simp only [Host.close, stream_localFile found smaller, Stream.lift, LocalFile.stream,
    Option.map_some, Stream.Place.run, localPlace, found, LocalFile.close, owned, remembered, closes,
    closed, Bool.not_false, Bool.and_self, Option.isNone_none]

/-- A local stream leaves a file alone that was handed in. -/
theorem close_localFile_of_not_owned {concurrency : Concurrency} {file : LocalFile}
    (found : host.devices[handle]? = some (.localFile concurrency inner file))
    (smaller : inner < handle) (owned : file.owned = false) :
    host.close handle =
      (.ok (), host.setDevice handle (.localFile concurrency inner file)) := by
  simp only [Host.close, stream_localFile found smaller, Stream.lift, LocalFile.stream,
    Option.map_some, Stream.Place.run, localPlace, found, LocalFile.close, owned, Bool.false_and]

theorem stream_http {body : HttpBody} (found : host.devices[handle]? = some (.http body)) :
    host.stream handle = (HttpBody.stream body.concurrency).lift (httpPlace handle body) := by
  simp only [stream, streamBelow, found]

/-- Storing a device and then another that stands before it. -/
theorem Stores.moves_before {device before : Device} (found : host.Has (.device handle))
    (smaller : inner < handle) (there : host.Has (.device inner))
    (storesAfter : (host.setDevice inner device).Stores inner medium content) :
    let after := (host.setDevice inner device).setDevice handle before
    host.Moves [.device handle, .device inner] after [.device handle, .device inner] ∧
      after.devices[handle]? = some before ∧ after.Stores inner medium content := by
  intro after
  have held : ∀ asset ∈ [Asset.device handle, .device inner], host.Has asset := by
    intro asset member
    rcases List.mem_cons.mp member with rfl | behind
    · exact found
    · exact List.mem_singleton.mp behind ▸ there
  have inUse : Asset.device inner ∈ [Asset.device handle, .device inner] :=
    List.mem_cons_of_mem _ List.mem_cons_self
  have moves := moves_setDevice inUse held device
  refine ⟨moves.trans (moves_setDevice List.mem_cons_self moves.held before),
    found_setDevice (moves.has found) before, ?_⟩
  exact storesAfter.retained (found_setDevice_of_ne (Nat.ne_of_gt smaller) before) rfl

/-- Where another state of its network takes the place of the one before, a
body is put back. -/
theorem moves_body {body : HttpBody} {net : Net} {response later : Option Nat}
    (held : ∀ asset ∈ Asset.device handle :: response.toList.map .response, host.Has asset)
    (touches : host.net.Touches response later net)
    (there : ∀ index, later = some index -> index < net.responses.size) :
    let after := { host with net := net }.setDevice handle (.http body)
    host.Moves (.device handle :: response.toList.map .response) after
        (.device handle :: later.toList.map .response) ∧
      after.devices[handle]? = some (.http body) := by
  intro after
  have known : ∀ index, response = some index ->
      Asset.response index ∈ Asset.device handle :: response.toList.map .response := by
    rintro index rfl
    exact List.mem_cons_of_mem _ List.mem_cons_self
  have moves := moves_net held known touches there
  refine ⟨(moves.trans (moves_setDevice List.mem_cons_self moves.held _)).letGo ?_,
    found_setDevice (moves.has (held _ List.mem_cons_self)) _⟩
  intro asset member
  rcases List.mem_cons.mp member with rfl | given
  · exact List.mem_cons_self
  · exact List.mem_cons_of_mem _ (List.mem_append_right _ given)

/-- Reading the stream of a source takes from what it offers.  The network is
asked at most once. -/
theorem Offers.fill {uses' : List Asset} {asks' : Bool} {before : Offering} {count : Nat}
    {buffer : Bytes} (made : first.Offers answerOf handle make asks' uses' before)
    (offers : host.Offers answerOf handle make asks uses offering)
    (answers : Net.Answers answerOf (count + asks.toNat) host.net.script) (room : buffer ≠ [])
    (concurrency : Concurrency) :
    let read := (first.stream handle).fill concurrency ⟨buffer, true⟩ host
    ∃ failed left later, offering.Fills buffer read.1 failed later ∧
      read.2.Offers answerOf handle make failed left later ∧
      Net.Answers answerOf count read.2.net.script ∧ host.Moves uses read.2 left := by
  intro read
  have held := offers.held
  cases offers with
  | @before _ concurrency' inner _ file content found smaller remembered stores =>
    cases made with
    | before found' _ _ made =>
      rcases made.fill stores room with ⟨device, filled, storesAfter⟩
      have reads : read = _ := fill_localFile found' smaller found remembered concurrency _
      rw [filled] at reads
      rcases storesAfter.moves_before (has_of_found found) smaller stores.has with
        ⟨moves, here, there⟩
      rw [reads]
      refine ⟨false, _, _, Offering.fills_put room content,
        .before here smaller remembered there, answers.unasked, moves⟩
  | @body _ response _ body found offers =>
    cases made with
    | @body _ _ _ body' found' _ =>
      have reads : read = (httpPlace handle body').run (HttpBody.readInto ⟨buffer, true⟩) host := by
        simp only [read, stream_http found']
        exact Stream.fill_lift _ rfl rfl _ _ _
      simp only [Stream.Place.run, httpPlace, found] at reads
      rcases offers.readInto answers room with
        ⟨failed, left, later, fills, offersAfter, rest, touches⟩
      rcases moves_body held touches fun index given => offersAfter.lt_size given with ⟨moves, here⟩
      rw [reads]
      exact ⟨failed, _, later, fills, .body here offersAfter, rest, moves⟩

/-- The stream of a source can be closed. -/
theorem Offers.close (offers : host.Offers answerOf handle make asks uses offering) :
    ∃ after, host.close handle = (.ok (), after) ∧ host.Moves uses after [] ∧
      after.net.script = host.net.script := by
  have held := offers.held
  cases offers with
  | @before _ concurrency inner _ file _ found smaller remembered stores =>
    cases owned : file.owned with
    | false =>
      exact ⟨_, close_localFile_of_not_owned found smaller owned,
        (moves_setDevice List.mem_cons_self held _).letGoAll, rfl⟩
    | true =>
      rcases stores.close with ⟨close, device, closes, closed⟩
      have inUse : Asset.device inner ∈ [Asset.device handle, .device inner] :=
        List.mem_cons_of_mem _ List.mem_cons_self
      have moves := moves_setDevice inUse held device
      exact ⟨_, close_localFile found smaller remembered owned closes closed,
        (moves.trans (moves_setDevice List.mem_cons_self moves.held _)).letGoAll, rfl⟩
  | @body _ response _ body found offers =>
    rcases HttpBody.close_touches (body, host.net) with ⟨script, touches⟩
    rw [offers.response_eq] at touches
    have closing : host.close handle = (.ok (), { host with
        net := (HttpBody.close (body, host.net)).2 }.setDevice handle
          (.http (HttpBody.close (body, host.net)).1)) := by
      simp only [Host.close, stream_http found, Stream.lift, HttpBody.stream, Option.map_some,
        Stream.Place.run, httpPlace, found]
    exact ⟨_, closing, (moves_body held touches (by rintro _ ⟨⟩)).1.letGoAll, script⟩

/-! ## Opening a source -/

/-- What opening a source comes to, of which one may know what it offers. -/
inductive Opens (answerOf : String -> Answer) (host : Host) (asks : Bool) (uses : List Asset) :
    Except Fault Offering -> Except Fault Handle × Host -> Prop where
  | refused (fault : Fault) : Opens answerOf host asks uses (.error fault) (.error fault, host)
  | opened {handle : Handle} {make : Make} {left : List Asset} {offering : Offering}
      {after : Host} : after.Offers answerOf handle make asks left offering ->
      host.Moves uses after left -> after.net = host.net ->
      Opens answerOf host asks uses (.ok offering) (.ok handle, after)

theorem found_add (host : Host) (device : Device) :
    (host.add device).2.devices[host.devices.size]? = some device :=
  Array.getElem?_push_size

theorem found_add_of_has (there : host.Has (.device inner)) (device : Device) :
    (host.add device).2.devices[inner]? = host.devices[inner]? := by
  show (host.devices.push device)[inner]? = _
  rw [Array.getElem?_push, if_neg (Nat.ne_of_lt there)]

/-- A file in memory that is handed in is read from where it stands. -/
theorem opens_stream (answerOf : String -> Answer) (asks : Bool) {source : MemoryFile}
    (found : host.devices[inner]? = some (.memoryFile source)) (opened : source.closed = false)
    (concurrency : Concurrency) (mode : String) :
    Opens answerOf host asks [.device inner] (.ok ⟨source.unread, none⟩)
      (host.openSource concurrency (.stream inner) mode) := by
  have there := has_of_found found
  have opens : host.openSource concurrency (.stream inner) mode =
      (.ok host.devices.size, (host.add (.localFile concurrency inner (.fresh false))).2) := by
    simp only [openSource, openLocal, isFile_memoryFile found, if_true, add]
  have held : ∀ asset ∈ [Asset.device inner], host.Has asset := by
    intro asset member
    rcases List.mem_singleton.mp member with rfl
    exact there
  have moves := moves_add held (.localFile concurrency inner (.fresh false))
  have stores : (host.add (.localFile concurrency inner (.fresh false))).2.Stores inner .memory
      source.unread := .memory ((found_add_of_has there _).trans found) opened
  rw [opens]
  exact .opened (.before (host.found_add _) there rfl stores) moves rfl

/-- A file has been opened under one handle, and a local stream of its own stands
before it. -/
structure Opened (before : Host) (concurrency : Concurrency) (file : OpenFile)
    (handle inner : Handle) (after : Host) : Prop where
  stands : after.devices[handle]? = some (.localFile concurrency inner (.fresh true))
  smaller : inner < handle
  file : after.devices[inner]? = some (.openFile file)
  moves : before.Moves [] after [.device handle, .device inner]
  net : after.net = before.net

/-- What can be opened at a path is opened there. -/
theorem openLocal_text {path mode : String} {parsed : Mode} {location : Location} {disk : Disk}
    (concurrency : Concurrency) (known : Mode.parse mode = .ok parsed)
    (binary : parsed.text = false) (clean : path.toList.contains '\x00' = false)
    (opened : host.disk.openPath path parsed = .ok (location, disk)) :
    ∃ handle inner after, host.openLocal concurrency (.text path) mode = (.ok handle, after) ∧
      Opened { host with disk := disk } concurrency (.start location parsed disk) handle inner
        after := by
  let base : Host := { host with disk := disk }
  let file : Device := .openFile (.start location parsed disk)
  let before : Device := .localFile concurrency base.devices.size (.fresh true)
  have opens : host.openLocal concurrency (.text path) mode =
      (.ok (base.add file).2.devices.size, ((base.add file).2.add before).2) := by
    simp only [openLocal, openPath, known, clean, opened, binary]
    rfl
  have none_used : ∀ asset ∈ ([] : List Asset), base.Has asset := nofun
  have moves := moves_add none_used file
  have there := moves.held _ List.mem_cons_self
  exact ⟨_, base.devices.size, _, opens,
    { stands := found_add _ _
      smaller := there
      file := (found_add_of_has there _).trans (base.found_add file)
      moves := moves.trans (moves_add moves.held _)
      net := rfl }⟩

/-- What is handed in as a text is read from the network or from the disk. -/
theorem opens_text (answerOf : String -> Answer) (host : Host) (concurrency : Concurrency)
    (text : String) :
    Opens answerOf host (isAddress text) []
      (if isAddress text then .ok ((answerOf text).offering text) else host.disk.offering text)
      (host.openSource concurrency (.text text) Mode.source) := by
  have none_used : ∀ asset ∈ ([] : List Asset), host.Has asset := nofun
  by_cases address : isAddress text
  · have opens : host.openSource concurrency (.text text) Mode.source = (.ok host.devices.size,
        (host.add (.http (.fresh concurrency text HttpBody.defaultChunkSize))).2) := by
      simp only [openSource, openHttp, address, if_true, add]
    rw [if_pos address, opens, address]
    exact .opened (.body (host.found_add _) (.unsent ⟨rfl, rfl⟩)) (moves_add none_used _) rfl
  · have opens : host.openSource concurrency (.text text) Mode.source =
        host.openLocal concurrency (.text text) Mode.source := by
      simp only [openSource, if_neg address]
    have mode : Mode.parse Mode.source = .ok ⟨.reading, false, false⟩ := by rfl
    rw [if_neg address, opens, Disk.offering]
    by_cases null : text.toList.contains '\x00'
    · have refuses : host.openLocal concurrency (.text text) Mode.source =
          (.error .nullInPath, host) := by
        simp only [openLocal, openPath, mode, null]
      rw [if_pos null, refuses]
      exact .refused _
    · rw [if_neg null]
      have noNull : text.toList.contains '\x00' = false := eq_false_of_ne_true null
      cases opened : host.disk.openPath text ⟨.reading, false, false⟩ with
      | error refusal =>
        have refuses : host.openLocal concurrency (.text text) Mode.source =
            (.error (.system refusal), host) := by
          simp only [openLocal, openPath, mode, noNull, opened]
        rw [refuses]
        exact .refused _
      | ok found =>
        rcases found with ⟨location, disk⟩
        cases Disk.openPath_reading opened
        rcases openLocal_text concurrency mode rfl noNull opened with
          ⟨handle, inner, after, opens, isOpen⟩
        rcases OpenFile.reads_start location host.disk with ⟨reads, coming⟩
        have stores : after.Stores inner .disk _ := .disk isOpen.file reads
        rw [isOpen.moves.disk, coming] at stores
        rw [opens]
        exact .opened (.before isOpen.stands isOpen.smaller rfl stores) isOpen.moves isOpen.net

end Host

end ResumableStreams
