import ResumableStreams.Proofs.Conduct
import ResumableStreams.Proofs.Possession
import ResumableStreams.Proofs.Twins

namespace ResumableStreams

/-!
# Transfers release what they have opened

On a host, a transfer is the procedure of driving, flushing and closing the
stream that it has opened.  A host keeps no record of what is done to a file.
Take therefore the same procedure on a stream whose file keeps one: nothing but
the record tells the two apart.  So what is known of the record is known of the
file on the host.

The file at a path has been closed once, whatever the transfer has come to.  It
counts this itself, and the record is the reason.
-/

/-! ## Procedures side by side -/

section

variable {State Other : Type}

/-- Whatever is done with `other` is done as with `stream`. -/
structure Stream.Mirrors (related : State -> Other -> Prop) (concurrency asked : Concurrency)
    (stream : Stream State) (other : Stream Other) : Prop extends
    stream.Imitates related concurrency asked other where
  kind : other.kind = stream.kind
  flush : Option.Rel (Alongside related) stream.flush other.flush
  close : Option.Rel (Alongside related) stream.close other.close

namespace Procedure

variable {First Second Result Kind Value : Type} {related : State -> Other -> Prop}

/-- The two procedures have the same result or stop with the same fault, with
the same in the buffers and in states that correspond. -/
inductive Agree (related : State -> Other -> Prop) :
    EStateM.Result Fault (Context State) Result -> EStateM.Result Fault (Context Other) Result ->
      Prop
  | ok (result : Result) {first : Context State} {second : Context Other} :
    first.Beside related second -> Agree related (.ok result first) (.ok result second)
  | error (fault : Fault) {first : Context State} {second : Context Other} :
    first.Beside related second -> Agree related (.error fault first) (.error fault second)

/-- The two procedures agree wherever they begin side by side. -/
def Agrees (related : State -> Other -> Prop) (procedure : Procedure State Result)
    (same : Procedure Other Result) : Prop :=
  ∀ first second, first.Beside related second -> Agree related (procedure first) (same second)

theorem agrees_pure (result : Result) :
    Agrees related (Pure.pure result) (Pure.pure result) := fun _ _ beside => .ok result beside

theorem Agrees.bind {procedure : Procedure State First} {same : Procedure Other First}
    {next : First -> Procedure State Second} {next' : First -> Procedure Other Second}
    (agrees : Agrees related procedure same)
    (later : ∀ result, Agrees related (next result) (next' result)) :
    Agrees related (procedure >>= next) (same >>= next') := by
  intro first second beside
  have agree := agrees first second beside
  simp only [Bind.bind, EStateM.bind]
  generalize procedure first = given at agree ⊢
  generalize same second = given' at agree ⊢
  cases agree with
  | ok result after => exact later result _ _ after
  | error fault after => exact .error fault after

theorem Agrees.thenAlways {procedure : Procedure State Result} {same : Procedure Other Result}
    {last : Procedure State Unit} {last' : Procedure Other Unit}
    (agrees : Agrees related procedure same) (lastAgrees : Agrees related last last') :
    Agrees related (Procedure.thenAlways procedure last) (Procedure.thenAlways same last') := by
  intro first second beside
  have agree := agrees first second beside
  unfold Procedure.thenAlways
  generalize procedure first = given at agree ⊢
  generalize same second = given' at agree ⊢
  cases agree with
  | ok result after =>
    have closed := lastAgrees _ _ after
    dsimp only
    generalize last _ = given at closed ⊢
    generalize last' _ = given' at closed ⊢
    cases closed with
    | ok _ closed => exact .ok result closed
    | error fault closed => exact .error fault closed
  | error fault after =>
    have closed := lastAgrees _ _ after
    dsimp only
    generalize last _ = given at closed ⊢
    generalize last' _ = given' at closed ⊢
    cases closed with
    | ok _ closed => exact .error fault closed
    | error closing closed => exact .error closing closed

theorem agrees_construct (build : Memory -> Construction Kind) :
    Agrees related (construct build) (construct build) := by
  intro first second beside
  unfold construct
  rw [beside.memory]
  cases built : (build first.memory).result with
  | ok machine =>
    simp only [built]
    exact .ok machine ⟨rfl, beside.state⟩
  | error fault =>
    simp only [built]
    exact .error fault ⟨rfl, beside.state⟩

variable {stream : State -> Stream State} {other : Other -> Stream Other}
  {concurrency asked : Concurrency}
  (mirrors : ∀ {first second}, related first second ->
    (stream first).Mirrors related concurrency asked (other second))

include mirrors

theorem agrees_driveToValue [Resumable Kind Value] (limit : Nat) (machine : Kind) :
    Agrees related (driveToValue stream concurrency limit machine)
      (driveToValue other asked limit machine) := by
  intro first second beside
  have drives := (mirrors beside.state).drive limit machine beside
  unfold driveToValue
  simp only [drives.ending]
  split
  · exact .ok _ drives.context
  · exact .error _ drives.context
  · exact .error _ drives.context

omit mirrors in
/-- What a caller learns who flushes or closes a stream. -/
theorem agrees_ask {name : String}
    {operation : (Kind : Type) -> Stream Kind -> Option (Kind -> Option Fault × Kind)}
    (kind : ∀ {first second}, related first second -> (other second).kind = (stream first).kind)
    (alongside : ∀ {first second}, related first second ->
      Option.Rel (Alongside related) (operation _ (stream first)) (operation _ (other second))) :
    Agrees related (ask stream name (operation State)) (ask other name (operation Other)) := by
  intro first second beside
  have same := kind beside.state
  have does := alongside beside.state
  unfold ask
  generalize operation State (stream first.state) = given at does ⊢
  generalize operation Other (other second.state) = given' at does ⊢
  cases does with
  | none =>
    simp only [same]
    exact .error _ beside
  | @some asks asks' alongside =>
    have agree := alongside first.state second.state beside.state
    dsimp only
    generalize asks first.state = given at agree ⊢
    generalize asks' second.state = given' at agree ⊢
    rcases given with ⟨fault, after⟩
    rcases given' with ⟨fault', after'⟩
    rcases agree with ⟨rfl, after⟩
    cases fault' with
    | none => exact .ok () ⟨beside.memory, after⟩
    | some fault => exact .error fault ⟨beside.memory, after⟩

theorem agrees_use [Resumable Kind Value] (limit : Nat) (build : Memory -> Construction Kind) :
    Agrees related (use stream concurrency limit build) (use other asked limit build) := by
  apply (agrees_construct build).bind
  intro machine
  exact agrees_driveToValue mirrors limit machine

theorem agrees_close :
    Agrees related (ask stream "close" Stream.close) (ask other "close" Stream.close) :=
  agrees_ask (fun beside => (mirrors beside).kind) fun beside => (mirrors beside).close

/-- Reading transfers agree. -/
theorem agrees_read [Resumable Kind Bytes] (limit : Nat) (build : Memory -> Construction Kind) :
    Agrees related (read stream concurrency limit build) (read other asked limit build) :=
  (agrees_use mirrors limit build).thenAlways (agrees_close mirrors)

/-- Writing transfers agree. -/
theorem agrees_write [Resumable Kind Nat] (limit : Nat) (build : Memory -> Construction Kind) :
    Agrees related (write stream concurrency limit build) (write other asked limit build) := by
  refine Agrees.thenAlways ?_ (agrees_close mirrors)
  apply (agrees_use mirrors limit build).bind
  intro written
  have flushes : Agrees related (ask stream "flush" Stream.flush) (ask other "flush" Stream.flush) :=
    agrees_ask (fun beside => (mirrors beside).kind) fun beside => (mirrors beside).flush
  apply flushes.bind
  intro _
  exact agrees_pure written

end Procedure

end

/-! ## A record beside a host -/

namespace LocalFile

variable {State Other : Type} {related : State -> Other -> Prop}

/-- The local streams have kept the same, and the files are in states that
correspond. -/
inductive Beside (related : State -> Other -> Prop) : LocalFile × State -> LocalFile × Other -> Prop
  | mk (file : LocalFile) {first : State} {second : Other} :
    related first second -> Beside related (file, first) (file, second)

variable {inner : Stream State} {other : Stream Other}
  (mirrors : inner.unplugged.Mirrors related .blocking .blocking other.unplugged)

include mirrors

theorem alongside_readInto_of_mirrors (lent : Lent) {first : LocalFile × State}
    {second : LocalFile × Other} (beside : Beside related first second) :
    let read := readInto inner lent first
    let same := readInto other lent second
    same.1.contents = read.1.contents ∧ same.1.reply = read.1.reply ∧
      Beside related read.2 same.2 := by
  rcases beside with ⟨file, beside⟩
  cases forgotten : file.forgotten with
  | true =>
    simp only [readInto, forgotten, if_true]
    exact ⟨trivial, trivial, .mk file beside⟩
  | false =>
    rcases mirrors.fill beside lent with ⟨contents, reply, after⟩
    simp only [readInto_of_remembered forgotten, contents, reply]
    exact ⟨trivial, trivial, .mk _ after⟩

theorem alongside_write_of_mirrors (lent : Lent) :
    Alongside (Beside related) (write inner lent) (write other lent) := by
  rintro _ _ ⟨file, beside⟩
  cases forgotten : file.forgotten with
  | true =>
    simp only [write, forgotten, if_true]
    exact ⟨trivial, .mk file beside⟩
  | false =>
    rcases mirrors.offer beside lent with ⟨reply, after⟩
    simp only [write_of_remembered forgotten, reply]
    exact ⟨trivial, .mk _ after⟩

theorem alongside_flush_of_mirrors :
    Alongside (Beside related) (flush inner) (flush other) := by
  rintro _ _ ⟨file, beside⟩
  have flushes : Option.Rel (Alongside related) inner.flush other.flush := mirrors.flush
  unfold flush
  generalize inner.flush = given at flushes ⊢
  generalize other.flush = given' at flushes ⊢
  cases forgotten : file.forgotten with
  | true =>
    simp only [forgotten]
    exact ⟨trivial, .mk file beside⟩
  | false =>
    cases flushes with
    | none =>
      simp only [forgotten]
      exact ⟨trivial, .mk file beside⟩
    | some alongside =>
      rcases alongside _ _ beside with ⟨same, after⟩
      simp only [forgotten, same]
      exact ⟨trivial, .mk file after⟩

theorem alongside_close_of_mirrors :
    Alongside (Beside related) (close inner) (close other) := by
  rintro _ _ ⟨file, beside⟩
  have closes : Option.Rel (Alongside related) inner.close other.close := mirrors.close
  unfold close
  generalize inner.close = given at closes ⊢
  generalize other.close = given' at closes ⊢
  cases mine : file.owned && !file.forgotten with
  | false =>
    simp only [mine]
    exact ⟨trivial, .mk file beside⟩
  | true =>
    cases closes with
    | none =>
      simp only [mine]
      exact ⟨trivial, .mk file beside⟩
    | some alongside =>
      rcases alongside _ _ beside with ⟨same, after⟩
      simp only [mine, same]
      exact ⟨trivial, .mk _ after⟩

end LocalFile

/-- A file that keeps a record does what it does without. -/
theorem Stream.mirrors_traced {State : Type} {related : State -> State -> Prop}
    {file : Stream State} (respects : file.Respects related) :
    file.traced.unplugged.Mirrors (fun traced state => related traced.2 state) .blocking .blocking
      file.unplugged where
  fill := by
    rintro ⟨calls, first⟩ second beside lent
    rcases respects.unplugged.fill lent first second beside with ⟨same, after⟩
    exact ⟨congrArg Filling.contents same, congrArg Filling.reply same, after⟩
  offer := by
    rintro ⟨calls, first⟩ second beside lent
    exact respects.unplugged.offer lent first second beside
  kind := rfl
  flush := by
    cases has : file.flush with
    | none =>
      simp only [unplugged, traced, has]
      exact .none
    | some flush =>
      simp only [unplugged, traced, has]
      apply Option.Rel.some
      rintro ⟨calls, first⟩ second beside
      exact respects _ _ (.flush has) first second beside
  close := by
    cases has : file.close with
    | none =>
      simp only [unplugged, traced, has]
      exact .none
    | some close =>
      simp only [unplugged, traced, has]
      apply Option.Rel.some
      rintro ⟨calls, first⟩ second beside
      exact respects _ _ (.close has) first second beside

namespace Host

variable {handle inner : Handle} {concurrency : Concurrency} {owned : Bool}

/-- The hosts are the same but for what a local stream under the handle keeps,
which has not been used on the first. -/
def Aside (concurrency : Concurrency) (handle inner : Handle) (owned : Bool)
    (first second : Host) : Prop :=
  ∃ file, Differs handle (.localFile concurrency inner (.fresh owned))
    (.localFile concurrency inner file) first second

/-- The host is the one beside the record, but for the local stream under the
handle, which has kept what stands beside the record. -/
def Stands (concurrency : Concurrency) (handle inner : Handle) (owned : Bool)
    (both : LocalFile × (List FileCall × Host)) (host : Host) : Prop :=
  Differs handle (.localFile concurrency inner (.fresh owned))
    (.localFile concurrency inner both.1) both.2.2 host

theorem respects_aside (host : Host) (smaller : inner < handle) :
    (host.stream inner).asFile.Respects (Aside concurrency handle inner owned) := by
  rintro Answer operation does _ _ ⟨file, differs⟩
  rcases (host.respects_stream smaller).asFile Answer operation does _ _ differs with
    ⟨same, after⟩
  exact ⟨same, file, after⟩

/-- The local stream on the host keeps what the one beside the record keeps. -/
theorem corresponds_stands (initially : LocalFile) :
    (Stream.Place.mk id fun state _ => state).Corresponds (Stands concurrency handle inner owned)
      (LocalFile.Beside fun traced host => Aside concurrency handle inner owned traced.2 host)
      (localPlace handle concurrency inner initially) where
  get := by
    rintro ⟨file, calls, host⟩ second stands
    have found : second.devices[handle]? = some (.localFile concurrency inner file) :=
      Differs.found stands |>.2
    simp only [localPlace, found]
    exact .mk file ⟨file, stands⟩
  put := by
    rintro _ _ _ _ _ ⟨file, kept, differs⟩
    exact differs.replace_other _

/-- The local stream on the host does what the one beside the record does. -/
theorem Stands.mirrors (smaller : inner < handle) {first : LocalFile × (List FileCall × Host)}
    {second : Host} (stands : Stands concurrency handle inner owned first second) :
    (Procedure.before concurrency (fun host => (host.stream inner).asFile) first).Mirrors
      (Stands concurrency handle inner owned) concurrency concurrency (second.stream handle) := by
  have found : second.devices[handle]? = some (.localFile concurrency inner first.1) :=
    (Differs.found stands).2
  have behind : second.stream inner = first.2.2.stream inner := Differs.stream stands smaller
  have mirrors := Stream.mirrors_traced (@respects_aside _ _ concurrency owned first.2.2 smaller)
  have place := @corresponds_stands handle inner concurrency owned first.1
  rw [stream_localFile found smaller, behind]
  refine ⟨⟨?_, ?_⟩, rfl, ?_, ?_⟩
  · intro both host stands lent
    rw [Stream.fill_lift _ rfl rfl]
    have reads := LocalFile.alongside_readInto_of_mirrors mirrors lent (place.get stands)
    cases concurrency with
    | blocking => exact ⟨reads.1, reads.2.1, place.put stands reads.2.2⟩
    | asynchronous => exact ⟨reads.1, reads.2.1, place.put stands reads.2.2⟩
  · intro both host stands lent
    have writes := (LocalFile.alongside_write_of_mirrors mirrors lent).run place
    cases concurrency with
    | blocking => exact writes both host stands
    | asynchronous => exact writes both host stands
  · exact .some ((LocalFile.alongside_flush_of_mirrors mirrors).run place)
  · exact .some ((LocalFile.alongside_close_of_mirrors mirrors).run place)

end Host

/-! ## Files that count how often they are closed -/

namespace OpenFile

theorem closes_settle (file : OpenFile) (disk : Disk) :
    (file.settle disk).1.closes = file.closes := by
  unfold settle
  cases file.unsaved with
  | none => rfl
  | some waiting =>
    dsimp only
    split <;> rfl

theorem closes_rewind (file : OpenFile) (disk : Disk) :
    (file.rewind disk).1.closes = file.closes := by
  rw [← closes_settle file disk]
  unfold rewind
  dsimp only
  split <;> rfl

theorem closes_readOn (file : OpenFile) (count : Nat) (disk : Disk) :
    (file.readOn count disk).2.closes = file.closes := by
  unfold readOn
  dsimp only
  split
  · rfl
  · split
    · rfl
    · split <;> rfl

theorem closes_next (file : OpenFile) (count : Nat) (disk : Disk) :
    (file.next count disk).2.1.closes = file.closes := by
  unfold next
  dsimp only
  split
  · rfl
  · rw [closes_readOn]
    split
    · exact closes_rewind _ _
    · rfl

theorem closes_writeOn (file : OpenFile) (data : Bytes) (disk : Disk) :
    (file.writeOn data disk).1.closes = file.closes := by
  rw [← closes_settle file disk]
  unfold writeOn
  dsimp only
  split <;> rfl

/-- Only closing is counted. -/
theorem closes_readInto (lent : Lent) (state : OpenFile × Disk) :
    (readInto lent state).2.1.closes = state.1.closes := by
  unfold readInto
  dsimp only
  split
  · rfl
  · split
    · rfl
    · split
      · rfl
      · exact closes_next _ _ _

theorem closes_write (lent : Lent) (state : OpenFile × Disk) :
    (write lent state).2.1.closes = state.1.closes := by
  unfold write
  dsimp only
  split
  · rfl
  · split
    · rfl
    · generalize started : (if state.1.filled || state.1.unsaved.isSome then state.1
        else { state.1.dropBlock with anchor := 0 }) = file
      have same : file.closes = state.1.closes := by
        rw [← started]
        split <;> rfl
      rw [← same]
      dsimp only
      split
      · rfl
      · exact closes_writeOn _ _ _

theorem closes_flush (state : OpenFile × Disk) : (flush state).2.1.closes = state.1.closes := by
  unfold flush
  dsimp only
  split
  · rfl
  · dsimp only
    split
    · exact closes_rewind _ _
    · rfl

theorem closes_close (state : OpenFile × Disk) :
    (close state).2.1.closes = state.1.closes + 1 :=
  congrArg (· + 1) (closes_settle state.1 state.2)

end OpenFile

def FileCall.isClosed : FileCall -> Bool
  | .closed _ => true
  | .moved _ _ | .flushed _ => false

namespace Host

variable {inner : Handle} {host : Host}

/-- There is a file that has been closed as often as the record says. -/
def Counts (inner : Handle) (traced : List FileCall × Host) : Prop :=
  ∃ file, traced.2.devices[inner]? = some (.openFile file) ∧
    file.closes = traced.1.countP FileCall.isClosed

/-- The record is still right after a call that it holds. -/
theorem Counts.run {Answer : Type} {operation : OpenFile × Disk -> Answer × (OpenFile × Disk)}
    {calls : List FileCall} {call : FileCall} (counts : Counts inner (calls, host))
    (counted : ∀ state, (operation state).2.1.closes =
      state.1.closes + [call].countP FileCall.isClosed) (initially : OpenFile) :
    Counts inner (calls ++ [call], ((filePlace inner initially).run operation host).2) := by
  rcases counts with ⟨file, found, closes⟩
  have state : (filePlace inner initially).get host = (file, host.disk) := by
    simp only [filePlace, found]
  have there : Host.Has { host with disk := (operation (file, host.disk)).2.2 } (.device inner) :=
    has_of_found found
  refine ⟨(operation (file, host.disk)).2.1, ?_, ?_⟩
  · simp only [Stream.Place.run, state]
    exact found_setDevice there _
  · rw [counted, closes, List.countP_append]

/-- Whatever is done to the file, the record is right. -/
theorem Counts.keepsAlways {traced : List FileCall × Host} (counts : Counts inner traced) :
    (traced.2.stream inner).asFile.traced.KeepsAlways (Counts inner) := by
  rcases counts with ⟨file, found, -⟩
  rw [asFile_openFile found]
  let place := filePlace inner file
  refine ⟨⟨?_, ?_⟩, ?_, ?_⟩
  · rintro lent ⟨calls, host⟩ counts
    let reply := (place.run (OpenFile.readInto lent) host).1.reply
    exact @Counts.run _ _ _ (OpenFile.readInto lent) calls (.moved .read reply) counts
      (OpenFile.closes_readInto lent) file
  · rintro lent ⟨calls, host⟩ counts
    let reply := (place.run (OpenFile.write lent) host).1
    exact @Counts.run _ _ _ (OpenFile.write lent) calls (.moved .write reply) counts
      (OpenFile.closes_write lent) file
  · rintro _ ⟨calls, host⟩ ⟨⟩ counts
    let fault := (place.run OpenFile.flush host).1
    exact @Counts.run _ _ _ OpenFile.flush calls (.flushed fault) counts OpenFile.closes_flush file
  · rintro _ ⟨calls, host⟩ ⟨⟩ counts
    let fault := (place.run OpenFile.close host).1
    exact @Counts.run _ _ _ OpenFile.close calls (.closed fault) counts OpenFile.closes_close file

/-- A file that counts can be closed. -/
theorem Counts.closable {traced : List FileCall × Host} (counts : Counts inner traced) :
    (traced.2.stream inner).asFile.close.isSome := by
  rcases counts with ⟨file, found, -⟩
  rw [asFile_openFile found]
  rfl

end Host

/-! ## Opening -/

namespace Host

/-- A local source is refused and nothing has changed, or a local stream stands
before the file at a path, which has just been opened, or before the stream that
was handed in. -/
inductive Begins (host : Host) (concurrency : Concurrency) (source : Source) :
    Except Fault Handle × Host -> Prop
  | refused (fault : Fault) : Begins host concurrency source (.error fault, host)
  | own {handle inner : Handle} {file : OpenFile} {after : Host} :
      (∀ handed, source ≠ .stream handed) ->
      after.devices[handle]? = some (.localFile concurrency inner (.fresh true)) ->
      inner < handle -> after.devices[inner]? = some (.openFile file) -> file.closes = 0 ->
      Begins host concurrency source (.ok handle, after)
  | given {inner : Handle} : source = .stream inner -> inner < host.devices.size ->
      Begins host concurrency source
        (.ok host.devices.size, (host.add (.localFile concurrency inner (.fresh false))).2)

theorem begins_openLocal (host : Host) (concurrency : Concurrency) (source : Source) {mode : String}
    {parsed : Mode} (known : Mode.parse mode = .ok parsed) (binary : parsed.text = false) :
    host.Begins concurrency source (host.openLocal concurrency source mode) := by
  have path (text : String) (source : Source) (names : ∀ handed, source ≠ .stream handed) :
      host.Begins concurrency source (host.openLocal concurrency (.text text) mode) := by
    cases null : text.toList.contains '\x00' with
    | true =>
      have refused : host.openLocal concurrency (.text text) mode = (.error .nullInPath, host) := by
        simp only [openLocal, openPath, known, null]
      rw [refused]
      exact .refused _
    | false =>
      cases opened : host.disk.openPath text parsed with
      | error refusal =>
        have refused : host.openLocal concurrency (.text text) mode =
            (.error (.system refusal), host) := by
          simp only [openLocal, openPath, known, null, opened]
        rw [refused]
        exact .refused _
      | ok found =>
        rcases openLocal_text concurrency known binary null opened with
          ⟨handle, inner, after, opens, isOpen⟩
        rw [opens]
        exact .own names isOpen.stands isOpen.smaller isOpen.file rfl
  cases source with
  | text text =>
    apply path text
    intro handed same
    cases same
  | path text =>
    apply path (Path.normalize text)
    intro handed same
    cases same
  | stream inner =>
    unfold openLocal
    by_cases isFile : (host.stream inner).isFile = true
    · simp only [if_pos isFile]
      exact .given rfl (lt_size_of_isFile isFile)
    · simp only [if_neg isFile]
      split
      · exact .refused _
      · exact .refused _

end Host

/-! ## Whole transfers -/

/-- The result of a procedure, if it has come to one. -/
def Procedure.value? {State Result : Type} :
    EStateM.Result Fault (Context State) Result -> Option Result
  | .ok result _ => some result
  | .error _ _ => none

/-- What is done to a file between opening and returning: it is treated in some
way that is fair, as far as the result goes, and closed once if it is the stream's
own and not at all otherwise. -/
def Conducts {State Result : Type} (direction : Direction) (owned : Bool)
    (fair : Treatment -> Option Result -> Prop)
    (result : EStateM.Result Fault (Context (LocalFile × (List FileCall × State))) Result) : Prop :=
  ∃ treatment : Treatment, (Procedure.reached result).state.2.1 = treatment.calls direction ∧
    treatment.closes.length = (if owned then 1 else 0) ∧ fair treatment (Procedure.value? result)

namespace Treatment

/-- Nothing is flushed when reading. -/
def Reads {Result : Type} (treatment : Treatment) (_value : Option Result) : Prop :=
  treatment.flushes = []

/-- Moreover, what has been taken from the file is returned, and it is no less than
was asked for; and it is as much as was asked for, if from this state on the file
gives no more than it is asked for. -/
def ReadsExactly {State : Type} (file : Stream State) (state : State) (size : Int)
    (treatment : Treatment) (value : Option Bytes) : Prop :=
  treatment.Reads value ∧ ∀ bytes, value = some bytes ->
    totalMoved treatment.replies = bytes.length ∧ size ≤ totalMoved treatment.replies ∧
      ∀ holds, file.Moderate holds -> holds state -> totalMoved treatment.replies = size

/-- A file is flushed at most once, and only after it has taken the whole payload
without any error.  Nothing less is a success. -/
structure Writes (size : Nat) (treatment : Treatment) (value : Option Nat) : Prop where
  once : treatment.flushes.length ≤ 1
  flushed : treatment.flushes ≠ [] -> WriteAll.Took size treatment.replies
  succeeded : ∀ written, value = some written ->
    written = size ∧ WriteAll.Took size treatment.replies

end Treatment

/-- A procedure on any stream. -/
abbrev Routine (Result : Type) := (State : Type) -> (State -> Stream State) -> Procedure State Result

/-- What a routine does to any file before which a local stream stands, in any
states that the file does not leave. -/
def Routine.Behaves {Result : Type} (concurrency : Concurrency) (direction : Direction)
    (routine : Routine Result)
    (fair : (State : Type) -> Stream State -> State -> Memory -> Treatment -> Option Result -> Prop) :
    Prop :=
  ∀ {State : Type} (file : State -> Stream State) (holds : List FileCall × State -> Prop)
    (owned : Bool) (memory : Memory) (journal : Array Event) (state : State),
    (∀ {both}, holds both -> (file both.2).traced.KeepsAlways holds) ->
    (∀ {both}, owned = true -> holds both -> (file both.2).close.isSome) -> holds ([], state) ->
    let result := routine _ (Procedure.before concurrency file)
      ⟨memory, journal, (.fresh owned, ([], state))⟩
    Conducts direction owned (fair State (file state) state memory) result ∧
      holds (Procedure.reached result).state.2

section

variable (concurrency : Concurrency) (limit : Nat)

theorem Procedure.value?_eq_some {State Result : Type}
    {given : EStateM.Result Fault (Context State) Result} {result : Result}
    (value : Procedure.value? given = some result) : ∃ context, given = .ok result context := by
  cases given with
  | ok _ context =>
    cases value
    exact ⟨context, rfl⟩
  | error fault context => cases value

theorem ReadToEnd.behaves (capacity : Int) :
    Routine.Behaves concurrency .read
      (fun _ stream => Procedure.read stream concurrency limit (ReadToEnd.make capacity))
      fun _ _ _ _ => Treatment.Reads := by
  intro State file holds owned memory journal state keeps closable now result
  let start : Context (LocalFile × (List FileCall × State)) :=
    ⟨memory, journal, (.fresh owned, ([], state))⟩
  rcases Procedure.read_treats concurrency limit file start keeps closable ReadToEnd.goes rfl now with
    ⟨replies, closes, once, treated, -⟩
  exact ⟨⟨_, treated.calls, once, rfl⟩, treated.holds⟩

theorem ReadExact.behaves (size capacity : Int) :
    Routine.Behaves concurrency .read
      (fun _ stream => Procedure.read stream concurrency limit (ReadExact.make size capacity))
      fun _ file state _ => Treatment.ReadsExactly file state size := by
  intro State file holds owned memory journal state keeps closable now result
  let start : Context (LocalFile × (List FileCall × State)) :=
    ⟨memory, journal, (.fresh owned, ([], state))⟩
  rcases Procedure.read_treats concurrency limit file start keeps closable ReadExact.goes rfl now with
    ⟨replies, closes, once, treated, obtains⟩
  refine ⟨⟨_, treated.calls, once, rfl, ?_⟩, treated.holds⟩
  intro bytes value
  rcases Procedure.value?_eq_some value with ⟨context, succeeds⟩
  have obtained := obtains bytes context succeeds
  rcases obtained.gathered with ⟨moved, enough⟩
  rw [← moved]
  exact ⟨rfl, enough, fun fits moderate fit => obtained.exact moderate fit rfl⟩

theorem WriteAll.behaves (data : Buffer) :
    Routine.Behaves concurrency .write
      (fun _ stream => Procedure.write stream concurrency limit (WriteAll.build data))
      fun _ _ _ memory => Treatment.Writes (data.size memory) := by
  intro State file holds owned memory journal state keeps closable now result
  let start : Context (LocalFile × (List FileCall × State)) :=
    ⟨memory, journal, (.fresh owned, ([], state))⟩
  rcases Procedure.write_treats concurrency limit file start keeps closable WriteAll.goes rfl now with
    ⟨treatment, once, few, treated, flushed, obtains⟩
  refine ⟨⟨treatment, treated.calls, once, few, ?_, ?_⟩, treated.holds⟩
  · intro some_flushes
    rcases flushed some_flushes with ⟨value, obtained⟩
    exact obtained.took.2
  · intro written value
    rcases Procedure.value?_eq_some value with ⟨context, succeeds⟩
    exact (obtains written context succeeds).took

end

/-! ## Transfers on a host -/

/-- A routine comes to the same wherever its stream cannot be told apart. -/
def Routine.Uniform {Result : Type} (concurrency : Concurrency) (routine : Routine Result) : Prop :=
  ∀ {State Other : Type} {related : State -> Other -> Prop} {stream : State -> Stream State}
    {other : Other -> Stream Other},
    (∀ {first second}, related first second ->
      (stream first).Mirrors related concurrency concurrency (other second)) ->
    Procedure.Agrees related (routine State stream) (routine Other other)

/-- The same routine where the file under the handle keeps a record. -/
def Routine.recorded {Result : Type} (routine : Routine Result) (concurrency : Concurrency)
    (inner : Handle) (owned : Bool) (opened : Context Host) :
    EStateM.Result Fault (Context (LocalFile × (List FileCall × Host))) Result :=
  routine _ (Procedure.before concurrency fun host => (host.stream inner).asFile)
    ⟨opened.memory, opened.journal, (.fresh owned, ([], opened.state))⟩

/-- What a routine comes to on the stream that has been opened agrees with what it
comes to where the file keeps a record, and the record tells what has been done to
the file. -/
structure Recounts {Result : Type} (concurrency : Concurrency) (direction : Direction)
    (routine : Routine Result)
    (fair : (State : Type) -> Stream State -> State -> Memory -> Treatment -> Option Result -> Prop)
    (handle inner : Handle) (owned : Bool) (opened : Context Host)
    (result : EStateM.Result Fault (Context Host) Result) : Prop where
  agree : Procedure.Agree (Host.Stands concurrency handle inner owned)
    (Routine.recorded routine concurrency inner owned opened) result
  conducts : Conducts direction owned
    (fair Host (opened.state.stream inner).asFile opened.state opened.memory)
    (Routine.recorded routine concurrency inner owned opened)

section

variable {Result : Type} {concurrency : Concurrency} {direction : Direction}
  {routine : Routine Result} {handle inner : Handle} {owned : Bool}
  {fair : (State : Type) -> Stream State -> State -> Memory -> Treatment -> Option Result -> Prop}

/-- A transfer of a source either is refused, with everything as it was; or it
performs the routine on a stream before a file of its own, which has been closed
once in the end; or on a stream before what was handed in. -/
inductive Transfers (concurrency : Concurrency) (direction : Direction) (source : Source)
    (mode : String) (routine : Routine Result)
    (fair : (State : Type) -> Stream State -> State -> Memory -> Treatment -> Option Result -> Prop)
    (context : Context Host) : EStateM.Result Fault (Context Host) Result -> Prop
  | refused {fault : Fault} :
      context.state.openSource concurrency source mode = (.error fault, context.state) ->
      Transfers concurrency direction source mode routine fair context (.error fault context)
  | own {handle inner : Handle} {opened : Host} {file : OpenFile} {result} :
      (∀ handed, source ≠ .stream handed) ->
      context.state.openSource concurrency source mode = (.ok handle, opened) ->
      Recounts concurrency direction routine fair handle inner true
        { context with state := opened } result ->
      (Procedure.reached result).state.devices[inner]? = some (.openFile file) ->
      file.closes = 1 ->
      Transfers concurrency direction source mode routine fair context result
  | given {handle inner : Handle} {opened : Host} {result} :
      source = .stream inner ->
      context.state.openSource concurrency source mode = (.ok handle, opened) ->
      Recounts concurrency direction routine fair handle inner false
        { context with state := opened } result ->
      Transfers concurrency direction source mode routine fair context result

theorem Host.differs_self {host : Host} {device : Device}
    (found : host.devices[handle]? = some device) : Differs handle device device host host := by
  have same : host.setDevice handle device = host := by
    apply congrArg (Host.mk host.disk host.net host.pairs)
    apply Array.ext_getElem?
    intro index
    by_cases here : handle = index
    · subst here
      rw [Array.getElem?_setIfInBounds_self_of_lt (has_of_found found), found]
    · rw [Array.getElem?_setIfInBounds_ne here]
  have differs : Differs handle device device host (host.setDevice handle device) := .mk found
  rw [same] at differs
  exact differs

/-- Once the stream is open, the record tells everything. -/
theorem Recounts.of_behaves (uniform : Routine.Uniform concurrency routine)
    (behaves : Routine.Behaves concurrency direction routine fair) {opened : Context Host}
    (found : opened.state.devices[handle]? = some (.localFile concurrency inner (.fresh owned)))
    (smaller : inner < handle) {holds : List FileCall × Host -> Prop}
    (keeps : ∀ {both : List FileCall × Host}, holds both ->
      (both.2.stream inner).asFile.traced.KeepsAlways holds)
    (closable : ∀ {both : List FileCall × Host}, owned = true -> holds both ->
      (both.2.stream inner).asFile.close.isSome)
    (now : holds ([], opened.state)) :
    Recounts concurrency direction routine fair handle inner owned opened
        (routine Host (fun host => host.stream handle) opened) ∧
      holds (Procedure.reached
        (Routine.recorded routine concurrency inner owned opened)).state.2 := by
  rcases behaves (fun host => (host.stream inner).asFile) holds owned opened.memory opened.journal
    opened.state keeps closable now with ⟨conducts, after⟩
  refine ⟨⟨?_, conducts⟩, after⟩
  apply uniform (fun stands => Host.Stands.mirrors smaller stands)
  exact ⟨rfl, Host.differs_self found⟩

theorem Procedure.Agree.reached {State Other : Type} {related : State -> Other -> Prop}
    {given : EStateM.Result Fault (Context State) Result}
    {given' : EStateM.Result Fault (Context Other) Result}
    (agree : Procedure.Agree related given given') :
    (Procedure.reached given).Beside related (Procedure.reached given') := by
  cases agree with
  | ok _ beside => exact beside
  | error _ beside => exact beside

theorem Treatment.countP_calls (treatment : Treatment) :
    (treatment.calls direction).countP FileCall.isClosed = treatment.closes.length := by
  have moves (replies : List Reply) :
      (replies.map (FileCall.moved direction)).countP FileCall.isClosed = 0 := by
    rw [List.countP_map]
    exact congrFun List.countP_false _
  have flushes (faults : List (Option Fault)) :
      (faults.map FileCall.flushed).countP FileCall.isClosed = 0 := by
    rw [List.countP_map]
    exact congrFun List.countP_false _
  have closes (faults : List (Option Fault)) :
      (faults.map FileCall.closed).countP FileCall.isClosed = faults.length := by
    rw [List.countP_map]
    exact congrFun List.countP_true _
  rw [Treatment.calls, List.countP_append, List.countP_append, moves, flushes, closes]
  omega

/-- A file of the stream's own has been closed once. -/
theorem Recounts.closed_once {opened : Context Host}
    {result : EStateM.Result Fault (Context Host) Result} (smaller : inner < handle)
    (recounts : Recounts concurrency direction routine fair handle inner true opened result)
    (counts : Host.Counts inner (Procedure.reached
      (Routine.recorded routine concurrency inner true opened)).state.2) :
    ∃ file, (Procedure.reached result).state.devices[inner]? = some (.openFile file) ∧
      file.closes = 1 := by
  rcases recounts.conducts with ⟨treatment, calls, once, -⟩
  rcases counts with ⟨file, found, closes⟩
  refine ⟨file, ?_, ?_⟩
  · have stands := recounts.agree.reached.state
    exact (Host.Differs.same stands (Nat.ne_of_gt smaller)).trans found
  · rw [closes, calls, Treatment.countP_calls]
    exact once

/-- Opening and then performing the routine is a transfer. -/
theorem transfers_of_behaves {source : Source} (isLocal : source.IsLocal) {mode : String}
    {parsed : Mode} (known : Mode.parse mode = .ok parsed) (binary : parsed.text = false)
    (uniform : Routine.Uniform concurrency routine)
    (behaves : Routine.Behaves concurrency direction routine fair) (context : Context Host) :
    let transfer : Action Result := do
      let handle <- Action.onHost fun host => host.openSource concurrency source mode
      routine Host fun host => host.stream handle
    Transfers concurrency direction source mode routine fair context (transfer context) := by
  intro transfer
  have begins := context.state.begins_openLocal concurrency source known binary
  have opens := Host.openSource_of_isLocal isLocal context.state concurrency mode
  rw [← opens] at begins
  generalize opened : context.state.openSource concurrency source mode = given at begins
  cases begins with
  | refused fault =>
    have refuses : transfer context = .error fault context := by
      simp only [transfer, Bind.bind, EStateM.bind, Action.onHost, opened]
    rw [refuses]
    exact .refused opened
  | @own handle inner file after names found smaller there fresh =>
    have performs : transfer context =
        routine Host (fun host => host.stream handle) { context with state := after } := by
      simp only [transfer, Bind.bind, EStateM.bind, Action.onHost, opened]
    rw [performs]
    rcases @Recounts.of_behaves _ _ _ _ _ _ _ _ uniform behaves { context with state := after }
      found smaller (Host.Counts inner) (fun counts => counts.keepsAlways)
      (fun _ counts => counts.closable) ⟨file, there, fresh⟩ with ⟨recounts, counts⟩
    rcases recounts.closed_once smaller counts with ⟨closed, there', once⟩
    exact .own names opened recounts there' once
  | @given inner same smaller =>
    let after := (context.state.add (.localFile concurrency inner (.fresh false))).2
    have performs : transfer context = routine Host
        (fun host => host.stream context.state.devices.size) { context with state := after } := by
      simp only [transfer, Bind.bind, EStateM.bind, Action.onHost, opened, after]
    rw [performs]
    rcases @Recounts.of_behaves _ _ _ _ _ _ _ _ uniform behaves { context with state := after }
      (context.state.found_add _) smaller (fun _ => True)
      (fun _ => Stream.keepsAlways_true _) (fun owns => absurd owns Bool.false_ne_true) trivial with
      ⟨recounts, -⟩
    exact .given same opened recounts

end

namespace Action

theorem construct_eq {Kind : Type} (build : Memory -> Construction Kind) :
    construct build = Procedure.construct build := by
  funext context
  unfold construct Procedure.construct
  cases (build context.memory).result <;> rfl

theorem driveToValue_eq {Kind Value : Type} [Resumable Kind Value] (concurrency : Concurrency)
    (limit : Nat) (machine : Kind) (handle : Handle) :
    driveToValue concurrency limit machine handle =
      Procedure.driveToValue (fun host => host.stream handle) concurrency limit machine := by
  funext context
  cases ended : (drive concurrency (context.state.stream handle) limit machine context).ending <;>
    simp only [driveToValue, Procedure.driveToValue, ended, Ending.value?]

theorem thenAlways_eq {Result : Type} (action : Action Result) (last : Action Unit) :
    action.thenAlways last = Procedure.thenAlways action last := by
  funext context
  unfold thenAlways Procedure.thenAlways
  cases action context with
  | ok result after => dsimp only; cases last after <;> rfl
  | error fault after => dsimp only; cases last after <;> rfl

/-- What an action asks of the host is asked of the stream itself. -/
theorem onHost_flush (handle : Handle) :
    onHost (fun host => host.flush handle) =
      Procedure.ask (fun host => host.stream handle) "flush" Stream.flush := by
  funext context
  unfold onHost Host.flush Procedure.ask
  dsimp only
  generalize (context.state.stream handle).flush = given
  cases given with
  | none => rfl
  | some flush =>
    dsimp only
    rcases flush context.state with ⟨fault, after⟩
    cases fault <;> rfl

theorem onHost_close (handle : Handle) :
    onHost (fun host => host.close handle) =
      Procedure.ask (fun host => host.stream handle) "close" Stream.close := by
  funext context
  unfold onHost Host.close Procedure.ask
  dsimp only
  generalize (context.state.stream handle).close = given
  cases given with
  | none => rfl
  | some close =>
    dsimp only
    rcases close context.state with ⟨fault, after⟩
    cases fault <;> rfl

end Action

section

variable (concurrency : Concurrency) (limit : Nat) (source : Source)

theorem readToEnd_eq (capacity : Int) :
    readToEnd concurrency limit source capacity = (do
      let handle <- Action.onHost fun host => host.openSource concurrency source Mode.source
      Procedure.read (fun host => host.stream handle) concurrency limit
        (ReadToEnd.make capacity)) := by
  simp only [readToEnd, Action.withSource, Action.thenAlways_eq, Action.onHost_close,
    Action.construct_eq, Action.driveToValue_eq, Procedure.read, Procedure.use]

theorem readExact_eq (size capacity : Int) :
    readExact concurrency limit source size capacity = (do
      let handle <- Action.onHost fun host => host.openSource concurrency source Mode.source
      Procedure.read (fun host => host.stream handle) concurrency limit
        (ReadExact.make size capacity)) := by
  simp only [readExact, Action.withSource, Action.thenAlways_eq, Action.onHost_close,
    Action.construct_eq, Action.driveToValue_eq, Procedure.read, Procedure.use]

theorem writeAll_eq (data : Buffer) :
    writeAll concurrency limit source data = (do
      let handle <- Action.onHost fun host => host.openSource concurrency source Mode.sink
      Procedure.write (fun host => host.stream handle) concurrency limit
        (WriteAll.build data)) := by
  simp only [writeAll, Action.withSource, Action.thenAlways_eq, Action.onHost_close,
    Action.onHost_flush, Action.construct_eq, Action.driveToValue_eq, Procedure.write,
    Procedure.use, bind_assoc]
  rfl

end

/-- Transfers release exactly what they have opened, whatever comes of them.

Take any file whatever, and any size, capacity or payload.  Between opening and
returning, a transfer only reads from the file, or only writes to it, then perhaps
flushes it, and closes it at last: once if the file is its own, and not at all if
the file was handed in.  It flushes the file at most once, when all of the payload
has been taken and nothing has failed.  If an exact number of bytes is asked for and
any are returned, exactly so many have been taken from the file, unless it gives
more than it is asked for.

On a host, a source that is no address is refused, and nothing has changed; or a
transfer comes to what it comes to where the file keeps a record, and has done to
the file what the record tells.  A file that was opened at a path has counted one
closing in the end. -/
theorem transfers_release_what_they_opened (concurrency : Concurrency) (limit : Nat) :
    (∀ {State : Type} (file : Stream State) (owned : Bool) (memory : Memory)
      (journal : Array Event) (state : State), (owned = true -> file.close.isSome) ->
      let before := fun _ => LocalFile.stream concurrency file.traced
      let start : Context (LocalFile × (List FileCall × State)) :=
        ⟨memory, journal, (.fresh owned, ([], state))⟩
      (∀ capacity, Conducts .read owned Treatment.Reads
        (Procedure.read before concurrency limit (ReadToEnd.make capacity) start)) ∧
      (∀ size capacity, Conducts .read owned (Treatment.ReadsExactly file state size)
        (Procedure.read before concurrency limit (ReadExact.make size capacity) start)) ∧
      ∀ data : Buffer, Conducts .write owned (Treatment.Writes (data.size memory))
        (Procedure.write before concurrency limit (WriteAll.build data) start)) ∧
    ∀ source : Source, source.IsLocal -> ∀ context : Context Host,
      (∀ capacity, Transfers concurrency .read source Mode.source
        (fun _ stream => Procedure.read stream concurrency limit (ReadToEnd.make capacity))
        (fun _ _ _ _ => Treatment.Reads) context
        (readToEnd concurrency limit source capacity context)) ∧
      (∀ size capacity, Transfers concurrency .read source Mode.source
        (fun _ stream => Procedure.read stream concurrency limit (ReadExact.make size capacity))
        (fun _ file state _ => Treatment.ReadsExactly file state size) context
        (readExact concurrency limit source size capacity context)) ∧
      ∀ data : Buffer, Transfers concurrency .write source Mode.sink
        (fun _ stream => Procedure.write stream concurrency limit (WriteAll.build data))
        (fun _ _ _ memory => Treatment.Writes (data.size memory)) context
        (writeAll concurrency limit source data context) := by
  refine ⟨?_, ?_⟩
  · intro State file owned memory journal state closable before start
    have keeps := file.traced.keepsAlways_true
    refine ⟨?_, ?_, ?_⟩
    · intro capacity
      exact (ReadToEnd.behaves concurrency limit capacity (fun _ => file) (fun _ => True) owned memory
        journal state (fun _ => keeps) (fun owns _ => closable owns) trivial).1
    · intro size capacity
      exact (ReadExact.behaves concurrency limit size capacity (fun _ => file) (fun _ => True) owned
        memory journal state (fun _ => keeps) (fun owns _ => closable owns) trivial).1
    · intro data
      exact (WriteAll.behaves concurrency limit data (fun _ => file) (fun _ => True) owned memory
        journal state (fun _ => keeps) (fun owns _ => closable owns) trivial).1
  · intro source isLocal context
    have reading : Mode.parse Mode.source = .ok ⟨.reading, false, false⟩ := by rfl
    have writing : Mode.parse Mode.sink = .ok ⟨.writing, false, false⟩ := by rfl
    refine ⟨?_, ?_, ?_⟩
    · intro capacity
      rw [readToEnd_eq]
      apply transfers_of_behaves isLocal reading rfl ?_ (ReadToEnd.behaves concurrency limit capacity)
      intro State Other related stream other mirrors
      exact Procedure.agrees_read mirrors limit _
    · intro size capacity
      rw [readExact_eq]
      apply transfers_of_behaves isLocal reading rfl ?_
        (ReadExact.behaves concurrency limit size capacity)
      intro State Other related stream other mirrors
      exact Procedure.agrees_read mirrors limit _
    · intro data
      rw [writeAll_eq]
      apply transfers_of_behaves isLocal writing rfl ?_ (WriteAll.behaves concurrency limit data)
      intro State Other related stream other mirrors
      exact Procedure.agrees_write mirrors limit _

/-- Two of the four bytes of a file in memory are read and the file is left open;
three bytes are written to a path, where there was nothing. -/
theorem transfers_release_what_they_opened_of_two :
    let before := fun _ => LocalFile.stream .blocking MemoryFile.stream.traced
    let start : Context (LocalFile × (List FileCall × MemoryFile)) :=
      ⟨.empty, #[], (.fresh false, ([], .ofBytes [1, 2, 3, 4]))⟩
    let result := Procedure.read before .blocking 3 (ReadExact.make 2 8) start
    let context : Context Host := ⟨.empty, #[], .initial .empty (.ofScript [])⟩
    (∃ treatment : Treatment,
      (Procedure.reached result).state.2.1 = treatment.calls .read ∧ treatment.flushes = [] ∧
        treatment.closes = [] ∧ totalMoved treatment.replies = 2) ∧
    Source.IsLocal (.text "a.bin") ∧
    Transfers .asynchronous .write (.text "a.bin") Mode.sink
      (fun _ stream => Procedure.write stream .asynchronous 3 (WriteAll.build (.frozen [1, 2, 3])))
      (fun _ _ _ memory => Treatment.Writes ((Buffer.frozen [1, 2, 3]).size memory)) context
      (writeAll .asynchronous 3 (.text "a.bin") (.frozen [1, 2, 3]) context) := by
  intro before start result context
  have isLocal : Source.IsLocal (.text "a.bin") := rfl
  have reads : Conducts .read false
      (Treatment.ReadsExactly MemoryFile.stream (.ofBytes [1, 2, 3, 4]) 2) result :=
    ((transfers_release_what_they_opened .blocking 3).1 MemoryFile.stream false .empty #[]
      (.ofBytes [1, 2, 3, 4]) nofun).2.1 2 8
  have writes := ((transfers_release_what_they_opened .asynchronous 3).2 _ isLocal context).2.2
    (.frozen [1, 2, 3])
  refine ⟨?_, isLocal, writes⟩
  rcases reads with ⟨treatment, calls, closes, flushes, gathers⟩
  have value : Procedure.value? result = some [1, 2] := by decide +kernel
  have moderate : MemoryFile.stream.Moderate fun _ => True :=
    ⟨⟨fun _ _ _ => trivial, fun _ _ _ => trivial⟩, fun _ _ _ => MemoryFile.keepsLengths _ _⟩
  refine ⟨treatment, calls, flushes, List.length_eq_zero_iff.mp closes, ?_⟩
  exact (gathers [1, 2] value).2.2 _ moderate trivial

end ResumableStreams
