import ResumableStreams.Host
import ResumableStreams.Proofs.Imitation

namespace ResumableStreams

/-!
# Operations side by side

Two states may be told apart by something that an operation does not look at.
The operation then gives the same answer in both, and the states afterwards are
told apart by the same thing and by nothing else.  A stream of which this is
true for every operation respects the relation between the states.

What is shown for a stream carries over to the same stream at a place in a
larger state, and to a local stream before it.  So it follows for every stream
of a host that it respects what is the case under larger handles: a stream
refers to smaller ones only.
-/

section

variable {State Other Outer Outer' Answer : Type}

/-- Beginning with states that correspond, the two operations give the same
answer and come to states that correspond. -/
def Alongside (related : State -> Other -> Prop) (operation : State -> Answer × State)
    (same : Other -> Answer × Other) : Prop :=
  ∀ first second, related first second ->
    (same second).1 = (operation first).1 ∧ related (operation first).2 (same second).2

/-- Two places at which states that correspond are kept in larger states that
correspond. -/
structure Stream.Place.Corresponds (outer : Outer -> Outer' -> Prop)
    (related : State -> Other -> Prop) (place : Place Outer State)
    (place' : Place Outer' Other) : Prop where
  get : ∀ {first second}, outer first second -> related (place.get first) (place'.get second)
  put : ∀ {first second state state'}, outer first second -> related state state' ->
    outer (place.put state first) (place'.put state' second)

/-- A place at which the same is kept on either side. -/
theorem Stream.Place.corresponds_eq {outer : Outer -> Outer -> Prop} {place : Place Outer State}
    (get : ∀ {first second}, outer first second -> place.get second = place.get first)
    (put : ∀ {first second} state, outer first second ->
      outer (place.put state first) (place.put state second)) :
    place.Corresponds outer Eq place where
  get := fun beside => (get beside).symm
  put := by
    rintro first second state _ beside rfl
    exact put state beside

theorem Alongside.run {outer : Outer -> Outer' -> Prop} {related : State -> Other -> Prop}
    {operation : State -> Answer × State} {same : Other -> Answer × Other}
    (alongside : Alongside related operation same) {place : Stream.Place Outer State}
    {place' : Stream.Place Outer' Other} (corresponds : place.Corresponds outer related place') :
    Alongside outer (place.run operation) (place'.run same) := by
  intro first second beside
  rcases alongside _ _ (corresponds.get beside) with ⟨answer, after⟩
  exact ⟨answer, corresponds.put beside after⟩

/-- An operation that changes nothing and always gives the same answer. -/
theorem alongside_const (related : State -> Other -> Prop) (answer : Answer) :
    Alongside related (fun state => (answer, state)) fun state => (answer, state) :=
  fun _ _ beside => ⟨rfl, beside⟩

end

/-! ## All operations of a stream -/

namespace Stream

variable {State Outer : Type}

/-- What can be done with a stream, each time with certain arguments. -/
inductive Does (stream : Stream State) : (Answer : Type) -> (State -> Answer × State) -> Prop where
  | receive {receive : Lent -> State -> Filling × State} :
      stream.receive = some receive -> ∀ lent, Does stream Filling (receive lent)
  | send {send : Lent -> State -> Reply × State} :
      stream.send = some send -> ∀ lent, Does stream Reply (send lent)
  | readInto {readInto : Lent -> State -> Filling × State} :
      stream.readInto = some readInto -> ∀ lent, Does stream Filling (readInto lent)
  | fetch {fetch : Nat -> State -> Fetch × State} :
      stream.fetch = some fetch -> ∀ count, Does stream Fetch (fetch count)
  | write {write : Lent -> State -> Reply × State} :
      stream.write = some write -> ∀ lent, Does stream Reply (write lent)
  | flush {flush : State -> Option Fault × State} :
      stream.flush = some flush -> Does stream (Option Fault) flush
  | close {close : State -> Option Fault × State} :
      stream.close = some close -> Does stream (Option Fault) close

/-- Whatever is done with the stream, nothing is noticed of the difference
between states that correspond. -/
def Respects (related : State -> State -> Prop) (stream : Stream State) : Prop :=
  ∀ Answer operation, stream.Does Answer operation -> Alongside related operation operation

theorem respects_eq (stream : Stream State) : stream.Respects Eq := by
  rintro Answer operation _ first _ rfl
  exact ⟨rfl, rfl⟩

theorem respects_absent (related : State -> State -> Prop) (kind : String) :
    Respects related { kind := kind } := by
  intro Answer operation does
  cases does with
  | receive has | send has | readInto has | fetch has | write has | flush has | close has =>
    cases has

/-- What is done with a stream at a place is done with the stream. -/
theorem Does.of_lift {stream : Stream State} {place : Place Outer State} {Answer : Type}
    {operation : Outer -> Answer × Outer} (does : (stream.lift place).Does Answer operation) :
    ∃ inner, stream.Does Answer inner ∧ operation = place.run inner := by
  cases does with
  | receive has lent =>
    rcases Option.map_eq_some_iff.mp has with ⟨receive, found, rfl⟩
    exact ⟨receive lent, .receive found lent, rfl⟩
  | send has lent =>
    rcases Option.map_eq_some_iff.mp has with ⟨send, found, rfl⟩
    exact ⟨send lent, .send found lent, rfl⟩
  | readInto has lent =>
    rcases Option.map_eq_some_iff.mp has with ⟨readInto, found, rfl⟩
    exact ⟨readInto lent, .readInto found lent, rfl⟩
  | fetch has count =>
    rcases Option.map_eq_some_iff.mp has with ⟨fetch, found, rfl⟩
    exact ⟨fetch count, .fetch found count, rfl⟩
  | write has lent =>
    rcases Option.map_eq_some_iff.mp has with ⟨write, found, rfl⟩
    exact ⟨write lent, .write found lent, rfl⟩
  | flush has =>
    rcases Option.map_eq_some_iff.mp has with ⟨flush, found, rfl⟩
    exact ⟨flush, .flush found, rfl⟩
  | close has =>
    rcases Option.map_eq_some_iff.mp has with ⟨close, found, rfl⟩
    exact ⟨close, .close found, rfl⟩

theorem Respects.lift {stream : Stream State} {related : State -> State -> Prop}
    {outer : Outer -> Outer -> Prop} (respects : stream.Respects related)
    {place : Place Outer State} (corresponds : place.Corresponds outer related place) :
    (stream.lift place).Respects outer := by
  intro Answer operation does
  rcases does.of_lift with ⟨inner, done, rfl⟩
  exact (respects Answer inner done).run corresponds

/-- A promise that nobody keeps changes nothing. -/
theorem respects_promising (related : State -> State -> Prop) (stream : Stream State)
    (failure : Misuse) : (stream.promising failure).Respects related := by
  intro Answer operation does
  cases does with
  | receive has | send has => cases has
  | readInto has | fetch has | write has | flush has | close has =>
    rcases Option.map_eq_some_iff.mp has with ⟨_, _, rfl⟩
    exact alongside_const related _

theorem Respects.asFile {stream : Stream State} {related : State -> State -> Prop}
    (respects : stream.Respects related) : stream.asFile.Respects related := by
  unfold Stream.asFile
  split
  · exact respects
  · exact respects_promising related stream _

theorem Respects.unplugged {stream : Stream State} {related : State -> State -> Prop}
    (respects : stream.Respects related) : stream.unplugged.Respects related := by
  intro Answer operation does
  cases does with
  | receive has | send has => cases has
  | readInto has lent => exact respects _ _ (@Does.readInto _ stream _ has lent)
  | fetch has count => exact respects _ _ (@Does.fetch _ stream _ has count)
  | write has lent => exact respects _ _ (@Does.write _ stream _ has lent)
  | flush has => exact respects _ _ (@Does.flush _ stream _ has)
  | close has => exact respects _ _ (@Does.close _ stream _ has)

/-- A blocking caller who reads uses one of the operations, if there is any. -/
theorem Respects.fill {stream : Stream State} {related : State -> State -> Prop}
    (respects : stream.Respects related) (lent : Lent) :
    Alongside related (stream.fill .blocking lent) (stream.fill .blocking lent) := by
  unfold Stream.fill
  cases received : stream.receive with
  | some receive => exact respects Filling _ (.receive received lent)
  | none =>
    cases given : stream.readInto with
    | some readInto => exact respects Filling _ (.readInto given lent)
    | none =>
      simp only [fillByFetching]
      cases fetched : stream.fetch with
      | none => exact alongside_const related _
      | some fetch =>
        intro first second beside
        rcases respects Fetch _ (.fetch fetched lent.size) first second beside with ⟨same, after⟩
        exact ⟨congrArg (Fetch.copyInto lent) same, after⟩

theorem Respects.offer {stream : Stream State} {related : State -> State -> Prop}
    (respects : stream.Respects related) (lent : Lent) :
    Alongside related (stream.offer .blocking lent) (stream.offer .blocking lent) := by
  unfold Stream.offer
  cases sent : stream.send with
  | some send => exact respects Reply _ (.send sent lent)
  | none =>
    cases taken : stream.write with
    | some write => exact respects Reply _ (.write taken lent)
    | none => exact alongside_const related _

end Stream

/-! ## Local streams -/

namespace LocalFile

variable {State : Type} {related : State -> State -> Prop} {inner : Stream State}

/-- The local streams have kept the same, and the states of the files
correspond. -/
inductive Paired (related : State -> State -> Prop) : LocalFile × State -> LocalFile × State -> Prop
  | mk (file : LocalFile) {first second : State} :
    related first second -> Paired related (file, first) (file, second)

theorem alongside_readInto (respects : inner.Respects related) (lent : Lent) :
    Alongside (Paired related) (readInto inner lent) (readInto inner lent) := by
  rintro _ _ ⟨file, beside⟩
  cases forgotten : file.forgotten with
  | true =>
    simp only [readInto, if_pos forgotten]
    exact ⟨trivial, .mk file beside⟩
  | false =>
    rcases respects.unplugged.fill lent _ _ beside with ⟨same, after⟩
    simp only [readInto_of_remembered forgotten, same]
    exact ⟨trivial, .mk _ after⟩

theorem alongside_write (respects : inner.Respects related) (lent : Lent) :
    Alongside (Paired related) (write inner lent) (write inner lent) := by
  rintro _ _ ⟨file, beside⟩
  cases forgotten : file.forgotten with
  | true =>
    simp only [write, if_pos forgotten]
    exact ⟨trivial, .mk file beside⟩
  | false =>
    rcases respects.unplugged.offer lent _ _ beside with ⟨same, after⟩
    simp only [write_of_remembered forgotten, same]
    exact ⟨trivial, .mk _ after⟩

theorem alongside_flush (respects : inner.Respects related) :
    Alongside (Paired related) (flush inner) (flush inner) := by
  rintro _ _ ⟨file, beside⟩
  cases forgotten : file.forgotten with
  | true =>
    simp only [flush, forgotten]
    exact ⟨trivial, .mk file beside⟩
  | false =>
    cases has : inner.flush with
    | none =>
      simp only [flush, forgotten, has]
      exact ⟨trivial, .mk file beside⟩
    | some flush =>
      rcases respects _ _ (.flush has) _ _ beside with ⟨same, after⟩
      simp only [LocalFile.flush, forgotten, has, same]
      exact ⟨trivial, .mk file after⟩

theorem alongside_close (respects : inner.Respects related) :
    Alongside (Paired related) (close inner) (close inner) := by
  rintro _ _ ⟨file, beside⟩
  cases mine : file.owned && !file.forgotten with
  | false =>
    simp only [close, mine]
    exact ⟨trivial, .mk file beside⟩
  | true =>
    cases has : inner.close with
    | none =>
      simp only [close, mine, has]
      exact ⟨trivial, .mk file beside⟩
    | some close =>
      rcases respects _ _ (.close has) _ _ beside with ⟨same, after⟩
      simp only [LocalFile.close, mine, has, same]
      exact ⟨trivial, .mk _ after⟩

/-- A local stream respects what its file respects. -/
theorem respects_stream (respects : inner.Respects related) (concurrency : Concurrency) :
    (LocalFile.stream concurrency inner).Respects (Paired related) := by
  intro Answer operation does
  cases does with
  | receive has | send has | fetch has => cases has
  | readInto has lent =>
    cases has
    exact alongside_readInto respects lent
  | write has lent =>
    cases has
    exact alongside_write respects lent
  | flush has =>
    cases has
    exact alongside_flush respects
  | close has =>
    cases has
    exact alongside_close respects

end LocalFile

/-! ## Streams of a host -/

namespace Host

/-- The hosts are the same, except that the one has `device` under the handle
and the other has `other` there. -/
inductive Differs (handle : Handle) (device other : Device) : Host -> Host -> Prop
  | mk {host : Host} : host.devices[handle]? = some device ->
    Differs handle device other host (host.setDevice handle other)

variable {handle below : Handle} {device other : Device} {first second : Host}

theorem Differs.found (differs : Differs handle device other first second) :
    first.devices[handle]? = some device ∧ second.devices[handle]? = some other := by
  rcases differs with ⟨found⟩
  have there := (Array.getElem?_eq_some_iff.mp found).1
  exact ⟨found, by simp only [Host.setDevice, Array.getElem?_setIfInBounds_self_of_lt there]⟩

theorem Differs.same (differs : Differs handle device other first second)
    (apart : handle ≠ below) : second.devices[below]? = first.devices[below]? := by
  rcases differs with ⟨_⟩
  exact Array.getElem?_setIfInBounds_ne apart

theorem Differs.disk (differs : Differs handle device other first second) :
    second.disk = first.disk := by
  rcases differs with ⟨_⟩
  rfl

theorem Differs.net (differs : Differs handle device other first second) :
    second.net = first.net := by
  rcases differs with ⟨_⟩
  rfl

theorem Differs.pairs (differs : Differs handle device other first second) :
    second.pairs = first.pairs := by
  rcases differs with ⟨_⟩
  rfl

/-- Both devices may give way to others. -/
theorem Differs.replace (differs : Differs handle device other first second)
    (device' other' : Device) :
    Differs handle device' other' (first.setDevice handle device')
      (second.setDevice handle other') := by
  rcases differs with ⟨found⟩
  have there := (Array.getElem?_eq_some_iff.mp found).1
  have placed : (first.setDevice handle device').devices[handle]? = some device' := by
    simp only [Host.setDevice, Array.getElem?_setIfInBounds_self_of_lt there]
  have last : (first.setDevice handle other).setDevice handle other' =
      (first.setDevice handle device').setDevice handle other' := by
    simp only [Host.setDevice, Array.setIfInBounds_setIfInBounds]
  rw [last]
  exact .mk placed

/-- The device of the second host may give way to another. -/
theorem Differs.replace_other (differs : Differs handle device other first second)
    (other' : Device) : Differs handle device other' first (second.setDevice handle other') := by
  rcases differs with ⟨found⟩
  have last : (first.setDevice handle other).setDevice handle other' =
      first.setDevice handle other' := by
    simp only [Host.setDevice, Array.setIfInBounds_setIfInBounds]
  rw [last]
  exact .mk found

/-- The same may happen to the rest of both hosts. -/
theorem Differs.setDevice (differs : Differs handle device other first second)
    (apart : handle ≠ below) (changed : Device) :
    Differs handle device other (first.setDevice below changed)
      (second.setDevice below changed) := by
  rcases differs with ⟨found⟩
  have kept : (first.setDevice below changed).devices[handle]? = some device :=
    (Array.getElem?_setIfInBounds_ne apart.symm).trans found
  have swapped : (first.setDevice handle other).setDevice below changed =
      (first.setDevice below changed).setDevice handle other := by
    simp only [Host.setDevice, Array.setIfInBounds_comm _ _ apart]
  rw [swapped]
  exact .mk kept

theorem Differs.setDisk (differs : Differs handle device other first second) (disk : Disk) :
    Differs handle device other { first with disk := disk } { second with disk := disk } := by
  rcases differs with ⟨found⟩
  exact @mk _ _ _ { first with disk := disk } found

theorem Differs.setNet (differs : Differs handle device other first second) (net : Net) :
    Differs handle device other { first with net := net } { second with net := net } := by
  rcases differs with ⟨found⟩
  exact @mk _ _ _ { first with net := net } found

theorem Differs.setPairs (differs : Differs handle device other first second)
    (pairs : Array SocketPair) :
    Differs handle device other { first with pairs := pairs } { second with pairs := pairs } := by
  rcases differs with ⟨found⟩
  exact @mk _ _ _ { first with pairs := pairs } found

/-- A stream does not notice what is under a larger handle. -/
theorem respects_streamBelow (host : Host) (bound : Nat) (smaller : below < handle) :
    (host.streamBelow bound below).Respects (Differs handle device other) := by
  induction bound generalizing below with
  | zero => exact Stream.respects_absent _ _
  | succ bound inductionHypothesis =>
    have apart : handle ≠ below := Nat.ne_of_gt smaller
    rw [streamBelow]
    cases host.devices[below]? with
    | none => exact Stream.respects_absent _ _
    | some device =>
      cases device with
      | memoryFile file =>
        apply (Stream.respects_eq _).lift
        apply Stream.Place.corresponds_eq
        · intro first second differs
          simp only [memoryPlace, differs.same apart]
        · intro first second state differs
          exact differs.setDevice apart _
      | scripted concurrency faces stream =>
        apply (Stream.respects_eq _).lift
        apply Stream.Place.corresponds_eq
        · intro first second differs
          simp only [scriptedPlace, differs.same apart]
        · intro first second state differs
          exact differs.setDevice apart _
      | duplex stream =>
        apply (Stream.respects_eq _).lift
        apply Stream.Place.corresponds_eq
        · intro first second differs
          simp only [duplexPlace, differs.same apart]
        · intro first second state differs
          exact differs.setDevice apart _
      | socket pair second =>
        apply (Stream.respects_eq _).lift
        apply Stream.Place.corresponds_eq
        · intro first second differs
          simp only [socketPlace, differs.pairs]
        · intro first second state differs
          simp only [socketPlace, differs.pairs]
          exact differs.setPairs _
      | openFile file =>
        apply (Stream.respects_eq _).lift
        apply Stream.Place.corresponds_eq
        · intro first second differs
          simp only [filePlace, differs.same apart, differs.disk]
        · intro first second state differs
          exact (differs.setDisk state.2).setDevice apart _
      | textFile file =>
        apply (Stream.respects_eq _).lift
        apply Stream.Place.corresponds_eq
        · intro first second differs
          simp only [textPlace, differs.same apart, differs.disk]
        · intro first second state differs
          exact (differs.setDisk state.2).setDevice apart _
      | http body =>
        apply (Stream.respects_eq _).lift
        apply Stream.Place.corresponds_eq
        · intro first second differs
          simp only [httpPlace, differs.same apart, differs.net]
        · intro first second state differs
          exact (differs.setNet state.2).setDevice apart _
      | localFile concurrency inner file =>
        by_cases descends : inner < below
        · simp only [if_pos descends]
          have respects := (inductionHypothesis (Nat.lt_trans descends smaller)).asFile
          apply (LocalFile.respects_stream respects concurrency).lift
          refine ⟨fun {first second} differs => ?_, ?_⟩
          · simp only [localPlace, differs.same apart]
            cases first.devices[below]? with
            | none => exact .mk _ differs
            | some device => cases device <;> exact .mk _ differs
          · rintro _ _ _ _ _ ⟨file, differs⟩
            exact differs.setDevice apart _
        · simp only [if_neg descends]
          exact Stream.respects_absent _ _

/-- Under smaller handles there are the same streams. -/
theorem Differs.streamBelow (differs : Differs handle device other first second) (bound : Nat)
    (smaller : below < handle) :
    second.streamBelow bound below = first.streamBelow bound below := by
  induction bound generalizing below with
  | zero => rfl
  | succ bound inductionHypothesis =>
    rw [Host.streamBelow, Host.streamBelow, differs.same (Nat.ne_of_gt smaller)]
    cases first.devices[below]? with
    | none => rfl
    | some device =>
      cases device with
      | localFile concurrency inner file =>
        by_cases descends : inner < below
        · simp only [if_pos descends, inductionHypothesis (Nat.lt_trans descends smaller)]
        · simp only [if_neg descends]
      | _ => rfl

theorem Differs.stream (differs : Differs handle device other first second)
    (smaller : below < handle) : second.stream below = first.stream below :=
  differs.streamBelow (below + 1) smaller

theorem respects_stream (host : Host) (smaller : below < handle) :
    (host.stream below).Respects (Differs handle device other) :=
  host.respects_streamBelow (below + 1) smaller

end Host

end ResumableStreams
