import ResumableStreams.Proofs.Respect
import ResumableStreams.Transfer

namespace ResumableStreams

/-!
# Local streams of both runtimes

A local stream can be made for either runtime.  Take two hosts that are alike
but for this: on one of them a local stream is made for blocking callers, and on
the other for asynchronous ones.  Whatever is done with the stream, each time by
a caller of its own runtime, comes to the same on both hosts, and the hosts stay
alike.  So it is with opening, driving, flushing and closing, and therefore with
whole transfers.

The stream stands before another one, which cannot notice the difference: it is
under a smaller handle.
-/

section

variable {Machine Value State Other : Type}

/-- Runs that come to the same still do so for a wider relation. -/
theorem Run.Beside.mono {related wider : State -> Other -> Prop}
    {first : Run Machine Value State} {second : Run Machine Value Other}
    (beside : first.Beside related second) (implies : ∀ {first second}, related first second ->
      wider first second) : first.Beside wider second :=
  { beside with context := ⟨beside.context.memory, implies beside.context.state⟩ }

/-- Whatever a file does, a local stream before it does the same for either
runtime. -/
theorem LocalFile.imitates {related : State -> State -> Prop} {inner : Stream State}
    (respects : inner.Respects related) :
    (LocalFile.stream .blocking inner).Imitates (Paired related) .blocking .asynchronous
      (LocalFile.stream .asynchronous inner) where
  fill := by
    intro first second paired lent
    rcases alongside_readInto respects lent first second paired with ⟨same, after⟩
    exact ⟨congrArg Filling.contents same, congrArg Filling.reply same, after⟩
  offer := fun paired lent => alongside_write respects lent _ _ paired

end

namespace Host

/-- There is the same local stream under the handle, before the stream under
`inner`, but it is made for different runtimes. -/
def Twins (handle inner : Handle) (first second : Host) : Prop :=
  ∃ file, Differs handle (.localFile .blocking inner file) (.localFile .asynchronous inner file)
    first second

/-- The hosts are the same but for the runtime of the local stream under the
handle. -/
def Alike (handle : Handle) (first second : Host) : Prop :=
  ∃ inner, inner < handle ∧ Twins handle inner first second

variable {handle inner : Handle} {first second : Host}

/-! ## The streams -/

theorem respects_twins (host : Host) (smaller : inner < handle) :
    (host.stream inner).asFile.Respects (Twins handle inner) := by
  rintro Answer operation does _ _ ⟨file, differs⟩
  rcases (host.respects_stream smaller).asFile Answer operation does _ _ differs with
    ⟨same, after⟩
  exact ⟨same, file, after⟩

/-- What the two local streams keep corresponds. -/
theorem corresponds_localPlace (initially : LocalFile) :
    (localPlace handle .blocking inner initially).Corresponds (Twins handle inner)
      (LocalFile.Paired (Twins handle inner))
      (localPlace handle .asynchronous inner initially) where
  get := by
    rintro first second ⟨file, differs⟩
    rcases differs.found with ⟨found, found'⟩
    simp only [localPlace, found, found']
    exact .mk file ⟨file, differs⟩
  put := by
    rintro _ _ _ _ _ ⟨file, _, differs⟩
    exact ⟨file, differs.replace _ _⟩

/-- The local stream as each of the two runtimes has it. -/
def before (concurrency : Concurrency) (host : Host) (handle inner : Handle) (file : LocalFile) :
    Stream Host :=
  (LocalFile.stream concurrency (host.stream inner).asFile).lift
    (localPlace handle concurrency inner file)

theorem Alike.streams (alike : Alike handle first second) :
    ∃ inner file, inner < handle ∧ Twins handle inner first second ∧
      first.stream handle = before .blocking first handle inner file ∧
      second.stream handle = before .asynchronous first handle inner file := by
  rcases alike with ⟨inner, smaller, file, differs⟩
  refine ⟨inner, file, smaller, ⟨file, differs⟩, ?_, ?_⟩
  · exact stream_localFile differs.found.1 smaller
  · rw [stream_localFile differs.found.2 smaller, differs.stream smaller]
    rfl

theorem imitates_before (host : Host) (smaller : inner < handle) (file : LocalFile) :
    (before .blocking host handle inner file).Imitates (Twins handle inner) .blocking
      .asynchronous (before .asynchronous host handle inner file) where
  fill := by
    intro first second twins lent
    have reads := LocalFile.alongside_readInto (host.respects_twins smaller) lent
    rcases reads.run (corresponds_localPlace file) first second twins with ⟨same, after⟩
    exact ⟨congrArg Filling.contents same, congrArg Filling.reply same, after⟩
  offer := by
    intro first second twins lent
    have writes := LocalFile.alongside_write (host.respects_twins smaller) lent
    exact writes.run (corresponds_localPlace file) first second twins

variable {Machine Value : Type} [Resumable Machine Value]

/-- A drive on the stream of one host comes to the same as on the stream of the
other. -/
theorem Alike.drive {first second : Context Host} (alike : Alike handle first.state second.state)
    (memory : second.memory = first.memory) (limit : Nat) (machine : Machine) :
    Run.Beside (Alike handle)
      (drive .blocking (first.state.stream handle) limit machine first)
      (drive .asynchronous (second.state.stream handle) limit machine second) := by
  rcases alike.streams with ⟨inner, file, smaller, twins, blocking, asynchronous⟩
  rw [blocking, asynchronous]
  have beside : first.Beside (Twins handle inner) second := ⟨memory, twins⟩
  apply ((imitates_before first.state smaller file).drive limit machine beside).mono
  intro first second twins
  exact ⟨inner, smaller, twins⟩

/-- What a caller learns who flushes or closes a stream. -/
def reported : Option Fault × Host -> Except Fault Unit × Host
  | (none, host) => (.ok (), host)
  | (some fault, host) => (.error fault, host)

theorem alongside_reported {related : Host -> Host -> Prop}
    {operation same : Host -> Option Fault × Host} (alongside : Alongside related operation same) :
    Alongside related (fun host => reported (operation host)) fun host => reported (same host) := by
  intro first second beside
  have agree := alongside first second beside
  change (reported (same second)).1 = (reported (operation first)).1 ∧
    related (reported (operation first)).2 (reported (same second)).2
  generalize operation first = given at agree ⊢
  generalize same second = given' at agree ⊢
  rcases given with ⟨fault, after⟩
  rcases given' with ⟨fault', after'⟩
  rcases agree with ⟨rfl, after⟩
  cases fault' with
  | none => exact ⟨rfl, after⟩
  | some fault => exact ⟨rfl, after⟩

theorem alongside_flush (handle : Handle) :
    Alongside (Alike handle) (fun host => host.flush handle) fun host => host.flush handle := by
  intro first second alike
  rcases alike.streams with ⟨inner, file, smaller, twins, blocking, asynchronous⟩
  have flushes := (LocalFile.alongside_flush (first.respects_twins smaller)).run
    (corresponds_localPlace file)
  rcases alongside_reported flushes first second twins with ⟨same, after⟩
  simp only [Host.flush, blocking, asynchronous]
  exact ⟨same, inner, smaller, after⟩

theorem alongside_close (handle : Handle) :
    Alongside (Alike handle) (fun host => host.close handle) fun host => host.close handle := by
  intro first second alike
  rcases alike.streams with ⟨inner, file, smaller, twins, blocking, asynchronous⟩
  have closes := (LocalFile.alongside_close (first.respects_twins smaller)).run
    (corresponds_localPlace file)
  rcases alongside_reported closes first second twins with ⟨same, after⟩
  simp only [Host.close, blocking, asynchronous]
  exact ⟨same, inner, smaller, after⟩

/-! ## Opening -/

theorem lt_size_of_openPath {host after : Host} {path mode : String} {handle : Handle}
    (opened : host.openPath path mode = (.ok handle, after)) : handle < after.devices.size := by
  unfold openPath at opened
  split at opened
  · cases opened
  · cases opened
  · cases opened
  · split at opened
    · cases opened
    · cases opened
      simp only [Array.size_push, Nat.lt_succ_self]

theorem lt_size_of_isFile {host : Host} {handle : Handle}
    (isFile : (host.stream handle).isFile = true) : handle < host.devices.size := by
  apply Nat.lt_of_not_le
  intro beyond
  have absent : host.devices[handle]? = none := Array.getElem?_eq_none beyond
  simp only [stream, streamBelow, absent, Stream.isFile, Option.isSome_none, Bool.or_self,
    Bool.false_eq_true] at isFile

/-- A new local stream of either runtime. -/
theorem alike_add (host : Host) {inner : Handle} (there : inner < host.devices.size)
    (file : LocalFile) :
    Alike host.devices.size (host.add (.localFile .blocking inner file)).2
      (host.add (.localFile .asynchronous inner file)).2 := by
  refine ⟨inner, there, file, ?_⟩
  have found : (host.add (.localFile .blocking inner file)).2.devices[host.devices.size]? =
      some (.localFile .blocking inner file) := Array.getElem?_push_size
  have last : (host.add (.localFile .asynchronous inner file)).2 =
      (host.add (.localFile .blocking inner file)).2.setDevice host.devices.size
        (.localFile .asynchronous inner file) := by
    apply congrArg (Host.mk host.disk host.net host.pairs)
    apply Array.ext_getElem?
    intro index
    by_cases newest : host.devices.size = index
    · subst newest
      simp [add]
    · rw [Array.getElem?_setIfInBounds_ne newest]
      simp only [add, Array.getElem?_push, if_neg (Ne.symm newest)]
  rw [last]
  exact .mk found

/-- Opening a local stream for either runtime is refused alike, or it gives the
same handle on hosts that are alike. -/
inductive OpensAlike : Except Fault Handle × Host -> Except Fault Handle × Host -> Prop
  | refused (fault : Fault) (host : Host) : OpensAlike (.error fault, host) (.error fault, host)
  | opened (handle : Handle) {first second : Host} : Alike handle first second ->
    OpensAlike (.ok handle, first) (.ok handle, second)

theorem opensAlike_openLocal (host : Host) (source : Source) (mode : String) :
    OpensAlike (host.openLocal .blocking source mode)
      (host.openLocal .asynchronous source mode) := by
  have path (text : String) :
      OpensAlike (host.openLocal .blocking (.text text) mode)
        (host.openLocal .asynchronous (.text text) mode) := by
    unfold openLocal
    cases opened : host.openPath text mode with
    | mk result after =>
      cases result with
      | error fault =>
        simp only [opened]
        exact .refused fault after
      | ok inner =>
        simp only [opened]
        exact .opened _ (after.alike_add (lt_size_of_openPath opened) _)
  cases source with
  | text text => exact path text
  | path text => exact path (Path.normalize text)
  | stream inner =>
    unfold openLocal
    by_cases isFile : (host.stream inner).isFile = true
    · simp only [if_pos isFile]
      exact .opened _ (host.alike_add (lt_size_of_isFile isFile) _)
    · simp only [if_neg isFile]
      split
      · exact .refused _ host
      · exact .refused _ host

end Host

/-- The source is no address. -/
def Source.IsLocal : Source -> Prop
  | .text name => isAddress name = false
  | .path name => isAddress (Path.normalize name) = false
  | .stream _ => True

theorem Host.openSource_of_isLocal {source : Source} (isLocal : source.IsLocal) (host : Host)
    (concurrency : Concurrency) (mode : String) :
    host.openSource concurrency source mode = host.openLocal concurrency source mode := by
  unfold openSource
  cases source with
  | text text =>
    have noAddress : isAddress text = false := isLocal
    simp only [noAddress, Bool.false_eq_true, if_false]
  | path path =>
    have noAddress : isAddress (Path.normalize path) = false := isLocal
    simp only [noAddress, Bool.false_eq_true, if_false]
  | stream handle => rfl

/-! ## Whole transfers -/

namespace Action

variable {First Second Result : Type} {related : Host -> Host -> Prop}

/-- The two actions have the same result or stop with the same fault, with the
same in the buffers and on hosts that correspond. -/
inductive Agree (related : Host -> Host -> Prop) :
    EStateM.Result Fault (Context Host) Result -> EStateM.Result Fault (Context Host) Result -> Prop
  | ok (result : Result) {first second : Context Host} : first.Beside related second ->
    Agree related (.ok result first) (.ok result second)
  | error (fault : Fault) {first second : Context Host} : first.Beside related second ->
    Agree related (.error fault first) (.error fault second)

theorem Agree.mono {wider : Host -> Host -> Prop}
    {given given' : EStateM.Result Fault (Context Host) Result} (agree : Agree related given given')
    (implies : ∀ {first second}, related first second -> wider first second) :
    Agree wider given given' := by
  cases agree with
  | ok result beside => exact .ok result ⟨beside.memory, implies beside.state⟩
  | error fault beside => exact .error fault ⟨beside.memory, implies beside.state⟩

/-- The two actions agree wherever they begin side by side. -/
def Agrees (related : Host -> Host -> Prop) (action same : Action Result) : Prop :=
  ∀ first second : Context Host, first.Beside related second ->
    Agree related (action first) (same second)

theorem Agrees.pure (result : Result) :
    Agrees related (Pure.pure result) (Pure.pure result) := fun _ _ beside => .ok result beside

theorem Agrees.bind {action same : Action First} {next next' : First -> Action Second}
    (agrees : Agrees related action same)
    (later : ∀ result, Agrees related (next result) (next' result)) :
    Agrees related (action >>= next) (same >>= next') := by
  intro first second beside
  have agree := agrees first second beside
  simp only [Bind.bind, EStateM.bind]
  generalize action first = given at agree ⊢
  generalize same second = given' at agree ⊢
  cases agree with
  | ok result after => exact later result _ _ after
  | error fault after => exact .error fault after

theorem Agrees.onHost {change change' : Host -> Except Fault Result × Host}
    (alongside : Alongside related change change') :
    Agrees related (Action.onHost change) (Action.onHost change') := by
  intro first second beside
  have agree := alongside first.state second.state beside.state
  unfold Action.onHost
  generalize change first.state = given at agree ⊢
  generalize change' second.state = given' at agree ⊢
  rcases given with ⟨result, host⟩
  rcases given' with ⟨result', host'⟩
  rcases agree with ⟨rfl, after⟩
  cases result' with
  | ok result => exact .ok result ⟨beside.memory, after⟩
  | error fault => exact .error fault ⟨beside.memory, after⟩

theorem Agrees.construct {Kind : Type} (build : Memory -> Construction Kind) :
    Agrees related (Action.construct build) (Action.construct build) := by
  intro first second beside
  unfold Action.construct
  rw [beside.memory]
  cases built : (build first.memory).result with
  | ok machine =>
    simp only [built]
    exact .ok machine ⟨rfl, beside.state⟩
  | error fault =>
    simp only [built]
    exact .error fault ⟨rfl, beside.state⟩

theorem Agrees.driveToValue {Kind Value : Type} [Resumable Kind Value] (handle : Handle)
    (limit : Nat) (machine : Kind) :
    Agrees (Host.Alike handle) (Action.driveToValue .blocking limit machine handle)
      (Action.driveToValue .asynchronous limit machine handle) := by
  intro first second beside
  have drives := Host.Alike.drive beside.state beside.memory limit machine
  unfold Action.driveToValue
  simp only [drives.ending]
  split
  · exact .ok _ drives.context
  · exact .error _ drives.context
  · exact .error _ drives.context

theorem Agrees.thenAlways {action same : Action Result} {last last' : Action Unit}
    (agrees : Agrees related action same) (lastAgrees : Agrees related last last') :
    Agrees related (action.thenAlways last) (same.thenAlways last') := by
  intro first second beside
  have agree := agrees first second beside
  unfold Action.thenAlways
  generalize action first = given at agree ⊢
  generalize same second = given' at agree ⊢
  cases agree with
  | ok result after =>
    have closed := lastAgrees _ _ after
    dsimp only
    generalize last _ = given at closed ⊢
    generalize last' _ = given' at closed ⊢
    cases closed with
    | ok _ closed => exact .ok result closed
    | error fault closed => exact .error fault closed
  | error fault after =>
    have closed := lastAgrees _ _ after
    dsimp only
    generalize last _ = given at closed ⊢
    generalize last' _ = given' at closed ⊢
    cases closed with
    | ok _ closed => exact .error fault closed
    | error closing closed => exact .error closing closed

/-- The hosts are the same, or they differ in the runtime of one local stream. -/
def Akin (first second : Host) : Prop :=
  second = first ∨ ∃ handle, Host.Alike handle first second

/-- A transfer opens its stream for its own runtime. -/
theorem Agrees.withSource {source : Source} (isLocal : source.IsLocal) (mode : String)
    {use use' : Handle -> Action Result}
    (agrees : ∀ handle, Agrees (Host.Alike handle) (use handle) (use' handle)) :
    ∀ context, Agree Akin (Action.withSource .blocking source mode use context)
      (Action.withSource .asynchronous source mode use' context) := by
  intro context
  have opens := context.state.opensAlike_openLocal source mode
  unfold Action.withSource
  simp only [Bind.bind, EStateM.bind, Action.onHost, Host.openSource_of_isLocal isLocal]
  generalize context.state.openLocal .blocking source mode = given at opens ⊢
  generalize context.state.openLocal .asynchronous source mode = given' at opens ⊢
  cases opens with
  | refused fault host => exact .error fault ⟨rfl, .inl rfl⟩
  | @opened handle first second alike =>
    have beside : Context.Beside (Host.Alike handle) { context with state := first }
        { context with state := second } := ⟨rfl, alike⟩
    have closes := Agrees.onHost (Host.alongside_close handle)
    exact ((agrees handle).thenAlways closes _ _ beside).mono fun alike => .inr ⟨handle, alike⟩

end Action

/-- The blocking and the asynchronous runtime agree on local streams.

Before any file that does anything whatever, and with the same counts to begin
with, the two kinds of local stream make no difference to a drive: the machine
comes to the same result, the same report or the same failure, through the same
exchanges; and it is left the same, with the same in the buffers, the same
counts, and the file in the same state.

On a host, opening a local stream is refused alike or gives the same handle, and
the hosts are the same but for the runtime of that one stream.  Drives, flushes
and closes on such hosts come to the same, and leave such hosts.  So reading to
the end, reading an exact number of bytes and writing everything come to the
same for every source that is no address. -/
theorem local_runtimes_agree :
    (∀ {Machine Value State : Type} [Resumable Machine Value] (inner : Stream State)
      (limit : Nat) (machine : Machine) (memory : Memory) (journal journal' : Array Event)
      (file : LocalFile) (state : State),
      Run.Beside Eq
        (drive .blocking (LocalFile.stream .blocking inner) limit machine
          ⟨memory, journal, (file, state)⟩)
        (drive .asynchronous (LocalFile.stream .asynchronous inner) limit machine
          ⟨memory, journal', (file, state)⟩)) ∧
    (∀ (host : Host) (source : Source) (mode : String),
      Host.OpensAlike (host.openLocal .blocking source mode)
        (host.openLocal .asynchronous source mode)) ∧
    (∀ (handle : Handle) (first second : Host), Host.Alike handle first second ->
      (∀ {Machine Value : Type} [Resumable Machine Value] (limit : Nat) (machine : Machine)
        (memory : Memory) (journal journal' : Array Event),
        Run.Beside (Host.Alike handle)
          (drive .blocking (first.stream handle) limit machine ⟨memory, journal, first⟩)
          (drive .asynchronous (second.stream handle) limit machine
            ⟨memory, journal', second⟩)) ∧
      ((second.flush handle).1 = (first.flush handle).1 ∧
        Host.Alike handle (first.flush handle).2 (second.flush handle).2) ∧
      ((second.close handle).1 = (first.close handle).1 ∧
        Host.Alike handle (first.close handle).2 (second.close handle).2)) ∧
    ∀ (source : Source), source.IsLocal -> ∀ (limit : Nat) (context : Context Host),
      (∀ capacity, Action.Agree Action.Akin (readToEnd .blocking limit source capacity context)
        (readToEnd .asynchronous limit source capacity context)) ∧
      (∀ size capacity, Action.Agree Action.Akin
        (readExact .blocking limit source size capacity context)
        (readExact .asynchronous limit source size capacity context)) ∧
      ∀ data, Action.Agree Action.Akin (writeAll .blocking limit source data context)
        (writeAll .asynchronous limit source data context) := by
  refine ⟨?_, Host.opensAlike_openLocal, ?_, ?_⟩
  · intro Machine Value State _ inner limit machine memory journal journal' file state
    have beside : Context.Beside (LocalFile.Paired Eq) ⟨memory, journal, (file, state)⟩
        ⟨memory, journal', (file, state)⟩ := ⟨rfl, .mk file rfl⟩
    apply ((LocalFile.imitates inner.respects_eq).drive limit machine beside).mono
    rintro _ _ ⟨file, rfl⟩
    rfl
  · intro handle first second alike
    refine ⟨?_, Host.alongside_flush handle first second alike,
      Host.alongside_close handle first second alike⟩
    intro Machine Value _ limit machine memory journal journal'
    exact @Host.Alike.drive _ _ _ _ ⟨memory, journal, first⟩ ⟨memory, journal', second⟩ alike rfl
      limit machine
  · intro source isLocal limit context
    refine ⟨fun capacity => ?_, fun size capacity => ?_, fun data => ?_⟩
    · apply Action.Agrees.withSource isLocal
      intro handle
      apply (Action.Agrees.construct _).bind
      intro machine
      exact Action.Agrees.driveToValue handle limit machine
    · apply Action.Agrees.withSource isLocal
      intro handle
      apply (Action.Agrees.construct _).bind
      intro machine
      exact Action.Agrees.driveToValue handle limit machine
    · apply Action.Agrees.withSource isLocal
      intro handle
      apply (Action.Agrees.construct _).bind
      intro machine
      apply (Action.Agrees.driveToValue handle limit machine).bind
      intro written
      apply (Action.Agrees.onHost (Host.alongside_flush handle)).bind
      intro _
      exact Action.Agrees.pure written

/-- A file in memory is read through local streams of either kind, and so is a
path under which there is no file. -/
theorem local_runtimes_agree_on_two :
    let host : Host := ⟨.empty, .ofScript [], #[], #[.memoryFile (.ofBytes [1, 2, 3])]⟩
    let first := (host.add (.localFile .blocking 0 (.fresh false))).2
    let second := (host.add (.localFile .asynchronous 0 (.fresh false))).2
    let built := ReadExact.create 2 1 .empty
    Run.Beside (Host.Alike 1) (drive .blocking (first.stream 1) 3 built.1 ⟨built.2, #[], first⟩)
        (drive .asynchronous (second.stream 1) 3 built.1 ⟨built.2, #[], second⟩) ∧
      isAddress "a.bin" = false ∧
      Action.Agree Action.Akin (readToEnd .blocking 3 (.text "a.bin") 8 ⟨.empty, #[], host⟩)
        (readToEnd .asynchronous 3 (.text "a.bin") 8 ⟨.empty, #[], host⟩) := by
  intro host first second built
  have alike : Host.Alike 1 first second := host.alike_add (by decide) _
  have isLocal : isAddress "a.bin" = false := rfl
  refine ⟨?_, isLocal, ?_⟩
  · exact (local_runtimes_agree.2.2.1 1 first second alike).1 3 built.1 built.2 #[] #[]
  · exact (local_runtimes_agree.2.2.2 (.text "a.bin") isLocal 3 _).1 8

end ResumableStreams
