import ResumableStreams.Proofs.Offering

namespace ResumableStreams

/-!
# What closing a stream releases

The network hands responses out, and an asynchronous stream creates clients.
Each of them is to be closed once.  The stream can only close what it has at
hand, so whatever it lets go of before is lost.

Two things are lost so.  A response with an announced length that cannot be
read is dropped while it is open.  And a client that is still at hand when the
next request is sent gives way to a new one; this happens after a request that
has come to nothing without the stream being closed.  Nothing else is lost, and
nothing is closed twice.
-/

/-! ## Custody -/

/-- Things of which each is to be closed once: how often each has been closed,
and which one is at hand. -/
structure Custody where
  closes : Array Nat
  held : Option Nat

namespace Custody

/-- There is nothing yet. -/
def nothing : Custody := ⟨#[], none⟩

/-- A new thing is taken to hand, whether or not there is one. -/
def take (custody : Custody) : Custody := ⟨custody.closes.push 0, some custody.closes.size⟩

/-- A new thing is not taken to hand. -/
def lose (custody : Custody) : Custody := { custody with closes := custody.closes.push 0 }

/-- A new thing is closed at once. -/
def discard (custody : Custody) : Custody := { custody with closes := custody.closes.push 1 }

/-- What is at hand is closed. -/
def release (custody : Custody) : Custody :=
  match custody.held with
  | none => custody
  | some index => ⟨custody.closes.modify index (· + 1), none⟩

/-- Nothing has been closed twice, and what is at hand is open. -/
structure Sound (custody : Custody) : Prop where
  once : ∀ (index count : Nat), custody.closes[index]? = some count -> count ≤ 1
  held : ∀ index, custody.held = some index -> custody.closes[index]? = some 0

/-- Something is open and not at hand. -/
def Stray (custody : Custody) : Prop :=
  ∃ index : Nat, custody.closes[index]? = some 0 ∧ custody.held ≠ some index

theorem sound_nothing : nothing.Sound where
  once := by
    intro index count there
    simp only [nothing, List.getElem?_toArray, List.getElem?_nil, reduceCtorEq] at there
  held := nofun

theorem not_stray_nothing : ¬ nothing.Stray := by
  rintro ⟨index, there, _⟩
  simp only [nothing, List.getElem?_toArray, List.getElem?_nil, reduceCtorEq] at there

theorem release_of_none {custody : Custody} (nothing : custody.held = none) :
    custody.release = custody := by
  simp only [release, nothing]

@[simp] theorem held_release (custody : Custody) : custody.release.held = none := by
  unfold release
  split
  · assumption
  · rfl

/-- A thing that is there is none that comes later. -/
theorem ne_size_of_getElem? {closes : Array Nat} {index count : Nat}
    (there : closes[index]? = some count) : index ≠ closes.size := by
  rintro rfl
  rw [Array.getElem?_eq_none (Nat.le_refl _)] at there
  cases there

theorem getElem?_push_of_getElem? {closes : Array Nat} {index count : Nat}
    (there : closes[index]? = some count) (new : Nat) :
    (closes.push new)[index]? = some count := by
  rw [Array.getElem?_push, if_neg (ne_size_of_getElem? there), there]

section

variable {custody : Custody}

theorem Sound.take (sound : custody.Sound) : custody.take.Sound where
  once := by
    intro index count there
    simp only [Custody.take, Array.getElem?_push] at there
    split at there
    · cases there
      exact Nat.zero_le 1
    · exact sound.once index count there
  held := by
    rintro _ ⟨⟩
    exact Array.getElem?_push_size

theorem Sound.lose (sound : custody.Sound) : custody.lose.Sound where
  once := sound.take.once
  held := fun index held => getElem?_push_of_getElem? (sound.held index held) 0

theorem Sound.discard (sound : custody.Sound) : custody.discard.Sound where
  once := by
    intro index count there
    simp only [Custody.discard, Array.getElem?_push] at there
    split at there
    · cases there
      exact Nat.le_refl 1
    · exact sound.once index count there
  held := fun index held => getElem?_push_of_getElem? (sound.held index held) 1

theorem Sound.release (sound : custody.Sound) : custody.release.Sound where
  once := by
    intro index count there
    unfold Custody.release at there
    split at there
    · exact sound.once index count there
    · rename_i other held
      rw [Array.getElem?_modify] at there
      split at there
      · rename_i same
        subst same
        rw [sound.held _ held] at there
        cases there
        exact Nat.le_refl 1
      · exact sound.once index count there
  held := by
    intro index held
    rw [held_release] at held
    cases held

/-- What is at hand strays when something new is taken. -/
theorem Sound.stray_take_iff (sound : custody.Sound) :
    custody.take.Stray ↔ custody.Stray ∨ custody.held.isSome := by
  have older {index : Nat} (there : custody.closes[index]? = some 0) :
      custody.take.closes[index]? = some 0 ∧ custody.take.held ≠ some index := by
    refine ⟨getElem?_push_of_getElem? there 0, ?_⟩
    intro same
    exact ne_size_of_getElem? there (Option.some.inj same).symm
  constructor
  · rintro ⟨index, there, apart⟩
    simp only [Custody.take, Array.getElem?_push] at there
    split at there
    · rename_i newest
      exact absurd (congrArg some newest.symm) apart
    · by_cases held : custody.held = some index
      · exact .inr (by rw [held, Option.isSome_some])
      · exact .inl ⟨index, there, held⟩
  · rintro (⟨index, there, _⟩ | held)
    · exact ⟨index, older there⟩
    · rcases Option.isSome_iff_exists.mp held with ⟨index, held⟩
      exact ⟨index, older (sound.held index held)⟩

theorem Sound.stray_lose (sound : custody.Sound) : custody.lose.Stray := by
  refine ⟨custody.closes.size, Array.getElem?_push_size, ?_⟩
  intro held
  exact ne_size_of_getElem? (sound.held _ held) rfl

theorem stray_discard_iff (custody : Custody) : custody.discard.Stray ↔ custody.Stray := by
  constructor
  · rintro ⟨index, there, apart⟩
    simp only [Custody.discard, Array.getElem?_push] at there
    split at there
    · cases there
    · exact ⟨index, there, apart⟩
  · rintro ⟨index, there, apart⟩
    exact ⟨index, getElem?_push_of_getElem? there 1, apart⟩

theorem Sound.stray_release_iff (sound : custody.Sound) :
    custody.release.Stray ↔ custody.Stray := by
  cases held : custody.held with
  | none => rw [release_of_none held]
  | some other =>
    have count := sound.held other held
    constructor
    · rintro ⟨index, there, _⟩
      simp only [Custody.release, held, Array.getElem?_modify] at there
      split at there
      · rename_i same
        subst same
        rw [count] at there
        cases there
      · rename_i apart
        exact ⟨index, there, fun same => apart (Option.some.inj (held.symm.trans same))⟩
    · rintro ⟨index, there, apart⟩
      refine ⟨index, ?_, by simp only [held_release, ne_eq, reduceCtorEq, not_false_eq_true]⟩
      have other_ne : other ≠ index := fun same => apart (same ▸ held)
      simp only [Custody.release, held, Array.getElem?_modify, if_neg other_ne, there]

theorem Sound.le_one (sound : custody.Sound) : ∀ count ∈ custody.closes, count ≤ 1 := by
  intro count member
  rcases Array.mem_iff_getElem?.mp member with ⟨index, there⟩
  exact sound.once index count there

/-- Once what is at hand is closed too, everything has been closed once unless
something has strayed. -/
theorem Sound.released_iff (sound : custody.Sound) :
    (∀ count ∈ custody.release.closes, count = 1) ↔ ¬ custody.Stray := by
  rw [← sound.stray_release_iff]
  constructor
  · rintro closed ⟨index, there, _⟩
    cases closed 0 (Array.mem_of_getElem? there)
  · intro none_stray count member
    have once := sound.release.le_one count member
    have positive : count ≠ 0 := by
      rintro rfl
      rcases Array.mem_iff_getElem?.mp member with ⟨index, there⟩
      refine none_stray ⟨index, there, ?_⟩
      rw [held_release]
      exact (Option.some_ne_none index).symm
    omega

end

end Custody

/-! ## What becomes of a request -/

/-- What a call of a body's stream means for what the stream has at hand. -/
inductive Fate where
  /-- Nothing is sent and nothing is closed. -/
  | idle
  | closed
  /-- There is no connection. -/
  | unreached
  /-- The request fails in a way that does not belong to the transport. -/
  | failed
  /-- The response is refused for its status. -/
  | refused
  /-- The response announces a length that cannot be read. -/
  | garbled
  /-- The response is taken up. -/
  | granted
  deriving DecidableEq

namespace Fate

/-- A request is sent. -/
def Sends (fate : Fate) : Prop := fate ≠ .idle ∧ fate ≠ .closed

/-- A request is sent and comes to nothing, and the stream is not closed. -/
def Abandons (fate : Fate) : Prop := fate = .failed ∨ fate = .garbled

/-- What becomes of the responses. -/
def onResponses (fate : Fate) (responses : Custody) : Custody :=
  match fate with
  | .idle | .unreached | .failed => responses
  | .closed => responses.release
  | .refused => responses.discard
  | .garbled => responses.lose
  | .granted => responses.take

/-- Connecting takes a client to hand, if the stream works through clients. -/
def connect (concurrency : Concurrency) (clients : Custody) : Custody :=
  match concurrency with
  | .blocking => clients
  | .asynchronous => clients.take

/-- Such a stream lets go of its client when it is closed, or closes itself. -/
def disconnect (concurrency : Concurrency) (clients : Custody) : Custody :=
  match concurrency with
  | .blocking => clients
  | .asynchronous => clients.release

/-- What becomes of the clients. -/
def onClients (concurrency : Concurrency) (fate : Fate) (clients : Custody) : Custody :=
  match fate with
  | .idle => clients
  | .closed => disconnect concurrency clients
  | .unreached | .refused => disconnect concurrency (connect concurrency clients)
  | .failed | .garbled | .granted => connect concurrency clients

end Fate

/-- What becomes of a request with this answer. -/
def Answer.fate : Answer -> Fate
  | .notConnected _ => .unreached
  | .systemFailure _ => .failed
  | .response status contentLength _ =>
    if status ≥ 400 then .refused
    else
      match announcementFault contentLength with
      | some _ => .garbled
      | none => .granted

namespace HttpBody

/-- What becomes of a call.  Only a read sends a request, and only where no
response is at hand. -/
def fate (operation : Operation) (state : HttpBody × Net) : Fate :=
  match operation, state.1.response with
  | .readInto _, none => (upcoming state).fate
  | .readInto _, some _ | .write _, _ => .idle
  | .close, _ => .closed

/-- What becomes of one call after the other. -/
def fates (concurrency : Concurrency) : List Operation -> HttpBody × Net -> List Fate
  | [], _ => []
  | operation :: operations, state =>
    fate operation state :: fates concurrency operations (perform concurrency operation state).2

/-- The responses that have been handed out, and the one at hand. -/
def responses (state : HttpBody × Net) : Custody :=
  ⟨state.2.responses.map Response.closes, state.1.response⟩

/-- The clients that have been created, and the one at hand. -/
def clients (state : HttpBody × Net) : Custody := ⟨state.2.clients, state.1.client⟩

/-! ## One call -/

/-- What is done to the responses and to the clients between two states. -/
structure Becomes (before : HttpBody × Net) (onResponses onClients : Custody -> Custody)
    (after : HttpBody × Net) : Prop where
  responses : responses after = onResponses (responses before)
  clients : clients after = onClients (clients before)
  concurrency : after.1.concurrency = before.1.concurrency

theorem Becomes.trans {before between after : HttpBody × Net}
    {onResponses onClients onResponses' onClients' : Custody -> Custody}
    (first : Becomes before onResponses onClients between)
    (second : Becomes between onResponses' onClients' after) :
    Becomes before (onResponses' ∘ onResponses) (onClients' ∘ onClients) after where
  responses := second.responses.trans (congrArg onResponses' first.responses)
  clients := second.clients.trans (congrArg onClients' first.clients)
  concurrency := second.concurrency.trans first.concurrency

theorem becomes_refl (state : HttpBody × Net) : Becomes state id id state := ⟨rfl, rfl, rfl⟩

/-- Closing a response is counted. -/
theorem closes_closeResponse (net : Net) (index : Nat) :
    (net.closeResponse index).responses.map Response.closes =
      (net.responses.map Response.closes).modify index (· + 1) := by
  apply Array.ext_getElem?
  intro other
  simp only [Net.closeResponse, Array.getElem?_map, Array.getElem?_modify]
  split
  · cases net.responses[other]? <;> rfl
  · rfl

theorem Blocking.becomes_close (state : HttpBody × Net) :
    Becomes state Custody.release id (Blocking.close state) := by
  rcases state with ⟨⟨_, _, _, _, _, _, response, _⟩, net⟩
  have closes (index : Nat) := closes_closeResponse net index
  cases response <;> refine ⟨?_, rfl, rfl⟩ <;>
    simp only [responses, Blocking.close, Custody.release, closes]

theorem Asynchronous.becomes_close (state : HttpBody × Net) :
    Becomes state Custody.release Custody.release (Asynchronous.close state) := by
  rcases state with ⟨⟨_, _, _, _, _, _, response, client⟩, net⟩
  have closes (index : Nat) := closes_closeResponse net index
  cases response <;> cases client <;> refine ⟨?_, rfl, rfl⟩ <;>
    simp only [responses, Asynchronous.close, Custody.release, closes, Net.closeClient]

/-- Either class lets go of its response, and a client only an asynchronous stream. -/
theorem becomes_close (state : HttpBody × Net) :
    Becomes state Custody.release (Fate.disconnect state.1.concurrency) (close state) := by
  unfold close
  cases state.1.concurrency with
  | blocking => exact Blocking.becomes_close state
  | asynchronous => exact Asynchronous.becomes_close state

/-- A stream that has no response closes nothing but its client in giving up. -/
theorem becomes_giveUp {state : HttpBody × Net} (nothing : state.1.response = none) :
    Becomes state id (Fate.disconnect state.1.concurrency) (giveUp state) := by
  have silent : (responses state).release = responses state := Custody.release_of_none nothing
  have closes := becomes_close state
  unfold giveUp
  cases concurrency : state.1.concurrency with
  | blocking => exact becomes_refl state
  | asynchronous =>
    rw [concurrency] at closes
    exact ⟨closes.responses.trans silent, closes.clients, closes.concurrency⟩

theorem becomes_asked (state : HttpBody × Net) :
    Becomes state id (Fate.connect state.1.concurrency) (asked state) := by
  rcases state with ⟨⟨url, concurrency, _, _, _, _, _, _⟩, net⟩
  cases concurrency <;> exact ⟨rfl, rfl, rfl⟩

theorem becomes_handed (chunks : List Chunk) (state : HttpBody × Net) :
    Becomes state Custody.lose (Fate.connect state.1.concurrency) (handed chunks state) := by
  have asks := becomes_asked state
  refine ⟨?_, asks.clients, asks.concurrency⟩
  have held : (asked state).1.response = state.1.response :=
    congrArg Custody.held asks.responses
  simp only [responses, handed, Net.handOut, responses_asked, Array.map_push, held, Custody.lose]

/-- A response that is closed as soon as it has been handed out. -/
theorem becomes_turnedDown (chunks : List Chunk) (state : HttpBody × Net) :
    Becomes state Custody.discard (Fate.connect state.1.concurrency)
      (turnedDown chunks state) := by
  have hands := becomes_handed chunks state
  refine ⟨?_, hands.clients, hands.concurrency⟩
  have held : (asked state).1.response = state.1.response :=
    congrArg Custody.held hands.responses
  have closes : (handed chunks state).2.responses.map Response.closes =
      (state.2.responses.map Response.closes).push 0 := congrArg Custody.closes hands.responses
  simp only [responses, turnedDown, closes_closeResponse, closes, held, Custody.discard]
  rw [← Array.size_map, modify_push_size]

theorem becomes_send {state : HttpBody × Net} (nothing : state.1.response = none) :
    Becomes state (upcoming state).fate.onResponses
      ((upcoming state).fate.onClients state.1.concurrency) (send state).2 := by
  have nothing' : (asked state).1.response = none :=
    (congrArg Custody.held (becomes_asked state).responses).trans nothing
  have goesOn : (asked state).1.concurrency = state.1.concurrency := (becomes_asked state).concurrency
  rw [send_eq]
  cases answered : upcoming state with
  | notConnected reason =>
    have gives := (becomes_asked state).trans (becomes_giveUp nothing')
    rw [goesOn] at gives
    exact gives
  | systemFailure text => exact becomes_asked state
  | response status contentLength chunks =>
    simp only [Answer.fate]
    by_cases refused : status ≥ 400
    · rw [if_pos refused, if_pos refused]
      have gives := (becomes_turnedDown chunks state).trans
        (@becomes_giveUp (turnedDown chunks state) nothing')
      rw [show (turnedDown chunks state).1.concurrency = state.1.concurrency from goesOn] at gives
      exact gives
    · rw [if_neg refused, if_neg refused]
      rcases announcement contentLength with ⟨understood, misunderstood⟩
      cases announced : announcementFault contentLength with
      | some fault =>
        rw [misunderstood fault announced]
        exact becomes_handed chunks state
      | none =>
        rcases exists_announced (understood announced) (asked state).1 with ⟨length, told⟩
        rw [told]
        have hands := becomes_handed chunks state
        refine ⟨?_, hands.clients, hands.concurrency⟩
        have closes : (handed chunks state).2.responses.map Response.closes =
            (state.2.responses.map Response.closes).push 0 :=
          congrArg Custody.closes hands.responses
        change responses _ = (responses state).take
        simp only [responses, closes, Custody.take, Array.size_map]

/-- Taking a piece of a body closes nothing. -/
theorem closes_pull (net : Net) (index : Nat) (chunkSize : Int) :
    (net.pull index chunkSize).2.responses.map Response.closes =
        net.responses.map Response.closes ∧
      (net.pull index chunkSize).2.clients = net.clients := by
  unfold Net.pull
  cases found : net.responses[index]? with
  | none => exact ⟨rfl, rfl⟩
  | some response =>
    refine ⟨?_, rfl⟩
    apply Array.ext_getElem?
    intro other
    simp only [Array.getElem?_map, Array.getElem?_setIfInBounds]
    split
    · rename_i same
      subst same
      have inside := (Array.getElem?_eq_some_iff.mp found).1
      simp only [inside, if_true, found, Option.map_some]
    · rfl

theorem becomes_ensurePending (state : HttpBody × Net) :
    Becomes state id id (ensurePending state).2 := by
  rcases state with ⟨⟨url, concurrency, chunkSize, _, _, pending, response, _⟩, net⟩
  cases pending with
  | cons byte pending => exact ⟨rfl, rfl, rfl⟩
  | nil =>
    cases response with
    | none => exact ⟨rfl, rfl, rfl⟩
    | some index =>
      rcases closes_pull net index chunkSize with ⟨closes, created⟩
      simp only [ensurePending]
      cases (net.pull index chunkSize).1 <;>
        exact ⟨congrArg (Custody.mk · (some index)) closes, congrArg (Custody.mk · _) created, rfl⟩

/-- What a read does to the responses and the clients, it does by its request. -/
theorem becomes_readInto (lent : Lent) (state : HttpBody × Net) :
    Becomes (ensureResponse state).2.2 id id (readInto lent state).2 := by
  rw [readInto_eq]
  rcases ensureResponse state with ⟨fault, events, sent⟩
  cases fault with
  | some fault => exact becomes_refl sent
  | none =>
    have pulls := becomes_ensurePending sent
    revert pulls
    simp only
    rcases ensurePending sent with ⟨fault, body, net⟩
    intro pulls
    cases fault with
    | some fault => exact pulls
    | none =>
      rcases lent with ⟨bytes, writable⟩
      cases writable <;> exact ⟨pulls.responses, pulls.clients, pulls.concurrency⟩

theorem becomes_perform (concurrency : Concurrency) (operation : Operation)
    (state : HttpBody × Net) :
    Becomes state (fate operation state).onResponses
      ((fate operation state).onClients state.1.concurrency)
      (perform concurrency operation state).2 := by
  cases operation with
  | write lent =>
    rw [perform_write]
    exact becomes_refl state
  | close =>
    rw [perform_close]
    exact becomes_close state
  | readInto lent =>
    rw [perform_readInto]
    have reads := becomes_readInto lent state
    simp only [ensureResponse] at reads
    simp only [fate]
    cases response : state.1.response with
    | some index =>
      rw [response] at reads
      exact (becomes_refl state).trans reads
    | none =>
      rw [response] at reads
      exact (becomes_send response).trans reads

/-! ## Any number of calls -/

end HttpBody

namespace Fate

theorem sound_onResponses (fate : Fate) {responses : Custody} (sound : responses.Sound) :
    (fate.onResponses responses).Sound := by
  cases fate with
  | idle | unreached | failed => exact sound
  | closed => exact sound.release
  | refused => exact sound.discard
  | garbled => exact sound.lose
  | granted => exact sound.take

/-- A response strays when its length cannot be read, and never else. -/
theorem stray_onResponses_iff {fate : Fate} {responses : Custody} (sound : responses.Sound)
    (free : fate.Sends -> responses.held = none) :
    (fate.onResponses responses).Stray ↔ responses.Stray ∨ fate = .garbled := by
  cases fate with
  | idle | unreached | failed => simp only [onResponses, reduceCtorEq, or_false]
  | closed => simp only [onResponses, sound.stray_release_iff, reduceCtorEq, or_false]
  | refused => simp only [onResponses, Custody.stray_discard_iff, reduceCtorEq, or_false]
  | garbled => simp only [onResponses, sound.stray_lose, or_true]
  | granted =>
    have nothing : responses.held = none := free ⟨nofun, nofun⟩
    simp only [onResponses, sound.stray_take_iff, nothing, Option.isSome_none,
      Bool.false_eq_true, reduceCtorEq]

theorem sound_connect (concurrency : Concurrency) {clients : Custody} (sound : clients.Sound) :
    (connect concurrency clients).Sound := by
  cases concurrency with
  | blocking => exact sound
  | asynchronous => exact sound.take

theorem sound_disconnect (concurrency : Concurrency) {clients : Custody} (sound : clients.Sound) :
    (disconnect concurrency clients).Sound := by
  cases concurrency with
  | blocking => exact sound
  | asynchronous => exact sound.release

theorem sound_onClients (concurrency : Concurrency) (fate : Fate) {clients : Custody}
    (sound : clients.Sound) : (fate.onClients concurrency clients).Sound := by
  have connected := sound_connect concurrency sound
  cases fate with
  | idle => exact sound
  | closed => exact sound_disconnect concurrency sound
  | unreached | refused => exact sound_disconnect concurrency connected
  | failed | garbled | granted => exact connected

/-- A client strays when a request is sent while it is at hand, and never
else. -/
theorem stray_onClients_iff {fate : Fate} {clients : Custody} (sound : clients.Sound) :
    (fate.onClients .asynchronous clients).Stray ↔
      clients.Stray ∨ fate.Sends ∧ clients.held.isSome := by
  cases fate with
  | idle => simp [onClients, Sends]
  | closed => simp [onClients, disconnect, Sends, sound.stray_release_iff]
  | unreached | refused =>
    simp [onClients, connect, disconnect, Sends, sound.take.stray_release_iff, sound.stray_take_iff]
  | failed | garbled | granted => simp [onClients, connect, Sends, sound.stray_take_iff]

/-- A request is sent before the stream is closed. -/
def Reasks : List Fate -> Prop
  | [] => False
  | fate :: fates => fate.Sends ∨ fate ≠ .closed ∧ Reasks fates

/-- After a request that is abandoned, another is sent before the stream is
closed. -/
def Forgets : List Fate -> Prop
  | [] => False
  | fate :: fates => fate.Abandons ∧ Reasks fates ∨ Forgets fates

end Fate

namespace HttpBody

theorem response_of_sends {operation : Operation} {state : HttpBody × Net}
    (sends : (fate operation state).Sends) : state.1.response = none := by
  unfold fate at sends
  split at sends
  · assumption
  · exact absurd rfl sends.1
  · exact absurd rfl sends.1
  · exact absurd rfl sends.2

/-- A client is at hand, and no response is received through it. -/
def Stranded (state : HttpBody × Net) : Prop :=
  state.1.client.isSome ∧ state.1.response = none

/-- Only an abandoned request strands a client, and it stays so until the next
request or until the stream is closed. -/
theorem stranded_perform_iff (operation : Operation) {state : HttpBody × Net}
    (asynchronous : state.1.concurrency = .asynchronous) :
    Stranded (perform .asynchronous operation state).2 ↔
      (fate operation state).Abandons ∨ Stranded state ∧ fate operation state = .idle := by
  have becomes := becomes_perform .asynchronous operation state
  have response : (perform .asynchronous operation state).2.1.response =
      ((fate operation state).onResponses (responses state)).held :=
    congrArg Custody.held becomes.responses
  have client : (perform .asynchronous operation state).2.1.client =
      ((fate operation state).onClients .asynchronous (clients state)).held :=
    asynchronous ▸ congrArg Custody.held becomes.clients
  unfold Stranded
  rw [response, client]
  have free := @response_of_sends operation state
  generalize fate operation state = fate at free ⊢
  cases fate with
  | idle => simp [Fate.onResponses, Fate.onClients, Fate.Abandons, responses, clients]
  | closed => simp [Fate.onClients, Fate.disconnect, Fate.Abandons]
  | unreached | refused => simp [Fate.onClients, Fate.disconnect, Fate.Abandons]
  | failed | garbled =>
    have nothing : state.1.response = none := free ⟨by decide, by decide⟩
    simp [Fate.onResponses, Fate.onClients, Fate.connect, Fate.Abandons, Custody.take,
      Custody.lose, responses, nothing]
  | granted => simp [Fate.onResponses, Fate.Abandons, Custody.take]

/-- Nothing has been closed twice, and what is at hand is open. -/
structure Kept (state : HttpBody × Net) : Prop where
  responses : (responses state).Sound
  clients : (clients state).Sound

theorem Kept.perform {state : HttpBody × Net} (kept : Kept state) (concurrency : Concurrency)
    (operation : Operation) : Kept (perform concurrency operation state).2 where
  responses := by
    rw [(becomes_perform concurrency operation state).responses]
    exact Fate.sound_onResponses _ kept.responses
  clients := by
    rw [(becomes_perform concurrency operation state).clients]
    exact Fate.sound_onClients _ _ kept.clients

theorem Kept.afterAll {state : HttpBody × Net} (kept : Kept state) (concurrency : Concurrency)
    (operations : List Operation) : Kept (afterAll concurrency operations state) := by
  induction operations generalizing state with
  | nil => exact kept
  | cons operation operations inductionHypothesis =>
    exact inductionHypothesis (kept.perform concurrency operation)

/-- The responses that have strayed are those whose length could not be read. -/
theorem stray_responses_iff {state : HttpBody × Net} (kept : Kept state)
    (concurrency : Concurrency) (operations : List Operation) :
    (responses (afterAll concurrency operations state)).Stray ↔
      (responses state).Stray ∨ .garbled ∈ fates concurrency operations state := by
  induction operations generalizing state with
  | nil => simp only [afterAll, List.foldl_nil, fates, List.not_mem_nil, or_false]
  | cons operation operations inductionHypothesis =>
    have strays := Fate.stray_onResponses_iff kept.responses (@response_of_sends operation state)
    rw [← (becomes_perform concurrency operation state).responses] at strays
    rw [afterAll_cons, inductionHypothesis (kept.perform concurrency operation), strays, fates,
      List.mem_cons, or_assoc, eq_comm]

/-- A client strays where another request is sent while it is stranded.  The
induction takes the client that is stranded at the beginning along, since the
request to which it gives way may come much later. -/
theorem stray_clients_iff {state : HttpBody × Net} (kept : Kept state)
    (asynchronous : state.1.concurrency = .asynchronous) (operations : List Operation) :
    (clients (afterAll .asynchronous operations state)).Stray ↔
      (clients state).Stray ∨
        Stranded state ∧ Fate.Reasks (fates .asynchronous operations state) ∨
        Fate.Forgets (fates .asynchronous operations state) := by
  induction operations generalizing state with
  | nil =>
    simp only [afterAll, List.foldl_nil, fates, Fate.Reasks, Fate.Forgets, and_false, or_false]
  | cons operation operations inductionHypothesis =>
    have becomes := becomes_perform .asynchronous operation state
    have strays := @Fate.stray_onClients_iff (fate operation state) _ kept.clients
    rw [← asynchronous, ← becomes.clients] at strays
    rw [afterAll_cons, inductionHypothesis (kept.perform .asynchronous operation)
      (becomes.concurrency.trans asynchronous), strays, stranded_perform_iff operation asynchronous]
    simp only [fates, Fate.Reasks, Fate.Forgets]
    generalize fates .asynchronous operations (perform .asynchronous operation state).2 = later
    have atHand : (fate operation state).Sends ∧ (clients state).held.isSome ↔
        Stranded state ∧ (fate operation state).Sends :=
      ⟨fun ⟨sends, held⟩ => ⟨⟨held, response_of_sends sends⟩, sends⟩,
        fun ⟨stranded, sends⟩ => ⟨sends, stranded.1⟩⟩
    have notClosed : fate operation state ≠ .closed ↔
        (fate operation state).Sends ∨ fate operation state = .idle := by
      cases fate operation state <;> simp [Fate.Sends]
    rw [atHand, notClosed]
    grind

/-- A blocking stream has no clients. -/
theorem clients_afterAll_blocking {state : HttpBody × Net}
    (blocking : state.1.concurrency = .blocking) (none_there : clients state = .nothing)
    (operations : List Operation) :
    clients (afterAll .blocking operations state) = .nothing := by
  induction operations generalizing state with
  | nil => exact none_there
  | cons operation operations inductionHypothesis =>
    have becomes := becomes_perform .blocking operation state
    rw [afterAll_cons]
    apply inductionHypothesis (becomes.concurrency.trans blocking)
    rw [becomes.clients, none_there, blocking]
    cases fate operation state <;> rfl

/-! ## Closing -/

theorem concurrency_afterAll (concurrency : Concurrency) (operations : List Operation)
    (state : HttpBody × Net) :
    (afterAll concurrency operations state).1.concurrency = state.1.concurrency := by
  induction operations generalizing state with
  | nil => rfl
  | cons operation operations inductionHypothesis =>
    exact (inductionHypothesis _).trans (becomes_perform concurrency operation state).concurrency

theorem responses_fresh (concurrency : Concurrency) (url : String) (chunkSize : Int)
    (script : List (String × List Answer)) :
    responses (fresh concurrency url chunkSize, Net.ofScript script) = .nothing :=
  congrArg (Custody.mk · none) Array.map_empty

theorem becomes_closing (concurrency : Concurrency) (operations : List Operation)
    (state : HttpBody × Net) :
    Becomes (afterAll concurrency operations state) Custody.release
      (Fate.disconnect state.1.concurrency)
      (afterAll concurrency (operations ++ [.close]) state) := by
  rw [afterAll_append, ← concurrency_afterAll concurrency operations state]
  exact becomes_close _

/-- Whatever is done with the stream of a body, in whatever order, and whatever
the network answers: once the stream has been closed at the end, nothing has
been closed twice.  Every response that the network handed out has been closed,
unless one of them announced a length that could not be read.  And every client
that an asynchronous stream created has been closed, unless a request that was
abandoned was followed by another before the stream was closed. -/
theorem closing_releases_iff (concurrency : Concurrency) (url : String) (chunkSize : Int)
    (script : List (String × List Answer)) (operations : List Operation) :
    let start := (fresh concurrency url chunkSize, Net.ofScript script)
    let net := (afterAll concurrency (operations ++ [.close]) start).2
    (∀ response ∈ net.responses, response.closes ≤ 1) ∧
      (∀ closes ∈ net.clients, closes ≤ 1) ∧
      ((∀ response ∈ net.responses, response.closes = 1) ↔
        .garbled ∉ fates concurrency operations start) ∧
      ((∀ closes ∈ net.clients, closes = 1) ↔
        (concurrency = .asynchronous ->
          ¬ Fate.Forgets (fates concurrency operations start))) := by
  intro start net
  have noResponses : responses start = .nothing := responses_fresh concurrency url chunkSize script
  have noClients : clients start = .nothing := rfl
  have unused : Kept start := ⟨noResponses ▸ Custody.sound_nothing, Custody.sound_nothing⟩
  have kept := unused.afterAll concurrency operations
  have becomes := becomes_closing concurrency operations start
  have handedOut : net.responses.map Response.closes =
      (responses (afterAll concurrency operations start)).release.closes :=
    congrArg Custody.closes becomes.responses
  have created : net.clients =
      (Fate.disconnect concurrency (clients (afterAll concurrency operations start))).closes :=
    congrArg Custody.closes becomes.clients
  refine ⟨?_, ?_, ?_, ?_⟩
  · rw [← Array.forall_mem_map (P := (· ≤ 1)), handedOut]
    exact kept.responses.release.le_one
  · rw [created]
    exact (Fate.sound_disconnect concurrency kept.clients).le_one
  · rw [← Array.forall_mem_map (P := (· = 1)), handedOut, kept.responses.released_iff,
      stray_responses_iff unused, noResponses, or_iff_right Custody.not_stray_nothing]
  · rw [created]
    cases concurrency with
    | blocking =>
      have none_created : ∀ closes ∈ Custody.nothing.closes, closes = 1 :=
        fun closes member => absurd member (Array.not_mem_empty closes)
      rw [clients_afterAll_blocking rfl noClients]
      simp only [reduceCtorEq, false_implies, iff_true]
      exact none_created
    | asynchronous =>
      have notStranded : ¬ Stranded start := by
        rintro ⟨⟨⟩, _⟩
      simp only [Fate.disconnect, kept.clients.released_iff]
      rw [stray_clients_iff unused rfl, noClients, or_iff_right Custody.not_stray_nothing]
      simp only [notStranded, false_and, false_or, true_implies]

/-- A response with a length that cannot be read stays open although its stream
is closed.  So does the client of a request that failed in the system, once the
request has been sent again. -/
theorem not_released_of_garbled_or_failed :
    let read : Operation := .readInto ⟨[0], true⟩
    let garbled := Net.ofScript [("http://host", [.response 200 (some "x") [.bytes [1]]])]
    let failed := Net.ofScript
      [("http://host", [.systemFailure "reset", .response 200 none [.bytes [1]]])]
    (¬ ∀ response ∈ (afterAll .blocking [read, .close]
        (fresh .blocking "http://host" 4, garbled)).2.responses, response.closes = 1) ∧
      ¬ ∀ closes ∈ (afterAll .asynchronous [read, read, .close]
        (fresh .asynchronous "http://host" 4, failed)).2.clients, closes = 1 := by
  intro read garbled failed
  have dropped : (afterAll .blocking [read, .close]
      (fresh .blocking "http://host" 4, garbled)).2.responses = #[⟨[.bytes [1]], false, 0⟩] := rfl
  have forgotten : (afterAll .asynchronous [read, read, .close]
      (fresh .asynchronous "http://host" 4, failed)).2.clients = #[0, 1] := rfl
  rw [dropped, forgotten]
  constructor
  · intro closed
    cases closed ⟨[.bytes [1]], false, 0⟩ (Array.mem_singleton.mpr rfl)
  · intro closed
    cases closed 0 (by simp)

end HttpBody

end ResumableStreams
