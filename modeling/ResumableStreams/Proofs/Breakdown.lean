import ResumableStreams.Proofs.Offering
import ResumableStreams.Proofs.Persistence

namespace ResumableStreams

/-!
# Bodies that break off

A body whose transfer breaks off is told apart from a whole one by a single
read, the one that finds nothing more to hand out: it fails.  No read before it
comes back with nothing.  But every read after it does, since nothing is left
of the response that could fail again, and a response of which nothing is left
looks as if it had come to its end.

So a machine that reads to the end is stopped once.  If it is driven again, it
takes the part that it has got for the whole.
-/

/-! ## Streams that fail when they are empty -/

namespace Stream

variable {State : Type}

/-- What a stream still has to give before it fails with `fault`, in each state
in which it may be read.  Having failed, it is in one of the states `After`. -/
structure Failing (stream : Stream State) (concurrency : Concurrency) (fault : Fault)
    (After : State -> Prop) where
  Ready : State -> Prop
  rest : State -> Bytes
  fill : ∀ contents state, Ready state -> contents ≠ [] ->
    let read := stream.fill concurrency ⟨contents, true⟩ state
    (Ready read.2 ∧ ∃ count, 0 < count ∧ read.1.Delivers contents (rest state) count ∧
        rest read.2 = (rest state).drop count) ∨
      rest state = [] ∧ read.1.reply = .raised fault ∧ After read.2

end Stream

namespace Persevering

variable {Machine State : Type} [Resumable Machine Bytes] [Persevering Machine]
  {stream : Stream State} {concurrency : Concurrency} {fault : Fault} {After : State -> Prop}

/-- The drive has failed with the stream.  The machine has taken everything that
there was: if `more` came now, it would be as if it had come behind that. -/
structure Stopped (fault : Fault) (After : State -> Prop) (machine : Machine)
    (content more : Bytes) (run : Run Machine Bytes State) : Prop where
  ending : run.ending = .raised fault
  ready : Ready run.machine run.context.memory
  source : After run.context.state
  prospect : Persevering.prospect run.machine more =
    Persevering.prospect machine (content ++ more)

/-- On a stream that fails when it is empty, the machine is stopped, unless it
comes first to what it would come to if the stream had more.  The induction is
on the limit, since every round but the last takes bytes. -/
theorem comes_or_stopped (failing : stream.Failing concurrency fault After) (more : Bytes)
    (limit : Nat) {machine : Machine} {context : Context State} (turns : List Turn)
    (ready : Ready machine context.memory) (source : failing.Ready context.state)
    (enough : (failing.rest context.state).length + 1 < limit) :
    let run := driveFrom (handle concurrency stream) limit machine none context turns
    run.ending = (prospect machine (failing.rest context.state ++ more)).1 ∨
      Stopped fault After machine (failing.rest context.state) more run := by
  induction limit generalizing machine context turns with
  | zero => exact absurd enough (Nat.not_lt_zero _)
  | succ limit inductionHypothesis =>
    rcases begins ready with
      ⟨ending, rests, same⟩ | ⟨cell, waiting, memory, events, asked, waits, same⟩
    · rw [driveFrom_resting limit rests, same]
      exact .inl rfl
    · rcases lent waits with ⟨held, room⟩
      let asking := context.after memory events
      have outcome := failing.fill (asking.memory.contents cell) asking.state source room
      cases filled : stream.fill concurrency ⟨asking.memory.contents cell, true⟩ asking.state with
      | mk filling state =>
        simp only [filled] at outcome
        rcases outcome with
          ⟨sourceAfter, count, positive, delivered, rest⟩ | ⟨nothing, raised, after⟩
        · rcases Stream.exists_handle_of_delivers held filled delivered with
            ⟨reached, handled, rfl, heldAfter, stored⟩
          have rest : failing.rest reached.state = (failing.rest context.state).drop count := rest
          have there : count ≤ (failing.rest context.state).length := delivered.count_le_rest
          have waitsAfter := Persevering.filled waits heldAfter (stored ▸ delivered.length)
          have start : (reached.memory.contents cell).take count =
              (failing.rest context.state ++ more).take count := by
            rw [stored, List.take_append_of_le_length there]
            exact delivered.start
          rcases takes waitsAfter positive
            (by rw [stored, delivered.length]; exact delivered.count_le_length)
            (by rw [List.length_append]; exact Nat.le_add_right_of_le there) start with
            ⟨next, after, events', taken, readyNext, promised⟩
          rw [same, List.drop_append_of_le_length there, ← rest] at promised
          rw [driveFrom_needs limit asked handled]
          -- The answer needs another round, and the limit allows for it.
          cases limit with
          | zero => omega
          | succ limit =>
            rw [driveFrom_of_resume_eq limit _ taken]
            have shorter : (failing.rest (reached.after after events').state).length + 1 <
                limit + 1 := by
              rw [Context.state_after, rest, List.length_drop]
              omega
            rcases @inductionHypothesis _ (reached.after after events') _ readyNext sourceAfter
              shorter with ended | stopped
            · exact .inl (ended.trans (congrArg Prod.fst promised))
            · exact .inr { stopped with prospect := stopped.prospect.trans promised }
        · rcases Stream.exists_handle_of_raised filled raised with
            ⟨reached, handled, rfl⟩
          have nothing : failing.rest context.state = [] := nothing
          rw [driveFrom_raised limit asked handled]
          refine .inr ⟨rfl, again waits _, after, ?_⟩
          rw [same, nothing, List.nil_append]

end Persevering

/-- A machine that reads to the end cannot come to anything before it knows that
there is nothing more. -/
theorem ReadToEnd.Ready.stopped {State : Type} {stream : Stream State} {concurrency : Concurrency}
    {fault : Fault} {After : State -> Prop} (failing : stream.Failing concurrency fault After)
    (limit : Nat) {machine : ReadToEnd} {context : Context State} (turns : List Turn)
    (ready : machine.Ready context.memory) (source : failing.Ready context.state)
    (enough : (failing.rest context.state).length + 1 < limit) :
    let run := driveFrom (handle concurrency stream) limit machine none context turns
    run.ending = .raised fault ∧ After run.context.state ∧ run.machine.Ready run.context.memory ∧
      run.machine.collected.bytes =
        machine.collected.bytes ++ failing.rest context.state := by
  have comes := fun more =>
    @Persevering.comes_or_stopped ReadToEnd _ _ _ _ _ _ _ failing more limit machine context turns
      ready source enough
  generalize driveFrom (handle concurrency stream) limit machine none context turns = run at comes ⊢
  rcases comes [] with ended | stopped
  · exfalso
    -- It would have to be the same result if another byte came.
    rcases comes [0] with ended' | stopped
    · have same := Ending.finished.inj (ended.symm.trans ended')
      cases List.append_cancel_left (List.append_cancel_left same)
    · cases ended.symm.trans stopped.ending
  · refine ⟨stopped.ending, stopped.source, stopped.ready, ?_⟩
    have same := Ending.finished.inj (congrArg Prod.fst stopped.prospect)
    simpa only [List.append_nil] using same

/-! ## Reads of a body -/

namespace HttpBody

/-- This content is to be had, and after it this failure or else the end.  The
request may have to be sent first. -/
def Coming (state : HttpBody × Net) (content : Bytes) (failure : Option Fault) : Prop :=
  ∃ events sent index,
    ensureResponse state = (none, events, sent) ∧ Receives sent index content failure

theorem Receives.coming {state : HttpBody × Net} {index : Nat} {content : Bytes}
    {failure : Option Fault} (receives : Receives state index content failure) :
    Coming state content failure :=
  ⟨[], state, index, receives.ensureResponse, receives⟩

theorem Coming.undelivered_eq {state : HttpBody × Net} {content : Bytes} {failure : Option Fault}
    (coming : Coming state content failure) :
    undelivered (ensureResponse state).2.2 = content := by
  rcases coming with ⟨events, sent, index, ensured, receives⟩
  rw [ensured]
  exact receives.undelivered_eq

/-- What reading into a buffer with room comes to while a failure is still to
come. -/
inductive Reads (buffer content : Bytes) (fault : Fault) : Filling × (HttpBody × Net) -> Prop where
  | bytes {data left : Bytes} {events : List Event} {after : HttpBody × Net} :
      data ≠ [] -> content = data ++ left -> data.length ≤ buffer.length ->
      Coming after left (some fault) ->
      Reads buffer content fault (⟨Bytes.overStart data buffer, .moved data.length, events⟩, after)
  | broken {events : List Event} {after : HttpBody × Net} : content = [] -> Coming after [] none ->
      Reads buffer content fault (⟨buffer, .raised fault, events⟩, after)

section

variable {state : HttpBody × Net} {content : Bytes} {fault : Fault}

/-- Before the failure a read gives something, or it is the one that fails. -/
theorem Coming.reads (coming : Coming state content (some fault)) {buffer : Bytes}
    (room : buffer ≠ []) : Reads buffer content fault (readInto ⟨buffer, true⟩ state) := by
  rcases coming with ⟨events, sent, index, ensured, receives⟩
  have delivers := (delivers_readInto ensured receives buffer).1
  generalize readInto ⟨buffer, true⟩ state = read at delivers ⊢
  cases delivers with
  | failed nothing failed receivesAfter _ =>
    cases failed
    exact .broken nothing receivesAfter.coming
  | @bytes data _ _ _ pieces fits ended receivesAfter _ =>
    refine .bytes (fun nothing => ?_) pieces fits receivesAfter.coming
    cases (ended nothing room).2

/-- After the failure a read gives nothing, and does not fail. -/
theorem Coming.reads_nothing (coming : Coming state [] none) (buffer : Bytes) :
    ∃ events after, readInto ⟨buffer, true⟩ state = (⟨buffer, .moved 0, events⟩, after) ∧
      Coming after [] none := by
  rcases coming with ⟨events, sent, index, ensured, receives⟩
  have delivers := (delivers_readInto ensured receives buffer).1
  generalize readInto ⟨buffer, true⟩ state = read at delivers ⊢
  cases delivers with
  | failed _ failed _ _ => cases failed
  | @bytes data left noted after pieces _ _ receivesAfter _ =>
    rcases List.append_eq_nil_iff.mp pieces.symm with ⟨rfl, rfl⟩
    exact ⟨noted, after, rfl, receivesAfter.coming⟩

/-- One of the reads has failed. -/
def Told (fillings : List Filling) : Prop :=
  ∃ filling ∈ fillings, ∃ fault, filling.reply = .raised fault

theorem told_cons {filling : Filling} {fillings : List Filling} :
    Told (filling :: fillings) ↔ (∃ fault, filling.reply = .raised fault) ∨ Told fillings := by
  simp only [Told, List.mem_cons, exists_eq_or_imp]

/-- After the failure no reads give anything, and none fails. -/
theorem Coming.readAll_nothing (coming : Coming state [] none) (buffers : List Bytes) :
    let out := readAll buffers state
    out.1.flatMap Filling.handedOut = [] ∧ ¬ Told out.1 ∧ Coming out.2 [] none := by
  induction buffers generalizing state with
  | nil => exact ⟨rfl, nofun, coming⟩
  | cons buffer buffers inductionHypothesis =>
    rcases coming.reads_nothing buffer with ⟨events, after, read, comingAfter⟩
    rcases inductionHypothesis comingAfter with ⟨nothing, silent, last⟩
    simp only [readAll, read]
    refine ⟨nothing, ?_, last⟩
    rw [told_cons]
    rintro (⟨_, ⟨⟩⟩ | told)
    exact silent told

/-- How far the reading of a body that is going to break off has come: the
failure is still to come, or it has been told, and nothing comes any more. -/
inductive Course (content : Bytes) (fault : Fault) (handed : Bytes) (told : Prop)
    (state : HttpBody × Net) : Prop where
  | flowing {left : Bytes} : handed ++ left = content -> ¬ told -> Coming state left (some fault) ->
      Course content fault handed told state
  | ended : handed = content -> told -> Coming state [] none -> Course content fault handed told state

/-- However the body is read, it has come so far. -/
theorem Coming.readAll (coming : Coming state content (some fault)) {buffers : List Bytes}
    (room : ∀ buffer ∈ buffers, buffer ≠ []) :
    let out := HttpBody.readAll buffers state
    Course content fault (out.1.flatMap Filling.handedOut) (Told out.1) out.2 := by
  induction buffers generalizing state content with
  | nil => exact .flowing rfl nofun coming
  | cons buffer buffers inductionHypothesis =>
    have reads := coming.reads (room buffer List.mem_cons_self)
    simp only [HttpBody.readAll]
    generalize readInto ⟨buffer, true⟩ state = read at reads ⊢
    cases reads with
    | @bytes data later events after some_come pieces fits comingAfter =>
      have taken : Filling.handedOut
          ⟨Bytes.overStart data buffer, .moved data.length, events⟩ = data :=
        Bytes.take_overStart data buffer
      have silent {told : Prop} : (∃ other, Reply.moved (data.length : Int) = .raised other) ∨ told ↔
          told := by
        simp only [reduceCtorEq, exists_false, false_or]
      rw [List.flatMap_cons, taken]
      cases inductionHypothesis comingAfter fun _ member => room _ (List.mem_cons_of_mem _ member)
        with
      | flowing whole untold last =>
        refine .flowing ?_ (by rwa [told_cons, silent]) last
        rw [List.append_assoc, whole, pieces]
      | ended whole told last =>
        refine .ended ?_ (by rwa [told_cons, silent]) last
        rw [whole, pieces]
    | broken nothing comingAfter =>
      rcases comingAfter.readAll_nothing buffers with ⟨silent, -, last⟩
      refine .ended ?_ (told_cons.mpr (.inl ⟨fault, rfl⟩)) last
      rw [nothing, List.flatMap_cons, silent]
      rfl

/-- What the next read comes to tells how far the reading has come. -/
theorem Course.reply_iff {handed : Bytes} {told : Prop}
    (course : Course content fault handed told state) {buffer : Bytes} (room : buffer ≠ []) :
    let read := readInto ⟨buffer, true⟩ state
    (read.1.reply = .moved 0 ↔ told) ∧
      ∀ other, read.1.reply = .raised other ↔ other = fault ∧ handed = content ∧ ¬ told := by
  intro read
  cases course with
  | @flowing left whole untold coming =>
    have reads := coming.reads room
    change Reads buffer left fault read at reads
    clear_value read
    cases reads with
    | @bytes data later events after some_come pieces fits comingLater =>
      have moved : ((data.length : Nat) : Int) ≠ 0 :=
        Int.ofNat_ne_zero.mpr fun zero => some_come (List.length_eq_zero_iff.mp zero)
      have unfinished : handed ≠ content := by
        intro same
        rw [← same, pieces, List.append_right_eq_self] at whole
        exact some_come (List.append_eq_nil_iff.mp whole).1
      refine ⟨⟨?_, fun told => absurd told untold⟩, fun other => ⟨nofun, ?_⟩⟩
      · intro replied
        exact absurd (Reply.moved.inj replied) moved
      · rintro ⟨-, same, -⟩
        exact absurd same unfinished
    | broken nothing comingLater =>
      rw [nothing, List.append_nil] at whole
      refine ⟨⟨nofun, fun told => absurd told untold⟩, fun other => ⟨?_, ?_⟩⟩
      · intro replied
        exact ⟨(Reply.raised.inj replied).symm, whole, untold⟩
      · rintro ⟨rfl, -⟩
        rfl
  | ended whole told coming =>
    rcases coming.reads_nothing buffer with ⟨events, after, same, -⟩
    have same : read = (⟨buffer, .moved 0, events⟩, after) := same
    rw [same]
    refine ⟨⟨fun _ => told, fun _ => rfl⟩, fun other => ⟨nofun, ?_⟩⟩
    rintro ⟨-, -, untold⟩
    exact absurd told untold

end

/-! ## Driving over a failure -/

/-- A body that is going to break off. -/
def failing (concurrency : Concurrency) (fault : Fault) :
    (stream concurrency).Failing concurrency fault fun state => Coming state [] none where
  Ready state := ∃ content, Coming state content (some fault)
  rest state := undelivered (ensureResponse state).2.2
  fill := by
    rintro contents state ⟨content, coming⟩ room
    have reads := coming.reads room
    rw [fill_eq_readInto, coming.undelivered_eq]
    generalize HttpBody.readInto ⟨contents, true⟩ state = read at reads ⊢
    cases reads with
    | broken nothing after => exact .inr ⟨nothing, rfl, after⟩
    | @bytes data left events after some_come pieces fits comingAfter =>
      refine .inl ⟨⟨left, comingAfter⟩, data.length, List.length_pos_iff.mpr some_come,
        Filling.delivers_overStart pieces fits fun nothing => absurd nothing some_come, ?_⟩
      rw [comingAfter.undelivered_eq, pieces, List.drop_left]

/-- A machine that reads to the end is stopped by the failure, and once more it
is not. -/
theorem Coming.drives {state : HttpBody × Net} {content : Bytes} {fault : Fault}
    (coming : Coming state content (some fault)) (concurrency : Concurrency) {limit : Nat}
    {machine : ReadToEnd} {memory : Memory} (journal : Array Event) (ready : machine.Ready memory)
    (enough : content.length + 1 < limit) :
    let first := drive concurrency (stream concurrency) limit machine ⟨memory, journal, state⟩
    let second := drive concurrency (stream concurrency) limit first.machine first.context
    first.ending = .raised fault ∧
      second.ending = .finished (machine.collected.bytes ++ content) := by
  intro first second
  have rest : (failing concurrency fault).rest state = content := coming.undelivered_eq
  have stopped := @ReadToEnd.Ready.stopped _ _ _ _ _ (failing concurrency fault) limit machine
    ⟨memory, journal, state⟩ [] ready ⟨content, coming⟩ (rest.symm ▸ enough)
  change first.ending = .raised fault ∧ Coming first.context.state [] none ∧
    first.machine.Ready first.context.memory ∧ first.machine.collected.bytes =
      machine.collected.bytes ++ (failing concurrency fault).rest state at stopped
  rcases stopped with ⟨raised, last, again, collected⟩
  refine ⟨raised, ?_⟩
  -- What is left of the response is a body that has come to its end.
  have exhausted : (supply concurrency).rest first.context.state = [] := last.undelivered_eq
  have source : (supply concurrency).Ready first.context.state := by
    rcases last with ⟨events, sent, index, ensured, receives⟩
    exact ⟨events, sent, index, [], ensured, receives⟩
  have enough' : ((supply concurrency).rest first.context.state).length + 1 < limit := by
    rw [exhausted]
    exact Nat.lt_of_le_of_lt (Nat.le_add_left _ _) enough
  have drained := @ReadToEnd.Ready.drained _ _ _ (supply concurrency) limit first.machine
    first.context [] again source enough'
  refine drained.ending.trans ?_
  rw [exhausted, List.append_nil, collected, rest]

/-- A stream that has not sent its request is to receive what the network will
answer, if that is accepted. -/
theorem Unsent.coming {start : HttpBody × Net} {status : Int} {contentLength : Option String}
    {chunks : List Chunk} (unsent : start.1.Unsent)
    (answered : upcoming start = .response status contentLength chunks) (accepted : status < 400)
    (understood : Announces contentLength) :
    Coming start (Chunk.deliverable chunks) (Chunk.failure start.1.url chunks) := by
  rcases exists_send unsent.pending answered accepted understood with ⟨sent, sends, isSent⟩
  refine ⟨[.sendingGet start.1.concurrency start.1.url], sent, _, ?_, isSent.receives⟩
  simp only [ensureResponse, unsent.response, sends]

/-- A body that breaks off fails once.  Whatever the lengths of its chunks and
of the buffers, a read comes back with nothing exactly if an earlier one has
failed; and it fails exactly if everything that came has been handed out and no
earlier read has failed, with the failure of the transfer.

So whatever has been read before, a machine that reads to the end is stopped by
the failure if no read has met it yet; and driven again it gives the rest of
what came as if that were the rest of the body. -/
theorem failure_told_once {start : HttpBody × Net} {status : Int} {contentLength : Option String}
    {chunks : List Chunk} {fault : Fault} (unsent : start.1.Unsent)
    (answered : upcoming start = .response status contentLength chunks) (accepted : status < 400)
    (understood : Announces contentLength)
    (breaks : Chunk.failure start.1.url chunks = some fault)
    (buffers : List Bytes) (room : ∀ buffer ∈ buffers, buffer ≠ []) :
    let earlier := readAll buffers start
    let handed := earlier.1.flatMap Filling.handedOut
    (∀ buffer : Bytes, buffer ≠ [] ->
      let last := readInto ⟨buffer, true⟩ earlier.2
      (last.1.reply = .moved 0 ↔ Told earlier.1) ∧
        ∀ other, last.1.reply = .raised other ↔
          other = fault ∧ handed = Chunk.deliverable chunks ∧ ¬ Told earlier.1) ∧
    (¬ Told earlier.1 ->
      ∀ (concurrency : Concurrency) (capacity : Int) (memory : Memory) (machine : ReadToEnd)
        (seeds : List Bytes) (journal : Array Event) (limit : Nat),
        (ReadToEnd.make capacity memory).result = .ok machine ->
        (Chunk.deliverable chunks).length + 1 < limit ->
        let first := drive concurrency (stream concurrency) limit
          (seeds.foldl ReadToEnd.extend machine)
          ⟨(ReadToEnd.make capacity memory).memory, journal, earlier.2⟩
        let second := drive concurrency (stream concurrency) limit first.machine first.context
        first.ending = .raised fault ∧
          ∃ rest, handed ++ rest = Chunk.deliverable chunks ∧
            second.ending = .finished (seeds.flatten ++ rest)) := by
  have coming := unsent.coming answered accepted understood
  rw [breaks] at coming
  intro earlier handed
  have course : Course (Chunk.deliverable chunks) fault handed (Told earlier.1) earlier.2 :=
    coming.readAll room
  refine ⟨fun buffer wide => course.reply_iff wide, ?_⟩
  intro untold concurrency capacity memory machine seeds journal limit built enough first second
  cases course with
  | ended _ told _ => exact absurd told untold
  | @flowing left whole _ comingAfter =>
    have short : left.length + 1 < limit := by
      rw [← whole, List.length_append] at enough
      omega
    have driven := comingAfter.drives concurrency journal
      ((ReadToEnd.ready_make built).seeded seeds) short
    have seeded : (seeds.foldl ReadToEnd.extend machine).collected.bytes =
        machine.collected.bytes ++ seeds.flatten := Collecting.collected_seeded machine seeds
    rw [seeded, ReadToEnd.collected_make built] at driven
    exact ⟨driven.1, left, whole, driven.2⟩

/-- Two bytes of a body are read one by one, and then the failure is met.  Where
the second byte has not been read before, a machine is stopped at the failure,
and gives that byte when it is driven again. -/
theorem failure_told_once_of_two :
    let net := Net.ofScript
      [("http://host", [.response 200 (some "9") [.bytes [1, 2], .broken "reset"]])]
    let start : HttpBody × Net := (fresh .asynchronous "http://host" 4, net)
    let fault := Fault.transport (.brokenBody "http://host" "reset")
    let built := ReadToEnd.create 3 .empty
    let first := drive .asynchronous (stream .asynchronous) 4 built.1
      ⟨built.2, #[], (readAll [[0]] start).2⟩
    let second := drive .asynchronous (stream .asynchronous) 4 first.machine first.context
    (readInto ⟨[0], true⟩ (readAll [[0], [0]] start).2).1.reply = .raised fault ∧
      first.ending = .raised fault ∧ ∃ rest, [1] ++ rest = [1, 2] ∧ second.ending = .finished rest := by
  intro net start fault built first second
  have understood : Announces (some "9") := by
    rintro _ ⟨⟩
    exact .inr ⟨9, by rfl⟩
  have untold : ¬ Told (readAll [[0]] start).1 := by
    rintro ⟨filling, member, fault, raised⟩
    cases List.mem_singleton.mp member
    cases raised
  have untoldThen : ¬ Told (readAll [[0], [0]] start).1 := by
    rintro ⟨filling, member, fault, raised⟩
    rcases List.mem_cons.mp member with rfl | member
    · cases raised
    · cases List.mem_singleton.mp member
      cases raised
  have made : (ReadToEnd.make 3 .empty).result = .ok built.1 ∧
      (ReadToEnd.make 3 .empty).memory = built.2 := ⟨rfl, rfl⟩
  have reads := fun buffers => @failure_told_once start 200 (some "9")
    [.bytes [1, 2], .broken "reset"] fault ⟨rfl, rfl⟩ rfl (by decide) understood rfl buffers
  have driven := (reads [[0]] (by decide)).2 untold .asynchronous 3 .empty built.1 [] #[] 4 made.1
    (by decide)
  rw [made.2] at driven
  have replies := ((reads [[0], [0]] (by decide)).1 [0] (by decide)).2 fault
  exact ⟨replies.mpr ⟨rfl, rfl, untoldThen⟩, driven⟩

/-- A read after the one that fails comes back with nothing, and a machine that
is driven again passes two bytes off as the body. -/
theorem ended_after_failure :
    let net := Net.ofScript [("http://host", [.response 200 none [.bytes [1, 2], .broken "reset"]])]
    let start : HttpBody × Net := (fresh .blocking "http://host" defaultChunkSize, net)
    let built := ReadToEnd.create 4 .empty
    let first := drive .blocking (stream .blocking) 4 built.1 ⟨built.2, #[], start⟩
    let second := drive .blocking (stream .blocking) 4 first.machine first.context
    (¬ ∀ filling ∈ (readAll [[0, 0], [0, 0], [0, 0]] start).1, filling.reply ≠ .moved 0) ∧
      ¬ ∀ value, second.ending ≠ .finished value := by
  intro net start built first second
  have understood : Announces none := nofun
  have coming : Coming start [1, 2] (some (.transport (.brokenBody "http://host" "reset"))) :=
    @Unsent.coming start 200 none [.bytes [1, 2], .broken "reset"] ⟨rfl, rfl⟩ rfl (by decide)
      understood
  constructor
  · intro nonzero
    apply nonzero ⟨[0, 0], .moved 0, []⟩ _ rfl
    exact List.mem_cons_of_mem _ (List.mem_cons_of_mem _ (List.mem_singleton.mpr rfl))
  · intro unfinished
    have driven := coming.drives .blocking #[] (ReadToEnd.ready_create (show 0 < 4 by decide) .empty)
      (show [1, 2].length + 1 < 4 by decide)
    exact unfinished [1, 2] driven.2

end HttpBody

end ResumableStreams
