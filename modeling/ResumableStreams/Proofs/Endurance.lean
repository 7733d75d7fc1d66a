import ResumableStreams.Proofs.Acceptance
import ResumableStreams.Proofs.Excess
import ResumableStreams.Proofs.Passes
import ResumableStreams.Proofs.Persistence

namespace ResumableStreams

/-!
# How long a drive can last

A stream may block any number of times, and may reply anything when it does
not.  Yet every reply other than that it is blocked brings a drive closer to its
end: it ends the drive, or bytes have moved.  A machine that misses so many
bytes therefore hears at most so many such replies.  A `ReadToEnd` misses no
number of bytes, but any reply that is not a number of bytes within its buffer
ends its drive, and so does the number zero.

A limit is reached only by a drive whose stream has replied as often as the
limit allows.  So a drive that hears few replies and is blocked seldom comes to
its end.
-/

/-! ## Drives that hear few replies -/

section

variable {Machine Value : Type}

/-- The replies of a drive, in order, are within a bound: whenever the stream is
asked, fewer replies than the bound have been heard, not counting those that it
was blocked.  Where the drive has not ended, there has been a reply for every
call that the limit allows. -/
structure HearsFew (bound limit : Nat) (replies : List Reply) (ending : Ending Value) : Prop where
  asked : ∀ earlier reply later, replies = earlier ++ reply :: later ->
    earlier.countP Reply.isHeard < bound
  heard : replies.countP Reply.isHeard ≤ bound
  unfinished : ending = .unfinished -> replies.length = limit

/-- Only a reply that decides the drive is the last, and it is always the last.
Where the drive has not ended, there has been a reply for every call that the
limit allows. -/
structure EndsAtFirst (decides : Reply -> Prop) (limit : Nat) (replies : List Reply)
    (ending : Ending Value) : Prop where
  last : ∀ earlier reply later, replies = earlier ++ reply :: later -> decides reply -> later = []
  decided : ending ≠ .unfinished -> ∃ earlier reply, replies = earlier ++ [reply] ∧ decides reply
  unfinished : ending = .unfinished -> replies.length = limit

theorem Course.Covers.length_of_unfinished {course : Course Machine Value} {State : Type}
    {stream : Stream State} {concurrency : Concurrency} {limit : Nat} {before replies : List Reply}
    {ending : Ending Value} (covers : course.Covers stream concurrency limit before replies ending)
    (unfinished : ending = .unfinished) : replies.length = limit := by
  cases covers.ended with
  | unfinished length => exact length
  | rested rests own => exact absurd unfinished own
  | raised asks leaves gives => cases unfinished

/-- A drive hears few replies if it asks only while it has heard fewer. -/
theorem Course.Covers.hearsFew {course : Course Machine Value} {State : Type}
    {stream : Stream State} {concurrency : Concurrency} {limit bound : Nat} {replies : List Reply}
    {ending : Ending Value} (covers : course.Covers stream concurrency limit [] replies ending)
    (fewer : ∀ {earlier machine exchange memory}, course.Asks earlier machine exchange memory ->
      earlier.countP Reply.isHeard < bound) : HearsFew bound limit replies ending := by
  have asked (earlier : List Reply) (reply : Reply) (later : List Reply)
      (split : replies = earlier ++ reply :: later) : earlier.countP Reply.isHeard < bound := by
    rcases covers.asked earlier reply later split with ⟨machine, exchange, memory, asks⟩
    exact fewer asks
  refine ⟨asked, ?_, covers.length_of_unfinished⟩
  rcases List.eq_nil_or_concat replies with none_given | ⟨earlier, reply, split⟩
  · rw [none_given]
    exact Nat.zero_le _
  · rw [List.concat_eq_append] at split
    have before := asked earlier reply [] split
    have last : [reply].countP Reply.isHeard ≤ 1 := List.countP_le_length
    rw [split, List.countP_append]
    omega

variable [Resumable Machine Value]

/-- On every stream whatever, and with any limit, a drive of this machine hears
at most so many replies.  They are those that the recorded stream keeps, which
nobody can tell from the stream itself. -/
def EndsWithin (bound : Nat) (machine : Machine) (memory : Memory) : Prop :=
  ∀ ⦃State : Type⦄ (stream : Stream State) (concurrency : Concurrency) (limit : Nat)
    (journal : Array Event) (state : State),
    let run := drive concurrency stream limit machine ⟨memory, journal, state⟩
    let watched := drive concurrency (stream.recorded concurrency) limit machine
      ⟨memory, journal, ([], state)⟩
    run.Beside (fun reached record => record.2 = reached) watched ∧
      HearsFew bound limit watched.context.state.1 run.ending

/-- On every stream that does not change the lengths of buffers, and with any
limit, a drive of this machine ends with the first reply that decides it. -/
def EndsWhenDecided (decides : Reply -> Prop) (machine : Machine) (memory : Memory) : Prop :=
  ∀ ⦃State : Type⦄ (stream : Stream State) (concurrency : Concurrency) (limit : Nat)
    (journal : Array Event) (state : State), stream.KeepsLengths concurrency ->
    let run := drive concurrency stream limit machine ⟨memory, journal, state⟩
    let watched := drive concurrency (stream.recorded concurrency) limit machine
      ⟨memory, journal, ([], state)⟩
    run.Beside (fun reached record => record.2 = reached) watched ∧
      EndsAtFirst decides limit watched.context.state.1 run.ending

/-- A machine whose drives go by a course ends them within a bound, if the
course has the stream asked only while fewer replies have been heard. -/
theorem EndsWithin.of_course {bound : Nat} {machine : Machine} {memory : Memory}
    (course : Course Machine Value)
    (kept : ∀ {State : Type} (stream : Stream State) (concurrency : Concurrency),
      course.Kept stream concurrency)
    (leads : course.Leads [] (Resumable.resume machine none memory))
    (fewer : ∀ {earlier machine exchange memory}, course.Asks earlier machine exchange memory ->
      earlier.countP Reply.isHeard < bound) : EndsWithin bound machine memory := by
  intro State stream concurrency limit journal state run watched
  have beside : run.Beside (fun reached record => record.2 = reached) watched :=
    (stream.imitates_recorded concurrency).drive limit machine ⟨rfl, rfl⟩
  have covers : course.Covers stream concurrency limit [] watched.context.state.1 watched.ending :=
    (kept stream concurrency).drive limit machine memory journal state leads
  rw [beside.ending] at covers
  exact ⟨beside, covers.hearsFew fewer⟩

end

@[simp] theorem countP_blocked (replies : List Reply) :
    (replies ++ [Reply.wouldBlock]).countP Reply.isHeard = replies.countP Reply.isHeard := by
  rw [List.countP_append]
  rfl

@[simp] theorem countP_moved (replies : List Reply) (count : Int) :
    (replies ++ [Reply.moved count]).countP Reply.isHeard = replies.countP Reply.isHeard + 1 := by
  rw [List.countP_append]
  rfl

/-! ## Machines that make one request -/

/-- The stream is asked as long as nothing has been heard but that it is
blocked. -/
def onceHeard (Machine Value : Type) (direction : Direction) : Course Machine Value where
  Asks replies _ exchange _ :=
    (∃ buffer, exchange = ⟨direction, .request buffer⟩) ∧ replies.countP Reply.isHeard = 0
  Rests _ _ := True

/-- A machine that makes a request, repeats it when it gets it back, and comes to
rest with any response, hears one reply. -/
theorem endsWithin_one {Machine Value : Type} [Resumable Machine Value] {direction : Direction}
    (asks : ∀ (machine : Machine) memory, ∃ buffer,
      (Resumable.resume machine none memory).progress = .needs ⟨direction, .request buffer⟩)
    (repeats : ∀ (machine : Machine) buffer, Repeats machine ⟨direction, .request buffer⟩)
    (rests : ∀ (machine : Machine) output memory exchange,
      (Resumable.resume machine (some ⟨direction, .response output⟩) memory).progress ≠
        .needs exchange)
    (machine : Machine) (memory : Memory) : EndsWithin 1 machine memory := by
  refine EndsWithin.of_course (onceHeard Machine Value direction) ?_ ?_ ?_
  · intro State stream concurrency
    refine ⟨?_, ?_, ?_⟩
    · rintro replies machine exchange memory ⟨⟨buffer, rfl⟩, -⟩
      exact ⟨direction, buffer, rfl⟩
    · rintro replies machine direction buffer before after ⟨⟨_, ⟨⟩⟩, nothing⟩ leaves
      rcases repeats machine buffer after with ⟨events, repeated⟩
      rw [repeated]
      exact ⟨⟨buffer, rfl⟩, (countP_blocked replies).trans nothing⟩
    · rintro replies machine direction buffer before after ⟨⟨_, ⟨⟩⟩, nothing⟩ leaves count fits
      have rested := rests machine ⟨buffer, count⟩ after
      unfold Course.Leads
      split
      · rename_i exchange needs
        exact absurd needs (rested exchange)
      · trivial
      · trivial
      · trivial
      · trivial
  · rcases asks machine memory with ⟨buffer, asked⟩
    simp only [Course.Leads, asked]
    exact ⟨⟨buffer, rfl⟩, rfl⟩
  · rintro earlier waiting exchange memory' ⟨-, nothing⟩
    exact nothing ▸ Nat.one_pos

theorem Read.endsWithin_one (read : Read) (memory : Memory) : EndsWithin 1 read memory := by
  refine ResumableStreams.endsWithin_one (fun machine memory => ⟨_, rfl⟩)
    (fun machine buffer memory => ⟨[.readResumed], rfl⟩) ?_ read memory
  intro machine output memory exchange
  show (machine.receive ⟨.read, .response output⟩ memory).progress ≠ .needs exchange
  by_cases nothing : output.count = 0
  · simp only [receive, if_pos nothing]
    rintro ⟨⟩
  · simp only [receive, if_neg nothing]
    rintro ⟨⟩

theorem Write.endsWithin_one (write : Write) (memory : Memory) : EndsWithin 1 write memory := by
  refine ResumableStreams.endsWithin_one (fun machine memory => ⟨_, rfl⟩)
    (fun machine buffer memory => ⟨[.writeResumed], rfl⟩) ?_ write memory
  intro machine output memory exchange
  show (machine.receive ⟨.write, .response output⟩ memory).progress ≠ .needs exchange
  by_cases nothing : output.count = 0
  · simp only [receive, if_pos nothing]
    rintro ⟨⟩
  · simp only [receive, if_neg nothing]
    rintro ⟨⟩

/-! ## Machines that miss a number of bytes -/

/-- Each reply that is heard gives at least one of the bytes that are missing. -/
theorem ReadExact.endsWithin_missing {machine : ReadExact} {memory : Memory}
    (ready : machine.Ready memory) : EndsWithin machine.remaining machine memory := by
  refine EndsWithin.of_course (machine.tallying False) ?_ ?_ ?_
  · intro State stream concurrency
    exact machine.kept_tallying False.elim
  · exact ready.leads rfl (Int.add_zero _).symm (Int.le_refl _) False.elim
  · intro earlier waiting exchange memory' tallies
    have gathered := tallies.gathered
    have heard := tallies.heard
    have target := tallies.target
    have short : ¬ waiting.target ≤ waiting.collected.size := tallies.fitted.incomplete
    unfold remaining
    omega

namespace WriteAll

/-- While the stream is asked, it is offered as many bytes as remain, and it has
taken at least one with each reply that was heard. -/
structure Offers (size : Nat) (replies : List Reply) (machine : WriteAll) (exchange : Exchange)
    (memory : Memory) : Prop where
  offered : ∃ buffer, exchange = ⟨.write, .request buffer⟩ ∧
    buffer.size memory = machine.remaining
  left : machine.remaining ≠ 0
  heard : replies.countP Reply.isHeard + machine.remaining ≤ size

def offering (size : Nat) : Course WriteAll Nat := ⟨Offers size, fun _ _ => True⟩

/-- A machine that has in hand what remains offers it, unless nothing does. -/
theorem leads_offering {size : Nat} {replies : List Reply} {machine : WriteAll} {memory : Memory}
    (loaded : machine.write.payload.size memory = machine.remaining)
    (heard : replies.countP Reply.isHeard + machine.remaining ≤ size) :
    (offering size).Leads replies (Resumable.resume machine none memory) := by
  by_cases done : machine.remaining = 0
  · rw [resume_of_done done]
    trivial
  · rw [resume_none done]
    exact ⟨⟨_, rfl, loaded⟩, done, heard⟩

theorem kept_offering {State : Type} {stream : Stream State} {concurrency : Concurrency}
    (size : Nat) : (offering size).Kept stream concurrency where
  isRequest := by
    intro replies machine exchange memory offers
    rcases offers.offered with ⟨buffer, request, -⟩
    exact ⟨.write, buffer, request⟩
  blocked := by
    intro replies machine direction buffer before after offers leaves
    rcases offers.offered with ⟨_, ⟨⟩, size⟩
    rw [resume_request offers.left, leaves.written rfl]
    exact ⟨⟨buffer, rfl, size⟩, offers.left, (countP_blocked replies).symm ▸ offers.heard⟩
  moved := by
    intro replies machine direction buffer before after offers leaves count fits
    rcases offers.offered with ⟨_, ⟨⟩, size⟩
    have heard := offers.heard
    by_cases nothing : count = 0
    · subst nothing
      rw [resume_nothing offers.left]
      trivial
    · rcases resume_moved offers.left (show (Output.mk buffer count).count ≠ 0 from nothing)
        after with ⟨events, resumed⟩
      rcases machine.remaining_absorb ⟨buffer, count⟩ after with ⟨left, loaded⟩
      have same : buffer.size after = buffer.size before := by rw [leaves.written rfl]
      rw [resumed]
      apply leads_offering loaded
      rw [left, countP_moved]
      show replies.countP Reply.isHeard + 1 + (buffer.size after - count) ≤ _
      omega

theorem endsWithin_payload {machine : WriteAll} {memory : Memory}
    (loaded : machine.write.payload.size memory = machine.remaining) :
    EndsWithin machine.remaining machine memory := by
  refine EndsWithin.of_course (offering machine.remaining) ?_ ?_ ?_
  · intro State stream concurrency
    exact kept_offering machine.remaining
  · exact leads_offering loaded (Nat.le_of_eq (Nat.zero_add _))
  · intro earlier waiting exchange memory' offers
    have left := offers.left
    have heard := offers.heard
    omega

end WriteAll

/-! ## Reading to the end -/

namespace ReadToEnd

/-- A reply ends the reading, with buffers of this capacity: no bytes, an error,
or a count that cannot be. -/
def Decides (capacity : Nat) : Reply -> Prop
  | .moved count => ¬ (0 < count ∧ count ≤ capacity)
  | .raised _ => True
  | .wouldBlock => False

/-- While the stream is asked, a buffer of the capacity is lent, and no reply
has decided anything. -/
structure Undecided (capacity : Nat) (replies : List Reply) (exchange : Exchange)
    (memory : Memory) : Prop where
  lends : ∃ cell, exchange = ⟨.read, .request (.shared cell)⟩ ∧ memory.Holds cell ∧
    (memory.contents cell).length = capacity
  none_decides : ∀ reply ∈ replies, ¬ Decides capacity reply

def deciding (capacity : Nat) : Course ReadToEnd Bytes where
  Asks replies _ exchange memory := Undecided capacity replies exchange memory
  Rests replies _ := ∃ earlier reply, replies = earlier ++ [reply] ∧ Decides capacity reply

theorem leads_deciding {machine : ReadToEnd} {memory : Memory} {replies : List Reply}
    {capacity : Nat} (armed : machine.read.Armed memory) (same : machine.read.capacity = capacity)
    (undecided : ∀ reply ∈ replies, ¬ Decides capacity reply) :
    (deciding capacity).Leads replies (Resumable.resume machine none memory) := by
  rcases exists_lent armed with ⟨cell, after, asked, held, zeros⟩
  rw [asked]
  refine ⟨⟨cell, rfl, held, ?_⟩, undecided⟩
  rw [zeros, Bytes.length_zeros, same]

/-- A reply that decides nothing leaves everything undecided. -/
theorem undecided_append {capacity : Nat} {replies : List Reply} {reply : Reply}
    (before : ∀ other ∈ replies, ¬ Decides capacity other) (now : ¬ Decides capacity reply) :
    ∀ other ∈ replies ++ [reply], ¬ Decides capacity other := by
  intro other member
  rcases List.mem_append.mp member with known | new
  · exact before other known
  · rw [List.mem_singleton.mp new]
    exact now

theorem kept_deciding {State : Type} {stream : Stream State} {concurrency : Concurrency}
    (capacity : Nat) (lengths : stream.KeepsLengths concurrency) :
    (deciding capacity).Kept stream concurrency where
  isRequest := by
    intro replies machine exchange memory undecided
    rcases undecided.lends with ⟨cell, lent, -, -⟩
    exact ⟨.read, .shared cell, lent⟩
  blocked := by
    intro replies machine direction buffer before after undecided leaves
    rcases undecided.lends with ⟨cell, ⟨⟩, held, length⟩
    rw [resume_request]
    have same : (after.contents cell).length = (before.contents cell).length :=
      leaves.lengths lengths (.shared cell)
    exact ⟨⟨cell, rfl, leaves.holds held, same.trans length⟩,
      undecided_append undecided.none_decides id⟩
  moved := by
    intro replies machine direction buffer before after undecided leaves count fits
    rcases undecided.lends with ⟨cell, ⟨⟩, held, length⟩
    have same : (Buffer.shared cell).size after = capacity :=
      (leaves.lengths lengths (.shared cell)).trans length
    by_cases nothing : count = 0
    · subst nothing
      rw [resume_end]
      exact ⟨replies, .moved 0, rfl, fun moves => Int.lt_irrefl 0 moves.1⟩
    · rw [resume_bytes machine (show (Output.mk (.shared cell) count).count ≠ 0 from nothing)]
      have returned : ∀ other, Buffer.shared cell = .shared other -> after.Holds other := by
        rintro _ ⟨⟩
        exact leaves.holds held
      have sameCapacity := (machine.read.capacity_replace (.shared cell) after).trans same
      have positive : 0 < (count : Int) := Int.natCast_pos.mpr (Nat.pos_of_ne_zero nothing)
      have within : (count : Int) ≤ capacity := Int.ofNat_le.mpr (same ▸ fits)
      have undecidedAfter : ∀ reply ∈ replies ++ [.moved count], ¬ Decides capacity reply :=
        undecided_append undecided.none_decides fun decides => decides ⟨positive, within⟩
      exact leads_deciding (machine.read.armed_replace returned) sameCapacity undecidedAfter

theorem endsWhenDecided {machine : ReadToEnd} {memory : Memory}
    (armed : machine.read.Armed memory) :
    EndsWhenDecided (Decides machine.read.capacity) machine memory := by
  intro State stream concurrency limit journal state lengths run watched
  have beside : run.Beside (fun reached record => record.2 = reached) watched :=
    (stream.imitates_recorded concurrency).drive limit machine ⟨rfl, rfl⟩
  have leads : (deciding machine.read.capacity).Leads [] (Resumable.resume machine none memory) :=
    leads_deciding armed rfl (List.forall_mem_nil _)
  have covers : (deciding machine.read.capacity).Covers stream concurrency limit []
      watched.context.state.1 watched.ending :=
    (kept_deciding machine.read.capacity lengths).drive limit machine memory journal state leads
  rw [beside.ending] at covers
  refine ⟨beside, ?_, ?_, covers.length_of_unfinished⟩
  · intro earlier reply later split decides
    cases later with
    | nil => rfl
    | cons next later =>
      -- The stream was asked again, so the reply before cannot have decided anything.
      have again : watched.context.state.1 = earlier ++ [reply] ++ next :: later := by
        rw [split, List.append_assoc, List.singleton_append]
      rcases covers.asked (earlier ++ [reply]) next later again with ⟨_, _, _, undecided⟩
      exact absurd decides (undecided.none_decides reply List.mem_concat_self)
  · intro ended
    generalize watched.context.state.1 = replies at covers ⊢
    generalize run.ending = ending at covers ended ⊢
    cases covers.ended with
    | unfinished length => exact absurd rfl ended
    | rested rests own => exact rests
    | @raised replies _ direction buffer before after reply fault undecided leaves gives =>
      refine ⟨replies, reply, rfl, ?_⟩
      rcases undecided.lends with ⟨cell, ⟨⟩, held, length⟩
      have same : (Buffer.shared cell).size after = machine.read.capacity :=
        (leaves.lengths lengths (.shared cell)).trans length
      cases gives with
      | raised => trivial
      | refused count outside =>
        rintro ⟨positive, within⟩
        exact outside ⟨Int.le_of_lt positive, same ▸ within⟩

end ReadToEnd

/-! ## All machines -/

theorem ReadToEnd.read_seeded (machine : ReadToEnd) (seeds : List Bytes) :
    (seeds.foldl extend machine).read = machine.read :=
  @Collecting.seeded_of_extend ReadToEnd _ (fun seeded => seeded.read = machine.read)
    (fun _ _ same => same) machine rfl seeds

/-- The capacity of a new machine is the one that was asked for. -/
theorem ReadToEnd.capacity_make {capacity : Int} {memory : Memory} {machine : ReadToEnd}
    (built : (make capacity memory).result = .ok machine) :
    machine.read.capacity = capacity.toNat := by
  rcases of_make built with ⟨-, read, inner, rfl, -⟩
  exact (Read.armed_make inner).2

/-- However a stream replies, a drive of a machine that misses some bytes, to
be read or to be written, hears at most one reply per missing byte, apart from
those that the stream is blocked, and a drive of a single read or write hears
one.  Where reads keep the lengths of buffers, reading to the end ends with the
first reply that is no bytes, an error, or not within the buffer, and with no
other.  As long as a drive has not ended, there has been a reply for each call
that the limit allows.

Each of these calls is a loop over the inner machine that returns within two
passes, and with at most two steps of the inner machine. -/
theorem drives_end_within_bounds :
    (∀ (target capacity : Int) (seeds : List Bytes) (memory : Memory) (machine : ReadExact),
      (ReadExact.make target capacity memory).result = .ok machine ->
      EndsWithin (target.toNat - seeds.flatten.length) (seeds.foldl ReadExact.extend machine)
        (ReadExact.make target capacity memory).memory) ∧
    (∀ (payload : Buffer) (memory : Memory),
      EndsWithin (payload.size memory) (WriteAll.make payload memory).1 memory) ∧
    (∀ (read : Read) (memory : Memory), EndsWithin 1 read memory) ∧
    (∀ (write : Write) (memory : Memory), EndsWithin 1 write memory) ∧
    (∀ (capacity : Int) (seeds : List Bytes) (memory : Memory) (machine : ReadToEnd),
      (ReadToEnd.make capacity memory).result = .ok machine ->
      EndsWhenDecided (ReadToEnd.Decides capacity.toNat) (seeds.foldl ReadToEnd.extend machine)
        (ReadToEnd.make capacity memory).memory) ∧
    ∀ (answer : Option Exchange) (memory : Memory) (passes steps : Nat),
      (∀ machine : ReadExact, ∃ inner ≤ 2,
        loop ReadExact.pass (passes + 2) machine answer memory steps =
          (some (Resumable.resume machine answer memory), steps + inner)) ∧
      (∀ machine : ReadToEnd, ∃ inner ≤ 2,
        loop ReadToEnd.pass (passes + 2) machine answer memory steps =
          (some (Resumable.resume machine answer memory), steps + inner)) ∧
      ∀ machine : WriteAll, ∃ inner ≤ 2,
        loop WriteAll.pass (passes + 2) machine answer memory steps =
          (some (Resumable.resume machine answer memory), steps + inner) := by
  refine ⟨?_, ?_, Read.endsWithin_one, Write.endsWithin_one, ?_, ?_⟩
  · intro target capacity seeds memory machine built
    rcases ReadExact.blank_make built with ⟨wanted, blank⟩
    rw [← wanted, ← ReadExact.remaining_seeded blank seeds]
    exact ReadExact.endsWithin_missing ((ReadExact.ready_make built).seeded seeds)
  · intro payload memory
    exact WriteAll.endsWithin_payload rfl
  · intro capacity seeds memory machine built
    have same := machine.read_seeded seeds
    rw [← ReadToEnd.capacity_make built, ← same]
    apply ReadToEnd.endsWhenDecided
    rw [same]
    exact (ReadToEnd.ready_make built).armed
  · intro answer memory passes steps
    exact ⟨fun machine => ReadExact.loopsOnce.loop_eq_resume machine answer memory passes steps,
      fun machine => ReadToEnd.loopsOnce.loop_eq_resume machine answer memory passes steps,
      fun machine => WriteAll.loopsOnce.loop_eq_resume machine answer memory passes steps⟩

/-- A machine that misses two of three bytes hears at most two replies of a
stream that is blocked before each of them.  A machine that reads a file in
memory to the end stops with the first reply that decides it. -/
theorem drives_end_within_bounds_of_two :
    let start : Scripted :=
      ⟨[1, 2, 3, 4], [.wouldBlock, .upTo 1, .wouldBlock], [], .empty, 0, 0⟩
    let stream := Scripted.stream .blocking ⟨true, false, false, false⟩
    let built := ReadExact.create 3 2 .empty
    let machine := [[9]].foldl ReadExact.extend built.1
    let file := MemoryFile.ofBytes [1, 2, 3]
    let toEnd := ReadToEnd.create 2 .empty
    HearsFew 2 6
        (drive .blocking (stream.recorded .blocking) 6 machine
          ⟨built.2, #[], ([], start)⟩).context.state.1
        (drive .blocking stream 6 machine ⟨built.2, #[], start⟩).ending ∧
      EndsAtFirst (ReadToEnd.Decides 2) 6
        (drive .blocking (MemoryFile.stream.recorded .blocking) 6 toEnd.1
          ⟨toEnd.2, #[], ([], file)⟩).context.state.1
        (drive .blocking MemoryFile.stream 6 toEnd.1 ⟨toEnd.2, #[], file⟩).ending := by
  intro start stream built machine file toEnd
  have made : (ReadExact.make 3 2 .empty).result = .ok built.1 ∧
      (ReadExact.make 3 2 .empty).memory = built.2 := ⟨rfl, rfl⟩
  have madeToEnd : (ReadToEnd.make 2 .empty).result = .ok toEnd.1 ∧
      (ReadToEnd.make 2 .empty).memory = toEnd.2 := ⟨rfl, rfl⟩
  have few := drives_end_within_bounds.1 3 2 [[9]] .empty built.1 made.1
  have decided := drives_end_within_bounds.2.2.2.2.1 2 [] .empty toEnd.1 madeToEnd.1
  rw [made.2] at few
  rw [madeToEnd.2] at decided
  -- The two drives must not be computed from here on.
  clear_value start file built toEnd
  exact ⟨(few stream .blocking 6 #[] start).2,
    (decided MemoryFile.stream .blocking 6 #[] file MemoryFile.keepsLengths).2⟩

end ResumableStreams
