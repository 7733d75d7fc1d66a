import ResumableStreams.Proofs.Driving
import ResumableStreams.Stream.Scripted

namespace ResumableStreams

/-!
# Streams that take what they say

A stream to which bytes are offered may take as many of the first ones as it
likes, none at all included, may be unable to take any at present, or may fail
without having taken any.  A writing machine relies on nothing but the reply,
and this is what a `Sink` records of a stream: the bytes that it has taken grow
by exactly what it says.  Which of these it does may change at each offer.
-/

/-- What a reply says about the bytes that a stream has taken, before and after
`data` was offered. -/
inductive Reply.Accounts (data before after : Bytes) : Reply -> Prop where
  /-- The first bytes have been taken, this many. -/
  | moved (count : Nat) : count ≤ data.length -> after = before ++ data.take count ->
      Accounts data before after (.moved count)
  | wouldBlock : after = before -> Accounts data before after .wouldBlock
  | raised (fault : Fault) : after = before -> Accounts data before after (.raised fault)

namespace Stream

variable {State : Type} {stream : Stream State} {concurrency : Concurrency}

/-- What a stream has taken in each state in which it may be written to. -/
structure Sink (stream : Stream State) (concurrency : Concurrency) where
  Ready : State -> Prop
  taken : State -> Bytes
  offer : ∀ lent state, Ready state ->
    Ready (stream.offer concurrency lent state).2 ∧
      Reply.Accounts lent.bytes (taken state) (taken (stream.offer concurrency lent state).2)
        (stream.offer concurrency lent state).1

namespace Sink

/-- The runtime has offered the bytes of a buffer, and this has come of it. -/
inductive Performed (sink : stream.Sink concurrency) (buffer : Buffer)
    (before after : Context State) : Except Fault Exchange -> Prop where
  /-- The first bytes have moved to the stream. -/
  | moved (count : Nat) : count ≤ buffer.size before.memory ->
      sink.taken after.state =
        sink.taken before.state ++ (buffer.bytes before.memory).take count ->
      Performed sink buffer before after (.ok ⟨.write, .response ⟨buffer, count⟩⟩)
  /-- The request has come back. -/
  | blocked : sink.taken after.state = sink.taken before.state ->
      Performed sink buffer before after (.ok ⟨.write, .request buffer⟩)
  | raised (fault : Fault) : sink.taken after.state = sink.taken before.state ->
      Performed sink buffer before after (.error fault)

/-- Whatever a sink replies to a write is believed, and no buffer changes. -/
theorem exists_handle (sink : stream.Sink concurrency) {context : Context State} (buffer : Buffer)
    (ready : sink.Ready context.state) :
    ∃ result after, handle concurrency stream ⟨.write, .request buffer⟩ context = (result, after) ∧
      after.memory = context.memory ∧ sink.Ready after.state ∧
      sink.Performed buffer context after result := by
  rcases sink.offer ⟨buffer.bytes context.memory, buffer.isMutable⟩ context.state ready with
    ⟨readyAfter, accounts⟩
  cases offered : stream.offer concurrency ⟨buffer.bytes context.memory, buffer.isMutable⟩
    context.state with
  | mk reply state =>
    rw [offered] at readyAfter accounts
    refine ⟨_, _, handle_write_of_offer offered, rfl, readyAfter, ?_⟩
    cases accounts with
    | moved count fits taken =>
      have answered := Exchange.answer_moved ⟨.write, .request buffer⟩ fits
      rw [answered]
      exact .moved count fits taken
    | wouldBlock same => exact .blocked same
    | raised fault same => exact .raised fault same

end Sink

end Stream

/-! ## Scripted streams -/

namespace Prescription

/-- A write as prescribed moves what it says. -/
def isHonest : Prescription -> Bool
  | .claim _ => false
  | _ => true

end Prescription

namespace Scripted

/-- Every write that is prescribed moves what it says. -/
def IsHonest (stream : Scripted) : Prop := stream.writes.all Prescription.isHonest = true

/-- The next prescription is honest, and so is what remains of the script. -/
theorem IsHonest.nextWrite {stream : Scripted} (honest : stream.IsHonest) :
    stream.nextWrite.1.isHonest = true ∧ stream.nextWrite.2.IsHonest := by
  unfold IsHonest at honest
  cases writes : stream.writes with
  | nil =>
    simp only [Scripted.nextWrite, IsHonest, writes, List.headD, List.tail_nil, List.all_nil,
      Prescription.isHonest, and_self]
  | cons prescription rest =>
    rw [writes, List.all_cons, Bool.and_eq_true] at honest
    simp only [Scripted.nextWrite, IsHonest, writes, List.headD, List.tail_cons]
    exact honest

theorem accounts_accept (stream : Scripted) (data : Bytes) (count : Nat) :
    Reply.Accounts data stream.sink.bytes (stream.accept (data.take count)).2.sink.bytes
      (stream.accept (data.take count)).1 := by
  have pieces : data.take (data.take count).length = data.take count := by
    rw [List.length_take]
    exact List.take_eq_take_min.symm
  refine .moved (data.take count).length (List.length_take_le' count data) ?_
  rw [pieces]
  exact Collected.bytes_append stream.sink (data.take count)

theorem accounts_accept_all (stream : Scripted) (data : Bytes) :
    Reply.Accounts data stream.sink.bytes (stream.accept data).2.sink.bytes
      (stream.accept data).1 := by
  have accounts := stream.accounts_accept data data.length
  rw [List.take_length] at accounts
  exact accounts

/-- A write as an honest script prescribes it is accounted for. -/
theorem IsHonest.write {stream : Scripted} (honest : stream.IsHonest) (lent : Lent) :
    (stream.write lent).2.IsHonest ∧
      Reply.Accounts lent.bytes stream.sink.bytes (stream.write lent).2.sink.bytes
        (stream.write lent).1 := by
  rcases honest.nextWrite with ⟨moves, rest⟩
  have sink : stream.nextWrite.2.sink = stream.sink := rfl
  unfold Scripted.write
  cases drawn : stream.nextWrite with
  | mk prescription left =>
    rw [drawn] at moves rest sink
    rw [← sink]
    cases prescription with
    | everything => exact ⟨rest, left.accounts_accept_all lent.bytes⟩
    | surplus data => exact ⟨rest, left.accounts_accept_all lent.bytes⟩
    | upTo count => exact ⟨rest, left.accounts_accept lent.bytes count.toNat⟩
    | wouldBlock => exact ⟨rest, .wouldBlock rfl⟩
    | raise kind text => exact ⟨rest, .raised (.scripted kind text) rfl⟩
    | claim count => cases moves

/-- A scripted stream that claims nothing it has not done keeps what it takes
in its sink. -/
def honestSink (made asked : Concurrency) (faces : Faces) (writes : faces.write = true) :
    (Scripted.stream made faces).Sink asked where
  Ready := IsHonest
  taken stream := stream.sink.bytes
  offer := by
    intro lent stream honest
    have offered : (Scripted.stream made faces).offer asked lent stream = stream.write lent := by
      cases asked <;> simp [Stream.offer, Scripted.stream, writes]
    rw [offered]
    exact honest.write lent

end Scripted

end ResumableStreams
