import ResumableStreams.Proofs.Exactness

namespace ResumableStreams

/-!
# Block after block

A machine that has come to its end may be driven again.  A `ReadExact` that is
driven again and again on one stream cuts the stream into blocks of its target,
until there is less than a block left.  That last part is reported with the
first error.  From then on every drive fails, with nothing.

Between two drives the machine has no bytes of the block before, since it hands
over all that it has collected on both ways to its end.  Its buffer, which it
has shortened toward the end of the block, still has room for something.  This
is what `ReadExact.Settled` says of a drive, and the blocks follow from it by
induction on the number of drives.
-/

section

variable {Machine Value State : Type} [Resumable Machine Value]

/-- The drive with the given number, where a machine is driven again and again,
each time from where the drive before has left it.  The first has number zero. -/
def nthDrive (concurrency : Concurrency) (stream : Stream State) (limit : Nat -> Nat)
    (machine : Machine) (context : Context State) : Nat -> Run Machine Value State
  | 0 => drive concurrency stream (limit 0) machine context
  | number + 1 =>
    let before := nthDrive concurrency stream limit machine context number
    drive concurrency stream (limit (number + 1)) before.machine before.context

end

namespace ReadExact

/-! ## What is left at each block -/

/-- A block that is there as a whole is read. -/
theorem outcome_of_whole_block {target number : Nat} {content : Bytes}
    (whole : number < content.length / target) :
    outcome target [] (content.drop (number * target)) =
      .finished ((content.drop (number * target)).take target) := by
  have there : (number + 1) * target ≤ content.length :=
    Nat.le_trans (Nat.mul_le_mul_right target whole) (Nat.div_mul_le_self _ _)
  have enough : target ≤ ([] : Bytes).length + (content.drop (number * target)).length := by
    rw [Nat.succ_mul] at there
    rw [List.length_nil, List.length_drop]
    omega
  rw [outcome, if_pos enough, List.nil_append, List.length_nil, Nat.sub_zero]

/-- What is left behind the last whole block falls short of another. -/
theorem outcome_of_broken_block {target : Nat} (wanted : 0 < target) (content : Bytes) :
    outcome target [] (content.drop (content.length / target * target)) =
      shortage (target - content.length % target) target
        (content.drop (content.length - content.length % target)) := by
  have less : content.length % target < target := Nat.mod_lt _ wanted
  have last : content.length / target * target = content.length - content.length % target := by
    have pieces := Nat.div_add_mod' content.length target
    omega
  have left : (content.drop (content.length / target * target)).length =
      content.length % target := by
    rw [last, List.length_drop, Nat.sub_sub_self (Nat.mod_le _ _)]
  have short : ¬ target ≤
      ([] : Bytes).length + (content.drop (content.length / target * target)).length := by
    rw [left, List.length_nil]
    omega
  rw [outcome, if_neg short, left, List.length_nil, Nat.sub_zero, List.nil_append, last]

/-- Where nothing is left, nothing is read. -/
theorem outcome_of_no_block {target number : Nat} (wanted : 0 < target) {content : Bytes}
    (past : content.length / target < number) :
    outcome target [] (content.drop (number * target)) = shortage target target [] := by
  have beyond : content.length ≤ number * target :=
    Nat.le_of_lt ((Nat.div_lt_iff_lt_mul wanted).mp past)
  have short : ¬ target ≤ ([] : Bytes).length + ([] : Bytes).length := Nat.not_le.mpr wanted
  rw [List.drop_eq_nil_of_le beyond, outcome, if_neg short]
  rfl

/-! ## One drive after another -/

variable {State : Type} {stream : Stream State} {concurrency : Concurrency}

/-- The drive with this number has come to its block of the content, and the
machine is ready for the next. -/
structure Reaches (supply : stream.Supply concurrency) (target : Nat) (content : Bytes)
    (number : Nat) (run : Run ReadExact Bytes State) : Prop where
  ending : run.ending = outcome target [] (content.drop (number * target))
  rest : supply.rest run.context.state = content.drop ((number + 1) * target)
  source : supply.Ready run.context.state
  again : run.machine.Ready run.context.memory
  collected : run.machine.collected = .empty
  target : run.machine.target = target

/-- A machine that has collected nothing reads the block at which the stream
stands. -/
theorem Ready.reaches (supply : stream.Supply concurrency) {machine : ReadExact}
    {context : Context State} {content : Bytes} {number limit : Nat}
    (ready : machine.Ready context.memory) (fresh : machine.collected = .empty)
    (source : supply.Ready context.state)
    (rest : supply.rest context.state = content.drop (number * machine.target))
    (enough : min machine.target (content.length + 1) < limit) :
    Reaches supply machine.target content number
      (drive concurrency stream limit machine context) := by
  have known : machine.collected.bytes = [] := by
    rw [fresh, Collected.bytes_empty]
  have missing : machine.remaining = machine.target := by
    rw [remaining_eq_sub, known, List.length_nil, Nat.sub_zero]
  have shorter : (content.drop (number * machine.target)).length ≤ content.length := by
    rw [List.length_drop]
    exact Nat.sub_le _ _
  have settled : Settled supply machine (supply.rest context.state)
      (drive concurrency stream limit machine context) :=
    Ready.settled supply limit [] ready source (by rw [missing, rest]; omega)
  have ending := settled.ending
  have left := settled.rest
  rw [rest, known] at ending
  rw [rest, List.drop_drop, missing, ← Nat.succ_mul] at left
  exact
    { ending := ending
      rest := left
      source := settled.source
      again := settled.again
      collected := settled.collected
      target := settled.target }

/-- The machine that has read one block reads the next. -/
theorem Reaches.next {supply : stream.Supply concurrency} {target : Nat} {content : Bytes}
    {number limit : Nat} {run : Run ReadExact Bytes State}
    (reaches : Reaches supply target content number run)
    (enough : min target (content.length + 1) < limit) :
    Reaches supply target content (number + 1)
      (drive concurrency stream limit run.machine run.context) := by
  have same := reaches.target
  subst same
  exact reaches.again.reaches supply reaches.collected reaches.source reaches.rest enough

theorem reaches_nthDrive (supply : stream.Supply concurrency) {machine : ReadExact}
    {context : Context State} {limit : Nat -> Nat} (ready : machine.Ready context.memory)
    (fresh : machine.collected = .empty) (source : supply.Ready context.state)
    (enough : ∀ number,
      min machine.target ((supply.rest context.state).length + 1) < limit number)
    (number : Nat) :
    Reaches supply machine.target (supply.rest context.state) number
      (nthDrive concurrency stream limit machine context number) := by
  induction number with
  | zero =>
    refine ready.reaches supply fresh source ?_ (enough 0)
    rw [Nat.zero_mul, List.drop_zero]
  | succ number inductionHypothesis => exact inductionHypothesis.next (enough (number + 1))

/-- A new machine that is driven again and again on a stream cuts the content
of the stream into blocks of its target, whatever the capacity and the sizes of
the pieces.  The first drive after the last whole block fails, and reports the
bytes that are left and how many were missing, if the target has no more digits
than can be written.  All drives after it fail with no bytes.  Only a buffer that
cannot be allocated stands in the way of a new machine.

Each drive has a limit of its own, with room for one request per byte of a
block, or for one per byte there is and one for the end. -/
theorem drives_read_block_after_block (supply : stream.Supply concurrency) {target capacity : Nat}
    (wanted : 0 < target) (positive : 0 < capacity) (memory : Memory) (journal : Array Event)
    {state : State} (source : supply.Ready state) {limit : Nat -> Nat}
    (enough : ∀ number, min target ((supply.rest state).length + 1) < limit number) :
    let content := supply.rest state
    (make target capacity memory).Gives (min capacity target) memory.room fun machine after =>
      let run := nthDrive concurrency stream limit machine ⟨after, journal, state⟩
      (∀ number < content.length / target,
        (run number).ending = .finished ((content.drop (number * target)).take target)) ∧
      (Text.Writable target ->
        (run (content.length / target)).ending =
          .failed (.unexpectedEnd (target - content.length % target : Nat) target
            (.frozen (content.drop (content.length - content.length % target)))) ∧
        ∀ number > content.length / target,
          (run number).ending = .failed (.unexpectedEnd target target (.frozen []))) := by
  intro content
  refine (make_gives target positive memory).imp ?_
  rintro _ _ ⟨rfl, rfl⟩ run
  have reaches : ∀ number, Reaches supply target content number (run number) :=
    @reaches_nthDrive _ _ _ supply _ ⟨(create target capacity memory).2, journal, state⟩ _
      (ready_create target positive memory) rfl source enough
  refine ⟨?_, fun writable => ⟨?_, ?_⟩⟩
  · intro number whole
    rw [(reaches number).ending, outcome_of_whole_block whole]
  · rw [(reaches _).ending, outcome_of_broken_block wanted content, shortage_of_writable writable]
  · intro number past
    rw [(reaches number).ending, outcome_of_no_block wanted past, shortage_of_writable writable]

/-- Seven bytes are two blocks of three and one byte, from a stream that gives
two bytes, then one, then as many as it is asked for. -/
theorem drives_read_block_after_block_of_seven :
    let start : Scripted := ⟨[1, 2, 3, 4, 5, 6, 7], [.upTo 2, .upTo 1], [], .empty, 0, 0⟩
    let built := make 3 2 .empty
    ∃ machine, built.result = .ok machine ∧
      let run := nthDrive .blocking (Scripted.stream .blocking ⟨true, false, false, false⟩)
        (fun _ => 4) machine ⟨built.memory, #[], start⟩
      (run 0).ending = .finished [1, 2, 3] ∧ (run 1).ending = .finished [4, 5, 6] ∧
        (run 2).ending = .failed (.unexpectedEnd 2 3 (.frozen [7])) ∧
        (run 3).ending = .failed (.unexpectedEnd 3 3 (.frozen [])) := by
  intro start built
  let supply := Scripted.supply .blocking .blocking ⟨true, false, false, false⟩ rfl
  have steady : start.IsSteady := rfl
  have content : supply.rest start = [1, 2, 3, 4, 5, 6, 7] := rfl
  -- What the script says must not be computed with from here on.
  clear_value start
  have enough : min 3 ((supply.rest start).length + 1) < 4 := by
    rw [content]
    decide
  have reads := drives_read_block_after_block supply (show 0 < 3 by decide) (show 0 < 2 by decide)
    .empty #[] steady fun _ => enough
  rw [content] at reads
  rcases reads.exists_of_allowed rfl with ⟨machine, made, whole, short⟩
  rcases short (Text.writable_of_lt (by decide)) with ⟨broken, none⟩
  exact ⟨machine, made, whole 0 (by decide), whole 1 (by decide), broken, none 3 (by decide)⟩

/-- No machine is built for a buffer that cannot be addressed.  And a machine for
a target of one digit too many reports neither the two bytes of a stream nor that
there are no more: the error cannot be built. -/
theorem not_in_blocks_of_unaddressable_or_overlong :
    (make Memory.addressable Memory.addressable .empty).result = .error .lengthNotAddressable ∧
      let built := make Text.leastOverlong (1 : Nat) .empty
      ∃ machine, built.result = .ok machine ∧
        let run := nthDrive .blocking MemoryFile.stream (fun _ => 4) machine
          ⟨built.memory, #[], MemoryFile.ofBytes [1, 2]⟩
        (run 0).ending = .raised .overlongInteger ∧ (run 1).ending = .raised .overlongInteger := by
  constructor
  · exact refused_of_unaddressable .empty
  · rcases make_overlong with ⟨built, same⟩
    refine ⟨_, built, ?_⟩
    rw [same]
    have reaches := fun number =>
      @reaches_nthDrive _ _ _ (MemoryFile.supply .blocking) _
        ⟨(create Text.leastOverlong 1 .empty).2, #[], .ofBytes [1, 2]⟩ (fun _ => 4)
        (ready_create Text.leastOverlong (by decide) .empty) rfl rfl
        (fun _ => Nat.lt_of_le_of_lt (Nat.min_le_right _ _) (show 3 < 4 by decide)) number
    have short (number : Nat) :
        ([] : Bytes).length + (([1, 2] : Bytes).drop (number * Text.leastOverlong)).length <
          Text.leastOverlong := by
      have few : 2 - number * Text.leastOverlong ≤ 2 := Nat.sub_le _ _
      rw [List.length_nil, Nat.zero_add, List.length_drop]
      exact Nat.lt_of_le_of_lt few (Text.lt_leastOverlong (by decide))
    have raised := fun number => (reaches number).ending.trans
      (outcome_of_overlong Text.not_writable_leastOverlong (short number))
    exact ⟨raised 0, raised 1⟩

end ReadExact

end ResumableStreams
