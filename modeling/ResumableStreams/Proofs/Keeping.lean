import Mathlib.Data.Nat.Find
import ResumableStreams.Proofs.Lending
import ResumableStreams.Proofs.Separation
import ResumableStreams.Proofs.Supply

namespace ResumableStreams

/-!
# Outputs that are kept and outputs that are given back

A `Read` is driven again and again, and each drive ends with an output or with
the end of the stream.  The buffer of an output belongs to the caller, who may
give it back before the next drive, or keep it.  Given back, it is the buffer
of the next request; otherwise the machine makes a new one.

So the machine has at any time either no buffer or one of the same length, and
a buffer that has been kept is never in its hands again.  What a drive may
write into is known from the cells in use (`Confining`), and a buffer that has
been kept is none of them.
-/

namespace Read

variable {State : Type} {stream : Stream State} {concurrency : Concurrency}

/-- The machine and everything else after the caller has given the buffer of an
output back, or kept it. -/
def settled (givesBack : Bool) (run : Run Read Output State) : Read × Context State :=
  match givesBack, run.ending with
  | true, .finished output =>
    let (read, memory) := run.machine.replace output.buffer run.context.memory
    (read, { run.context with memory := memory })
  | _, _ => (run.machine, run.context)

/-- The machine and everything else before the drive with the given number. -/
def beforeDrive (concurrency : Concurrency) (stream : Stream State) (limit : Nat -> Nat)
    (givesBack : Nat -> Bool) (start : Read × Context State) : Nat -> Read × Context State
  | 0 => start
  | number + 1 =>
    let before := beforeDrive concurrency stream limit givesBack start number
    settled (givesBack number)
      (drive concurrency stream (limit number) before.1 before.2)

/-- The drive with the given number. -/
def repeated (concurrency : Concurrency) (stream : Stream State) (limit : Nat -> Nat)
    (givesBack : Nat -> Bool) (start : Read × Context State) (number : Nat) :
    Run Read Output State :=
  let before := beforeDrive concurrency stream limit givesBack start number
  drive concurrency stream (limit number) before.1 before.2

/-- The bytes of the output, taken when it is returned. -/
def piece (run : Run Read Output State) : Bytes :=
  match run.ending with
  | .finished output => output.bytes run.context.memory
  | _ => []

/-! ## One drive -/

/-- The machine may be driven: a buffer in hand is in order, and so is the
stream. -/
structure Poised (supply : stream.Supply concurrency) (capacity : Nat)
    (before : Read × Context State) : Prop where
  armed : before.1.Armed before.2.memory
  capacity : before.1.capacity = capacity
  source : supply.Ready before.2.state

/-- How a drive ends where the stream has `rest` to give. -/
inductive Draws (supply : stream.Supply concurrency) (capacity : Nat) (rest : Bytes)
    (run : Run Read Output State) : Prop where
  /-- There is an output with the next bytes, and the machine has no buffer. -/
  | output (cell : Cell) (count : Nat) : rest ≠ [] ->
      run.ending = .finished ⟨.shared cell, count⟩ -> run.machine.slot = none ->
      run.context.memory.Holds cell -> (run.context.memory.contents cell).length = capacity ->
      (run.context.memory.contents cell).take count = rest.take count ->
      0 < count -> count ≤ capacity -> count ≤ rest.length ->
      supply.rest run.context.state = rest.drop count -> Draws supply capacity rest run
  /-- The stream has ended, and the machine has its buffer again. -/
  | nothing : rest = [] -> run.ending = .endOfStream -> run.machine.Armed run.context.memory ->
      supply.rest run.context.state = [] -> Draws supply capacity rest run

/-- The cell of an output that a drive ends with. -/
def outputCells : Ending Output -> List Cell
  | .finished output => output.buffer.cells
  | _ => []

/-- What a drive leaves. -/
structure Driven (supply : stream.Supply concurrency) (capacity : Nat)
    (before : Read × Context State) (run : Run Read Output State) : Prop where
  draws : Draws supply capacity (supply.rest before.2.state) run
  capacity : run.machine.capacity = capacity
  source : supply.Ready run.context.state
  moves : before.2.memory.Moves .read before.1.cells run.context.memory
    (run.machine.cells ++ outputCells run.ending)

/-- A request and its answer are enough for a drive to end. -/
theorem Poised.driven {supply : stream.Supply concurrency} {capacity : Nat}
    {before : Read × Context State} (poised : Poised supply capacity before)
    (positive : 0 < capacity) {limit : Nat} (enough : 1 < limit) :
    Driven supply capacity before (drive concurrency stream limit before.1 before.2) := by
  rcases before with ⟨read, context⟩
  rcases poised with ⟨armed, rfl, source⟩
  obtain ⟨limit, rfl⟩ : ∃ more, limit = more + 2 := ⟨limit - 2, by omega⟩
  rcases armed.exists_request with ⟨cell, memory, lent, held, zeros⟩
  have resumed : Resumable.resume read none context.memory =
      ⟨.needs ⟨.read, .request (.shared cell)⟩, { read with slot := none }, memory,
        [.readRequested]⟩ := by
    show read.resume none context.memory = _
    simp only [resume, lent]
  have requests : context.memory.Moves .read read.cells memory [cell] := by
    have moves := (moves_request (held_cells armed)).1
    rw [lent] at moves
    exact moves
  have length : (memory.contents cell).length = read.capacity := by
    rw [zeros, Bytes.length_zeros]
  have room : memory.contents cell ≠ [] := List.length_pos_iff.mp (length ▸ positive)
  have sourceNow : supply.Ready (context.after memory [.readRequested]).state := source
  rcases supply.exists_handle sourceNow held room with ⟨count, reached, handled, performed⟩
  have fills : memory.Moves .read [cell] reached.memory [cell] := by
    have moves := (@moves_handle State concurrency stream ⟨.read, .request (.shared cell)⟩
      (context.after memory [.readRequested]) (List.forall_mem_singleton.mpr held)).1
    rw [handled] at moves
    exact moves
  have lengthAfter : (reached.memory.contents cell).length = read.capacity :=
    performed.length.trans length
  rw [drive, driveOn, driveFrom_needs (limit + 1) resumed handled]
  by_cases nothing : count = 0
  · subst nothing
    have exhausted : supply.rest context.state = [] := performed.exhausted rfl
    have taken : Resumable.resume { read with slot := none }
        (some ⟨.read, .response ⟨.shared cell, 0⟩⟩) reached.memory =
          ⟨.endOfStream, (replace { read with slot := none } (.shared cell) reached.memory).1,
            (replace { read with slot := none } (.shared cell) reached.memory).2,
            [.readResumed]⟩ := rfl
    rw [driveFrom_endOfStream limit taken]
    have returns := @moves_replace { read with slot := none } (.shared cell) reached.memory
      (List.forall_mem_singleton.mpr performed.held)
    exact
      { draws := .nothing exhausted rfl
          (armed_replace { read with slot := none } (by rintro _ ⟨⟩; exact performed.held))
          (by rw [Context.state_after, performed.rest, List.drop_zero]; exact exhausted)
        capacity :=
          (capacity_replace { read with slot := none } (.shared cell) reached.memory).trans
            lengthAfter
        source := performed.ready
        moves := (List.append_nil _).symm ▸ (requests.trans fills).trans returns }
  · have taken : Resumable.resume { read with slot := none }
        (some ⟨.read, .response ⟨.shared cell, count⟩⟩) reached.memory =
          ⟨.finished ⟨.shared cell, count⟩, { read with slot := none }, reached.memory,
            [.readResumed, .readCompleted count (reached.memory.contents cell).length]⟩ :=
      if_neg nothing
    rw [driveFrom_finished limit taken]
    have fits : count ≤ read.capacity :=
      Nat.le_trans performed.count_le_length (Nat.le_of_eq length)
    have there : count ≤ (supply.rest context.state).length := performed.count_le_rest
    exact
      { draws := .output cell count
          (by intro exhausted; rw [exhausted, List.length_nil] at there; omega)
          rfl rfl performed.held lengthAfter performed.start (Nat.pos_of_ne_zero nothing) fits there
          performed.rest
        capacity := rfl
        source := performed.ready
        moves := requests.trans fills }

/-! ## One drive after another -/

/-- Where there is no output, nothing is given back. -/
theorem settled_of_endOfStream {run : Run Read Output State} (ended : run.ending = .endOfStream)
    (givesBack : Bool) : settled givesBack run = (run.machine, run.context) := by
  cases givesBack with
  | false => rfl
  | true => simp only [settled, ended]

theorem settled_of_finished {run : Run Read Output State} {output : Output}
    (ended : run.ending = .finished output) :
    settled true run =
      ((run.machine.replace output.buffer run.context.memory).1,
        { run.context with
          memory := (run.machine.replace output.buffer run.context.memory).2 }) := by
  simp only [settled, ended]

/-- After the caller has kept the output or given it back, the machine may be
driven again. -/
theorem Driven.poised {supply : stream.Supply concurrency} {capacity : Nat}
    {before : Read × Context State} {run : Run Read Output State}
    (driven : Driven supply capacity before run) (givesBack : Bool) :
    Poised supply capacity (settled givesBack run) ∧
      (settled givesBack run).2.state = run.context.state := by
  cases driven.draws with
  | nothing exhausted ended armed rest =>
    rw [settled_of_endOfStream ended]
    exact ⟨⟨armed, driven.capacity, driven.source⟩, rfl⟩
  | output cell count some_left ended lent held length start =>
    cases givesBack with
    | false =>
      exact ⟨⟨armed_of_lent lent run.context.memory, driven.capacity, driven.source⟩, rfl⟩
    | true =>
      rw [settled_of_finished ended]
      exact ⟨⟨armed_replace run.machine (by rintro _ ⟨⟩; exact held),
        (capacity_replace run.machine (.shared cell) run.context.memory).trans length,
        driven.source⟩, rfl⟩

/-- A buffer that the machine does not have in hand. -/
structure Spares (cell : Cell) (before : Read × Context State) : Prop where
  held : before.2.memory.Holds cell
  apart : cell ∉ before.1.cells

/-- A buffer that the machine does not have in hand before a drive is the same
after it, also when the output has been given back. -/
theorem Driven.spares {supply : stream.Supply concurrency} {capacity : Nat}
    {before : Read × Context State} {run : Run Read Output State}
    (driven : Driven supply capacity before run) {cell : Cell} (spares : Spares cell before)
    (givesBack : Bool) :
    run.context.memory.contents cell = before.2.memory.contents cell ∧
      (settled givesBack run).2.memory.contents cell = before.2.memory.contents cell ∧
      Spares cell (settled givesBack run) := by
  have same := driven.moves.contents spares.held fun _ => spares.apart
  have held := driven.moves.holds spares.held
  have apart : cell ∉ run.machine.cells ++ outputCells run.ending :=
    driven.moves.not_mem spares.held spares.apart
  have kept : Spares cell (run.machine, run.context) :=
    ⟨held, fun member => apart (List.mem_append_left _ member)⟩
  refine ⟨same, ?_⟩
  cases driven.draws with
  | nothing exhausted ended =>
    rw [settled_of_endOfStream ended]
    exact ⟨same, kept⟩
  | output other count some_left ended =>
    cases givesBack with
    | false => exact ⟨same, kept⟩
    | true =>
      rw [ended] at apart
      have different : cell ≠ other := fun is => apart
        (List.mem_append_right _ (List.mem_singleton.mpr is))
      rw [settled_of_finished ended]
      refine ⟨(Memory.contents_store_of_ne different _).trans same, ?_, ?_⟩
      · exact (Memory.holds_store_iff _ _ _ _).mpr held
      · intro member
        exact different (List.mem_singleton.mp member)

/-! ## All drives -/

section

variable {supply : stream.Supply concurrency} {capacity : Nat} {limit : Nat -> Nat}
  (givesBack : Nat -> Bool) {start : Read × Context State}

theorem poised_beforeDrive (poised : Poised supply capacity start) (positive : 0 < capacity)
    (enough : ∀ number, 1 < limit number) (number : Nat) :
    Poised supply capacity (beforeDrive concurrency stream limit givesBack start number) := by
  induction number with
  | zero => exact poised
  | succ number inductionHypothesis =>
    exact ((inductionHypothesis.driven positive (enough number)).poised (givesBack number)).1

theorem driven_repeated (poised : Poised supply capacity start) (positive : 0 < capacity)
    (enough : ∀ number, 1 < limit number) (number : Nat) :
    Driven supply capacity (beforeDrive concurrency stream limit givesBack start number)
      (repeated concurrency stream limit givesBack start number) :=
  (poised_beforeDrive givesBack poised positive enough number).driven positive (enough number)

/-- What the stream has to give before the drive with the given number. -/
def left (supply : stream.Supply concurrency) (limit : Nat -> Nat) (givesBack : Nat -> Bool)
    (start : Read × Context State) (number : Nat) : Bytes :=
  supply.rest (beforeDrive concurrency stream limit givesBack start number).2.state

theorem left_succ (poised : Poised supply capacity start) (positive : 0 < capacity)
    (enough : ∀ number, 1 < limit number) (number : Nat) :
    left supply limit givesBack start (number + 1) =
      supply.rest (repeated concurrency stream limit givesBack start number).context.state :=
  congrArg supply.rest
    ((driven_repeated givesBack poised positive enough number).poised (givesBack number)).2

/-- The piece that a drive gives and what is left after it are what was left
before it. -/
theorem piece_append_left (poised : Poised supply capacity start) (positive : 0 < capacity)
    (enough : ∀ number, 1 < limit number) (number : Nat) :
    piece (repeated concurrency stream limit givesBack start number) ++
        left supply limit givesBack start (number + 1) =
      left supply limit givesBack start number := by
  rw [left_succ givesBack poised positive enough]
  cases (driven_repeated givesBack poised positive enough number).draws with
  | nothing exhausted ended armed rest =>
    rw [piece, ended, rest]
    exact exhausted.symm
  | output cell count some_left ended lent held length start' _ _ _ rest =>
    rw [piece, ended, rest]
    exact (congrArg (· ++ _) start').trans (List.take_append_drop count _)

/-- All pieces so far and what is left are the content. -/
theorem pieces_append_left (poised : Poised supply capacity start) (positive : 0 < capacity)
    (enough : ∀ number, 1 < limit number) (number : Nat) :
    (List.range number).flatMap
          (fun earlier => piece (repeated concurrency stream limit givesBack start earlier)) ++
        left supply limit givesBack start number =
      supply.rest start.2.state := by
  induction number with
  | zero => rfl
  | succ number inductionHypothesis =>
    rw [List.range_succ, List.flatMap_append, List.flatMap_singleton, List.append_assoc,
      piece_append_left givesBack poised positive enough]
    exact inductionHypothesis

/-- Every drive takes something as long as there is something. -/
theorem length_left_le (poised : Poised supply capacity start) (positive : 0 < capacity)
    (enough : ∀ number, 1 < limit number) (number : Nat) :
    (left supply limit givesBack start number).length ≤
      (supply.rest start.2.state).length - number := by
  induction number with
  | zero => exact Nat.le_refl _
  | succ number inductionHypothesis =>
    cases (driven_repeated givesBack poised positive enough number).draws with
    | nothing exhausted ended armed rest =>
      rw [left_succ givesBack poised positive enough, rest]
      exact Nat.zero_le _
    | output cell count some_left ended lent held length start' some_moved fits there rest =>
      rw [left_succ givesBack poised positive enough, rest, List.length_drop]
      have before : (supply.rest (beforeDrive concurrency stream limit givesBack start
        number).2.state).length ≤ _ := inductionHypothesis
      omega

theorem left_of_le (poised : Poised supply capacity start) (positive : 0 < capacity)
    (enough : ∀ number, 1 < limit number) {number later : Nat} (le : number ≤ later)
    (exhausted : left supply limit givesBack start number = []) :
    left supply limit givesBack start later = [] := by
  induction later, le using Nat.le_induction with
  | base => exact exhausted
  | succ later le inductionHypothesis =>
    have pieces := piece_append_left givesBack poised positive enough later
    rw [inductionHypothesis] at pieces
    exact (List.append_eq_nil_iff.mp pieces).2

/-- A buffer that the machine does not have in hand stays as it is. -/
theorem contents_of_spares (poised : Poised supply capacity start) (positive : 0 < capacity)
    (enough : ∀ number, 1 < limit number) {cell : Cell} {number : Nat}
    (spares : Spares cell (beforeDrive concurrency stream limit givesBack start number))
    (more : Nat) :
    Spares cell (beforeDrive concurrency stream limit givesBack start (number + more)) ∧
      (beforeDrive concurrency stream limit givesBack start
          (number + more)).2.memory.contents cell =
        (beforeDrive concurrency stream limit givesBack start number).2.memory.contents cell := by
  induction more with
  | zero => exact ⟨spares, rfl⟩
  | succ more inductionHypothesis =>
    rcases inductionHypothesis with ⟨spared, same⟩
    rcases (driven_repeated givesBack poised positive enough (number + more)).spares spared
      (givesBack (number + more)) with ⟨_, kept, sparedAfter⟩
    exact ⟨sparedAfter, kept.trans same⟩

/-- An output that is kept is the same before and after every later drive. -/
theorem bytes_of_kept (poised : Poised supply capacity start) (positive : 0 < capacity)
    (enough : ∀ number, 1 < limit number) {number : Nat} {output : Output}
    (ended : (repeated concurrency stream limit givesBack start number).ending = .finished output)
    (kept : givesBack number = false) {later : Nat} (after : number < later) :
    let bytes := output.buffer.bytes
      (repeated concurrency stream limit givesBack start number).context.memory
    output.buffer.bytes (beforeDrive concurrency stream limit givesBack start later).2.memory =
        bytes ∧
      output.buffer.bytes (repeated concurrency stream limit givesBack start later).context.memory =
        bytes := by
  have driven := driven_repeated givesBack poised positive enough number
  cases driven.draws with
  | nothing _ ended' => cases ended.symm.trans ended'
  | output cell count some_left ended' lent held =>
    cases ended.symm.trans ended'
    have next : beforeDrive concurrency stream limit givesBack start (number + 1) =
        ((repeated concurrency stream limit givesBack start number).machine,
          (repeated concurrency stream limit givesBack start number).context) := by
      show settled (givesBack number) _ = _
      rw [kept]
      rfl
    have spares : Spares cell
        (beforeDrive concurrency stream limit givesBack start (number + 1)) := by
      rw [next]
      refine ⟨held, ?_⟩
      rw [cells, lent]
      exact List.not_mem_nil
    obtain ⟨more, rfl⟩ : ∃ more, later = number + 1 + more := ⟨later - (number + 1), by omega⟩
    rcases contents_of_spares givesBack poised positive enough spares more with ⟨spared, same⟩
    have drive := ((driven_repeated givesBack poised positive enough (number + 1 + more)).spares
      spared false).1
    rw [next] at same
    exact ⟨same, drive.trans same⟩

end

/-- A new machine is driven again and again on a stream, which gives its bytes
in pieces of any sizes.  After each drive with an output, the caller gives the
buffer of the output back or keeps it.

However the caller decides, the outputs of the first drives have between one
byte and the capacity, and are together the content of the stream; all drives
after them find the end.  The capacity is the same throughout.  An output that
has been kept is never changed, neither by a drive nor by giving another output
back.  Only a buffer that cannot be allocated stands in the way of a new machine.

Every drive is allowed a request and its answer. -/
theorem repeated_drives_give_content (supply : stream.Supply concurrency) {capacity : Nat}
    (positive : 0 < capacity) (memory : Memory) (journal : Array Event) {state : State}
    (source : supply.Ready state) (givesBack : Nat -> Bool) {limit : Nat -> Nat}
    (enough : ∀ number, 1 < limit number) :
    (make capacity memory).Gives capacity memory.room fun read after =>
      let start : Read × Context State := (read, ⟨after, journal, state⟩)
      let before := beforeDrive concurrency stream limit givesBack start
      let run := repeated concurrency stream limit givesBack start
      (∃ pieces,
        (∀ number < pieces, ∃ output, (run number).ending = .finished output ∧
          1 ≤ output.count ∧ output.count ≤ capacity ∧
          (output.bytes (run number).context.memory).length = output.count) ∧
        (List.range pieces).flatMap (fun number => piece (run number)) = supply.rest state ∧
        ∀ number ≥ pieces, (run number).ending = .endOfStream) ∧
      (∀ number,
        (before number).1.capacity = capacity ∧ (run number).machine.capacity = capacity) ∧
      ∀ number output, (run number).ending = .finished output -> givesBack number = false ->
        ∀ later > number,
          let bytes := output.buffer.bytes (run number).context.memory
          output.buffer.bytes (before later).2.memory = bytes ∧
            output.buffer.bytes (run later).context.memory = bytes := by
  refine (make_gives capacity memory).imp ?_
  rintro _ _ ⟨rfl, rfl⟩ start before run
  have poised : Poised supply capacity start := ⟨armed_create capacity memory, rfl, source⟩
  have driven := driven_repeated givesBack poised positive enough
  refine ⟨?_, ?_, ?_⟩
  · have exhausted : ∃ number, left supply limit givesBack start number = [] := by
      refine ⟨(supply.rest state).length, List.length_eq_zero_iff.mp (Nat.le_zero.mp ?_)⟩
      exact Nat.le_trans (length_left_le givesBack poised positive enough _)
        (Nat.le_of_eq (Nat.sub_self _))
    -- The pieces are as many as there are drives before nothing is left.
    classical
    refine ⟨Nat.find exhausted, ?_, ?_, ?_⟩
    · intro number earlier
      cases (driven number).draws with
      | nothing exhausted' => exact absurd exhausted' (Nat.find_min exhausted earlier)
      | output cell count some_left ended lent held length start' some_moved fits =>
        refine ⟨⟨.shared cell, count⟩, ended, some_moved, fits, ?_⟩
        show (((run number).context.memory.contents cell).take count).length = count
        rw [List.length_take, length, Nat.min_eq_left fits]
    · have pieces := pieces_append_left givesBack poised positive enough
        (Nat.find exhausted)
      rw [Nat.find_spec exhausted, List.append_nil] at pieces
      exact pieces
    · intro number later
      cases (driven number).draws with
      | nothing exhausted' ended => exact ended
      | output cell count some_left =>
        have nothing := left_of_le givesBack poised positive enough later (Nat.find_spec exhausted)
        exact absurd nothing some_left
  · intro number
    exact ⟨(poised_beforeDrive givesBack poised positive enough number).capacity,
      (driven number).capacity⟩
  · intro number output ended kept later after
    exact bytes_of_kept givesBack poised positive enough ended kept after

/-- Three pieces of a stream of five bytes.  The second output is kept, and the
others are given back. -/
theorem repeated_drives_give_content_of_five :
    let stream : Scripted := ⟨[1, 2, 3, 4, 5], [.upTo 1], [], .empty, 0, 0⟩
    let built := make 2 .empty
    ∃ read, built.result = .ok read ∧
      let run := repeated .blocking (Scripted.stream .blocking ⟨true, false, false, false⟩)
        (fun _ => 2) (fun number => number ≠ 1) (read, ⟨built.memory, #[], stream⟩)
      (∃ pieces, (List.range pieces).flatMap (fun number => piece (run number)) = [1, 2, 3, 4, 5] ∧
        ∀ number ≥ pieces, (run number).ending = .endOfStream) ∧
      ∀ output, (run 1).ending = .finished output -> ∀ later > 1,
        output.buffer.bytes (run later).context.memory =
          output.buffer.bytes (run 1).context.memory := by
  intro stream built
  let supply := Scripted.supply .blocking .blocking ⟨true, false, false, false⟩ rfl
  have steady : stream.IsSteady := rfl
  have content : supply.rest stream = [1, 2, 3, 4, 5] := rfl
  -- What the script says must not be computed with from here on.
  clear_value stream
  have drives := @repeated_drives_give_content _ _ _ supply 2 (by decide) .empty #[] _ steady
    (fun number => number ≠ 1) (fun _ => 2) (fun _ => by decide)
  rw [content] at drives
  rcases drives.exists_of_allowed rfl with ⟨read, made, ⟨pieces, _, all, ends⟩, _, stays⟩
  exact ⟨read, made, ⟨pieces, all, ends⟩, fun output ended later after =>
    (stays 1 output ended rfl later after).2⟩

/-- No machine is built whose buffer cannot be addressed, so that there is nothing
to drive. -/
theorem not_driven_of_unaddressable :
    (make Memory.addressable .empty).result = .error .lengthNotAddressable :=
  (make_gives Memory.addressable .empty).unaddressable

end Read

end ResumableStreams
