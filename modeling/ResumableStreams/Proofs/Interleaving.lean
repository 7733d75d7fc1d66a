import ResumableStreams.Proofs.Batch

namespace ResumableStreams

/-!
# Reading sources side by side

The tasks of a batch take turns in any order.  Each has its share, no two
shares have anything in common, and the standard output is in none of them.  A
turn replaces the share of the task that takes it.  So all the promises are
still kept after the turn, and in the end every source gives what it would
give alone.

Sources that are read one after the other are a special case: none of them has
begun before those in front of it have ended.
-/

namespace Command

/-- Nobody has a share in the standard output, and of two tasks nobody has a
share in what the other has. -/
structure Divided (context : Context Host) (shares : Nat -> Share) : Prop where
  held : ∀ number, (shares number).Held context
  apart : ∀ number other, number ≠ other -> (shares number).Apart (shares other)
  outside : ∀ number, .device stdout ∉ (shares number).assets
  sink : context.state.devices[stdout]? = some (.memoryFile (.ofBytes []))

/-- One of the shares is replaced. -/
def give (shares : Nat -> Share) (number : Nat) (left : Share) (other : Nat) : Share :=
  if other = number then left else shares other

@[simp] theorem give_self (shares : Nat -> Share) (number : Nat) (left : Share) :
    give shares number left number = left := if_pos rfl

theorem give_of_ne {number other : Nat} (different : other ≠ number) (shares : Nat -> Share)
    (left : Share) : give shares number left other = shares other := if_neg different

theorem Divided.give {context after : Context Host} {shares : Nat -> Share} {number : Nat}
    {left : Share} (divided : Divided context shares)
    (leads : Share.Leads context (shares number) after left) :
    Divided after (give shares number left) := by
  have there : context.state.Has (.device stdout) := Host.has_of_found divided.sink
  have new {other : Nat} (different : other ≠ number) : left.Apart (shares other) :=
    leads.apart (divided.apart number other (Ne.symm different)) (divided.held other)
  refine ⟨fun other => ?_, fun first second distinct => ?_, fun other => ?_, ?_⟩
  · by_cases acting : other = number
    · rw [acting, give_self]
      exact leads.held
    · rw [give_of_ne acting]
      exact leads.others_held (divided.held other)
  · by_cases acting : first = number
    · subst acting
      rw [give_self, give_of_ne (Ne.symm distinct)]
      exact new (Ne.symm distinct)
    · rw [give_of_ne acting]
      by_cases acted : second = number
      · subst acted
        rw [give_self]
        exact (new acting).symm
      · rw [give_of_ne acted]
        exact divided.apart first second distinct
  · by_cases acting : other = number
    · rw [acting, give_self]
      exact leads.state.not_mem there (divided.outside number)
    · rw [give_of_ne acting]
      exact divided.outside other
  · have kept : after.state.devices[stdout]? = context.state.devices[stdout]? :=
      leads.state.same there (divided.outside number)
    exact kept.trans divided.sink

/-- The first share is given up. -/
theorem Divided.tail {context : Context Host} {shares : Nat -> Share}
    (divided : Divided context shares) : Divided context fun number => shares (number + 1) where
  held number := divided.held (number + 1)
  apart _ _ distinct := divided.apart _ _ fun same => distinct (Nat.succ.inj same)
  outside number := divided.outside (number + 1)
  sink := divided.sink

/-- The number of sources for which the network may still be asked. -/
def owing (tasks : List (String × Task)) : Nat :=
  tasks.countP fun entry => Task.owes entry.1 entry.2

theorem owing_cons (argument : String) (task : Task) (tasks : List (String × Task)) :
    owing ((argument, task) :: tasks) = owing tasks + (Task.owes argument task).toNat := by
  rw [owing, List.countP_cons]
  cases Task.owes argument task <;> rfl

/-- All tasks of a batch keep their promises. -/
structure Together (batch : Batch) (limit : Nat) (tasks : List (String × Task))
    (context : Context Host) (shares : Nat -> Share) : Prop where
  promises : ∀ (number : Nat) (argument : String) (task : Task),
    tasks[number]? = some (argument, task) ->
      ∃ steps, steps ≤ limit ∧ task.Promises batch argument context (shares number) steps
  divided : Divided context shares
  disk : context.state.disk = batch.disk
  answers : Net.Answers batch.answerOf (owing tasks) context.state.net.script

section

variable {batch : Batch} {limit : Nat} {tasks : List (String × Task)} {context : Context Host}
  {shares : Nat -> Share}

/-- The tasks that do not take the turn keep their promises. -/
theorem Together.others {number : Nat} {after : Context Host} {left : Share}
    (together : Together batch limit tasks context shares)
    (leads : Share.Leads context (shares number) after left) {other : Nat} {argument : String}
    {task : Task} (different : other ≠ number) (found : tasks[other]? = some (argument, task)) :
    ∃ steps, steps ≤ limit ∧ task.Promises batch argument after (shares other) steps := by
  rcases together.promises other argument task found with ⟨steps, enough, promises⟩
  exact ⟨steps, enough, promises.retained leads
    (together.divided.apart number other (Ne.symm different))⟩

/-- A turn changes what one task owes, and what none of the others does. -/
theorem owing_set {number : Nat} {argument : String} {task : Task}
    (found : tasks[number]? = some (argument, task)) :
    ∃ count, owing tasks = count + (Task.owes argument task).toNat ∧
      ∀ next, owing (tasks.set number (argument, next)) =
        count + (Task.owes argument next).toNat := by
  induction tasks generalizing number with
  | nil => cases found
  | cons entry tasks inductionHypothesis =>
    cases number with
    | zero =>
      cases found
      exact ⟨owing tasks, owing_cons _ _ _, fun next => owing_cons _ _ _⟩
    | succ number =>
      rcases @inductionHypothesis number found with ⟨count, owed, owes⟩
      refine ⟨count + (Task.owes entry.1 entry.2).toNat, ?_, fun next => ?_⟩
      · rw [owing_cons, owed]
        omega
      · rw [List.set_cons_succ, owing_cons, owes]
        omega

/-- A turn leaves the sources what they are. -/
theorem map_fst_set {number : Nat} {argument : String} {task : Task}
    (found : tasks[number]? = some (argument, task)) (next : Task) :
    (tasks.set number (argument, next)).map Prod.fst = tasks.map Prod.fst := by
  induction tasks generalizing number with
  | nil => cases found
  | cons entry tasks inductionHypothesis =>
    cases number with
    | zero =>
      cases found
      rfl
    | succ number =>
      rw [List.set_cons_succ, List.map_cons, List.map_cons, @inductionHypothesis number found]

/-- Whichever task takes the turn, all keep their promises. -/
theorem Together.advanceAt (together : Together batch limit tasks context shares) (number : Nat) :
    let advanced := advanceAt batch.options number tasks context
    advanced.1.map Prod.fst = tasks.map Prod.fst ∧
      ∃ shares, Together batch limit advanced.1 advanced.2 shares := by
  simp only [Command.advanceAt]
  cases found : tasks[number]? with
  | none => exact ⟨rfl, shares, together⟩
  | some entry =>
    cases entry with
    | mk argument task =>
      rcases together.promises number argument task found with ⟨steps, enough, promises⟩
      -- The requests that the others still owe are kept for them.
      rcases owing_set found with ⟨count, owed, owes⟩
      have answers := together.answers
      rw [owed] at answers
      rcases promises.advances answers with ⟨left, advances⟩
      refine ⟨?_, give shares number left, ?_, together.divided.give advances.leads,
        advances.leads.state.disk.trans together.disk, ?_⟩
      · exact map_fst_set found _
      · intro other argument' task' found'
        by_cases acting : other = number
        · subst acting
          have same := (List.getElem?_set_self
            (List.getElem?_eq_some_iff.mp found).1).symm.trans found'
          cases same
          rw [give_self]
          exact ⟨steps - 1, by omega, advances.promises⟩
        · rw [give_of_ne acting]
          rw [List.getElem?_set_ne (Ne.symm acting)] at found'
          exact together.others advances.leads acting found'
      · rw [owes]
        exact advances.answers

/-- Whichever tasks take turns, all keep their promises. -/
theorem Together.advanceInTurn (together : Together batch limit tasks context shares)
    (schedule : List Nat) :
    let advanced := advanceInTurn batch.options schedule tasks context
    advanced.1.map Prod.fst = tasks.map Prod.fst ∧
      ∃ shares, Together batch limit advanced.1 advanced.2 shares := by
  induction schedule generalizing tasks context shares with
  | nil => exact ⟨rfl, shares, together⟩
  | cons number schedule inductionHypothesis =>
    rcases together.advanceAt number with ⟨same, _, next⟩
    rcases inductionHypothesis next with ⟨same', last⟩
    exact ⟨same'.trans same, last⟩

/-- However many rounds the tasks go on, all keep their promises. -/
theorem Together.takeRounds (together : Together batch limit tasks context shares) (rounds : Nat) :
    let advanced := takeRounds batch.options rounds tasks context
    advanced.1.map Prod.fst = tasks.map Prod.fst ∧
      ∃ shares, Together batch limit advanced.1 advanced.2 shares := by
  induction rounds generalizing tasks context shares with
  | zero => exact ⟨rfl, shares, together⟩
  | succ rounds inductionHypothesis =>
    simp only [Command.takeRounds]
    split
    · exact ⟨rfl, shares, together⟩
    · rcases together.advanceInTurn (List.range tasks.length) with ⟨same, _, next⟩
      rcases inductionHypothesis next with ⟨same', last⟩
      exact ⟨same'.trans same, last⟩

/-- When the first source has been read to the end, the others are as before. -/
theorem Together.settled {argument : String} {task : Task} {out : Except Fault Bytes × Context Host}
    (together : Together batch limit ((argument, task) :: tasks) context shares)
    (settles : Task.Settles batch argument context (shares 0) (owing tasks) out) :
    Together batch limit tasks out.2 fun number => shares (number + 1) where
  promises _ _ _ found := together.others settles.leads (Nat.succ_ne_zero _) found
  divided := (together.divided.give settles.leads).tail
  disk := settles.leads.state.disk.trans together.disk
  answers := settles.answers

/-- What is there when a batch of sources has been read: the results, the disk
as before, and an unused standard output. -/
structure Batch.Gives (batch : Batch) (arguments : List String)
    (out : List (Except Fault Bytes) × Context Host) : Prop where
  results : out.1 = arguments.map batch.result
  disk : out.2.state.disk = batch.disk
  sink : out.2.state.devices[stdout]? = some (.memoryFile (.ofBytes []))

theorem Batch.Gives.cons {argument : String} {arguments : List String}
    {result : Except Fault Bytes} {results : List (Except Fault Bytes)} {after : Context Host}
    (first : result = batch.result argument) (gives : batch.Gives arguments (results, after)) :
    batch.Gives (argument :: arguments) (result :: results, after) :=
  ⟨congr (congrArg List.cons first) gives.results, gives.disk, gives.sink⟩

/-- Tasks that are completed in order. -/
theorem Together.completeAll (together : Together batch limit tasks context shares) :
    batch.Gives (tasks.map Prod.fst) (completeAll limit batch.options tasks context) := by
  induction tasks generalizing context shares with
  | nil => exact ⟨rfl, together.disk, together.divided.sink⟩
  | cons entry tasks inductionHypothesis =>
    cases entry with
    | mk argument task =>
      rcases together.promises 0 argument task rfl with ⟨steps, enough, promises⟩
      have answers := together.answers
      rw [owing_cons] at answers
      have settles := promises.settles enough answers
      exact .cons settles.result (inductionHypothesis (together.settled settles))

/-- The first source is read to its result before the others are. -/
theorem readInTurn_cons (options : Options) (argument : String) (arguments : List String)
    (context : Context Host) :
    readInTurn limit options (argument :: arguments) context =
      let first := Action.outcomeOf (readSource limit options argument context)
      let rest := readInTurn limit options arguments first.2
      (first.1 :: rest.1, rest.2) := by
  rw [readInTurn]
  cases readSource limit options argument context with
  | ok bytes after => rfl
  | error fault after => rfl

/-- Sources that are read one after the other. -/
theorem Together.readInTurn {arguments : List String}
    (together : Together batch limit (arguments.map fun argument => (argument, Task.waiting))
      context shares) :
    batch.Gives arguments (readInTurn limit batch.options arguments context) := by
  induction arguments generalizing context shares with
  | nil => exact ⟨rfl, together.disk, together.divided.sink⟩
  | cons argument arguments inductionHypothesis =>
    rcases together.promises 0 argument .waiting rfl with ⟨steps, enough, promises⟩
    have answers := together.answers
    rw [List.map_cons, owing_cons] at answers
    -- The share must be a variable for its form to be read off.
    generalize share : shares 0 = own at promises
    cases promises with
    | waiting some_steps finds =>
      have rounds := Nat.le_of_lt (Nat.lt_of_lt_of_le some_steps enough)
      have settles := settles_readSource rounds finds answers
      rw [← share] at settles
      rw [readInTurn_cons]
      exact .cons settles.result (inductionHypothesis (together.settled settles))

end

/-! ## From the start -/

/-- What occurs once at most is in one place at most. -/
theorem place_unique {arguments : List String} {argument : String}
    (once : arguments.count argument ≤ 1) {first second : Nat}
    (here : arguments[first]? = some argument) (there : arguments[second]? = some argument) :
    first = second := by
  induction arguments generalizing first second with
  | nil => cases here
  | cons head arguments inductionHypothesis =>
    have twice {number : Nat} (same : head = argument)
        (again : arguments[number]? = some argument) : False := by
      have some_time := List.count_pos_iff.mpr (List.mem_of_getElem? again)
      rw [same, List.count_cons_self] at once
      omega
    cases first with
    | zero =>
      cases second with
      | zero => rfl
      | succ second => exact (twice (Option.some.inj here) there).elim
    | succ first =>
      cases second with
      | zero => exact (twice (Option.some.inj there) here).elim
      | succ second =>
        have fewer := Nat.le_trans List.count_le_count_cons once
        exact congrArg Nat.succ (inductionHypothesis fewer here there)

/-- The shares with which sources are waiting. -/
def reservations (arguments : List String) (number : Nat) : Share :=
  ⟨[], (arguments[number]?.map Batch.reserved).getD []⟩

theorem mem_reservations {arguments : List String} {number : Nat} {asset : Host.Asset}
    (member : asset ∈ (reservations arguments number).assets) :
    asset = .device stdin ∧ arguments[number]? = some "-" := by
  rw [reservations] at member
  cases found : arguments[number]? with
  | none =>
    rw [found] at member
    cases member
  | some argument =>
    rw [found] at member
    by_cases dash : argument = "-"
    · rw [dash] at member ⊢
      exact ⟨List.mem_singleton.mp member, rfl⟩
    · have nothing : Batch.reserved argument = [] := if_neg dash
      rw [Option.map_some, Option.getD_some, nothing] at member
      cases member

section

variable {batch : Batch} {limit : Nat} {arguments : List String} {net : Net}

/-- At the start all tasks are waiting. -/
theorem together_start (once : arguments.count "-" ≤ 1)
    (enough : ∀ argument ∈ arguments, batch.length argument + 2 < limit)
    (answers : Net.Answers batch.answerOf (arguments.countP isAddress) net.script) :
    Together batch limit (arguments.map fun argument => (argument, Task.waiting))
      (start batch.room batch.input batch.disk net) (reservations arguments) where
  promises := by
    intro number argument task found
    rw [List.getElem?_map] at found
    cases named : arguments[number]? with
    | none =>
      rw [named] at found
      cases found
    | some argument' =>
      rw [named] at found
      cases found
      have share : reservations arguments number = ⟨[], Batch.reserved argument⟩ := by
        rw [reservations, named]
        rfl
      rw [share]
      exact ⟨limit, Nat.le_refl _,
        .waiting (enough argument (List.mem_of_getElem? named)) ⟨rfl, rfl, fun _ => rfl⟩⟩
  divided := by
    refine ⟨fun number => ⟨nofun, fun asset member => ?_⟩, fun number other distinct =>
      ⟨nofun, fun asset member used => ?_⟩, fun number member => ?_, rfl⟩
    · rw [(mem_reservations member).1]
      exact Nat.succ_pos 1
    · exact distinct (place_unique once (mem_reservations member).2 (mem_reservations used).2)
    · cases (mem_reservations member).1
  disk := rfl
  answers := by
    rw [owing, List.countP_map]
    exact answers

/-- All sources of the command are read. -/
def readAll (limit : Nat) (schedule : List Nat) (options : Options) (context : Context Host) :
    List (Except Fault Bytes) × Context Host :=
  match options.concurrency with
  | .blocking => readInTurn limit options options.sources context
  | .asynchronous => readByTasks limit options schedule options.sources context

/-- In whichever way the sources are read, each gives what it would give
alone. -/
theorem gives_readAll (schedule : List Nat) (once : batch.options.sources.count "-" ≤ 1)
    (enough : ∀ argument ∈ batch.options.sources, batch.length argument + 2 < limit)
    (answers : Net.Answers batch.answerOf (batch.options.sources.countP isAddress) net.script) :
    batch.Gives batch.options.sources
      (readAll limit schedule batch.options (start batch.room batch.input batch.disk net)) := by
  have together := together_start once enough answers
  rw [readAll]
  cases batch.options.concurrency with
  | blocking => exact together.readInTurn
  | asynchronous =>
    rcases together.advanceInTurn schedule with ⟨same, _, scheduled⟩
    rcases scheduled.takeRounds limit with ⟨same', _, advanced⟩
    have gives := advanced.completeAll
    have named : (batch.options.sources.map fun argument => (argument, Task.waiting)).map Prod.fst =
        batch.options.sources := by
      rw [List.map_map]
      exact List.map_id _
    rw [same', same, named] at gives
    exact gives

end

end Command

end ResumableStreams
