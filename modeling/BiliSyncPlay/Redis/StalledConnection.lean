import BiliSyncPlay.Lists

/-!
# The queue behind a backstopped connection

A timed-out command gives back its admission slot and stays in the queue of its connection. What
bounds that queue is the guard, which resets a connection whose commands keep failing.

A reply settles the promises of its commands, and their reactions (the slot, then the guard) follow
in turn. A timer fires when no reaction is left, and those of its one promise run at once.
-/

namespace BiliSyncPlay.StalledConnection

/-! ## The guard -/

structure Guard where
  consecutiveFailures : Nat := 0
  generation : Nat := 0
  resetting : Bool := false
  deriving DecidableEq

structure Attempt where
  submittedGeneration : Nat
  settled : Bool := false
  deriving DecidableEq

/-- A `ready` event starts a generation, natural reconnects included. -/
def Guard.onReady (guard : Guard) : Guard where
  generation := guard.generation + 1

def Guard.beginAttempt (guard : Guard) : Option Attempt :=
  if guard.resetting then none else some { submittedGeneration := guard.generation }

def Guard.recordSuccess (guard : Guard) (attempt : Attempt) : Guard × Attempt :=
  if attempt.settled then (guard, attempt)
  else
    (if attempt.submittedGeneration = guard.generation ∧ guard.resetting = false then
      { guard with consecutiveFailures := 0 }
    else guard, { attempt with settled := true })

/-- What a failure leaves, and whether it called `disconnect(true)`. -/
structure Failed where
  guard : Guard
  attempt : Attempt
  disconnected : Bool
  dropped : Bool

/-- `disconnectThrows` says whether a disconnect fails, which leaves the socket as it was. -/
def Guard.recordFailure (threshold : Nat) (disconnectThrows : Bool) (guard : Guard)
    (attempt : Attempt) : Failed :=
  if attempt.settled then ⟨guard, attempt, false, false⟩
  else
    let settled := { attempt with settled := true }
    if attempt.submittedGeneration ≠ guard.generation ∨ guard.resetting then
      ⟨guard, settled, false, false⟩
    else
      let counted := { guard with consecutiveFailures := guard.consecutiveFailures + 1 }
      if counted.consecutiveFailures < threshold then ⟨counted, settled, false, false⟩
      else if disconnectThrows then ⟨counted, settled, true, false⟩
      else ⟨⟨0, guard.generation + 1, true⟩, settled, true, true⟩

/-! ## Commands under admission -/

inductive Stage where
  /-- The caller awaits the answer. -/
  | waiting
  /-- The promise is settled, and its slot still held. -/
  | settled (ok : Bool)
  /-- The slot is free, and the guard not yet told. -/
  | released (ok : Bool)
  | recorded
  deriving DecidableEq

structure Command where
  attempt : Attempt
  stage : Stage := .waiting
  /-- Redis has answered it, or it has left the queue unanswered. -/
  answered : Bool := false
  deriving DecidableEq

inductive Lifecycle where
  | disconnect
  | ready
  deriving DecidableEq

/-- The owner of a connection: its guard, its admission, the commands in the order they were
submitted in, and what became of the socket. -/
structure Owner where
  guard : Guard := {}
  pendingCommands : Nat := 0
  commands : List Command := []
  lifecycle : List Lifecycle := []
  deriving DecidableEq

inductive Event where
  | submit
  /-- An answer, or an error. -/
  | reply (command : Nat) (ok : Bool)
  /-- The `finally` of the admission. -/
  | release (command : Nat)
  | record (command : Nat)
  | timeout (command : Nat)
  | ready
  deriving DecidableEq

def Stage.busy : Stage → Bool
  | .settled _ | .released _ => true
  | .waiting | .recorded => false

/-- All of its generation that were submitted before it are answered. -/
def Owner.inTurn (owner : Owner) (i : Nat) (command : Command) : Bool :=
  (owner.commands.take i).all fun earlier =>
    earlier.attempt.submittedGeneration ≠ command.attempt.submittedGeneration || earlier.answered

/-- No timer fires before one that was set earlier and is still set. -/
def Owner.timedOutFirst (owner : Owner) (i : Nat) : Bool :=
  (owner.commands.take i).all (·.stage ≠ .waiting) && owner.commands.all (!·.stage.busy)

def Owner.recordOutcome (threshold : Nat) (owner : Owner) (i : Nat) (command : Command)
    (ok : Bool) : Owner :=
  if ok then
    let (guard, attempt) := owner.guard.recordSuccess command.attempt
    { owner with
      guard
      commands := owner.commands.set i { command with attempt, stage := .recorded } }
  else
    let failed := owner.guard.recordFailure threshold false command.attempt
    { owner with
      guard := failed.guard
      commands := owner.commands.set i
        { command with attempt := failed.attempt, stage := .recorded }
      lifecycle := owner.lifecycle ++ if failed.disconnected then [.disconnect] else [] }

section
variable (limit threshold : Nat)

/-- `guarded`: a command that finds the connection resetting, or no slot, goes nowhere. -/
def Owner.submit (owner : Owner) : Owner :=
  match owner.guard.beginAttempt with
  | none => owner
  | some attempt =>
    if limit ≤ owner.pendingCommands then owner
    else
      { owner with
        pendingCommands := owner.pendingCommands + 1
        commands := owner.commands ++ [{ attempt }] }

/-- Nothing, where the event cannot happen. An error may also come out of turn, from a command that
never reached the queue. -/
def Owner.step (owner : Owner) : Event → Option Owner
  | .submit => some (owner.submit limit)
  | .reply i ok =>
    match owner.commands[i]? with
    | none => none
    | some command =>
      if command.answered ∨ ok ∧ owner.inTurn i command = false then none
      else
        let stage := if command.stage = .waiting then .settled ok else command.stage
        some
          { owner with commands := owner.commands.set i { command with stage, answered := true } }
  | .release i =>
    match owner.commands[i]? with
    | some ⟨attempt, .settled ok, answered⟩ =>
      some { owner with
        pendingCommands := owner.pendingCommands - 1
        commands := owner.commands.set i ⟨attempt, .released ok, answered⟩ }
    | _ => none
  | .record i =>
    match owner.commands[i]? with
    | some ⟨attempt, .released ok, answered⟩ =>
      some (owner.recordOutcome threshold i ⟨attempt, .released ok, answered⟩ ok)
    | _ => none
  | .timeout i =>
    match owner.commands[i]? with
    | some ⟨attempt, .waiting, answered⟩ =>
      if owner.timedOutFirst i then
        some ({ owner with pendingCommands := owner.pendingCommands - 1 }.recordOutcome threshold i
          ⟨attempt, .waiting, answered⟩ false)
      else none
    | _ => none
  | .ready =>
    some { owner with
      guard := owner.guard.onReady
      lifecycle := owner.lifecycle ++ [.ready] }

/-- A run of events, each of which can happen where it does. -/
def Owner.run (owner : Owner) : List Event → Option Owner
  | [] => some owner
  | event :: rest => (owner.step limit threshold event).bind fun next => next.run rest

end

/-! ## What is outstanding -/

def Command.generation (command : Command) : Nat := command.attempt.submittedGeneration

/-- A command that holds a slot. -/
def Command.holds (command : Command) : Bool :=
  match command.stage with
  | .waiting | .settled _ => true
  | .released _ | .recorded => false

/-- A command that its caller gave up, and that Redis may still answer. -/
def Command.stalled (command : Command) : Bool := command.stage = .recorded && !command.answered

/-- A command whose good answer the guard is still to hear of. -/
def Command.succeeding (command : Command) : Bool :=
  command.stage = .settled true || command.stage = .released true

/-- Submitted in a generation, and not answered yet. -/
def Command.outstanding (generation : Nat) (command : Command) : Bool :=
  command.generation = generation && !command.answered

def Command.stalledIn (generation : Nat) (command : Command) : Bool :=
  command.generation = generation && command.stalled

def Owner.outstanding (owner : Owner) : Nat :=
  owner.commands.countP (Command.outstanding owner.guard.generation)

/-- What holds of each command. -/
structure Command.Sound (guard : Guard) (command : Command) : Prop where
  waits : command.answered = false → command.stage = .waiting ∨ command.stage = .recorded
  open_ : command.stage ≠ .recorded → command.attempt.settled = false
  past : command.generation ≤ guard.generation
  resetting : guard.resetting = true → command.generation < guard.generation

/-- What holds of two commands: callers give up in the order they asked in, and answers come in
it. -/
structure InOrder (commands : List Command) : Prop where
  givenUp : ∀ (i j : Nat) (a b : Command), i < j → commands[i]? = some a → commands[j]? = some b →
    b.stalled = true → a.stage = .recorded
  answered : ∀ (i j : Nat) (a b : Command), i < j → commands[i]? = some a → commands[j]? = some b →
    b.succeeding = true → a.generation = b.generation → a.answered = true

theorem InOrder.concat {commands : List Command} (inOrder : InOrder commands) {c : Command}
    (waiting : c.stage = .waiting) : InOrder (commands ++ [c]) := by
  have fresh : c.stalled = false ∧ c.succeeding = false := by
    simp [Command.stalled, Command.succeeding, waiting]
  constructor
  · intro i j a b lt atI atJ stalled
    rcases getElem?_concat_cases atJ with ⟨-, rfl⟩ | ⟨within, atJ⟩
    · rw [fresh.1] at stalled
      cases stalled
    · rcases getElem?_concat_cases atI with ⟨last, -⟩ | ⟨-, atI⟩
      · omega
      · exact inOrder.givenUp i j a b lt atI atJ stalled
  · intro i j a b lt atI atJ succeeding same
    rcases getElem?_concat_cases atJ with ⟨-, rfl⟩ | ⟨within, atJ⟩
    · rw [fresh.2] at succeeding
      cases succeeding
    · rcases getElem?_concat_cases atI with ⟨last, -⟩ | ⟨-, atI⟩
      · omega
      · exact inOrder.answered i j a b lt atI atJ succeeding same

/-- A command that gets further keeps the order, where it was its turn. -/
theorem InOrder.set {commands : List Command} (inOrder : InOrder commands) {k : Nat}
    {c : Command} (atK : commands[k]? = some c) (c' : Command)
    (generation : c'.generation = c.generation)
    (recorded : c.stage = .recorded → c'.stage = .recorded)
    (answered : c.answered = true → c'.answered = true)
    (givenUp : c'.stalled = true → c.stalled = true ∨
      ∀ i < k, ∀ a, commands[i]? = some a → a.stage = .recorded)
    (succeeds : c'.succeeding = true → c.succeeding = true ∨
      ∀ i < k, ∀ a, commands[i]? = some a → a.generation = c.generation → a.answered = true) :
    InOrder (commands.set k c') := by
  constructor
  · intro i j a b lt atI atJ stalled
    -- The earlier of the two may have been changed, or the later.
    have earlier : ∀ a', commands[i]? = some a' → a'.stage = .recorded → a.stage = .recorded := by
      intro a' before kept
      rcases getElem?_set_cases atI with ⟨rfl, rfl⟩ | ⟨-, same⟩
      · rw [atK] at before
        cases before
        exact recorded kept
      · rw [before] at same
        cases same
        exact kept
    have within : ∃ a', commands[i]? = some a' := by
      rcases getElem?_set_cases atI with ⟨rfl, -⟩ | ⟨-, same⟩
      · exact ⟨c, atK⟩
      · exact ⟨a, same⟩
    obtain ⟨a', before⟩ := within
    apply earlier a' before
    rcases getElem?_set_cases atJ with ⟨rfl, rfl⟩ | ⟨-, atJ⟩
    · rcases givenUp stalled with old | all
      · exact inOrder.givenUp i j a' c lt before atK old
      · exact all i lt a' before
    · exact inOrder.givenUp i j a' b lt before atJ stalled
  · intro i j a b lt atI atJ succeeding same
    have earlier : ∃ a', commands[i]? = some a' ∧ a.generation = a'.generation ∧
        (a'.answered = true → a.answered = true) := by
      rcases getElem?_set_cases atI with ⟨rfl, rfl⟩ | ⟨-, kept⟩
      · exact ⟨c, atK, generation, answered⟩
      · exact ⟨a, kept, rfl, id⟩
    obtain ⟨a', before, alike, later⟩ := earlier
    apply later
    rw [alike] at same
    rcases getElem?_set_cases atJ with ⟨rfl, rfl⟩ | ⟨-, atJ⟩
    · rw [generation] at same
      rcases succeeds succeeding with old | all
      · exact inOrder.answered i j a' c lt before atK old same
      · exact all i lt a' before same
    · exact inOrder.answered i j a' b lt before atJ succeeding same

/-! ## The guard's own laws -/

/-- What a guard that moved on may be. -/
structure Guard.Precedes (guard next : Guard) : Prop where
  generation : guard.generation ≤ next.generation
  resetting : next.resetting = true →
    guard.resetting = true ∧ next.generation = guard.generation ∨
      guard.generation < next.generation

theorem Command.Sound.later {guard next : Guard} {c : Command} (sound : c.Sound guard)
    (precedes : guard.Precedes next) : c.Sound next where
  waits := sound.waits
  open_ := sound.open_
  past := Nat.le_trans sound.past precedes.generation
  resetting on := by
    have past := sound.past
    rcases precedes.resetting on with ⟨before, same⟩ | moved
    · rw [same]
      exact sound.resetting before
    · omega

theorem Guard.precedes_onReady (guard : Guard) : guard.Precedes guard.onReady where
  generation := Nat.le_succ _
  resetting on := nomatch on

variable {attempt : Attempt}

theorem Guard.recordSuccess_of_open (guard : Guard) (open_ : attempt.settled = false) :
    guard.recordSuccess attempt =
      (if attempt.submittedGeneration = guard.generation ∧ guard.resetting = false then
        { guard with consecutiveFailures := 0 }
      else guard, { attempt with settled := true }) := by
  rw [Guard.recordSuccess, if_neg (by simp [open_])]

/-- What the guard makes of a failure it hears of. -/
inductive Guard.Hears (threshold : Nat) (guard : Guard) (attempt : Attempt) : Guard → Bool → Prop
  /-- One of another generation, or while the socket is reset. -/
  | ignored : attempt.submittedGeneration ≠ guard.generation ∨ guard.resetting = true →
      guard.Hears threshold attempt guard false
  | counted : attempt.submittedGeneration = guard.generation → guard.resetting = false →
      guard.consecutiveFailures + 1 < threshold →
      guard.Hears threshold attempt
        { guard with consecutiveFailures := guard.consecutiveFailures + 1 } false
  | reset : attempt.submittedGeneration = guard.generation → guard.resetting = false →
      threshold ≤ guard.consecutiveFailures + 1 →
      guard.Hears threshold attempt ⟨0, guard.generation + 1, true⟩ true

theorem Guard.recordFailure_hears (threshold : Nat) (guard : Guard)
    (open_ : attempt.settled = false) :
    let failed := guard.recordFailure threshold false attempt
    guard.Hears threshold attempt failed.guard failed.disconnected ∧
      failed.attempt = { attempt with settled := true } := by
  unfold Guard.recordFailure
  rw [if_neg (by simp [open_])]
  by_cases other : attempt.submittedGeneration ≠ guard.generation ∨ guard.resetting = true
  · rw [if_pos other]
    exact ⟨.ignored other, rfl⟩
  · rw [if_neg other]
    obtain ⟨current, calm⟩ := not_or.mp other
    have same := not_not.mp current
    have calm : guard.resetting = false := by simpa using calm
    by_cases few : guard.consecutiveFailures + 1 < threshold
    · simp only [few, if_true, and_true]
      exact .counted same calm few
    · simp only [few, if_false, Bool.false_eq_true, and_true]
      exact .reset same calm (Nat.le_of_not_lt few)

theorem Guard.Hears.precedes {threshold : Nat} {guard next : Guard} {disconnected : Bool}
    (hears : guard.Hears threshold attempt next disconnected) :
    guard.Precedes next := by
  cases hears with
  | ignored => exact ⟨Nat.le_refl _, fun on => .inl ⟨on, rfl⟩⟩
  | counted _ calm =>
    refine ⟨Nat.le_refl _, fun on => ?_⟩
    rw [calm] at on
    cases on
  | reset => exact ⟨Nat.le_succ _, fun _ => .inr (Nat.lt_succ_self _)⟩

/-! ## The invariant -/

/-- Slots, and the order of commands. -/
structure Owner.Shape (limit : Nat) (owner : Owner) : Prop where
  slots : owner.pendingCommands = owner.commands.countP Command.holds
  room : owner.pendingCommands ≤ limit
  sound : ∀ c ∈ owner.commands, c.Sound owner.guard
  inOrder : InOrder owner.commands

/-- The callers that gave up in this generation are no more than its failures. -/
structure Owner.Inv (limit threshold : Nat) (owner : Owner) : Prop extends
    owner.Shape limit where
  failures : owner.guard.consecutiveFailures < threshold
  stalls : owner.commands.countP (Command.stalledIn owner.guard.generation) ≤
    owner.guard.consecutiveFailures

variable {limit threshold : Nat} {owner : Owner} {i : Nat} {c : Command}

theorem Owner.Shape.withGuard (shape : owner.Shape limit) {next : Guard}
    (precedes : owner.guard.Precedes next) (lifecycle : List Lifecycle) :
    Owner.Shape limit { owner with guard := next, lifecycle } where
  slots := shape.slots
  room := shape.room
  sound c mem := (shape.sound c mem).later precedes
  inOrder := shape.inOrder

/-- No command is of a generation still to come. -/
theorem Owner.Shape.none_stalled (shape : owner.Shape limit) {generation : Nat}
    (later : owner.guard.generation < generation) :
    owner.commands.countP (Command.stalledIn generation) = 0 := by
  apply List.countP_eq_zero.mpr
  intro c mem
  have past := (shape.sound c mem).past
  have other : c.generation ≠ generation := by omega
  simp [Command.stalledIn, other]

/-- An outstanding command holds a slot, or is one its caller gave up. -/
theorem Owner.Inv.outstanding_le (inv : owner.Inv limit threshold) :
    owner.outstanding ≤ limit + threshold - 1 := by
  have covered : owner.outstanding ≤ owner.commands.countP Command.holds +
      owner.commands.countP (Command.stalledIn owner.guard.generation) := by
    apply countP_le_add
    intro c mem outstanding
    simp only [Command.outstanding, Bool.and_eq_true, decide_eq_true_eq,
      Bool.not_eq_true'] at outstanding
    rcases (inv.sound c mem).waits outstanding.2 with waiting | recorded
    · exact .inl (by simp [Command.holds, waiting])
    · exact .inr (by simp [Command.stalledIn, Command.stalled, outstanding, recorded])
  have slots := inv.slots
  have room := inv.room
  have failures := inv.failures
  have stalls := inv.stalls
  omega

/-- A command that gets further, with the slots it takes or gives back. -/
theorem Owner.Shape.set (shape : owner.Shape limit) (atI : owner.commands[i]? = some c)
    (c' : Command) (pendingCommands : Nat)
    (slots : pendingCommands + [c].countP Command.holds =
      owner.pendingCommands + [c'].countP Command.holds)
    (room : pendingCommands ≤ owner.pendingCommands) (sound : c'.Sound owner.guard)
    (inOrder : InOrder (owner.commands.set i c')) :
    Owner.Shape limit
      { owner with pendingCommands, commands := owner.commands.set i c' } where
  slots := by
    have counted := countP_set_add Command.holds atI c'
    have before := shape.slots
    dsimp only
    omega
  room := Nat.le_trans room shape.room
  sound other mem := by
    rcases List.mem_or_eq_of_mem_set mem with old | rfl
    · exact shape.sound other old
    · exact sound
  inOrder := inOrder

theorem Owner.Shape.at (shape : owner.Shape limit) (atI : owner.commands[i]? = some c) :
    c.Sound owner.guard := shape.sound c (List.mem_of_getElem? atI)

/-- Nothing is stalled before a good answer is recorded. -/
theorem Owner.Shape.none_stalled_of_succeeding (shape : owner.Shape limit)
    (atI : owner.commands[i]? = some c) (succeeding : c.succeeding = true) :
    owner.commands.countP (Command.stalledIn c.generation) = 0 := by
  apply List.countP_eq_zero.mpr
  intro other mem stalledIn
  simp only [Command.stalledIn, Bool.and_eq_true, decide_eq_true_eq] at stalledIn
  obtain ⟨same, stalled⟩ := stalledIn
  obtain ⟨j, atJ⟩ := List.mem_iff_getElem?.mp mem
  have going : c.stage ≠ .recorded := by
    intro recorded
    simp [Command.succeeding, recorded] at succeeding
  simp only [Command.stalled, Bool.and_eq_true, decide_eq_true_eq, Bool.not_eq_true'] at stalled
  rcases Nat.lt_trichotomy i j with before | rfl | after
  · have given : other.stalled = true := by simp [Command.stalled, stalled]
    exact going (shape.inOrder.givenUp i j c other before atI atJ given)
  · rw [atI] at atJ
    cases atJ
    exact going stalled.1
  · have answered := shape.inOrder.answered j i other c after atJ atI succeeding same
    rw [answered] at stalled
    cases stalled.2

/-! ### Submitting, answering, releasing -/

theorem Owner.Inv.submit (inv : owner.Inv limit threshold) :
    (owner.submit limit).Inv limit threshold := by
  unfold Owner.submit Guard.beginAttempt
  by_cases resetting : owner.guard.resetting = true
  · rw [if_pos resetting]
    exact inv
  · rw [if_neg resetting]
    dsimp only
    by_cases full : limit ≤ owner.pendingCommands
    · rw [if_pos full]
      exact inv
    · rw [if_neg full]
      have slots := inv.slots
      refine ⟨⟨?_, ?_, ?_, inv.inOrder.concat rfl⟩, inv.failures, ?_⟩
      · simp [List.countP_append, Command.holds, slots]
      · dsimp only
        omega
      · intro c mem
        rcases List.mem_append.mp mem with old | new
        · exact inv.sound c old
        · rw [List.mem_singleton.mp new]
          exact ⟨fun _ => .inl rfl, fun _ => rfl, Nat.le_refl _, fun on => absurd on resetting⟩
      · simpa [List.countP_append, Command.stalledIn, Command.stalled] using inv.stalls

variable {event : Event} {next : Owner}

theorem Owner.Inv.of_shape (inv : owner.Inv limit threshold) (shape : next.Shape limit)
    (guard : next.guard = owner.guard)
    (fewer : next.commands.countP (Command.stalledIn owner.guard.generation) ≤
      owner.commands.countP (Command.stalledIn owner.guard.generation)) :
    next.Inv limit threshold where
  toShape := shape
  failures := by rw [guard]; exact inv.failures
  stalls := by rw [guard]; exact Nat.le_trans fewer inv.stalls

/-- A command that is not stalled after a step is not counted as one. -/
theorem stalledIn_set_le {commands : List Command} {generation : Nat} {c c' : Command}
    (atI : commands[i]? = some c) (fresh : c'.stalledIn generation = false) :
    (commands.set i c').countP (Command.stalledIn generation) ≤
      commands.countP (Command.stalledIn generation) := by
  have counted := countP_set_add (Command.stalledIn generation) atI c'
  have none_ : [c'].countP (Command.stalledIn generation) = 0 := by simp [fresh]
  omega

theorem Owner.Inv.reply (inv : owner.Inv limit threshold) (atI : owner.commands[i]? = some c)
    {ok : Bool} (turn : ok = true → owner.inTurn i c = true) :
    Owner.Inv limit threshold
      { owner with
        commands := owner.commands.set i
          { c with
            stage := if c.stage = .waiting then .settled ok else c.stage
            answered := true } } := by
  have sound := inv.toShape.at atI
  refine inv.of_shape (inv.toShape.set atI _ owner.pendingCommands ?_ (Nat.le_refl _) ?_ ?_) rfl
    (stalledIn_set_le atI (by simp [Command.stalledIn, Command.stalled]))
  · by_cases waiting : c.stage = .waiting
    · simp [Command.holds, waiting]
    · rw [if_neg waiting]
      rfl
  · refine ⟨nofun, fun going => ?_, sound.past, sound.resetting⟩
    apply sound.open_
    by_cases waiting : c.stage = .waiting
    · simp [waiting]
    · simpa [waiting] using going
  · refine inv.inOrder.set atI _ rfl ?_ (fun _ => rfl) ?_ ?_
    · intro recorded
      simp [recorded]
    · intro stalled
      simp [Command.stalled] at stalled
    · intro succeeding
      by_cases waiting : c.stage = .waiting
      · have good : ok = true := by simpa [Command.succeeding, waiting] using succeeding
        refine .inr fun j lt a atJ same => ?_
        have earlier := List.all_eq_true.mp (turn good) a
          (List.mem_of_getElem? (by rw [List.getElem?_take_of_lt lt]; exact atJ))
        have alike : a.attempt.submittedGeneration = c.attempt.submittedGeneration := same
        simpa [alike] using earlier
      · simp only [Command.succeeding, waiting, if_false] at succeeding ⊢
        exact .inl succeeding

theorem Owner.Inv.pending_pos (inv : owner.Inv limit threshold)
    (atI : owner.commands[i]? = some c) (holds : c.holds = true) : 0 < owner.pendingCommands := by
  rw [inv.slots]
  exact List.countP_pos_iff.mpr ⟨c, List.mem_of_getElem? atI, holds⟩

theorem Owner.Inv.release (inv : owner.Inv limit threshold) {ok answered : Bool}
    (atI : owner.commands[i]? = some ⟨attempt, .settled ok, answered⟩) :
    Owner.Inv limit threshold
      { owner with
        pendingCommands := owner.pendingCommands - 1
        commands := owner.commands.set i ⟨attempt, .released ok, answered⟩ } := by
  have sound := inv.toShape.at atI
  have held := inv.pending_pos atI rfl
  refine inv.of_shape (inv.toShape.set atI _ (owner.pendingCommands - 1) ?_ (Nat.sub_le _ _) ?_ ?_)
    rfl (stalledIn_set_le atI (by simp [Command.stalledIn, Command.stalled]))
  · simp [Command.holds]
    omega
  · refine ⟨fun unanswered => ?_, fun _ => sound.open_ nofun, sound.past, sound.resetting⟩
    rcases sound.waits unanswered with waiting | recorded
    · cases waiting
    · cases recorded
  · refine inv.inOrder.set atI _ rfl nofun id ?_ ?_
    · intro stalled
      simp [Command.stalled] at stalled
    · intro succeeding
      left
      cases ok
      · simp [Command.succeeding] at succeeding
      · rfl

/-! ### Recording -/

/-- A command of which the guard has heard. -/
def Command.close (command : Command) : Command :=
  { command with attempt := { command.attempt with settled := true }, stage := .recorded }

theorem Command.Sound.close {guard : Guard} (sound : c.Sound guard) : c.close.Sound guard where
  waits _ := .inr rfl
  open_ going := absurd rfl going
  past := sound.past
  resetting := sound.resetting

/-- Recording an outcome leaves the order of commands, where it is its turn. -/
theorem Owner.Shape.close (shape : owner.Shape limit) (atI : owner.commands[i]? = some c)
    {pendingCommands : Nat}
    (slots : pendingCommands + [c].countP Command.holds = owner.pendingCommands)
    (turn : c.answered = true ∨ ∀ j < i, ∀ a, owner.commands[j]? = some a → a.stage = .recorded) :
    Owner.Shape limit
      { owner with pendingCommands, commands := owner.commands.set i c.close } := by
  refine shape.set atI _ pendingCommands slots (by omega) (shape.at atI).close ?_
  refine shape.inOrder.set atI _ rfl (fun _ => rfl) id ?_ ?_
  · intro stalled
    rcases turn with answered | first
    · simp [Command.stalled, Command.close, answered] at stalled
    · exact .inr first
  · intro succeeding
    simp [Command.succeeding, Command.close] at succeeding

theorem Owner.recordOutcome_ok (open_ : c.attempt.settled = false) :
    owner.recordOutcome threshold i c true =
      { owner with
        guard :=
          if c.generation = owner.guard.generation ∧ owner.guard.resetting = false then
            { owner.guard with consecutiveFailures := 0 }
          else owner.guard
        commands := owner.commands.set i c.close } := by
  unfold Owner.recordOutcome
  rw [if_pos rfl, Guard.recordSuccess_of_open _ open_]
  rfl

theorem Owner.recordOutcome_failed (threshold : Nat) (owner : Owner) (i : Nat)
    (open_ : c.attempt.settled = false) :
    ∃ next disconnected, owner.guard.Hears threshold c.attempt next disconnected ∧
      owner.recordOutcome threshold i c false =
        { owner with
          guard := next
          commands := owner.commands.set i c.close
          lifecycle := owner.lifecycle ++ if disconnected then [.disconnect] else [] } := by
  obtain ⟨hears, settled⟩ := owner.guard.recordFailure_hears threshold open_
  refine ⟨_, _, hears, ?_⟩
  unfold Owner.recordOutcome
  rw [if_neg Bool.false_ne_true]
  dsimp only at settled ⊢
  rw [settled]
  rfl

theorem Owner.Inv.record_ok (inv : owner.Inv limit threshold) (atI : owner.commands[i]? = some c)
    (stage : c.stage = .released true) :
    (owner.recordOutcome threshold i c true).Inv limit threshold := by
  have sound := inv.toShape.at atI
  have answered : c.answered = true := by
    by_contra unanswered
    rcases sound.waits (by simpa using unanswered) with waiting | recorded
    · simp [stage] at waiting
    · simp [stage] at recorded
  have slots : owner.pendingCommands + [c].countP Command.holds = owner.pendingCommands := by
    simp [Command.holds, stage]
  have closed := inv.toShape.close atI slots (.inl answered)
  have fewer : (owner.commands.set i c.close).countP
      (Command.stalledIn owner.guard.generation) ≤
        owner.commands.countP (Command.stalledIn owner.guard.generation) :=
    stalledIn_set_le atI (by simp [Command.stalledIn, Command.stalled, Command.close, answered])
  rw [Owner.recordOutcome_ok (sound.open_ (by simp [stage]))]
  by_cases current : c.generation = owner.guard.generation ∧ owner.guard.resetting = false
  · rw [if_pos current]
    have calm : owner.guard.Precedes { owner.guard with consecutiveFailures := 0 } :=
      ⟨Nat.le_refl _, fun on => .inl ⟨on, rfl⟩⟩
    refine ⟨closed.withGuard calm owner.lifecycle, Nat.zero_lt_of_lt inv.failures, ?_⟩
    have none_ := inv.toShape.none_stalled_of_succeeding atI (by simp [Command.succeeding, stage])
    rw [current.1] at none_
    dsimp only
    omega
  · rw [if_neg current]
    exact inv.of_shape closed rfl fewer

/-- A failure the guard hears of makes up for the command it may be of. -/
theorem Owner.Inv.record_failed (inv : owner.Inv limit threshold)
    (atI : owner.commands[i]? = some c) (going : c.stage ≠ .recorded) {pendingCommands : Nat}
    (slots : pendingCommands + [c].countP Command.holds = owner.pendingCommands)
    (turn : c.answered = true ∨ ∀ j < i, ∀ a, owner.commands[j]? = some a → a.stage = .recorded) :
    (Owner.recordOutcome threshold { owner with pendingCommands } i c false).Inv limit
      threshold := by
  have sound := inv.toShape.at atI
  have closed := inv.toShape.close atI slots turn
  obtain ⟨next, disconnected, hears, recorded⟩ :=
    Owner.recordOutcome_failed threshold { owner with pendingCommands } i (sound.open_ going)
  rw [recorded]
  have shape := closed.withGuard hears.precedes
    (owner.lifecycle ++ if disconnected then [.disconnect] else [])
  have counted := countP_set_add (Command.stalledIn owner.guard.generation) atI c.close
  have one : [c.close].countP (Command.stalledIn owner.guard.generation) ≤ 1 :=
    List.countP_le_length
  have stalls := inv.stalls
  have failures := inv.failures
  cases hears with
  | ignored other =>
    refine ⟨shape, failures, ?_⟩
    have elsewhere : c.generation ≠ owner.guard.generation := by
      rcases other with foreign | resetting
      · exact foreign
      · have past := sound.resetting resetting
        omega
    have none_ : [c.close].countP (Command.stalledIn owner.guard.generation) = 0 := by
      have same : c.close.generation = c.generation := rfl
      simp [Command.stalledIn, same, elsewhere]
    dsimp only
    omega
  | counted same calm few =>
    refine ⟨shape, few, ?_⟩
    dsimp only
    omega
  | reset same calm many =>
    refine ⟨shape, ?_, ?_⟩
    · dsimp only
      omega
    · exact Nat.le_of_eq (closed.none_stalled (Nat.lt_succ_self _))

/-! ## Runs -/

theorem Owner.Inv.ready (inv : owner.Inv limit threshold) (lifecycle : List Lifecycle) :
    Owner.Inv limit threshold { owner with guard := owner.guard.onReady, lifecycle } where
  toShape := inv.toShape.withGuard owner.guard.precedes_onReady lifecycle
  failures := Nat.zero_lt_of_lt inv.failures
  stalls := Nat.le_of_eq (inv.toShape.none_stalled (Nat.lt_succ_self _))

/-- What a step does, and when it can. -/
inductive Owner.Stepped (limit threshold : Nat) (owner : Owner) : Event → Owner → Prop
  | submit : owner.Stepped limit threshold .submit (owner.submit limit)
  | reply {i : Nat} {c : Command} (ok : Bool) : owner.commands[i]? = some c →
      (ok = true → owner.inTurn i c = true) →
      owner.Stepped limit threshold (.reply i ok)
        { owner with
          commands := owner.commands.set i
            { c with
              stage := if c.stage = .waiting then .settled ok else c.stage
              answered := true } }
  | release {i : Nat} {attempt : Attempt} {ok answered : Bool} :
      owner.commands[i]? = some ⟨attempt, .settled ok, answered⟩ →
      owner.Stepped limit threshold (.release i)
        { owner with
          pendingCommands := owner.pendingCommands - 1
          commands := owner.commands.set i ⟨attempt, .released ok, answered⟩ }
  | record {i : Nat} {c : Command} {ok : Bool} : owner.commands[i]? = some c →
      c.stage = .released ok →
      owner.Stepped limit threshold (.record i) (owner.recordOutcome threshold i c ok)
  | timeout {i : Nat} {c : Command} : owner.commands[i]? = some c →
      c.stage = .waiting → owner.timedOutFirst i = true →
      owner.Stepped limit threshold (.timeout i)
        ({ owner with pendingCommands := owner.pendingCommands - 1 }.recordOutcome threshold i c
          false)
  | ready : owner.Stepped limit threshold .ready
      { owner with
        guard := owner.guard.onReady
        lifecycle := owner.lifecycle ++ [.ready] }

theorem Owner.stepped (stepped : owner.step limit threshold event = some next) :
    owner.Stepped limit threshold event next := by
  cases event with
  | submit =>
    cases stepped
    exact .submit
  | reply i ok =>
    unfold Owner.step at stepped
    cases atI : owner.commands[i]? with
    | none => simp [atI] at stepped
    | some c =>
      simp only [atI] at stepped
      split at stepped
      · cases stepped
      · rename_i possible
        cases stepped
        refine .reply ok atI fun good => ?_
        by_contra early
        exact possible (.inr ⟨good, by simpa using early⟩)
  | release i =>
    unfold Owner.step at stepped
    dsimp only at stepped
    split at stepped
    · rename_i atI
      cases stepped
      exact .release atI
    · cases stepped
  | record i =>
    unfold Owner.step at stepped
    dsimp only at stepped
    split at stepped
    · rename_i atI
      cases stepped
      exact .record atI rfl
    · cases stepped
  | timeout i =>
    unfold Owner.step at stepped
    dsimp only at stepped
    split at stepped
    · rename_i atI
      split at stepped
      · rename_i first
        cases stepped
        exact .timeout atI rfl first
      · cases stepped
    · cases stepped
  | ready =>
    cases stepped
    exact .ready

/-- Every caller that asked earlier has given up or was answered. -/
theorem Owner.timedOutFirst_spec (first : owner.timedOutFirst i = true) :
    ∀ j < i, ∀ a, owner.commands[j]? = some a → a.stage = .recorded := by
  intro j lt a atJ
  obtain ⟨earlier, idle⟩ := Bool.and_eq_true_iff.mp first
  have taken : a ∈ owner.commands.take i :=
    List.mem_of_getElem? (by rw [List.getElem?_take_of_lt lt]; exact atJ)
  have gone := List.all_eq_true.mp earlier a taken
  have calm := List.all_eq_true.mp idle a (List.mem_of_getElem? atJ)
  cases stage : a.stage with
  | waiting => simp [stage] at gone
  | settled ok => simp [stage, Stage.busy] at calm
  | released ok => simp [stage, Stage.busy] at calm
  | recorded => rfl

theorem Owner.Inv.step (inv : owner.Inv limit threshold)
    (stepped : owner.step limit threshold event = some next) : next.Inv limit threshold := by
  cases Owner.stepped stepped with
  | submit => exact inv.submit
  | reply ok atI turn => exact inv.reply atI turn
  | release atI => exact inv.release atI
  | @record i c ok atI stage =>
    cases ok with
    | true => exact inv.record_ok atI stage
    | false =>
      have answered : c.answered = true := by
        by_contra unanswered
        rcases (inv.toShape.at atI).waits (by simpa using unanswered) with waiting | recorded
        · simp [stage] at waiting
        · simp [stage] at recorded
      exact inv.record_failed atI (by simp [stage]) (by simp [Command.holds, stage])
        (.inl answered)
  | @timeout i c atI stage first =>
    have held := inv.pending_pos atI (by simp [Command.holds, stage])
    have slots : owner.pendingCommands - 1 + [c].countP Command.holds = owner.pendingCommands := by
      rw [List.countP_singleton, if_pos (by simp [Command.holds, stage])]
      omega
    exact inv.record_failed atI (by simp [stage]) slots (.inr (Owner.timedOutFirst_spec first))
  | ready => exact inv.ready _

/-! ## Resets -/

/-- Between two disconnects the socket was ready. -/
def ReadyBetween (lifecycle : List Lifecycle) : Prop :=
  ∀ before between later,
    lifecycle = before ++ .disconnect :: (between ++ .disconnect :: later) → .ready ∈ between

/-- The socket was ready since it was last reset. -/
def ReadySince (lifecycle : List Lifecycle) : Prop :=
  ∀ before later, lifecycle = before ++ .disconnect :: later → .ready ∈ later

structure Owner.Resets (owner : Owner) : Prop where
  between : ReadyBetween owner.lifecycle
  since : owner.guard.resetting = false → ReadySince owner.lifecycle

theorem ReadySince.ready (lifecycle : List Lifecycle) : ReadySince (lifecycle ++ [.ready]) := by
  intro before later split
  rcases concat_eq_split split with ⟨-, other, -⟩ | ⟨rest, rfl, -⟩
  · cases other
  · simp

theorem ReadyBetween.concat {lifecycle : List Lifecycle} (between : ReadyBetween lifecycle)
    {event : Lifecycle} (since : event = .disconnect → ReadySince lifecycle) :
    ReadyBetween (lifecycle ++ [event]) := by
  intro before mid later split
  rw [← List.cons_append, ← List.append_assoc] at split
  rcases concat_eq_split split with ⟨-, last, whole⟩ | ⟨rest, -, whole⟩
  · exact since last before mid whole
  · exact between before mid rest (by rw [whole, List.append_assoc, List.cons_append])

theorem Owner.Resets.kept (resets : owner.Resets)
    (guard : next.guard.resetting = owner.guard.resetting)
    (lifecycle : next.lifecycle = owner.lifecycle) : next.Resets where
  between := by rw [lifecycle]; exact resets.between
  since calm := by
    rw [lifecycle]
    exact resets.since (guard.symm.trans calm)

theorem Owner.Resets.record_failed (resets : owner.Resets) (open_ : c.attempt.settled = false)
    (pendingCommands : Nat) :
    (Owner.recordOutcome threshold { owner with pendingCommands } i c false).Resets := by
  obtain ⟨next, disconnected, hears, recorded⟩ :=
    Owner.recordOutcome_failed threshold { owner with pendingCommands } i open_
  rw [recorded]
  cases hears with
  | ignored => exact resets.kept rfl (List.append_nil _)
  | counted => exact resets.kept rfl (List.append_nil _)
  | reset _ calm => exact ⟨resets.between.concat fun _ => resets.since calm, nofun⟩

theorem Owner.submit_same (limit : Nat) (owner : Owner) :
    (owner.submit limit).guard = owner.guard ∧
      (owner.submit limit).lifecycle = owner.lifecycle := by
  unfold Owner.submit
  split
  · exact ⟨rfl, rfl⟩
  · split <;> exact ⟨rfl, rfl⟩

theorem Owner.Resets.step (resets : owner.Resets) (inv : owner.Inv limit threshold)
    (stepped : owner.step limit threshold event = some next) :
    next.Resets := by
  cases Owner.stepped stepped with
  | submit =>
    obtain ⟨guard, lifecycle⟩ := owner.submit_same limit
    exact resets.kept (by rw [guard]) lifecycle
  | reply => exact resets.kept rfl rfl
  | release => exact resets.kept rfl rfl
  | @record i c ok atI stage =>
    have open_ := (inv.toShape.at atI).open_ (by simp [stage])
    cases ok with
    | true =>
      rw [Owner.recordOutcome_ok open_]
      refine resets.kept ?_ rfl
      dsimp only
      split <;> rfl
    | false => exact resets.record_failed open_ owner.pendingCommands
  | timeout atI stage =>
    exact resets.record_failed ((inv.toShape.at atI).open_ (by simp [stage])) _
  | ready => exact ⟨resets.between.concat nofun, fun _ => ReadySince.ready _⟩

/-- A command of an older generation resets nothing. -/
theorem Owner.Inv.lifecycle_of_older (inv : owner.Inv limit threshold)
    (stepped : owner.step limit threshold event = some next)
    (recorded : event = .record i ∨ event = .timeout i) (atI : owner.commands[i]? = some c)
    (older : c.generation < owner.guard.generation) : next.lifecycle = owner.lifecycle := by
  have failed (open_ : c.attempt.settled = false) (pendingCommands : Nat) :
      (Owner.recordOutcome threshold { owner with pendingCommands } i c false).lifecycle =
        owner.lifecycle := by
    obtain ⟨guard, disconnected, hears, outcome⟩ :=
      Owner.recordOutcome_failed threshold { owner with pendingCommands } i open_
    rw [outcome]
    have other : c.generation ≠ owner.guard.generation := by omega
    cases hears with
    | ignored => exact List.append_nil _
    | counted same => exact absurd same other
    | reset same => exact absurd same other
  cases Owner.stepped stepped with
  | @record i c' ok atI' stage =>
    obtain rfl : i = _ := by simpa using recorded
    rw [atI] at atI'
    cases atI'
    have open_ := (inv.toShape.at atI).open_ (by simp [stage])
    cases ok with
    | true => rw [Owner.recordOutcome_ok open_]
    | false => exact failed open_ owner.pendingCommands
  | @timeout i c' atI' stage =>
    obtain rfl : i = _ := by simpa using recorded
    rw [atI] at atI'
    cases atI'
    exact failed ((inv.toShape.at atI).open_ (by simp [stage])) _
  | submit => simp at recorded
  | reply => simp at recorded
  | release => simp at recorded
  | ready => simp at recorded

theorem Owner.run_invariants {events : List Event} (inv : owner.Inv limit threshold)
    (resets : owner.Resets) (ran : owner.run limit threshold events = some next) :
    next.Inv limit threshold ∧ next.Resets := by
  induction events generalizing owner with
  | nil =>
    cases ran
    exact ⟨inv, resets⟩
  | cons event rest ih =>
    obtain ⟨mid, stepped, ran⟩ := Option.bind_eq_some_iff.mp ran
    exact ih (inv.step stepped) (resets.step inv stepped) ran

theorem initial_inv (limit : Nat) (positive : 1 ≤ threshold) :
    Owner.Inv limit threshold {} where
  slots := rfl
  room := Nat.zero_le _
  sound _ mem := nomatch mem
  inOrder := by
    constructor
    · intro i j a b _ atI
      simp at atI
    · intro i j a b _ atI
      simp at atI
  failures := positive
  stalls := Nat.le_refl _

theorem initial_resets : Owner.Resets {} where
  between before _ _ split := by cases before <;> cases split
  since _ before _ split := by cases before <;> cases split

/-- Over every run of a guarded connection: what it has outstanding in a generation is bounded by
the slots and the failures it takes to reset it, a failure of an older generation resets nothing,
and each reset waits for a `ready`. -/
theorem stalled_connection_has_a_bounded_queue (limit threshold : Nat) (positive : 1 ≤ threshold)
    (events : List Event) (owner : Owner)
    (ran : Owner.run limit threshold {} events = some owner) :
    owner.outstanding ≤ limit + threshold - 1 ∧ ReadyBetween owner.lifecycle ∧
      ∀ event next i c, owner.step limit threshold event = some next →
        (event = .record i ∨ event = .timeout i) → owner.commands[i]? = some c →
        c.generation < owner.guard.generation → next.lifecycle = owner.lifecycle := by
  obtain ⟨inv, resets⟩ := Owner.run_invariants (initial_inv limit positive) initial_resets ran
  refine ⟨inv.outstanding_le, resets.between, ?_⟩
  intro event next i c stepped recorded atI older
  exact inv.lifecycle_of_older stepped recorded atI older

/-- Both slots taken, and one caller that gave up. -/
def stall : List Event := [.submit, .submit, .timeout 0, .submit]

def stalled : Owner where
  pendingCommands := 2
  guard := { consecutiveFailures := 1 }
  commands := [⟨⟨0, true⟩, .recorded, false⟩, ⟨⟨0, false⟩, .waiting, false⟩,
    ⟨⟨0, false⟩, .waiting, false⟩]

theorem full_queue_is_bounded :
    Owner.run 2 2 {} stall = some stalled ∧ stalled.outstanding = 3 ∧
      stalled.outstanding ≤ 2 + 2 - 1 := by
  have ran : Owner.run 2 2 {} stall = some stalled := by decide
  exact ⟨ran, by decide,
    (stalled_connection_has_a_bounded_queue 2 2 (by decide) stall stalled ran).1⟩

end BiliSyncPlay.StalledConnection
