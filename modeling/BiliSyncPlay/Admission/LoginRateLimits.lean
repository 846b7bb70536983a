import BiliSyncPlay.Admission.SecurityPolicy
import BiliSyncPlay.IdleSweeps
import BiliSyncPlay.Pruning

/-!
# Failed logins

The admin console counts the failed logins of an address and of a user name, each in windows of a
minute, and every so often forgets whom it has not heard of for long. `toLowerCase` is the
platform's.
-/

namespace BiliSyncPlay.Admission

open Json RedisRoomStore Protocol

/-! ## The limiter -/

structure CounterEntry where
  windowStart : Int
  count : Nat
  lastSeenAt : Int
  deriving DecidableEq

def SWEEP_INTERVAL : Nat := 64

structure AdminLoginRateLimitConfig where
  failuresPerIpPerMinute : Nat
  failuresPerUsernamePerMinute : Nat

structure AdminLoginRateLimiter where
  ipEntries : JsMap JsString CounterEntry := .empty
  usernameEntries : JsMap JsString CounterEntry := .empty
  sweepTick : Nat := 0

structure LoginInput where
  ipKey : JsString
  username : JsString
  deriving DecidableEq

inductive Dimension where
  | ip
  | username
  deriving DecidableEq

inductive CheckResult where
  | ok
  | refused (dimension : Dimension) (retryAfterMs : Int)
  deriving DecidableEq

def refreshIfExpired (entry : CounterEntry) (windowMs currentTime : Int) : CounterEntry :=
  if windowMs ≤ currentTime - entry.windowStart then
    { entry with windowStart := currentTime, count := 0 }
  else entry

/-- `exceeded` and `retryAfterMs`. -/
def isExceeded (entry : Option CounterEntry) (limit : Nat) (windowMs currentTime : Int) :
    Bool × Int :=
  match entry with
  | none => (false, 0)
  | some entry =>
    if windowMs ≤ currentTime - entry.windowStart then (false, 0)
    else if entry.count < limit then (false, 0)
    else (true, max 0 (windowMs - (currentTime - entry.windowStart)))

def touch (map : JsMap JsString CounterEntry) (key : JsString) (currentTime : Int) :
    CounterEntry :=
  match map.get? key with
  | some existing => { existing with lastSeenAt := currentTime }
  | none => { windowStart := currentTime, count := 0, lastSeenAt := currentTime }

/-- The entry of a key that fails now. -/
def failed (map : JsMap JsString CounterEntry) (key : JsString) (currentTime : Int) :
    CounterEntry :=
  let entry := refreshIfExpired (touch map key currentTime) WINDOW_MINUTE_MS currentTime
  { entry with count := entry.count + 1 }

def idle (currentTime : Int) (entry : CounterEntry) : Bool :=
  ATTEMPT_WINDOW_TTL_MS ≤ currentTime - entry.lastSeenAt

namespace AdminLoginRateLimiter

def maybeSweep (limiter : AdminLoginRateLimiter) (currentTime : Int) : AdminLoginRateLimiter :=
  let ticked := { limiter with sweepTick := limiter.sweepTick + 1 }
  if ticked.sweepTick % SWEEP_INTERVAL ≠ 0 then ticked
  else
    { ticked with
      ipEntries := ticked.ipEntries.prune fun _ => idle currentTime
      usernameEntries := ticked.usernameEntries.prune fun _ => idle currentTime }

section
variable (toLowerCase : JsString → JsString)

def normalizeUsername (username : JsString) : JsString := toLowerCase (Protocol.trim username)

def check (config : AdminLoginRateLimitConfig) (limiter : AdminLoginRateLimiter)
    (currentTime : Int) (input : LoginInput) : CheckResult × AdminLoginRateLimiter :=
  let limiter := limiter.maybeSweep currentTime
  let ipCheck := isExceeded (limiter.ipEntries.get? input.ipKey) config.failuresPerIpPerMinute
    WINDOW_MINUTE_MS currentTime
  let username := normalizeUsername toLowerCase input.username
  let usernameCheck := isExceeded (limiter.usernameEntries.get? username)
    config.failuresPerUsernamePerMinute WINDOW_MINUTE_MS currentTime
  if ipCheck.1 then (.refused .ip ipCheck.2, limiter)
  else if username ≠ [] ∧ usernameCheck.1 then (.refused .username usernameCheck.2, limiter)
  else (.ok, limiter)

def registerFailure (limiter : AdminLoginRateLimiter) (currentTime : Int) (input : LoginInput) :
    AdminLoginRateLimiter :=
  let username := normalizeUsername toLowerCase input.username
  { limiter with
    ipEntries := limiter.ipEntries.set input.ipKey
      (failed limiter.ipEntries input.ipKey currentTime)
    usernameEntries :=
      if username ≠ [] then
        limiter.usernameEntries.set username (failed limiter.usernameEntries username currentTime)
      else limiter.usernameEntries }

def registerSuccess (limiter : AdminLoginRateLimiter) (input : LoginInput) :
    AdminLoginRateLimiter :=
  let username := normalizeUsername toLowerCase input.username
  { limiter with
    ipEntries := limiter.ipEntries.delete input.ipKey
    usernameEntries :=
      if username ≠ [] then limiter.usernameEntries.delete username else limiter.usernameEntries }

end

end AdminLoginRateLimiter

/-! ## Runs -/

inductive LoginCall where
  | check (input : LoginInput)
  | registerFailure (input : LoginInput)
  | registerSuccess (input : LoginInput)
  deriving DecidableEq

/-- A call and when it is made. -/
abbrev TimedLogin := Int × LoginCall

section
variable (toLowerCase : JsString → JsString) (config : AdminLoginRateLimitConfig)

open AdminLoginRateLimiter

def serveLogin (limiter : AdminLoginRateLimiter) (call : TimedLogin) :
    Option CheckResult × AdminLoginRateLimiter :=
  match call.2 with
  | .check input =>
    let answered := limiter.check toLowerCase config call.1 input
    (some answered.1, answered.2)
  | .registerFailure input => (none, limiter.registerFailure toLowerCase call.1 input)
  | .registerSuccess input => (none, limiter.registerSuccess toLowerCase input)

/-- A limiter whose tick is set back before each call never comes to a sweep. -/
def serveLoginUnswept (limiter : AdminLoginRateLimiter) (call : TimedLogin) :
    Option CheckResult × AdminLoginRateLimiter :=
  serveLogin toLowerCase config { limiter with sweepTick := 0 } call

end

/-- No call is made before an earlier one. -/
def InOrder {κ : Type} (calls : List (Int × κ)) : Prop :=
  calls.Pairwise fun call later => call.1 ≤ later.1

instance {κ : Type} (calls : List (Int × κ)) : Decidable (InOrder calls) :=
  inferInstanceAs (Decidable (calls.Pairwise fun call later => call.1 ≤ later.1))

/-! ## The sweep is not seen -/

/-- The entries of a limiter and of one that keeps them all. -/
abbrev SweptEntries (now : Int) (entries whole : JsMap JsString CounterEntry) : Prop :=
  JsMap.Swept CounterEntry.windowStart CounterEntry.lastSeenAt WINDOW_MINUTE_MS now entries whole

section
variable {entries whole : JsMap JsString CounterEntry} {now : Int}

theorem SweptEntries.prune (swept : SweptEntries now entries whole) :
    SweptEntries now (entries.prune fun _ => idle now) whole := by
  apply JsMap.Swept.sweep swept
  intro key
  rw [JsMap.get?_prune]
  cases found : entries.get? key with
  | none => exact .inl rfl
  | some entry =>
    by_cases gone : idle now entry = true
    · refine .inr ⟨by simp [gone], fun held same => ?_⟩
      cases same
      have unused : ATTEMPT_WINDOW_TTL_MS ≤ now - entry.lastSeenAt := of_decide_eq_true gone
      unfold ATTEMPT_WINDOW_TTL_MS WINDOW_MINUTE_MS at unused
      unfold WINDOW_MINUTE_MS
      omega
    · exact .inl (by simp [gone])

theorem SweptEntries.isExceeded_eq (swept : SweptEntries now entries whole) (limit : Nat)
    (key : JsString) :
    isExceeded (entries.get? key) limit WINDOW_MINUTE_MS now =
      isExceeded (whole.get? key) limit WINDOW_MINUTE_MS now := by
  exact swept.lacks.read (fun entry => isExceeded entry limit WINDOW_MINUTE_MS now)
    (fun entry elapsed => by simp [isExceeded, elapsed]) key

/-- The entry a failure leaves, by the one it finds. -/
def afterFailure (now : Int) : Option CounterEntry → CounterEntry
  | none => ⟨now, 1, now⟩
  | some entry =>
    if WINDOW_MINUTE_MS ≤ now - entry.windowStart then ⟨now, 1, now⟩
    else ⟨entry.windowStart, entry.count + 1, now⟩

theorem failed_eq (map : JsMap JsString CounterEntry) (key : JsString) (now : Int) :
    failed map key now = afterFailure now (map.get? key) := by
  unfold failed touch refreshIfExpired
  cases map.get? key with
  | none => simp [WINDOW_MINUTE_MS, afterFailure]
  | some entry =>
    by_cases elapsed : WINDOW_MINUTE_MS ≤ now - entry.windowStart
    · simp [elapsed, afterFailure]
    · simp [elapsed, afterFailure]

theorem lastSeenAt_afterFailure (now : Int) (entry : Option CounterEntry) :
    (afterFailure now entry).lastSeenAt = now := by
  unfold afterFailure
  split
  · rfl
  · split <;> rfl

theorem SweptEntries.failed_eq (swept : SweptEntries now entries whole) (key : JsString) :
    failed entries key now = failed whole key now := by
  rw [Admission.failed_eq, Admission.failed_eq]
  exact swept.lacks.read (afterFailure now)
    (fun entry (elapsed : WINDOW_MINUTE_MS ≤ now - entry.windowStart) => by
      simp [afterFailure, elapsed]) key

theorem SweptEntries.windowStart_failed (swept : SweptEntries now entries whole)
    (key : JsString) : (failed entries key now).windowStart ≤ now := by
  rw [Admission.failed_eq]
  cases found : entries.get? key with
  | none => exact le_refl now
  | some entry =>
    have stamps := swept.stamped key entry found
    by_cases elapsed : WINDOW_MINUTE_MS ≤ now - entry.windowStart
    · simp [afterFailure, elapsed]
    · simpa [afterFailure, elapsed] using stamps.1.trans stamps.2

theorem SweptEntries.fail (swept : SweptEntries now entries whole) (key : JsString) :
    SweptEntries now (entries.set key (failed entries key now))
      (whole.set key (failed whole key now)) := by
  have seen : (failed entries key now).lastSeenAt = now := by
    rw [Admission.failed_eq, lastSeenAt_afterFailure]
  rw [← swept.failed_eq key]
  exact JsMap.Swept.set swept key (by rw [seen]; exact swept.windowStart_failed key) seen.le

/-- A limiter and one that keeps every entry. -/
structure SweptLimiter (now : Int) (limiter whole : AdminLoginRateLimiter) : Prop where
  ip : SweptEntries now limiter.ipEntries whole.ipEntries
  username : SweptEntries now limiter.usernameEntries whole.usernameEntries

section
variable {limiter kept : AdminLoginRateLimiter} {toLowerCase : JsString → JsString}
  {config : AdminLoginRateLimitConfig}

theorem SweptLimiter.later (swept : SweptLimiter now limiter kept) {now' : Int}
    (le : now ≤ now') : SweptLimiter now' limiter kept where
  ip := JsMap.Swept.later swept.ip le
  username := JsMap.Swept.later swept.username le

theorem SweptLimiter.maybeSweep (swept : SweptLimiter now limiter kept) :
    SweptLimiter now (limiter.maybeSweep now) kept := by
  unfold AdminLoginRateLimiter.maybeSweep
  dsimp only
  split
  · exact ⟨swept.ip, swept.username⟩
  · exact ⟨swept.ip.prune, swept.username.prune⟩

/-- One tick is no reason to sweep. -/
theorem maybeSweep_fresh (limiter : AdminLoginRateLimiter) (now : Int) :
    ({ limiter with sweepTick := 0 } : AdminLoginRateLimiter).maybeSweep now =
      { limiter with sweepTick := 1 } := rfl

theorem SweptLimiter.check (swept : SweptLimiter now limiter kept) (input : LoginInput) :
    let here := limiter.check toLowerCase config now input
    let there := AdminLoginRateLimiter.check toLowerCase config { kept with sweepTick := 0 } now
      input
    here.1 = there.1 ∧ SweptLimiter now here.2 there.2 := by
  have after := swept.maybeSweep
  unfold AdminLoginRateLimiter.check
  rw [maybeSweep_fresh]
  dsimp only
  rw [after.ip.isExceeded_eq, after.username.isExceeded_eq]
  split
  · exact ⟨rfl, after.ip, after.username⟩
  · split
    · exact ⟨rfl, after.ip, after.username⟩
    · exact ⟨rfl, after.ip, after.username⟩

theorem SweptLimiter.registerFailure (swept : SweptLimiter now limiter kept)
    (input : LoginInput) :
    SweptLimiter now (limiter.registerFailure toLowerCase now input)
      (AdminLoginRateLimiter.registerFailure toLowerCase { kept with sweepTick := 0 } now
        input) := by
  constructor
  · exact swept.ip.fail input.ipKey
  · unfold AdminLoginRateLimiter.registerFailure
    dsimp only
    split
    · exact swept.username.fail _
    · exact swept.username

theorem SweptLimiter.registerSuccess (swept : SweptLimiter now limiter kept)
    (input : LoginInput) :
    SweptLimiter now (limiter.registerSuccess toLowerCase input)
      (AdminLoginRateLimiter.registerSuccess toLowerCase { kept with sweepTick := 0 } input) := by
  constructor
  · exact JsMap.Swept.delete swept.ip input.ipKey
  · unfold AdminLoginRateLimiter.registerSuccess
    dsimp only
    split
    · exact JsMap.Swept.delete swept.username _
    · exact swept.username

variable (toLowerCase config) in
theorem SweptLimiter.serveLogin {call : TimedLogin} (swept : SweptLimiter call.1 limiter kept) :
    (serveLogin toLowerCase config limiter call).1 =
        (serveLoginUnswept toLowerCase config kept call).1 ∧
      SweptLimiter call.1 (serveLogin toLowerCase config limiter call).2
        (serveLoginUnswept toLowerCase config kept call).2 := by
  obtain ⟨now, call⟩ := call
  cases call with
  | check input =>
    obtain ⟨same, next⟩ := swept.check input
    exact ⟨congrArg some same, next⟩
  | registerFailure input => exact ⟨rfl, swept.registerFailure input⟩
  | registerSuccess input => exact ⟨rfl, swept.registerSuccess input⟩

end

end

/-! ## What is counted -/

/-- When the current window of failures opened: a failure that no window covers opens one. -/
def windowOpened (failures : List Int) : Option Int :=
  failures.foldl (fun opened time =>
    match opened with
    | none => some time
    | some start => if WINDOW_MINUTE_MS ≤ time - start then some time else some start) none

/-- The window of the failures is still open, and holds as many as the limit. -/
def Exhausted (limit : Nat) (failures : List Int) (now : Int) : Prop :=
  ∃ start, windowOpened failures = some start ∧ now < start + WINDOW_MINUTE_MS ∧
    limit ≤ failures.countP (start ≤ ·)

theorem windowOpened_concat (failures : List Int) (time : Int) :
    windowOpened (failures ++ [time]) =
      match windowOpened failures with
      | none => some time
      | some start => if WINDOW_MINUTE_MS ≤ time - start then some time else some start := by
  rw [windowOpened, List.foldl_append]
  rfl

theorem windowOpened_ne_none {failures : List Int} (some_ : failures ≠ []) :
    windowOpened failures ≠ none := by
  induction failures using List.reverseRecOn with
  | nil => exact absurd rfl some_
  | append_singleton failures time ih =>
    rw [windowOpened_concat]
    split
    · simp
    · split <;> simp

/-- The current window covers every failure since it opened. -/
theorem lt_of_windowOpened {failures : List Int} (rising : failures.Pairwise (· ≤ ·)) {start : Int}
    (opened : windowOpened failures = some start) :
    start ∈ failures ∧ ∀ time ∈ failures, time < start + WINDOW_MINUTE_MS := by
  induction failures using List.reverseRecOn generalizing start with
  | nil => cases opened
  | append_singleton failures last ih =>
    obtain ⟨before, -, across⟩ := List.pairwise_append.mp rising
    have past : ∀ time ∈ failures, time ≤ last := fun time mem =>
      across time mem last List.mem_cons_self
    have fresh : start = last → start ∈ failures ++ [last] ∧
        ∀ time ∈ failures ++ [last], time < start + WINDOW_MINUTE_MS := by
      intro same
      subst same
      refine ⟨by simp, fun time mem => ?_⟩
      have le : time ≤ start := by
        rcases List.mem_append.mp mem with old | new
        · exact past time old
        · exact (List.mem_singleton.mp new).le
      unfold WINDOW_MINUTE_MS
      omega
    rw [windowOpened_concat] at opened
    cases current : windowOpened failures with
    | none =>
      rw [current] at opened
      exact fresh (Option.some.inj opened).symm
    | some start' =>
      rw [current] at opened
      dsimp only at opened
      by_cases elapsed : WINDOW_MINUTE_MS ≤ last - start'
      · rw [if_pos elapsed] at opened
        exact fresh (Option.some.inj opened).symm
      · rw [if_neg elapsed] at opened
        cases opened
        obtain ⟨mem, covered⟩ := ih before current
        refine ⟨List.mem_append_left _ mem, fun time there => ?_⟩
        rcases List.mem_append.mp there with old | new
        · exact covered time old
        · rw [List.mem_singleton.mp new]
          omega

/-- The entry that failures leave, the last of them at `lastSeenAt`. -/
def entryOf (failures : List Int) : Option CounterEntry :=
  (windowOpened failures).map fun start =>
    ⟨start, failures.countP (start ≤ ·), failures.getLastD start⟩

@[simp] theorem entryOf_nil : entryOf [] = none := rfl

theorem entryOf_concat {failures : List Int} {now : Int} (rising : failures.Pairwise (· ≤ ·))
    (past : ∀ time ∈ failures, time ≤ now) :
    entryOf (failures ++ [now]) = some (afterFailure now (entryOf failures)) := by
  unfold entryOf
  rw [windowOpened_concat]
  cases current : windowOpened failures with
  | none =>
    have none_ : failures = [] := by
      by_contra some_
      exact windowOpened_ne_none some_ current
    subst none_
    simp [afterFailure]
  | some start =>
    obtain ⟨mem, covered⟩ := lt_of_windowOpened rising current
    by_cases elapsed : WINDOW_MINUTE_MS ≤ now - start
    · have before : failures.countP (fun time => decide (now ≤ time)) = 0 := by
        apply List.countP_eq_zero.mpr
        intro time listed
        have inside := covered time listed
        simp only [decide_eq_true_eq, not_le]
        omega
      simp [afterFailure, elapsed, List.countP_append, before]
    · have reached : start ≤ now := past start mem
      simp [afterFailure, elapsed, List.countP_append, reached]

theorem exceeded_iff (limit : Nat) (failures : List Int) (now : Int) :
    (isExceeded (entryOf failures) limit WINDOW_MINUTE_MS now).1 = true ↔
      Exhausted limit failures now := by
  unfold entryOf Exhausted isExceeded
  cases windowOpened failures with
  | none => simp
  | some start =>
    by_cases elapsed : WINDOW_MINUTE_MS ≤ now - start
    · simp only [Option.map_some, if_pos elapsed, Bool.false_eq_true, Option.some.injEq, false_iff]
      rintro ⟨_, rfl, inside, -⟩
      omega
    · by_cases room : failures.countP (start ≤ ·) < limit
      · simp only [Option.map_some, if_neg elapsed, if_pos room, Bool.false_eq_true,
          Option.some.injEq, false_iff]
        rintro ⟨_, rfl, -, full⟩
        omega
      · simp only [Option.map_some, if_neg elapsed, if_neg room, Option.some.injEq, true_iff]
        exact ⟨start, rfl, by omega, by omega⟩

/-! ## Whose failures -/

/-- When an identity failed since it last succeeded. -/
def failuresOf (identity : LoginInput → JsString) (key : JsString) (calls : List TimedLogin) :
    List Int :=
  calls.foldl (fun failures call =>
    match call.2 with
    | .check _ => failures
    | .registerFailure input => if identity input = key then failures ++ [call.1] else failures
    | .registerSuccess input => if identity input = key then [] else failures) []

variable {input : LoginInput}

section
variable {identity : LoginInput → JsString} {key : JsString} {calls : List TimedLogin}

theorem failuresOf_concat (calls : List TimedLogin) (call : TimedLogin) :
    failuresOf identity key (calls ++ [call]) =
      match call.2 with
      | .check _ => failuresOf identity key calls
      | .registerFailure input =>
        if identity input = key then failuresOf identity key calls ++ [call.1]
        else failuresOf identity key calls
      | .registerSuccess input =>
        if identity input = key then [] else failuresOf identity key calls := by
  rw [failuresOf, List.foldl_append]
  rfl

theorem failuresOf_sublist (identity : LoginInput → JsString) (key : JsString)
    (calls : List TimedLogin) :
    (failuresOf identity key calls).Sublist (calls.map Prod.fst) := by
  induction calls using List.reverseRecOn with
  | nil => exact List.Sublist.refl _
  | append_singleton calls call ih =>
    rw [failuresOf_concat, List.map_append, List.map_singleton]
    have longer := ih.trans (List.sublist_append_left (calls.map Prod.fst) [call.1])
    cases call.2 with
    | check input => exact longer
    | registerFailure input =>
      dsimp only
      split
      · exact ih.append_right [call.1]
      · exact longer
    | registerSuccess input =>
      dsimp only
      split
      · exact List.nil_sublist _
      · exact longer

theorem rising_failuresOf (inOrder : InOrder calls) :
    (failuresOf identity key calls).Pairwise (· ≤ ·) :=
  (List.pairwise_map.mpr inOrder).sublist (failuresOf_sublist identity key calls)

theorem past_failuresOf {now : Int} (past : ∀ call ∈ calls, call.1 ≤ now) :
    ∀ time ∈ failuresOf identity key calls, time ≤ now := by
  intro time mem
  obtain ⟨call, listed, rfl⟩ :=
    List.mem_map.mp ((failuresOf_sublist identity key calls).subset mem)
  exact past call listed

theorem InOrder.of_concat {κ : Type} {calls : List (Int × κ)} {call : Int × κ}
    (inOrder : InOrder (calls ++ [call])) :
    InOrder calls ∧ ∀ earlier ∈ calls, earlier.1 ≤ call.1 := by
  obtain ⟨before, -, across⟩ := List.pairwise_append.mp inOrder
  exact ⟨before, fun earlier mem => across earlier mem call List.mem_cons_self⟩

/-- The entries a limiter has after calls are those of the failures in them. -/
def Counts (identity : LoginInput → JsString) (calls : List TimedLogin)
    (entries : JsMap JsString CounterEntry) (key : JsString) : Prop :=
  entries.get? key = entryOf (failuresOf identity key calls)

theorem Counts.fail {entries : JsMap JsString CounterEntry} {now : Int} (inOrder : InOrder calls)
    (past : ∀ call ∈ calls, call.1 ≤ now)
    (counts : ∀ key, identity input = key → Counts identity calls entries key)
    (rest : Counts identity calls entries key) :
    Counts identity (calls ++ [(now, .registerFailure input)])
      (entries.set (identity input) (failed entries (identity input) now)) key := by
  unfold Counts
  rw [failuresOf_concat]
  by_cases same : identity input = key
  · rw [same, JsMap.get?_set_self, failed_eq, counts key same]
    simp only [if_pos same]
    exact (entryOf_concat (rising_failuresOf inOrder) (past_failuresOf past)).symm
  · rw [JsMap.get?_set_ne _ _ same]
    simp only [if_neg same]
    exact rest

theorem Counts.succeed {entries : JsMap JsString CounterEntry} {now : Int}
    (rest : Counts identity calls entries key) :
    Counts identity (calls ++ [(now, .registerSuccess input)])
      (entries.delete (identity input)) key := by
  unfold Counts
  rw [failuresOf_concat]
  by_cases same : identity input = key
  · rw [same, JsMap.get?_delete_self]
    simp only [if_pos same]
    rfl
  · rw [JsMap.get?_delete_ne _ same]
    simp only [if_neg same]
    exact rest

/-- A call of another identity, or a check. -/
theorem Counts.pass {entries : JsMap JsString CounterEntry} {call : TimedLogin}
    (rest : Counts identity calls entries key)
    (other : failuresOf identity key (calls ++ [call]) = failuresOf identity key calls) :
    Counts identity (calls ++ [call]) entries key := by
  unfold Counts
  rw [other]
  exact rest

end

section
variable (toLowerCase : JsString → JsString) (config : AdminLoginRateLimitConfig)

open AdminLoginRateLimiter

def usernameOf (input : LoginInput) : JsString := normalizeUsername toLowerCase input.username

/-- A limiter that never sweeps has counted every failure of an address, and of a user name that
is not blank. -/
structure Tallied (calls : List TimedLogin) (limiter : AdminLoginRateLimiter) : Prop where
  ip : ∀ key, Counts LoginInput.ipKey calls limiter.ipEntries key
  username : ∀ key, key ≠ [] → Counts (usernameOf toLowerCase) calls limiter.usernameEntries key

variable {toLowerCase config} {calls : List TimedLogin} {limiter : AdminLoginRateLimiter}

theorem Tallied.check {now : Int} (tallied : Tallied toLowerCase calls limiter) :
    Tallied toLowerCase (calls ++ [(now, .check input)])
      (serveLoginUnswept toLowerCase config limiter (now, .check input)).2 := by
  have kept : (serveLoginUnswept toLowerCase config limiter (now, .check input)).2 =
      { limiter with sweepTick := 1 } := by
    unfold serveLoginUnswept serveLogin AdminLoginRateLimiter.check
    rw [maybeSweep_fresh]
    dsimp only
    split
    · rfl
    · split <;> rfl
  rw [kept]
  constructor
  · intro key
    exact (tallied.ip key).pass (failuresOf_concat _ _)
  · intro key named
    exact (tallied.username key named).pass (failuresOf_concat _ _)

theorem Tallied.registerFailure {now : Int} (inOrder : InOrder calls)
    (past : ∀ call ∈ calls, call.1 ≤ now) (tallied : Tallied toLowerCase calls limiter) :
    Tallied toLowerCase (calls ++ [(now, .registerFailure input)])
      (serveLoginUnswept toLowerCase config limiter (now, .registerFailure input)).2 := by
  constructor
  · intro key
    exact (tallied.ip key).fail inOrder past fun other _ => tallied.ip other
  · intro key named
    have before := tallied.username key named
    by_cases blank : usernameOf toLowerCase input = []
    · have kept : (serveLoginUnswept toLowerCase config limiter
          (now, .registerFailure input)).2.usernameEntries = limiter.usernameEntries :=
        if_neg (not_not.mpr blank)
      have other : usernameOf toLowerCase input ≠ key := fun same => named (same.symm.trans blank)
      rw [kept]
      exact before.pass ((failuresOf_concat _ _).trans (if_neg other))
    · have written : (serveLoginUnswept toLowerCase config limiter
          (now, .registerFailure input)).2.usernameEntries =
            limiter.usernameEntries.set (usernameOf toLowerCase input)
              (failed limiter.usernameEntries (usernameOf toLowerCase input) now) := if_pos blank
      rw [written]
      exact before.fail inOrder past fun other same =>
        tallied.username other fun none_ => blank (same.trans none_)

theorem Tallied.registerSuccess {now : Int} (tallied : Tallied toLowerCase calls limiter) :
    Tallied toLowerCase (calls ++ [(now, .registerSuccess input)])
      (serveLoginUnswept toLowerCase config limiter (now, .registerSuccess input)).2 := by
  constructor
  · intro key
    exact (tallied.ip key).succeed
  · intro key named
    have before := tallied.username key named
    by_cases blank : usernameOf toLowerCase input = []
    · have kept : (serveLoginUnswept toLowerCase config limiter
          (now, .registerSuccess input)).2.usernameEntries = limiter.usernameEntries :=
        if_neg (not_not.mpr blank)
      have other : usernameOf toLowerCase input ≠ key := fun same => named (same.symm.trans blank)
      rw [kept]
      exact before.pass ((failuresOf_concat _ _).trans (if_neg other))
    · have written : (serveLoginUnswept toLowerCase config limiter
          (now, .registerSuccess input)).2.usernameEntries =
            limiter.usernameEntries.delete (usernameOf toLowerCase input) := if_pos blank
      rw [written]
      exact before.succeed

variable (toLowerCase config) in
theorem run_tallied (inOrder : InOrder calls) :
    Tallied toLowerCase calls
      (Transcript.after (serveLoginUnswept toLowerCase config) {} calls) := by
  induction calls using List.reverseRecOn with
  | nil => exact ⟨fun _ => rfl, fun _ _ => rfl⟩
  | append_singleton calls call ih =>
    obtain ⟨before, past⟩ := inOrder.of_concat
    have tallied := ih before
    rw [Transcript.after_concat]
    obtain ⟨now, call⟩ := call
    cases call with
    | check input => exact tallied.check
    | registerFailure input => exact tallied.registerFailure before past
    | registerSuccess input => exact tallied.registerSuccess

variable (toLowerCase config) in
theorem check_ne_ok_iff (limiter : AdminLoginRateLimiter) (now : Int) (input : LoginInput) :
    (limiter.check toLowerCase config now input).1 ≠ .ok ↔
      (isExceeded ((limiter.maybeSweep now).ipEntries.get? input.ipKey)
          config.failuresPerIpPerMinute WINDOW_MINUTE_MS now).1 = true ∨
        usernameOf toLowerCase input ≠ [] ∧
          (isExceeded ((limiter.maybeSweep now).usernameEntries.get?
              (usernameOf toLowerCase input)) config.failuresPerUsernamePerMinute
            WINDOW_MINUTE_MS now).1 = true := by
  unfold AdminLoginRateLimiter.check usernameOf
  dsimp only
  split
  · rename_i byIp
    simp [byIp]
  · rename_i byIp
    split
    · rename_i byUsername
      simp [byUsername]
    · rename_i byUsername
      simp only [not_true_eq_false, byIp, Bool.false_eq_true, false_or, ne_eq, false_iff]
      exact byUsername

/-- What a limiter that never sweeps answers a check. -/
theorem Tallied.refuses_iff {now : Int} (tallied : Tallied toLowerCase calls limiter) :
    (serveLoginUnswept toLowerCase config limiter (now, .check input)).1 ≠ some .ok ↔
      Exhausted config.failuresPerIpPerMinute
          (failuresOf LoginInput.ipKey input.ipKey calls) now ∨
        usernameOf toLowerCase input ≠ [] ∧
          Exhausted config.failuresPerUsernamePerMinute
            (failuresOf (usernameOf toLowerCase) (usernameOf toLowerCase input) calls) now := by
  have ip : limiter.ipEntries.get? input.ipKey =
      entryOf (failuresOf LoginInput.ipKey input.ipKey calls) := tallied.ip input.ipKey
  have answer := check_ne_ok_iff toLowerCase config { limiter with sweepTick := 0 } now input
  rw [maybeSweep_fresh] at answer
  dsimp only at answer
  rw [ip, exceeded_iff] at answer
  have checked : (serveLoginUnswept toLowerCase config limiter (now, .check input)).1 ≠ some .ok ↔
      (AdminLoginRateLimiter.check toLowerCase config { limiter with sweepTick := 0 } now
        input).1 ≠ .ok := not_congr Option.some_inj
  rw [checked, answer]
  apply or_congr_right
  apply and_congr_right
  intro named
  have username : limiter.usernameEntries.get? (usernameOf toLowerCase input) =
      entryOf (failuresOf (usernameOf toLowerCase) (usernameOf toLowerCase input) calls) :=
    tallied.username _ named
  rw [username, exceeded_iff]

theorem InOrder.of_cons {κ : Type} {call : Int × κ} {rest : List (Int × κ)}
    (inOrder : InOrder (call :: rest)) : (∀ later ∈ rest, call.1 ≤ later.1) ∧ InOrder rest :=
  List.pairwise_cons.mp inOrder

variable (toLowerCase config) in
/-- Every call is answered as by a limiter that never sweeps. -/
theorem serveLogin_answers (inOrder : InOrder calls) :
    Transcript.answers (serveLogin toLowerCase config) {} calls =
      Transcript.answers (serveLoginUnswept toLowerCase config) {} calls := by
  apply Transcript.answers_eq_of_related (R := fun rest swept whole =>
    InOrder rest ∧ ∀ call ∈ rest.head?, SweptLimiter call.1 swept whole)
  · rintro call rest swept whole ⟨timed, related⟩
    obtain ⟨later, after⟩ := timed.of_cons
    obtain ⟨same, next⟩ := (related call rfl).serveLogin toLowerCase config
    exact ⟨same, after, fun following mem =>
      next.later (later following (List.mem_of_mem_head? mem))⟩
  · refine ⟨inOrder, fun call _ => ?_⟩
    exact ⟨JsMap.swept_empty, JsMap.swept_empty⟩

end

end BiliSyncPlay.Admission
