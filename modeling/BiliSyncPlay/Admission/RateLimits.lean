import BiliSyncPlay.Spans
import BiliSyncPlay.Transcripts
import Mathlib.Tactic.FieldSimp
import Mathlib.Tactic.Ring
import Mathlib.Tactic.Positivity

/-!
# Rate limits

A window counter forgets what it counted when its window is over, and a token bucket fills up with
time. What either lets through is bounded over every interval of a run, although each call looks
at one number only.
-/

namespace BiliSyncPlay.Admission

structure WindowCounter (Time : Type) where
  windowStart : Time
  count : Nat
  deriving DecidableEq

def createWindowCounter {Time : Type} (now : Time) : WindowCounter Time := ⟨now, 0⟩

section
variable {Time : Type} [Sub Time] [LE Time] [DecidableLE Time]

/-- Whether the window of the counter is over. -/
def WindowCounter.over (counter : WindowCounter Time) (windowMs now : Time) : Bool :=
  decide (windowMs ≤ now - counter.windowStart)

/-- Whether the counter has room for one more, and the counter after. -/
def consumeFixedWindow (counter : WindowCounter Time) (limit : Nat) (windowMs now : Time) :
    Bool × WindowCounter Time :=
  let current := if windowMs ≤ now - counter.windowStart then createWindowCounter now else counter
  if limit ≤ current.count then (false, current)
  else (true, { current with count := current.count + 1 })

end

structure TokenBucket where
  tokens : Rat
  lastRefillAt : Rat
  deriving DecidableEq

def createTokenBucket (capacity now : Rat) : TokenBucket := ⟨capacity, now⟩

/-- The tokens a call finds. -/
def TokenBucket.refilled (bucket : TokenBucket) (refillPerSecond capacity now : Rat) : Rat :=
  let elapsedMs := max 0 (now - bucket.lastRefillAt)
  let refill := elapsedMs / 1000 * refillPerSecond
  min capacity (bucket.tokens + refill)

def consumeTokenBucket (bucket : TokenBucket) (refillPerSecond capacity now : Rat) :
    Bool × TokenBucket :=
  let tokens := bucket.refilled refillPerSecond capacity now
  if tokens < 1 then (false, ⟨tokens, now⟩) else (true, ⟨tokens - 1, now⟩)

/-! ## A bucket over a run -/

/-- The time of a call and whether it was accepted. -/
abbrev Attempt := Transcript.Entry Rat Bool

section Bucket

variable (refill capacity : Rat)

/-- A bucket that is asked at a time. -/
def drawToken (bucket : TokenBucket) (now : Rat) : Bool × TokenBucket :=
  consumeTokenBucket bucket refill capacity now

def bucketAfter (created : Rat) (times : List Rat) : TokenBucket :=
  Transcript.after (drawToken refill capacity) (createTokenBucket capacity created) times

def bucketAnswers (created : Rat) (times : List Rat) : List Attempt :=
  Transcript.answers (drawToken refill capacity) (createTokenBucket capacity created) times

/-- How many calls were accepted from `start` on. -/
def acceptedFrom (attempts : List Attempt) (start : Rat) : Nat :=
  attempts.countP fun attempt => attempt.answer && start ≤ attempt.call

/-- How many calls made in `[start, stop]` were accepted. -/
def acceptedIn (attempts : List Attempt) (start stop : Rat) : Nat :=
  attempts.countP fun attempt =>
    attempt.answer && (start ≤ attempt.call && attempt.call ≤ stop)

/-- What a bucket may let through in `[start, stop]`. -/
def allowance (start stop : Rat) : Rat := capacity + refill * (stop - start) / 1000

end Bucket

variable {refill capacity : Rat} {attempts : List Attempt} {tokens last now : Rat}

/-- The tokens are what the worst interval up to now still allows. -/
structure Level (refill capacity : Rat) (attempts : List Attempt) (tokens now : Rat) : Prop where
  past : ∀ attempt ∈ attempts, attempt.call ≤ now
  nonneg : 0 ≤ tokens
  le_capacity : tokens ≤ capacity
  spent : ∀ start ≤ now,
    acceptedFrom attempts start + tokens ≤ allowance refill capacity start now
  worst : ∃ start ≤ now,
    tokens = allowance refill capacity start now - acceptedFrom attempts start

theorem allowance_later (start last now : Rat) :
    allowance refill capacity start now =
      allowance refill capacity start last + (now - last) / 1000 * refill := by
  unfold allowance
  ring

theorem allowance_self (now : Rat) : allowance refill capacity now now = capacity := by
  simp [allowance]

variable {created start : Rat} {times : List Rat}

theorem acceptedFrom_of_past (past : ∀ attempt ∈ attempts, attempt.call < start) :
    acceptedFrom attempts start = 0 := by
  apply List.countP_eq_zero.mpr
  intro attempt mem
  simp [past attempt mem]

theorem acceptedFrom_concat (attempts : List Attempt) (attempt : Attempt) (start : Rat) :
    acceptedFrom (attempts ++ [attempt]) start = acceptedFrom attempts start +
      if attempt.answer ∧ start ≤ attempt.call then 1 else 0 := by
  simp [acceptedFrom, List.countP_append, List.countP_singleton]

theorem acceptedIn_concat (attempts : List Attempt) (attempt : Attempt) (start stop : Rat) :
    acceptedIn (attempts ++ [attempt]) start stop = acceptedIn attempts start stop +
      if attempt.answer ∧ start ≤ attempt.call ∧ attempt.call ≤ stop then 1 else 0 := by
  simp [acceptedIn, List.countP_append, List.countP_singleton]

theorem acceptedIn_le_acceptedFrom (attempts : List Attempt) (start stop : Rat) :
    acceptedIn attempts start stop ≤ acceptedFrom attempts start := by
  apply List.countP_mono_left
  intro attempt _ counted
  simp only [Bool.and_eq_true, decide_eq_true_eq] at counted ⊢
  exact ⟨counted.1, counted.2.1⟩

theorem acceptedIn_of_past {stop : Rat} (past : ∀ attempt ∈ attempts, attempt.call ≤ stop) :
    acceptedIn attempts start stop = acceptedFrom attempts start := by
  apply List.countP_congr
  intro attempt mem
  simp [past attempt mem]

theorem acceptedFrom_anti {start' : Rat} (earlier : start' ≤ start) :
    acceptedFrom attempts start ≤ acceptedFrom attempts start' := by
  apply List.countP_mono_left
  intro attempt _ counted
  simp only [Bool.and_eq_true, decide_eq_true_eq] at counted ⊢
  exact ⟨counted.1, earlier.trans counted.2⟩

theorem allowance_mono (rate : 0 ≤ refill) (le : last ≤ now) :
    allowance refill capacity start last ≤ allowance refill capacity start now := by
  have elapsed : 0 ≤ now - last := by linarith
  have added : 0 ≤ (now - last) / 1000 * refill := by positivity
  rw [allowance_later start last now]
  linarith

theorem capacity_le_allowance (rate : 0 ≤ refill) (le : start ≤ now) :
    capacity ≤ allowance refill capacity start now := by
  have elapsed : 0 ≤ now - start := by linarith
  have added : 0 ≤ refill * (now - start) / 1000 := by positivity
  unfold allowance
  linarith

theorem level_created (rate : 0 ≤ refill) (nonneg : 0 ≤ capacity) (created : Rat) :
    Level refill capacity [] capacity created where
  past _ mem := nomatch mem
  nonneg := nonneg
  le_capacity := le_refl _
  spent start le := by
    have most : capacity ≤ allowance refill capacity start _ := capacity_le_allowance rate le
    simpa [acceptedFrom] using most
  worst := ⟨created, le_refl _, by simp [allowance_self, acceptedFrom]⟩

theorem Level.refilled (rate : 0 ≤ refill) (level : Level refill capacity attempts tokens last)
    (later : last ≤ now) :
    Level refill capacity attempts ((TokenBucket.mk tokens last).refilled refill capacity now)
      now := by
  have added : 0 ≤ (now - last) / 1000 * refill := by
    have elapsed : 0 ≤ now - last := by linarith
    positivity
  have found : (TokenBucket.mk tokens last).refilled refill capacity now =
      min capacity (tokens + (now - last) / 1000 * refill) := by
    rw [TokenBucket.refilled, max_eq_right (by linarith)]
  rw [found]
  constructor
  · intro attempt mem
    exact (level.past attempt mem).trans later
  · apply le_min
    · exact level.nonneg.trans level.le_capacity
    · linarith [level.nonneg]
  · exact min_le_left _ _
  · intro start le
    by_cases old : start ≤ last
    · have spent := level.spent start old
      rw [allowance_later start last now]
      linarith [min_le_right capacity (tokens + (now - last) / 1000 * refill)]
    · have none_ : acceptedFrom attempts start = 0 := acceptedFrom_of_past fun attempt mem =>
        (level.past attempt mem).trans_lt (not_le.mp old)
      have most : capacity ≤ allowance refill capacity start _ := capacity_le_allowance rate le
      rw [none_, Nat.cast_zero, zero_add]
      exact (min_le_left _ _).trans most
  · by_cases clamped : capacity ≤ tokens + (now - last) / 1000 * refill
    · rw [min_eq_left clamped]
      rcases later.lt_or_eq with passed | rfl
      · have none_ : acceptedFrom attempts now = 0 := acceptedFrom_of_past fun attempt mem =>
          (level.past attempt mem).trans_lt passed
        exact ⟨now, le_refl _, by rw [none_, allowance_self, Nat.cast_zero, sub_zero]⟩
      · have whole : capacity = tokens := by
          rw [sub_self, zero_div, zero_mul, add_zero] at clamped
          exact le_antisymm clamped level.le_capacity
        rw [whole]
        rw [whole] at level
        exact level.worst
    · obtain ⟨start, le, attained⟩ := level.worst
      refine ⟨start, le.trans later, ?_⟩
      rw [min_eq_right (le_of_not_ge clamped), allowance_later start last now, attained]
      ring

theorem Level.accept (level : Level refill capacity attempts tokens now) (enough : 1 ≤ tokens) :
    Level refill capacity (attempts ++ [⟨now, true⟩]) (tokens - 1) now := by
  constructor
  · intro attempt mem
    rcases List.mem_append.mp mem with old | new
    · exact level.past attempt old
    · rw [List.mem_singleton.mp new]
  · linarith
  · linarith [level.le_capacity]
  · intro start le
    have spent := level.spent start le
    rw [acceptedFrom_concat, if_pos ⟨rfl, le⟩]
    push_cast
    linarith
  · obtain ⟨start, le, attained⟩ := level.worst
    refine ⟨start, le, ?_⟩
    rw [acceptedFrom_concat, if_pos ⟨rfl, le⟩, attained]
    push_cast
    ring

theorem Level.refuse (level : Level refill capacity attempts tokens now) :
    Level refill capacity (attempts ++ [⟨now, false⟩]) tokens now := by
  have same : ∀ start, acceptedFrom (attempts ++ [⟨now, false⟩]) start =
      acceptedFrom attempts start := fun start => by simp [acceptedFrom_concat]
  constructor
  · intro attempt mem
    rcases List.mem_append.mp mem with old | new
    · exact level.past attempt old
    · rw [List.mem_singleton.mp new]
  · exact level.nonneg
  · exact level.le_capacity
  · intro start le
    rw [same]
    exact level.spent start le
  · obtain ⟨start, le, attained⟩ := level.worst
    exact ⟨start, le, by rw [same, attained]⟩

theorem Level.draw (rate : 0 ≤ refill) {bucket : TokenBucket}
    (level : Level refill capacity attempts bucket.tokens bucket.lastRefillAt)
    (later : bucket.lastRefillAt ≤ now) :
    Level refill capacity (attempts ++ [⟨now, (drawToken refill capacity bucket now).1⟩])
      (drawToken refill capacity bucket now).2.tokens now := by
  have found := Level.refilled rate level later
  change Level refill capacity attempts (bucket.refilled refill capacity now) now at found
  unfold drawToken consumeTokenBucket
  by_cases short : bucket.refilled refill capacity now < 1
  · simpa [short] using found.refuse
  · simpa [short] using found.accept (not_lt.mp short)

theorem lastRefillAt_draw (bucket : TokenBucket) (now : Rat) :
    (drawToken refill capacity bucket now).2.lastRefillAt = now := by
  unfold drawToken consumeTokenBucket
  dsimp only
  split <;> rfl

/-- No call is made before an earlier one, nor before the state they are made on was. -/
def Rising (created : Rat) (times : List Rat) : Prop := (created :: times).Pairwise (· ≤ ·)

theorem Rising.before_split {earlier later : List Rat}
    (rising : Rising created (earlier ++ now :: later)) :
    Rising created earlier ∧ created ≤ now ∧ ∀ time ∈ earlier, time ≤ now := by
  unfold Rising at rising
  rw [← List.cons_append] at rising
  obtain ⟨before, -, across⟩ := List.pairwise_append.mp rising
  have least := fun time mem => across time mem now List.mem_cons_self
  exact ⟨before, least created List.mem_cons_self,
    fun time mem => least time (List.mem_cons_of_mem _ mem)⟩

theorem lastRefillAt_le (after : created ≤ now) (past : ∀ time ∈ times, time ≤ now) :
    (bucketAfter refill capacity created times).lastRefillAt ≤ now := by
  rcases List.eq_nil_or_concat times with rfl | ⟨earlier, last, rfl⟩
  · exact after
  · rw [List.concat_eq_append] at past ⊢
    rw [bucketAfter, Transcript.after_concat, lastRefillAt_draw]
    exact past last (List.mem_append_right _ List.mem_cons_self)

/-- The level a run leaves. -/
theorem run_level (rate : 0 ≤ refill) (nonneg : 0 ≤ capacity) (rising : Rising created times) :
    Level refill capacity (bucketAnswers refill capacity created times)
      (bucketAfter refill capacity created times).tokens
      (bucketAfter refill capacity created times).lastRefillAt := by
  induction times using List.reverseRecOn with
  | nil => exact level_created rate nonneg created
  | append_singleton times now ih =>
    obtain ⟨before, after, past⟩ := rising.before_split
    have drawn := (ih before).draw rate (lastRefillAt_le after past)
    rw [bucketAnswers, bucketAfter, Transcript.answers_concat, Transcript.after_concat,
      lastRefillAt_draw]
    exact drawn

/-- What a run accepted in an interval it was allowed. -/
theorem acceptedIn_le_allowance (rate : 0 ≤ refill) (nonneg : 0 ≤ capacity)
    (rising : Rising created times) {stop : Rat} (le : start ≤ stop) :
    acceptedIn (bucketAnswers refill capacity created times) start stop ≤
      allowance refill capacity start stop := by
  induction times using List.reverseRecOn with
  | nil =>
    have most : capacity ≤ allowance refill capacity start stop := capacity_le_allowance rate le
    simpa [acceptedIn, bucketAnswers] using nonneg.trans most
  | append_singleton times now ih =>
    obtain ⟨before, after, past⟩ := rising.before_split
    by_cases beyond : stop < now
    · have same : acceptedIn (bucketAnswers refill capacity created (times ++ [now])) start stop =
          acceptedIn (bucketAnswers refill capacity created times) start stop := by
        rw [bucketAnswers, Transcript.answers_concat, acceptedIn_concat]
        simp [not_le.mpr beyond, bucketAnswers]
      rw [same]
      exact ih before
    · have level := run_level rate nonneg rising
      have most : capacity ≤ allowance refill capacity start stop := capacity_le_allowance rate le
      have here : (bucketAfter refill capacity created (times ++ [now])).lastRefillAt = now := by
        rw [bucketAfter, Transcript.after_concat, lastRefillAt_draw]
      have fewer := acceptedIn_le_acceptedFrom
        (bucketAnswers refill capacity created (times ++ [now])) start stop
      by_cases begun : start ≤ now
      · have spent := level.spent start (by rwa [here])
        rw [here] at spent
        have grown : allowance refill capacity start now ≤ allowance refill capacity start stop :=
          allowance_mono rate (not_lt.mp beyond)
        have counted : (acceptedIn (bucketAnswers refill capacity created (times ++ [now])) start
            stop : Rat) ≤ acceptedFrom (bucketAnswers refill capacity created (times ++ [now]))
              start := by exact_mod_cast fewer
        linarith [level.nonneg]
      · have none_ : acceptedFrom (bucketAnswers refill capacity created (times ++ [now])) start =
            0 := acceptedFrom_of_past fun attempt mem =>
          (level.past attempt mem).trans_lt (by rw [here]; exact not_le.mp begun)
        rw [none_] at fewer
        rw [Nat.le_zero.mp fewer, Nat.cast_zero]
        exact nonneg.trans most

/-- A call that is refused would have broken the bound of some interval that began earlier. -/
theorem refused_beyond_allowance (rate : 0 ≤ refill) {bucket : TokenBucket}
    (level : Level refill capacity attempts bucket.tokens bucket.lastRefillAt)
    (later : bucket.lastRefillAt ≤ now)
    (refused : (drawToken refill capacity bucket now).1 = false) :
    ∃ start < now, allowance refill capacity start now < acceptedFrom attempts start + 1 := by
  have found := Level.refilled rate level later
  change Level refill capacity attempts (bucket.refilled refill capacity now) now at found
  have short : bucket.refilled refill capacity now < 1 := by
    unfold drawToken consumeTokenBucket at refused
    by_contra enough
    simp [enough] at refused
  obtain ⟨start, le, attained⟩ := found.worst
  -- The bound is broken by some margin, so it is still broken a little earlier.
  have margin : 0 < 1 - (allowance refill capacity start now - acceptedFrom attempts start) := by
    linarith
  have slope : 0 < refill / 1000 + 1 := by positivity
  have sooner := div_pos margin slope
  refine ⟨start - (1 - (allowance refill capacity start now - acceptedFrom attempts start)) /
    (refill / 1000 + 1), by linarith, ?_⟩
  have more : (acceptedFrom attempts start : Rat) ≤ acceptedFrom attempts (start -
      (1 - (allowance refill capacity start now - acceptedFrom attempts start)) /
        (refill / 1000 + 1)) := by
    exact_mod_cast acceptedFrom_anti (by linarith)
  generalize acceptedFrom attempts (start - _) = counted at more ⊢
  generalize hmargin : 1 - (allowance refill capacity start now - acceptedFrom attempts start) =
    gap at *
  have whole : (refill / 1000 + 1) * (gap / (refill / 1000 + 1)) = gap :=
    mul_div_cancel₀ gap slope.ne'
  have moved : allowance refill capacity (start - gap / (refill / 1000 + 1)) now =
      allowance refill capacity start now + refill / 1000 * (gap / (refill / 1000 + 1)) := by
    unfold allowance
    ring
  rw [moved]
  linarith

/-! ## A window counter over a run -/

/-- A counter, and how often its window was opened anew. -/
structure Windows where
  counter : WindowCounter Rat
  opened : Nat := 0

/-- What a call was answered, and in which window. -/
structure Counted where
  accepted : Bool
  window : Nat
  deriving DecidableEq

abbrev WindowAttempt := Transcript.Entry Rat Counted

section Window

variable (limit : Nat) (windowMs : Rat)

def countCall (windows : Windows) (now : Rat) : Counted × Windows :=
  let (accepted, counter) := consumeFixedWindow windows.counter limit windowMs now
  let window := if windows.counter.over windowMs now then windows.opened + 1 else windows.opened
  (⟨accepted, window⟩, ⟨counter, window⟩)

def windowsAfter (created : Rat) (times : List Rat) : Windows :=
  Transcript.after (countCall limit windowMs) ⟨createWindowCounter created, 0⟩ times

def windowAnswers (created : Rat) (times : List Rat) : List WindowAttempt :=
  Transcript.answers (countCall limit windowMs) ⟨createWindowCounter created, 0⟩ times

/-- How many calls a window let through. -/
def acceptedInWindow (answers : List WindowAttempt) (window : Nat) : Nat :=
  answers.countP fun attempt => attempt.answer.accepted && attempt.answer.window = window

end Window

variable {limit : Nat} {windowMs : Rat} {answers : List WindowAttempt} {windows : Windows}

/-- A call of an earlier window was made before this one began, and one of a window before that
a window's length before. -/
structure Counting (limit : Nat) (windowMs : Rat) (answers : List WindowAttempt)
    (windows : Windows) : Prop where
  bounded : ∀ attempt ∈ answers, attempt.answer.window ≤ windows.opened
  few : ∀ window, acceptedInWindow answers window ≤ limit
  counted : acceptedInWindow answers windows.opened = windows.counter.count
  earlier : ∀ attempt ∈ answers, attempt.answer.window < windows.opened →
    attempt.call ≤ windows.counter.windowStart
  before : ∀ attempt ∈ answers, attempt.answer.window + 1 < windows.opened →
    attempt.call + windowMs ≤ windows.counter.windowStart

theorem counting_created (created : Rat) :
    Counting limit windowMs [] ⟨createWindowCounter created, 0⟩ where
  bounded _ mem := nomatch mem
  few _ := Nat.zero_le _
  counted := rfl
  earlier _ mem := nomatch mem
  before _ mem := nomatch mem

theorem acceptedInWindow_concat (answers : List WindowAttempt) (attempt : WindowAttempt)
    (window : Nat) : acceptedInWindow (answers ++ [attempt]) window =
      acceptedInWindow answers window +
        if attempt.answer.accepted ∧ attempt.answer.window = window then 1 else 0 := by
  simp [acceptedInWindow, List.countP_append, List.countP_singleton]

/-- A window nothing was counted in yet. -/
theorem acceptedInWindow_of_bounded (bounded : ∀ attempt ∈ answers, attempt.answer.window < n) :
    acceptedInWindow answers n = 0 := by
  apply List.countP_eq_zero.mpr
  intro attempt mem
  have less := bounded attempt mem
  simp only [Bool.and_eq_true, decide_eq_true_eq, not_and]
  omega

/-- The counter a call looks at: the old one, or a new one where its window is over. -/
theorem Counting.current (counting : Counting limit windowMs answers windows) (now : Rat)
    (past : ∀ attempt ∈ answers, attempt.call ≤ now) :
    Counting limit windowMs answers (if windows.counter.over windowMs now
      then ⟨createWindowCounter now, windows.opened + 1⟩ else windows) := by
  by_cases elapsed : windows.counter.over windowMs now
  · have length : windowMs ≤ now - windows.counter.windowStart := of_decide_eq_true elapsed
    rw [if_pos elapsed]
    constructor
    · intro attempt mem
      have := counting.bounded attempt mem
      exact Nat.le_succ_of_le this
    · exact counting.few
    · apply acceptedInWindow_of_bounded
      intro attempt mem
      exact Nat.lt_succ_of_le (counting.bounded attempt mem)
    · exact fun attempt mem _ => past attempt mem
    · intro attempt mem less
      have begun := counting.earlier attempt mem (by
        dsimp only at less
        omega)
      change attempt.call + windowMs ≤ now
      linarith
  · rw [if_neg elapsed]
    exact counting

/-- What is counted once the window of the call is known. -/
theorem Counting.count (counting : Counting limit windowMs answers windows) (now : Rat) :
    Counting limit windowMs
      (answers ++ [⟨now, ⟨decide (windows.counter.count < limit), windows.opened⟩⟩])
      (if windows.counter.count < limit then
        { windows with counter := { windows.counter with count := windows.counter.count + 1 } }
      else windows) := by
  have same : ∀ window, acceptedInWindow
      (answers ++ [⟨now, ⟨decide (windows.counter.count < limit), windows.opened⟩⟩]) window =
        acceptedInWindow answers window +
          if windows.counter.count < limit ∧ windows.opened = window then 1 else 0 := by
    intro window
    rw [acceptedInWindow_concat]
    simp
  have start : (if windows.counter.count < limit then
      { windows with counter := { windows.counter with count := windows.counter.count + 1 } }
      else windows).counter.windowStart = windows.counter.windowStart := by
    split <;> rfl
  have opened : (if windows.counter.count < limit then
      { windows with counter := { windows.counter with count := windows.counter.count + 1 } }
      else windows).opened = windows.opened := by
    split <;> rfl
  constructor
  · intro attempt mem
    rw [opened]
    rcases List.mem_append.mp mem with old | new
    · exact counting.bounded attempt old
    · rw [List.mem_singleton.mp new]
  · intro window
    rw [same]
    by_cases here : windows.counter.count < limit ∧ windows.opened = window
    · obtain ⟨room, rfl⟩ := here
      rw [if_pos ⟨room, rfl⟩, counting.counted]
      omega
    · rw [if_neg here]
      exact counting.few window
  · rw [opened, same, counting.counted]
    by_cases room : windows.counter.count < limit
    · simp [room]
    · simp [room]
  · intro attempt mem less
    rw [opened] at less
    rw [start]
    rcases List.mem_append.mp mem with old | new
    · exact counting.earlier attempt old less
    · rw [List.mem_singleton.mp new] at less
      exact absurd less (Nat.lt_irrefl _)
  · intro attempt mem less
    rw [opened] at less
    rw [start]
    rcases List.mem_append.mp mem with old | new
    · exact counting.before attempt old less
    · rw [List.mem_singleton.mp new] at less
      exact absurd less (by dsimp only; omega)

/-- A call opens its window and is counted in it. -/
theorem countCall_eq (windows : Windows) (now : Rat) :
    countCall limit windowMs windows now =
      let current : Windows := if windows.counter.over windowMs now
        then ⟨createWindowCounter now, windows.opened + 1⟩ else windows
      (⟨decide (current.counter.count < limit), current.opened⟩,
        if current.counter.count < limit then
          { current with counter := { current.counter with count := current.counter.count + 1 } }
        else current) := by
  unfold countCall consumeFixedWindow WindowCounter.over
  by_cases elapsed : windowMs ≤ now - windows.counter.windowStart
  · by_cases room : limit ≤ (createWindowCounter now).count
    · simp [elapsed, room, not_lt.mpr room]
    · simp [elapsed, room, not_le.mp room]
  · by_cases room : limit ≤ windows.counter.count
    · simp [elapsed, room, not_lt.mpr room]
    · simp [elapsed, room, not_le.mp room]

theorem run_counting (rising : Rising created times) :
    Counting limit windowMs (windowAnswers limit windowMs created times)
      (windowsAfter limit windowMs created times) := by
  induction times using List.reverseRecOn with
  | nil => exact counting_created created
  | append_singleton times now ih =>
    obtain ⟨before, after, past⟩ := rising.before_split
    have current := (ih before).current now fun attempt mem =>
      past attempt.call (Transcript.call_mem mem)
    rw [windowAnswers, windowsAfter, Transcript.answers_concat, Transcript.after_concat,
      countCall_eq]
    exact current.count now

theorem windowStart_mem (created : Rat) (times : List Rat) :
    (windowsAfter limit windowMs created times).counter.windowStart ∈ created :: times := by
  induction times using List.reverseRecOn with
  | nil => exact List.mem_cons_self
  | append_singleton times now ih =>
    rw [windowsAfter, Transcript.after_concat, countCall_eq]
    dsimp only
    have kept : ∀ windows : Windows, (if windows.counter.count < limit then
        { windows with counter := { windows.counter with count := windows.counter.count + 1 } }
        else windows).counter.windowStart = windows.counter.windowStart := by
      intro windows
      split <;> rfl
    rw [kept]
    split
    · simp [createWindowCounter]
    · rw [← List.cons_append]
      exact List.mem_append_left _ ih

/-- Windows follow one another, and a window apart is a window's length apart. -/
theorem windows_apart (rising : Rising created times) :
    (windowAnswers limit windowMs created times).Pairwise fun x y =>
      x.answer.window ≤ y.answer.window ∧
        (x.answer.window + 1 < y.answer.window → x.call + windowMs ≤ y.call) := by
  induction times using List.reverseRecOn with
  | nil => exact List.Pairwise.nil
  | append_singleton times now ih =>
    obtain ⟨before, after, past⟩ := rising.before_split
    have counting : Counting limit windowMs _ _ := run_counting before
    have current := counting.current now fun attempt mem =>
      past attempt.call (Transcript.call_mem mem)
    have begun : (windowsAfter limit windowMs created times).counter.windowStart ≤ now := by
      rcases List.mem_cons.mp (windowStart_mem created times) with same | mem
      · exact same.trans_le after
      · exact past _ mem
    rw [windowAnswers, Transcript.answers_concat, countCall_eq]
    apply List.pairwise_append.mpr
    refine ⟨ih before, List.pairwise_singleton _ _, ?_⟩
    intro x mem y last
    obtain rfl := List.mem_singleton.mp last
    refine ⟨current.bounded x mem, fun gap => (current.before x mem gap).trans ?_⟩
    change (if (windowsAfter limit windowMs created times).counter.over windowMs now = true
      then _ else _ : Windows).counter.windowStart ≤ now
    split
    · exact le_refl now
    · exact begun

theorem length_of_two_windows {window : Nat} (answers : List WindowAttempt)
    (split : ∀ attempt ∈ answers, attempt.answer.accepted = true ∧
      (attempt.answer.window = window ∨ attempt.answer.window = window + 1)) :
    answers.length = acceptedInWindow answers window + acceptedInWindow answers (window + 1) := by
  induction answers with
  | nil => rfl
  | cons attempt rest ih =>
    obtain ⟨accepted, which⟩ := split attempt List.mem_cons_self
    have tail := ih fun other mem => split other (List.mem_cons_of_mem _ mem)
    unfold acceptedInWindow at tail ⊢
    rw [List.length_cons, List.countP_cons, List.countP_cons, tail, accepted]
    rcases which with same | same
    · simp [same]
      omega
    · simp [same]
      omega

/-- The calls of a narrow window of time fall into two windows of the counter. -/
theorem accepted_in_interval (rising : Rising created times) {interval : Rat → Bool}
    (narrow : Narrow windowMs interval) :
    (windowAnswers limit windowMs created times).countP
      (fun attempt => attempt.answer.accepted && interval attempt.call) ≤ 2 * limit := by
  have counting : Counting limit windowMs _ _ := run_counting rising
  have few := counting.few
  have apart : (windowAnswers limit windowMs created times).Pairwise _ := windows_apart rising
  clear counting
  generalize windowAnswers limit windowMs created times = answers at few apart ⊢
  generalize kept : answers.filter (fun attempt => attempt.answer.accepted &&
    interval attempt.call) = inside
  rw [List.countP_eq_length_filter, kept]
  cases inside with
  | nil => exact Nat.zero_le _
  | cons first rest =>
    have sub : (first :: rest).Sublist answers := kept ▸ List.filter_sublist
    have picked : ∀ attempt ∈ first :: rest, attempt.answer.accepted = true ∧
        interval attempt.call = true := by
      intro attempt mem
      rw [← kept] at mem
      simpa using (List.mem_filter.mp mem).2
    have window : ∀ attempt ∈ first :: rest, attempt.answer.window = first.answer.window ∨
        attempt.answer.window = first.answer.window + 1 := by
      intro attempt mem
      rcases List.mem_cons.mp mem with rfl | later
      · exact .inl rfl
      · obtain ⟨after, gap⟩ := (List.pairwise_cons.mp (apart.sublist sub)).1 attempt later
        have close := narrow _ _ (picked first List.mem_cons_self).2 (picked attempt mem).2
        have near : ¬ first.answer.window + 1 < attempt.answer.window :=
          fun far => absurd (gap far) (not_le.mpr close)
        omega
    have whole := length_of_two_windows (first :: rest) fun attempt mem =>
      ⟨(picked attempt mem).1, window attempt mem⟩
    have this_ := (sub.countP_le (p := fun attempt => attempt.answer.accepted &&
      attempt.answer.window = first.answer.window)).trans (few first.answer.window)
    have next := (sub.countP_le (p := fun attempt => attempt.answer.accepted &&
      attempt.answer.window = first.answer.window + 1)).trans (few (first.answer.window + 1))
    unfold acceptedInWindow at whole
    omega

/-! ## The bounds -/

/-- What a fresh bucket and a fresh counter let through in a run of calls that goes on in time. -/
theorem rate_limits_bound_whole_runs (refill capacity : Rat) (rate : 0 ≤ refill)
    (nonneg : 0 ≤ capacity) (limit : Nat) (windowMs : Rat) {created : Rat} {times : List Rat}
    (rising : Rising created times) :
    (∀ start stop, start ≤ stop →
      acceptedIn (bucketAnswers refill capacity created times) start stop ≤
        allowance refill capacity start stop) ∧
    (0 ≤ (bucketAfter refill capacity created times).tokens ∧
      (bucketAfter refill capacity created times).tokens ≤ capacity) ∧
    (∀ before call after,
      bucketAnswers refill capacity created times = before ++ call :: after →
      (∀ start < call.call, acceptedIn before start call.call + 1 ≤
        allowance refill capacity start call.call) → call.answer = true) ∧
    (∀ window, acceptedInWindow (windowAnswers limit windowMs created times) window ≤ limit) ∧
    (∀ start, (windowAnswers limit windowMs created times).countP (fun attempt =>
      attempt.answer.accepted && fromOn start windowMs attempt.call) ≤ 2 * limit) ∧
    ∀ start, (windowAnswers limit windowMs created times).countP (fun attempt =>
      attempt.answer.accepted && upTo start windowMs attempt.call) ≤ 2 * limit := by
  have level := run_level rate nonneg rising
  refine ⟨fun start stop => acceptedIn_le_allowance rate nonneg rising,
    ⟨level.nonneg, level.le_capacity⟩, ?_, (run_counting rising).few,
    fun start => accepted_in_interval rising (narrow_fromOn _ start),
    fun start => accepted_in_interval rising (narrow_upTo _ start)⟩
  intro before call after split respects
  obtain ⟨earlier, later, rfl, rfl, answer⟩ := Transcript.answers_split split
  obtain ⟨first, since, past⟩ := rising.before_split
  by_contra not
  have refused : call.answer = false := by simpa using not
  obtain ⟨start, sooner, broken⟩ := refused_beyond_allowance rate (run_level rate nonneg first)
    (lastRefillAt_le since past) (answer.symm.trans refused)
  have fits := respects start sooner
  rw [acceptedIn_of_past fun attempt mem => past attempt.call (Transcript.call_mem mem)] at fits
  exact absurd fits (not_le.mpr broken)

/-- A burst of two, a call too many, and one a second later. -/
def burst : List Rat := [0, 0, 0, 1000]

theorem burst_is_bounded :
    (bucketAnswers 1 2 0 burst).map Transcript.Entry.answer = [true, true, false, true] ∧
      acceptedIn (bucketAnswers 1 2 0 burst) 0 1000 ≤ allowance 1 2 0 1000 ∧
      (windowAnswers 2 1000 0 burst).countP (fun attempt =>
        attempt.answer.accepted && fromOn 0 1000 attempt.call) ≤ 2 * 2 := by
  have rising : Rising 0 burst := by
    unfold Rising
    decide +kernel
  have law := rate_limits_bound_whole_runs 1 2 (by decide) (by decide) 2 1000 rising
  exact ⟨by decide +kernel, law.1 0 1000 (by decide), law.2.2.2.2.1 0⟩

end BiliSyncPlay.Admission
