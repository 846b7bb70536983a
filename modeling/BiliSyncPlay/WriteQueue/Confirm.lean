import BiliSyncPlay.WriteQueue.Earned

/-!
# What `confirm` confirms

A `confirm` looks only at the answers outstanding when it is called, and an answer that gave way
to a newer write counts as no failure. So what it confirms was written as long as no write it
waits for gives way to one enqueued behind its back, or to one whose failure was reported before.
-/

namespace BiliSyncPlay.DurableWriteQueue

open Interleave

variable {B : Backend} {options : DurableWriteQueueOptions}

/-- An earlier `confirm` rejected with the failure of this write. -/
def Reported (earlier : List Happening) (w : WriteId) : Prop :=
  ∃ c failures e, .confirmRejected c failures ∈ earlier ∧ (w, e) ∈ failures

/-- A write that was enqueued before a call, as it should be when the call resolves: it or a newer
write of its key has run to success, unless its failure was reported. -/
def Covered (earlier : List Happening) (w : WriteId) (key : String) : Prop :=
  (∃ v, w ≤ v ∧ .enqueued v key ∈ earlier ∧ .runResolved v ∈ earlier) ∨ Reported earlier w

/-- Every `confirm` that resolved found every write enqueued before it covered. -/
def Confirms (history : List Happening) : Prop :=
  ∀ later c mid before, history = later ++ .confirmed c :: (mid ++ .confirmCalled c :: before) →
    ∀ w key, .enqueued w key ∈ before → Covered (mid ++ .confirmCalled c :: before) w key

/-! ## Writes that gave way to a reported failure -/

/-- What had happened when a `confirm` was called. -/
def beforeCall (c : ConfirmId) : List Happening → List Happening
  | [] => []
  | .confirmCalled d :: rest => if d = c then rest else beforeCall c rest
  | _ :: rest => beforeCall c rest

namespace Queue

def gaveWay (q : Queue) (w : WriteId) : Bool :=
  (q.writes[w]?).any fun a =>
    match a.outcome with
    | some (.error e) => e.isSuperseded
    | _ => false

def isOf (q : Queue) (key : String) (v : WriteId) : Bool :=
  (q.writes[v]?).any fun a => decide (a.key = key)

/-- A write of the key, no older than this one, has run to success. -/
def landedSince (q : Queue) (w : WriteId) (key : String) : Bool :=
  q.history.any fun
    | .runResolved v => decide (w ≤ v) && q.isOf key v
    | _ => false

/-- The failure of a newer write of the key was reported. -/
def reportedSince (q : Queue) (w : WriteId) (key : String) : Bool :=
  q.history.any fun
    | .confirmRejected _ failures => failures.any fun f => decide (w < f.1) && q.isOf key f.1
    | _ => false

/-- Of the writes a `confirm` looks back at, none gave way to one whose failure was reported, unless
one landed after all. -/
def accounts (q : Queue) (c : ConfirmId) : Bool :=
  (beforeCall c q.history).all fun
    | .enqueued w key => !(q.gaveWay w && q.reportedSince w key) || q.landedSince w key
    | _ => true

end Queue

variable {c : ConfirmId} {w : WriteId}

theorem beforeCall_split {history : List Happening} (called : .confirmCalled c ∈ history) :
    ∃ mid, history = mid ++ .confirmCalled c :: beforeCall c history := by
  induction history with
  | nil => cases called
  | cons h rest ih =>
    by_cases here : h = .confirmCalled c
    · subst here
      exact ⟨[], by simp [beforeCall]⟩
    · have later : .confirmCalled c ∈ rest := (List.mem_cons.mp called).resolve_left (Ne.symm here)
      obtain ⟨mid, split⟩ := ih later
      have skipped : beforeCall c (h :: rest) = beforeCall c rest := by
        cases h with
        | confirmCalled d =>
          have apart : d ≠ c := fun same => here (congrArg _ same)
          simp [beforeCall, apart]
        | _ => rfl
      refine ⟨h :: mid, ?_⟩
      rw [skipped, List.cons_append, ← split]

/-! ## What the queue knows of its answers -/

def MayConfirm (earlier : List Happening) : Happening → Prop
  | .confirmCalled c => .confirmCalled c ∉ earlier
  | .confirmed c => ∀ mid before, earlier = mid ++ .confirmCalled c :: before →
    ∀ w key, .enqueued w key ∈ before → Covered earlier w key
  | _ => True

/-- Where a `confirm` stands: the writes enqueued before it was called are answered or waited for,
and one of them that gave way gave way to another. -/
def Waits (q : Queue) (c : ConfirmId) (outcomes : List WriteId) : Prop :=
  ∃ mid before, q.history = mid ++ .confirmCalled c :: before ∧
    (∀ w ∈ outcomes, ∃ key, .enqueued w key ∈ before) ∧
    ∀ w key, .enqueued w key ∈ before → ∀ a : Write, q.writes[w]? = some a →
      (w ∈ outcomes ∨ a.outcome.isSome = true) ∧
      ∀ e, a.outcome = some (.error e) → e.isSuperseded = true →
        ∃ v, w < v ∧ .enqueued v key ∈ before

def Phase.Knows (q : Queue) : Phase → Prop
  | waiting c outcomes => Waits q c outcomes
  | counting c outcomes => Waits q c outcomes ∧
    ∀ w ∈ outcomes, ∀ a, q.writes[w]? = some a → a.outcome.isSome = true
  | resolved w => .runResolved w ∈ q.history
  | _ => True

structure Answers (q : Queue) : Prop extends Earned q where
  lawful : Lawful MayConfirm q.history
  confirms : ∀ c, .confirmCalled c ∈ q.history → c < q.confirms
  remembered : ∀ (w : WriteId) (a : Write) e, q.writes[w]? = some a → a.outcome = some (.error e) →
    e.isSuperseded = false → (w, e) ∈ q.abandoned ∨ Reported q.history w
  outcomes : ∀ (w : WriteId) (a : Write), q.writes[w]? = some a → a.outcome = none → w ∈ q.outcomes
  known : ∀ w ∈ q.outcomes, ∃ a, q.writes[w]? = some a

theorem Reported.grows {earlier : List Happening} (h : Reported earlier w) (new : List Happening) :
    Reported (new ++ earlier) w := by
  obtain ⟨c, failures, e, rejected, mem⟩ := h
  exact ⟨c, failures, e, List.mem_append_right _ rejected, mem⟩

section Steps

variable {q q' : Queue} {calm : Prop}

/-- No write was answered, and nothing that happened is forgotten. -/
structure Unanswering (q q' : Queue) : Prop where
  outcome : ∀ (w : WriteId) (a a' : Write), q.writes[w]? = some a → q'.writes[w]? = some a' →
    a'.outcome = a.outcome
  history : ∃ new, q'.history = new ++ q.history

theorem enqueued_known (kept : q.Kept calm options) {mid before : List Happening}
    (split : q.history = mid ++ .confirmCalled c :: before) {key : String}
    (h : .enqueued w key ∈ before) :
    ∃ a, q.writes[w]? = some a ∧ a.key = key := by
  apply (kept.enqueued w key).mp
  rw [split]
  exact List.mem_append_right _ (List.mem_cons_of_mem _ h)

theorem Waits.stable {outcomes : List WriteId} (kept : q.Kept calm options)
    (still : Unanswering q q') (h : Waits q c outcomes) : Waits q' c outcomes := by
  obtain ⟨mid, before, split, waited, open_⟩ := h
  obtain ⟨new, history⟩ := still.history
  refine ⟨new ++ mid, before, by rw [history, split, List.append_assoc], waited, ?_⟩
  intro w key enqueued a' ha'
  obtain ⟨a, ha, -⟩ := enqueued_known kept split enqueued
  rw [still.outcome w a a' ha ha']
  exact open_ w key enqueued a ha

theorem Phase.Knows.stable {φ : Phase} (kept : q.Kept calm options) (still : Unanswering q q')
    (h : φ.Knows q) : φ.Knows q' := by
  cases φ with
  | waiting c outcomes => exact Waits.stable kept still h
  | counting c outcomes =>
    refine ⟨h.1.stable kept still, ?_⟩
    intro w hw a' ha'
    obtain ⟨mid, before, split, waited, -⟩ := h.1
    obtain ⟨key, enqueued⟩ := waited w hw
    obtain ⟨a, ha, -⟩ := enqueued_known kept split enqueued
    rw [still.outcome w a a' ha ha']
    exact h.2 w hw a ha
  | resolved w =>
    obtain ⟨new, history⟩ := still.history
    change .runResolved w ∈ q'.history
    rw [history]
    exact List.mem_append_right _ h
  | _ => trivial

/-- Happenings no `confirm` is concerned with. -/
def Happening.Silent : Happening → Prop
  | .confirmCalled _ | .confirmed _ => False
  | _ => True

/-- Nothing changes that answers depend on. -/
structure Silent (q q' : Queue) : Prop where
  writes : ∀ (w : WriteId) (a' : Write), q'.writes[w]? = some a' → ∃ a : Write, q.writes[w]? = some a ∧
    a'.key = a.key ∧ a'.outcome = a.outcome ∧ a'.superseded = a.superseded
  back : ∀ (w : WriteId) (a : Write), q.writes[w]? = some a → ∃ a', q'.writes[w]? = some a' ∧ a'.key = a.key
  abandoned : q'.abandoned = q.abandoned
  confirms : q'.confirms = q.confirms
  outcomes : ∀ w ∈ q.outcomes, w ∈ q'.outcomes ∨
    ∃ a, q.writes[w]? = some a ∧ a.outcome.isSome = true
  fewer : ∀ w ∈ q'.outcomes, w ∈ q.outcomes
  history : q'.history = q.history ∨ ∃ h, h.Silent ∧ q'.history = h :: q.history

theorem Silent.unanswering (silent : Silent q q') : Unanswering q q' where
  outcome w a a' ha ha' := by
    obtain ⟨b, hb, -, outcome, -⟩ := silent.writes w a' ha'
    cases Option.some.inj (ha.symm.trans hb)
    exact outcome
  history := by
    rcases silent.history with same | ⟨h, -, new⟩
    · exact ⟨[], same⟩
    · exact ⟨[h], new⟩

theorem Silent.same (writes : q'.writes = q.writes) (abandoned : q'.abandoned = q.abandoned)
    (confirms : q'.confirms = q.confirms) (outcomes : q'.outcomes = q.outcomes)
    (history : q'.history = q.history ∨ ∃ h, h.Silent ∧ q'.history = h :: q.history) :
    Silent q q' where
  writes _ a h := ⟨a, writes ▸ h, rfl, rfl, rfl⟩
  back _ a h := ⟨a, writes ▸ h, rfl⟩
  abandoned := abandoned
  confirms := confirms
  outcomes _ h := .inl (outcomes ▸ h)
  fewer _ h := outcomes ▸ h
  history := history

theorem Silent.plain (silent : Silent q q') : Plain q q' where
  writes := silent.writes
  back := silent.back
  history := by
    obtain ⟨new, history⟩ := silent.unanswering.history
    exact fun e he => history ▸ List.mem_append_right _ he

theorem Answers.silent (h : Answers q) (silent : Silent q q') : Answers q' := by
  have reported : ∀ w, Reported q.history w → Reported q'.history w := by
    obtain ⟨new, history⟩ := silent.unanswering.history
    exact fun w hw => history ▸ hw.grows new
  constructor
  · exact h.toEarned.plain silent.plain
  · rcases silent.history with same | ⟨e, plain, new⟩
    · exact same ▸ h.lawful
    · rw [new]
      refine ⟨?_, h.lawful⟩
      cases e <;> trivial
  · intro c hc
    rw [silent.confirms]
    apply h.confirms
    rcases silent.history with same | ⟨e, plain, new⟩
    · exact same ▸ hc
    · rw [new] at hc
      cases e <;> first | exact False.elim plain | simpa using hc
  · intro w a' e ha' failed own
    obtain ⟨a, ha, -, outcome, -⟩ := silent.writes w a' ha'
    rw [silent.abandoned]
    exact (h.remembered w a e ha (outcome ▸ failed) own).imp_right (reported w)
  · intro w a' ha' none
    obtain ⟨a, ha, -, outcome, -⟩ := silent.writes w a' ha'
    rcases silent.outcomes w (h.outcomes w a ha (outcome ▸ none)) with kept | ⟨b, hb, answered⟩
    · exact kept
    · cases Option.some.inj (ha.symm.trans hb)
      rw [← outcome, none] at answered
      cases answered
  · intro w hw
    obtain ⟨a, ha⟩ := h.known w (silent.fewer w hw)
    obtain ⟨a', ha', -⟩ := silent.back w a ha
    exact ⟨a', ha'⟩

theorem unanswering_enqueue (q : Queue) (key : String) : Unanswering q (q.enqueue key).2 where
  outcome w a a' ha ha' := by
    rcases enqueue_write ha' with ⟨rfl, -⟩ | ⟨b, hb, -, outcome, -⟩
    · cases (show q.writes[q.writes.length]? = none by simp).symm.trans ha
    · cases Option.some.inj (ha.symm.trans hb)
      exact outcome
  history := ⟨[_], enqueue_history q key⟩

theorem Answers.enqueue (h : Answers q) (kept : q.Kept calm options) (key : String) :
    Answers (q.enqueue key).2 := by
  have history := enqueue_history q key
  obtain ⟨-, -, -, -, outcomes, abandoned, length⟩ := Queue.supersede_fields q (q.chains.get? key)
  have outcomes' : (q.enqueue key).2.outcomes = q.outcomes ++ [q.writes.length] := by
    rw [Queue.enqueue_eq, Queue.push, outcomes, length]
  have abandoned' : (q.enqueue key).2.abandoned = q.abandoned := by
    rw [Queue.enqueue_eq, Queue.push, abandoned]
  have confirms : (q.enqueue key).2.confirms = q.confirms := by
    rw [Queue.enqueue_eq, Queue.push]
    cases q.chains.get? key <;> rfl
  have next := (Queue.extends_enqueue q key).writes
  constructor
  · exact h.toEarned.enqueue kept key
  · rw [history]
    exact ⟨trivial, h.lawful⟩
  · intro c hc
    rw [confirms]
    exact h.confirms c (by simpa [history] using hc)
  · intro w a' e ha' failed own
    rw [history, abandoned']
    rcases enqueue_write ha' with ⟨-, -, none, -⟩ | ⟨a, ha, -, outcome, -⟩
    · cases none.symm.trans failed
    · exact (h.remembered w a e ha (outcome ▸ failed) own).imp_right fun reported => reported.grows [_]
  · intro w a' ha' none
    rw [outcomes']
    rcases enqueue_write ha' with ⟨rfl, -⟩ | ⟨a, ha, -, outcome, -⟩
    · exact List.mem_append_right _ List.mem_cons_self
    · exact List.mem_append_left _ (h.outcomes w a ha (outcome ▸ none))
  · intro w hw
    rw [outcomes'] at hw
    rcases List.mem_append.mp hw with old | new
    · obtain ⟨a, ha⟩ := h.known w old
      obtain ⟨a', ha', -⟩ := next w a ha
      exact ⟨a', ha'⟩
    · cases List.mem_singleton.mp new
      obtain ⟨b, hb, -⟩ := enqueue_last q key
      exact ⟨b, hb⟩

/-- The answer a step gives keeps what is known of answers. -/
theorem Answers.answer (h : Answers q) {a : Write} {r : Except WriteError Unit}
    (at_w : q.writes[w]? = some a) (ok : r = .ok () → .runResolved w ∈ q.history)
    (room : ∀ e, r = .error e → e.isSuperseded = false →
      q.abandoned.length < MAX_REMEMBERED_FAILURES)
    (yields : ∀ e, r = .error e → e.isSuperseded = true → a.superseded = true) :
    Answers (q.answer w r) := by
  obtain ⟨-, -, -, outcomes, writes, history⟩ := Queue.answer_fields q w r
  have confirms : (q.answer w r).confirms = q.confirms := by
    cases r with
    | ok => rfl
    | error e =>
      simp only [Queue.answer, Queue.remember]
      split <;> rfl
  have abandoned : ∀ x ∈ q.abandoned, x ∈ (q.answer w r).abandoned := by
    intro x hx
    cases r with
    | ok => exact hx
    | error e =>
      simp only [Queue.answer, Queue.remember]
      split
      · exact List.mem_append_left _ hx
      · exact hx
  constructor
  · exact h.toEarned.answer at_w ok yields
  · rw [history]
    exact ⟨trivial, h.lawful⟩
  · intro c hc
    rw [confirms]
    exact h.confirms c (by simpa [history] using hc)
  · intro v b' e hb' failed own
    rw [history]
    obtain ⟨b, hb, -, -, ⟨rfl, mine⟩ | ⟨-, same⟩⟩ := answer_write hb'
    · cases Option.some.inj (mine.symm.trans failed)
      left
      have stored := room e rfl own
      have kept : (q.setWrite v fun write => { write with outcome := some (.error e) }).abandoned.length <
          MAX_REMEMBERED_FAILURES := stored
      simp only [Queue.answer, Queue.remember, own, kept, decide_true, Bool.not_false, Bool.true_and,
        if_true]
      exact List.mem_append_right _ List.mem_cons_self
    · exact (h.remembered v b e hb (same ▸ failed) own).imp (abandoned _)
        fun reported => reported.grows [_]
  · intro v b' hb' none
    rw [outcomes]
    obtain ⟨b, hb, -, -, ⟨rfl, mine⟩ | ⟨-, same⟩⟩ := answer_write hb'
    · cases mine.symm.trans none
    · exact h.outcomes v b hb (same ▸ none)
  · intro v hv
    obtain ⟨b, hb⟩ := h.known v (outcomes ▸ hv)
    exact ⟨_, writes ▸ Queue.setWrite_getElem? hb⟩

/-- A `confirm` starts from the answers outstanding when it is called. -/
theorem Answers.call (h : Answers q) (kept : q.Kept calm options)
    (called : q' = { q with
      confirms := q.confirms + 1
      history := .confirmCalled q.confirms :: q.history }) :
    Answers q' ∧ Unanswering q q' ∧ Waits q' q.confirms q.outcomes := by
  subst called
  have fresh : .confirmCalled q.confirms ∉ q.history := fun mem =>
    Nat.lt_irrefl _ (h.confirms _ mem)
  refine ⟨?_, ⟨?_, [_], rfl⟩, [], q.history, rfl, ?_, ?_⟩
  · constructor
    · exact h.toEarned.plain (.same rfl fun _ => List.mem_cons_of_mem _)
    · exact ⟨fresh, h.lawful⟩
    · intro c hc
      rcases List.mem_cons.mp hc with new | old
      · cases new
        exact Nat.lt_succ_self _
      · exact Nat.lt_succ_of_lt (h.confirms c old)
    · intro w a e ha failed own
      exact (h.remembered w a e ha failed own).imp_right fun reported => reported.grows [_]
    · exact h.outcomes
    · exact h.known
  · intro w a a' ha ha'
    cases Option.some.inj (ha.symm.trans ha')
    rfl
  · intro w hw
    obtain ⟨a, ha⟩ := h.known w hw
    exact ⟨a.key, (kept.enqueued w _).mpr ⟨a, ha, rfl⟩⟩
  · intro w key enqueued a ha
    obtain ⟨b, hb, rfl⟩ := (kept.enqueued w key).mp enqueued
    cases Option.some.inj (ha.symm.trans hb)
    constructor
    · cases outcome : a.outcome with
      | none => exact .inl (h.outcomes w a ha outcome)
      | some r => exact .inr rfl
    · intro e failed yields
      obtain ⟨v, b, lt, hb, hk⟩ := h.newer w a ha (h.gaveWay w a e ha failed yields)
      exact ⟨v, lt, (kept.enqueued v _).mpr ⟨b, hb, hk⟩⟩

/-- With nothing left to report, of every write a `confirm` looked back at one landed, it or a newer
one of its key, or one of them was reported: it, or one it gave way to. -/
theorem Answers.ends (h : Answers q) (kept : q.Kept calm options) (nothing : q.abandoned = [])
    {before : List Happening}
    (done : ∀ w key, .enqueued w key ∈ before → ∃ a, q.writes[w]? = some a ∧ a.key = key ∧
      a.outcome.isSome = true ∧ ∀ e, a.outcome = some (.error e) → e.isSuperseded = true →
        ∃ v, w < v ∧ .enqueued v key ∈ before)
    (w : WriteId) (key : String) (enqueued : .enqueued w key ∈ before) :
    (∃ v, w ≤ v ∧ .enqueued v key ∈ q.history ∧ .runResolved v ∈ q.history) ∨
      ∃ v a, w ≤ v ∧ q.writes[v]? = some a ∧ a.key = key ∧ Reported q.history v ∧
        (v = w ∨ w < v ∧ q.gaveWay w = true) := by
  induction left : q.writes.length - w using Nat.strongRecOn generalizing w with
  | _ n ih =>
    obtain ⟨a, ha, rfl, answered, yields⟩ := done w key enqueued
    have within : w < q.writes.length := (List.getElem?_eq_some_iff.mp ha).1
    obtain ⟨r, outcome⟩ := Option.isSome_iff_exists.mp answered
    cases r with
    | ok =>
      exact .inl ⟨w, Nat.le_refl w, (kept.enqueued w _).mpr ⟨a, ha, rfl⟩,
        h.written w a ha outcome⟩
    | error e =>
      cases gives : e.isSuperseded with
      | false =>
        rcases h.remembered w a e ha outcome gives with still | reported
        · rw [nothing] at still
          cases still
        · exact .inr ⟨w, a, Nat.le_refl w, ha, rfl, reported, .inl rfl⟩
      | true =>
        have way : q.gaveWay w = true := by simp [Queue.gaveWay, ha, outcome, gives]
        obtain ⟨v, lt, newer⟩ := yields e outcome gives
        have closer : q.writes.length - v < n := by
          rw [← left]
          exact Nat.sub_lt_sub_left within lt
        rcases ih _ closer v newer rfl with ⟨u, le, known, ran⟩ | ⟨u, b, le, hb, hk, reported, -⟩
        · exact .inl ⟨u, Nat.le_trans (Nat.le_of_lt lt) le, known, ran⟩
        · have after : w < u := Nat.lt_of_lt_of_le lt le
          exact .inr ⟨u, b, Nat.le_of_lt after, hb, hk, reported, .inr ⟨after, way⟩⟩

theorem Queue.reportedSince_of {v : WriteId} {a : Write} (newer : w < v)
    (ha : q.writes[v]? = some a) (reported : Reported q.history v) :
    q.reportedSince w a.key = true := by
  obtain ⟨c, failures, e, rejected, mem⟩ := reported
  refine List.any_eq_true.mpr ⟨_, rejected, List.any_eq_true.mpr ⟨_, mem, ?_⟩⟩
  simp [newer, Queue.isOf, ha]

theorem Queue.landed_of_since {key : String} (kept : q.Kept calm options)
    (landed : q.landedSince w key = true) :
    ∃ v, w ≤ v ∧ .enqueued v key ∈ q.history ∧ .runResolved v ∈ q.history := by
  obtain ⟨happened, mem, is⟩ := List.any_eq_true.mp landed
  cases happened with
  | runResolved v =>
    simp only [Bool.and_eq_true, decide_eq_true_eq, Queue.isOf, Option.any_eq_true] at is
    obtain ⟨le, a, ha, hk⟩ := is
    exact ⟨v, le, (kept.enqueued v key).mpr ⟨a, ha, hk⟩, mem⟩
  | _ => cases is

/-- With the writes that gave way accounted for, every write a `confirm` looked back at is covered. -/
theorem Answers.covered (h : Answers q) (kept : q.Kept calm options) (nothing : q.abandoned = [])
    (accounts : q.accounts c = true)
    (done : ∀ w key, .enqueued w key ∈ beforeCall c q.history → ∃ a, q.writes[w]? = some a ∧
      a.key = key ∧ a.outcome.isSome = true ∧
      ∀ e, a.outcome = some (.error e) → e.isSuperseded = true →
        ∃ v, w < v ∧ .enqueued v key ∈ beforeCall c q.history) (w : WriteId) (key : String)
    (enqueued : .enqueued w key ∈ beforeCall c q.history) :
    Covered q.history w key := by
  rcases h.ends kept nothing done w key enqueued with landed | ⟨v, a, -, ha, rfl, reported, own⟩
  · exact .inl landed
  · rcases own with rfl | ⟨newer, way⟩
    · exact .inr reported
    · have counted := List.all_eq_true.mp accounts _ enqueued
      have since := Queue.reportedSince_of newer ha reported
      simp only [way, since, Bool.and_self, Bool.not_true, Bool.false_or] at counted
      exact .inl (Queue.landed_of_since kept counted)

/-- A `confirm` that counted no failure may resolve; one that did reports them all. -/
theorem Answers.take (h : Answers q) (kept : q.Kept calm options) {outcomes : List WriteId}
    (knows : (Phase.counting c outcomes).Knows q)
    (accounts : q.abandoned = [] → q.accounts c = true) :
    Answers (q.takeAbandoned c) ∧ Unanswering q (q.takeAbandoned c) := by
  obtain ⟨⟨mid, before, split, -, waits⟩, answered⟩ := knows
  have same : ∀ {q' : Queue}, q'.writes = q.writes → ∀ (w : WriteId) (a a' : Write),
      q.writes[w]? = some a → q'.writes[w]? = some a' → a'.outcome = a.outcome := by
    intro q' writes w a a' ha ha'
    rw [writes] at ha'
    cases Option.some.inj (ha.symm.trans ha')
    rfl
  unfold Queue.takeAbandoned
  split
  · rename_i empty
    have nothing : q.abandoned = [] := List.length_eq_zero_iff.mp empty
    have done : ∀ w key, .enqueued w key ∈ before → ∃ a, q.writes[w]? = some a ∧ a.key = key ∧
        a.outcome.isSome = true ∧ ∀ e, a.outcome = some (.error e) → e.isSuperseded = true →
          ∃ v, w < v ∧ .enqueued v key ∈ before := by
      intro w key enqueued
      obtain ⟨a, ha, hk⟩ := enqueued_known kept split enqueued
      obtain ⟨outstanding, yields⟩ := waits w key enqueued a ha
      exact ⟨a, ha, hk, outstanding.elim (fun hw => answered w hw a ha) id, yields⟩
    refine ⟨?_, same rfl, [_], rfl⟩
    constructor
    · exact h.toEarned.plain (.same rfl fun _ => List.mem_cons_of_mem _)
    · refine ⟨?_, h.lawful⟩
      intro mid' before' split' w key enqueued
      -- The call is in the history once, so there is only one past to it.
      have once : ∀ earlier, MayConfirm earlier (.confirmCalled c) → .confirmCalled c ∉ earlier :=
        fun _ fresh => fresh
      have called : .confirmCalled c ∈ q.history := by
        rw [split]
        exact List.mem_append_right _ List.mem_cons_self
      obtain ⟨mid'', own⟩ := beforeCall_split called
      have past := h.lawful.past_unique once split own
      have past' := h.lawful.past_unique once split' own
      rw [past] at done
      rw [past'] at enqueued
      exact h.covered kept nothing (accounts nothing) done w key enqueued
    · intro c' hc'
      exact h.confirms c' (by simpa [Queue.note] using hc')
    · intro w a e ha failed own
      exact (h.remembered w a e ha failed own).imp_right fun reported => reported.grows [_]
    · exact h.outcomes
    · exact h.known
  · refine ⟨?_, same rfl, [_], rfl⟩
    constructor
    · exact h.toEarned.plain (.same rfl fun _ => List.mem_cons_of_mem _)
    · exact ⟨trivial, h.lawful⟩
    · intro c' hc'
      exact h.confirms c' (by simpa using hc')
    · intro w a e ha failed own
      right
      rcases h.remembered w a e ha failed own with now | before
      · exact ⟨c, q.abandoned, e, List.mem_cons_self, now⟩
      · exact before.grows [_]
    · exact h.outcomes
    · exact h.known

theorem Silent.refl (q : Queue) : Silent q q := .same rfl rfl rfl rfl (.inl rfl)

theorem Silent.noted {h : Happening} (silent : h.Silent) (q : Queue) : Silent q (q.note h) :=
  .same rfl rfl rfl rfl (.inr ⟨h, silent, rfl⟩)

theorem Silent.settle (q : Queue) (w : WriteId) :
    Silent q (q.setWrite w fun write => { write with settled := true }) where
  writes v a' ha' := by
    obtain ⟨a, ha, rfl⟩ := Queue.getElem?_setWrite ha'
    refine ⟨a, ha, ?_⟩
    split <;> exact ⟨rfl, rfl, rfl⟩
  back v a ha := by
    refine ⟨_, Queue.setWrite_getElem? ha, ?_⟩
    split <;> rfl
  abandoned := rfl
  confirms := rfl
  outcomes _ := .inl
  fewer _ := id
  history := .inl rfl

theorem Silent.forget {a : Write} (at_w : q.writes[w]? = some a)
    (answered : a.outcome.isSome = true) : Silent q (q.forget w) where
  writes _ a h := ⟨a, h, rfl, rfl, rfl⟩
  back _ a h := ⟨a, h, rfl⟩
  abandoned := rfl
  confirms := rfl
  outcomes v hv := by
    by_cases own : v = w
    · subst own
      exact .inr ⟨a, at_w, answered⟩
    · exact .inl ((List.mem_erase_of_ne own).mpr hv)
  fewer _ := List.mem_of_mem_erase
  history := .inl rfl

theorem Silent.finishSettle (q : Queue) (id : SettleId) (r : Except RunError Unit) :
    Silent q (q.finishSettle id r) := by
  unfold Queue.finishSettle
  cases q.settles[id]? with
  | none => exact .same rfl rfl rfl rfl (.inl rfl)
  | some s =>
    cases r with
    | ok => exact .same rfl rfl rfl rfl (.inr ⟨.settleResolved s.write s.attempt, trivial, rfl⟩)
    | error e => exact .same rfl rfl rfl rfl (.inl rfl)

end Steps

end BiliSyncPlay.DurableWriteQueue
