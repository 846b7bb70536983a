import BiliSyncPlay.WriteQueue.Chain
import BiliSyncPlay.WriteQueue.Order

/-!
# Runs in order

What every call knows where it stands, kept by every command, and from it the order of the runs
of any interleaving.
-/

namespace BiliSyncPlay.DurableWriteQueue

open Interleave

variable {B : Backend} {calm : Prop} {options : DurableWriteQueueOptions}

namespace Queue

/-- A write still to be answered whose key is clear, after `k` attempts. -/
structure Trying (calm : Prop) (q : Queue) (w : WriteId) (k : Nat) : Prop where
  pending : ∃ a, q.writes[w]? = some a ∧ a.outcome = none ∧ q.SettledBefore w a.key
  last : ∀ j, .runStarted w j ∈ q.history → j ≤ k
  settled : calm → ∀ j, 0 < j → j < k → .settleResolved w (some j) ∈ q.history

def Calls (q : Queue) (id : SettleId) (w : WriteId) (attempt : Option Nat) : Prop :=
  ∃ s, q.settles[id]? = some s ∧ s.write = w ∧ s.attempt = attempt

/-- A write that was answered, behind nothing that still holds its key. -/
def Answered (q : Queue) (w : WriteId) : Prop :=
  ∃ a, q.writes[w]? = some a ∧ a.outcome.isSome = true ∧ q.SettledBefore w a.key

end Queue

/-- What a call knows where it stands. -/
def Phase.Holds (calm : Prop) (q : Queue) : Phase → Prop
  | queued w previous | raced w previous =>
    (∃ a, q.writes[w]? = some a ∧ a.outcome = none ∧ a.previous = previous) ∧
      ∀ j, .runStarted w j ∈ q.history → j ≤ 0
  | ready w => q.Trying calm w 0
  | running w k => q.Trying calm w k
  | settling w k id => q.Trying calm w k ∧ q.Calls id w (some k)
  | retrying w k clean => q.Trying calm w k ∧
      if clean then calm → .settleResolved w (some k) ∈ q.history else q.stopped = true
  | yielded w => ∃ a, q.writes[w]? = some a ∧ a.outcome = none ∧ a.superseded = true
  | resolved w => ∃ a, q.writes[w]? = some a ∧ a.outcome = none
  | awaiting w previous => ∃ a, q.writes[w]? = some a ∧ a.previous = previous
  | reported w previous =>
    ∃ a, q.writes[w]? = some a ∧ a.previous = previous ∧ a.outcome.isSome = true
  | clear w => q.Answered w
  | closing w id => q.Answered w ∧ q.Calls id w none
  | closed w => q.Answered w ∧ (calm → .settleResolved w none ∈ q.history)
  | released w => ∃ a, q.writes[w]? = some a ∧ a.settled = true
  | cleanup id => ∃ s, q.settles[id]? = some s
  | idle | asking | waiting .. | counting .. => True

section Stable

variable {q q' : Queue} {w : WriteId}

theorem Queue.Trying.stable {k : Nat} (ext : q.Extends q') (quiet : Queue.Quiet w q q')
    (h : q.Trying calm w k) : q'.Trying calm w k where
  pending := by
    obtain ⟨a, ha, none, clear⟩ := h.pending
    obtain ⟨a', ha', grown⟩ := ext.writes w a ha
    exact ⟨a', ha', quiet.pending a a' ha ha' none, grown.key ▸ clear.extends ext ha⟩
  last j hj := h.last j (quiet.runs j hj)
  settled calm j hj hk := ext.history _ (h.settled calm j hj hk)

theorem Queue.Calls.stable {id : SettleId} {attempt : Option Nat} (ext : q.Extends q')
    (h : q.Calls id w attempt) : q'.Calls id w attempt := by
  obtain ⟨s, hs, rfl, rfl⟩ := h
  obtain ⟨s', hs', write, attempt⟩ := ext.settles id s hs
  exact ⟨s', hs', write, attempt⟩

theorem Queue.Answered.stable (ext : q.Extends q') (h : q.Answered w) : q'.Answered w := by
  obtain ⟨a, ha, answered, clear⟩ := h
  obtain ⟨a', ha', grown⟩ := ext.writes w a ha
  obtain ⟨r, hr⟩ := Option.isSome_iff_exists.mp answered
  exact ⟨a', ha', by rw [grown.outcome r hr]; rfl, grown.key ▸ clear.extends ext ha⟩

/-- A call goes on knowing what it knew while others act. -/
theorem Phase.Holds.stable {φ : Phase} (ext : q.Extends q')
    (quiet : ∀ w, φ.writer? = some w → Queue.Quiet w q q') (h : φ.Holds calm q) : φ.Holds calm q' := by
  cases φ with
  | queued w previous | raced w previous =>
    obtain ⟨⟨a, ha, none, hp⟩, last⟩ := h
    obtain ⟨a', ha', grown⟩ := ext.writes w a ha
    have still := quiet w rfl
    exact ⟨⟨a', ha', still.pending a a' ha ha' none, grown.previous.trans hp⟩,
      fun j hj => last j (still.runs j hj)⟩
  | ready w | running w k => exact Queue.Trying.stable ext (quiet w rfl) h
  | settling w k id => exact ⟨h.1.stable ext (quiet w rfl), h.2.stable ext⟩
  | retrying w k clean =>
    refine ⟨h.1.stable ext (quiet w rfl), ?_⟩
    cases clean with
    | true => exact fun calm => ext.history _ (h.2 calm)
    | false => exact ext.stopped h.2
  | yielded w =>
    obtain ⟨a, ha, none, superseded⟩ := h
    obtain ⟨a', ha', grown⟩ := ext.writes w a ha
    exact ⟨a', ha', (quiet w rfl).pending a a' ha ha' none, grown.superseded superseded⟩
  | resolved w =>
    obtain ⟨a, ha, none⟩ := h
    obtain ⟨a', ha', -⟩ := ext.writes w a ha
    exact ⟨a', ha', (quiet w rfl).pending a a' ha ha' none⟩
  | awaiting w previous =>
    obtain ⟨a, ha, hp⟩ := h
    obtain ⟨a', ha', grown⟩ := ext.writes w a ha
    exact ⟨a', ha', grown.previous.trans hp⟩
  | reported w previous =>
    obtain ⟨a, ha, hp, answered⟩ := h
    obtain ⟨a', ha', grown⟩ := ext.writes w a ha
    obtain ⟨r, hr⟩ := Option.isSome_iff_exists.mp answered
    exact ⟨a', ha', grown.previous.trans hp, by rw [grown.outcome r hr]; rfl⟩
  | clear w => exact Queue.Answered.stable ext h
  | closing w id => exact ⟨h.1.stable ext, h.2.stable ext⟩
  | closed w => exact ⟨h.1.stable ext, fun calm => ext.history _ (h.2 calm)⟩
  | released w =>
    obtain ⟨a, ha, done⟩ := h
    obtain ⟨a', ha', grown⟩ := ext.writes w a ha
    exact ⟨a', ha', grown.settled done⟩
  | cleanup id =>
    obtain ⟨s, hs⟩ := h
    obtain ⟨s', hs', -⟩ := ext.settles id s hs
    exact ⟨s', hs'⟩
  | idle | asking | waiting | counting => trivial

end Stable

/-- What every interleaving keeps: each write is answered by one call, and every call knows where
it stands. -/
structure Sound (calm : Prop) (options : DurableWriteQueueOptions) (q : Queue) (φs : List Phase) : Prop where
  kept : q.Kept calm options
  alone : Distinct Phase.writer? φs
  holds : ∀ φ ∈ φs, φ.Holds calm q
  resolved : ∀ w, .runResolved w ∈ q.history → .answered w (.ok ()) ∈ q.history ∨ .resolved w ∈ φs

/-- A call took a step: what it did to the queue, and where it stands now. -/
structure Stepped (calm : Prop) (options : DurableWriteQueueOptions) (φ : Phase) (q q' : Queue) (ψ : Phase)
    (spawned : List Phase) : Prop where
  kept : q'.Kept calm options
  extends_ : q.Extends q'
  quiet : ∀ v, φ.writer? ≠ some v → Queue.Quiet v q q'
  own : ∀ v, ψ.writer? = some v → φ.writer? = some v
  holds : ψ.Holds calm q'
  apart : Distinct Phase.writer? spawned
  new : ∀ χ ∈ spawned, χ.Holds calm q' ∧ ∀ v, χ.writer? = some v → q.writes[v]? = none
  resolves : ∀ w, .runResolved w ∈ q'.history → .runResolved w ∈ q.history ∨ ψ = .resolved w
  answers : ∀ w, φ = .resolved w → ψ = .resolved w ∨ .answered w (.ok ()) ∈ q'.history

/-- A write is answered once: whoever is to answer it has not yet. -/
theorem writer_pending {q : Queue} {φ : Phase} {w : WriteId} (holds : φ.Holds calm q)
    (own : φ.writer? = some w) : ∃ a, q.writes[w]? = some a ∧ a.outcome = none := by
  cases φ <;> cases own
  case queued | raced =>
    obtain ⟨⟨a, ha, none, -⟩, -⟩ := holds
    exact ⟨a, ha, none⟩
  case ready | running =>
    obtain ⟨a, ha, none, -⟩ := Queue.Trying.pending holds
    exact ⟨a, ha, none⟩
  case settling | retrying =>
    obtain ⟨a, ha, none, -⟩ := holds.1.pending
    exact ⟨a, ha, none⟩
  case yielded =>
    obtain ⟨a, ha, none, -⟩ := holds
    exact ⟨a, ha, none⟩
  case resolved => exact holds

theorem Sound.step {q q' : Queue} {φs spawned : List Phase} {i : Nat} {φ ψ : Phase}
    (inv : Sound calm options q φs) (at_i : φs[i]? = some φ)
    (stepped : Stepped calm options φ q q' ψ spawned) : Sound calm options q' (φs.set i ψ ++ spawned) := by
  have here : φ ∈ φs := List.mem_of_getElem? at_i
  refine ⟨stepped.kept, ?_, ?_, ?_⟩
  · refine distinct_step inv.alone at_i stepped.own stepped.apart ?_
    intro χ hχ w hw φ' hφ' clash
    obtain ⟨a, ha, -⟩ := writer_pending (inv.holds φ' hφ') clash
    cases ((stepped.new χ hχ).2 w hw).symm.trans ha
  · intro χ hχ
    rcases List.mem_append.mp hχ with old | new
    · obtain ⟨j, hj⟩ := List.mem_iff_getElem?.mp old
      have alone : (φs.set i ψ ++ [])[j]? = some χ := by simpa using hj
      rcases getElem?_set_append alone with
        ⟨-, rfl⟩ | ⟨other, same⟩ | ⟨-, none⟩
      · exact stepped.holds
      · refine (inv.holds χ (List.mem_of_getElem? same)).stable stepped.extends_ ?_
        intro v hv
        refine stepped.quiet v fun own => other ?_
        exact inv.alone j i χ φ v same at_i hv own
      · cases none
    · exact (stepped.new χ new).1
  · intro w hw
    have lift : ∀ χ, χ ∈ φs → χ ≠ φ → χ ∈ φs.set i ψ ++ spawned := by
      intro χ hχ other
      obtain ⟨j, hj⟩ := List.mem_iff_getElem?.mp hχ
      have apart : i ≠ j := fun same => other (Option.some.inj (hj.symm.trans (same ▸ at_i)))
      exact List.mem_append_left _
        (List.mem_iff_getElem?.mpr ⟨j, by rw [List.getElem?_set_ne apart]; exact hj⟩)
    have mine : ψ ∈ φs.set i ψ ++ spawned :=
      List.mem_append_left _ (List.mem_set (List.getElem?_eq_some_iff.mp at_i).1 _)
    rcases stepped.resolves w hw with before | rfl
    · rcases inv.resolved w before with done | standing
      · exact .inl (stepped.extends_.history _ done)
      · by_cases same : Phase.resolved w = φ
        · rcases stepped.answers w same.symm with rfl | done
          · exact .inr mine
          · exact .inl done
        · exact .inr (lift _ standing same)
    · exact .inr mine

/-! ## One step -/

section Step

variable {q q' : Queue} {φ ψ : Phase} {w : WriteId}

/-- Nothing happens to what calls know, and calls of the backend may start. -/
theorem Stepped.grown {spawned : List Phase} (kept : q'.Kept calm options) (ext : q.Extends q')
    (quiet : ∀ v, Queue.Quiet v q q')
    (resolves : ∀ w, .runResolved w ∈ q'.history → .runResolved w ∈ q.history ∨ ψ = .resolved w)
    (holds : ψ.Holds calm q') (own : ∀ v, ψ.writer? = some v → φ.writer? = some v)
    (answers : ∀ w, φ = .resolved w → ψ = .resolved w) (idle : ∀ χ ∈ spawned, χ = .idle) :
    Stepped calm options φ q q' ψ spawned where
  kept := kept
  extends_ := ext
  quiet v _ := quiet v
  own := own
  holds := holds
  apart := by
    intro i j χ χ' v hi hj hv
    cases idle χ (List.mem_of_getElem? hi)
    cases hv
  new χ hχ := by
    cases idle χ hχ
    exact ⟨trivial, nofun⟩
  resolves := resolves
  answers w h := .inl (answers w h)

theorem Stepped.noted {spawned : List Phase} (kept : q'.Kept calm options)
    (writes : q'.writes = q.writes) (settles : q'.settles = q.settles)
    (stopped : q.stopped = true → q'.stopped = true) (history : ∀ h ∈ q.history, h ∈ q'.history)
    (runs : ∀ w j, .runStarted w j ∈ q'.history → .runStarted w j ∈ q.history)
    (resolves : ∀ w, .runResolved w ∈ q'.history → .runResolved w ∈ q.history ∨ ψ = .resolved w)
    (holds : ψ.Holds calm q') (own : ∀ v, ψ.writer? = some v → φ.writer? = some v)
    (answers : ∀ w, φ = .resolved w → ψ = .resolved w) (idle : ∀ χ ∈ spawned, χ = .idle) :
    Stepped calm options φ q q' ψ spawned :=
  .grown kept ⟨fun _ a h => ⟨a, writes ▸ h, .refl a⟩, fun _ s h => ⟨s, settles ▸ h, rfl, rfl⟩,
    history, stopped⟩ (fun v => Queue.quiet_of_writes writes (runs v)) resolves holds own answers idle

theorem Stepped.stay (kept : q.Kept calm options) (holds : ψ.Holds calm q)
    (own : ∀ v, ψ.writer? = some v → φ.writer? = some v)
    (answers : ∀ w, φ = .resolved w → ψ = .resolved w) : Stepped calm options φ q q ψ [] :=
  .noted kept rfl rfl id (fun _ => id) (fun _ _ => id) (fun _ => .inl) holds own answers
    fun _ h => nomatch h

/-- A run that was started was enqueued. -/
theorem run_known (kept : q.Kept calm options) {k : Nat} (h : .runStarted w k ∈ q.history) :
    ∃ a, q.writes[w]? = some a := by
  obtain ⟨later, earlier, split⟩ := List.append_of_mem h
  have lawful := kept.lawful
  rw [split] at lawful
  obtain ⟨key, enqueued, -⟩ := (lawful.allowed : RunMay ..).queued
  have mem : .enqueued w key ∈ q.history := by
    rw [split]
    exact List.mem_append_right _ (List.mem_cons_of_mem _ enqueued)
  obtain ⟨a, ha, -⟩ := (kept.enqueued w key).mp mem
  exact ⟨a, ha⟩

theorem Queue.Trying.answers_none (kept : q.Kept calm options) {k : Nat} (h : q.Trying calm w k) :
    ∀ r, .answered w r ∉ q.history := by
  intro r answered
  obtain ⟨a, ha, none, -⟩ := h.pending
  obtain ⟨b, hb, some⟩ := (kept.answered w r).mp answered
  cases Option.some.inj (ha.symm.trans hb)
  cases none.symm.trans some

/-- The next run of a write whose key is clear and whose attempts so far have settled. -/
theorem Queue.Trying.run (kept : q.Kept calm options) {k : Nat} (h : q.Trying calm w k)
    (settled : calm → ∀ j, 0 < j → j < k + 1 → .settleResolved w (some j) ∈ q.history)
    (going : q.stopped = false) (bounded : k + 1 ≤ options.attempts) :
    RunMay calm options q.history w (k + 1) where
  queued := by
    obtain ⟨a, ha, -, clear⟩ := h.pending
    refine ⟨a.key, (kept.enqueued w a.key).mpr ⟨a, ha, rfl⟩, ?_⟩
    intro v hv enqueued
    obtain ⟨b, hb, hk⟩ := (kept.enqueued v a.key).mp enqueued
    obtain ⟨answered, closed⟩ := kept.finished v b hb (clear v hv b hb hk)
    obtain ⟨r, hr⟩ := Option.isSome_iff_exists.mp answered
    exact ⟨⟨r, (kept.answered v r).mpr ⟨b, hb, hr⟩⟩, closed⟩
  own := settled
  going stopped := by
    rw [kept.stopped stopped] at going
    cases going
  pending := h.answers_none kept
  rising j hj := Nat.lt_succ_of_le (h.last j hj)
  positive := Nat.succ_pos k
  bounded := bounded

theorem Stepped.begin (kept : q.Kept calm options) {k : Nat} (trying : q.Trying calm w k)
    (own : φ.writer? = some w) (unresolved : ∀ v, φ ≠ .resolved v)
    (may : RunMay calm options q.history w (k + 1)) :
    Stepped calm options φ q (q.note (.runStarted w (k + 1))) (.running w (k + 1)) [] where
  kept := kept.note rfl rfl rfl rfl rfl trivial may
  extends_ := .same rfl rfl rfl fun _ => List.mem_cons_of_mem _
  quiet v other := by
    refine Queue.quiet_of_writes rfl fun j hj => ?_
    rcases List.mem_cons.mp hj with new | old
    · cases new
      exact absurd own other
    · exact old
  own v hv := by
    cases hv
    exact own
  holds := by
    refine ⟨trying.pending, ?_, fun calm j hj hk => List.mem_cons_of_mem _ (may.own calm j hj hk)⟩
    intro j hj
    rcases List.mem_cons.mp hj with new | old
    · cases new
      exact Nat.le_refl _
    · exact Nat.le_of_lt (may.rising j old)
  apart := distinct_nil
  new _ h := nomatch h
  resolves v h := .inl (by simpa [Queue.note] using h)
  answers v h := absurd h (unresolved v)

theorem Stepped.answer (kept : q.Kept calm options) {a : Write} (at_w : q.writes[w]? = some a)
    (pending : a.outcome = none) (own : φ.writer? = some w) (r : Except WriteError Unit)
    (answers : ∀ v, φ = .resolved v → v = w ∧ r = .ok ()) :
    Stepped calm options φ q (q.answer w r) .idle [] where
  kept := kept.answer at_w pending r
  extends_ := Queue.extends_answer at_w pending r
  quiet v other := Queue.quiet_answer (fun same => other (own.trans (congrArg some same))) q r
  own _ h := nomatch h
  holds := trivial
  apart := distinct_nil
  new _ h := nomatch h
  resolves v h := by
    rw [(Queue.answer_fields q w r).2.2.2.2.2] at h
    exact .inl (by simpa using h)
  answers v h := by
    obtain ⟨rfl, rfl⟩ := answers v h
    rw [(Queue.answer_fields q v (.ok ())).2.2.2.2.2]
    exact .inr List.mem_cons_self

theorem Stepped.startSettle (kept : q.Kept calm options) (attempt : Option Nat)
    (unresolved : ∀ v, φ ≠ .resolved v) (own : ∀ v, ψ.writer? = some v → φ.writer? = some v)
    (holds : ({ q with settles := q.settles ++ [{ write := w, attempt }] } : Queue).Calls
      q.settles.length w attempt →
      q.Extends { q with settles := q.settles ++ [{ write := w, attempt }] } →
      ψ.Holds calm { q with settles := q.settles ++ [{ write := w, attempt }] }) :
    Stepped calm options φ q { q with settles := q.settles ++ [{ write := w, attempt }] } ψ
      [.cleanup q.settles.length] := by
  have grows : q.Extends { q with settles := q.settles ++ [{ write := w, attempt }] } :=
    ⟨fun _ a h => ⟨a, h, .refl a⟩, fun _ s h => ⟨s, Queue.concat_getElem? h, rfl, rfl⟩,
      fun _ => id, id⟩
  have called : ({ q with settles := q.settles ++ [{ write := w, attempt }] } : Queue).Calls
      q.settles.length w attempt := ⟨_, List.getElem?_concat_length, rfl, rfl⟩
  constructor
  · exact kept.startSettle w attempt
  · exact grows
  · exact fun v _ => Queue.quiet_of_writes rfl fun _ => id
  · exact own
  · exact holds called grows
  · exact distinct_of_length_le_one (Nat.le_refl 1)
  · intro χ hχ
    cases List.mem_singleton.mp hχ
    obtain ⟨s, hs, -⟩ := called
    exact ⟨⟨s, hs⟩, nofun⟩
  · exact fun _ h => .inl h
  · exact fun v h => absurd h (unresolved v)

theorem Stepped.enqueue (kept : q.Kept calm options) (key : String) :
    Stepped calm options .idle q (q.enqueue key).2 .idle
      [.queued (q.enqueue key).1 (q.chains.get? key),
        .awaiting (q.enqueue key).1 (q.chains.get? key)] := by
  have absent : q.writes[q.writes.length]? = none := by simp
  have next : (q.enqueue key).2.writes[q.writes.length]? =
      some { key, previous := q.chains.get? key } := by
    obtain ⟨chains, -, -, -, -, -, length⟩ := Queue.supersede_fields q (q.chains.get? key)
    rw [Queue.enqueue_eq, Queue.push_writes, chains, ← length]
    exact List.getElem?_concat_length
  have runs := (Queue.quiet_enqueue q.writes.length q key).runs
  constructor
  · exact kept.enqueue key
  · exact Queue.extends_enqueue q key
  · exact fun v _ => Queue.quiet_enqueue v q key
  · simp
  · trivial
  · intro i j χ χ' v hi hj hv hv'
    rcases i with _ | _ | i <;> rcases j with _ | _ | j <;> simp_all [Phase.writer?]
    all_goals
      subst_vars
      simp_all
  · intro χ hχ
    simp only [List.mem_cons, List.not_mem_nil, or_false] at hχ
    rcases hχ with rfl | rfl
    · refine ⟨⟨⟨_, next, rfl, rfl⟩, ?_⟩, ?_⟩
      · intro j hj
        obtain ⟨a, ha⟩ := run_known kept (runs j hj)
        cases absent.symm.trans ha
      · intro v hv
        cases hv
        exact absent
    · exact ⟨⟨_, next, rfl⟩, by simp [Phase.writer?]⟩
  · intro w h
    left
    rw [Queue.enqueue_eq] at h
    have supersede := (Queue.supersede_fields q (q.chains.get? key)).2.1
    simpa [Queue.push, supersede] using h
  · simp

theorem exec_backend {c : B.Cmd} {ch : Choice B} {a : B.Ans c} {w w' : World B}
    {spawned : List (Req B)} (h : exec (.backend c) ch w = some (a, w', spawned)) :
    w'.queue = w.queue ∧ ∀ χ ∈ spawned.map Phase.begin, χ = .idle := by
  cases ch with
  | go | stop => cases h
  | backend choice =>
    obtain ⟨⟨a', backend, tasks⟩, -, same⟩ := Option.map_eq_some_iff.mp h
    cases same
    refine ⟨rfl, ?_⟩
    intro χ hχ
    obtain ⟨r, hr, rfl⟩ := List.mem_map.mp hχ
    obtain ⟨task, -, rfl⟩ := List.mem_map.mp hr
    rfl

theorem Stepped.backend {c : B.Cmd} {ch : Choice B} {a : B.Ans c} {w w' : World B}
    {spawned : List (Req B)} (kept : w.queue.Kept calm options) (holds : φ.Holds calm w.queue)
    (h : exec (.backend c) ch w = some (a, w', spawned)) :
    Stepped calm options φ w.queue w'.queue φ (spawned.map Phase.begin) := by
  obtain ⟨same, idle⟩ := exec_backend h
  rw [same]
  exact .noted kept rfl rfl id (fun _ => id) (fun _ _ => id) (fun _ => .inl) holds (fun _ => id)
    (fun _ => id) idle

end Step

/-! ## Runs of the queue -/

/-- Calls that come from outside: what `enqueue` leaves behind is started by the queue alone. -/
def Req.entry : Req B → Bool
  | .reported .. | .settled .. | .settle .. => false
  | _ => true

instance (c : Cmd B) : Decidable (∀ id e, c ≠ .finishSettle id (.error e)) :=
  match c with
  | .finishSettle id (.error e) => .isFalse fun h => h id e rfl
  | .finishSettle _ (.ok ()) => .isTrue nofun
  | .enqueue _ | .raceStopped _ | .awaitSettled _ | .awaitReported _ | .awaitSettle _ | .stopped
  | .isSuperseded _ | .beginRun .. | .runResolved _ | .wait _ | .startSettle .. | .answer ..
  | .settle _ | .forget _ | .callConfirm | .allSettled _ | .allReleased | .takeAbandoned _
  | .stopRetrying | .backend _ => .isTrue nofun

/-- Anything goes, but that no `settle` rejects. -/
abbrev settling (B : Backend) (options : DurableWriteQueueOptions) :
    (discipline B options).Terms where
  start _ _ r := r.entry = true
  act _ _ _ _ c _ := ∀ id e, c ≠ .finishSettle id (.error e)
  occur _ _ _ := True

theorem hasSettled_some {q : Queue} {v : WriteId} {a : Write} (at_v : q.writes[v]? = some a)
    (h : q.hasSettled (some v) = true) : a.settled = true := by
  by_contra pending
  simp [Queue.hasSettled, Queue.work, at_v, pending] at h

/-- What each permitted command does to its caller and the queue. -/
theorem stepped_of_permits {φ : Phase} {c : Cmd B} {ch : Choice B} {a : c.Ans} {w w' : World B}
    {spawned : List (Req B)} (may : Phase.Permits options φ c) (holds : φ.Holds calm w.queue)
    (kept : w.queue.Kept calm options) (resolves : calm → ∀ id e, c ≠ .finishSettle id (.error e))
    (h : exec c ch w = some (a, w', spawned)) :
    Stepped calm options φ w.queue w'.queue (φ.after c a) (spawned.map Phase.begin) := by
  cases may with
  | enqueue request =>
    cases h
    exact .enqueue kept request.key
  | stopRetrying =>
    cases h
    exact .noted kept.stop rfl rfl (fun _ => rfl) (fun _ => List.mem_cons_of_mem _)
      (fun v j hj => by simpa [World.on] using hj) (fun v hv => .inl (by simpa [World.on] using hv))
      trivial (fun _ h => h) (by simp) (by simp)
  | allReleased =>
    simp only [exec] at h
    split at h <;> cases h
    exact .stay kept trivial (fun _ h => h) (by simp)
  | task c | run v k c | cleanup id c => exact .backend kept holds h
  | queued v previous =>
    simp only [exec] at h
    have unchanged : w'.queue = w.queue ∧ spawned = [] := by
      split at h
      · split at h <;> cases h
        exact ⟨rfl, rfl⟩
      · obtain ⟨r, -, same⟩ := Option.map_eq_some_iff.mp h
        cases same
        exact ⟨rfl, rfl⟩
    rw [unchanged.1, unchanged.2]
    exact .stay kept holds (fun _ h => h) (by simp)
  | stopped | failing | wait =>
    cases h
    exact .stay kept holds (fun _ h => h) (by simp)
  | yielding v k =>
    obtain ⟨b, hb, none, clear⟩ := Queue.Trying.pending holds
    cases superseded : b.superseded with
    | false =>
      simp only [exec, hb, Option.any_some, superseded] at h
      cases h
      exact .stay kept holds (fun _ h => h) (by simp)
    | true =>
      simp only [exec, hb, Option.any_some, superseded] at h
      cases h
      exact .stay kept ⟨b, hb, none, superseded⟩ (fun _ h => h) (by simp)
  | yieldingAgain v k clean =>
    obtain ⟨b, hb, none, clear⟩ := holds.1.pending
    cases superseded : b.superseded with
    | false =>
      simp only [exec, hb, Option.any_some, superseded] at h
      cases h
      exact .stay kept holds (fun _ h => h) (by simp)
    | true =>
      simp only [exec, hb, Option.any_some, superseded] at h
      cases h
      exact .stay kept ⟨b, hb, none, superseded⟩ (fun _ h => h) (by simp)
  | awaitPrevious v previous =>
    simp only [exec] at h
    split at h <;> cases h
    rename_i settled
    obtain ⟨⟨b, hb, none, rfl⟩, last⟩ := holds
    refine .stay kept ⟨⟨b, hb, none, kept.chained.clear hb settled⟩, last, ?_⟩ (fun _ h => h)
      (by simp)
    intro _ j _ hj
    exact absurd hj (Nat.not_lt_zero j)
  | begin v =>
    simp only [exec] at h
    split at h <;> cases h
    · exact .stay kept holds (fun _ h => h) (by simp)
    · rename_i going
      have one : 0 + 1 ≤ options.attempts := by
        unfold DurableWriteQueueOptions.attempts
        omega
      refine .begin kept holds rfl (by simp) (holds.run kept ?_ (by simpa using going) one)
      intro _ j hj hk
      omega
  | again v k clean left =>
    simp only [exec] at h
    split at h <;> cases h
    · exact .stay kept holds (fun _ h => h) (by simp)
    · rename_i going
      have going : w.queue.stopped = false := by simpa using going
      refine .begin kept holds.1 rfl (by simp) (holds.1.run kept ?_ going left)
      intro calm j hj hk
      cases clean with
      | false => cases going.symm.trans holds.2
      | true =>
        rcases Nat.lt_or_eq_of_le (Nat.le_of_lt_succ hk) with earlier | rfl
        · exact holds.1.settled calm j hj earlier
        · exact holds.2 calm
  | resolve v k =>
    cases h
    obtain ⟨b, hb, none, -⟩ := Queue.Trying.pending holds
    refine .noted (kept.note rfl rfl rfl rfl rfl trivial trivial) rfl rfl id
      (fun _ => List.mem_cons_of_mem _) (fun u j hj => by simpa [World.on, Queue.note] using hj) ?_
      ⟨b, hb, none⟩ (fun _ h => h) (by simp) (by simp)
    intro u hu
    rcases List.mem_cons.mp hu with new | old
    · cases new
      exact .inr rfl
    · exact .inl old
  | settle v k request left =>
    cases h
    exact .startSettle kept _ (by simp) (fun _ h => h) fun called grows =>
      ⟨Queue.Trying.stable grows (Queue.quiet_of_writes rfl fun _ => id) holds, called⟩
  | race v k id =>
    simp only [exec] at h
    obtain ⟨trying, s, hs, rfl, attempt⟩ := holds
    split at h
    · split at h <;> cases h
      rename_i stopped
      exact .stay kept ⟨trying, stopped⟩ (fun _ h => h) (by simp)
    · obtain ⟨r, done, same⟩ := Option.map_eq_some_iff.mp h
      cases same
      simp only [Queue.work, hs, Option.bind_some] at done
      have closed := kept.settles id s hs (by rw [done]; rfl)
      rw [attempt] at closed
      exact .stay kept ⟨trying, closed⟩ (fun _ h => h) (by simp)
  | fail φ v error own unresolved =>
    cases h
    obtain ⟨b, hb, none⟩ := writer_pending holds own
    have idle : φ.after (.answer v (.error error) : Cmd B) () = .idle := by cases φ <;> rfl
    rw [idle]
    exact .answer kept hb none own _ fun u resolved => absurd resolved (unresolved u)
  | succeed v =>
    cases h
    obtain ⟨b, hb, none⟩ := holds
    refine .answer kept hb none rfl _ fun u resolved => ?_
    cases resolved
    exact ⟨rfl, rfl⟩
  | awaiting v previous =>
    simp only [exec] at h
    split at h <;> cases h
    rename_i answered
    obtain ⟨b, hb, hp⟩ := holds
    refine .stay kept ⟨b, hb, hp, ?_⟩ (fun _ h => h) (by simp)
    simpa [Queue.hasAnswered, hb] using answered
  | reported v previous =>
    simp only [exec] at h
    split at h <;> cases h
    rename_i settled
    obtain ⟨b, hb, rfl, answered⟩ := holds
    exact .stay kept ⟨b, hb, answered, kept.chained.clear hb settled⟩ (fun _ h => h) (by simp)
  | close v request =>
    cases h
    exact .startSettle kept _ (by simp) (fun _ h => h) fun called grows =>
      ⟨Queue.Answered.stable grows holds, called⟩
  | closing v id =>
    simp only [exec] at h
    obtain ⟨r, done, same⟩ := Option.map_eq_some_iff.mp h
    cases same
    obtain ⟨answered, s, hs, rfl, attempt⟩ := holds
    simp only [Queue.work, hs, Option.bind_some] at done
    have closed := kept.settles id s hs (by rw [done]; rfl)
    rw [attempt] at closed
    exact .stay kept ⟨answered, closed⟩ (fun _ h => h) (by simp)
  | closed v =>
    cases h
    obtain ⟨⟨b, hb, answered, clear⟩, closed⟩ := holds
    refine .grown (kept.settle hb clear answered closed)
      (Queue.extends_setWrite fun _ _ => ⟨rfl, rfl, fun _ => rfl, id, fun _ => id⟩)
      (fun u => Queue.quiet_setWrite fun _ _ => id) (fun _ => .inl) ?_ (fun _ h => h) (by simp)
      (by simp)
    exact ⟨_, Queue.setWrite_getElem? hb, by rw [if_pos rfl]⟩
  | released v =>
    simp only [exec] at h
    split at h <;> cases h
    exact .stay kept holds (fun _ h => h) (by simp)
  | forget v =>
    cases h
    obtain ⟨b, hb, done⟩ := holds
    exact .noted (kept.forget hb done) rfl rfl id (fun _ => id) (fun _ _ => id) (fun _ => .inl)
      trivial (fun _ h => h) (by simp) (by simp)
  | finish id result =>
    cases h
    obtain ⟨s, hs⟩ := holds
    have succeeds : calm → result = .ok () := by
      intro calm
      cases result with
      | error e => exact absurd rfl (resolves calm id e)
      | ok => rfl
    refine .grown (kept.finishSettle hs succeeds) (Queue.extends_finishSettle _ id _)
      (fun u => Queue.quiet_finishSettle u _ id _) ?_ trivial (fun _ h => h) (by simp)
      (by simp)
    intro u hu
    obtain ⟨-, -, -, -, -, same | ⟨v, attempt, new⟩⟩ :=
      Queue.finishSettle_fields w.queue id result
    · exact .inl (same ▸ hu)
    · simp only [World.on, new] at hu
      exact .inl (by simpa using hu)
  | ask =>
    cases h
    exact .noted (kept.note rfl rfl rfl rfl rfl trivial trivial) rfl rfl id
      (fun _ => List.mem_cons_of_mem _) (fun u j hj => by simpa [World.on] using hj)
      (fun u hu => .inl (by simpa [World.on] using hu)) trivial (fun _ h => h) (by simp)
      (by simp)
  | waiting c outcomes =>
    simp only [exec] at h
    split at h <;> cases h
    exact .stay kept trivial (fun _ h => h) (by simp)
  | counting c outcomes =>
    cases h
    simp only [World.on, Queue.takeAbandoned]
    split <;>
      exact .noted (kept.note rfl rfl rfl rfl rfl trivial trivial) rfl rfl id
        (fun _ => List.mem_cons_of_mem _) (fun u j hj => by simpa [Queue.note] using hj)
        (fun u hu => .inl (by simpa [Queue.note] using hu)) trivial (fun _ h => h) (by simp)
        (by simp)

theorem sound_preserved {t : (discipline B options).Terms}
    (entry : ∀ w φs r, t.start w φs r → r.entry = true)
    (resolves : calm → ∀ w φs i φ c ch, t.act w φs i φ c ch → ∀ id e, c ≠ .finishSettle id (.error e)) :
    (discipline B options).Preserves t (fun _ => True)
      fun w φs => Sound calm options w.queue φs where
  body r _ := ⟨body_unsettled r, follows_body r⟩
  start w φs r inv enters := by
    have enters := entry w φs r enters
    have bare : (Phase.begin r).writer? = none ∧ (Phase.begin r).Holds calm w.queue := by
      cases r <;> first | exact ⟨rfl, trivial⟩ | cases enters
    refine ⟨trivial, inv.kept, distinct_append inv.alone bare.1, ?_, ?_⟩
    · intro φ hφ
      rcases List.mem_append.mp hφ with old | new
      · exact inv.holds φ old
      · cases List.mem_singleton.mp new
        exact bare.2
    · intro v hv
      exact (inv.resolved v hv).imp_right (List.mem_append_left _)
  occur _ _ e := nomatch e
  act w φs i φ c ch a w' spawned inv at_i may allowed h :=
    ⟨trivial, fun _ _ => trivial, inv.step at_i
      (stepped_of_permits may (inv.holds φ (List.mem_of_getElem? at_i)) inv.kept
        (fun calm => resolves calm _ _ _ _ _ _ allowed) h)⟩
  settle w φs i φ r inv at_i _ := by
    have same : φs.set i φ = φs := by
      obtain ⟨within, rfl⟩ := List.getElem?_eq_some_iff.mp at_i
      exact List.set_getElem_self within
    change Sound calm options w.queue (φs.set i φ)
    rw [same]
    exact inv

/-- A process that just started: nothing enqueued, and a backend in any state. -/
def Booted {B : Backend} {options : DurableWriteQueueOptions} (p : Pool (machine B options)) : Prop :=
  p.calls = [] ∧ p.shared.queue = {}

theorem sound_booted {p : Pool (machine B options)} (start : Booted p) :
    (discipline B options).Conforming p ∧
      Sound calm options p.shared.queue ((discipline B options).phases p) := by
  obtain ⟨conf, none⟩ := Discipline.conforming_of_no_calls (D := discipline B options) start.1
  refine ⟨conf, ?_⟩
  rw [none, start.2]
  exact ⟨Queue.kept_empty, distinct_nil, (fun _ h => nomatch h), fun _ h => nomatch h⟩

theorem run_sound {p q : Pool (machine B options)} (start : Booted p)
    (run : Run (settling B options).guard p q) :
    (discipline B options).Conforming q ∧
      Sound True options q.shared.queue ((discipline B options).phases q) := by
  have booted : (discipline B options).Conforming p ∧
      Sound True options p.shared.queue ((discipline B options).phases p) := sound_booted start
  obtain ⟨conf, sound⟩ := booted
  exact Discipline.run_invariant (sound_preserved (fun _ _ _ h => h) fun _ _ _ _ _ _ _ h => h)
    run conf sound

/-! ## The order of runs -/

def Happening.startsRun (w : WriteId) : Happening → Bool
  | .runStarted v _ => v == w
  | _ => false

def Happening.attempt : Happening → Nat
  | .runStarted _ k => k
  | _ => 0

namespace Queue

variable {q : Queue}

theorem Kept.runMay (kept : q.Kept calm options) {later earlier : List Happening} {w : WriteId} {k : Nat}
    (split : q.history = later ++ .runStarted w k :: earlier) : RunMay calm options earlier w k := by
  have lawful := kept.lawful
  rw [split] at lawful
  exact lawful.allowed

/-- Requests are numbered in the order they are enqueued. -/
theorem Kept.enqueued_earlier (kept : q.Kept calm options) {later earlier : List Happening}
    (split : q.history = later ++ earlier) {v w : WriteId} {key key' : String} (lt : v < w)
    (enqueued : .enqueued w key ∈ earlier) (some : .enqueued v key' ∈ q.history) :
    .enqueued v key' ∈ earlier := by
  rw [split] at some
  rcases List.mem_append.mp some with late | early
  · obtain ⟨later', later'', rfl⟩ := List.append_of_mem late
    have lawful := kept.lawful
    rw [split, List.append_assoc, List.cons_append] at lawful
    have below : w < v := (lawful.allowed : May calm options _ (.enqueued v key')) w key
      (List.mem_append_right _ enqueued)
    exact absurd (Nat.lt_trans lt below) (Nat.lt_irrefl _)
  · exact early

/-- Nothing of a write is run once it was answered. -/
theorem Kept.no_run_after (kept : q.Kept calm options) {later earlier : List Happening}
    (split : q.history = later ++ earlier) {v : WriteId} {r : Except WriteError Unit}
    (answered : .answered v r ∈ earlier) (j : Nat) : .runStarted v j ∉ later := by
  intro late
  obtain ⟨later', later'', rfl⟩ := List.append_of_mem late
  rw [List.append_assoc, List.cons_append] at split
  exact (kept.runMay split).pending r (List.mem_append_right _ answered)

theorem Kept.runs_le (kept : q.Kept calm options) (w : WriteId) :
    q.history.countP (Happening.startsRun w) ≤ options.attempts := by
  refine @Lawful.countP_le _ _ _ Happening.attempt _ kept.lawful ?_ _ ?_
  · intro earlier e may starts
    cases e <;> try cases starts
    rename_i v k
    obtain rfl : v = w := by simpa [Happening.startsRun] using starts
    have may : RunMay calm options earlier v k := may
    refine ⟨may.positive, ?_⟩
    intro e' he' starts'
    cases e' <;> try cases starts'
    rename_i u j
    obtain rfl : u = v := by simpa [Happening.startsRun] using starts'
    exact may.rising j he'
  · intro e he starts
    cases e <;> try cases starts
    obtain ⟨later, earlier, split⟩ := List.append_of_mem he
    exact (kept.runMay split).bounded

end Queue

/-- Whatever `run` and `settle` do, while no `settle` rejects: a run starts only when every earlier
request of its key has been answered and has settled, its own earlier attempts have settled and
the queue was not told to stop; no request is run more often than allowed; and a request whose run
resolved is reported resolved. -/
theorem runs_start_in_order {p q : Pool (machine B options)} (start : Booted p)
    (run : Run (settling B options).guard p q) :
    (∀ later w k earlier, q.shared.queue.history = later ++ .runStarted w k :: earlier →
      (∃ key, .enqueued w key ∈ earlier ∧
        ∀ v < w, .enqueued v key ∈ q.shared.queue.history →
          (∃ r, .answered v r ∈ earlier) ∧ .settleResolved v none ∈ earlier ∧
            ∀ j, .runStarted v j ∉ later) ∧
      (∀ j, 0 < j → j < k → .settleResolved w (some j) ∈ earlier) ∧
      .stopped ∉ earlier) ∧
    (∀ w, q.shared.queue.history.countP (Happening.startsRun w) ≤ options.attempts) ∧
    ∀ w, .runResolved w ∈ q.shared.queue.history →
      (∀ e, .answered w (.error e) ∉ q.shared.queue.history) ∧
      (q.Quiescent → .answered w (.ok ()) ∈ q.shared.queue.history) := by
  obtain ⟨conf, sound⟩ := run_sound start run
  have kept := sound.kept
  refine ⟨?_, kept.runs_le, ?_⟩
  · intro later w k earlier split
    have may := kept.runMay split
    obtain ⟨key, enqueued, before⟩ := may.queued
    have split' : q.shared.queue.history = (later ++ [.runStarted w k]) ++ earlier := by
      rw [split, List.append_assoc, List.singleton_append]
    refine ⟨⟨key, enqueued, ?_⟩, may.own trivial, may.going⟩
    intro v hv some
    obtain ⟨⟨r, answered⟩, closed⟩ := before v hv (kept.enqueued_earlier split' hv enqueued some)
    refine ⟨⟨r, answered⟩, closed trivial, fun j late => ?_⟩
    exact kept.no_run_after split' answered j (List.mem_append_left _ late)
  · intro w resolved
    constructor
    · intro e failed
      obtain ⟨a, ha, outcome⟩ := (kept.answered w _).mp failed
      rcases sound.resolved w resolved with done | standing
      · obtain ⟨b, hb, outcome'⟩ := (kept.answered w _).mp done
        cases Option.some.inj (ha.symm.trans hb)
        cases outcome.symm.trans outcome'
      · obtain ⟨b, hb, none⟩ := sound.holds _ standing
        cases Option.some.inj (ha.symm.trans hb)
        cases outcome.symm.trans none
    · intro quiet
      rcases sound.resolved w resolved with done | standing
      · exact done
      · obtain ⟨ψ, r, same, idle⟩ := Discipline.retired_of_quiescent conf quiet standing
        cases same.trans idle

/-! ## A queue over a wire -/

/-- A backend whose `run` sends one command and whose `settle` has nothing to wait for. -/
def wire : Backend where
  Cmd := Unit
  Ans _ := Except RunError Unit
  Shared := Unit
  Choice := Except RunError Unit
  Op := Unit
  Task := Empty
  sync _ := false
  exec _ reply s := some (reply, s, [])
  run _ _ := .op () fun reply =>
    match reply with
    | .ok () => .ret ()
    | .error e => .fail e
  settle _ _ := .ret ()
  task := nofun
  task_waits := nofun

abbrev unused : Pool (machine wire {}) := ⟨{ backend := () }, []⟩

abbrev enqueueing (key : String) : Move (machine wire {}) := .start (.enqueue ⟨key, "write", ()⟩)

abbrev turns (i n : Nat) : List (Move (machine wire {})) := List.replicate n (.run i .go)

abbrev reply (i : Nat) (r : Except RunError Unit) : Move (machine wire {}) := .run i (.backend r)

/-- The first attempt of a write fails, a newer write of its key is enqueued while the second one
is on its way, and both land. -/
abbrev retried : List (Move (machine wire {})) :=
  [enqueueing "a"] ++ turns 0 1 ++ turns 1 4 ++ [reply 1 (.error (.other "lost"))] ++ turns 1 4 ++
    turns 3 1 ++ turns 1 3 ++ [enqueueing "a"] ++ turns 4 1 ++ [reply 1 (.ok ())] ++ turns 1 2 ++
    turns 2 3 ++ turns 7 1 ++ turns 2 4 ++ turns 5 4 ++ [reply 5 (.ok ())] ++ turns 5 2 ++
    turns 6 3 ++ turns 8 1 ++ turns 6 4

theorem runs_start_in_order_retried : ∃ q : Pool (machine wire {}),
    (q.Quiescent ∧ q.shared.queue.history.countP (Happening.startsRun 0) = 2) ∧
    ((∀ later w k earlier, q.shared.queue.history = later ++ .runStarted w k :: earlier →
      (∃ key, .enqueued w key ∈ earlier ∧
        ∀ v < w, .enqueued v key ∈ q.shared.queue.history →
          (∃ r, .answered v r ∈ earlier) ∧ .settleResolved v none ∈ earlier ∧
            ∀ j, .runStarted v j ∉ later) ∧
      (∀ j, 0 < j → j < k → .settleResolved w (some j) ∈ earlier) ∧
      .stopped ∉ earlier) ∧
    (∀ w, q.shared.queue.history.countP (Happening.startsRun w) ≤
      ({} : DurableWriteQueueOptions).attempts) ∧
    ∀ w, .runResolved w ∈ q.shared.queue.history →
      (∀ e, .answered w (.error e) ∉ q.shared.queue.history) ∧
      (q.Quiescent → .answered w (.ok ()) ∈ q.shared.queue.history)) := by
  obtain ⟨q, run, seen⟩ := Pool.replay_spec (settling wire {}).guard unused retried
    (fun q => decide (q.Quiescent ∧ q.shared.queue.history.countP (Happening.startsRun 0) = 2))
    (b := true) (by rfl)
  exact ⟨q, of_decide_eq_true seen, runs_start_in_order ⟨rfl, rfl⟩ run⟩

end BiliSyncPlay.DurableWriteQueue
