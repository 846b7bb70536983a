import BiliSyncPlay.WriteQueue.Ordering

/-!
# Answers are earned

A write is reported resolved only once a run of it resolved, and superseded only once a newer
write of its key is there. This holds of every run, whatever the backend does.
-/

namespace BiliSyncPlay.DurableWriteQueue

open Interleave

variable {B : Backend} {options : DurableWriteQueueOptions}

/-- What an answer says: a run resolved, or a newer write of the key took over. -/
structure Earned (q : Queue) : Prop where
  written : ∀ (w : WriteId) (a : Write), q.writes[w]? = some a → a.outcome = some (.ok ()) →
    .runResolved w ∈ q.history
  gaveWay : ∀ (w : WriteId) (a : Write) e, q.writes[w]? = some a → a.outcome = some (.error e) →
    e.isSuperseded = true → a.superseded = true
  newer : ∀ (w : WriteId) (a : Write), q.writes[w]? = some a → a.superseded = true →
    ∃ v b, w < v ∧ q.writes[v]? = some b ∧ b.key = a.key

section Steps

variable {q q' : Queue} {calm : Prop}

/-- No write is added, answered or superseded, and nothing that happened is forgotten. -/
structure Plain (q q' : Queue) : Prop where
  writes : ∀ (w : WriteId) (a' : Write), q'.writes[w]? = some a' → ∃ a : Write, q.writes[w]? = some a ∧
    a'.key = a.key ∧ a'.outcome = a.outcome ∧ a'.superseded = a.superseded
  back : ∀ (w : WriteId) (a : Write), q.writes[w]? = some a → ∃ a', q'.writes[w]? = some a' ∧ a'.key = a.key
  history : ∀ e ∈ q.history, e ∈ q'.history

theorem Plain.same (writes : q'.writes = q.writes) (history : ∀ e ∈ q.history, e ∈ q'.history) :
    Plain q q' where
  writes _ a h := ⟨a, writes ▸ h, rfl, rfl, rfl⟩
  back _ a h := ⟨a, writes ▸ h, rfl⟩
  history := history

theorem Earned.plain (h : Earned q) (plain : Plain q q') : Earned q' := by
  constructor
  · intro w a' ha' done
    obtain ⟨a, ha, -, outcome, -⟩ := plain.writes w a' ha'
    exact plain.history _ (h.written w a ha (outcome ▸ done))
  · intro w a' e ha' failed yields
    obtain ⟨a, ha, -, outcome, superseded⟩ := plain.writes w a' ha'
    exact superseded.trans (h.gaveWay w a e ha (outcome ▸ failed) yields)
  · intro w a' ha' gone
    obtain ⟨a, ha, key, -, superseded⟩ := plain.writes w a' ha'
    obtain ⟨v, b, lt, hb, hk⟩ := h.newer w a ha (superseded ▸ gone)
    obtain ⟨b', hb', hk'⟩ := plain.back v b hb
    exact ⟨v, b', lt, hb', hk'.trans (hk.trans key.symm)⟩

/-- A write as `enqueue` leaves it: new, or an old one that may have been superseded. -/
theorem enqueue_write {key : String} {w : WriteId} {a' : Write}
    (h : (q.enqueue key).2.writes[w]? = some a') :
    (w = q.writes.length ∧ a'.key = key ∧ a'.outcome = none ∧ a'.superseded = false) ∨
      ∃ a : Write, q.writes[w]? = some a ∧ a'.key = a.key ∧ a'.outcome = a.outcome ∧
        (a'.superseded = a.superseded ∨ q.chains.get? key = some w) := by
  rw [Queue.enqueue_eq, Queue.push_writes] at h
  rcases Queue.getElem?_concat h with old | ⟨rfl, rfl⟩
  · right
    cases previous : q.chains.get? key with
    | none =>
      rw [previous] at old
      exact ⟨a', old, rfl, rfl, .inl rfl⟩
    | some v =>
      rw [previous] at old
      obtain ⟨a, ha, rfl⟩ := Queue.getElem?_setWrite old
      refine ⟨a, ha, ?_⟩
      split
      · rename_i same
        exact ⟨rfl, rfl, .inr (same ▸ rfl)⟩
      · exact ⟨rfl, rfl, .inl rfl⟩
  · exact .inl ⟨(Queue.supersede_fields q _).2.2.2.2.2.2, rfl, rfl, rfl⟩

theorem enqueue_history (q : Queue) (key : String) :
    (q.enqueue key).2.history = .enqueued q.writes.length key :: q.history := by
  obtain ⟨-, history, -, -, -, -, length⟩ := Queue.supersede_fields q (q.chains.get? key)
  rw [Queue.enqueue_eq, ← length, ← history]
  rfl

theorem enqueue_last (q : Queue) (key : String) :
    ∃ b, (q.enqueue key).2.writes[q.writes.length]? = some b ∧ b.key = key := by
  have length := (Queue.supersede_fields q (q.chains.get? key)).2.2.2.2.2.2
  rw [Queue.enqueue_eq, Queue.push_writes, ← length]
  exact ⟨_, List.getElem?_concat_length, rfl⟩

theorem Earned.enqueue (h : Earned q) (kept : q.Kept calm options) (key : String) :
    Earned (q.enqueue key).2 := by
  have next := (Queue.extends_enqueue q key).writes
  constructor
  · intro w a' ha' done
    rw [enqueue_history]
    rcases enqueue_write ha' with ⟨-, -, none, -⟩ | ⟨a, ha, -, outcome, -⟩
    · cases none.symm.trans done
    · exact List.mem_cons_of_mem _ (h.written w a ha (outcome ▸ done))
  · intro w a' e ha' failed yields
    rcases enqueue_write ha' with ⟨-, -, none, -⟩ | ⟨a, ha, -, outcome, superseded⟩
    · cases none.symm.trans failed
    · obtain ⟨b, hb, grown⟩ := next w a ha
      cases Option.some.inj (ha'.symm.trans hb)
      exact grown.superseded (h.gaveWay w a e ha (outcome ▸ failed) yields)
  · intro w a' ha' gone
    rcases enqueue_write ha' with ⟨-, -, -, fresh⟩ | ⟨a, ha, keys, -, superseded⟩
    · cases fresh.symm.trans gone
    · rcases superseded with same | behind
      · obtain ⟨v, b, lt, hb, hk⟩ := h.newer w a ha (same ▸ gone)
        obtain ⟨b', hb', grown⟩ := next v b hb
        exact ⟨v, b', lt, hb', grown.key.trans (hk.trans keys.symm)⟩
      · obtain ⟨b, hb, hk⟩ := enqueue_last q key
        obtain ⟨a₀, ha₀, hk₀⟩ := kept.chained.chains key w behind
        cases Option.some.inj (ha.symm.trans ha₀)
        exact ⟨q.writes.length, b, (List.getElem?_eq_some_iff.mp ha).1, hb,
          hk.trans (hk₀.symm.trans keys.symm)⟩

/-- A write as `answer` found it. -/
theorem answer_write {w v : WriteId} {r : Except WriteError Unit} {b' : Write}
    (h : (q.answer w r).writes[v]? = some b') :
    ∃ b, q.writes[v]? = some b ∧ b'.key = b.key ∧ b'.superseded = b.superseded ∧
      ((v = w ∧ b'.outcome = some r) ∨ (v ≠ w ∧ b'.outcome = b.outcome)) := by
  rw [(Queue.answer_fields q w r).2.2.2.2.1] at h
  obtain ⟨b, hb, rfl⟩ := Queue.getElem?_setWrite h
  refine ⟨b, hb, ?_⟩
  split
  · rename_i same
    exact ⟨rfl, rfl, .inl ⟨same.symm, rfl⟩⟩
  · rename_i other
    exact ⟨rfl, rfl, .inr ⟨Ne.symm other, rfl⟩⟩

theorem Earned.answer (h : Earned q) {w : WriteId} {a : Write} {r : Except WriteError Unit}
    (at_w : q.writes[w]? = some a) (ok : r = .ok () → .runResolved w ∈ q.history)
    (yields : ∀ e, r = .error e → e.isSuperseded = true → a.superseded = true) :
    Earned (q.answer w r) := by
  obtain ⟨-, -, -, -, writes, history⟩ := Queue.answer_fields q w r
  constructor
  · intro v b' hb' done
    rw [history]
    obtain ⟨b, hb, -, -, ⟨rfl, mine⟩ | ⟨-, same⟩⟩ := answer_write hb'
    · exact List.mem_cons_of_mem _ (ok (Option.some.inj (mine.symm.trans done)))
    · exact List.mem_cons_of_mem _ (h.written v b hb (same ▸ done))
  · intro v b' e hb' failed gone
    obtain ⟨b, hb, -, superseded, ⟨rfl, mine⟩ | ⟨-, same⟩⟩ := answer_write hb'
    · cases Option.some.inj (mine.symm.trans failed)
      cases Option.some.inj (at_w.symm.trans hb)
      exact superseded.trans (yields e rfl gone)
    · exact superseded.trans (h.gaveWay v b e hb (same ▸ failed) gone)
  · intro v b' hb' gone
    obtain ⟨b, hb, key, superseded, -⟩ := answer_write hb'
    obtain ⟨u, c, lt, hc, hk⟩ := h.newer v b hb (superseded ▸ gone)
    refine ⟨u, _, lt, writes ▸ Queue.setWrite_getElem? hc, ?_⟩
    rw [key, ← hk]
    split <;> rfl

theorem Plain.refl (q : Queue) : Plain q q := .same rfl fun _ => id

theorem Plain.settle (q : Queue) (w : WriteId) :
    Plain q (q.setWrite w fun write => { write with settled := true }) where
  writes v a' ha' := by
    obtain ⟨a, ha, rfl⟩ := Queue.getElem?_setWrite ha'
    refine ⟨a, ha, ?_⟩
    split <;> exact ⟨rfl, rfl, rfl⟩
  back v a ha := by
    refine ⟨_, Queue.setWrite_getElem? ha, ?_⟩
    split <;> rfl
  history _ := id

theorem Plain.finishSettle (q : Queue) (id : SettleId) (r : Except RunError Unit) :
    Plain q (q.finishSettle id r) := by
  unfold Queue.finishSettle
  cases q.settles[id]? with
  | none => exact .same rfl fun _ h => h
  | some s =>
    cases r with
    | ok => exact .same rfl fun _ => List.mem_cons_of_mem _
    | error e => exact .same rfl fun _ h => h

theorem Plain.takeAbandoned (q : Queue) (c : ConfirmId) : Plain q (q.takeAbandoned c) := by
  unfold Queue.takeAbandoned
  split <;> exact .same rfl fun _ => List.mem_cons_of_mem _

end Steps

/-- What every interleaving keeps of answers: they are earned, and whoever is about to report a
write resolved saw a run of it resolve. -/
structure Earning (q : Queue) (φs : List Phase) : Prop where
  earned : Earned q
  resolved : ∀ w, .resolved w ∈ φs → .runResolved w ∈ q.history

section Run

variable {q q' : Queue} {φs spawned : List Phase} {i : Nat} {φ ψ : Phase} {calm : Prop}

theorem Earning.step (h : Earning q φs) (mem : φ ∈ φs) (earned : Earned q')
    (history : ∀ e ∈ q.history, e ∈ q'.history)
    (own : ∀ w, ψ = .resolved w → φ = .resolved w ∨ .runResolved w ∈ q'.history)
    (new : ∀ χ ∈ spawned, ∀ w, χ ≠ .resolved w) : Earning q' (φs.set i ψ ++ spawned) := by
  refine ⟨earned, ?_⟩
  intro w hw
  rcases List.mem_append.mp hw with old | fresh
  · rcases List.mem_or_eq_of_mem_set old with same | rfl
    · exact history _ (h.resolved w same)
    · rcases own w rfl with rfl | ran
      · exact history _ (h.resolved w mem)
      · exact ran
  · exact absurd rfl (new _ fresh w)

theorem Earning.plain (h : Earning q φs) (mem : φ ∈ φs) (plain : Plain q q')
    (own : ∀ w, ψ = .resolved w → φ = .resolved w ∨ .runResolved w ∈ q'.history)
    (new : ∀ χ ∈ spawned, ∀ w, χ ≠ .resolved w) : Earning q' (φs.set i ψ ++ spawned) :=
  h.step mem (h.earned.plain plain) plain.history own new

/-- Each permitted command keeps answers earned. -/
theorem Earning.act (h : Earning q φs) (sound : Sound calm options q φs) {c : Cmd B} {ch : Choice B}
    {a : c.Ans} {w w' : World B} {spawned : List (Req B)} (here : w.queue = q)
    (at_i : φs[i]? = some φ) (may : Phase.Permits options φ c)
    (hexec : exec c ch w = some (a, w', spawned)) :
    Earning w'.queue (φs.set i (φ.after c a) ++ spawned.map Phase.begin) := by
  subst here
  have mem : φ ∈ φs := List.mem_of_getElem? at_i
  have holds := sound.holds φ mem
  have bare : ∀ {ψ : Phase}, (∀ w, ψ = .resolved w → φ = .resolved w) →
      Earning w.queue (φs.set i ψ ++ []) :=
    fun own => h.plain mem (.refl _) (fun v hv => .inl (own v hv)) (by simp)
  cases may with
  | enqueue request =>
    cases hexec
    refine h.step mem (h.earned.enqueue sound.kept request.key) ?_ (by rintro _ ⟨⟩) ?_
    · exact (Queue.extends_enqueue w.queue request.key).history
    · intro χ hχ
      simp only [List.map_cons, List.map_nil, List.mem_cons, List.not_mem_nil, or_false] at hχ
      rcases hχ with rfl | rfl <;> rintro _ ⟨⟩
  | stopRetrying =>
    cases hexec
    exact h.plain mem (.same rfl fun _ => List.mem_cons_of_mem _) (by rintro _ ⟨⟩) (by simp)
  | task | run | cleanup =>
    obtain ⟨same, idle⟩ := exec_backend hexec
    rw [same]
    refine h.plain mem (.refl _) (by rintro _ ⟨⟩) fun χ hχ => ?_
    rw [idle χ hχ]
    rintro _ ⟨⟩
  | allReleased | awaitPrevious | awaiting | reported | released | waiting =>
    simp only [exec] at hexec
    split at hexec <;> cases hexec
    exact bare (by rintro _ ⟨⟩)
  | queued | race =>
    simp only [exec] at hexec
    split at hexec
    · split at hexec <;> cases hexec
      exact bare (by rintro _ ⟨⟩)
    · obtain ⟨r, -, same⟩ := Option.map_eq_some_iff.mp hexec
      cases same
      exact bare (by rintro _ ⟨⟩)
  | closing =>
    simp only [exec] at hexec
    obtain ⟨r, -, same⟩ := Option.map_eq_some_iff.mp hexec
    cases same
    exact bare (by rintro _ ⟨⟩)
  | stopped | failing | wait =>
    cases hexec
    exact bare (by rintro _ ⟨⟩)
  | yielding v | yieldingAgain v =>
    cases hexec
    refine bare ?_
    cases (w.queue.writes[v]?).any Write.superseded <;> rintro _ ⟨⟩
  | begin v | again v =>
    simp only [exec] at hexec
    split at hexec <;> cases hexec
    · exact bare (by rintro _ ⟨⟩)
    · exact h.plain mem (.same rfl fun _ => List.mem_cons_of_mem _) (by rintro _ ⟨⟩) (by simp)
  | resolve v k =>
    cases hexec
    refine h.plain mem (.same rfl fun _ => List.mem_cons_of_mem _) ?_ (by simp)
    intro u resolved
    cases resolved
    exact .inr List.mem_cons_self
  | settle | close =>
    cases hexec
    refine h.plain mem (.same rfl fun _ h => h) (by rintro _ ⟨⟩) fun χ hχ => ?_
    cases List.mem_singleton.mp hχ
    rintro _ ⟨⟩
  | fail φ v error own unresolved yields =>
    cases hexec
    obtain ⟨b, hb, none⟩ := writer_pending holds own
    rw [show φ.after (.answer v (.error error) : Cmd B) () = .idle by cases φ <;> rfl]
    refine h.step mem (h.earned.answer hb (by simp) ?_) ?_ (by rintro _ ⟨⟩) (by simp)
    · intro e same gives
      cases same
      obtain rfl := yields gives
      obtain ⟨b', hb', -, superseded⟩ := holds
      cases Option.some.inj (hb.symm.trans hb')
      exact superseded
    · exact (Queue.extends_answer hb none _).history
  | succeed v =>
    cases hexec
    obtain ⟨b, hb, none⟩ := holds
    exact h.step mem (h.earned.answer hb (fun _ => h.resolved v mem) (by rintro _ ⟨⟩))
      (Queue.extends_answer hb none _).history (by rintro _ ⟨⟩) (by simp)
  | closed v =>
    cases hexec
    exact h.plain mem (.settle _ v) (by rintro _ ⟨⟩) (by simp)
  | forget v =>
    cases hexec
    exact h.plain mem (.same rfl fun _ h => h) (by rintro _ ⟨⟩) (by simp)
  | finish id result =>
    cases hexec
    exact h.plain mem (.finishSettle _ id result) (by rintro _ ⟨⟩) (by simp)
  | ask =>
    cases hexec
    exact h.plain mem (.same rfl fun _ => List.mem_cons_of_mem _) (by rintro _ ⟨⟩) (by simp)
  | counting c outcomes =>
    cases hexec
    exact h.plain mem (.takeAbandoned _ c) (by rintro _ ⟨⟩) (by simp)

end Run

theorem setWrite_keys {q : Queue} {w : WriteId} {f : Write → Write} (same : ∀ a, (f a).key = a.key) :
    (q.setWrite w f).writes.map Write.key = q.writes.map Write.key := by
  apply List.ext_getElem?
  intro v
  simp only [Queue.setWrite, List.getElem?_map, List.getElem?_modify]
  cases q.writes[v]? with
  | none => rfl
  | some a =>
    by_cases own : w = v
    · simp [own, same]
    · simp [own]

theorem enqueue_keys (q : Queue) (key : String) :
    (q.enqueue key).2.writes.map Write.key = q.writes.map Write.key ++ [key] := by
  rw [Queue.enqueue_eq, Queue.push_writes, List.map_append]
  cases q.chains.get? key with
  | none => rfl
  | some v =>
    have same : (q.supersede (some v)).writes.map Write.key = q.writes.map Write.key :=
      setWrite_keys fun _ => rfl
    rw [same]
    rfl

/-- A command that does not enqueue and is not the backend's leaves the backend and the keys of
the writes alone. -/
theorem exec_internal {c : Cmd B} {ch : Choice B} {a : c.Ans} {w w' : World B} {spawned : List (Req B)}
    (enqueues : ∀ request, c ≠ .enqueue request) (own : ∀ c', c ≠ .backend c')
    (h : exec c ch w = some (a, w', spawned)) :
    w'.backend = w.backend ∧ w'.queue.writes.map Write.key = w.queue.writes.map Write.key ∧
      (∀ v, .runResolved v ∈ w'.queue.history → c = .runResolved v ∨ .runResolved v ∈ w.queue.history) ∧
      ∀ r ∈ spawned, ∃ id v request, r = .settle id v request := by
  have bare : w' = w → spawned = [] → w'.backend = w.backend ∧
      w'.queue.writes.map Write.key = w.queue.writes.map Write.key ∧
      (∀ v, .runResolved v ∈ w'.queue.history → c = .runResolved v ∨ .runResolved v ∈ w.queue.history) ∧
      ∀ r ∈ spawned, ∃ id v request, r = .settle id v request := by
    rintro rfl rfl
    exact ⟨rfl, rfl, fun _ => .inr, fun _ h => nomatch h⟩
  cases c with
  | enqueue request => exact absurd rfl (enqueues request)
  | backend c' => exact absurd rfl (own c')
  | raceStopped work =>
    simp only [exec] at h
    split at h
    · split at h <;> cases h
      exact bare rfl rfl
    · obtain ⟨r, -, same⟩ := Option.map_eq_some_iff.mp h
      cases same
      exact bare rfl rfl
  | awaitSettle id =>
    obtain ⟨r, -, same⟩ := Option.map_eq_some_iff.mp h
    cases same
    exact bare rfl rfl
  | awaitSettled | awaitReported | allSettled | allReleased =>
    simp only [exec] at h
    split at h <;> cases h
    exact bare rfl rfl
  | stopped | isSuperseded | wait =>
    cases h
    exact bare rfl rfl
  | beginRun v k =>
    simp only [exec] at h
    split at h <;> cases h
    · exact bare rfl rfl
    · exact ⟨rfl, rfl, fun u hu => .inr (by simpa [World.on, Queue.note] using hu), fun _ h => nomatch h⟩
  | runResolved v =>
    cases h
    refine ⟨rfl, rfl, fun u hu => ?_, fun _ h => nomatch h⟩
    rcases List.mem_cons.mp hu with new | old
    · cases new
      exact .inl rfl
    · exact .inr old
  | startSettle v request attempt =>
    cases h
    refine ⟨rfl, rfl, fun u hu => .inr hu, fun r hr => ?_⟩
    cases List.mem_singleton.mp hr
    exact ⟨_, v, request, rfl⟩
  | finishSettle id result =>
    cases h
    obtain ⟨writes, -, -, -, -, history⟩ := Queue.finishSettle_fields w.queue id result
    refine ⟨rfl, by rw [World.on, writes], fun u hu => .inr ?_, fun _ h => nomatch h⟩
    rcases history with same | ⟨v, attempt, new⟩
    · exact same ▸ hu
    · simp only [World.on, new] at hu
      simpa using hu
  | answer v result =>
    cases h
    obtain ⟨-, -, -, -, writes, history⟩ := Queue.answer_fields w.queue v result
    refine ⟨rfl, ?_, fun u hu => .inr ?_, fun _ h => nomatch h⟩
    · rw [World.on, writes]
      exact setWrite_keys fun _ => rfl
    · simp only [World.on, history] at hu
      simpa using hu
  | settle v =>
    cases h
    exact ⟨rfl, setWrite_keys fun _ => rfl, fun _ => .inr, fun _ h => nomatch h⟩
  | forget v =>
    cases h
    exact ⟨rfl, rfl, fun _ => .inr, fun _ h => nomatch h⟩
  | callConfirm | stopRetrying =>
    cases h
    exact ⟨rfl, rfl, fun u hu => .inr (by simpa [World.on] using hu), fun _ h => nomatch h⟩
  | takeAbandoned c =>
    cases h
    refine ⟨rfl, ?_, fun u hu => .inr ?_, fun _ h => nomatch h⟩
    · simp only [World.on, Queue.takeAbandoned]
      split <;> rfl
    · simp only [World.on, Queue.takeAbandoned] at hu
      split at hu <;> simpa [Queue.note] using hu

/-- Anything goes. -/
abbrev unrestricted (B : Backend) (options : DurableWriteQueueOptions) :
    (discipline B options).Terms where
  start _ _ r := r.entry = true
  act _ _ _ _ _ _ := True
  occur _ _ _ := True

/-- In every run answers are earned. -/
theorem run_earned {p q : Pool (machine B options)} (start : Booted p)
    (run : Run (unrestricted B options).guard p q) : Earned q.shared.queue := by
  have booted : (discipline B options).Conforming p ∧
      Sound False options p.shared.queue ((discipline B options).phases p) := sound_booted start
  obtain ⟨conf, sound⟩ := booted
  have base : (discipline B options).Preserves (unrestricted B options) (fun _ => True)
      fun w φs => Sound False options w.queue φs := sound_preserved (fun _ _ _ h => h) nofun
  have preserved : (discipline B options).Preserves (unrestricted B options) (fun _ => True)
      fun w φs => Sound False options w.queue φs ∧ Earning w.queue φs := {
    body := base.body
    start := by
      intro w φs r inv enters
      obtain ⟨served, sound⟩ := base.start w φs r inv.1 enters
      refine ⟨served, sound, inv.2.earned, ?_⟩
      intro v hv
      rcases List.mem_append.mp hv with old | new
      · exact inv.2.resolved v old
      · cases r <;> cases List.mem_singleton.mp new
    occur := fun _ _ e => nomatch e
    act := by
      intro w φs i φ c ch a w' spawned inv at_i may free hexec
      obtain ⟨expected, served, sound⟩ := base.act w φs i φ c ch a w' spawned inv.1 at_i may free hexec
      exact ⟨expected, served, sound, inv.2.act inv.1 rfl at_i may hexec⟩
    settle := by
      intro w φs i φ r inv at_i ended
      refine ⟨base.settle w φs i φ r inv.1 at_i ended, inv.2.earned, ?_⟩
      intro v hv
      rcases List.mem_or_eq_of_mem_set hv with same | rfl
      · exact inv.2.resolved v same
      · cases ended }
  have earning : Earning p.shared.queue ((discipline B options).phases p) := by
    obtain ⟨-, none⟩ := Discipline.conforming_of_no_calls (D := discipline B options) start.1
    rw [none, start.2]
    exact ⟨⟨(fun _ _ h => nomatch h), (fun _ _ _ h => nomatch h), fun _ _ h => nomatch h⟩,
      fun _ h => nomatch h⟩
  exact (Discipline.run_invariant preserved run conf ⟨sound, earning⟩).2.2.earned

end BiliSyncPlay.DurableWriteQueue
