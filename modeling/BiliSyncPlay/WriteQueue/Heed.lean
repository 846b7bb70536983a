import BiliSyncPlay.WriteQueue.Confirm

/-!
# Heeding the writes a `confirm` waits for

A `confirm` is right about what it confirms in every run in which no write it waits for gives way
to one enqueued behind its back, and no failure goes unremembered.
-/

namespace BiliSyncPlay.DurableWriteQueue

open Interleave

variable {B : Backend} {options : DurableWriteQueueOptions}

/-- A write a `confirm` waits for gives way only to a newer one it waits for too, a failure is
answered while there is room to remember it, and a `confirm` resolves where no write it looks back at
gave way to one that was reported to an earlier one. -/
def Queue.heeds (q : Queue) (φs : List Phase) : Cmd B → Bool
  | .answer w (.error e) =>
    if e.isSuperseded then φs.all fun φ =>
      match φ with
      | .waiting _ outcomes => !outcomes.contains w || outcomes.any fun v =>
        decide (w < v) && (q.writes[v]?).map Write.key == (q.writes[w]?).map Write.key
      | _ => true
    else q.abandoned.length < MAX_REMEMBERED_FAILURES
  | .takeAbandoned c => !q.abandoned.isEmpty || q.accounts c
  | _ => true

structure Heeded (q : Queue) (φs : List Phase) : Prop where
  answers : Answers q
  knows : ∀ φ ∈ φs, φ.Knows q

section Heeding

variable {q q' : Queue} {φs spawned : List Phase} {i : Nat} {φ ψ : Phase} {calm : Prop}

theorem Heeded.step (h : Heeded q φs) (kept : q.Kept calm options) (answers : Answers q')
    (still : Unanswering q q') (own : ψ.Knows q') (new : ∀ χ ∈ spawned, χ.Knows q') :
    Heeded q' (φs.set i ψ ++ spawned) := by
  refine ⟨answers, ?_⟩
  intro χ hχ
  rcases List.mem_append.mp hχ with old | fresh
  · rcases List.mem_or_eq_of_mem_set old with same | rfl
    · exact (h.knows χ same).stable kept still
    · exact own
  · exact new χ fresh

theorem Heeded.silent (h : Heeded q φs) (kept : q.Kept calm options) (silent : Silent q q')
    (own : ψ.Knows q') (new : ∀ χ ∈ spawned, χ.Knows q') : Heeded q' (φs.set i ψ ++ spawned) :=
  h.step kept (h.answers.silent silent) silent.unanswering own new

/-- What a waiting `confirm` learns of an answer: the write gave way to one it waits for too. -/
theorem heeds_waiting {w : WriteId} {a : Write} {e : WriteError}
    (heeds : q.heeds φs (.answer w (.error e) : Cmd B) = true) (yields : e.isSuperseded = true)
    (at_w : q.writes[w]? = some a) {c : ConfirmId} {outcomes : List WriteId}
    (mem : .waiting c outcomes ∈ φs) (waited : w ∈ outcomes) :
    ∃ v ∈ outcomes, w < v ∧ ∃ b, q.writes[v]? = some b ∧ b.key = a.key := by
  simp only [Queue.heeds, yields, if_true, List.all_eq_true] at heeds
  have here := heeds _ mem
  simp only [Bool.or_eq_true, Bool.not_eq_true', List.any_eq_true, Bool.and_eq_true,
    decide_eq_true_eq, beq_iff_eq] at here
  rcases here with absent | ⟨v, hv, lt, same⟩
  · simp [waited] at absent
  · refine ⟨v, hv, lt, ?_⟩
    rw [at_w, Option.map_some] at same
    exact Option.map_eq_some_iff.mp same

theorem Phase.Knows.answer {w : WriteId} {a : Write} {r : Except WriteError Unit} (h : φ.Knows q)
    (kept : q.Kept calm options) (at_w : q.writes[w]? = some a) (pending : a.outcome = none)
    (mem : φ ∈ φs) (heeds : q.heeds φs (.answer w r : Cmd B) = true) : φ.Knows (q.answer w r) := by
  obtain ⟨-, -, -, -, writes, history⟩ := Queue.answer_fields q w r
  cases φ with
  | waiting c outcomes =>
    obtain ⟨mid, before, split, waited, waits⟩ := h
    refine ⟨.answered w r :: mid, before, by rw [history, split]; rfl, waited, ?_⟩
    intro v key enqueued b' hb'
    obtain ⟨b, hb, rfl⟩ := Queue.getElem?_setWrite (writes ▸ hb')
    obtain ⟨outstanding, yields⟩ := waits v key enqueued b hb
    split
    · rename_i same
      subst same
      cases Option.some.inj (at_w.symm.trans hb)
      refine ⟨.inr rfl, ?_⟩
      intro e failed gives
      cases Option.some.inj failed
      have own : w ∈ outcomes := by
        rcases outstanding with own | answered
        · exact own
        · rw [pending] at answered
          cases answered
      obtain ⟨u, hu, lt, b, hb, hk⟩ := heeds_waiting heeds gives at_w mem own
      obtain ⟨key', enqueued'⟩ := waited u hu
      obtain ⟨b', hb', rfl⟩ := enqueued_known kept split enqueued'
      obtain ⟨a', ha', rfl⟩ := enqueued_known kept split enqueued
      cases Option.some.inj (hb.symm.trans hb')
      cases Option.some.inj (at_w.symm.trans ha')
      exact ⟨u, lt, hk ▸ enqueued'⟩
    · exact ⟨outstanding, yields⟩
  | counting c outcomes =>
    obtain ⟨⟨mid, before, split, waited, waits⟩, answered⟩ := h
    have others : ∀ v b', (q.answer w r).writes[v]? = some b' → (∃ key, .enqueued v key ∈ before) →
        q.writes[v]? = some b' := by
      intro v b' hb' ⟨key, enqueued⟩
      obtain ⟨b, hb, rfl⟩ := Queue.getElem?_setWrite (writes ▸ hb')
      split
      · rename_i same
        subst same
        cases Option.some.inj (at_w.symm.trans hb)
        -- Every write it looked back at was answered by now.
        have already : a.outcome.isSome = true :=
          (waits w key enqueued a at_w).1.elim (fun own => answered w own a at_w) id
        rw [pending] at already
        cases already
      · exact hb
    refine ⟨⟨.answered w r :: mid, before, by rw [history, split]; rfl, waited, ?_⟩, ?_⟩
    · intro v key enqueued b' hb'
      exact waits v key enqueued b' (others v b' hb' ⟨key, enqueued⟩)
    · intro v hv b' hb'
      exact answered v hv b' (others v b' hb' (waited v hv))
  | resolved v =>
    change .runResolved v ∈ (q.answer w r).history
    rw [history]
    exact List.mem_cons_of_mem _ h
  | _ => trivial

/-- An answer, given by the one call that may give it. -/
theorem Heeded.answer (h : Heeded q φs) (kept : q.Kept calm options) {w : WriteId} {a : Write}
    {r : Except WriteError Unit} (at_w : q.writes[w]? = some a) (pending : a.outcome = none)
    (ok : r = .ok () → .runResolved w ∈ q.history)
    (yields : ∀ e, r = .error e → e.isSuperseded = true → a.superseded = true)
    (heeds : q.heeds φs (.answer w r : Cmd B) = true) :
    Heeded (q.answer w r) (φs.set i .idle ++ []) := by
  refine ⟨h.answers.answer at_w ok ?_ yields, ?_⟩
  · intro e failed own
    subst failed
    simpa [Queue.heeds, own] using heeds
  · intro χ hχ
    rw [List.append_nil] at hχ
    rcases List.mem_or_eq_of_mem_set hχ with same | rfl
    · exact (h.knows χ same).answer kept at_w pending same heeds
    · trivial

/-- Each permitted command keeps what is known of answers. -/
theorem Heeded.act (h : Heeded q φs) (sound : Sound calm options q φs) {c : Cmd B} {ch : Choice B}
    {a : c.Ans} {w w' : World B} {spawned : List (Req B)} (here : w.queue = q)
    (at_i : φs[i]? = some φ) (may : Phase.Permits options φ c) (heeds : q.heeds φs c = true)
    (hexec : exec c ch w = some (a, w', spawned)) :
    Heeded w'.queue (φs.set i (φ.after c a) ++ spawned.map Phase.begin) := by
  subst here
  have kept := sound.kept
  have mem : φ ∈ φs := List.mem_of_getElem? at_i
  have holds := sound.holds φ mem
  have knows := h.knows φ mem
  have bare : ∀ {ψ : Phase}, ψ.Knows w.queue → Heeded w.queue (φs.set i ψ ++ []) :=
    fun own => h.silent kept (.refl _) own (by simp)
  cases may with
  | enqueue request =>
    cases hexec
    refine h.step kept (h.answers.enqueue kept request.key) (unanswering_enqueue _ _) trivial ?_
    intro χ hχ
    simp only [List.map_cons, List.map_nil, List.mem_cons, List.not_mem_nil, or_false] at hχ
    rcases hχ with rfl | rfl <;> trivial
  | stopRetrying =>
    cases hexec
    exact h.silent kept (.same rfl rfl rfl rfl (.inr ⟨.stopped, trivial, rfl⟩)) trivial
      (by simp)
  | task | run | cleanup =>
    obtain ⟨same, idle⟩ := exec_backend hexec
    rw [same]
    refine h.silent kept (.refl _) trivial fun χ hχ => ?_
    rw [idle χ hχ]
    trivial
  | allReleased | awaitPrevious | awaiting | reported | released =>
    simp only [exec] at hexec
    split at hexec <;> cases hexec
    exact bare trivial
  | queued | race =>
    simp only [exec] at hexec
    split at hexec
    · split at hexec <;> cases hexec
      exact bare trivial
    · obtain ⟨r, -, same⟩ := Option.map_eq_some_iff.mp hexec
      cases same
      exact bare trivial
  | closing =>
    simp only [exec] at hexec
    obtain ⟨r, -, same⟩ := Option.map_eq_some_iff.mp hexec
    cases same
    exact bare trivial
  | stopped | failing | wait =>
    cases hexec
    exact bare trivial
  | yielding v k =>
    cases hexec
    refine bare ?_
    cases (w.queue.writes[v]?).any Write.superseded <;> trivial
  | yieldingAgain v k clean =>
    cases hexec
    refine bare ?_
    cases (w.queue.writes[v]?).any Write.superseded <;> trivial
  | begin v =>
    simp only [exec] at hexec
    split at hexec <;> cases hexec
    · exact bare trivial
    · exact h.silent kept (.noted (h := .runStarted v 1) trivial _) trivial (by simp)
  | again v k clean =>
    simp only [exec] at hexec
    split at hexec <;> cases hexec
    · exact bare trivial
    · exact h.silent kept (.noted (h := .runStarted v (k + 1)) trivial _) trivial (by simp)
  | resolve v k =>
    cases hexec
    exact h.silent kept (.noted (h := .runResolved v) trivial _) List.mem_cons_self
      (by simp)
  | settle | close =>
    cases hexec
    refine h.silent kept (.same rfl rfl rfl rfl (.inl rfl)) trivial fun χ hχ => ?_
    cases List.mem_singleton.mp hχ
    trivial
  | fail φ v error own unresolved yields =>
    cases hexec
    obtain ⟨b, hb, none⟩ := writer_pending holds own
    rw [show φ.after (.answer v (.error error) : Cmd B) () = .idle by cases φ <;> rfl]
    refine h.answer kept hb none (by simp) ?_ heeds
    intro e same gives
    cases same
    obtain rfl := yields gives
    obtain ⟨b', hb', -, superseded⟩ := holds
    cases Option.some.inj (hb.symm.trans hb')
    exact superseded
  | succeed v =>
    cases hexec
    obtain ⟨b, hb, none⟩ := holds
    exact h.answer kept hb none (fun _ => knows) (by simp) heeds
  | closed v =>
    cases hexec
    exact h.silent kept (.settle _ v) trivial (by simp)
  | forget v =>
    cases hexec
    obtain ⟨b, hb, settled⟩ := holds
    exact h.silent kept (.forget hb (kept.finished v b hb settled).1) trivial (by simp)
  | finish id result =>
    cases hexec
    exact h.silent kept (.finishSettle _ id result) trivial (by simp)
  | ask =>
    cases hexec
    obtain ⟨answers, still, waits⟩ := h.answers.call kept rfl
    exact h.step kept answers still waits (by simp)
  | waiting c outcomes =>
    simp only [exec] at hexec
    split at hexec <;> cases hexec
    rename_i all
    refine bare ⟨knows, ?_⟩
    intro v hv b hb
    have answered := List.all_eq_true.mp all v hv
    simpa [Queue.hasAnswered, hb] using answered
  | counting c outcomes =>
    cases hexec
    obtain ⟨answers, still⟩ := h.answers.take kept knows fun nothing => by
      simpa [Queue.heeds, nothing] using heeds
    exact h.step kept answers still trivial (by simp)

end Heeding

/-- Anything goes, but that every answer is heeded. -/
abbrev heeding (B : Backend) (options : DurableWriteQueueOptions) :
    (discipline B options).Terms where
  start _ _ r := r.entry = true
  act w φs _ _ c _ := w.queue.heeds φs c = true
  occur _ _ _ := True

theorem answers_empty : Answers {} where
  lawful := trivial
  confirms _ h := nomatch h
  written _ _ h := nomatch h
  remembered _ _ _ h := nomatch h
  gaveWay _ _ _ h := nomatch h
  newer _ _ h := nomatch h
  outcomes _ _ h := nomatch h
  known _ h := nomatch h

theorem run_heeded {p q : Pool (machine B options)} (start : Booted p)
    (run : Run (heeding B options).guard p q) : Answers q.shared.queue := by
  have booted : (discipline B options).Conforming p ∧
      Sound False options p.shared.queue ((discipline B options).phases p) := sound_booted start
  obtain ⟨conf, sound⟩ := booted
  have base : (discipline B options).Preserves (heeding B options) (fun _ => True)
      fun w φs => Sound False options w.queue φs := sound_preserved (fun _ _ _ h => h) nofun
  have preserved : (discipline B options).Preserves (heeding B options) (fun _ => True)
      fun w φs => Sound False options w.queue φs ∧ Heeded w.queue φs := {
    body := base.body
    start := by
      intro w φs r inv enters
      obtain ⟨served, sound⟩ := base.start w φs r inv.1 enters
      refine ⟨served, sound, inv.2.answers, ?_⟩
      intro φ hφ
      rcases List.mem_append.mp hφ with old | new
      · exact inv.2.knows φ old
      · cases List.mem_singleton.mp new
        cases r <;> trivial
    occur := fun _ _ e => nomatch e
    act := by
      intro w φs i φ c ch a w' spawned inv at_i may heeds hexec
      obtain ⟨expected, served, sound⟩ := base.act w φs i φ c ch a w' spawned inv.1 at_i may heeds hexec
      exact ⟨expected, served, sound, inv.2.act inv.1 rfl at_i may heeds hexec⟩
    settle := by
      intro w φs i φ r inv at_i ended
      refine ⟨base.settle w φs i φ r inv.1 at_i ended, inv.2.answers, ?_⟩
      intro ψ hψ
      rcases List.mem_or_eq_of_mem_set hψ with same | rfl
      · exact inv.2.knows ψ same
      · exact inv.2.knows ψ (List.mem_of_getElem? at_i) }
  have heeded : Heeded p.shared.queue ((discipline B options).phases p) := by
    obtain ⟨-, none⟩ := Discipline.conforming_of_no_calls (D := discipline B options) start.1
    rw [none, start.2]
    exact ⟨answers_empty, fun _ h => nomatch h⟩
  exact (Discipline.run_invariant preserved run conf ⟨sound, heeded⟩).2.2.answers

/-- In every run in which no write a `confirm` waits for gives way to one it does not wait for, none
it looks back at gave way to one whose failure was reported before, and no failure is answered while
no more are remembered: a `confirm` that resolved found every write enqueued before it covered. -/
theorem confirm_confirms {p q : Pool (machine B options)} (start : Booted p)
    (run : Run (heeding B options).guard p q) : Confirms q.shared.queue.history := by
  intro later c mid before split
  have lawful := (run_heeded start run).lawful
  rw [split] at lawful
  exact (lawful.allowed : MayConfirm _ (.confirmed c)) mid before rfl

/-- The first attempt of a write fails, and a newer one of its key is enqueued. A `confirm` waits for
both: the older one gives way, and the newer one lands. -/
theorem confirm_confirms_landed : ∃ q : Pool (machine wire {}),
    (.runResolved 1 ∈ q.shared.queue.history ∧ .confirmed 0 ∈ q.shared.queue.history ∧
      .answered 0 (.error (.superseded "a" "write")) ∈ q.shared.queue.history) ∧
      Confirms q.shared.queue.history := by
  obtain ⟨q, run, seen⟩ := Pool.replay_spec (heeding wire {}).guard unused
    ([enqueueing "a"] ++ turns 0 1 ++ turns 1 4 ++ [reply 1 (.error (.other "lost"))] ++
      turns 1 2 ++ [enqueueing "a"] ++ turns 3 1 ++ [.start .confirm] ++ turns 6 1 ++ turns 1 2 ++
      turns 7 1 ++ turns 1 3 ++ turns 2 3 ++ turns 8 1 ++ turns 2 2 ++ turns 4 4 ++
      [reply 4 (.ok ())] ++ turns 4 2 ++ turns 6 2)
    (fun q => q.shared.queue.history)
    (b := [.confirmed 0, .answered 1 (.ok ()), .runResolved 1, .runStarted 1 1,
      .settleResolved 0 none, .answered 0 (.error (.superseded "a" "write")),
      .settleResolved 0 (some 1), .confirmCalled 0, .enqueued 1 "a", .runStarted 0 1,
      .enqueued 0 "a"]) (by rfl)
  refine ⟨q, ?_, confirm_confirms ⟨rfl, rfl⟩ run⟩
  rw [seen]
  simp

/-- A write whose first attempt failed gives way to one enqueued after the `confirm` was called,
and the `confirm` resolves before the newer one was ever run. -/
theorem confirm_forgets_newer : ∃ q : Pool (machine wire {}),
    Run (settling wire {}).guard unused q ∧ .stopped ∉ q.shared.queue.history ∧
      ¬ Confirms q.shared.queue.history := by
  obtain ⟨q, run, seen⟩ := Pool.replay_spec (settling wire {}).guard unused
    ([enqueueing "a"] ++ turns 0 1 ++ turns 1 4 ++ [reply 1 (.error (.other "lost"))] ++
      turns 1 2 ++ [.start .confirm] ++ turns 3 1 ++ [enqueueing "a"] ++ turns 4 1 ++ turns 1 2 ++
      turns 7 1 ++ turns 1 3 ++ turns 3 2)
    (fun q => q.shared.queue.history)
    (b := [.confirmed 0, .answered 0 (.error (.superseded "a" "write")),
      .settleResolved 0 (some 1), .enqueued 1 "a", .confirmCalled 0, .runStarted 0 1,
      .enqueued 0 "a"]) (by rfl)
  refine ⟨q, run, ?_, ?_⟩
  · rw [seen]
    simp
  · intro confirms
    rw [seen] at confirms
    have covered := confirms [] 0
      [.answered 0 (.error (.superseded "a" "write")), .settleResolved 0 (some 1), .enqueued 1 "a"]
      [.runStarted 0 1, .enqueued 0 "a"] rfl 0 "a" (by simp)
    rcases covered with ⟨v, -, -, ran⟩ | ⟨c, failures, e, rejected, -⟩
    · simp at ran
    · simp at rejected

end BiliSyncPlay.DurableWriteQueue
