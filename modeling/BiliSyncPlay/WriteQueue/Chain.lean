import BiliSyncPlay.Interleave.Chronicle
import BiliSyncPlay.WriteQueue.Queue

/-!
# What the queue's state keeps

The chain entries of a key lead back through every write that has not released it, and the
history agrees with the state. Each operation of the queue keeps both.
-/

namespace BiliSyncPlay.DurableWriteQueue

open Interleave

/-! ## States that only grow -/

/-- What is known of a write stays known. -/
structure Write.Extends (a a' : Write) : Prop where
  key : a'.key = a.key
  previous : a'.previous = a.previous
  settled : a.settled = true → a'.settled = true
  superseded : a.superseded = true → a'.superseded = true
  outcome : ∀ r, a.outcome = some r → a'.outcome = some r

theorem Write.Extends.refl (a : Write) : a.Extends a :=
  ⟨rfl, rfl, id, id, fun _ => id⟩

/-- When a `run` may start, by what has happened so far. `calm` stands for a queue none of whose
`settle` calls rejects. -/
structure RunMay (calm : Prop) (options : DurableWriteQueueOptions) (earlier : List Happening)
    (w : WriteId) (k : Nat) : Prop where
  queued : ∃ key, .enqueued w key ∈ earlier ∧ ∀ v < w, .enqueued v key ∈ earlier →
    (∃ r, .answered v r ∈ earlier) ∧ (calm → .settleResolved v none ∈ earlier)
  own : calm → ∀ j, 0 < j → j < k → .settleResolved w (some j) ∈ earlier
  going : .stopped ∉ earlier
  pending : ∀ r, .answered w r ∉ earlier
  rising : ∀ j, .runStarted w j ∈ earlier → j < k
  positive : 0 < k
  bounded : k ≤ options.attempts

def May (calm : Prop) (options : DurableWriteQueueOptions) (earlier : List Happening) :
    Happening → Prop
  | .enqueued w _ => ∀ v key, .enqueued v key ∈ earlier → v < w
  | .runStarted w k => RunMay calm options earlier w k
  | _ => True

/-- A happening that neither opens nor answers a write, and is not the stop. -/
def Happening.Plain : Happening → Prop
  | .enqueued .. | .answered .. | .stopped => False
  | _ => True

namespace Queue

structure Extends (q q' : Queue) : Prop where
  writes : ∀ (w : WriteId) (a : Write), q.writes[w]? = some a → ∃ a', q'.writes[w]? = some a' ∧ a.Extends a'
  settles : ∀ (id : SettleId) (s : Settle), q.settles[id]? = some s →
    ∃ s', q'.settles[id]? = some s' ∧ s'.write = s.write ∧ s'.attempt = s.attempt
  history : ∀ h ∈ q.history, h ∈ q'.history
  stopped : q.stopped = true → q'.stopped = true

/-- Nothing happened to a write: it was not answered, and no `run` of it was started. -/
structure Quiet (w : WriteId) (q q' : Queue) : Prop where
  pending : ∀ a a' : Write, q.writes[w]? = some a → q'.writes[w]? = some a' → a.outcome = none →
    a'.outcome = none
  runs : ∀ j, .runStarted w j ∈ q'.history → .runStarted w j ∈ q.history

variable {a : Write} {f : Write → Write} {q q' : Queue} {v w : WriteId}

theorem Extends.same (writes : q'.writes = q.writes) (settles : q'.settles = q.settles)
    (stopped : q'.stopped = q.stopped) (history : ∀ h ∈ q.history, h ∈ q'.history) :
    q.Extends q' where
  writes _ a h := ⟨a, writes ▸ h, .refl a⟩
  settles _ s h := ⟨s, settles ▸ h, rfl, rfl⟩
  history := history
  stopped h := stopped ▸ h

theorem extends_refl (q : Queue) : q.Extends q := .same rfl rfl rfl fun _ => id

theorem quiet_of_writes (writes : q'.writes = q.writes)
    (runs : ∀ j, .runStarted w j ∈ q'.history → .runStarted w j ∈ q.history) : Quiet w q q' where
  pending a a' h h' none := by
    rw [writes] at h'
    cases Option.some.inj (h.symm.trans h')
    exact none
  runs := runs

theorem quiet_refl (w : WriteId) (q : Queue) : Quiet w q q := quiet_of_writes rfl fun _ => id

/-- A write, as the list of writes holds it after one of them changed. -/
theorem getElem?_setWrite {a' : Write} (h : (q.setWrite w f).writes[v]? = some a') :
    ∃ a, q.writes[v]? = some a ∧ a' = if w = v then f a else a := by
  simp only [setWrite, List.getElem?_modify, Option.map_eq_map, Option.map_eq_some_iff] at h
  obtain ⟨a, ha, rfl⟩ := h
  exact ⟨a, ha, rfl⟩

theorem setWrite_getElem? (h : q.writes[v]? = some a) :
    (q.setWrite w f).writes[v]? = some (if w = v then f a else a) := by
  simp only [setWrite, List.getElem?_modify, h, Option.map_eq_map, Option.map_some]

/-- Changing a write shows only in what the change does not keep. -/
theorem exists_setWrite {P : Write → Prop} (keeps : ∀ a, P (f a) ↔ P a) :
    (∃ a, (q.setWrite w f).writes[v]? = some a ∧ P a) ↔ ∃ a, q.writes[v]? = some a ∧ P a := by
  constructor
  · rintro ⟨a', ha', h⟩
    obtain ⟨a, ha, rfl⟩ := getElem?_setWrite ha'
    refine ⟨a, ha, ?_⟩
    split at h
    · exact (keeps a).mp h
    · exact h
  · rintro ⟨a, ha, h⟩
    refine ⟨_, setWrite_getElem? ha, ?_⟩
    split
    · exact (keeps a).mpr h
    · exact h

theorem extends_trans {q'' : Queue} (h : q.Extends q') (h' : q'.Extends q'') :
    q.Extends q'' where
  writes w a ha := by
    obtain ⟨b, hb, grown⟩ := h.writes w a ha
    obtain ⟨c, hc, grown'⟩ := h'.writes w b hb
    exact ⟨c, hc, grown'.key.trans grown.key, grown'.previous.trans grown.previous,
      fun d => grown'.settled (grown.settled d), fun d => grown'.superseded (grown.superseded d),
      fun r d => grown'.outcome r (grown.outcome r d)⟩
  settles id s hs := by
    obtain ⟨s', hs', write, attempt⟩ := h.settles id s hs
    obtain ⟨s'', hs'', write', attempt'⟩ := h'.settles id s' hs'
    exact ⟨s'', hs'', write'.trans write, attempt'.trans attempt⟩
  history e he := h'.history e (h.history e he)
  stopped hs := h'.stopped (h.stopped hs)

theorem extends_setWrite (grows : ∀ a, q.writes[w]? = some a → a.Extends (f a)) :
    q.Extends (q.setWrite w f) where
  writes v a ha := by
    refine ⟨_, setWrite_getElem? ha, ?_⟩
    split
    · rename_i same
      subst same
      exact grows a ha
    · exact .refl a
  settles _ s hs := ⟨s, hs, rfl, rfl⟩
  history _ := id
  stopped := id

theorem quiet_setWrite (keeps : w = v → ∀ a, a.outcome = none → (f a).outcome = none) :
    Quiet v q (q.setWrite w f) where
  pending a a' ha ha' none := by
    obtain ⟨b, hb, rfl⟩ := getElem?_setWrite ha'
    cases Option.some.inj (ha.symm.trans hb)
    split
    · rename_i same
      exact keeps same a none
    · exact none
  runs _ := id

/-! ## Chains -/

/-- Every earlier write of the key has released it. -/
def SettledBefore (q : Queue) (w : WriteId) (key : String) : Prop :=
  ∀ v < w, ∀ a : Write, q.writes[v]? = some a → a.key = key → a.settled = true

theorem SettledBefore.extends {key : String} (ext : q.Extends q') (at_w : q.writes[w]? = some a)
    (h : q.SettledBefore w key) :
    q'.SettledBefore w key := by
  intro v hv a' ha' hkey
  have within : v < q.writes.length :=
    Nat.lt_trans hv (List.getElem?_eq_some_iff.mp at_w).1
  obtain ⟨b, hb, grown⟩ := ext.writes v _ (List.getElem?_eq_getElem within)
  cases Option.some.inj (hb.symm.trans ha')
  exact grown.settled (h v hv _ (List.getElem?_eq_getElem within) (grown.key ▸ hkey))

/-- A key's entry leads back through all its writes. -/
structure Chained (q : Queue) : Prop where
  chains : ∀ key v, q.chains.get? key = some v → ∃ a : Write, q.writes[v]? = some a ∧ a.key = key
  previous : ∀ (w : WriteId) (b : Write) u, q.writes[w]? = some b → b.previous = some u →
    ∃ a : Write, q.writes[u]? = some a ∧ a.key = b.key
  latest : ∀ (v : WriteId) (a : Write), q.writes[v]? = some a → a.settled = true ∨
    ∃ u, q.chains.get? a.key = some u ∧ v ≤ u
  behind : ∀ (w : WriteId) (b : Write), q.writes[w]? = some b → ∀ v < w, ∀ a : Write,
    q.writes[v]? = some a → a.key = b.key →
    a.settled = true ∨ ∃ u, b.previous = some u ∧ v ≤ u
  settled : ∀ (w : WriteId) (b : Write), q.writes[w]? = some b → b.settled = true → q.SettledBefore w b.key

/-- Once the previous entry has settled, the key is clear. -/
theorem Chained.clear (h : q.Chained) {b : Write} (at_w : q.writes[w]? = some b)
    (ready : q.hasSettled b.previous = true) :
    q.SettledBefore w b.key := by
  intro v hv a ha hkey
  rcases h.behind w b at_w v hv a ha hkey with done | ⟨u, hu, le⟩
  · exact done
  · obtain ⟨c, hc, hck⟩ := h.previous w b u at_w hu
    have settled : c.settled = true := by
      by_contra pending
      simp [hasSettled, work, hu, hc, pending] at ready
    rcases Nat.lt_or_eq_of_le le with lt | rfl
    · exact h.settled u c hc settled v lt a ha (hkey.trans hck.symm)
    · cases Option.some.inj (hc.symm.trans ha)
      exact settled

/-- Chains are about keys, links and releases only. -/
theorem Chained.congr (h : q.Chained) (chains : q'.chains = q.chains)
    (forth : ∀ (w : WriteId) (a : Write), q.writes[w]? = some a → ∃ a', q'.writes[w]? = some a' ∧ a'.key = a.key)
    (back : ∀ (w : WriteId) (a' : Write), q'.writes[w]? = some a' → ∃ a, q.writes[w]? = some a ∧ a'.key = a.key ∧
      a'.previous = a.previous ∧ a'.settled = a.settled) : q'.Chained where
  chains key v hv := by
    obtain ⟨a, ha, hk⟩ := h.chains key v (chains ▸ hv)
    obtain ⟨a', ha', hk'⟩ := forth v a ha
    exact ⟨a', ha', hk'.trans hk⟩
  previous w b' u hb' hu := by
    obtain ⟨b, hb, hk, hp, -⟩ := back w b' hb'
    obtain ⟨a, ha, hka⟩ := h.previous w b u hb (hp ▸ hu)
    obtain ⟨a', ha', hk'⟩ := forth u a ha
    exact ⟨a', ha', hk'.trans (hka.trans hk.symm)⟩
  latest v a' ha' := by
    obtain ⟨a, ha, hk, -, hs⟩ := back v a' ha'
    rw [hk, hs, chains]
    exact h.latest v a ha
  behind w b' hb' v hv a' ha' hkey := by
    obtain ⟨b, hb, hkb, hp, -⟩ := back w b' hb'
    obtain ⟨a, ha, hka, -, hs⟩ := back v a' ha'
    rw [hs, hp]
    exact h.behind w b hb v hv a ha (hka ▸ hkb ▸ hkey)
  settled w b' hb' done v hv a' ha' hkey := by
    obtain ⟨b, hb, hkb, -, hsb⟩ := back w b' hb'
    obtain ⟨a, ha, hka, -, hsa⟩ := back v a' ha'
    rw [hsa]
    exact h.settled w b hb (hsb ▸ done) v hv a ha (hka ▸ hkb ▸ hkey)

theorem Chained.same (h : q.Chained) (chains : q'.chains = q.chains) (writes : q'.writes = q.writes) :
    q'.Chained :=
  h.congr chains (fun _ a ha => ⟨a, writes ▸ ha, rfl⟩)
    fun _ a ha => ⟨a, writes ▸ ha, rfl, rfl, rfl⟩

theorem Chained.setWrite (h : q.Chained)
    (keeps : ∀ a, (f a).key = a.key ∧ (f a).previous = a.previous ∧ (f a).settled = a.settled) :
    (q.setWrite w f).Chained := by
  have chains : (q.setWrite w f).chains = q.chains := rfl
  apply h.congr chains
  · intro v a ha
    refine ⟨_, setWrite_getElem? ha, ?_⟩
    split
    · exact (keeps a).1
    · rfl
  · intro v a' ha'
    obtain ⟨a, ha, rfl⟩ := getElem?_setWrite ha'
    refine ⟨a, ha, ?_⟩
    split
    · exact keeps a
    · exact ⟨rfl, rfl, rfl⟩

theorem Chained.supersede (h : q.Chained) (previous : Option WriteId) :
    (q.supersede previous).Chained := by
  cases previous with
  | none => exact h
  | some v => exact h.setWrite fun _ => ⟨rfl, rfl, rfl⟩

theorem Chained.settle (h : q.Chained) {b : Write} (at_w : q.writes[w]? = some b)
    (clear : q.SettledBefore w b.key) :
    (q.setWrite w fun a => { a with settled := true }).Chained := by
  have back : ∀ (v : WriteId) (a' : Write), (q.setWrite w fun a => { a with settled := true }).writes[v]? = some a' →
      ∃ a, q.writes[v]? = some a ∧ a'.key = a.key ∧ a'.previous = a.previous ∧
        (a.settled = true → a'.settled = true) ∧ (a'.settled = true → v ≠ w → a.settled = true) := by
    intro v a' ha'
    obtain ⟨a, ha, rfl⟩ := getElem?_setWrite ha'
    refine ⟨a, ha, ?_⟩
    split
    · rename_i same
      exact ⟨rfl, rfl, fun _ => rfl, fun _ other => absurd same.symm other⟩
    · exact ⟨rfl, rfl, id, fun done _ => done⟩
  have forth : ∀ (v : WriteId) (a : Write), q.writes[v]? = some a →
      ∃ a', (q.setWrite w fun a => { a with settled := true }).writes[v]? = some a' ∧
        a'.key = a.key := by
    intro v a ha
    refine ⟨_, setWrite_getElem? ha, ?_⟩
    split <;> rfl
  constructor
  · intro key v hv
    obtain ⟨a, ha, hk⟩ := h.chains key v hv
    obtain ⟨a', ha', hk'⟩ := forth v a ha
    exact ⟨a', ha', hk'.trans hk⟩
  · intro v b' u hb' hu
    obtain ⟨b, hb, hk, hp, -⟩ := back v b' hb'
    obtain ⟨a, ha, hka⟩ := h.previous v b u hb (hp ▸ hu)
    obtain ⟨a', ha', hk'⟩ := forth u a ha
    exact ⟨a', ha', hk'.trans (hka.trans hk.symm)⟩
  · intro v a' ha'
    obtain ⟨a, ha, hk, -, up, -⟩ := back v a' ha'
    rw [hk]
    exact (h.latest v a ha).imp_left up
  · intro u c' hc' v hv a' ha' hkey
    obtain ⟨c, hc, hkc, hp, -⟩ := back u c' hc'
    obtain ⟨a, ha, hka, -, up, -⟩ := back v a' ha'
    rw [hp]
    exact (h.behind u c hc v hv a ha (hka ▸ hkc ▸ hkey)).imp_left up
  · intro u c' hc' done v hv a' ha' hkey
    obtain ⟨c, hc, hkc, -, -, down⟩ := back u c' hc'
    obtain ⟨a, ha, hka, -, up, -⟩ := back v a' ha'
    apply up
    by_cases same : u = w
    · subst same
      cases Option.some.inj (at_w.symm.trans hc)
      exact clear v hv a ha (hka ▸ hkc ▸ hkey)
    · exact h.settled u c hc (down done same) v hv a ha (hka ▸ hkc ▸ hkey)

theorem Chained.forget (h : q.Chained) {b : Write} (at_w : q.writes[w]? = some b)
    (done : b.settled = true) : (q.forget w).Chained := by
  refine ⟨?_, h.previous, ?_, h.behind, h.settled⟩
  · intro key v hv
    apply h.chains key v
    simp only [Queue.forget] at hv
    split at hv
    · by_cases same : key = ((q.writes[w]?).map Write.key).getD ""
      · rw [same, JsMap.get?_delete_self] at hv
        cases hv
      · rwa [JsMap.get?_delete_ne _ (Ne.symm same)] at hv
    · exact hv
  · intro v a ha
    rcases h.latest v a ha with settled | ⟨u, hu, le⟩
    · exact .inl settled
    · simp only [Queue.forget, at_w, Option.map_some, Option.getD_some]
      split
      · rename_i entry
        by_cases same : a.key = b.key
        · left
          rw [same, entry] at hu
          cases hu
          rcases Nat.lt_or_eq_of_le le with lt | rfl
          · exact h.settled w b at_w done v lt a ha same
          · cases Option.some.inj (at_w.symm.trans ha)
            exact done
        · right
          exact ⟨u, by rwa [JsMap.get?_delete_ne _ (Ne.symm same)], le⟩
      · exact .inr ⟨u, hu, le⟩

theorem getElem?_concat {α : Type} {l : List α} {a b : α} {v : Nat}
    (h : (l ++ [a])[v]? = some b) : l[v]? = some b ∨ (v = l.length ∧ b = a) := by
  rcases Nat.lt_or_ge v l.length with old | new
  · exact .inl (by rwa [List.getElem?_append_left old] at h)
  · rw [List.getElem?_append_right new] at h
    have zero : v - l.length = 0 := by
      have := (List.getElem?_eq_some_iff.mp h).1
      simp only [List.length_singleton] at this
      omega
    rw [zero] at h
    exact .inr ⟨by omega, (Option.some.inj h).symm⟩

theorem concat_getElem? {α : Type} {l : List α} {a b : α} {v : Nat} (h : l[v]? = some b) :
    (l ++ [a])[v]? = some b := by
  rwa [List.getElem?_append_left (List.getElem?_eq_some_iff.mp h).1]

theorem supersede_fields (q : Queue) (previous : Option WriteId) :
    (q.supersede previous).chains = q.chains ∧ (q.supersede previous).history = q.history ∧
      (q.supersede previous).settles = q.settles ∧ (q.supersede previous).stopped = q.stopped ∧
      (q.supersede previous).outcomes = q.outcomes ∧
      (q.supersede previous).abandoned = q.abandoned ∧
      (q.supersede previous).writes.length = q.writes.length := by
  cases previous with
  | none => exact ⟨rfl, rfl, rfl, rfl, rfl, rfl, rfl⟩
  | some v => exact ⟨rfl, rfl, rfl, rfl, rfl, rfl, by simp [supersede, setWrite]⟩

/-- `enqueue`, once the previous write is superseded. -/
def push (q : Queue) (key : String) : Queue :=
  { q with
    chains := q.chains.set key q.writes.length
    writes := q.writes ++ [{ key, previous := q.chains.get? key }]
    outcomes := q.outcomes ++ [q.writes.length]
    released := q.released ++ [q.writes.length]
    history := .enqueued q.writes.length key :: q.history }

theorem push_chains (q : Queue) (key : String) :
    (q.push key).chains = q.chains.set key q.writes.length := rfl

theorem push_writes (q : Queue) (key : String) :
    (q.push key).writes = q.writes ++ [{ key, previous := q.chains.get? key }] := rfl

theorem enqueue_eq (q : Queue) (key : String) :
    (q.enqueue key).2 = (q.supersede (q.chains.get? key)).push key := by
  obtain ⟨chains, -, -, -, -, -, length⟩ := supersede_fields q (q.chains.get? key)
  simp only [enqueue, push, chains, length]

theorem extends_push (q : Queue) (key : String) : q.Extends (q.push key) where
  writes _ a ha := ⟨a, concat_getElem? ha, .refl a⟩
  settles _ s hs := ⟨s, hs, rfl, rfl⟩
  history _ := List.mem_cons_of_mem _
  stopped := id

theorem extends_enqueue (q : Queue) (key : String) : q.Extends (q.enqueue key).2 := by
  rw [enqueue_eq]
  refine extends_trans ?_ (extends_push _ key)
  cases q.chains.get? key with
  | none => exact extends_refl q
  | some v => exact extends_setWrite fun _ _ => ⟨rfl, rfl, id, fun _ => rfl, fun _ => id⟩

theorem quiet_enqueue (v : WriteId) (q : Queue) (key : String) : Quiet v q (q.enqueue key).2 := by
  have superseded : Quiet v q (q.supersede (q.chains.get? key)) := by
    cases q.chains.get? key with
    | none => exact quiet_refl v q
    | some u => exact quiet_setWrite fun _ _ => id
  have grown : q.Extends (q.supersede (q.chains.get? key)) := by
    cases q.chains.get? key with
    | none => exact extends_refl q
    | some u => exact extends_setWrite fun _ _ => ⟨rfl, rfl, id, fun _ => rfl, fun _ => id⟩
  rw [enqueue_eq]
  constructor
  · intro a a' ha ha' none
    obtain ⟨b, hb, -⟩ := grown.writes v a ha
    have kept := superseded.pending a b ha hb none
    cases Option.some.inj (ha'.symm.trans (concat_getElem? hb))
    exact kept
  · intro j hj
    exact superseded.runs j (by simpa [push] using hj)

theorem Chained.push (h : q.Chained) (key : String) : (q.push key).Chained := by
  have within : ∀ {v : WriteId} {a : Write}, q.writes[v]? = some a → v < q.writes.length :=
    fun ha => (List.getElem?_eq_some_iff.mp ha).1
  constructor
  · intro k v hv
    by_cases same : key = k
    · subst same
      rw [push_chains, JsMap.get?_set_self] at hv
      cases hv
      exact ⟨_, List.getElem?_concat_length, rfl⟩
    · rw [push_chains, JsMap.get?_set_ne _ _ same] at hv
      obtain ⟨a, ha, hk⟩ := h.chains k v hv
      exact ⟨a, concat_getElem? ha, hk⟩
  · intro w b u hb hu
    rcases getElem?_concat hb with old | ⟨-, rfl⟩
    · obtain ⟨a, ha, hk⟩ := h.previous w b u old hu
      exact ⟨a, concat_getElem? ha, hk⟩
    · obtain ⟨a, ha, hk⟩ := h.chains key u hu
      exact ⟨a, concat_getElem? ha, hk⟩
  · intro v a ha
    rcases getElem?_concat ha with old | ⟨rfl, rfl⟩
    · by_cases same : key = a.key
      · exact .inr ⟨q.writes.length, by rw [push_chains, ← same, JsMap.get?_set_self],
          Nat.le_of_lt (within old)⟩
      · rcases h.latest v a old with done | ⟨u, hu, le⟩
        · exact .inl done
        · exact .inr ⟨u, by rwa [push_chains, JsMap.get?_set_ne _ _ same], le⟩
    · exact .inr ⟨_, JsMap.get?_set_self .., Nat.le_refl _⟩
  · intro w b hb v hv a ha hkey
    have first : q.writes[v]? = some a := by
      rcases getElem?_concat ha with old | ⟨rfl, -⟩
      · exact old
      · have := (List.getElem?_eq_some_iff.mp hb).1
        rw [push_writes, List.length_append, List.length_singleton] at this
        exact absurd (Nat.lt_of_lt_of_le hv (Nat.le_of_lt_succ this)) (Nat.lt_irrefl _)
    rcases getElem?_concat hb with old | ⟨rfl, rfl⟩
    · exact h.behind w b old v hv a first hkey
    · rw [← show a.key = key from hkey]
      exact h.latest v a first
  · intro w b hb done v hv a ha hkey
    rcases getElem?_concat hb with old | ⟨rfl, rfl⟩
    · rcases getElem?_concat ha with first | ⟨rfl, -⟩
      · exact h.settled w b old done v hv a first hkey
      · exact absurd (Nat.lt_trans hv (within old)) (Nat.lt_irrefl _)
    · cases done

/-! ## The history -/

/-- The state and the history agree, and the history is lawful. -/
structure Kept (calm : Prop) (options : DurableWriteQueueOptions) (q : Queue) : Prop where
  chained : q.Chained
  enqueued : ∀ w key, .enqueued w key ∈ q.history ↔ ∃ a, q.writes[w]? = some a ∧ a.key = key
  answered : ∀ w r, .answered w r ∈ q.history ↔ ∃ a, q.writes[w]? = some a ∧ a.outcome = some r
  finished : ∀ (w : WriteId) a, q.writes[w]? = some a → a.settled = true →
    a.outcome.isSome = true ∧ (calm → .settleResolved w none ∈ q.history)
  settles : ∀ (id : SettleId) s, q.settles[id]? = some s → s.result.isSome = true → calm →
    .settleResolved s.write s.attempt ∈ q.history
  stopped : .stopped ∈ q.history → q.stopped = true
  lawful : Lawful (May calm options) q.history

variable {calm : Prop} {options : DurableWriteQueueOptions}

theorem kept_empty : ({} : Queue).Kept calm options where
  chained := by
    refine ⟨(fun _ _ h => nomatch h), (fun _ _ _ h => nomatch h), ?_, ?_, ?_⟩
    all_goals exact fun _ _ h => nomatch h
  enqueued w key := by simp
  answered w r := by simp
  finished w a h := by cases h
  settles id s h := by cases h
  stopped h := by cases h
  lawful := trivial

section
variable (kept : q.Kept calm options)
include kept

/-- Nothing but the history changes, by a happening that was allowed. -/
theorem Kept.note {h : Happening} (writes : q'.writes = q.writes) (chains : q'.chains = q.chains)
    (settles : q'.settles = q.settles) (stopped : q'.stopped = q.stopped)
    (history : q'.history = h :: q.history) (plain : h.Plain) (may : May calm options q.history h) :
    q'.Kept calm options where
  chained := kept.chained.same chains writes
  enqueued w key := by
    rw [history, writes, ← kept.enqueued]
    cases h <;> first | (simp; done) | exact False.elim plain
  answered w r := by
    rw [history, writes, ← kept.answered]
    cases h <;> first | (simp; done) | exact False.elim plain
  finished w a ha done := by
    rw [history]
    obtain ⟨answered, closed⟩ := kept.finished w a (writes ▸ ha) done
    exact ⟨answered, fun calm => List.mem_cons_of_mem _ (closed calm)⟩
  settles id s hs done calm := by
    rw [history]
    exact List.mem_cons_of_mem _ (kept.settles id s (settles ▸ hs) done calm)
  stopped hs := by
    rw [stopped]
    apply kept.stopped
    rw [history] at hs
    cases h <;> first | (simpa using hs) | exact False.elim plain
  lawful := by
    rw [history]
    exact ⟨may, kept.lawful⟩

/-- Nothing changes that the history speaks of. -/
theorem Kept.same (writes : q'.writes = q.writes) (chained : q'.Chained)
    (settles : q'.settles = q.settles) (stopped : q'.stopped = q.stopped)
    (history : q'.history = q.history) : q'.Kept calm options where
  chained := chained
  enqueued w key := by rw [history, writes]; exact kept.enqueued w key
  answered w r := by rw [history, writes]; exact kept.answered w r
  finished w a ha done := by rw [history]; exact kept.finished w a (writes ▸ ha) done
  settles id s hs done := by rw [history]; exact kept.settles id s (settles ▸ hs) done
  stopped hs := by rw [stopped]; exact kept.stopped (history ▸ hs)
  lawful := by rw [history]; exact kept.lawful

theorem Kept.stop :
    ({ q with stopped := true, history := .stopped :: q.history } : Queue).Kept calm options where
  chained := kept.chained.same rfl rfl
  enqueued w key := by simp [kept.enqueued]
  answered w r := by simp [kept.answered]
  finished w a ha done :=
    (kept.finished w a ha done).imp_right fun closed calm => List.mem_cons_of_mem _ (closed calm)
  settles id s hs done calm := List.mem_cons_of_mem _ (kept.settles id s hs done calm)
  stopped _ := rfl
  lawful := ⟨trivial, kept.lawful⟩

/-- Writes are changed in what the history does not speak of. -/
theorem Kept.setWrite
    (keeps : ∀ a, (f a).key = a.key ∧ (f a).previous = a.previous ∧ (f a).settled = a.settled)
    (outcome : ∀ a, (f a).outcome = a.outcome) : (q.setWrite w f).Kept calm options where
  chained := kept.chained.setWrite keeps
  enqueued v key :=
    (kept.enqueued v key).trans (exists_setWrite fun a => by rw [(keeps a).1]).symm
  answered v r := (kept.answered v r).trans (exists_setWrite fun a => by rw [outcome]).symm
  finished v a' ha' done := by
    obtain ⟨a, ha, rfl⟩ := getElem?_setWrite ha'
    split at done
    · obtain ⟨answered, closed⟩ := kept.finished v a ha ((keeps a).2.2 ▸ done)
      rename_i same
      exact ⟨by rw [if_pos same, outcome]; exact answered, closed⟩
    · rename_i other
      obtain ⟨answered, closed⟩ := kept.finished v a ha done
      exact ⟨by rw [if_neg other]; exact answered, closed⟩
  settles := kept.settles
  stopped := kept.stopped
  lawful := kept.lawful

theorem Kept.push (key : String) :
    (q.push key).Kept calm options := by
  have within : ∀ {w : WriteId} {a : Write}, q.writes[w]? = some a → w < q.writes.length :=
    fun ha => (List.getElem?_eq_some_iff.mp ha).1
  have next : (q.push key).writes[q.writes.length]? =
      some { key, previous := q.chains.get? key } := List.getElem?_concat_length
  constructor
  · exact kept.chained.push key
  · intro w k
    constructor
    · intro h
      rcases List.mem_cons.mp h with new | old
      · cases new
        exact ⟨_, next, rfl⟩
      · obtain ⟨a, ha, hk⟩ := (kept.enqueued w k).mp old
        exact ⟨a, concat_getElem? ha, hk⟩
    · rintro ⟨a, ha, rfl⟩
      rcases getElem?_concat ha with old | ⟨rfl, rfl⟩
      · exact List.mem_cons_of_mem _ ((kept.enqueued w a.key).mpr ⟨a, old, rfl⟩)
      · exact List.mem_cons_self
  · intro w r
    have same : .answered w r ∈ (q.push key).history ↔ .answered w r ∈ q.history := by
      simp [Queue.push]
    refine same.trans ((kept.answered w r).trans ⟨?_, ?_⟩)
    · rintro ⟨a, ha, h⟩
      exact ⟨a, concat_getElem? ha, h⟩
    · rintro ⟨a, ha, h⟩
      rcases getElem?_concat ha with old | ⟨-, rfl⟩
      · exact ⟨a, old, h⟩
      · cases h
  · intro w a ha done
    rcases getElem?_concat ha with old | ⟨-, rfl⟩
    · exact (kept.finished w a old done).imp_right fun closed calm =>
        List.mem_cons_of_mem _ (closed calm)
    · cases done
  · exact fun id s hs done calm => List.mem_cons_of_mem _ (kept.settles id s hs done calm)
  · intro hs
    exact kept.stopped (by simpa [Queue.push] using hs)
  · refine ⟨?_, kept.lawful⟩
    intro v k old
    obtain ⟨a, ha, -⟩ := (kept.enqueued v k).mp old
    exact within ha

theorem Kept.enqueue (key : String) :
    (q.enqueue key).2.Kept calm options := by
  rw [enqueue_eq]
  apply Kept.push
  cases q.chains.get? key with
  | none => exact kept
  | some v => exact kept.setWrite (fun _ => ⟨rfl, rfl, rfl⟩) fun _ => rfl

theorem Kept.startSettle (w : WriteId) (attempt : Option Nat) :
    ({ q with settles := q.settles ++ [{ write := w, attempt }] } : Queue).Kept calm options where
  chained := kept.chained.same rfl rfl
  enqueued := kept.enqueued
  answered := kept.answered
  finished := kept.finished
  settles id s hs done := by
    rcases getElem?_concat hs with old | ⟨-, rfl⟩
    · exact kept.settles id s old done
    · cases done
  stopped := kept.stopped
  lawful := kept.lawful

end

/-- A settle call, as the list of them holds it after one of them ended. -/
theorem getElem?_finishSettle {id i : SettleId} {r : Except RunError Unit} {s' : Settle}
    (h : (q.finishSettle id r).settles[i]? = some s') :
    ∃ s, q.settles[i]? = some s ∧ s'.write = s.write ∧ s'.attempt = s.attempt ∧
      (id ≠ i → s'.result = s.result) := by
  have settles : (q.finishSettle id r).settles =
      q.settles.modify id fun s => { s with result := some r } := by
    unfold Queue.finishSettle
    split <;> rfl
  rw [settles, List.getElem?_modify, Option.map_eq_map, Option.map_eq_some_iff] at h
  obtain ⟨s, hs, rfl⟩ := h
  refine ⟨s, hs, ?_⟩
  split
  · rename_i same
    exact ⟨rfl, rfl, fun other => absurd same other⟩
  · exact ⟨rfl, rfl, fun _ => rfl⟩

theorem finishSettle_history {id : SettleId} {s : Settle} (at_id : q.settles[id]? = some s) :
    (q.finishSettle id (.ok ())).history = .settleResolved s.write s.attempt :: q.history := by
  simp only [Queue.finishSettle, at_id]
  rfl

theorem finishSettle_fields (q : Queue) (id : SettleId) (r : Except RunError Unit) :
    (q.finishSettle id r).writes = q.writes ∧ (q.finishSettle id r).chains = q.chains ∧
      (q.finishSettle id r).stopped = q.stopped ∧ (q.finishSettle id r).outcomes = q.outcomes ∧
      (q.finishSettle id r).abandoned = q.abandoned ∧
      ((q.finishSettle id r).history = q.history ∨
        ∃ w attempt, (q.finishSettle id r).history = .settleResolved w attempt :: q.history) := by
  unfold Queue.finishSettle
  split
  · exact ⟨rfl, rfl, rfl, rfl, rfl, .inr ⟨_, _, rfl⟩⟩
  · exact ⟨rfl, rfl, rfl, rfl, rfl, .inl rfl⟩

theorem extends_finishSettle (q : Queue) (id : SettleId) (r : Except RunError Unit) :
    q.Extends (q.finishSettle id r) := by
  obtain ⟨writes, -, stopped, -, -, history⟩ := finishSettle_fields q id r
  constructor
  · exact fun w a ha => ⟨a, writes ▸ ha, .refl a⟩
  · intro i s hs
    have settles : (q.finishSettle id r).settles =
        q.settles.modify id fun s => { s with result := some r } := by
      unfold Queue.finishSettle
      split <;> rfl
    rw [settles, List.getElem?_modify, hs]
    refine ⟨_, rfl, ?_⟩
    split <;> exact ⟨rfl, rfl⟩
  · intro h hh
    rcases history with same | ⟨w, attempt, new⟩
    · exact same ▸ hh
    · exact new ▸ List.mem_cons_of_mem _ hh
  · exact fun h => stopped ▸ h

theorem quiet_finishSettle (v : WriteId) (q : Queue) (id : SettleId) (r : Except RunError Unit) :
    Quiet v q (q.finishSettle id r) := by
  obtain ⟨writes, -, -, -, -, history⟩ := finishSettle_fields q id r
  apply quiet_of_writes writes
  intro j hj
  rcases history with same | ⟨w, attempt, new⟩
  · exact same ▸ hj
  · rw [new] at hj
    simpa using hj

theorem Kept.finishSettle (kept : q.Kept calm options) {id : SettleId} {s : Settle}
    (at_id : q.settles[id]? = some s) {r : Except RunError Unit} (resolves : calm → r = .ok ()) :
    (q.finishSettle id r).Kept calm options := by
  obtain ⟨writes, chains, stopped, -, -, history⟩ := finishSettle_fields q id r
  have grown := (extends_finishSettle q id r).history
  have plain : ∀ {h : Happening}, (∀ w attempt, h ≠ .settleResolved w attempt) →
      (h ∈ (q.finishSettle id r).history ↔ h ∈ q.history) := by
    intro h other
    rcases history with same | ⟨w, attempt, new⟩
    · rw [same]
    · rw [new, List.mem_cons]
      exact or_iff_right (other w attempt)
  constructor
  · exact kept.chained.same chains writes
  · intro w key
    rw [plain (h := .enqueued w key) nofun, writes]
    exact kept.enqueued w key
  · intro w r'
    rw [plain (h := .answered w r') nofun, writes]
    exact kept.answered w r'
  · intro w a ha done
    obtain ⟨answered, closed⟩ := kept.finished w a (writes ▸ ha) done
    exact ⟨answered, fun calm => grown _ (closed calm)⟩
  · intro i s' hs' done calm
    obtain ⟨s₀, hs₀, write, attempt, result⟩ := getElem?_finishSettle hs'
    rw [write, attempt]
    by_cases same : id = i
    · subst same
      cases Option.some.inj (at_id.symm.trans hs₀)
      rw [resolves calm, finishSettle_history at_id]
      exact List.mem_cons_self
    · exact grown _ (kept.settles i s₀ hs₀ (result same ▸ done) calm)
  · intro hs
    rw [stopped]
    exact kept.stopped ((plain (h := .stopped) nofun).mp hs)
  · rcases history with same | ⟨w, attempt, new⟩
    · rw [same]
      exact kept.lawful
    · rw [new]
      exact ⟨trivial, kept.lawful⟩

theorem answer_fields (q : Queue) (w : WriteId) (r : Except WriteError Unit) :
    (q.answer w r).chains = q.chains ∧ (q.answer w r).settles = q.settles ∧
      (q.answer w r).stopped = q.stopped ∧ (q.answer w r).outcomes = q.outcomes ∧
      (q.answer w r).writes = (q.setWrite w fun a => { a with outcome := some r }).writes ∧
      (q.answer w r).history = .answered w r :: q.history := by
  cases r with
  | ok => exact ⟨rfl, rfl, rfl, rfl, rfl, rfl⟩
  | error e =>
    simp only [Queue.answer, Queue.remember]
    split <;> exact ⟨rfl, rfl, rfl, rfl, rfl, rfl⟩

theorem extends_answer (at_w : q.writes[w]? = some a) (pending : a.outcome = none)
    (r : Except WriteError Unit) : q.Extends (q.answer w r) := by
  obtain ⟨-, settles, stopped, -, writes, history⟩ := answer_fields q w r
  refine extends_trans (extends_setWrite (w := w) (f := fun a => { a with outcome := some r }) ?_)
    (.same writes settles stopped fun h hh => history ▸ List.mem_cons_of_mem _ hh)
  intro b hb
  cases Option.some.inj (at_w.symm.trans hb)
  exact ⟨rfl, rfl, id, id, fun r' h => nomatch pending.symm.trans h⟩

theorem quiet_answer (other : w ≠ v) (q : Queue) (r : Except WriteError Unit) :
    Quiet v q (q.answer w r) := by
  obtain ⟨-, -, -, -, writes, history⟩ := answer_fields q w r
  constructor
  · intro a a' ha ha'
    exact (quiet_setWrite fun same => absurd same other).pending a a' ha (writes ▸ ha')
  · intro j hj
    rw [history] at hj
    simpa using hj

theorem Kept.answer (kept : q.Kept calm options) (at_w : q.writes[w]? = some a)
    (pending : a.outcome = none) (r : Except WriteError Unit) :
    (q.answer w r).Kept calm options := by
  obtain ⟨chains, settles, stopped, -, writes, history⟩ := answer_fields q w r
  have chained := kept.chained.setWrite (w := w) (f := fun a => { a with outcome := some r })
    fun _ => ⟨rfl, rfl, rfl⟩
  constructor
  · exact chained.same chains writes
  · intro v key
    have same : .enqueued v key ∈ (q.answer w r).history ↔ .enqueued v key ∈ q.history := by
      simp [history]
    rw [writes]
    refine same.trans ((kept.enqueued v key).trans (exists_setWrite ?_).symm)
    exact fun _ => Iff.rfl
  · intro v r'
    rw [history, List.mem_cons, kept.answered]
    constructor
    · rintro (new | ⟨b, hb, h⟩)
      · cases new
        exact ⟨_, writes ▸ setWrite_getElem? at_w, by rw [if_pos rfl]⟩
      · refine ⟨_, writes ▸ setWrite_getElem? hb, ?_⟩
        split
        · rename_i same
          subst same
          cases Option.some.inj (at_w.symm.trans hb)
          cases pending.symm.trans h
        · exact h
    · rintro ⟨b', hb', h⟩
      obtain ⟨b, hb, rfl⟩ := getElem?_setWrite (writes ▸ hb')
      split at h
      · rename_i same
        subst same
        cases h
        exact .inl rfl
      · exact .inr ⟨b, hb, h⟩
  · intro v b' hb' done
    rw [history]
    obtain ⟨b, hb, rfl⟩ := getElem?_setWrite (writes ▸ hb')
    have was : b.settled = true := by
      split at done <;> exact done
    obtain ⟨answered, closed⟩ := kept.finished v b hb was
    refine ⟨?_, fun calm => List.mem_cons_of_mem _ (closed calm)⟩
    split
    · rfl
    · exact answered
  · intro id s hs done calm
    rw [history]
    exact List.mem_cons_of_mem _ (kept.settles id s (settles ▸ hs) done calm)
  · intro hs
    rw [stopped]
    exact kept.stopped (by simpa [history] using hs)
  · rw [history]
    exact ⟨trivial, kept.lawful⟩

theorem Kept.settle (kept : q.Kept calm options) (at_w : q.writes[w]? = some a)
    (clear : q.SettledBefore w a.key) (answered : a.outcome.isSome = true)
    (closed : calm → .settleResolved w none ∈ q.history) :
    (q.setWrite w fun a => { a with settled := true }).Kept calm options where
  chained := kept.chained.settle at_w clear
  enqueued v key := by
    refine (kept.enqueued v key).trans (exists_setWrite ?_).symm
    exact fun _ => Iff.rfl
  answered v r := by
    refine (kept.answered v r).trans (exists_setWrite ?_).symm
    exact fun _ => Iff.rfl
  finished v b' hb' done := by
    obtain ⟨b, hb, rfl⟩ := getElem?_setWrite hb'
    split at done
    · rename_i same
      subst same
      cases Option.some.inj (at_w.symm.trans hb)
      exact ⟨by rw [if_pos rfl]; exact answered, closed⟩
    · rename_i other
      rw [if_neg other]
      exact kept.finished v b hb done
  settles := kept.settles
  stopped := kept.stopped
  lawful := kept.lawful

theorem Kept.forget (kept : q.Kept calm options) (at_w : q.writes[w]? = some a)
    (done : a.settled = true) : (q.forget w).Kept calm options :=
  kept.same rfl (kept.chained.forget at_w done) rfl rfl rfl

end Queue

end BiliSyncPlay.DurableWriteQueue
