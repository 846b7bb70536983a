import BiliSyncPlay.Service.Steps
import BiliSyncPlay.Service.Served

/-!
# The ledger of runtime teardowns

A room that is gone leaves runtime state behind, and `pendingRuntimeTeardowns` remembers the code
until a teardown applied or the code is alive again.
-/

namespace BiliSyncPlay

open Interleave Discipline

variable {c : Cmd} {ch : Choice} {code : Code} {g : Option Generation} {id : EffectId} {n : NodeId}
  {rs : List Req} {w w' : World} {φ : Phase}

theorem get?_settledDebts_ne {pending : JsMap Code RuntimeTeardownDebt} {c : Code}
    {result : Except Fault Bool} (h : code ≠ c) :
    (settledDebts pending code id result).get? c = pending.get? c := by
  unfold settledDebts
  split
  · split
    · split
      · exact JsMap.get?_delete_ne _ h
      · exact JsMap.get?_set_ne _ _ h
    · rfl
  · rfl

/-- An effect that owns the debt pays it exactly when it applied. -/
theorem get?_settledDebts_owned {pending : JsMap Code RuntimeTeardownDebt}
    {result : Except Fault Bool} {debt : RuntimeTeardownDebt} (owed : pending.get? code = some debt)
    (own : debt.owner = some id) :
    (settledDebts pending code id result).get? code =
      if result = .ok true then none else some { debt with owner := none } := by
  unfold settledDebts
  rw [owed]
  simp only [own, ↓reduceIte]
  cases result with
  | ok b => cases b <;> simp [Except.toOption]
  | error f => simp [Except.toOption]

theorem settledDebts_disowned {pending : JsMap Code RuntimeTeardownDebt}
    {result : Except Fault Bool}
    (other : ∀ debt, pending.get? code = some debt → debt.owner ≠ some id) :
    settledDebts pending code id result = pending := by
  unfold settledDebts
  split
  · rename_i debt owed
    rw [if_neg (other debt owed)]
  · rfl

/-! ## Who tears what down -/

/-- The node, code and generation a call is tearing down. -/
@[simp] def Phase.teardown? : Phase → Option (NodeId × Code × Option Generation)
  | .tearing n c g _ | .torn n c g _ _ => some (n, c, g)
  | _ => none

/-- The effect a call is, if it is a teardown. -/
@[simp] def Phase.teardownId? : Phase → Option EffectId
  | .tearing _ _ _ id | .torn _ _ _ id _ => some id
  | _ => none

theorem teardown_after {a : c.Ans} {k : NodeId × Code × Option Generation}
    (h : (φ.after c a).teardown? = some k) :
    φ.teardown? = some k ∧ (φ.after c a).teardownId? = φ.teardownId? := by
  have family : (φ.after c a).family = .teardown := by
    generalize φ.after c a = ψ at h
    cases ψ <;> first | rfl | cases h
  have start : φ.family = .teardown := by
    rcases family_after φ c a with same | settled
    · rw [← same, family]
    · rw [settled] at family
      cases family
  cases φ with
  | tearing | torn => cases c <;> first | exact ⟨h, rfl⟩ | cases h
  | _ => cases start

theorem live_after {a : c.Ans} {owner : Option (NodeId × Code × EffectId)}
    (h : φ.after c a = .collecting owner (.live code)) :
    φ = .collecting owner (.live code) ∨
      ∃ room, (⟨c, a⟩ : (c : Cmd) × c.Ans) = ⟨.getRoom code, .ok (some room)⟩ := by
  have start : φ.family = .collection := by
    rcases family_after φ c a with same | settled
    · rw [← same, h]
      rfl
    · rw [h] at settled
      cases settled
  cases φ with
  | expiring => cases c <;> cases h
  | collecting owner' stage =>
    cases c with
    | getRoom code' =>
      match a, h with
      | .ok (some room), h =>
        cases h
        exact .inr ⟨room, rfl⟩
      | .ok none, h =>
        cases stage <;> first
        | cases h
        | (simp only [Phase.after, Phase.onGetRoom] at h; split at h <;> cases h)
      | .error f, h => cases h
    | getRoomGeneration code' =>
      simp only [Phase.after, Phase.onGetRoomGeneration] at h
      repeat' split at h
      all_goals cases h
    | settleEffect | settleExpiredRoomCollection | settleRuntimeTeardown =>
      simp only [Phase.after, Phase.onSettled] at h
      split at h
      all_goals first | exact .inl h | cases h
    | _ => first | exact .inl h | cases h
  | _ => cases start

/-! ## One teardown at a time -/

/-- Every teardown under way is the one its node knows for the code and generation. -/
structure Registered (w : World) (φs : List Phase) : Prop where
  keyed : w.roomStore.Keyed
  known : ∀ φ ∈ φs, ∀ n c g id, φ.teardown? = some (n, c, g) → φ.teardownId? = some id →
    (w.nodes n).runtimeTeardownEffects.get? (c, g) = some id
  alone : Distinct Phase.teardown? φs

theorem begin_entry {r : Req} (h : r.entry = true) : (Phase.begin r).teardown? = none := by
  cases r <;> first | rfl | cases h

theorem teardown_of_id {c : Code} (h : φ.teardown? = some (n, c, g)) :
    ∃ id, φ.teardownId? = some id := by
  cases φ <;> first | exact ⟨_, rfl⟩ | cases h

/-- Only a started teardown comes with a teardown of its own. -/
theorem begin_spawned {cfg : Config} (may : φ.permits cfg False c) (h : Spawned w w' c rs) {r : Req}
    (mem : r ∈ rs) {k : NodeId × Code × Option Generation}
    (own : (Phase.begin r).teardown? = some k) :
    ∃ n code g, c = .startRuntimeTeardownEffect n code g ∧ k = (n, code, g) ∧
      (w.nodes n).runtimeTeardownEffects.get? (code, g) = none := by
  cases h with
  | none => cases mem
  | tracked =>
    cases List.mem_singleton.mp mem
    simp only [Phase.permits, Phase.MayTrack] at may
    split at may
    · obtain ⟨t, rfl⟩ := may; cases own
    · obtain ⟨reason, rfl⟩ := may; cases own
    · cases may
  | collection => cases List.mem_singleton.mp mem; cases own
  | teardown fresh first =>
    cases List.mem_singleton.mp mem
    cases own
    exact ⟨_, _, _, rfl, rfl, first⟩

theorem spawned_length (h : Spawned w w' c rs) :
    rs.length ≤ 1 := by
  cases h <;> simp

/-- What becomes of the teardowns a node knows, seen from one that is under way. -/
theorem exec_known {cfg : Config} {a : c.Ans} (h : exec cfg c ch w = some (a, w', rs)) (n : NodeId)
    (k : Code × Option Generation) :
    (w'.nodes n).runtimeTeardownEffects.get? k = (w.nodes n).runtimeTeardownEffects.get? k ∨
    (c = .startRuntimeTeardownEffect n k.1 k.2 ∧
      (w.nodes n).runtimeTeardownEffects.get? k = none) ∨
    ∃ id r, c = .settleRuntimeTeardown n k.1 k.2 id r := by
  cases exec_renoded h n with
  | same still => exact .inl (by rw [still])
  | reckoned now | enqueued now | dequeued now | collecting _ now | collected now
  | remembered _ now | forgot now => exact .inl (by rw [now])
  | tearing first now =>
    rename_i code g
    by_cases key : (code, g) = k
    · subst key
      exact .inr (.inl ⟨rfl, first⟩)
    · exact .inl (by rw [now]; exact JsMap.get?_set_ne _ _ key)
  | torn now =>
    rename_i code g id r
    by_cases key : (code, g) = k
    · subst key
      exact .inr (.inr ⟨id, r, rfl⟩)
    · refine .inl ?_
      rw [now]
      dsimp only
      split
      · exact JsMap.get?_delete_ne _ key
      · rfl

theorem start_known {cfg : Config}
    (h : exec cfg (.startRuntimeTeardownEffect n code g) ch w = some (id, w', rs))
    (first : (w.nodes n).runtimeTeardownEffects.get? (code, g) = none) :
    (w'.nodes n).runtimeTeardownEffects.get? (code, g) = some w.fresh := by
  simp only [exec, World.startRuntimeTeardownEffect, first] at h
  cases h
  simp [World.setNode_nodes, World.startEffect]

theorem registered_act {cfg : Config} {σ σ' : World} {φs : List Phase} {i : Nat} {a : c.Ans}
    {spawned : List Req} (inv : Registered σ φs) (at_i : φs[i]? = some φ)
    (may : φ.permits cfg False c) (h : exec cfg c ch σ = some (a, σ', spawned)) :
    Registered σ' (φs.set i (φ.after c a) ++ spawned.map Phase.begin) := by
  have spawns := exec_spawned h
  have own : ∀ k, (φ.after c a).teardown? = some k → φ.teardown? = some k := fun k hk =>
    (teardown_after hk).1
  have mem := List.mem_of_getElem? at_i
  refine ⟨Recorded.keyed (exec_record h) inv.keyed, ?_, ?_⟩
  · intro ψ hψ n code g id hk hid
    -- A teardown that was under way stays known unless its own call just settled it.
    have kept : ∀ {j : Nat} {χ : Phase}, φs[j]? = some χ → χ.teardown? = some (n, code, g) →
        χ.teardownId? = some id → (∀ id' r, c = .settleRuntimeTeardown n code g id' r → j ≠ i) →
        (σ'.nodes n).runtimeTeardownEffects.get? (code, g) = some id := by
      intro j χ at_j key keyId elsewhere
      have before := inv.known χ (List.mem_of_getElem? at_j) n code g id key keyId
      rcases exec_known h n (code, g) with same | ⟨-, first⟩ | ⟨id', r, rfl⟩
      · rw [same, before]
      · rw [first] at before
        cases before
      · obtain rfl : φ = .torn n code g id' r := may
        exact absurd (inv.alone j i χ _ _ at_j at_i key rfl) (elsewhere id' r rfl)
    obtain ⟨j, at_j⟩ := List.mem_iff_getElem?.mp hψ
    rcases getElem?_set_append at_j with ⟨rfl, rfl⟩ | ⟨hne, old⟩ | ⟨-, new⟩
    · obtain ⟨key, keyId⟩ := teardown_after hk
      refine kept at_i key (keyId ▸ hid) ?_
      rintro id' r rfl
      obtain rfl : φ = .torn n code g id' r := may
      cases hk
    · exact kept old hk hid fun _ _ _ => hne
    · obtain ⟨r, hr, rfl⟩ := List.mem_map.mp (List.mem_of_getElem? new)
      obtain ⟨n', code', g', rfl, key, first⟩ := begin_spawned may spawns hr hk
      cases key
      cases spawns with
      | none => cases hr
      | teardown =>
        cases List.mem_singleton.mp hr
        cases hid
        exact start_known h first
  · refine distinct_step inv.alone at_i own
      (distinct_of_length_le_one (by simpa using spawned_length spawns)) ?_
    intro χ hχ k hk χ' hχ' hk'
    obtain ⟨r, hr, rfl⟩ := List.mem_map.mp hχ
    obtain ⟨n, code, g, rfl, rfl, first⟩ := begin_spawned may spawns hr hk
    obtain ⟨id, hid⟩ := teardown_of_id hk'
    have := inv.known χ' hχ' n code g id hk' hid
    rw [first] at this
    cases this

theorem registered_preserved (cfg : Config) :
    (roomDiscipline cfg False).Preserves (served cfg False) (fun _ => True) Registered where
  body r _ := ⟨body_unsettled r, follows_body cfg False r⟩
  start σ φs r inv entry := by
    refine ⟨trivial, inv.keyed, ?_, distinct_append inv.alone (begin_entry entry)⟩
    intro φ hφ n c g id hk hid
    rcases List.mem_append.mp hφ with old | new
    · exact inv.known φ old n c g id hk hid
    · cases List.mem_singleton.mp new
      rw [begin_entry entry] at hk
      cases hk
  occur σ φs e σ' inv _ h := by
    refine ⟨Recorded.keyed (occur_record h) inv.keyed, ?_, inv.alone⟩
    intro φ hφ n c g id hk hid
    obtain ⟨closing, same⟩ := occur_node h n
    rw [same]
    exact inv.known φ hφ n c g id hk hid
  act σ φs i φ c ch a σ' spawned inv at_i may _ h :=
    ⟨⟨plausible_exec h inv.keyed, False.elim⟩, fun _ _ => trivial, registered_act inv at_i may h⟩
  settle σ φs i φ r inv at_i _ := by
    have bare : φ.retire.teardown? = none := by cases φ <;> rfl
    have settled : Distinct Phase.teardown? (φs.set i φ.retire ++ []) := distinct_step inv.alone at_i
      (fun k hk => by rw [bare] at hk; cases hk) distinct_nil (fun _ h => nomatch h)
    refine ⟨inv.keyed, ?_, by simpa using settled⟩
    intro ψ hψ n c g id hk hid
    rcases List.mem_or_eq_of_mem_set hψ with old | rfl
    · exact inv.known ψ old n c g id hk hid
    · rw [bare] at hk
      cases hk

/-! ## Debts -/

def World.debt? (w : World) (n : NodeId) (code : Code) : Option RuntimeTeardownDebt :=
  (w.nodes n).pendingRuntimeTeardowns.get? code

/-- The entry of the ledger a command is about to make, or to take from its effect. -/
def Cmd.touches (w : World) : Cmd → Option (NodeId × Code)
  | .rememberRuntimeTeardownDebt n code =>
    if (w.debt? n code).isNone then some (n, code) else none
  | .startRuntimeTeardownEffect n code g =>
    if ((w.nodes n).runtimeTeardownEffects.get? (code, g)).isNone then some (n, code) else none
  | _ => none

/-- What becomes of an entry of the ledger. -/
theorem exec_debt {cfg : Config} {a : c.Ans} (h : exec cfg c ch w = some (a, w', rs)) (n : NodeId)
    (code : Code) :
    w'.debt? n code = w.debt? n code ∨
    (c = .forgetRuntimeTeardownDebt n code ∧ w'.debt? n code = none) ∨
    (c.touches w = some (n, code) ∧ (w'.debt? n code).isSome) ∨
    ∃ g id r debt, c = .settleRuntimeTeardown n code g id r ∧ w.debt? n code = some debt ∧
      debt.owner = some id ∧
      w'.debt? n code = if r = .ok true then none else some { debt with owner := none } := by
  unfold World.debt?
  cases exec_renoded h n with
  | same still => exact .inl (by rw [still])
  | reckoned now | enqueued now | dequeued now | collecting _ now | collected now =>
    exact .inl (by rw [now])
  | remembered absent now =>
    rename_i other
    rw [now]
    by_cases same : other = code
    · subst same
      have vacant : (w.debt? n other).isNone := by
        simpa [JsMap.has, World.debt?] using absent
      exact .inr (.inr (.inl ⟨if_pos vacant, by simp⟩))
    · exact .inl (JsMap.get?_set_ne _ _ same)
  | forgot now =>
    rename_i other
    rw [now]
    by_cases same : other = code
    · subst same
      exact .inr (.inl ⟨rfl, JsMap.get?_delete_self _ _⟩)
    · exact .inl (JsMap.get?_delete_ne _ same)
  | tearing first now =>
    rename_i other g
    rw [now]
    by_cases same : other = code
    · subst same
      exact .inr (.inr (.inl ⟨if_pos (by rw [first]; rfl), by simp⟩))
    · exact .inl (JsMap.get?_set_ne _ _ same)
  | torn now =>
    rename_i other g id r
    rw [now]
    by_cases same : other = code
    · subst same
      by_cases own : ∃ debt, (w.nodes n).pendingRuntimeTeardowns.get? other = some debt ∧
          debt.owner = some id
      · obtain ⟨debt, owed, owner⟩ := own
        exact .inr (.inr (.inr ⟨g, id, r, debt, rfl, owed, owner,
          get?_settledDebts_owned owed owner⟩))
      · refine .inl (congrArg (JsMap.get? · other) (settledDebts_disowned ?_))
        exact fun debt owed owner => own ⟨debt, owed, owner⟩
    · exact .inl (get?_settledDebts_ne same)

theorem debt_dropped {cfg : Config} {a : c.Ans} (h : exec cfg c ch w = some (a, w', rs))
    {debt : RuntimeTeardownDebt} (owed : w.debt? n code = some debt) (gone : w'.debt? n code = none) :
    c = .forgetRuntimeTeardownDebt n code ∨
      ∃ g id, c = .settleRuntimeTeardown n code g id (.ok true) ∧ debt.owner = some id := by
  rcases exec_debt h n code with same | ⟨rfl, -⟩ | ⟨-, some⟩ | ⟨g, id, r, debt', rfl, owed', own, now⟩
  · rw [same, owed] at gone
    cases gone
  · exact .inl rfl
  · rw [gone] at some
    cases some
  · cases owed.symm.trans owed'
    rw [now] at gone
    split at gone
    · rename_i applied
      subst applied
      exact .inr ⟨g, id, rfl, own⟩
    · cases gone

/-! ## What calls did before -/

section History

variable {cfg : Config} {call : Call (machine cfg)}

abbrev running (call : Call (machine cfg)) : Phase := (roomDiscipline cfg False).running call

/-- A collection that may forget a code has read a live record under it. -/
theorem read_of_live {owner : Option (NodeId × Code × EffectId)}
    (h : running call = .collecting owner (.live code)) :
    ∃ room, ⟨.getRoom code, .ok (some room)⟩ ∈ call.hist := by
  have reads : ∀ hist : List ((c : Cmd) × c.Ans),
      hist.foldr (fun e φ => Phase.after φ e.1 e.2) (Phase.begin call.req) =
        .collecting owner (.live code) → ∃ room, ⟨.getRoom code, .ok (some room)⟩ ∈ hist := by
    intro hist
    induction hist with
    | nil =>
      intro h
      cases hreq : call.req with
      | effect n id task => rw [hreq] at h; cases task <;> cases h
      | _ => rw [hreq] at h; cases h
    | cons e rest ih =>
      intro h
      rcases live_after h with before | ⟨room, own⟩
      · obtain ⟨room, mem⟩ := ih before
        exact ⟨room, List.mem_cons_of_mem _ mem⟩
      · exact ⟨room, own ▸ List.mem_cons_self ..⟩
  exact reads call.hist h

/-- A call that tears a room down was started to do so. -/
theorem req_of_teardown (h : (running call).teardown? = some (n, code, g))
    (own : (running call).teardownId? = some id) :
    call.req = .effect n id (.teardown code g) := by
  have first := begin_of_running (roomDiscipline cfg False)
    (fun φ => φ.teardown? = some (n, code, g) ∧ φ.teardownId? = some id)
    (fun φ c a h => ⟨(teardown_after h.1).1, (teardown_after h.1).2 ▸ h.2⟩) ⟨h, own⟩
  cases hreq : call.req with
  | effect m id' task =>
    rw [hreq] at first
    cases task with
    | teardown code' g' =>
      obtain ⟨key, keyId⟩ := first
      cases key
      cases keyId
      rfl
    | _ => cases first.1
  | _ => rw [hreq] at first; cases first.1

/-- A teardown issues one store call, and settles with what it answered. -/
theorem teardown_history (cfg : Config) {hist : List ((c : Cmd) × c.Ans)} {rest : Service Res}
    (h : Reaches (body cfg (.effect n id (.teardown code g))) hist rest) :
    (hist = [] ∧ rest = body cfg (.effect n id (.teardown code g))) ∨
    (∃ r, hist = [⟨.deleteRoomRuntime code g, r⟩] ∧
      rest = .op (.settleRuntimeTeardown n code g id r) fun _ => .ret .done) ∨
    ∃ r, hist = [⟨.settleRuntimeTeardown n code g id r, ()⟩, ⟨.deleteRoomRuntime code g, r⟩] ∧
      rest = .ret .done := by
  induction h with
  | start => exact .inl ⟨rfl, rfl⟩
  | answered a _ ih =>
    obtain ⟨rfl, h⟩ | ⟨r, rfl, h⟩ | ⟨r, -, h⟩ := ih
    · cases h
      exact .inr (.inl ⟨a, rfl, rfl⟩)
    · cases h
      exact .inr (.inr ⟨r, rfl, rfl⟩)
    · cases h

end History

/-- A request that collects the runtime state of rooms. -/
def Req.collects : Req → Bool
  | .deleteExpiredRooms _ | .teardownRoomRuntime .. | .effect _ _ (.collectExpiredRoom _) => true
  | _ => false

theorem collects_of_live {cfg : Config} {call : Call (machine cfg)}
    (h : (running call).family = .collection) : call.req.collects = true := by
  have first := begin_of_running (roomDiscipline cfg False)
    (fun φ => φ.family = .collection) (fun φ c a h => by
      rcases family_after φ c a with same | settled
      · exact same ▸ h
      · exact absurd (settled.symm.trans h) (by decide)) h
  cases hreq : call.req with
  | effect n id task => rw [hreq] at first; cases task <;> first | rfl | cases first
  | _ => rw [hreq] at first; first | rfl | cases first

/-- A call that is one of a code's teardowns and still under way. -/
def TearsDown {cfg : Config} (call : Call (machine cfg)) (n : NodeId) (code : Code)
    (g : Option Generation) : Prop :=
  (∃ id, call.req = .effect n id (.teardown code g)) ∧ call.rest.settled = false

/-- The effect that owned the debt reported that it applied. -/
def Paid {cfg : Config} (call : Call (machine cfg)) (n : NodeId) (code : Code)
    (debt : RuntimeTeardownDebt) : Prop :=
  ∃ g id, call.req = .effect n id (.teardown code g) ∧ debt.owner = some id ∧
    call.hist = [⟨.deleteRoomRuntime code g, .ok true⟩]

/-- A collection that read a live record under the code. -/
def FoundAlive {cfg : Config} (call : Call (machine cfg)) (code : Code) : Prop :=
  call.req.collects = true ∧ ∃ room, ⟨.getRoom code, .ok (some room)⟩ ∈ call.hist

theorem phase_of_teardown {cfg : Config} {q : Pool (machine cfg)} {call : Call (machine cfg)}
    (genuine : q.Genuine) (mem : call ∈ q.calls) (h : TearsDown call n code g) :
    ((roomDiscipline cfg False).phaseOf call).teardown? = some (n, code, g) := by
  obtain ⟨⟨id, req⟩, unsettled⟩ := h
  rw [phaseOf_unsettled unsettled]
  have reached := genuine call mem
  rw [req] at reached
  unfold Discipline.running
  rcases teardown_history cfg reached with ⟨hist, -⟩ | ⟨r, hist, -⟩ | ⟨r, -, ended⟩
  · rw [hist, req]; rfl
  · rw [hist, req]; rfl
  · rw [ended] at unsettled
    cases unsettled

/-- A settling teardown is an effect reporting what its store call answered. -/
theorem settles_own {cfg : Config} {q : Pool (machine cfg)} {call : Call (machine cfg)}
    (conf : (roomDiscipline cfg False).Conforming q) (genuine : q.Genuine) (mem : call ∈ q.calls)
    {r : Except Fault Bool} (next : call.rest.next? = some (.settleRuntimeTeardown n code g id r)) :
    call.req = .effect n id (.teardown code g) ∧ call.hist = [⟨.deleteRoomRuntime code g, r⟩] := by
  have follows := conf call mem
  cases hrest : call.rest with
  | ret | fail => rw [hrest] at next; cases next
  | op c k =>
    rw [hrest] at next follows
    cases next
    have phase : running call = .torn n code g id r := follows.1
    have req : call.req = .effect n id (.teardown code g) :=
      req_of_teardown (by rw [phase]; rfl) (by rw [phase]; rfl)
    have reached := genuine call mem
    rw [req, hrest] at reached
    rcases teardown_history cfg reached with ⟨-, h⟩ | ⟨r', hist, h⟩ | ⟨r', -, h⟩
    · cases h
    · cases h
      exact ⟨req, hist⟩
    · cases h

/-- A runtime-teardown debt is paid or disproved, never lost. -/
theorem teardown_debts_are_kept {cfg : Config} {w : World} {q r : Pool (machine cfg)}
    {mv : Move (machine cfg)} (keyed : w.roomStore.Keyed)
    (run : Run (served cfg False).guard ⟨w, []⟩ q) (step : q.step? mv = some r)
    (n : NodeId) (code : Code) :
    (∀ debt, q.shared.debt? n code = some debt → r.shared.debt? n code = none →
      ∃ i ch call, mv = .run i ch ∧ q.calls[i]? = some call ∧
        (Paid call n code debt ∨ FoundAlive call code)) ∧
    (∀ i ch call g id result, mv = .run i ch → q.calls[i]? = some call →
      call.rest.next? = some (.settleRuntimeTeardown n code g id result) →
      call.hist = [⟨.deleteRoomRuntime code g, result⟩] ∧
      (∀ debt, q.shared.debt? n code = some debt → debt.owner = some id → result ≠ .ok true →
        r.shared.debt? n code = some { debt with owner := none }) ∧
      ((∀ debt, q.shared.debt? n code = some debt → debt.owner ≠ some id) →
        (r.shared.nodes n).pendingRuntimeTeardowns = (q.shared.nodes n).pendingRuntimeTeardowns)) ∧
    ∀ (i j : Nat) call call' g, q.calls[i]? = some call → q.calls[j]? = some call' →
      TearsDown call n code g → TearsDown call' n code g → i = j := by
  obtain ⟨conf, none_yet⟩ := conforming_of_no_calls (D := roomDiscipline cfg False)
    (p := (⟨w, []⟩ : Pool (machine cfg))) rfl
  have start : Registered w (phases (roomDiscipline cfg False) ⟨w, []⟩) := by
    rw [none_yet]
    exact ⟨keyed, (fun _ h => nomatch h), distinct_nil⟩
  obtain ⟨conf, inv⟩ := run_invariant (registered_preserved cfg) run conf start
  have genuine := run_genuine run (genuine_of_no_calls rfl)
  refine ⟨?_, ?_, ?_⟩
  · intro debt owed gone
    have kept : r.shared = q.shared → False := by
      intro same
      rw [same, owed] at gone
      cases gone
    cases mv with
    | start req => cases step; exact (kept rfl).elim
    | event e =>
      simp only [Pool.step?, Option.map_eq_some_iff] at step
      obtain ⟨σ, hσ, rfl⟩ := step
      obtain ⟨closing, same⟩ := occur_node hσ n
      have : σ.debt? n code = q.shared.debt? n code := by rw [World.debt?, same]; rfl
      rw [owed] at this
      cases gone.symm.trans this
    | run i ch =>
      obtain ⟨call, c, k, a, σ, spawned, at_i, rest, hexec, rfl⟩ := run?_cases step
      have mem := List.mem_of_getElem? at_i
      have follows := conf call mem
      rw [rest] at follows
      refine ⟨i, ch, call, rfl, at_i, ?_⟩
      rcases debt_dropped hexec owed gone with rfl | ⟨g, id, rfl, own⟩
      · obtain ⟨owner, phase⟩ := follows.1
        refine .inr ⟨collects_of_live (by rw [running, phase]; rfl), read_of_live phase⟩
      · obtain ⟨req, hist⟩ := settles_own conf genuine mem (by rw [rest]; rfl)
        exact .inl ⟨g, id, req, own, hist⟩
  · rintro i ch call g id result rfl at_i next
    obtain ⟨own, c, k, a, σ, spawned, at_i', rest, hexec, rfl⟩ := run?_cases step
    obtain rfl : call = own := Option.some.inj (at_i.symm.trans at_i')
    rw [rest] at next
    cases next
    have after : (σ.nodes n).pendingRuntimeTeardowns =
        settledDebts (q.shared.nodes n).pendingRuntimeTeardowns code id result := by
      cases hexec
      exact congrArg Node.pendingRuntimeTeardowns
        ((World.settleRuntimeTeardown_nodes ..).trans (if_pos rfl))
    refine ⟨(settles_own conf genuine (List.mem_of_getElem? at_i) (by rw [rest]; rfl)).2, ?_, ?_⟩
    · intro debt owed own declined
      rw [World.debt?, after, get?_settledDebts_owned owed own, if_neg declined]
    · intro other
      rw [after]
      exact settledDebts_disowned other
  · intro i j call call' g at_i at_j tears tears'
    exact inv.alone i j _ _ _ (phases_getElem? at_i) (phases_getElem? at_j)
      (phase_of_teardown genuine (List.mem_of_getElem? at_i) tears)
      (phase_of_teardown genuine (List.mem_of_getElem? at_j) tears')

/-- A teardown of a code without a record, up to the report of its effect. -/
def settledTeardown : List (Move (machine oneNode)) :=
  [.start (.teardownRoomRuntime 0 1)] ++ turns _ 0 5 ++ turns _ 1 1

theorem teardown_pays_its_debt : ∃ q r : Pool (machine oneNode),
    q.shared.debt? 0 1 = some ⟨0, some 0⟩ ∧ r.shared.debt? 0 1 = none ∧
    ∃ i ch call, Move.run i ch = (.run 1 .ok : Move (machine oneNode)) ∧ q.calls[i]? = some call ∧
      (Paid call 0 1 ⟨0, some 0⟩ ∨ FoundAlive call 1) := by
  obtain ⟨q, run, seen⟩ := Pool.replay_spec (served oneNode False).guard ⟨{}, []⟩ settledTeardown
    (fun q => (q.shared.debt? 0 1, (q.step? (.run 1 .ok)).map fun r => r.shared.debt? 0 1))
    (b := (some ⟨0, some 0⟩, some none)) rfl
  simp only [Prod.mk.injEq, Option.map_eq_some_iff] at seen
  obtain ⟨owed, r, step, gone⟩ := seen
  have keyed : RoomStore.Keyed .empty := by intro c room h; cases h
  obtain ⟨i, ch, call, own, at_i, why⟩ :=
    (teardown_debts_are_kept keyed run step 0 1).1 _ owed gone
  exact ⟨q, r, owed, gone, i, ch, call, own.symm, at_i, why⟩

end BiliSyncPlay
