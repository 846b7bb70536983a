import BiliSyncPlay.Service.Ledger

/-!
# Effects and those who wait for them

An effect is a call of its own under an id that nobody else has. Whatever a waiter was told of
an effect is what the effect's own call settled it with.
-/

namespace BiliSyncPlay

open Interleave Discipline

variable {cfg : Config}

def Req.effectId? : Req → Option EffectId
  | .effect _ id _ => some id
  | _ => none

def Phase.effectId? : Phase → Option EffectId
  | .scheduling id .. | .rollingBack id .. | .settling id | .expiring _ id _
  | .tearing _ _ _ id | .torn _ _ _ id _ => some id
  | .collecting owner _ => owner.map fun own => own.2.2
  | _ => none

def Settled.ofTeardown : Except Fault Bool → Settled
  | .ok done => .applied done
  | .error fault => .failed fault

/-- What a command settles, and as what. -/
def Cmd.settles : Cmd → Option (EffectId × Settled)
  | .settleEffect id r | .settleExpiredRoomCollection _ _ id r => some (id, r)
  | .settleRuntimeTeardown _ _ _ id r => some (id, .ofTeardown r)
  | _ => none

/-- The effect a command's caller may wait for. -/
def Cmd.starts : (c : Cmd) → c.Ans → Option Req
  | .track n task, id => some (.effect n id task)
  | .getOrStartExpiredRoomCollection n code, id => some (.effect n id (.collectExpiredRoom code))
  | .startRuntimeTeardownEffect n code g, id => some (.effect n id (.teardown code g))
  | _, _ => none

theorem begin_effectId (r : Req) : (Phase.begin r).effectId? = r.effectId? := by
  cases r with
  | effect n id task => cases task <;> rfl
  | _ => rfl

variable {c : Cmd} {ch : Choice} {id : EffectId} {q : Pool (machine cfg)} {r : Settled}
  {rs : List Req} {w w' : World}

theorem family_of_effectId {φ : Phase} (h : φ.effectId? = some id) :
    φ.family = .expiry ∨ φ.family = .collection ∨ φ.family = .teardown := by
  cases φ <;> first | exact .inl rfl | exact .inr (.inl rfl) | exact .inr (.inr rfl) | cases h

theorem effectId_after {φ : Phase} {a : c.Ans} (h : (φ.after c a).effectId? = some id) :
    φ.effectId? = some id := by
  have start : φ.family = .expiry ∨ φ.family = .collection ∨ φ.family = .teardown := by
    have later := family_of_effectId h
    rcases family_after φ c a with same | settled
    · rwa [same] at later
    · rw [settled] at later
      rcases later with h | h | h <;> cases h
  cases φ with
  | scheduling | rollingBack | settling | expiring | collecting | tearing | torn =>
    cases c <;> first
    | exact h
    | (simp only [Phase.after, Phase.onGetRoom, Phase.onUpdateRoom, Phase.onGetRoomGeneration,
         Phase.onSettled] at h
       repeat' split at h
       all_goals first | exact h | cases h)
  | _ => rcases start with h | h | h <;> cases h

theorem req_of_effectId {call : Call (machine cfg)}
    (h : ((roomDiscipline cfg False).running call).effectId? = some id) :
    call.req.effectId? = some id := by
  rw [← begin_effectId]
  exact begin_of_running (roomDiscipline cfg False) (fun φ => φ.effectId? = some id)
    (fun _ _ _ => effectId_after) h

/-! ## Results -/

def World.result? (w : World) (id : EffectId) : Option Settled :=
  (w.effects.get? id).bind Effect.result

/-- Whoever settled the effect as `r` is the effect's own call. -/
def SettledAs (p : Pool (machine cfg)) (id : EffectId) (r : Settled) : Prop :=
  ∃ call ∈ p.calls, call.req.effectId? = some id ∧
    ∃ e ∈ call.hist, Cmd.settles e.1 = some (id, r)

theorem settle_result (w : World) (id id' : EffectId) (r : Settled) :
    (w.settle id r).result? id' = if id = id' then some r else w.result? id' := by
  unfold World.settle World.result?
  dsimp only
  rw [JsMap.get?_set]
  split <;> rfl

def resultOf (id : EffectId) : Part (Option Settled) := ⟨fun w => w.result? id, fun _ _ => rfl⟩

theorem startEffect_result (h : w.startEffect.2.result? id = some r) : w.result? id = some r := by
  unfold World.startEffect World.result? at h
  dsimp only at h
  rw [JsMap.get?_set] at h
  split at h
  · cases h
  · exact h

theorem awaitEffect_result {bound : WaitBound} {a : Option Settled}
    (h : w.awaitEffect ch id bound = some (a, w', rs)) :
    (∀ id', w'.result? id' = w.result? id') ∧ ∀ r, a = some r → w.result? id = some r := by
  have read : ∀ {r}, ((w.effects.get? id).getD {}).result = some r → w.result? id = some r := by
    unfold World.result?
    cases w.effects.get? id <;> exact fun h => h
  unfold World.awaitEffect answer at h
  dsimp only at h
  split at h
  · split at h
    · cases h; exact ⟨fun _ => rfl, (by simp)⟩
    · split at h <;> cases h
      rename_i known
      exact ⟨fun _ => rfl, fun _ own => Option.some.inj own ▸ read known⟩
  · split at h
    · cases h
    · cases h; exact ⟨fun _ => rfl, (by simp)⟩
    · split at h <;> cases h
      rename_i unsettled
      refine ⟨fun id' => ?_, (by simp)⟩
      unfold World.result?
      dsimp only
      rw [JsMap.get?_set]
      split
      · rename_i own
        subst own
        cases found : w.effects.get? id <;> simp
      · rfl
  · cases h

/-- A result is known already, or its effect settles. -/
theorem exec_result {a : c.Ans} (h : exec cfg c ch w = some (a, w', rs))
    (known : w'.result? id = some r) : w.result? id = some r ∨ c.settles = some (id, r) := by
  have framed : w'.result? id = w.result? id →
      w.result? id = some r ∨ c.settles = some (id, r) := fun same => .inl (same ▸ known)
  have settled : ∀ {id' r'}, w'.result? id = (w.settle id' r').result? id →
      w.result? id = some r ∨ (some (id', r') : Option (EffectId × Settled)) = some (id, r) := by
    intro id' r' same
    rw [same, settle_result] at known
    split at known
    · rename_i own
      subst own
      cases known
      exact .inr rfl
    · exact .inl known
  cases c with
  | awaitEffect => exact framed ((awaitEffect_result h).1 id)
  | acquireDistributedJoinLock => exact framed (acquireJoinLock_frame (resultOf id) h fun _ _ => rfl).1
  | createRoom => exact framed (createRoom_frame (resultOf id) (fun _ _ => rfl) h).1
  | updateRoom => exact framed (updateRoom_frame (resultOf id) (fun _ _ => rfl) h).1
  | nextRoomCode => cases ch <;> cases h; exact .inl known
  | awaitJoinTurn => simp only [exec] at h; split at h <;> cases h; exact .inl known
  | track => cases h; exact .inl (startEffect_result known)
  | getOrStartExpiredRoomCollection =>
    simp only [exec, answer] at h
    split at h <;> cases h
    · exact .inl known
    · exact .inl (startEffect_result known)
  | startRuntimeTeardownEffect =>
    simp only [exec, World.startRuntimeTeardownEffect] at h
    split at h <;> cases h
    · exact .inl known
    · exact .inl (startEffect_result known)
  | rememberRuntimeTeardownDebt => simp only [exec, answer] at h; split at h <;> cases h <;> exact .inl known
  | settleEffect id' r' => cases h; exact settled rfl
  | settleExpiredRoomCollection n code id' r' => cases h; exact settled rfl
  | settleRuntimeTeardown n code g id' r' =>
    cases h
    refine settled ?_
    unfold World.settleRuntimeTeardown
    dsimp only
    split <;> cases r' <;> rfl
  | setSessionDisplayName | getPlaybackAuthority =>
    refine framed ?_
    simp only [exec, answer, Option.some.injEq, Prod.mk.injEq] at h
    rw [← h.2.1]
    simp only [World.setSessionDisplayName, World.getPlaybackAuthority]
    repeat' split
    all_goals rfl
  | recordPlaybackAuthority =>
    refine framed ?_
    cases h
    unfold World.recordPlaybackAuthority World.sweepExpiredPlaybackAuthorities
    dsimp only
    split <;> rfl
  | decrementConnectionCount s => cases h; exact framed (by cases cfg.addressOf s <;> rfl)
  | markSessionJoinedRoom | markSessionLeftRoom =>
    simp only [exec] at h
    refine framed (call_frame (resultOf id) h ?_)
    simp only [World.markSessionJoinedRoom, World.markSessionLeftRoom]
    split <;> rfl
  | _ =>
    simp only [exec] at h
    first
    | (cases h; exact .inl known)
    | exact framed (call_frame (resultOf id) h rfl)
    | exact framed (attempt_frame (resultOf id) h rfl)

/-! ## Ids -/

theorem exec_fresh {a : c.Ans} (h : exec cfg c ch w = some (a, w', rs)) : w.fresh ≤ w'.fresh := by
  have same : ∀ {n}, n = w.fresh → w.fresh ≤ n := fun h => h.ge
  cases c with
  | awaitEffect => obtain ⟨-, effects, rfl⟩ := awaitEffect_cases h; exact Nat.le_refl _
  | acquireDistributedJoinLock =>
    simp only [exec, World.acquireDistributedJoinLock] at h
    split at h
    · obtain ⟨-, ⟨-, rfl⟩ | ⟨f, -, rfl | rfl | ⟨l, -, rfl⟩⟩⟩ := call_cases h <;>
        first | exact Nat.le_refl _ | exact Nat.le_succ _
    · split at h
      · cases h; exact Nat.le_refl _
      · split at h <;> cases h; exact Nat.le_succ _
      · cases h
  | createRoom => exact same (createRoom_frame ⟨World.fresh, fun _ _ => rfl⟩ (fun _ _ => rfl) h).1
  | updateRoom => exact same (updateRoom_frame ⟨World.fresh, fun _ _ => rfl⟩ (fun _ _ => rfl) h).1
  | nextRoomCode => cases ch <;> cases h; exact Nat.le_refl _
  | awaitJoinTurn => simp only [exec] at h; split at h <;> cases h; exact Nat.le_refl _
  | generateToken | enterJoinQueue | track => cases h; exact Nat.le_succ _
  | getOrStartExpiredRoomCollection =>
    simp only [exec, answer] at h
    split at h <;> cases h
    · exact Nat.le_refl _
    · exact Nat.le_succ _
  | startRuntimeTeardownEffect =>
    simp only [exec, World.startRuntimeTeardownEffect] at h
    split at h <;> cases h
    · exact Nat.le_refl _
    · exact Nat.le_succ _
  | rememberRuntimeTeardownDebt =>
    simp only [exec, answer] at h
    split at h <;> cases h
    · exact Nat.le_refl _
    · exact Nat.le_succ _
  | settleRuntimeTeardown n code g id r =>
    cases h
    refine same ?_
    unfold World.settleRuntimeTeardown
    dsimp only
    split <;> rfl
  | setSessionDisplayName | getPlaybackAuthority =>
    refine same ?_
    simp only [exec, answer, Option.some.injEq, Prod.mk.injEq] at h
    rw [← h.2.1]
    simp only [World.setSessionDisplayName, World.getPlaybackAuthority]
    repeat' split
    all_goals rfl
  | recordPlaybackAuthority =>
    refine same ?_
    cases h
    unfold World.recordPlaybackAuthority World.sweepExpiredPlaybackAuthorities
    dsimp only
    split <;> rfl
  | decrementConnectionCount s => cases h; exact same (by cases cfg.addressOf s <;> rfl)
  | markSessionJoinedRoom | markSessionLeftRoom =>
    simp only [exec] at h
    refine same (call_frame ⟨World.fresh, fun _ _ => rfl⟩ h ?_)
    simp only [World.markSessionJoinedRoom, World.markSessionLeftRoom]
    split <;> rfl
  | _ =>
    simp only [exec] at h
    first
    | (cases h; exact Nat.le_refl _)
    | exact same (call_frame ⟨World.fresh, fun _ _ => rfl⟩ h rfl)
    | exact same (attempt_frame ⟨World.fresh, fun _ _ => rfl⟩ h rfl)

theorem occur_fresh {e : Event} (h : occur e w = some w') :
    w'.fresh = w.fresh ∧ ∀ id, w'.result? id = w.result? id := by
  cases e with
  | tick | closeSocket | orphan | beginShutdown => cases h; exact ⟨rfl, fun _ => rfl⟩
  | land i =>
    simp only [occur, Option.map_eq_some_iff] at h
    obtain ⟨l, -, rfl⟩ := h
    cases l with
    | create input => dsimp only; split <;> exact ⟨rfl, fun _ => rfl⟩
    | update | mark => exact ⟨rfl, fun _ => rfl⟩

/-- What a node's maps of effects name. -/
def Node.Names (node : Node) (id : EffectId) : Task → Prop
  | .collectExpiredRoom code => node.expiredRoomCollectionEffects.get? code = some id
  | .teardown code g => node.runtimeTeardownEffects.get? (code, g) = some id
  | _ => False

/-- Only effects that were started are named, under the id they were started with. -/
theorem exec_names {a : c.Ans} (h : exec cfg c ch w = some (a, w', rs)) {n : NodeId} {task : Task}
    (named : (w'.nodes n).Names id task) :
    (w.nodes n).Names id task ∨ .effect n id task ∈ rs := by
  cases exec_renoded h n with
  | same still => exact .inl (still ▸ named)
  | reckoned now | enqueued now | dequeued now | remembered _ now | forgot now =>
    rw [now] at named
    cases task <;> exact .inl named
  | collecting first now =>
    rename_i code
    rw [now] at named
    cases task with
    | collectExpiredRoom code' =>
      by_cases same : code = code'
      · subst same
        simp only [Node.Names, JsMap.get?_set_self] at named
        simp only [exec, first] at h
        cases h
        cases named
        exact .inr (List.mem_singleton_self _)
      · exact .inl ((JsMap.get?_set_ne _ _ same).symm.trans named)
    | _ => exact .inl named
  | collected now =>
    rename_i code id' result
    rw [now] at named
    cases task with
    | collectExpiredRoom code' =>
      simp only [Node.Names] at named
      split at named
      · rw [JsMap.get?_delete] at named
        split at named
        · cases named
        · exact .inl named
      · exact .inl named
    | _ => exact .inl named
  | tearing first now =>
    rename_i code g
    rw [now] at named
    cases task with
    | teardown code' g' =>
      by_cases same : (code, g) = (code', g')
      · cases same
        simp only [Node.Names, JsMap.get?_set_self] at named
        simp only [exec, World.startRuntimeTeardownEffect, first] at h
        cases h
        cases named
        exact .inr (List.mem_singleton_self _)
      · exact .inl ((JsMap.get?_set_ne _ _ same).symm.trans named)
    | _ => exact .inl named
  | torn now =>
    rename_i code g id' result
    rw [now] at named
    cases task with
    | teardown code' g' =>
      simp only [Node.Names] at named
      split at named
      · rw [JsMap.get?_delete] at named
        split at named
        · cases named
        · exact .inl named
      · exact .inl named
    | _ => exact .inl named

/-- A caller waits for an effect it started, or for one its node names. -/
theorem exec_starts {a : c.Ans} (h : exec cfg c ch w = some (a, w', rs)) {r : Req}
    (starts : c.starts a = some r) :
    r ∈ rs ∨ ∃ n id task, r = .effect n id task ∧ (w.nodes n).Names id task := by
  cases c with
  | track n task => cases starts; cases h; exact .inl (List.mem_singleton_self _)
  | getOrStartExpiredRoomCollection n code =>
    cases starts
    simp only [exec, answer] at h
    split at h
    · rename_i known
      cases h
      exact .inr ⟨n, _, _, rfl, known⟩
    · cases h; exact .inl (List.mem_singleton_self _)
  | startRuntimeTeardownEffect n code g =>
    cases starts
    simp only [exec, World.startRuntimeTeardownEffect] at h
    split at h
    · rename_i known
      cases h
      exact .inr ⟨n, _, _, rfl, known⟩
    · cases h; exact .inl (List.mem_singleton_self _)
  | _ => cases starts

theorem spawned_ids (h : Spawned w w' c rs) :
    ∀ r ∈ rs, r.effectId? = some w.fresh ∧ w'.fresh = w.fresh + 1 := by
  intro r hr
  cases h with
  | none => cases hr
  | tracked fresh | collection fresh | teardown fresh =>
    cases List.mem_singleton.mp hr
    exact ⟨rfl, fresh⟩

/-! ## Effects as calls -/

/-- Some call is the request. -/
def Called (p : Pool (machine cfg)) (r : Req) : Prop := ∃ call ∈ p.calls, call.req = r

/-- Every effect anybody knows of is a call, under an id of its own, and what is known of its
result is what that call settled it with. -/
structure Tracked (p : Pool (machine cfg)) : Prop where
  drawn : ∀ call ∈ p.calls, ∀ id, call.req.effectId? = some id → id < p.shared.fresh
  alone : Distinct (fun call : Call (machine cfg) => call.req.effectId?) p.calls
  named : ∀ n id task, (p.shared.nodes n).Names id task → Called p (.effect n id task)
  started : ∀ call ∈ p.calls, ∀ e ∈ call.hist, ∀ r, Cmd.starts e.1 e.2 = some r → Called p r
  known : ∀ id r, p.shared.result? id = some r → SettledAs p id r
  told : ∀ call ∈ p.calls, ∀ id bound r,
    (⟨.awaitEffect id bound, some r⟩ : (c : Cmd) × c.Ans) ∈ call.hist → SettledAs p id r

theorem Called.grows {p : Pool (machine cfg)} (grows : p.Grows q) {r : Req} (h : Called p r) :
    Called q r := by
  obtain ⟨call, mem, rfl⟩ := h
  obtain ⟨call', mem', req, -⟩ := grows call mem
  exact ⟨call', mem', req⟩

theorem SettledAs.grows {p : Pool (machine cfg)} (grows : p.Grows q) (h : SettledAs p id r) :
    SettledAs q id r := by
  obtain ⟨call, mem, own, e, he, settles⟩ := h
  obtain ⟨call', mem', req, hist⟩ := grows call mem
  exact ⟨call', mem', req ▸ own, e, hist e he, settles⟩

/-- Only an effect's own call settles it. -/
theorem effectId_of_settles {φ : Phase} (may : φ.permits cfg False c)
    (settles : c.settles = some (id, r)) : φ.effectId? = some id := by
  cases c with
  | settleEffect id' r' => cases settles; rw [show φ = .settling id from may]; rfl
  | settleExpiredRoomCollection n code id' r' =>
    cases settles
    obtain ⟨stage, rfl⟩ := may
    rfl
  | settleRuntimeTeardown n code g id' r' =>
    cases settles
    rw [show φ = .torn n code g id r' from may]
    rfl
  | _ => cases settles

theorem step_tracked {p : Pool (machine cfg)} {mv : Move (machine cfg)}
    (conf : (roomDiscipline cfg False).Conforming p) (entry : (served cfg False).guard p mv)
    (step : p.step? mv = some q) (inv : Tracked p) : Tracked q := by
  have grows := step_grows step
  cases mv with
  | start r =>
    cases step
    have bare : r.effectId? = none := by cases r <;> first | rfl | cases entry
    refine ⟨?_, distinct_append inv.alone bare, ?_, ?_, ?_, ?_⟩
    · intro call hcall id own
      rcases List.mem_append.mp hcall with old | new
      · exact inv.drawn call old id own
      · cases List.mem_singleton.mp new
        exact absurd (bare.symm.trans own) (by simp)
    · exact fun n id task named => (inv.named n id task named).grows grows
    · intro call hcall e he r' starts
      rcases List.mem_append.mp hcall with old | new
      · exact (inv.started call old e he r' starts).grows grows
      · cases List.mem_singleton.mp new
        cases he
    · exact fun id r' known => (inv.known id r' known).grows grows
    · intro call hcall id bound r' told
      rcases List.mem_append.mp hcall with old | new
      · exact (inv.told call old id bound r' told).grows grows
      · cases List.mem_singleton.mp new
        cases told
  | event e =>
    simp only [Pool.step?, Option.map_eq_some_iff] at step
    obtain ⟨σ, hσ, rfl⟩ := step
    obtain ⟨fresh, results⟩ := occur_fresh hσ
    refine ⟨?_, inv.alone, ?_, ?_, ?_, ?_⟩
    · intro call hcall id own
      exact fresh ▸ inv.drawn call hcall id own
    · intro n id task named
      obtain ⟨closing, same⟩ := occur_node hσ n
      refine (inv.named n id task ?_).grows grows
      rw [same] at named
      cases task <;> exact named
    · exact fun call hcall e he r' starts => (inv.started call hcall e he r' starts).grows grows
    · exact fun id r' known => (inv.known id r' (results id ▸ known)).grows grows
    · exact fun call hcall id bound r' told => (inv.told call hcall id bound r' told).grows grows
  | run i ch =>
    obtain ⟨own, c, k, a, σ, spawned, at_i, rest, hexec, rfl⟩ := run?_cases step
    have mem := List.mem_of_getElem? at_i
    have within : i < p.calls.length := (List.getElem?_eq_some_iff.mp at_i).1
    have ids := spawned_ids (exec_spawned hexec)
    have here : own.answered c k a ∈ p.calls.set i (own.answered c k a) ++ spawned.map .fresh :=
      List.mem_append_left _ (List.mem_set within _)
    have cases_of : ∀ call ∈ p.calls.set i (own.answered c k a) ++ spawned.map Call.fresh,
        call ∈ p.calls ∨ call = own.answered c k a ∨ ∃ r ∈ spawned, call = .fresh r := by
      intro call hcall
      rcases List.mem_append.mp hcall with set | new
      · rcases List.mem_or_eq_of_mem_set set with old | rfl
        · exact .inl old
        · exact .inr (.inl rfl)
      · obtain ⟨r, hr, rfl⟩ := List.mem_map.mp new
        exact .inr (.inr ⟨r, hr, rfl⟩)
    have calledSpawned : ∀ r ∈ spawned, Called
        (⟨σ, p.calls.set i (own.answered c k a) ++ spawned.map .fresh⟩ : Pool (machine cfg)) r :=
      fun r hr => ⟨.fresh r, List.mem_append_right _ (List.mem_map_of_mem hr), rfl⟩
    refine ⟨?_, ?_, ?_, ?_, ?_, ?_⟩
    · intro call hcall id owns
      rcases cases_of call hcall with old | rfl | ⟨r, hr, rfl⟩
      · exact Nat.lt_of_lt_of_le (inv.drawn call old id owns) (exec_fresh hexec)
      · exact Nat.lt_of_lt_of_le (inv.drawn own mem id owns) (exec_fresh hexec)
      · obtain ⟨first, next⟩ := ids r hr
        cases first.symm.trans owns
        exact next ▸ Nat.lt_succ_self _
    · refine distinct_step inv.alone at_i (fun _ h => h)
        (distinct_of_length_le_one (by simpa using spawned_length (exec_spawned hexec))) ?_
      intro call hcall id owns call' old clash
      obtain ⟨r, hr, rfl⟩ := List.mem_map.mp hcall
      cases (ids r hr).1.symm.trans owns
      exact absurd (inv.drawn call' old _ clash) (Nat.lt_irrefl _)
    · intro n id task named
      rcases exec_names hexec named with old | new
      · exact (inv.named n id task old).grows grows
      · exact calledSpawned _ new
    · intro call hcall e he r starts
      rcases cases_of call hcall with old | rfl | ⟨r', hr, rfl⟩
      · exact (inv.started call old e he r starts).grows grows
      · rcases List.mem_cons.mp he with rfl | earlier
        · rcases exec_starts hexec starts with new | ⟨n, id, task, rfl, named⟩
          · exact calledSpawned _ new
          · exact (inv.named n id task named).grows grows
        · exact (inv.started own mem e earlier r starts).grows grows
      · cases he
    · intro id r known
      rcases exec_result hexec known with old | settles
      · exact (inv.known id r old).grows grows
      · have follows := conf own mem
        rw [rest] at follows
        have owns : own.req.effectId? = some id :=
          req_of_effectId (effectId_of_settles follows.1 settles)
        exact ⟨_, here, owns, ⟨c, a⟩, List.mem_cons_self .., settles⟩
    · intro call hcall id bound r told
      rcases cases_of call hcall with old | rfl | ⟨r', hr, rfl⟩
      · exact (inv.told call old id bound r told).grows grows
      · rcases List.mem_cons.mp told with now | earlier
        · cases now
          exact (inv.known id r ((awaitEffect_result hexec).2 r rfl)).grows grows
        · exact (inv.told own mem id bound r earlier).grows grows
      · cases told

/-- Over every run from nodes just started. -/
theorem run_tracked (booted : w.Booted) (run : Run (served cfg False).guard ⟨w, []⟩ q) :
    (roomDiscipline cfg False).Conforming q ∧ Tracked q := by
  have invariants : ∀ {p q : Pool (machine cfg)}, Run (served cfg False).guard p q →
      p = ⟨w, []⟩ → ((roomDiscipline cfg False).Conforming q ∧
        Registered q.shared (phases (roomDiscipline cfg False) q)) ∧ Tracked q := by
    intro p q run start
    induction run with
    | refl =>
      subst start
      obtain ⟨conf, none_yet⟩ := conforming_of_no_calls (D := roomDiscipline cfg False)
        (p := (⟨w, []⟩ : Pool (machine cfg))) rfl
      refine ⟨⟨conf, ?_⟩, ?_⟩
      · rw [none_yet]
        exact ⟨booted.keyed, (fun _ h => nomatch h), distinct_nil⟩
      · refine ⟨(fun _ h => nomatch h), distinct_nil, ?_, (fun _ h => nomatch h), ?_,
          (fun _ h => nomatch h)⟩
        · intro n id task named
          have idle : w.nodes n = {} := booted.idle n
          rw [show (⟨w, []⟩ : Pool (machine cfg)).shared.nodes n = {} from idle] at named
          cases task <;> cases named
        · intro id r known
          change w.result? id = some r at known
          rw [World.result?, booted.effects] at known
          cases known
    | step mv before ok step ih =>
      obtain ⟨⟨conf, inv⟩, tracked⟩ := ih
      exact ⟨step_invariant (registered_preserved cfg) ok step conf inv,
        step_tracked conf ok step tracked⟩
  obtain ⟨⟨conf, -⟩, tracked⟩ := invariants run rfl
  exact ⟨conf, tracked⟩

end BiliSyncPlay
