import BiliSyncPlay.Service.Frames
import BiliSyncPlay.Service.Discipline

/-!
# What commands do

One statement for each part of the world: what a command, or an event, can have done to the
record of a room, to its seats, and which calls it left behind.
-/

namespace BiliSyncPlay

open Interleave

theorem getRoom_foldl_delete (store : RoomStore) (dead : List Code) (code : Code) :
    RoomStore.getRoom (dead.foldl JsMap.delete store) code =
      if code ∈ dead then none else store.getRoom code := JsMap.get?_foldl_delete store dead code

theorem getRoom_deleteExpiredRooms (w : World) (t : Time) (code : Code) :
    (w.deleteExpiredRooms t).2.roomStore.getRoom code = w.roomStore.getRoom code ∨
      ∃ room, w.roomStore.getRoom code = some room ∧ room.expired t = true ∧
        (w.deleteExpiredRooms t).2.roomStore.getRoom code = none := by
  unfold World.deleteExpiredRooms
  dsimp only
  rw [getRoom_foldl_delete]
  split
  · rename_i dead
    obtain ⟨⟨c, room⟩, mem, rfl⟩ := List.mem_map.mp dead
    obtain ⟨mem, expired⟩ := List.mem_filter.mp mem
    exact .inr ⟨room, JsMap.mem_entries_iff.mp mem, expired, rfl⟩
  · exact .inl rfl

/-- What a step did to the record of one room. -/
inductive Recorded (w w' : World) (code : Code) : Option Cmd → Prop where
  | same {c : Option Cmd} (still : w'.roomStore.getRoom code = w.roomStore.getRoom code) :
    Recorded w w' code c
  | created {c : Option Cmd} {input : CreatePersistedRoomInput}
    (asked : ∀ cmd, c = some cmd → cmd = .createRoom input) (own : input.code = code)
    (free : w.roomStore.getRoom code = none)
    (now : w'.roomStore.getRoom code = some (createPersistedRoom input)) : Recorded w w' code c
  | updated {c : Option Cmd} {expected : RoomUpdateGuard} {patch : PersistedRoomPatch}
    {room : PersistedRoom} (asked : ∀ cmd, c = some cmd → cmd = .updateRoom code expected patch)
    (found : w.roomStore.getRoom code = some room) (passes : expected.refusal room = none)
    (now : w'.roomStore.getRoom code = some (room.patched patch w.clock)) : Recorded w w' code c
  | deleted {c : Cmd} {t : Time} {room : PersistedRoom}
    (asked : c = .deleteExpiredRoom code t ∨ c = .deleteExpiredRooms t)
    (found : w.roomStore.getRoom code = some room) (expired : room.expired t = true)
    (now : w'.roomStore.getRoom code = none) : Recorded w w' code (some c)

variable {c : Cmd} {cfg : Config} {ch : Choice} {rs : List Req} {w w' : World}

theorem recorded_createRoom {input : CreatePersistedRoomInput} {r : PersistedRoom × RoomStore}
    {c : Option Cmd} (code : Code) (asked : ∀ cmd, c = some cmd → cmd = .createRoom input)
    (created : w.roomStore.createRoom input = some r) (landed : w'.roomStore = r.2) :
    Recorded w w' code c := by
  obtain ⟨free, room, next⟩ := RoomStore.getRoom_createRoom created
  by_cases own : input.code = code
  · refine .created asked own (own ▸ free) ?_
    rw [landed, ← room]
    exact (next code).trans (if_pos own)
  · refine .same ?_
    rw [landed]
    exact (next code).trans (if_neg own)

theorem recorded_updateRoom {c : Code} {expected : RoomUpdateGuard} {patch : PersistedRoomPatch}
    {by_ : Option Cmd} (code : Code)
    (asked : ∀ cmd, by_ = some cmd → cmd = .updateRoom c expected patch)
    (landed : w'.roomStore = (w.roomStore.updateRoom c expected patch w.clock).2) :
    Recorded w w' code by_ := by
  rcases RoomStore.updateRoom_cases w.roomStore c expected patch w.clock with
    ⟨room, found, passes, -, next⟩ | ⟨reason, refused, -⟩
  · by_cases own : c = code
    · subst own
      refine .updated asked found passes ?_
      rw [landed]
      exact (next c).trans (if_pos rfl)
    · refine .same ?_
      rw [landed]
      exact (next code).trans (if_neg own)
  · refine .same ?_
    rw [landed, refused]

theorem exec_record {a : c.Ans} (h : exec cfg c ch w = some (a, w', rs)) (code : Code) :
    Recorded w w' code (some c) := by
  have stored : ∀ {α : Type} {r : α × World} {write : Option LateWrite} {b : Except Fault α},
      w.call ch r write = some (b, w', rs) →
      w'.roomStore = w.roomStore ∨ w'.roomStore = r.2.roomStore := by
    intro α r write b hcall
    obtain ⟨-, ⟨-, rfl⟩ | ⟨f, -, rfl | rfl | ⟨l, -, rfl⟩⟩⟩ := call_cases hcall
    · exact .inr rfl
    · exact .inl rfl
    · exact .inr rfl
    · exact .inl rfl
  cases c with
  | createRoom input =>
    simp only [exec] at h
    split at h
    · rename_i r created
      rcases stored h with same | landed
      · exact .same (by rw [same])
      · exact recorded_createRoom code (fun _ h => (Option.some.inj h).symm) created landed
    · refine .same ?_
      split at h
      · cases h; rfl
      · rcases stored h with same | same <;> rw [same]
  | updateRoom c expected patch =>
    have applied : ∀ {b write}, w.call ch (w.withStore
        (w.roomStore.updateRoom c expected patch w.clock)) write = some (b, w', rs) →
        Recorded w w' code (some (.updateRoom c expected patch)) := by
      intro b write hcall
      rcases stored hcall with same | landed
      · exact .same (by rw [same])
      · exact recorded_updateRoom code (fun _ h => (Option.some.inj h).symm) landed
    simp only [exec] at h
    split at h
    · cases h; exact .same rfl
    · split at h
      · cases h
      · exact applied h
    · exact applied h
  | deleteExpiredRoom c t =>
    simp only [exec] at h
    rcases stored h with same | landed
    · exact .same (by rw [same])
    · rcases RoomStore.deleteExpiredRoom_cases w.roomStore c t with
        ⟨room, found, expired, -, next⟩ | ⟨same, -⟩
      · by_cases own : c = code
        · subst own
          refine .deleted (.inl rfl) found expired ?_
          rw [landed]
          exact (next c).trans (if_pos rfl)
        · refine .same ?_
          rw [landed]
          exact (next code).trans (if_neg own)
      · refine .same ?_
        rw [landed, World.withStore, same]
  | deleteExpiredRooms t =>
    simp only [exec] at h
    rcases stored h with same | landed
    · exact .same (by rw [same])
    · rcases getRoom_deleteExpiredRooms w t code with same | ⟨room, found, expired, gone⟩
      · exact .same (by rw [landed, same])
      · exact .deleted (.inr rfl) found expired (by rw [landed, gone])
  | _ => exact .same (by rw [exec_records h rfl])

theorem occur_record {e : Event} (h : occur e w = some w') (code : Code) :
    Recorded w w' code none := by
  cases e with
  | tick | closeSocket | beginShutdown | orphan => cases h; exact .same rfl
  | land i =>
    simp only [occur, Option.map_eq_some_iff] at h
    obtain ⟨l, -, rfl⟩ := h
    cases l with
    | create input =>
      dsimp only
      split
      · rename_i r created
        exact recorded_createRoom (w := w) code (fun _ h => nomatch h) created rfl
      · exact .same rfl
    | update c expected patch =>
      exact recorded_updateRoom (w := w) code (fun _ h => nomatch h) rfl
    | mark => exact .same rfl

/-- Records stay under their own codes. -/
theorem Recorded.keyed {c : Option Cmd} (h : ∀ code, Recorded w w' code c)
    (keyed : w.roomStore.Keyed) : w'.roomStore.Keyed := by
  intro code room found
  cases h code with
  | same still => exact keyed code room (still ▸ found)
  | created _ own _ now => rw [now] at found; cases found; exact own
  | updated _ old _ now => rw [now] at found; cases found; exact (patched_code ..).trans (keyed code _ old)
  | deleted _ _ _ now => rw [now] at found; cases found

/-! ## Answers -/

/-- An answer that is no fault is the ideal one. -/
theorem call_ok {α : Type} {r : α × World} {write : Option LateWrite} {b : α}
    (h : w.call ch r write = some (.ok b, w', rs)) :
    b = r.1 ∧ w' = r.2 := by
  obtain ⟨-, ⟨ok, rfl⟩ | ⟨f, error, -⟩⟩ := call_cases h
  · exact ⟨Except.ok.inj ok, rfl⟩
  · cases error

theorem updateRoom_ok {code : Code} {expected : RoomUpdateGuard} {patch : PersistedRoomPatch}
    {result : RoomUpdateResult}
    (h : exec cfg (.updateRoom code expected patch) ch w = some (.ok result, w', rs)) :
    (∃ joinToken, expected = .inst joinToken none ∧ ch = .conflict ∧
      result = .refused .versionConflict ∧ w' = w) ∨
    (result = (w.roomStore.updateRoom code expected patch w.clock).1 ∧
      w' = { w with roomStore := (w.roomStore.updateRoom code expected patch w.clock).2 }) := by
  simp only [exec] at h
  split at h
  · cases h
    exact .inl ⟨_, rfl, rfl, rfl, rfl⟩
  · split at h
    · cases h
    · exact .inr (call_ok h)
  · exact .inr (call_ok h)

theorem plausible_exec {a : c.Ans} (h : exec cfg c ch w = some (a, w', rs))
    (keyed : w.roomStore.Keyed) :
    c.Plausible a := by
  cases c with
  | getRoom code =>
    cases a with
    | error f => trivial
    | ok found =>
      cases found with
      | none => trivial
      | some room =>
        simp only [exec] at h
        exact keyed code room (call_ok h).1.symm
  | createRoom input =>
    cases a with
    | error f => trivial
    | ok room =>
      simp only [exec] at h
      split at h
      · rename_i r created
        rw [(call_ok h).1]
        exact (RoomStore.getRoom_createRoom created).2.1
      · split at h
        · cases h
        · exact (call_ok h).1
  | updateRoom code expected patch =>
    cases a with
    | error f => trivial
    | ok answer =>
      cases answer with
      | refused r => trivial
      | ok room =>
        rcases updateRoom_ok h with ⟨_, -, -, refused, -⟩ | ⟨result, -⟩
        · cases refused
        · rcases RoomStore.updateRoom_cases w.roomStore code expected patch w.clock with
            ⟨old, found, -, ok, -⟩ | ⟨reason, refused, -⟩
          · rw [ok] at result
            cases result
            exact keyed code old found
          · rw [refused] at result
            cases result
  | _ => trivial

/-! ## Spawned calls -/

/-- What a command starts: nothing, or one effect under a fresh id. -/
inductive Spawned (w w' : World) : Cmd → List Req → Prop where
  | none {c : Cmd} : Spawned w w' c []
  | tracked {n : NodeId} {task : Task} (fresh : w'.fresh = w.fresh + 1) :
    Spawned w w' (.track n task) [.effect n w.fresh task]
  | collection {n : NodeId} {code : Code} (fresh : w'.fresh = w.fresh + 1)
    (first : (w.nodes n).expiredRoomCollectionEffects.get? code = .none) :
    Spawned w w' (.getOrStartExpiredRoomCollection n code)
      [.effect n w.fresh (.collectExpiredRoom code)]
  | teardown {n : NodeId} {code : Code} {g : Option Generation} (fresh : w'.fresh = w.fresh + 1)
    (first : (w.nodes n).runtimeTeardownEffects.get? (code, g) = .none) :
    Spawned w w' (.startRuntimeTeardownEffect n code g) [.effect n w.fresh (.teardown code g)]

theorem exec_spawned {a : c.Ans} (h : exec cfg c ch w = some (a, w', rs)) : Spawned w w' c rs := by
  cases c with
  | track n task =>
    cases h
    exact .tracked rfl
  | getOrStartExpiredRoomCollection n code =>
    simp only [exec, answer] at h
    split at h
    · cases h; exact .none
    · cases h; exact .collection rfl ‹_›
  | startRuntimeTeardownEffect n code g =>
    simp only [exec, World.startRuntimeTeardownEffect] at h
    split at h
    · cases h; exact .none
    · cases h; exact .teardown rfl ‹_›
  | awaitEffect => rw [(awaitEffect_cases h).1]; exact .none
  | acquireDistributedJoinLock =>
    rw [(acquireJoinLock_frame records h fun _ _ => rfl).2]; exact .none
  | createRoom => rw [(createRoom_frame ⟨fun _ => (), fun _ _ => rfl⟩ (fun _ _ => rfl) h).2]; exact .none
  | updateRoom => rw [(updateRoom_frame ⟨fun _ => (), fun _ _ => rfl⟩ (fun _ _ => rfl) h).2]; exact .none
  | nextRoomCode => cases ch <;> cases h; exact .none
  | awaitJoinTurn => simp only [exec] at h; split at h <;> cases h; exact .none
  | rememberRuntimeTeardownDebt =>
    simp only [exec, answer] at h; split at h <;> cases h <;> exact .none
  | _ =>
    simp only [exec] at h
    first
    | (cases h; exact .none)
    | (rw [(call_cases h).1]; exact .none)
    | (rw [(attempt_cases h).1]; exact .none)

/-! ## Nodes -/

/-- The ledger after a teardown reported: its debt is paid, or owed by nobody again. -/
def settledDebts (pending : JsMap Code RuntimeTeardownDebt) (code : Code) (id : EffectId)
    (result : Except Fault Bool) : JsMap Code RuntimeTeardownDebt :=
  match pending.get? code with
  | some debt =>
    if debt.owner = some id then
      if result.toOption = some true then pending.delete code
      else pending.set code { debt with owner := none }
    else pending
  | none => pending

/-- What a command did to one node. -/
inductive Renoded (w w' : World) (n : NodeId) : Cmd → Prop where
  | same {c : Cmd} (still : w'.nodes n = w.nodes n) : Renoded w w' n c
  | reckoned {c : Cmd} {authorities : JsMap Code PlaybackAuthority} {t : Time}
    (now : w'.nodes n = { w.nodes n with
      playbackAuthorityByRoom := authorities, lastAuthoritySweepAt := t }) : Renoded w w' n c
  | enqueued {code : Code}
    (now : w'.nodes n = { w.nodes n with
      joinQueues := (w.nodes n).joinQueues.set code
        (((w.nodes n).joinQueues.get? code).getD [] ++ [w.fresh]) }) :
    Renoded w w' n (.enterJoinQueue n code)
  | dequeued {code : Code} {ticket : Ticket}
    (now : w'.nodes n = { w.nodes n with
      joinQueues := (w.nodes n).joinQueues.set code
        ((((w.nodes n).joinQueues.get? code).getD []).erase ticket) }) :
    Renoded w w' n (.leaveJoinQueue n code ticket)
  | collecting {code : Code} (first : (w.nodes n).expiredRoomCollectionEffects.get? code = none)
    (now : w'.nodes n = { w.nodes n with
      expiredRoomCollectionEffects := (w.nodes n).expiredRoomCollectionEffects.set code w.fresh }) :
    Renoded w w' n (.getOrStartExpiredRoomCollection n code)
  | collected {code : Code} {id : EffectId} {result : Settled}
    (now : w'.nodes n = { w.nodes n with
      expiredRoomCollectionEffects :=
        if (w.nodes n).expiredRoomCollectionEffects.get? code = some id
        then (w.nodes n).expiredRoomCollectionEffects.delete code
        else (w.nodes n).expiredRoomCollectionEffects }) :
    Renoded w w' n (.settleExpiredRoomCollection n code id result)
  | remembered {code : Code} (absent : (w.nodes n).pendingRuntimeTeardowns.has code = false)
    (now : w'.nodes n = { w.nodes n with
      pendingRuntimeTeardowns := (w.nodes n).pendingRuntimeTeardowns.set code ⟨w.fresh, none⟩ }) :
    Renoded w w' n (.rememberRuntimeTeardownDebt n code)
  | forgot {code : Code}
    (now : w'.nodes n = { w.nodes n with
      pendingRuntimeTeardowns := (w.nodes n).pendingRuntimeTeardowns.delete code }) :
    Renoded w w' n (.forgetRuntimeTeardownDebt n code)
  | tearing {code : Code} {g : Option Generation}
    (first : (w.nodes n).runtimeTeardownEffects.get? (code, g) = none)
    (now : w'.nodes n = { w.nodes n with
      runtimeTeardownEffects := (w.nodes n).runtimeTeardownEffects.set (code, g) w.fresh
      pendingRuntimeTeardowns :=
        (w.nodes n).pendingRuntimeTeardowns.set code ⟨w.fresh, some w.fresh⟩ }) :
    Renoded w w' n (.startRuntimeTeardownEffect n code g)
  | torn {code : Code} {g : Option Generation} {id : EffectId} {result : Except Fault Bool}
    (now : w'.nodes n = { w.nodes n with
      runtimeTeardownEffects :=
        if (w.nodes n).runtimeTeardownEffects.get? (code, g) = some id
        then (w.nodes n).runtimeTeardownEffects.delete (code, g)
        else (w.nodes n).runtimeTeardownEffects
      pendingRuntimeTeardowns :=
        settledDebts (w.nodes n).pendingRuntimeTeardowns code id result }) :
    Renoded w w' n (.settleRuntimeTeardown n code g id result)

theorem World.setNode_nodes (w : World) (n m : NodeId) (node : Node) :
    (w.setNode n node).nodes m = if m = n then node else w.nodes m := rfl

theorem World.settleRuntimeTeardown_nodes (w : World) (n m : NodeId) (code : Code)
    (g : Option Generation) (id : EffectId) (result : Except Fault Bool) :
    (w.settleRuntimeTeardown n code g id result).nodes m = if m = n then
      { w.nodes n with
        runtimeTeardownEffects :=
          if (w.nodes n).runtimeTeardownEffects.get? (code, g) = some id
          then (w.nodes n).runtimeTeardownEffects.delete (code, g)
          else (w.nodes n).runtimeTeardownEffects
        pendingRuntimeTeardowns :=
          settledDebts (w.nodes n).pendingRuntimeTeardowns code id result }
      else w.nodes m := by
  unfold settleRuntimeTeardown
  dsimp only
  split <;> rfl

/-- Setting a node is a step of that node, and none of another. -/
theorem renoded_setNode {n m : NodeId} {node : Node}
    (set : w'.nodes n = if n = m then node else w.nodes n)
    (own : n = m → w'.nodes n = node → Renoded w w' n c) : Renoded w w' n c := by
  by_cases same : n = m
  · exact own same (by rw [set, if_pos same])
  · exact .same (by rw [set, if_neg same])

def nodeOf (n : NodeId) : Part Node := ⟨fun w => w.nodes n, fun _ _ => rfl⟩

theorem exec_renoded {a : c.Ans} (h : exec cfg c ch w = some (a, w', rs)) (n : NodeId) :
    Renoded w w' n c := by
  cases c with
  | awaitEffect => obtain ⟨-, effects, rfl⟩ := awaitEffect_cases h; exact .same rfl
  | acquireDistributedJoinLock =>
    exact .same (acquireJoinLock_frame (nodeOf n) h fun _ _ => rfl).1
  | createRoom => exact .same (createRoom_frame (nodeOf n) (fun _ _ => rfl) h).1
  | updateRoom => exact .same (updateRoom_frame (nodeOf n) (fun _ _ => rfl) h).1
  | nextRoomCode => cases ch <;> cases h; exact .same rfl
  | awaitJoinTurn => simp only [exec] at h; split at h <;> cases h; exact .same rfl
  | enterJoinQueue m code =>
    cases h
    refine renoded_setNode (World.setNode_nodes ..) ?_
    rintro rfl now
    exact .enqueued now
  | leaveJoinQueue m code ticket =>
    cases h
    refine renoded_setNode (World.setNode_nodes ..) ?_
    rintro rfl now
    exact .dequeued now
  | getOrStartExpiredRoomCollection m code =>
    simp only [exec, answer] at h
    split at h <;> cases h
    · exact .same rfl
    · refine renoded_setNode (World.setNode_nodes ..) ?_
      rintro rfl now
      exact .collecting ‹_› now
  | settleExpiredRoomCollection m code id result =>
    cases h
    refine renoded_setNode (World.setNode_nodes ..) ?_
    rintro rfl now
    exact .collected now
  | rememberRuntimeTeardownDebt m code =>
    simp only [exec, answer] at h
    split at h
    · cases h; exact .same rfl
    · rename_i absent
      cases h
      refine renoded_setNode (World.setNode_nodes ..) ?_
      rintro rfl now
      exact .remembered (Bool.eq_false_iff.mpr absent) now
  | forgetRuntimeTeardownDebt m code =>
    cases h
    refine renoded_setNode (World.setNode_nodes ..) ?_
    rintro rfl now
    exact .forgot now
  | startRuntimeTeardownEffect m code g =>
    simp only [exec, World.startRuntimeTeardownEffect] at h
    split at h <;> cases h
    · exact .same rfl
    · refine renoded_setNode (World.setNode_nodes ..) ?_
      rintro rfl now
      exact .tearing ‹_› now
  | settleRuntimeTeardown m code g id result =>
    cases h
    refine renoded_setNode (World.settleRuntimeTeardown_nodes ..) ?_
    rintro rfl now
    exact .torn now
  | setSessionDisplayName s name =>
    simp only [exec, answer, Option.some.injEq, Prod.mk.injEq] at h
    rw [← h.2.1]
    unfold World.setSessionDisplayName
    dsimp only
    split <;> exact .same rfl
  | getPlaybackAuthority m code =>
    simp only [exec, answer, Option.some.injEq, Prod.mk.injEq] at h
    rw [← h.2.1]
    unfold World.getPlaybackAuthority
    dsimp only
    split
    · exact .same rfl
    · split
      · refine renoded_setNode (World.setNode_nodes ..) ?_
        rintro rfl now
        exact .reckoned now
      · exact .same rfl
  | recordPlaybackAuthority m code =>
    have swept : ∃ authorities t, (w.sweepExpiredPlaybackAuthorities m).nodes n =
        { w.nodes n with playbackAuthorityByRoom := authorities, lastAuthoritySweepAt := t } := by
      unfold World.sweepExpiredPlaybackAuthorities
      dsimp only
      split
      · exact ⟨_, _, rfl⟩
      · rw [World.setNode_nodes]
        split
        · rename_i same; subst same; exact ⟨_, _, rfl⟩
        · exact ⟨_, _, rfl⟩
    obtain ⟨authorities, t, swept⟩ := swept
    cases h
    unfold World.recordPlaybackAuthority
    dsimp only
    by_cases same : n = m
    · subst same
      apply Renoded.reckoned
      rw [World.setNode_nodes, if_pos rfl, swept]
    · apply Renoded.reckoned
      rw [World.setNode_nodes, if_neg same, swept]
  | decrementConnectionCount s => cases h; exact .same (by cases cfg.addressOf s <;> rfl)
  | markSessionJoinedRoom | markSessionLeftRoom =>
    simp only [exec] at h
    refine .same (call_frame (nodeOf n) h ?_)
    simp only [World.markSessionJoinedRoom, World.markSessionLeftRoom]
    split <;> rfl
  | _ =>
    simp only [exec] at h
    first
    | (cases h; exact .same rfl)
    | exact .same (call_frame (nodeOf n) h rfl)
    | exact .same (attempt_frame (nodeOf n) h rfl)

/-- An event leaves a node alone, but for starting its shutdown. -/
theorem occur_node {e : Event} (h : occur e w = some w') (n : NodeId) :
    ∃ closing, w'.nodes n = { w.nodes n with closing } := by
  cases e with
  | tick | closeSocket | orphan => cases h; exact ⟨_, rfl⟩
  | beginShutdown m =>
    cases h
    by_cases same : n = m
    · subst same; exact ⟨true, by simp [World.setNode_nodes]⟩
    · exact ⟨_, by simp [World.setNode_nodes, same]; rfl⟩
  | land i =>
    simp only [occur, Option.map_eq_some_iff] at h
    obtain ⟨l, -, rfl⟩ := h
    cases l with
    | create input => dsimp only; split <;> exact ⟨_, rfl⟩
    | update | mark => exact ⟨_, rfl⟩

end BiliSyncPlay
