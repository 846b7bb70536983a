import BiliSyncPlay.Service.Machine

/-!
# What commands leave alone

Few commands write the record of a room, and few write its seats. Everything else is a frame.
-/

namespace BiliSyncPlay

open Interleave

variable {ch : Choice} {rs : List Req} {w' : World} {α β : Type}

/-- A store call answers with its result and effect, or with a fault and at most the effect. -/
theorem call_cases {w : World} {r : α × World} {write : Option LateWrite} {a : Except Fault α}
    (h : w.call ch r write = some (a, w', rs)) :
    rs = [] ∧ ((a = .ok r.1 ∧ w' = r.2) ∨
      ∃ f, a = .error f ∧ (w' = w ∨ w' = r.2 ∨
        ∃ l, write = some l ∧ w' = { w with lateWrites := w.lateWrites ++ [l] })) := by
  unfold World.call answer at h
  split at h
  · cases h; exact ⟨rfl, .inl ⟨rfl, rfl⟩⟩
  · cases h; exact ⟨rfl, .inr ⟨_, rfl, .inl rfl⟩⟩
  · split at h <;> cases h; exact ⟨rfl, .inr ⟨_, rfl, .inr (.inl rfl)⟩⟩
  · split at h
    · split at h <;> cases h; exact ⟨rfl, .inr ⟨_, rfl, .inr (.inr ⟨_, rfl, rfl⟩)⟩⟩
    · cases h
  · cases h

theorem attempt_cases {w : World} {r : α × World} {a : Except Fault α}
    (h : w.attempt ch r = some (a, w', rs)) :
    rs = [] ∧ ((a = .ok r.1 ∧ w' = r.2) ∨ ∃ f, a = .error f ∧ w' = w) := by
  unfold World.attempt answer at h
  split at h <;> cases h
  · exact ⟨rfl, .inl ⟨rfl, rfl⟩⟩
  · exact ⟨rfl, .inr ⟨_, rfl, rfl⟩⟩

/-- A part of the world that a queued late write is no part of. -/
structure Part (β : Type) where
  of : World → β
  late : ∀ w l, of { w with lateWrites := l } = of w

def records : Part RoomStore := ⟨World.roomStore, fun _ _ => rfl⟩

theorem call_frame (part : Part β) {w : World} {r : α × World} {write : Option LateWrite}
    {a : Except Fault α} (h : w.call ch r write = some (a, w', rs)) (same : part.of r.2 = part.of w) :
    part.of w' = part.of w := by
  obtain ⟨-, ⟨-, rfl⟩ | ⟨f, -, rfl | rfl | ⟨l, -, rfl⟩⟩⟩ := call_cases h
  · exact same
  · rfl
  · exact same
  · exact part.late w _

theorem attempt_frame (part : Part β) {w : World} {r : α × World} {a : Except Fault α}
    (h : w.attempt ch r = some (a, w', rs)) (same : part.of r.2 = part.of w) :
    part.of w' = part.of w := by
  obtain ⟨-, ⟨-, rfl⟩ | ⟨f, -, rfl⟩⟩ := attempt_cases h
  · exact same
  · rfl

namespace World

variable (w : World) (n : NodeId) (s : SessionId) (code : Code)

@[simp] theorem setSessionDisplayName_roomStore (name : Option String) :
    (w.setSessionDisplayName s name).2.roomStore = w.roomStore := by
  unfold setSessionDisplayName; dsimp only; split <;> rfl

@[simp] theorem getPlaybackAuthority_roomStore :
    (w.getPlaybackAuthority n code).2.roomStore = w.roomStore := by
  unfold getPlaybackAuthority; dsimp only; split <;> [rfl; split <;> rfl]

@[simp] theorem sweepExpiredPlaybackAuthorities_roomStore :
    (w.sweepExpiredPlaybackAuthorities n).roomStore = w.roomStore := by
  unfold sweepExpiredPlaybackAuthorities; dsimp only; split <;> rfl

@[simp] theorem recordPlaybackAuthority_roomStore (actor : MemberId) (kind : PlaybackAuthorityKind)
    (source : PlaybackAuthoritySource) :
    (w.recordPlaybackAuthority n code actor kind source).roomStore = w.roomStore :=
  sweepExpiredPlaybackAuthorities_roomStore w n

@[simp] theorem settleRuntimeTeardown_roomStore (g : Option Generation) (id : EffectId)
    (r : Except Fault Bool) :
    (w.settleRuntimeTeardown n code g id r).roomStore = w.roomStore := by
  unfold settleRuntimeTeardown; dsimp only; split <;> rfl

@[simp] theorem startRuntimeTeardownEffect_roomStore (g : Option Generation) :
    (w.startRuntimeTeardownEffect n code g).2.1.roomStore = w.roomStore := by
  unfold startRuntimeTeardownEffect; dsimp only; split <;> rfl

@[simp] theorem markSessionJoinedRoom_roomStore :
    (w.markSessionJoinedRoom s code).roomStore = w.roomStore := by
  unfold markSessionJoinedRoom; dsimp only; split <;> rfl

@[simp] theorem markSessionLeftRoom_roomStore :
    (w.markSessionLeftRoom s code).roomStore = w.roomStore := by
  unfold markSessionLeftRoom; dsimp only; split <;> rfl

@[simp] theorem decrementConnectionCount_roomStore (address : Option Address) :
    (w.decrementConnectionCount address).roomStore = w.roomStore := by
  cases address <;> rfl

end World

namespace RuntimeStore

variable (store : RuntimeStore) (s : SessionId) (code c : Code)

end RuntimeStore

/-- A wait changes nothing but what is known of its effect. -/
theorem awaitEffect_cases {w : World} {id : EffectId} {bound : WaitBound} {a : Option Settled}
    (h : w.awaitEffect ch id bound = some (a, w', rs)) :
    rs = [] ∧ ∃ effects, w' = { w with effects } := by
  unfold World.awaitEffect answer at h
  dsimp only at h
  split at h
  · split at h
    · cases h; exact ⟨rfl, _, rfl⟩
    · split at h <;> cases h; exact ⟨rfl, _, rfl⟩
  · split at h
    · cases h
    · cases h; exact ⟨rfl, _, rfl⟩
    · split at h <;> cases h; exact ⟨rfl, _, rfl⟩
  · cases h

theorem acquireJoinLock_frame (part : Part β) {w : World} {code : Code} {deadline : Time}
    {a : Except Fault (Option JoinAdmissionLock)}
    (h : w.acquireDistributedJoinLock ch code deadline = some (a, w', rs)) (same : ∀ locks fresh,
      part.of { w with runtime := { w.runtime with ownedRoomLocks := locks }, fresh } = part.of w) :
    part.of w' = part.of w ∧ rs = [] := by
  unfold World.acquireDistributedJoinLock answer at h
  dsimp only at h
  split at h
  · exact ⟨call_frame part h (same _ _), (call_cases h).1⟩
  · split at h
    · cases h; exact ⟨rfl, rfl⟩
    · split at h <;> cases h; exact ⟨same _ _, rfl⟩
    · cases h

theorem createRoom_frame {β : Type} (part : Part β)
    (store : ∀ w r, part.of { w with roomStore := r } = part.of w) {cfg : Config} {w w' : World} {ch : Choice} {input : CreatePersistedRoomInput}
    {a : Except Fault PersistedRoom} {rs : List Req}
    (h : exec cfg (.createRoom input) ch w = some (a, w', rs)) : part.of w' = part.of w ∧ rs = [] := by
  simp only [exec] at h
  split at h
  · exact ⟨call_frame part h (store _ _), (call_cases h).1⟩
  · split at h
    · cases h; exact ⟨rfl, rfl⟩
    · exact ⟨call_frame part h rfl, (call_cases h).1⟩

theorem updateRoom_frame {β : Type} (part : Part β)
    (store : ∀ w r, part.of { w with roomStore := r } = part.of w) {cfg : Config} {w w' : World} {ch : Choice} {code : Code} {expected : RoomUpdateGuard}
    {patch : PersistedRoomPatch} {a : Except Fault RoomUpdateResult} {rs : List Req}
    (h : exec cfg (.updateRoom code expected patch) ch w = some (a, w', rs)) :
    part.of w' = part.of w ∧ rs = [] := by
  simp only [exec] at h
  split at h
  · cases h; exact ⟨rfl, rfl⟩
  · split at h
    · cases h
    · exact ⟨call_frame part h (store _ _), (call_cases h).1⟩
  · exact ⟨call_frame part h (store _ _), (call_cases h).1⟩

/-- The commands that can change what is persisted of some room. -/
def Cmd.writesRecord : Cmd → Bool
  | .createRoom _ | .updateRoom .. | .deleteExpiredRoom .. | .deleteExpiredRooms _ => true
  | _ => false

theorem exec_records {cfg : Config} {c : Cmd} {w : World} {a : c.Ans}
    (h : exec cfg c ch w = some (a, w', rs)) (hc : c.writesRecord = false) :
    w'.roomStore = w.roomStore := by
  cases c with
  | createRoom | updateRoom | deleteExpiredRoom | deleteExpiredRooms => cases hc
  | awaitEffect => obtain ⟨-, effects, rfl⟩ := awaitEffect_cases h; rfl
  | acquireDistributedJoinLock => exact (acquireJoinLock_frame records h fun _ _ => rfl).1
  | nextRoomCode => cases ch <;> cases h; rfl
  | awaitJoinTurn => simp only [exec] at h; split at h <;> cases h; rfl
  | getOrStartExpiredRoomCollection =>
    simp only [exec, answer] at h; split at h <;> cases h <;> rfl
  | rememberRuntimeTeardownDebt => simp only [exec, answer] at h; split at h <;> cases h <;> rfl
  | startRuntimeTeardownEffect n code g =>
    have := World.startRuntimeTeardownEffect_roomStore w n code g
    rw [Option.some.inj h] at this
    exact this
  | setSessionDisplayName | getPlaybackAuthority | recordPlaybackAuthority
  | settleRuntimeTeardown =>
    simp only [exec, answer, Option.some.injEq, Prod.mk.injEq] at h
    rw [← h.2.1]
    simp
  | markSessionJoinedRoom | markSessionLeftRoom =>
    simp only [exec] at h
    exact call_frame records h (by simp [records])
  | decrementConnectionCount =>
    simp only [exec, answer, Option.some.injEq, Prod.mk.injEq] at h
    rw [← h.2.1]
    exact World.decrementConnectionCount_roomStore ..
  | _ =>
    simp only [exec] at h
    first
    | (cases h; rfl)
    | exact call_frame records h rfl
    | exact attempt_frame records h rfl

end BiliSyncPlay
