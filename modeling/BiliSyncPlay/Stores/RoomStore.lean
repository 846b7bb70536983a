import BiliSyncPlay.JsMap
import Mathlib.Data.Rat.Defs

/-!
# The room store

The persisted half of a room, as `room-store.ts` keeps it: one record per code, written only
through guarded updates. Identifiers and tokens are opaque and compared for equality alone.
-/

namespace BiliSyncPlay

abbrev Time := Nat
abbrev Code := Nat
abbrev SessionId := Nat
/-- A member goes by the id of the session that first took the seat. -/
abbrev MemberId := Nat
abbrev Token := Nat
abbrev Generation := Nat

inductive PlaybackPlayState where
  | playing | paused | buffering
  deriving DecidableEq, Repr

inductive PlaybackSyncIntent where
  | explicitSeek | explicitRatechange
  deriving DecidableEq, Repr

structure SharedVideo where
  videoId : String
  url : String
  title : String
  sharedByMemberId : Option MemberId
  sharedByDisplayName : Option String
  deriving DecidableEq

structure PlaybackState where
  url : String
  currentTime : Rat
  playState : PlaybackPlayState
  syncIntent : Option PlaybackSyncIntent
  userInitiated : Option Bool
  naturalEnd : Option Bool
  playbackRate : Rat
  updatedAt : Time
  serverTime : Time
  actorId : MemberId
  seq : Nat
  deriving DecidableEq

structure PersistedRoom where
  code : Code
  joinToken : Token
  createdAt : Time
  ownerMemberId : Option MemberId
  ownerDisplayName : Option String
  sharedVideo : Option SharedVideo
  playback : Option PlaybackState
  version : Nat
  lastActiveAt : Time
  expiresAt : Option Time
  deriving DecidableEq

structure CreatePersistedRoomInput where
  code : Code
  joinToken : Token
  createdAt : Time
  ownerMemberId : Option MemberId
  ownerDisplayName : Option String
  deriving DecidableEq

/-- `none` leaves a field alone; `some none` writes null. -/
structure PersistedRoomPatch where
  ownerDisplayName : Option (Option String) := none
  sharedVideo : Option (Option SharedVideo) := none
  playback : Option (Option PlaybackState) := none
  lastActiveAt : Option Time := none
  expiresAt : Option (Option Time) := none
  deriving DecidableEq

/-- What an update may overwrite: a version its caller read, or a room instance, possibly at
one version. -/
inductive RoomUpdateGuard where
  | version (expected : Nat)
  | inst (joinToken : Token) (version : Option Nat)
  deriving DecidableEq

inductive RoomUpdateRefusal where
  | notFound | versionConflict
  deriving DecidableEq, Repr

inductive RoomUpdateResult where
  | ok (room : PersistedRoom)
  | refused (reason : RoomUpdateRefusal)
  deriving DecidableEq

inductive RoomDeleteOutcome where
  | deleted | alreadyDeleted | superseded
  deriving DecidableEq, Repr

abbrev RoomStore := JsMap Code PersistedRoom

def createPersistedRoom (input : CreatePersistedRoomInput) : PersistedRoom where
  code := input.code
  joinToken := input.joinToken
  createdAt := input.createdAt
  ownerMemberId := input.ownerMemberId
  ownerDisplayName := input.ownerDisplayName
  sharedVideo := none
  playback := none
  version := 0
  lastActiveAt := input.createdAt
  expiresAt := none

def PersistedRoom.patched (room : PersistedRoom) (patch : PersistedRoomPatch) (now : Time) :
    PersistedRoom :=
  { room with
    ownerDisplayName := patch.ownerDisplayName.getD room.ownerDisplayName
    sharedVideo := patch.sharedVideo.getD room.sharedVideo
    playback := patch.playback.getD room.playback
    expiresAt := patch.expiresAt.getD room.expiresAt
    version := room.version + 1
    lastActiveAt := patch.lastActiveAt.getD now }

/-- Why a guard turns an update of this record away, if it does. -/
def RoomUpdateGuard.refusal (guard : RoomUpdateGuard) (room : PersistedRoom) :
    Option RoomUpdateRefusal :=
  match guard with
  | .version expected => if room.version ≠ expected then some .versionConflict else none
  | .inst joinToken pinned =>
    if room.joinToken ≠ joinToken then some .notFound
    else match pinned with
      | some v => if room.version ≠ v then some .versionConflict else none
      | none => none

def PersistedRoom.expired (room : PersistedRoom) (now : Time) : Bool :=
  match room.expiresAt with
  | some t => t ≤ now
  | none => false

namespace RoomStore

/-- `none`: the code is taken. -/
def createRoom (store : RoomStore) (input : CreatePersistedRoomInput) :
    Option (PersistedRoom × RoomStore) :=
  if store.has input.code then none
  else
    let room := createPersistedRoom input
    some (room, store.set room.code room)

def getRoom (store : RoomStore) (code : Code) : Option PersistedRoom := store.get? code

def updateRoom (store : RoomStore) (code : Code) (expected : RoomUpdateGuard)
    (patch : PersistedRoomPatch) (now : Time) : RoomUpdateResult × RoomStore :=
  match store.get? code with
  | none => (.refused .notFound, store)
  | some room =>
    match expected.refusal room with
    | some reason => (.refused reason, store)
    | none =>
      let next := room.patched patch now
      (.ok next, store.set code next)

def deleteExpiredRoom (store : RoomStore) (code : Code) (now : Time) :
    RoomDeleteOutcome × RoomStore :=
  match store.get? code with
  | none => (.alreadyDeleted, store)
  | some room => if room.expired now then (.deleted, store.delete code) else (.superseded, store)

/-- Every record sits under its own code. -/
def Keyed (store : RoomStore) : Prop := ∀ c r, store.getRoom c = some r → r.code = c

theorem getRoom_createRoom {store store' : RoomStore} {input : CreatePersistedRoomInput}
    {room : PersistedRoom} (h : store.createRoom input = some (room, store')) :
    store.getRoom input.code = none ∧ room = createPersistedRoom input ∧
      ∀ c, store'.getRoom c = if input.code = c then some room else store.getRoom c := by
  unfold createRoom at h
  split at h
  · cases h
  · rename_i free
    obtain ⟨rfl, rfl⟩ := Prod.mk.inj (Option.some.inj h)
    refine ⟨by simpa [JsMap.has, getRoom] using free, rfl, fun c => ?_⟩
    exact JsMap.get?_set store _ _ _

/-- An update applies exactly when the record is there and the guard lets it through. -/
theorem updateRoom_cases (store : RoomStore) (code : Code) (expected : RoomUpdateGuard)
    (patch : PersistedRoomPatch) (now : Time) :
    (∃ room, store.getRoom code = some room ∧ expected.refusal room = none ∧
      (store.updateRoom code expected patch now).1 = .ok (room.patched patch now) ∧
      ∀ c, (store.updateRoom code expected patch now).2.getRoom c =
        if code = c then some (room.patched patch now) else store.getRoom c) ∨
    (∃ reason, (store.updateRoom code expected patch now) = (.refused reason, store) ∧
      ∀ room, store.getRoom code = some room → expected.refusal room = some reason) := by
  unfold updateRoom getRoom
  cases h : store.get? code with
  | none => exact .inr ⟨.notFound, rfl, fun room hr => nomatch hr⟩
  | some room =>
    cases hg : expected.refusal room with
    | some reason => exact .inr ⟨reason, by simp [hg], fun r hr => by cases hr; exact hg⟩
    | none =>
      refine .inl ⟨room, rfl, hg, by simp [hg], fun c => ?_⟩
      simp only [hg]
      exact JsMap.get?_set store _ _ _

theorem deleteExpiredRoom_cases (store : RoomStore) (code : Code) (now : Time) :
    (∃ room, store.getRoom code = some room ∧ room.expired now = true ∧
      (store.deleteExpiredRoom code now).1 = .deleted ∧
      ∀ c, (store.deleteExpiredRoom code now).2.getRoom c =
        if code = c then none else store.getRoom c) ∨
    ((store.deleteExpiredRoom code now).2 = store ∧
      (store.deleteExpiredRoom code now).1 ≠ .deleted ∧
      ((store.deleteExpiredRoom code now).1 = .alreadyDeleted → store.getRoom code = none)) := by
  unfold deleteExpiredRoom getRoom
  cases h : store.get? code with
  | none => exact .inr ⟨rfl, by simp, fun _ => rfl⟩
  | some room =>
    by_cases hx : room.expired now = true
    · refine .inl ⟨room, rfl, hx, by simp [hx], fun c => ?_⟩
      simp only [hx, ↓reduceIte]
      exact JsMap.get?_delete store _ _
    · exact .inr (by simp [hx])

end RoomStore

theorem patched_version (room : PersistedRoom) (patch : PersistedRoomPatch) (now : Time) :
    (room.patched patch now).version = room.version + 1 := rfl

theorem patched_code (room : PersistedRoom) (patch : PersistedRoomPatch) (now : Time) :
    (room.patched patch now).code = room.code := rfl

theorem refusal_version_eq_none {v : Nat} {room : PersistedRoom} :
    (RoomUpdateGuard.version v).refusal room = none ↔ room.version = v := by
  simp [RoomUpdateGuard.refusal]

end BiliSyncPlay
