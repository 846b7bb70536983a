import BiliSyncPlay.Service.Collect
import BiliSyncPlay.Service.PlaybackAuthority

/-!
# Updating a room

What a seated member writes to the record, and the admin's clearing of a video.
-/

namespace BiliSyncPlay

open Interleave

def MEMBER_TOKEN_INVALID_MESSAGE : String := "Member token is invalid."
def NOT_IN_ROOM_MESSAGE : String := "Join a room first."
def ROOM_HAS_NO_SHARED_VIDEO_MESSAGE : String := "The room does not have a shared video yet."
def PLAYBACK_URL_MISMATCH_MESSAGE : String :=
  "Playback URL does not match the current shared video."

def memberTokenInvalid : Err :=
  .service ⟨.memberTokenInvalid, MEMBER_TOKEN_INVALID_MESSAGE, .memberTokenInvalid, none⟩

def invalidMessage (message : String) : Err :=
  .service ⟨.invalidMessage, message, .invalidMessage, none⟩

def Session.actor (session : Session) (s : SessionId) : MemberId := session.memberId.getD s

/-- The session's record and token, checked against its own node's view of the room. -/
def requireJoinedRoomSession (cfg : Config) (s : SessionId) (memberToken : Token) :
    Service PersistedRoom := do
  let session ← ask (.readSession s)
  match session.roomCode with
  | none => do
    logEvent "auth_failed" none s "not_in_room"
    throw (.service ⟨.notInRoom, NOT_IN_ROOM_MESSAGE, .notInRoom, none⟩)
  | some roomCode => do
    match ← resolveRoom (cfg.nodeOf s) roomCode with
    | none => do
      ask (.clearSessionRoom s)
      logEvent "auth_failed" none s "room_not_found"
      throw roomNotFound
    | some persistedRoom => do
      let activeRoom ← ask (.getActiveRoom persistedRoom.code)
      let session ← ask (.readSession s)
      match activeRoom, session.memberId with
      | some room, some memberId =>
        if room.members.get? memberId ≠ some s then do
          ask (.clearSessionRoom s)
          logEvent "auth_failed" persistedRoom.code s "member_token_invalid"
          throw memberTokenInvalid
        else if session.memberToken ≠ some memberToken ∨
            room.memberTokens.get? memberId ≠ some memberToken then do
          logEvent "auth_failed" session.roomCode s "member_token_invalid"
          throw memberTokenInvalid
        else pure persistedRoom
      | _, _ => do
        ask (.clearSessionRoom s)
        logEvent "auth_failed" persistedRoom.code s "member_token_invalid"
        throw memberTokenInvalid

def releaseMessageSlotBestEffort (code : Code) (key : SlotKey) (token : Token) : Service Unit := do
  match ← ask (.releaseMessageSlot code key token) with
  | .ok _ => pure ()
  | .error _ => logEvent "message_slot_release_failed" code

/-- The playback a share stores: the sharer's own, or a paused start of the shared video. -/
def sharedPlayback (video : SharedVideo) (playback : Option PlaybackState) (actorId : MemberId)
    (currentTime : Time) : PlaybackState :=
  match playback with
  | some playback =>
    { playback with url := video.url, syncIntent := none, actorId, serverTime := currentTime }
  | none =>
    { url := video.url, currentTime := 0, playState := .paused, syncIntent := none
      userInitiated := none, naturalEnd := none, playbackRate := 1, updatedAt := currentTime
      serverTime := currentTime, actorId, seq := 0 }

section
variable (video : SharedVideo) (playback : Option PlaybackState) (actorId : MemberId) (t : Time)

theorem sharedPlayback_url : (sharedPlayback video playback actorId t).url = video.url := by
  cases playback <;> rfl

theorem sharedPlayback_actorId : (sharedPlayback video playback actorId t).actorId = actorId := by
  cases playback <;> rfl

theorem sharedPlayback_serverTime : (sharedPlayback video playback actorId t).serverTime = t := by
  cases playback <;> rfl

end

def writeSharedVideo (cfg : Config) (s : SessionId) (video : SharedVideo)
    (playback : Option PlaybackState) (currentTime : Time) (currentRoom : PersistedRoom) :
    Service (Option PersistedRoom) := do
  let session ← ask (.readSession s)
  let nextPlayback := sharedPlayback video playback (session.actor s) currentTime
  match ← call (ask (.updateRoom currentRoom.code (.version currentRoom.version)
      { sharedVideo := some (some { video with
          sharedByMemberId := some (session.actor s)
          sharedByDisplayName := some session.displayName })
        playback := some (some nextPlayback)
        expiresAt := some none
        lastActiveAt := some currentTime })) with
  | .refused _ => pure none
  | .ok room => do
    ask (.recordPlaybackAuthority (cfg.nodeOf s) currentRoom.code nextPlayback.actorId .share
      .videoShare)
    pure (some room)

def shareVideoForSession (cfg : Config) (s : SessionId) (memberToken : Token) (video : SharedVideo)
    (playback : Option PlaybackState) : Service PersistedRoom := do
  let access ← requireJoinedRoomSession cfg s memberToken
  let currentTime ← ask .now
  let session ← ask (.readSession s)
  let key := SlotKey.share (session.actor s) video.url ((playback.map PlaybackState.seq).getD 0)
  let dedupToken ← ask .generateToken
  if !(← call (ask (.tryClaimMessageSlot access.code key dedupToken (currentTime + 5000)))) then do
    logEvent "video_share_deduplicated" access.code s
    pure access
  else do
    match ← attempt (withVersionRetry (cfg.nodeOf s) access.code
        (writeSharedVideo cfg s video playback currentTime) MAX_VERSION_RETRIES) with
    | .error error => do
      releaseMessageSlotBestEffort access.code key dedupToken
      throw error
    | .ok none => do
      releaseMessageSlotBestEffort access.code key dedupToken
      logEvent "room_persist_failed" access.code s "video_share_conflict"
      throw (internalError)
    | .ok (some room) => do
      logEvent "video_shared" room.code s
      pure room

structure PlaybackResult where
  room : Option PersistedRoom
  ignored : Bool

/-- The playback as stored: the sender's own, under the server's stamp. -/
def stampedPlayback (playback : PlaybackState) (actorId : MemberId) (currentTime : Time) :
    PlaybackState :=
  { playback with actorId, serverTime := currentTime }

def urlsMatch (cfg : Config) (shared : SharedVideo) (playback : PlaybackState) : Bool :=
  match cfg.normalizeBilibiliUrl shared.url, cfg.normalizeBilibiliUrl playback.url with
  | some sharedUrl, some playbackUrl => sharedUrl = playbackUrl
  | _, _ => false

def reportAppliedPlayback (cfg : Config) (s : SessionId) (access : PersistedRoom)
    (nextPlayback : PlaybackState) : Service Unit := do
  let steady := isSteadyTick access.playback nextPlayback
  match derivePlaybackAuthorityKind access.playback nextPlayback with
  | some kind =>
    if !steady then
      ask (.recordPlaybackAuthority (cfg.nodeOf s) access.code nextPlayback.actorId kind
        .playbackUpdate)
  | none => pure ()
  let _ ← ask (.getPlaybackAuthority (cfg.nodeOf s) access.code)
  if !steady then logEvent "playback_update_applied" access.code s

def writePlayback (cfg : Config) (s : SessionId) (access : PersistedRoom) (key : SlotKey)
    (dedupToken : Token) (nextPlayback : PlaybackState) (currentTime : Time) :
    Service PlaybackResult := do
  match ← ask (.updateRoom access.code (.version access.version)
      { playback := some (some nextPlayback)
        expiresAt := some none
        lastActiveAt := some currentTime }) with
  | .error fault => do
    releaseMessageSlotBestEffort access.code key dedupToken
    throw (.store fault)
  | .ok (.refused .versionConflict) => do
    logEvent "room_version_conflict" access.code s
    pure ⟨none, true⟩
  | .ok (.refused .notFound) => do
    releaseMessageSlotBestEffort access.code key dedupToken
    throw roomNotFound
  | .ok (.ok room) => do
    reportAppliedPlayback cfg s access nextPlayback
    pure ⟨room, false⟩

def updatePlaybackForSession (cfg : Config) (s : SessionId) (memberToken : Token)
    (playback : PlaybackState) : Service PlaybackResult := do
  let access ← requireJoinedRoomSession cfg s memberToken
  let session ← ask (.readSession s)
  let key := SlotKey.playback (session.actor s) s playback.seq
  let dedupToken ← ask .generateToken
  let claimedAt ← ask .now
  if !(← call (ask (.tryClaimMessageSlot access.code key dedupToken (claimedAt + 10000)))) then do
    logEvent "playback_update_deduplicated" access.code s
    pure ⟨none, true⟩
  else do
    match access.sharedVideo with
    | none => do
      releaseMessageSlotBestEffort access.code key dedupToken
      throw (invalidMessage ROOM_HAS_NO_SHARED_VIDEO_MESSAGE)
    | some shared =>
      if !urlsMatch cfg shared playback then do
        releaseMessageSlotBestEffort access.code key dedupToken
        throw (invalidMessage PLAYBACK_URL_MISMATCH_MESSAGE)
      else do
        let currentTime ← ask .now
        let session ← ask (.readSession s)
        let nextPlayback := stampedPlayback playback (session.actor s) currentTime
        let authority ← ask (.getPlaybackAuthority (cfg.nodeOf s) access.code)
        if decidePlaybackAcceptance access.playback authority nextPlayback currentTime ≠ .accept then do
          logEvent "playback_update_ignored" access.code s
          pure ⟨access, true⟩
        else writePlayback cfg s access key dedupToken nextPlayback currentTime

def writeOwnerDisplayName (s : SessionId) (currentRoom : PersistedRoom) :
    Service (Option PersistedRoom) := do
  let session ← ask (.readSession s)
  let currentTime ← ask .now
  match ← call (ask (.updateRoom currentRoom.code (.version currentRoom.version)
      { ownerDisplayName := some (some session.displayName), lastActiveAt := some currentTime })) with
  | .refused _ => pure none
  | .ok room => pure (some room)

def updateProfileForSession (cfg : Config) (s : SessionId) (memberToken : Token)
    (displayName : String) : Service PersistedRoom := do
  let access ← requireJoinedRoomSession cfg s memberToken
  let changed ← ask (.setSessionDisplayName s displayName)
  let session ← ask (.readSession s)
  let room ←
    if changed ∧ access.ownerMemberId = some (session.actor s) then do
      match ← withVersionRetry (cfg.nodeOf s) access.code (writeOwnerDisplayName s)
          MAX_VERSION_RETRIES with
      | some updated => pure updated
      | none => do
        logEvent "room_persist_failed" access.code s "owner_profile_update_conflict"
        pure access
    else pure access
  call (ask .flush)
  pure room

/-- The admin's `updateRoomWithRetry`, for the one patch of `clearRoomVideo`. -/
def clearVideoAttempts (code : Code) : Nat → Service PersistedRoom
  | 0 => throw (.service ⟨.internalError, "Room state update conflict.", .internalError,
      some "room_version_conflict"⟩)
  | attempts + 1 => do
    match ← call (ask (.getRoom code)) with
    | none => throw roomNotFound
    | some room => do
      let currentTime ← ask .now
      match ← call (ask (.updateRoom room.code (.version room.version)
          { sharedVideo := some none, playback := some none, expiresAt := some none
            lastActiveAt := some currentTime })) with
      | .ok updated => pure updated
      | .refused .notFound => throw roomNotFound
      | .refused .versionConflict => clearVideoAttempts code attempts

def clearRoomVideo (code : Code) : Service PersistedRoom :=
  clearVideoAttempts code MAX_VERSION_RETRIES

end BiliSyncPlay
