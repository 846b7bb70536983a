import BiliSyncPlay.Service.Join
import BiliSyncPlay.Service.Create
import BiliSyncPlay.Service.Updates

/-!
# Sockets

What the message handler and the close handler do around the room service: the hooks that keep
the session index, and the cleanup that ends a session.
-/

namespace BiliSyncPlay

open Interleave

/-- `onRoomJoined`; answers whether the index write landed. -/
def runRoomJoinedHook (s : SessionId) (code : Code) : Service Bool := do
  ask (.registerSession s)
  match ← ask (.markSessionJoinedRoom s code) with
  | .error _ => do
    logEvent "room_join_hook_failed" code s
    pure false
  | .ok _ => do
    match ← ask .flush with
    | .error _ => do
      logEvent "room_join_hook_failed" code s
      pure false
    | .ok _ => pure true

def runRoomLeftHook (s : SessionId) (code : Code) : Service Bool := do
  ask (.registerSession s)
  match ← ask (.markSessionLeftRoom s code) with
  | .error _ => do
    logEvent "room_left_hook_failed" code s
    pure false
  | .ok _ => do
    match ← ask .flush with
    | .error _ => do
      logEvent "room_left_hook_failed" code s
      pure false
    | .ok _ => pure true

/-- The message handler's `leaveRoom`; answers whether the session is out of the index. -/
def leaveRoom (cfg : Config) (s : SessionId) (reason : LeaveRoomReason) : Service Bool := do
  let session ← ask (.readSession s)
  let result ← leaveCurrentRoom cfg s reason
  match session.roomCode with
  | none => pure true
  | some code =>
    if result.room.isNone && !result.notifyRoom then pure false
    else runRoomLeftHook s code

def abortJoin (cfg : Config) (s : SessionId) (code : Code) : Service Unit := do
  let rolledBack ← do
    match ← attempt (leaveRoom cfg s .disconnect) with
    | .ok verdict => pure verdict
    | .error _ => do
      logEvent "room_join_rollback_failed" code s
      pure false
  logEvent "room_join_aborted" code s "room_index_write_failed"
  if !rolledBack then ask (.closeSocket s)

/-- What a create and a join share: the previous room is released even when entering fails, and
the session is indexed under the room it entered. -/
def enterRoom (cfg : Config) (s : SessionId) (enter : Service (PersistedRoom × Token)) :
    Service Unit := do
  let previous ← ask (.readSession s)
  match ← attempt enter with
  | .error error => do
    let session ← ask (.readSession s)
    match previous.roomCode with
    | some code =>
      if session.roomCode ≠ some code then do
        let _ ← runRoomLeftHook s code
        throw error
      else throw error
    | none => throw error
  | .ok (room, memberToken) => do
    match previous.roomCode with
    | some code => if code ≠ room.code then do let _ ← runRoomLeftHook s code
    | none => pure ()
    if ← runRoomJoinedHook s room.code then do
      let _ ← attempt (requireJoinedRoomSession cfg s memberToken)
      pure ()
    else abortJoin cfg s room.code

def handleClientMessage (cfg : Config) (s : SessionId) : ClientMessage → Service Unit
  | .roomCreate displayName => enterRoom cfg s (createRoomForSession cfg s displayName)
  | .roomJoin code joinToken displayName memberToken =>
    enterRoom cfg s (joinRoomForSession cfg s code joinToken displayName memberToken)
  | .roomLeave => do
    let _ ← leaveRoom cfg s .clientRequest
    pure ()
  | .videoShare memberToken video playback => do
    let _ ← shareVideoForSession cfg s memberToken video playback
    pure ()
  | .playbackUpdate memberToken playback => do
    let _ ← updatePlaybackForSession cfg s memberToken playback
    pure ()
  | .profileUpdate memberToken displayName => do
    let _ ← updateProfileForSession cfg s memberToken displayName
    pure ()
  | .syncRequest memberToken => do
    let _ ← requireJoinedRoomSession cfg s memberToken
    pure ()

def cleanupSessionAfterClose (cfg : Config) (s : SessionId) : Service Unit := do
  let session ← ask (.readSession s)
  match ← attempt (leaveRoom cfg s .disconnect) with
  | .ok _ => pure ()
  | .error _ => logEvent "ws_connection_cleanup_failed" session.roomCode s "leave_room"
  ask (.unregisterSession s)
  ask (.decrementConnectionCount s)
  logEvent "ws_connection_closed" session.roomCode s

end BiliSyncPlay
