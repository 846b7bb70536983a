import BiliSyncPlay.Service.Socket

/-!
# The service as a machine

Every entry point of the room service, and the effects they leave behind, as calls of one
interleaved machine.
-/

namespace BiliSyncPlay

open Interleave

/-- What a settled call returned, as far as its caller can see. -/
inductive Res where
  | entered (room : PersistedRoom) (memberToken : Token)
  | left (result : LeaveResult)
  | room (room : PersistedRoom)
  | playback (result : PlaybackResult)
  | swept (counts : ExpiredRoomSweepCounts)
  /-- The cleanup of a closed socket ended. -/
  | closed
  | done

def runTask (n : NodeId) (id : EffectId) : Task → Service Unit
  | .scheduleExpiry s code joinToken version expiresAt => do
    let scheduled ← scheduleExpiry s code joinToken version expiresAt
    ask (.settleEffect id (.scheduled scheduled))
  | .runOrphanExpiry s code joinToken reason => do
    runOrphanExpiry s code joinToken reason
    ask (.settleEffect id .finished)
  | .collectExpiredRoom code => do
    match ← attempt (collectExpiredRoom n code) with
    | .ok outcome => ask (.settleExpiredRoomCollection n code id (.deletion outcome))
    | .error error => ask (.settleExpiredRoomCollection n code id (.failed error.fault))
  | .teardown code expectedGeneration => do
    let result ← ask (.deleteRoomRuntime code expectedGeneration)
    ask (.settleRuntimeTeardown n code expectedGeneration id result)

def body (cfg : Config) : Req → Service Res
  | .create s displayName => do
    let (room, memberToken) ← createRoomForSession cfg s displayName
    pure (.entered room memberToken)
  | .join s code joinToken displayName previousMemberToken => do
    let (room, memberToken) ← joinRoomForSession cfg s code joinToken displayName
      previousMemberToken
    pure (.entered room memberToken)
  | .leave s reason => do pure (.left (← leaveCurrentRoom cfg s reason))
  | .share s memberToken video playback => do
    pure (.room (← shareVideoForSession cfg s memberToken video playback))
  | .updatePlayback s memberToken playback => do
    pure (.playback (← updatePlaybackForSession cfg s memberToken playback))
  | .updateProfile s memberToken displayName => do
    pure (.room (← updateProfileForSession cfg s memberToken displayName))
  | .clearRoomVideo _ code => do pure (.room (← clearRoomVideo code))
  | .deleteExpiredRooms n => do pure (.swept (← deleteExpiredRooms n))
  | .teardownRoomRuntime n code => do
    teardownRoomRuntime n code
    pure .done
  | .effect n id task => do
    runTask n id task
    pure .done
  | .message s message => do
    -- A message that fails is answered with an error and leaves the queue running.
    let _ ← attempt (handleClientMessage cfg s message)
    pure .done
  | .cleanup s => do
    cleanupSessionAfterClose cfg s
    pure .closed

def Req.lane (cfg : Config) : Req → NodeId
  | .create s _ | .join s _ _ _ _ | .leave s _ | .share s _ _ _ | .updatePlayback s _ _
  | .updateProfile s _ _ | .message s _ | .cleanup s => cfg.nodeOf s
  | .clearRoomVideo n _ | .deleteExpiredRooms n | .teardownRoomRuntime n _ | .effect n _ _ => n

/-- The room service, over its configuration. -/
abbrev machine (cfg : Config) : Machine where
  Cmd := Cmd
  Ans := Cmd.Ans
  Err := Err
  Res := Res
  Req := Req
  Shared := World
  Choice := Choice
  Event := Event
  body := body cfg
  lane := Req.lane cfg
  sync := Cmd.sync
  exec := exec cfg
  occur := occur

end BiliSyncPlay
