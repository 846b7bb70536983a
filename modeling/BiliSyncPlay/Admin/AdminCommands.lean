import BiliSyncPlay.Protocol.Records

/-!
# Admin commands and their results

`admin-command-bus.ts`, and what the Redis bus reads of its payloads. A field that is absent is
written like one that is `undefined`; a result without a room code reads as one whose room code is
null.
-/

namespace BiliSyncPlay.AdminCommands

open Json RedisRoomStore Protocol

/-! ## Commands -/

inductive CommandKind where
  | disconnectSession (sessionId : JsString)
  | kickMember (roomCode memberId : JsString)
  deriving DecidableEq

structure AdminCommand where
  kind : CommandKind
  requestId : JsString
  targetInstanceId : JsString
  reason : Unknown := none
  requestedAt : Rat
  deriving DecidableEq

def AdminCommand.toDoc (command : AdminCommand) : Doc JsString :=
  match command.kind with
  | .disconnectSession sessionId =>
    objectOf [
      ("kind", some (.str (js "disconnect_session"))),
      ("requestId", some (.str command.requestId)),
      ("targetInstanceId", some (.str command.targetInstanceId)),
      ("sessionId", some (.str sessionId)),
      ("reason", command.reason),
      ("requestedAt", some (.num command.requestedAt))]
  | .kickMember roomCode memberId =>
    objectOf [
      ("kind", some (.str (js "kick_member"))),
      ("requestId", some (.str command.requestId)),
      ("targetInstanceId", some (.str command.targetInstanceId)),
      ("roomCode", some (.str roomCode)),
      ("memberId", some (.str memberId)),
      ("reason", command.reason),
      ("requestedAt", some (.num command.requestedAt))]

def parseCommand (payload : Source) : Option AdminCommand := do
  let parsed := some (parse payload)
  let kind ← asString (property parsed "kind")
  let requestId ← asString (property parsed "requestId")
  let targetInstanceId ← asString (property parsed "targetInstanceId")
  let requestedAt ← asNumber (property parsed "requestedAt")
  let reason := property parsed "reason"
  if kind = js "disconnect_session" then
    let sessionId ← asString (property parsed "sessionId")
    some { kind := .disconnectSession sessionId, requestId, targetInstanceId, reason, requestedAt }
  else if kind = js "kick_member" then
    let roomCode ← asString (property parsed "roomCode")
    let memberId ← asString (property parsed "memberId")
    some { kind := .kickMember roomCode memberId, requestId, targetInstanceId, reason, requestedAt }
  else none

/-! ## Results -/

inductive FailureStatus where
  | notFound | staleTarget | error
  deriving DecidableEq

def FailureStatus.text : FailureStatus → String
  | .notFound => "not_found"
  | .staleTarget => "stale_target"
  | .error => "error"

inductive Outcome where
  | ok (roomCode memberId sessionId : Option JsString)
  | failed (status : FailureStatus) (code message : JsString)
  /-- An `error` whose `confirmation` is `unconfirmed`: the effect may still land. -/
  | unconfirmed (code message : JsString)
  deriving DecidableEq

structure AdminCommandResult where
  requestId : JsString
  targetInstanceId : JsString
  executorInstanceId : JsString
  outcome : Outcome
  completedAt : Rat
  deriving DecidableEq

def AdminCommandResult.toDoc (result : AdminCommandResult) : Doc JsString :=
  match result.outcome with
  | .ok roomCode memberId sessionId =>
    objectOf [
      ("requestId", some (.str result.requestId)),
      ("targetInstanceId", some (.str result.targetInstanceId)),
      ("executorInstanceId", some (.str result.executorInstanceId)),
      ("status", some (.str (js "ok"))),
      ("roomCode", some (nullable .str roomCode)),
      ("memberId", memberId.map .str),
      ("sessionId", sessionId.map .str),
      ("completedAt", some (.num result.completedAt))]
  | .failed status code message =>
    objectOf [
      ("requestId", some (.str result.requestId)),
      ("targetInstanceId", some (.str result.targetInstanceId)),
      ("executorInstanceId", some (.str result.executorInstanceId)),
      ("status", some (.str (js status.text))),
      ("code", some (.str code)),
      ("message", some (.str message)),
      ("completedAt", some (.num result.completedAt))]
  | .unconfirmed code message =>
    objectOf [
      ("requestId", some (.str result.requestId)),
      ("targetInstanceId", some (.str result.targetInstanceId)),
      ("executorInstanceId", some (.str result.executorInstanceId)),
      ("status", some (.str (js "error"))),
      ("confirmation", some (.str (js "unconfirmed"))),
      ("code", some (.str code)),
      ("message", some (.str message)),
      ("completedAt", some (.num result.completedAt))]

def failureStatus (status : JsString) : Option FailureStatus :=
  [.notFound, .staleTarget, .error].find? fun known => status = js known.text

def parseOutcome (parsed : Unknown) : Option Outcome := do
  let status ← asString (property parsed "status")
  if status = js "ok" then
    some (.ok (asString (property parsed "roomCode")) (asString (property parsed "memberId"))
      (asString (property parsed "sessionId")))
  else
    let failure ← failureStatus status
    let code ← asString (property parsed "code")
    let message ← asString (property parsed "message")
    match property parsed "confirmation" with
    | none => some (.failed failure code message)
    | some confirmation =>
      if failure = .error ∧ confirmation = .str (js "unconfirmed") then
        some (.unconfirmed code message)
      else none

def parseResult (payload : Source) : Option AdminCommandResult := do
  let parsed := some (parse payload)
  let requestId ← asString (property parsed "requestId")
  let targetInstanceId ← asString (property parsed "targetInstanceId")
  let executorInstanceId ← asString (property parsed "executorInstanceId")
  let completedAt ← asNumber (property parsed "completedAt")
  let outcome ← parseOutcome parsed
  some { requestId, targetInstanceId, executorInstanceId, outcome, completedAt }

end BiliSyncPlay.AdminCommands
