import BiliSyncPlay.Protocol.Primitives

/-!
# The guards of the two directions

`guards/client-message.ts` and `guards/server-message.ts`, check by check in the order they stand.
-/

namespace BiliSyncPlay.Protocol

open Json RedisRoomStore

def DISPLAY_NAME_MAX_LENGTH : Nat := 32
def TITLE_MAX_LENGTH : Nat := 128
def URL_MAX_LENGTH : Nat := 512
def ANNOUNCEMENT_ID_MAX_LENGTH : Nat := 64
def ANNOUNCEMENT_MESSAGE_MAX_LENGTH : Nat := 500

def isOptionalBoundedString (value : Unknown) (maxLength : Nat) : Bool :=
  value.isNone || isBoundedString value maxLength

def every (test : Unknown → Bool) : Items JsString → Bool
  | .nil => true
  | .cons item rest => test (some item) && every test rest

/-- `Array.isArray(value) && value.every(test)`. -/
def isArrayOf (test : Unknown → Bool) : Unknown → Bool
  | some (.arr items) => every test items
  | _ => false

/-- The two guards ask this of a playback alike. -/
def isPlaybackState (value : Unknown) : Bool :=
  isRecord value
    && isBoundedString (property value "url") URL_MAX_LENGTH
    && isFiniteNumber (property value "currentTime")
    && isPlaybackPlayState (property value "playState")
    && ((property value "syncIntent").isNone || isPlaybackSyncIntent (property value "syncIntent"))
    && ((property value "userInitiated").isNone || isBoolean (property value "userInitiated"))
    && ((property value "naturalEnd").isNone || isBoolean (property value "naturalEnd"))
    && isFiniteNumber (property value "playbackRate")
    && isFiniteNumber (property value "updatedAt")
    && isFiniteNumber (property value "serverTime")
    && isActorId (property value "actorId")
    && isFiniteNumber (property value "seq")

section
variable (URL : JsString → Option Url)

/-! ## What the server accepts -/

namespace Client

def isSharedVideo (value : Unknown) : Bool :=
  isRecord value
    && isBoundedString (property value "videoId") TITLE_MAX_LENGTH
    && isVideoId (property value "videoId")
    && isBoundedString (property value "url") URL_MAX_LENGTH
    && isBilibiliUrl URL (property value "url")
    && isBoundedString (property value "title") TITLE_MAX_LENGTH
    && isOptionalBoundedString (property value "sharedByMemberId") DISPLAY_NAME_MAX_LENGTH
    && ((property value "sharedByMemberId").isNone || isActorId (property value "sharedByMemberId"))
    && isOptionalBoundedString (property value "sharedByDisplayName") DISPLAY_NAME_MAX_LENGTH

end Client

def isClientHelloPayload (value : Unknown) : Bool :=
  isRecord value
    && isOptionalBoundedString (property value "displayName") DISPLAY_NAME_MAX_LENGTH
    && isOptionalNonNegativeInteger (property value "protocolVersion")

def isJoinRoomPayload (value : Unknown) : Bool :=
  isRecord value
    && isRoomCode (property value "roomCode")
    && isToken (property value "joinToken")
    && ((property value "memberToken").isNone || isToken (property value "memberToken"))
    && isOptionalBoundedString (property value "displayName") DISPLAY_NAME_MAX_LENGTH
    && isOptionalNonNegativeInteger (property value "protocolVersion")

def isProfileUpdatePayload (value : Unknown) : Bool :=
  isRecord value
    && isToken (property value "memberToken")
    && isBoundedString (property value "displayName") DISPLAY_NAME_MAX_LENGTH

def isLeaveRoomPayload (value : Unknown) : Bool :=
  isRecord value
    && ((property value "memberToken").isNone || isToken (property value "memberToken"))

def isShareVideoPayload (value : Unknown) : Bool :=
  isRecord value
    && isToken (property value "memberToken")
    && Client.isSharedVideo URL (property value "video")
    && ((property value "playback").isNone || isPlaybackState (property value "playback"))

def isPlaybackUpdatePayload (value : Unknown) : Bool :=
  isRecord value
    && isToken (property value "memberToken")
    && isPlaybackState (property value "playback")

def isSyncRequestPayload (value : Unknown) : Bool :=
  isRecord value && isToken (property value "memberToken")

def isSyncPingPayload (value : Unknown) : Bool :=
  isRecord value && isFiniteNumber (property value "clientSendTime")

def isClientMessage (value : Unknown) : Bool :=
  let type := property value "type"
  let payload := property value "payload"
  isRecord value && isString type &&
    if equals type "room:create" then payload.isNone || isClientHelloPayload payload
    else if equals type "room:join" then isJoinRoomPayload payload
    else if equals type "profile:update" then isProfileUpdatePayload payload
    else if equals type "room:leave" then payload.isNone || isLeaveRoomPayload payload
    else if equals type "video:share" then isShareVideoPayload URL payload
    else if equals type "playback:update" then isPlaybackUpdatePayload payload
    else if equals type "sync:request" then isSyncRequestPayload payload
    else if equals type "sync:ping" then isSyncPingPayload payload
    else false

/-! ## What a client accepts -/

def isSharedVideo (value : Unknown) : Bool :=
  isRecord value
    && isBoundedString (property value "videoId") TITLE_MAX_LENGTH
    && isVideoId (property value "videoId")
    && isBoundedString (property value "url") URL_MAX_LENGTH
    && isBilibiliUrl URL (property value "url")
    && isBoundedString (property value "title") TITLE_MAX_LENGTH
    && isOptionalString (property value "sharedByMemberId")
    && ((property value "sharedByMemberId").isNone || isActorId (property value "sharedByMemberId"))
    && ((property value "sharedByDisplayName").isNone
      || isBoundedString (property value "sharedByDisplayName") DISPLAY_NAME_MAX_LENGTH)

def isRoomMember (value : Unknown) : Bool :=
  isRecord value
    && isActorId (property value "id")
    && isBoundedString (property value "name") DISPLAY_NAME_MAX_LENGTH

def isRoomState (value : Unknown) : Bool :=
  isRecord value
    && isRoomCode (property value "roomCode")
    && (isNull (property value "sharedVideo") || isSharedVideo URL (property value "sharedVideo"))
    && (isNull (property value "playback") || isPlaybackState (property value "playback"))
    && isArrayOf isRoomMember (property value "members")

def isRoomCreatedPayload (payload : Unknown) : Bool :=
  isRecord payload
    && isRoomCode (property payload "roomCode")
    && isActorId (property payload "memberId")
    && isToken (property payload "joinToken")
    && isToken (property payload "memberToken")
    && isOptionalPositiveInteger (property payload "serverProtocolVersion")

def isRoomJoinedPayload (payload : Unknown) : Bool :=
  isRecord payload
    && isRoomCode (property payload "roomCode")
    && isActorId (property payload "memberId")
    && isToken (property payload "memberToken")
    && isOptionalPositiveInteger (property payload "serverProtocolVersion")

def isRoomStatePayload (value : Unknown) : Bool :=
  isRecord value && isRoomState URL value
    && ((property value "playbackAgeMs").isNone
      || isFiniteNumber (property value "playbackAgeMs")
        && isNonNegative (property value "playbackAgeMs"))

/-- `room:member-joined` and `room:member-left` carry the same. -/
def isRoomMemberPayload (payload : Unknown) : Bool :=
  isRecord payload
    && isRoomCode (property payload "roomCode")
    && isRoomMember (property payload "member")

def isErrorPayload (payload : Unknown) : Bool :=
  isRecord payload
    && isBoundedString (property payload "code") 32
    && isBoundedString (property payload "message") TITLE_MAX_LENGTH

def isSyncPongPayload (payload : Unknown) : Bool :=
  isRecord payload
    && isFiniteNumber (property payload "clientSendTime")
    && isFiniteNumber (property payload "serverReceiveTime")
    && isFiniteNumber (property payload "serverSendTime")

def isAnnouncementLevel (value : Unknown) : Bool := equals value "info" || equals value "warning"

/-- `ANNOUNCEMENT_ID_PATTERN` and the bounds around it. -/
def isAnnouncementId : Unknown → Bool := holds fun id =>
  0 < id.length && id.length ≤ ANNOUNCEMENT_ID_MAX_LENGTH &&
    id.all fun u => isAlphanumeric u || u ∈ [char '_', char '-']

def isAnnouncementMessage : Unknown → Bool := holds fun message =>
  0 < (trim message).length && message.length ≤ ANNOUNCEMENT_MESSAGE_MAX_LENGTH

def isPositive : Unknown → Bool
  | some (.num q) => decide (0 < q)
  | _ => false

def isAnnouncement (value : Unknown) : Bool :=
  isRecord value
    && isAnnouncementId (property value "id")
    && isAnnouncementLevel (property value "level")
    && isAnnouncementMessage (property value "message")
    && ((property value "scheduledAt").isNone
      || isFiniteNumber (property value "scheduledAt")
        && isNonNegative (property value "scheduledAt"))
    && isFiniteNumber (property value "expiresInMs")
    && isPositive (property value "expiresInMs")

def isServerAnnouncementPayload (payload : Unknown) : Bool :=
  isRecord payload
    && (isNull (property payload "announcement")
      || isAnnouncement (property payload "announcement"))

def isServerMessage (value : Unknown) : Bool :=
  let type := property value "type"
  let payload := property value "payload"
  isRecord value && isString type &&
    if equals type "room:created" then isRoomCreatedPayload payload
    else if equals type "room:joined" then isRoomJoinedPayload payload
    else if equals type "room:state" then isRoomStatePayload URL payload
    else if equals type "room:member-joined" then isRoomMemberPayload payload
    else if equals type "room:member-left" then isRoomMemberPayload payload
    else if equals type "error" then isErrorPayload payload
    else if equals type "sync:pong" then isSyncPongPayload payload
    else if equals type "server:announcement" then isServerAnnouncementPayload payload
    else false

end

/-! ## The guards agree on what both of them see -/

theorem isSharedVideo_of_client {URL : JsString → Option Url} {value : Unknown}
    (accepted : Client.isSharedVideo URL value = true) : isSharedVideo URL value = true := by
  simp only [Client.isSharedVideo, isOptionalBoundedString, Bool.and_eq_true] at accepted
  obtain ⟨⟨⟨⟨⟨⟨⟨⟨record, idBound⟩, id⟩, urlBound⟩, url⟩, title⟩, -⟩, sharer⟩, name⟩ := accepted
  have text : isOptionalString (property value "sharedByMemberId") = true := by
    rcases h : property value "sharedByMemberId" with _ | d
    · rfl
    · rw [h] at sharer
      cases d <;> first | rfl | exact absurd sharer (by simp [isActorId, holds, asString])
  simp [isSharedVideo, record, idBound, id, urlBound, url, title, text, sharer, name]

end BiliSyncPlay.Protocol
