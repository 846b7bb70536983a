import BiliSyncPlay.Protocol.Guards
import BiliSyncPlay.Rooms.Store
import BiliSyncPlay.JsMap

/-!
# What the server makes of its messages

Sessions, room states, bus events and announcements, with the fields that reach a client. A field
set to `undefined` is read and written like one that is absent; the order of fields is not kept.
-/

namespace BiliSyncPlay.Protocol

open Json RedisRoomStore

/-! ## Objects -/

def without (name : JsString) : Fields JsString → Fields JsString
  | .nil => .nil
  | .cons n value rest => if n = name then without name rest else .cons n value (without name rest)

def push (name : JsString) (value : Doc JsString) : Fields JsString → Fields JsString
  | .nil => .cons name value .nil
  | .cons n v rest => .cons n v (push name value rest)

def assign (name : JsString) (fields : Fields JsString) : Unknown → Fields JsString
  | none => without name fields
  | some value => push name value (without name fields)

/-- `{ ...d, [name]: value }`. -/
def withField (name : String) (value : Unknown) : Doc JsString → Doc JsString
  | .obj fields => .obj (assign (js name) fields value)
  | _ => .obj (assign (js name) .nil value)

theorem get?_without (name other : JsString) (fields : Fields JsString) :
    (without name fields).get? other = if name = other then none else fields.get? other := by
  match fields with
  | .nil => simp [without, Fields.get?]
  | .cons n value rest =>
    have ih := get?_without name other rest
    by_cases same : n = name
    · rw [without, if_pos same, ih, Fields.get?]
      by_cases named : name = other
      · rw [if_pos named, if_pos named]
      · have apart : ¬ n = other := fun h => named (same.symm.trans h)
        rw [if_neg named, if_neg named, if_neg apart, Option.or_none]
    · by_cases named : name = other
      · subst named
        simp [without, Fields.get?, ih, same]
      · simp [without, Fields.get?, ih, same, named]

theorem get?_push (name other : JsString) (value : Doc JsString) (fields : Fields JsString) :
    (push name value fields).get? other =
      if name = other then some value else fields.get? other := by
  match fields with
  | .nil => by_cases named : name = other <;> simp [push, Fields.get?, named]
  | .cons n v rest =>
    have ih := get?_push name other value rest
    by_cases named : name = other
    · rw [if_pos named] at ih ⊢
      rw [push, Fields.get?, ih, Option.some_or]
    · rw [if_neg named] at ih ⊢
      rw [push, Fields.get?, Fields.get?, ih]

theorem get?_assign (name other : JsString) (fields : Fields JsString) (value : Unknown) :
    (assign name fields value).get? other = if name = other then value else fields.get? other := by
  cases value with
  | none => exact get?_without name other fields
  | some d =>
    rw [assign, get?_push, get?_without]
    by_cases named : name = other <;> simp [named]

@[simp] theorem property_withField (name other : String) (value : Unknown) (d : Doc JsString) :
    property (some (withField name value d)) other =
      if js name = js other then value else property (some d) other := by
  cases d with
  | obj fields => exact get?_assign (js name) (js other) fields value
  | _ => exact get?_assign (js name) (js other) .nil value

@[simp] theorem isTable_withField (name : String) (value : Unknown) (d : Doc JsString) :
    isTable (some (withField name value d)) = true := by
  cases d <;> rfl

/-- An object without the fields that are `undefined`. -/
def objectOf (fields : List (String × Unknown)) : Doc JsString :=
  .obj (object (fields.filterMap fun (name, value) => value.map (name, ·)))

theorem property_objectOf_cons (name other : String) (value : Unknown)
    (rest : List (String × Unknown)) :
    property (some (objectOf ((name, value) :: rest))) other =
      (property (some (objectOf rest)) other).or (if js name = js other then value else none) := by
  cases value with
  | none => simp [objectOf]
  | some d =>
    change (Fields.cons (js name) d _).get? (js other) = _
    rw [Fields.get?]
    rfl

@[simp] theorem property_objectOf_nil (other : String) :
    property (some (objectOf [])) other = none := rfl

/-! ## Names the server makes up -/

def pick {α : Type} (alphabet : List α) (default : α) (i : Nat) : α := alphabet.getD i default

/-- `randomUUID()`: thirty-two digits in five groups. -/
def randomUUID (digits : Fin 32 → Fin 16) : JsString :=
  let hex := List.ofFn fun i => pick (js "0123456789abcdef") 0 (digits i)
  let hyphen := [char '-']
  hex.take 8 ++ hyphen ++ (hex.drop 8).take 4 ++ hyphen ++ (hex.drop 12).take 4 ++ hyphen ++
    (hex.drop 16).take 4 ++ hyphen ++ hex.drop 20

/-- `randomBytes(24).toString("base64url")`. -/
def generateToken (sextets : Fin 32 → Fin 64) : JsString :=
  List.ofFn fun i =>
    pick (js "ABCDEFGHIJKLMNOPQRSTUVWXYZabcdefghijklmnopqrstuvwxyz0123456789-_") 0 (sextets i)

def ROOM_CODE_ALPHABET : Text := ascii "ABCDEFGHJKLMNPQRSTUVWXYZ23456789"

def roomCodeText (draws : Fin 6 → Fin 32) : Text :=
  List.ofFn fun i => pick ROOM_CODE_ALPHABET (.unit 0 (by decide)) (draws i)

theorem roomCodeText_ne (draws : Fin 6 → Fin 32) : roomCodeText draws ≠ sequenceMember := by
  have six : (roomCodeText draws).length = 6 := by simp [roomCodeText]
  intro same
  rw [same] at six
  exact absurd six (by decide)

def createRoomCode (draws : Fin 6 → Fin 32) : RedisRoomStore.RoomCode :=
  ⟨roomCodeText draws, roomCodeText_ne draws⟩

/-- A number from 100 to 999, spelt out. -/
def guestName (n : Fin 900) : JsString :=
  let digit (d : Nat) := pick (js "0123456789") 0 d
  js "Guest-" ++ [digit ((n + 100) / 100), digit ((n + 100) / 10 % 10), digit ((n + 100) % 10)]

/-! ## Sessions -/

structure Session where
  id : JsString
  roomCode : Option JsString := none
  memberId : Option JsString := none
  displayName : JsString
  memberToken : Option JsString := none
  joinedAt : Option Rat := none
  deriving DecidableEq

/-- `session.memberId ?? session.id`. -/
def Session.actorId (session : Session) : JsString := session.memberId.getD session.id

def acceptConnection (digits : Fin 32 → Fin 16) (guest : Fin 900) : Session where
  id := randomUUID digits
  displayName := guestName guest

def setSessionDisplayName (session : Session) (displayName : Option JsString) : Session :=
  match displayName.map trim with
  | none | some [] => session
  | some nextDisplayName => { session with displayName := nextDisplayName }

def clearSessionRoom (session : Session) : Session :=
  { session with roomCode := none, memberId := none, memberToken := none, joinedAt := none }

structure JoinedSessionSnapshot where
  roomCode : JsString
  memberId : JsString
  memberToken : JsString
  joinedAt : Option Rat
  deriving DecidableEq

def snapshotJoinedSession (session : Session) : Option JoinedSessionSnapshot := do
  let roomCode ← session.roomCode.filter (· ≠ [])
  let memberId ← session.memberId.filter (· ≠ [])
  let memberToken ← session.memberToken.filter (· ≠ [])
  some { roomCode, memberId, memberToken, joinedAt := session.joinedAt }

def restoreJoinedSession (session : Session) (snapshot : JoinedSessionSnapshot) : Session :=
  { session with
    roomCode := some snapshot.roomCode
    memberId := some snapshot.memberId
    memberToken := some snapshot.memberToken
    joinedAt := snapshot.joinedAt }

structure JoinIdentity where
  memberId : JsString
  memberToken : JsString
  deriving DecidableEq

/-- `fresh` is the token the code would make. -/
def buildJoinIdentity (session : Session) (reconnectMemberId previousMemberToken : Option JsString)
    (fresh : JsString) : JoinIdentity where
  memberId := reconnectMemberId.getD session.id
  memberToken :=
    match reconnectMemberId.filter (· ≠ []), previousMemberToken.filter (· ≠ []) with
    | some _, some previous => previous
    | _, _ => fresh

def applyJoinedSessionState (session : Session) (roomCode : JsString) (joinedAt : Rat)
    (joinIdentity : JoinIdentity) : Session :=
  { session with
    memberId := some joinIdentity.memberId
    roomCode := some roomCode
    memberToken := some joinIdentity.memberToken
    joinedAt := some joinedAt }

/-! ### Their records in the runtime index, hashes of UTF-8 texts -/

def encodeNullable (value : Option JsString) : Text := (value.getD []).utf8

def normalizeNullable (value : Text) : Option JsString :=
  if value = [] then none else some value.units

/-- `joinedAt` keeps its number: writing and reading it back changes nothing. -/
structure SessionHash where
  id : Text
  roomCode : Text
  memberId : Text
  displayName : Text
  memberToken : Text
  joinedAt : Option Rat
  deriving DecidableEq

def sessionHashRecord (session : Session) (roomCodeOverride : Option JsString) : SessionHash where
  id := session.id.utf8
  roomCode := (roomCodeOverride.map JsString.utf8).getD (encodeNullable session.roomCode)
  memberId := encodeNullable session.memberId
  displayName := session.displayName.utf8
  memberToken := encodeNullable session.memberToken
  joinedAt := session.joinedAt

def deserializeSession (fields : SessionHash) : Option Session :=
  if fields.id = [] then none
  else some {
    id := fields.id.units
    roomCode := normalizeNullable fields.roomCode
    memberId := normalizeNullable fields.memberId
    displayName := if fields.displayName = [] then fields.id.units else fields.displayName.units
    memberToken := normalizeNullable fields.memberToken
    joinedAt := fields.joinedAt }

/-! ## Room states -/

structure RoomMember where
  id : JsString
  name : JsString
  deriving DecidableEq

structure RoomState where
  roomCode : JsString
  sharedVideo : Option (Doc JsString)
  playback : Option (Doc JsString)
  members : List RoomMember
  deriving DecidableEq

structure SharedVideoOwnerCandidate where
  id : JsString
  joinedAt : Option Rat
  deriving DecidableEq

/-- A candidate that never recorded a tenure comes last. -/
def compareCandidates (left right : SharedVideoOwnerCandidate) : Ordering :=
  let byId := if left.id < right.id then .lt else if right.id < left.id then .gt else .eq
  match left.joinedAt, right.joinedAt with
  | some l, some r => if l = r then byId else compare l r
  | some _, none => .lt
  | none, some _ => .gt
  | none, none => byId

def longestTenured (members : List SharedVideoOwnerCandidate) : Option SharedVideoOwnerCandidate :=
  members.foldl (fun successor member =>
    match successor with
    | none => some member
    | some best => if compareCandidates member best = .lt then some member else some best) none

def resolveSharedVideoOwnerId (sharedByMemberId : Option JsString)
    (members : List SharedVideoOwnerCandidate) : Option JsString :=
  match sharedByMemberId with
  | none | some [] => none
  | some owner =>
    if members.any fun member => member.id = owner then some owner
    else some (((longestTenured members).map SharedVideoOwnerCandidate.id).getD owner)

def withResolvedSharedOwner (sharedVideo : Option (Doc JsString))
    (members : JsMap JsString JsString)
    (candidates : List SharedVideoOwnerCandidate) : Option (Doc JsString) :=
  sharedVideo.map fun video =>
    let sharedByMemberId := asString (property (some video) "sharedByMemberId")
    let ownerId := resolveSharedVideoOwnerId sharedByMemberId candidates
    if ownerId = sharedByMemberId then video
    else
      let ownerName := (ownerId.bind members.get?).map .str
      withField "sharedByDisplayName" (ownerName.or (property (some video) "sharedByDisplayName"))
        (withField "sharedByMemberId" (ownerId.map .str) video)

/-- A session that does not name the room is residue of its index. -/
def seated (room : RedisRoomStore.PersistedRoom) (sessions : List Session) : List Session :=
  sessions.filter fun session => session.roomCode = some room.code.units

def memberNames (sessions : List Session) : JsMap JsString JsString :=
  sessions.foldl (fun members session => members.set session.actorId session.displayName) .empty

def roomStateFromSessions (room : RedisRoomStore.PersistedRoom) (sessions : List Session) :
    RoomState :=
  let members := memberNames (seated room sessions)
  let candidates := (seated room sessions).map fun session =>
    { id := session.actorId, joinedAt := session.joinedAt }
  { roomCode := room.code.units
    sharedVideo := withResolvedSharedOwner (room.sharedVideo.map Subtype.val) members candidates
    playback := room.playback.map Subtype.val
    members := members.entries.map fun entry => { id := entry.1, name := entry.2 } }

/-! ## Messages -/

def items : List (Doc JsString) → Items JsString
  | [] => .nil
  | d :: rest => .cons d (items rest)

def RoomMember.toDoc (member : RoomMember) : Doc JsString :=
  .obj (object [("id", .str member.id), ("name", .str member.name)])

def RoomState.toDoc (state : RoomState) : Doc JsString :=
  .obj (object [
    ("roomCode", .str state.roomCode),
    ("sharedVideo", nullable id state.sharedVideo),
    ("playback", nullable id state.playback),
    ("members", .arr (items (state.members.map RoomMember.toDoc)))])

def withPlaybackAge (state : RoomState) (sentAtMs : Rat) : Doc JsString :=
  match state.playback with
  | none => state.toDoc
  | some playback =>
    let serverTime := (asNumber (property (some playback) "serverTime")).getD 0
    withField "playbackAgeMs" (some (.num (max 0 (sentAtMs - serverTime)))) state.toDoc

def message (type : String) (payload : Doc JsString) : Doc JsString :=
  .obj (object [("type", .str (js type)), ("payload", payload)])

def CURRENT_PROTOCOL_VERSION : Rat := 5

def roomCreated (session : Session) (roomCode joinToken memberToken : JsString) : Doc JsString :=
  message "room:created" <| .obj <| object [
    ("roomCode", .str roomCode),
    ("memberId", .str session.actorId),
    ("joinToken", .str joinToken),
    ("memberToken", .str memberToken),
    ("serverProtocolVersion", .num CURRENT_PROTOCOL_VERSION)]

def roomJoined (session : Session) (roomCode memberToken : JsString) : Doc JsString :=
  message "room:joined" <| .obj <| object [
    ("roomCode", .str roomCode),
    ("memberId", .str session.actorId),
    ("memberToken", .str memberToken),
    ("serverProtocolVersion", .num CURRENT_PROTOCOL_VERSION)]

def roomState (state : RoomState) (sentAtMs : Rat) : Doc JsString :=
  message "room:state" (withPlaybackAge state sentAtMs)

def syncPong (clientSendTime serverReceiveTime serverSendTime : Rat) : Doc JsString :=
  message "sync:pong" <| .obj <| object [
    ("clientSendTime", .num clientSendTime),
    ("serverReceiveTime", .num serverReceiveTime),
    ("serverSendTime", .num serverSendTime)]

def errorCodes : List String :=
  ["room_not_found", "join_token_invalid", "member_token_invalid", "not_in_room", "rate_limited",
    "invalid_message", "room_full", "unsupported_protocol_version", "internal_error"]

def errorMessages : List String :=
  ["Invalid JSON message.",
    "Invalid client message payload.",
    "Internal server error.",
    "Too many requests.",
    "Member token is invalid.",
    "Join a room first.",
    "Room not found.",
    "Join token is invalid.",
    "You were removed from the room by an admin. Rejoin the room.",
    "Room is full.",
    "The room does not have a shared video yet.",
    "Playback URL does not match the current shared video.",
    "Your extension version is too old. Please update Bili-SyncPlay to the latest version."]

def sendError (code text : String) : Doc JsString :=
  message "error" (.obj (object [("code", .str (js code)), ("message", .str (js text))]))

/-! ## Events of the bus -/

inductive RoomEventType where
  | stateUpdated | memberChanged | deleted
  deriving DecidableEq

inductive MemberEventType where
  | joined | left
  deriving DecidableEq

def RoomEventType.text : RoomEventType → String
  | .stateUpdated => "room_state_updated"
  | .memberChanged => "room_member_changed"
  | .deleted => "room_deleted"

def MemberEventType.text : MemberEventType → String
  | .joined => "room_member_joined"
  | .left => "room_member_left"

inductive RoomEventBusMessage where
  | room (type : RoomEventType) (roomCode sourceInstanceId : JsString) (emittedAt : Rat)
  | member (type : MemberEventType) (roomCode sourceInstanceId : JsString) (emittedAt : Rat)
      (memberId displayName : JsString)
  deriving DecidableEq

def RoomEventBusMessage.toDoc : RoomEventBusMessage → Doc JsString
  | .room type roomCode sourceInstanceId emittedAt =>
    .obj (object [("type", .str (js type.text)), ("roomCode", .str roomCode),
      ("sourceInstanceId", .str sourceInstanceId), ("emittedAt", .num emittedAt)])
  | .member type roomCode sourceInstanceId emittedAt memberId displayName =>
    .obj (object [("type", .str (js type.text)), ("roomCode", .str roomCode),
      ("sourceInstanceId", .str sourceInstanceId), ("emittedAt", .num emittedAt),
      ("memberId", .str memberId), ("displayName", .str displayName)])

def roomEventType (type : Unknown) : Option RoomEventType :=
  [.stateUpdated, .memberChanged, .deleted].find? fun known => equals type known.text

def memberEventType (type : Unknown) : Option MemberEventType :=
  [.joined, .left].find? fun known => equals type known.text

def parseMessage (payload : Source) : Option RoomEventBusMessage := do
  let parsed := some (parse payload)
  let type := property parsed "type"
  let roomCode ← asString (property parsed "roomCode")
  let sourceInstanceId ← asString (property parsed "sourceInstanceId")
  let emittedAt ← asNumber (property parsed "emittedAt")
  match memberEventType type with
  | some known =>
    let memberId ← asString (property parsed "memberId")
    let displayName ← asString (property parsed "displayName")
    some (.member known roomCode sourceInstanceId emittedAt memberId displayName)
  | none =>
    let known ← roomEventType type
    some (.room known roomCode sourceInstanceId emittedAt)

def createMemberMessage : RoomEventBusMessage → Option (Doc JsString)
  | .member type roomCode _ _ memberId displayName =>
    let kind := match type with
      | .joined => "room:member-joined"
      | .left => "room:member-left"
    some <| message kind <| .obj <| object [
      ("roomCode", .str roomCode),
      ("member", RoomMember.toDoc { id := memberId, name := displayName })]
  | .room .. => none

/-- What the consumer shows of a room that was deleted. -/
def deletedRoomState (roomCode : JsString) : RoomState where
  roomCode := roomCode
  sharedVideo := none
  playback := none
  members := []

/-! ## Announcements -/

inductive AnnouncementLevel where
  | info | warning
  deriving DecidableEq

def AnnouncementLevel.text : AnnouncementLevel → String
  | .info => "info"
  | .warning => "warning"

/-- `isAnnouncementLevel`, and the level the value is. -/
def asAnnouncementLevel (value : Unknown) : Option AnnouncementLevel :=
  [.info, .warning].find? fun level => equals value level.text

structure StoredAnnouncement where
  id : JsString
  level : AnnouncementLevel
  message : JsString
  scheduledAt : Option Rat
  publishedAt : Rat
  deriving DecidableEq

structure PublishAnnouncementInput where
  level : Unknown := none
  message : Unknown := none
  scheduledAt : Unknown := none
  expiresAt : Unknown := none
  deriving DecidableEq

structure BadRequest where
  code : String
  message : String
  deriving DecidableEq

def ANNOUNCEMENT_MAX_LIFETIME_MS : Rat := 30 * 24 * 60 * 60 * 1000

/-- `value ?? null`. -/
def orNull (value : Unknown) : Doc JsString := value.getD .null

/-- An epoch time, where the value is one. -/
def asEpochMs (value : Unknown) : Option Rat := (asNumber value).filter (0 ≤ ·)

def badRequest (code message : String) : Except BadRequest (StoredAnnouncement × Rat) :=
  .error { code, message }

/-- The announcement to store and its lifetime. -/
def publish (input : PublishAnnouncementInput) (publishedAt : Rat) (generatedId : JsString) :
    Except BadRequest (StoredAnnouncement × Rat) :=
  match asAnnouncementLevel input.level with
  | none => badRequest "invalid_level" "level must be info or warning."
  | some level =>
    match asString input.message with
    | none => badRequest "invalid_message" "message is required."
    | some text =>
      let message := trim text
      if message = [] then badRequest "invalid_message" "message is required."
      else if message.length > ANNOUNCEMENT_MESSAGE_MAX_LENGTH then
        badRequest "input_too_long" "message is too long."
      else if orNull input.scheduledAt ≠ .null ∧ asEpochMs input.scheduledAt = none then
        badRequest "invalid_scheduled_at" "scheduledAt must be epoch milliseconds."
      else
        match asEpochMs input.expiresAt with
        | none => badRequest "invalid_expires_at" "expiresAt must be epoch milliseconds."
        | some expiresAt =>
          let ttlMs := expiresAt - publishedAt
          if ttlMs ≤ 0 then badRequest "expires_at_in_past" "expiresAt must be in the future."
          else if ttlMs > ANNOUNCEMENT_MAX_LIFETIME_MS then
            badRequest "expires_at_too_far" "expiresAt must be within 30 days."
          else
            .ok ({ id := generatedId, level, message,
                   scheduledAt := asEpochMs input.scheduledAt, publishedAt }, ttlMs)

def StoredAnnouncement.toDoc (announcement : StoredAnnouncement) : Doc JsString :=
  .obj (object [
    ("id", .str announcement.id),
    ("level", .str (js announcement.level.text)),
    ("message", .str announcement.message),
    ("scheduledAt", nullable .num announcement.scheduledAt),
    ("publishedAt", .num announcement.publishedAt)])

/-- The form of an announcement on the wire, with the time it has left. -/
def wireForm (id level message : Doc JsString) (scheduledAt : Option Rat) (expiresInMs : Rat) :
    Doc JsString :=
  withField "scheduledAt" (scheduledAt.map .num) <| .obj <| object [
    ("id", id), ("level", level), ("message", message), ("expiresInMs", .num expiresInMs)]

/-- `value ?? null`, where it is null or a number. -/
def asScheduledAt (value : Unknown) : Option (Option Rat) :=
  match orNull value with
  | .null => some none
  | .num q => some (some q)
  | _ => none

/-- The stored fields are checked by the guard of every receiver; any lifetime does for that. -/
def parseStoredAnnouncement (raw : Source) : Option StoredAnnouncement := do
  let record := some (parse raw)
  let scheduledAt ← asScheduledAt (property record "scheduledAt")
  let publishedAt ← asNumber (property record "publishedAt")
  let id ← property record "id"
  let level ← property record "level"
  let message ← property record "message"
  if isAnnouncement (some (wireForm id level message scheduledAt 1)) then
    let known ← asAnnouncementLevel (some level)
    some { id := (asString (some id)).getD [], level := known
           message := (asString (some message)).getD [], scheduledAt, publishedAt }
  else none

def toWireAnnouncement (announcement : StoredAnnouncement) (remainingMs elapsedMs : Rat) :
    Option (Doc JsString) :=
  let expiresInMs : Rat := ⌊remainingMs - max 0 elapsedMs⌋
  if expiresInMs ≤ 0 then none
  else some (wireForm (.str announcement.id) (.str (js announcement.level.text))
    (.str announcement.message) announcement.scheduledAt expiresInMs)

def serverAnnouncement (announcement : Option (Doc JsString)) : Doc JsString :=
  message "server:announcement" (.obj (object [("announcement", nullable id announcement)]))

end BiliSyncPlay.Protocol
