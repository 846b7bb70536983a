import BiliSyncPlay.Protocol.Records
import Mathlib.Logic.Relation

/-!
# The server as its messages see it

What any handler has in hand was written before, so a step may use every version of a room, of a
session's record, of an event and of an announcement there has been: every interleaving of the
handlers, of the nodes and of the bus is a run, and so is every stale read. A room read back is the
room written (`parseRoom_serializeRoom`).
-/

namespace BiliSyncPlay.Protocol

open Json RedisRoomStore

structure Server where
  /-- The sessions of every node's connections, as they stand. -/
  sessions : List Session := []
  /-- What was read of a session: the object as it stood, or what the runtime index answered. -/
  records : List Session := []
  /-- The seats sessions held before a leave that may be undone. -/
  snapshots : List JoinedSessionSnapshot := []
  /-- Every member there has been, with the token that may reclaim it. -/
  seats : List JoinIdentity := []
  rooms : List RedisRoomStore.PersistedRoom := []
  events : List RoomEventBusMessage := []
  announcements : List StoredAnnouncement := []
  /-- Every message passed to `send`. -/
  sent : List (Doc JsString) := []
  deriving DecidableEq

def Server.put (s : Server) (i : Nat) (session : Session) : Server :=
  { s with sessions := s.sessions.set i session }

def Server.send (s : Server) (sent : Doc JsString) : Server := { s with sent := s.sent ++ [sent] }

def Server.write (s : Server) (room : RedisRoomStore.PersistedRoom) : Server :=
  { s with rooms := s.rooms ++ [room] }

def Server.emit (s : Server) (event : RoomEventBusMessage) : Server :=
  { s with events := s.events ++ [event] }

def Server.enter (s : Server) (i : Nat) (session : Session) (roomCode : JsString) (joinedAt : Rat)
    (joinIdentity : JoinIdentity) : Server :=
  { s.put i (applyJoinedSessionState session roomCode joinedAt joinIdentity) with
    seats := s.seats ++ [joinIdentity] }

/-! ## What the service writes -/

def messageType (sent : Doc JsString) : Unknown := property (some sent) "type"

def payloadField (sent : Doc JsString) (name : String) : Unknown :=
  property (property (some sent) "payload") name

@[simp] theorem isString_str (s : JsString) : isString (some (.str s : Doc JsString)) = true := rfl

@[simp] theorem isFiniteNumber_num (q : Rat) :
    isFiniteNumber (some (.num q : Doc JsString)) = true := rfl

theorem isString_iff {value : Unknown} : isString value = true ↔ ∃ s, value = some (.str s) := by
  rcases value with _ | _ | _ | _ | s | _ | _ <;> simp [isString]

theorem isString_of_holds {value : Unknown} {test : JsString → Bool}
    (held : holds test value = true) : isString value = true := by
  rcases value with _ | _ | _ | _ | _ | _ | _
  case some.str => rfl
  all_goals simp [holds, asString] at held

section
variable {URL : JsString → Option Url}

abbrev AcceptedVideo (URL : JsString → Option Url) :=
  {d : Doc JsString // Client.isSharedVideo URL (some d) = true}

abbrev AcceptedPlayback := {d : Doc JsString // isPlaybackState (some d) = true}

/-- The video of a share, under the name of whoever shares it. -/
def sharedVideoBy (session : Session) (video : Doc JsString) : Doc JsString :=
  withField "sharedByDisplayName" (some (.str session.displayName))
    (withField "sharedByMemberId" (some (.str session.actorId)) video)

theorem isUsable_sharedVideoBy (session : Session) (video : AcceptedVideo URL) :
    isUsableSharedVideo (some (sharedVideoBy session video.1)) = true := by
  have accepted := video.2
  simp only [Client.isSharedVideo, Bool.and_eq_true] at accepted
  obtain ⟨⟨⟨⟨⟨⟨⟨⟨-, id⟩, -⟩, url⟩, -⟩, title⟩, -⟩, -⟩, -⟩ := accepted
  simp +decide [isUsableSharedVideo, sharedVideoBy, isString_of_holds id, isString_of_holds url,
    isString_of_holds title]

def stampedPlayback (session : Session) (currentTime : Rat) (playback : Doc JsString) :
    Doc JsString :=
  withField "serverTime" (some (.num currentTime))
    (withField "actorId" (some (.str session.actorId)) playback)

/-- What a share starts from where the client names no playback. -/
def initialPlayback (session : Session) (url : Doc JsString) (currentTime : Rat) : Doc JsString :=
  .obj (object [
    ("url", url),
    ("currentTime", .num 0),
    ("playState", .str (js "paused")),
    ("playbackRate", .num 1),
    ("updatedAt", .num currentTime),
    ("serverTime", .num currentTime),
    ("actorId", .str session.actorId),
    ("seq", .num 0)])

def sharePlayback (session : Session) (video : Doc JsString) (playback : Option AcceptedPlayback)
    (currentTime : Rat) : Doc JsString :=
  match playback with
  | some played => stampedPlayback session currentTime
      (withField "syncIntent" none (withField "url" (property (some video) "url") played.1))
  | none => initialPlayback session ((property (some video) "url").getD .null) currentTime

theorem isUsablePlayback_of_isPlaybackState {value : Unknown}
    (accepted : isPlaybackState value = true) : isUsablePlayback value = true := by
  simp only [isPlaybackState, Bool.and_eq_true] at accepted
  obtain ⟨⟨⟨⟨⟨⟨⟨⟨⟨⟨⟨record, url⟩, current⟩, state⟩, intent⟩, user⟩, natural⟩, rate⟩, updated⟩,
    server⟩, actor⟩, seq⟩ := accepted
  rw [isPlaybackPlayState] at state
  rw [isPlaybackSyncIntent, ← Bool.or_assoc] at intent
  rw [isRecord] at record
  simp only [isUsablePlayback, record, isString_of_holds url, current, state, intent, user, natural,
    rate, updated, server, isString_of_holds actor, seq, Bool.and_self]

theorem isUsablePlayback_stamped (session : Session) (currentTime : Rat) {d : Doc JsString}
    (usable : isUsablePlayback (some d) = true) :
    isUsablePlayback (some (stampedPlayback session currentTime d)) = true := by
  simp only [isUsablePlayback, Bool.and_eq_true] at usable
  simp +decide [isUsablePlayback, stampedPlayback, usable]

theorem isUsable_sharePlayback (session : Session) (video : AcceptedVideo URL)
    (playback : Option AcceptedPlayback) (currentTime : Rat) :
    isUsablePlayback (some (sharePlayback session video.1 playback currentTime)) = true := by
  have accepted := video.2
  simp only [Client.isSharedVideo, Bool.and_eq_true] at accepted
  have url := isString_of_holds accepted.1.1.1.1.1.2
  cases playback with
  | none =>
    obtain ⟨text, named⟩ := isString_iff.mp url
    rw [sharePlayback, named]
    rfl
  | some played =>
    have usable := isUsablePlayback_of_isPlaybackState played.2
    apply isUsablePlayback_stamped
    simp only [isUsablePlayback, Bool.and_eq_true] at usable
    simp +decide [isUsablePlayback, usable, url]

def sharePatch (session : Session) (video : AcceptedVideo URL) (playback : Option AcceptedPlayback)
    (currentTime : Rat) : RedisRoomStore.PersistedRoomPatch where
  sharedVideo := some (some ⟨sharedVideoBy session video.1, isUsable_sharedVideoBy session video⟩)
  playback := some (some ⟨sharePlayback session video.1 playback currentTime,
    isUsable_sharePlayback session video playback currentTime⟩)
  expiresAt := some none
  lastActiveAt := some currentTime

def playbackPatch (session : Session) (playback : AcceptedPlayback) (currentTime : Rat) :
    RedisRoomStore.PersistedRoomPatch where
  playback := some (some ⟨stampedPlayback session currentTime playback.1,
    isUsablePlayback_stamped session currentTime (isUsablePlayback_of_isPlaybackState playback.2)⟩)
  expiresAt := some none
  lastActiveAt := some currentTime

/-- The address a playback has to be of, in a room that has a video. -/
def sharesUrl (URL : JsString → Option Url) (room : RedisRoomStore.PersistedRoom)
    (playback : Doc JsString) : Prop :=
  ∃ video shared,
    room.sharedVideo = some video ∧
    ((asString (property (some video.1) "url")).bind (normalizeBilibiliUrl URL)) = some shared ∧
    ((asString (property (some playback) "url")).bind (normalizeBilibiliUrl URL)) = some shared

/-- An update that is no share and no playback leaves both alone, or takes both away: a video an
admin clears, a name, a countdown. -/
def keepsOrClears (patch : RedisRoomStore.PersistedRoomPatch) : Prop :=
  (patch.sharedVideo = none ∨ patch.sharedVideo = some none) ∧
    (patch.playback = none ∨ patch.playback = some none)

end

section
variable (URL : JsString → Option Url)

/-- The messages that may rename a session. -/
def isNaming (sent : Doc JsString) : Bool :=
  equals (messageType sent) "room:create" || equals (messageType sent) "room:join" ||
    equals (messageType sent) "profile:update"

inductive Step : Server → Server → Prop
  | connect {s : Server} (digits : Fin 32 → Fin 16) (guest : Fin 900) :
    Step s { s with sessions := s.sessions ++ [acceptConnection digits guest] }
  | rename {s : Server} {i : Nat} {session : Session} (held : s.sessions[i]? = some session)
      (sent : Doc JsString) (accepted : isClientMessage URL (some sent) = true)
      (naming : isNaming sent = true) :
    Step s (s.put i (setSessionDisplayName session (asString (payloadField sent "displayName"))))
  | observe {s : Server} {session : Session} (held : session ∈ s.sessions) :
    Step s { s with records := s.records ++ [session] }
  | record {s : Server} {session read : Session} (held : session ∈ s.sessions)
      (roomCodeOverride : Option JsString)
      (answered : deserializeSession (sessionHashRecord session roomCodeOverride) = some read) :
    Step s { s with records := s.records ++ [read] }
  | snapshot {s : Server} {session : Session} (held : session ∈ s.sessions)
      {snapshot : JoinedSessionSnapshot} (taken : snapshotJoinedSession session = some snapshot) :
    Step s { s with snapshots := s.snapshots ++ [snapshot] }
  | leave {s : Server} {i : Nat} {session : Session} (held : s.sessions[i]? = some session) :
    Step s (s.put i (clearSessionRoom session))
  | restore {s : Server} {i : Nat} {session : Session} (held : s.sessions[i]? = some session)
      {snapshot : JoinedSessionSnapshot} (taken : snapshot ∈ s.snapshots) :
    Step s (s.put i (restoreJoinedSession session snapshot))
  | createRoom {s : Server} {session : Session} (held : session ∈ s.sessions)
      (draws : Fin 6 → Fin 32) (sextets : Fin 32 → Fin 64) (createdAt : Rat) :
    Step s (s.write (RedisRoomStore.createPersistedRoom {
      code := createRoomCode draws
      joinToken := generateToken sextets
      createdAt
      ownerMemberId := some session.id
      ownerDisplayName := some session.displayName }))
  | enterCreated {s : Server} {i : Nat} {session : Session} (held : s.sessions[i]? = some session)
      {room : RedisRoomStore.PersistedRoom} (written : room ∈ s.rooms)
      (sextets : Fin 32 → Fin 64) (createdAt : Rat) :
    Step s (s.enter i session room.code.units createdAt
      { memberId := session.id, memberToken := generateToken sextets })
  | enterJoined {s : Server} {i : Nat} {session : Session} (held : s.sessions[i]? = some session)
      {room : RedisRoomStore.PersistedRoom} (written : room ∈ s.rooms)
      (sent : Doc JsString) (accepted : isClientMessage URL (some sent) = true)
      (joining : equals (messageType sent) "room:join" = true)
      (reconnectMemberId : Option JsString)
      (reclaimed : ∀ memberId, reconnectMemberId = some memberId →
        ∃ seat ∈ s.seats, seat.memberId = memberId)
      (sextets : Fin 32 → Fin 64) (joinedAt : Rat) :
    Step s (s.enter i session room.code.units joinedAt
      (buildJoinIdentity session reconnectMemberId (asString (payloadField sent "memberToken"))
        (generateToken sextets)))
  | update {s : Server} {room : RedisRoomStore.PersistedRoom} (written : room ∈ s.rooms)
      (patch : RedisRoomStore.PersistedRoomPatch) (neither : keepsOrClears patch) :
    Step s (s.write (room.patched patch))
  | share {s : Server} {session : Session} (held : session ∈ s.sessions)
      {room : RedisRoomStore.PersistedRoom} (written : room ∈ s.rooms)
      (sent : Doc JsString) (accepted : isClientMessage URL (some sent) = true)
      (sharing : equals (messageType sent) "video:share" = true)
      (video : AcceptedVideo URL) (named : payloadField sent "video" = some video.1)
      (playback : Option AcceptedPlayback)
      (played : payloadField sent "playback" = playback.map Subtype.val) (currentTime : Rat) :
    Step s (s.write (room.patched (sharePatch session video playback currentTime)))
  | play {s : Server} {session : Session} (held : session ∈ s.sessions)
      {room : RedisRoomStore.PersistedRoom} (written : room ∈ s.rooms)
      (sent : Doc JsString) (accepted : isClientMessage URL (some sent) = true)
      (playing : equals (messageType sent) "playback:update" = true)
      (playback : AcceptedPlayback) (played : payloadField sent "playback" = some playback.1)
      (same : sharesUrl URL room playback.1) (currentTime : Rat) :
    Step s (s.write (room.patched (playbackPatch session playback currentTime)))
  | roomEvent {s : Server} {room : RedisRoomStore.PersistedRoom} (written : room ∈ s.rooms)
      (type : RoomEventType) (sourceInstanceId : JsString) (emittedAt : Rat) :
    Step s (s.emit (.room type room.code.units sourceInstanceId emittedAt))
  | memberEvent {s : Server} {session : Session} (held : session ∈ s.sessions)
      {roomCode : JsString} (seated : session.roomCode = some roomCode)
      (type : MemberEventType) (sourceInstanceId : JsString) (emittedAt : Rat) :
    Step s (s.emit
      (.member type roomCode sourceInstanceId emittedAt session.actorId session.displayName))
  | sendCreated {s : Server} {session : Session} (held : session ∈ s.sessions)
      {room : RedisRoomStore.PersistedRoom} (written : room ∈ s.rooms)
      {seat : JoinIdentity} (taken : seat ∈ s.seats) :
    Step s (s.send (roomCreated session room.code.units room.joinToken seat.memberToken))
  | sendJoined {s : Server} {session : Session} (held : session ∈ s.sessions)
      {room : RedisRoomStore.PersistedRoom} (written : room ∈ s.rooms)
      {seat : JoinIdentity} (taken : seat ∈ s.seats) :
    Step s (s.send (roomJoined session room.code.units seat.memberToken))
  | sendState {s : Server} {room : RedisRoomStore.PersistedRoom} (written : room ∈ s.rooms)
      {sessions : List Session} (listed : ∀ session ∈ sessions, session ∈ s.records)
      (sentAtMs : Rat) :
    Step s (s.send (roomState (roomStateFromSessions room sessions) sentAtMs))
  | sendDeleted {s : Server} {event : RoomEventBusMessage} (published : event ∈ s.events)
      {roomCode sourceInstanceId : JsString} {emittedAt : Rat}
      (read : parseMessage (stringify event.toDoc) =
        some (.room .deleted roomCode sourceInstanceId emittedAt)) (sentAtMs : Rat) :
    Step s (s.send (roomState (deletedRoomState roomCode) sentAtMs))
  | sendMember {s : Server} {event read : RoomEventBusMessage} (published : event ∈ s.events)
      (received : parseMessage (stringify event.toDoc) = some read)
      {sent : Doc JsString} (made : createMemberMessage read = some sent) :
    Step s (s.send sent)
  | sendPong {s : Server} (sent : Doc JsString) (accepted : isClientMessage URL (some sent) = true)
      (pinging : equals (messageType sent) "sync:ping" = true) {clientSendTime : Rat}
      (named : payloadField sent "clientSendTime" = some (.num clientSendTime))
      (serverReceiveTime serverSendTime : Rat) :
    Step s (s.send (syncPong clientSendTime serverReceiveTime serverSendTime))
  | sendError {s : Server} {code text : String} (known : code ∈ errorCodes)
      (said : text ∈ errorMessages) :
    Step s (s.send (sendError code text))
  | publish {s : Server} (input : PublishAnnouncementInput) (publishedAt : Rat)
      (digits : Fin 32 → Fin 16) {announcement : StoredAnnouncement} {ttlMs : Rat}
      (accepted : publish input publishedAt (randomUUID digits) = .ok (announcement, ttlMs)) :
    Step s { s with announcements := s.announcements ++ [announcement] }
  | sendAnnouncement {s : Server} {stored read : StoredAnnouncement}
      (published : stored ∈ s.announcements)
      (answered : read = stored ∨
        parseStoredAnnouncement (stringify stored.toDoc) = some read)
      (remainingMs elapsedMs : Rat) :
    Step s (s.send (serverAnnouncement (toWireAnnouncement read remainingMs elapsedMs)))
  | sendNoAnnouncement {s : Server} : Step s (s.send (serverAnnouncement none))

abbrev Run : Server → Server → Prop := Relation.ReflTransGen (Step URL)

end

end BiliSyncPlay.Protocol
