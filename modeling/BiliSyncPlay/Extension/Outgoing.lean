import BiliSyncPlay.Extension.PageVideo
import BiliSyncPlay.Protocol.Accepted

/-!
# What the extension sends to the server

A frame is put together from what the extension has come to hold: from the server's messages, the
invite a user pastes, the account page and the pages that play.
-/

namespace BiliSyncPlay.Outgoing

open Json RedisRoomStore Protocol PageVideo

def PROTOCOL_VERSION : Rat := 5

/-! ## Playback -/

inductive PlayState where
  | playing | paused | buffering
  deriving DecidableEq

def PlayState.text : PlayState → String
  | .playing => "playing"
  | .paused => "paused"
  | .buffering => "buffering"

inductive SyncIntent where
  | explicitSeek | explicitRatechange
  deriving DecidableEq

def SyncIntent.text : SyncIntent → String
  | .explicitSeek => "explicit-seek"
  | .explicitRatechange => "explicit-ratechange"

structure PlaybackState where
  url : JsString
  currentTime : Rat
  playState : PlayState
  syncIntent : Option SyncIntent := none
  userInitiated : Bool := false
  naturalEnd : Bool := false
  playbackRate : Rat
  updatedAt : Rat
  serverTime : Rat := 0
  actorId : JsString
  seq : Rat
  deriving DecidableEq

/-- What a player is read as, with the numbers of the moment. -/
structure Reading where
  currentTime : Rat
  playState : PlayState
  syncIntent : Option SyncIntent := none
  userInitiated : Bool := false
  naturalEnd : Bool := false
  playbackRate : Rat
  updatedAt : Rat
  seq : Rat
  deriving DecidableEq

def createPlaybackBroadcastPayload (currentVideo : PageVideo.SharedVideo) (actorId : JsString)
    (reading : Reading) : PlaybackState :=
  { reading with url := currentVideo.url, actorId }

def createSharePayload (sharedVideo : PageVideo.SharedVideo) (actorId : JsString)
    (playback : Option Reading) : PageVideo.SharedVideo × Option PlaybackState :=
  (sharedVideo, playback.map fun reading =>
    { url := sharedVideo.url
      currentTime := reading.currentTime
      playState := reading.playState
      playbackRate := reading.playbackRate
      updatedAt := reading.updatedAt
      actorId
      seq := reading.seq })

/-- What the background does to a playback before it goes out. -/
def stamped (memberId : Option JsString) (playback : PlaybackState) : PlaybackState :=
  { playback with serverTime := 0, actorId := memberId.getD playback.actorId }

/-! ## Frames -/

def PlaybackState.toDoc (playback : PlaybackState) : Doc JsString :=
  objectOf [
    ("url", some (.str playback.url)),
    ("currentTime", some (.num playback.currentTime)),
    ("playState", some (.str (js playback.playState.text))),
    ("syncIntent", playback.syncIntent.map fun intent => .str (js intent.text)),
    ("playbackRate", some (.num playback.playbackRate)),
    ("updatedAt", some (.num playback.updatedAt)),
    ("serverTime", some (.num playback.serverTime)),
    ("actorId", some (.str playback.actorId)),
    ("seq", some (.num playback.seq)),
    ("userInitiated", if playback.userInitiated then some (.bool true) else none),
    ("naturalEnd", if playback.naturalEnd then some (.bool true) else none)]

def toDoc (video : PageVideo.SharedVideo) : Doc JsString :=
  objectOf [
    ("videoId", some (.str video.videoId)),
    ("url", some (.str video.url)),
    ("title", some (.str video.title))]

inductive ClientMessage where
  | roomCreate (displayName : Option JsString)
  | roomJoin (roomCode joinToken : JsString) (memberToken displayName : Option JsString)
  | roomLeave (memberToken : Option JsString)
  | profileUpdate (memberToken displayName : JsString)
  | videoShare (memberToken : JsString) (video : PageVideo.SharedVideo)
      (playback : Option PlaybackState)
  | playbackUpdate (memberToken : JsString) (playback : PlaybackState)
  | syncRequest (memberToken : JsString)
  | syncPing (clientSendTime : Rat)
  deriving DecidableEq

def ClientMessage.type : ClientMessage → String
  | .roomCreate .. => "room:create"
  | .roomJoin .. => "room:join"
  | .roomLeave .. => "room:leave"
  | .profileUpdate .. => "profile:update"
  | .videoShare .. => "video:share"
  | .playbackUpdate .. => "playback:update"
  | .syncRequest .. => "sync:request"
  | .syncPing .. => "sync:ping"

def ClientMessage.payload : ClientMessage → Unknown
  | .roomCreate displayName =>
    some <| objectOf [
      ("displayName", displayName.map .str),
      ("protocolVersion", some (.num PROTOCOL_VERSION))]
  | .roomJoin roomCode joinToken memberToken displayName =>
    some <| objectOf [
      ("roomCode", some (.str roomCode)),
      ("joinToken", some (.str joinToken)),
      ("memberToken", memberToken.map .str),
      ("displayName", displayName.map .str),
      ("protocolVersion", some (.num PROTOCOL_VERSION))]
  | .roomLeave memberToken =>
    memberToken.map fun token => objectOf [("memberToken", some (.str token))]
  | .profileUpdate memberToken displayName =>
    some <| objectOf [
      ("memberToken", some (.str memberToken)),
      ("displayName", some (.str displayName))]
  | .videoShare memberToken video playback =>
    some <| objectOf [
      ("memberToken", some (.str memberToken)),
      ("video", some (toDoc video)),
      ("playback", playback.map PlaybackState.toDoc)]
  | .playbackUpdate memberToken playback =>
    some <| objectOf [
      ("memberToken", some (.str memberToken)),
      ("playback", some playback.toDoc)]
  | .syncRequest memberToken => some <| objectOf [("memberToken", some (.str memberToken))]
  | .syncPing clientSendTime => some <| objectOf [("clientSendTime", some (.num clientSendTime))]

def framed (type : String) (payload : Unknown) : Doc JsString :=
  objectOf [("type", some (.str (js type))), ("payload", payload)]

def ClientMessage.toDoc (message : ClientMessage) : Doc JsString :=
  framed message.type message.payload

/-! ## Where the strings come from -/

/-- `value.split(separator)`, where it has exactly two parts and neither is blank. -/
def splitInTwo (separator : CodeUnit) (value : JsString) : Option (JsString × JsString) :=
  match value.dropWhile (· ≠ separator) with
  | [] => none
  | _ :: second =>
    let first := value.takeWhile (· ≠ separator)
    if separator ∈ second ∨ first = [] ∨ second = [] then none else some (first, second)

/-- The name the account goes by; none where it has neither a name nor a number. -/
def nextDisplayName (uname mid : JsString) : JsString :=
  orElse (trim uname) (if mid = [] then [] else js "UID-" ++ mid)

section
variable (P : Platform)

def parseInviteValue (value : JsString) : Option (JsString × JsString) :=
  let normalized := (trim value).filter (!isWhiteSpace ·)
  [char ':', char '|', char ','].findSome? fun separator => do
    let (roomCode, joinToken) ← splitInTwo separator normalized
    let normalizedRoomCode := P.toUpperCase roomCode
    if isRoomCode (some (.str normalizedRoomCode)) && isToken (some (.str joinToken)) then
      some (normalizedRoomCode, joinToken)
    else none

/-- The room a user asks to join. -/
def requestJoinRoom (roomCode joinToken : JsString) : JsString × JsString :=
  (P.toUpperCase (trim roomCode), trim joinToken)

/-! ## Runs -/

/-- What a video is read off: an answer of the page bridge, or a page. -/
inductive Read where
  | bridge (pathname pageUrl : JsString) (detail : Detail)
  | page (source : PageVideoSource)
  deriving DecidableEq

def Read.video? : Read → Option PageVideo.SharedVideo
  | .bridge pathname pageUrl detail => readSnapshot P pathname pageUrl detail
  | .page source => resolvePageSharedVideo P source

/-- All the extension ever held, or read it off; a session is some of it. -/
structure Extension where
  /-- The name and the number of each account that was reported under one of them. -/
  accounts : List (JsString × JsString) := []
  roomCodes : List JsString := []
  joinTokens : List JsString := []
  memberTokens : List JsString := []
  memberIds : List JsString := []
  reads : List Read := []
  sent : List (Doc JsString) := []
  deriving DecidableEq

def Extension.displayNames (s : Extension) : List JsString :=
  s.accounts.map fun account => nextDisplayName account.1 account.2

def Extension.videos (s : Extension) : List PageVideo.SharedVideo :=
  s.reads.filterMap (Read.video? P)

inductive Event where
  | hear (message : Doc JsString)
  | paste (invite : JsString)
  | reportUser (uname mid : JsString)
  | read (read : Read)
  | send (message : ClientMessage)

def field (payload : Unknown) (name : String) : List JsString :=
  (asString (property payload name)).toList

/-- What `handleServerMessage` keeps of a message. -/
def Extension.hear (s : Extension) (message : Doc JsString) : Extension :=
  let type := property (some message) "type"
  let payload := property (some message) "payload"
  if equals type "room:created" then
    { s with
      roomCodes := s.roomCodes ++ field payload "roomCode"
      joinTokens := s.joinTokens ++ field payload "joinToken"
      memberTokens := s.memberTokens ++ field payload "memberToken"
      memberIds := s.memberIds ++ field payload "memberId" }
  else if equals type "room:joined" then
    { s with
      roomCodes := s.roomCodes ++ field payload "roomCode"
      memberTokens := s.memberTokens ++ field payload "memberToken"
      memberIds := s.memberIds ++ field payload "memberId" }
  else if equals type "room:state" then
    { s with roomCodes := s.roomCodes ++ field payload "roomCode" }
  else s

def Extension.paste (s : Extension) (invite : JsString) : Extension :=
  match parseInviteValue P invite with
  | some (roomCode, joinToken) =>
    let (pendingJoinRoomCode, pendingJoinToken) := requestJoinRoom P roomCode joinToken
    { s with
      roomCodes := s.roomCodes ++ [pendingJoinRoomCode]
      joinTokens := s.joinTokens ++ [pendingJoinToken] }
  | none => s

def Extension.reportUser (s : Extension) (uname mid : JsString) : Extension :=
  if nextDisplayName uname mid = [] then s
  else { s with accounts := s.accounts ++ [(uname, mid)] }

def Extension.exec (s : Extension) : Event → Extension
  | .hear message => s.hear message
  | .paste invite => s.paste P invite
  | .reportUser uname mid => s.reportUser uname mid
  | .read read => { s with reads := s.reads ++ [read] }
  | .send message => { s with sent := s.sent ++ [message.toDoc] }

/-- A playback of a video the extension read off a page, as this client or as the member it was. -/
def Extension.Plays (s : Extension) (playback : PlaybackState) : Prop :=
  ∃ video ∈ s.videos P, ∃ localMemberId memberId : Option JsString,
    (∀ id ∈ localMemberId, id ∈ s.memberIds) ∧ (∀ id ∈ memberId, id ∈ s.memberIds) ∧
      let actorId := localMemberId.getD (js "local")
      ∃ reading, playback = stamped memberId (createPlaybackBroadcastPayload video actorId reading)
        ∨ some playback =
          (createSharePayload video actorId (some reading)).2.map (stamped memberId)

/-- The fields of a frame are values the extension held. -/
def Extension.Holds (s : Extension) : ClientMessage → Prop
  | .roomCreate displayName => ∀ name ∈ displayName, name ∈ s.displayNames
  | .roomJoin roomCode joinToken memberToken displayName =>
    roomCode ∈ s.roomCodes ∧ joinToken ∈ s.joinTokens ∧ (∀ token ∈ memberToken,
      token ∈ s.memberTokens) ∧ ∀ name ∈ displayName, name ∈ s.displayNames
  | .roomLeave memberToken => ∀ token ∈ memberToken, token ∈ s.memberTokens
  | .profileUpdate memberToken displayName =>
    memberToken ∈ s.memberTokens ∧ displayName ∈ s.displayNames
  | .videoShare memberToken video playback =>
    memberToken ∈ s.memberTokens ∧ video ∈ s.videos P ∧ ∀ played ∈ playback, s.Plays P played
  | .playbackUpdate memberToken playback => memberToken ∈ s.memberTokens ∧ s.Plays P playback
  | .syncRequest memberToken => memberToken ∈ s.memberTokens
  | .syncPing _ => True

/-- What can happen to an extension on the pages it runs on. -/
def Allowed (s : Extension) : Event → Prop
  | .hear message => isServerMessage P.URL (some message) = true
  | .read (.bridge pathname pageUrl _) => OnSite P pageUrl pathname
  | .read (.page source) =>
    OnSite P source.pageUrl source.pathname ∧
      (∀ snapshot ∈ source.pageSnapshot, snapshot ∈ s.videos P) ∧
      ∀ snapshot ∈ source.festivalSnapshot, snapshot ∈ s.videos P
  | .send message => s.Holds P message
  | .paste _ | .reportUser .. => True

/-! ### The condition -/

/-- The account's name is short enough, or its number where it has no name. -/
def AccountFits (account : JsString × JsString) : Prop :=
  (trim account.1).length ≤ DISPLAY_NAME_MAX_LENGTH ∧
    (trim account.1 = [] → account.2.length + 4 ≤ DISPLAY_NAME_MAX_LENGTH)

def Read.Names : Read → Prop
  | .bridge pathname pageUrl detail => DetailNames P pathname pageUrl detail
  | .page source => SourceNames P source

def Read.Fits : Read → Prop
  | .bridge pathname pageUrl detail => DetailFits P pathname pageUrl detail
  | .page source => SourceFits P source

def ClientMessage.displayName? : ClientMessage → Option JsString
  | .roomCreate displayName | .roomJoin _ _ _ displayName => displayName
  | .profileUpdate _ displayName => some displayName
  | _ => none

def ClientMessage.video? : ClientMessage → Option PageVideo.SharedVideo
  | .videoShare _ video _ => some video
  | _ => none

def ClientMessage.playback? : ClientMessage → Option PlaybackState
  | .videoShare _ _ playback => playback
  | .playbackUpdate _ playback => some playback
  | _ => none

/-- The condition on what a frame is made of: on the accounts it names, on what its video was read
off, and on the addresses of what its playback was. -/
structure Meets (s : Extension) (message : ClientMessage) : Prop where
  account : ∀ name ∈ message.displayName?, ∀ account ∈ s.accounts,
    nextDisplayName account.1 account.2 = name → AccountFits account
  shared : ∀ video ∈ message.video?, ∀ read ∈ s.reads, read.video? P = some video → read.Names P
  played : ∀ playback ∈ message.playback?, ∀ read ∈ s.reads, ∀ video,
    read.video? P = some video → video.url = playback.url → read.Fits P

def Step (s t : Extension) : Prop := ∃ event, Allowed P s event ∧ s.exec P event = t

def StepMeeting (s t : Extension) : Prop :=
  ∃ event, Allowed P s event ∧ (∀ message, event = .send message → Meets P s message) ∧
    s.exec P event = t

abbrev Run := Relation.ReflTransGen (Step P)

abbrev RunMeeting := Relation.ReflTransGen (StepMeeting P)

end

/-! ## Then every frame is one the server takes -/

variable {P : Platform}

abbrev AcceptedByServer (P : Platform) (sent : Doc JsString) : Prop :=
  isClientMessage P.URL (some sent) = true

theorem isClientMessage_toDoc (URL : JsString → Option Url) (message : ClientMessage) :
    isClientMessage URL (some message.toDoc) =
      match message with
      | .roomCreate _ => message.payload.isNone || isClientHelloPayload message.payload
      | .roomJoin .. => isJoinRoomPayload message.payload
      | .roomLeave _ => message.payload.isNone || isLeaveRoomPayload message.payload
      | .profileUpdate .. => isProfileUpdatePayload message.payload
      | .videoShare .. => isShareVideoPayload URL message.payload
      | .playbackUpdate .. => isPlaybackUpdatePayload message.payload
      | .syncRequest _ => isSyncRequestPayload message.payload
      | .syncPing _ => isSyncPingPayload message.payload := by
  have typed : equals (messageType message.toDoc) message.type = true := by
    simp +decide [messageType, ClientMessage.toDoc, framed, property_objectOf_cons, equals]
  have carried : property (some message.toDoc) "payload" = message.payload := by
    simp +decide [ClientMessage.toDoc, framed, property_objectOf_cons]
  have record : isRecord (some message.toDoc) = true := rfl
  rw [isClientMessage_typed typed, carried, record]
  cases message <;> simp +decide only [ClientMessage.type, ↓reduceIte, Bool.true_and]

/-! ### Payloads -/

theorem isPlaybackPlayState_text (playState : PlayState) :
    isPlaybackPlayState (some (.str (js playState.text))) = true := by
  cases playState <;> decide

theorem isPlaybackSyncIntent_text (intent : SyncIntent) :
    isPlaybackSyncIntent (some (.str (js intent.text))) = true := by
  cases intent <;> decide

theorem isPlaybackState_toDoc {playback : PlaybackState}
    (url : playback.url.length ≤ URL_MAX_LENGTH) (actor : isActorName playback.actorId = true) :
    isPlaybackState (some playback.toDoc) = true := by
  have record : isRecord (some playback.toDoc) = true := rfl
  have intent : ((playback.syncIntent.map fun intent => Doc.str (js intent.text)).isNone ||
      isPlaybackSyncIntent (playback.syncIntent.map fun intent => .str (js intent.text))) =
        true := by
    cases playback.syncIntent with
    | none => rfl
    | some intent => exact isPlaybackSyncIntent_text intent
  have flag (set : Bool) : ((if set then some (Doc.bool true : Doc JsString) else none).isNone ||
      isBoolean (if set then some (Doc.bool true : Doc JsString) else none)) = true := by
    cases set <;> rfl
  have bounded : isBoundedString (some (.str playback.url)) URL_MAX_LENGTH = true :=
    decide_eq_true url
  unfold isPlaybackState
  rw [record]
  simp +decide only [PlaybackState.toDoc, property_objectOf_cons, property_objectOf_nil,
    ↓reduceIte, Option.or_none, Option.none_or]
  simp only [bounded, intent, flag, isPlaybackPlayState_text, isActorId_str, actor, isFiniteNumber,
    Bool.and_self]

theorem isSharedVideo_toDoc {video : PageVideo.SharedVideo} (sound : Sound P video) :
    Client.isSharedVideo P.URL (some (toDoc video)) = true := by
  have record : isRecord (some (toDoc video)) = true := rfl
  have idLength : isBoundedString (some (.str video.videoId)) TITLE_MAX_LENGTH = true :=
    decide_eq_true sound.idLength
  have urlLength : isBoundedString (some (.str video.url)) URL_MAX_LENGTH = true :=
    decide_eq_true sound.urlLength
  have title : isBoundedString (some (.str video.title)) TITLE_MAX_LENGTH = true :=
    decide_eq_true sound.title
  unfold Client.isSharedVideo
  rw [record]
  simp +decide only [toDoc, property_objectOf_cons, property_objectOf_nil, ↓reduceIte,
    Option.or_none, Option.none_or]
  simp only [idLength, sound.videoId, urlLength, sound.url, title]
  rfl

/-- Where a video comes from: a read that names it by itself, without what was read before. -/
structure Vouches (P : Platform) (read : Read) (video : PageVideo.SharedVideo) : Prop where
  given : read.video? P = some video
  sound : read.Names P → Sound P video
  fits : read.Fits P → video.url.length ≤ URL_MAX_LENGTH

structure Valid (P : Platform) (s : Extension) : Prop where
  roomCodes : ∀ code ∈ s.roomCodes, isRoomCode (some (.str code)) = true
  joinTokens : ∀ token ∈ s.joinTokens, IsToken token
  memberTokens : ∀ token ∈ s.memberTokens, IsToken token
  memberIds : ∀ id ∈ s.memberIds, isActorName id = true
  vouched : ∀ video ∈ s.videos P, ∃ read ∈ s.reads, Vouches P read video
  sent : ∀ sent ∈ s.sent, AcceptedByServer P sent

theorem valid_start : Valid P {} := by
  constructor <;> intro _ mem <;> cases mem

/-- What a guard says of a field holds of the text in it. -/
theorem field_holds {test : Unknown → Bool} {payload : Unknown} {name : String}
    (taken : test (property payload name) = true) :
    ∀ text ∈ field payload name, test (some (.str text)) = true := by
  intro text mem
  have given : asString (property payload name) = some text := Option.mem_toList.mp mem
  cases value : property payload name with
  | none => simp [value, asString] at given
  | some d =>
    rw [value] at given taken
    cases d with
    | str known =>
      cases Option.some.inj given
      exact taken
    | _ => cases given

theorem length_nextDisplayName {account : JsString × JsString} (fits : AccountFits account) :
    (nextDisplayName account.1 account.2).length ≤ DISPLAY_NAME_MAX_LENGTH := by
  obtain ⟨short, numbered⟩ := fits
  have lead : (js "UID-").length = 4 := by decide
  unfold nextDisplayName orElse
  split
  · next blank =>
    split
    · exact Nat.zero_le _
    · rw [List.length_append, lead]
      have bound := numbered blank
      omega
  · exact short

theorem le_of_code {u : CodeUnit} (letter : (isUpper u || isDigit u) = true) : u ≤ char 'Z' := by
  simp only [isUpper, isDigit, within, Bool.or_eq_true, Bool.and_eq_true,
    decide_eq_true_eq] at letter
  have digits : char '9' ≤ char 'Z' := by decide
  rcases letter with ⟨-, bound⟩ | ⟨-, bound⟩
  · exact bound
  · exact UInt16.le_trans bound digits

theorem not_whiteSpace_of_code {u : CodeUnit} (letter : (isUpper u || isDigit u) = true) :
    isWhiteSpace u = false := by
  have high : ¬ 0x2000 ≤ u := by
    intro far
    have near := UInt16.le_trans far (le_of_code letter)
    exact absurd near (by decide)
  rw [isWhiteSpace, decide_eq_false high, Bool.false_and, Bool.or_false, decide_eq_false_iff_not]
  intro mem
  simp only [List.mem_cons, List.not_mem_nil, or_false] at mem
  rcases mem with rfl | rfl | rfl | rfl | rfl | rfl | rfl | rfl | rfl | rfl | rfl | rfl | rfl |
    rfl <;> exact absurd letter (by decide)

theorem trim_of_plain {s : JsString} (plain : ∀ u ∈ s, isWhiteSpace u = false) : trim s = s := by
  have lead : s.dropWhile isWhiteSpace = s := by
    cases s with
    | nil => rfl
    | cons u rest => simp [plain u List.mem_cons_self]
  rw [trim, lead, List.rdropWhile_eq_self_iff]
  intro filled
  simp [plain _ (List.getLast_mem filled)]

theorem splitInTwo_mem {separator : CodeUnit} {value first second : JsString}
    (split : splitInTwo separator value = some (first, second)) : ∀ u ∈ second, u ∈ value := by
  unfold splitInTwo at split
  split at split
  · cases split
  · next head rest dropped =>
    dsimp only at split
    split at split
    · cases split
    · cases Option.some.inj split
      intro u mem
      have kept : u ∈ value.dropWhile (· ≠ separator) := by
        rw [dropped]
        exact List.mem_cons_of_mem _ mem
      exact (List.dropWhile_suffix _).subset kept

/-- The popup lets through only what the guard takes. -/
theorem parseInviteValue_sound {value roomCode joinToken : JsString}
    (parsed : parseInviteValue P value = some (roomCode, joinToken)) :
    isRoomCode (some (.str roomCode)) = true ∧ IsToken joinToken ∧
      ∀ u ∈ joinToken, isWhiteSpace u = false := by
  unfold parseInviteValue at parsed
  obtain ⟨separator, -, split⟩ := List.exists_of_findSome?_eq_some parsed
  obtain ⟨⟨code, token⟩, parts, checked⟩ := Option.bind_eq_some_iff.mp split
  dsimp only at checked
  split at checked
  · next taken =>
    cases Option.some.inj checked
    simp only [Bool.and_eq_true] at taken
    refine ⟨taken.1, taken.2, fun u mem => ?_⟩
    have kept := splitInTwo_mem parts u mem
    simpa using (List.mem_filter.mp kept).2
  · cases checked

theorem requestJoinRoom_sound (documented : P.Documented) {roomCode joinToken : JsString}
    (code : isRoomCode (some (.str roomCode)) = true)
    (plain : ∀ u ∈ joinToken, isWhiteSpace u = false) :
    requestJoinRoom P roomCode joinToken = (roomCode, joinToken) := by
  simp only [isRoomCode, holds, asString, Option.any_some, Bool.and_eq_true,
    List.all_eq_true] at code
  have letters : ∀ u ∈ roomCode, isWhiteSpace u = false := by
    intro u mem
    exact not_whiteSpace_of_code (code.2 u mem)
  rw [requestJoinRoom, trim_of_plain letters, trim_of_plain plain, documented.upper _ code.2]

theorem displayName_of_fits {s : Extension} {name : JsString} (known : name ∈ s.displayNames)
    (fits : ∀ account ∈ s.accounts, nextDisplayName account.1 account.2 = name →
      AccountFits account) : name.length ≤ DISPLAY_NAME_MAX_LENGTH := by
  obtain ⟨account, mem, rfl⟩ := List.mem_map.mp known
  exact length_nextDisplayName (fits account mem rfl)

theorem optionalName {s : Extension} {displayName : Option JsString}
    (known : ∀ name ∈ displayName, name ∈ s.displayNames)
    (fits : ∀ name ∈ displayName, ∀ account ∈ s.accounts,
      nextDisplayName account.1 account.2 = name → AccountFits account) :
    isOptionalBoundedString (displayName.map .str) DISPLAY_NAME_MAX_LENGTH = true := by
  cases displayName with
  | none => rfl
  | some name => exact decide_eq_true (displayName_of_fits (known name rfl) (fits name rfl))

section
variable {s : Extension} (valid : Valid P s)
include valid

theorem Valid.plays {playback : PlaybackState} (plays : s.Plays P playback)
    (fits : ∀ read ∈ s.reads, ∀ video, read.video? P = some video →
      video.url = playback.url → read.Fits P) : isPlaybackState (some playback.toDoc) = true := by
  obtain ⟨video, read, localMemberId, memberId, localKnown, known, reading, made⟩ := plays
  have actor : isActorName (memberId.getD (localMemberId.getD (js "local"))) = true := by
    cases memberId with
    | some id => exact valid.memberIds id (known id rfl)
    | none =>
      cases localMemberId with
      | some id => exact valid.memberIds id (localKnown id rfl)
      | none => decide
  obtain ⟨source, mem, vouches⟩ := valid.vouched video read
  rcases made with rfl | made
  · exact isPlaybackState_toDoc (vouches.fits (fits source mem video vouches.given rfl)) actor
  · cases Option.some.inj made
    exact isPlaybackState_toDoc (vouches.fits (fits source mem video vouches.given rfl)) actor

theorem Valid.optionalToken {memberToken : Option JsString}
    (known : ∀ token ∈ memberToken, token ∈ s.memberTokens) :
    ((memberToken.map Doc.str).isNone || isToken (memberToken.map .str)) = true := by
  cases memberToken with
  | none => rfl
  | some token => exact valid.memberTokens token (known token rfl)

/-- A frame of what the extension holds is one the server takes. -/
theorem Valid.accepted {message : ClientMessage} (holds : s.Holds P message)
    (meets : Meets P s message) : AcceptedByServer P message.toDoc := by
  have version : isOptionalNonNegativeInteger (some (.num PROTOCOL_VERSION)) = true := by
    decide
  have record (fields : List (String × Unknown)) : isRecord (some (objectOf fields)) = true := rfl
  rw [AcceptedByServer, isClientMessage_toDoc]
  cases message with
  | roomCreate displayName =>
    have name := optionalName holds meets.account
    simp +decide only [ClientMessage.payload, isClientHelloPayload, record, property_objectOf_cons,
      property_objectOf_nil, ↓reduceIte, Option.or_none, Option.none_or, name, version,
      Bool.and_self, Bool.or_true]
  | roomJoin roomCode joinToken memberToken displayName =>
    obtain ⟨code, join, member, named⟩ := holds
    have name := optionalName named meets.account
    have token := valid.optionalToken member
    have coded := valid.roomCodes _ code
    have joined := valid.joinTokens _ join
    simp +decide only [ClientMessage.payload, isJoinRoomPayload, record, property_objectOf_cons,
      property_objectOf_nil, ↓reduceIte, Option.or_none, Option.none_or, name, version, token,
      coded, joined, Bool.and_self]
  | roomLeave memberToken =>
    have token := valid.optionalToken holds
    cases memberToken with
    | none => rfl
    | some known =>
      simp +decide only [ClientMessage.payload, isLeaveRoomPayload, record, property_objectOf_cons,
        property_objectOf_nil, ↓reduceIte, Option.none_or, Option.map_some] at token ⊢
      rw [token]
      rfl
  | profileUpdate memberToken displayName =>
    obtain ⟨member, named⟩ := holds
    have token := valid.memberTokens _ member
    have name : isBoundedString (some (.str displayName)) DISPLAY_NAME_MAX_LENGTH = true :=
      decide_eq_true (displayName_of_fits named (meets.account displayName rfl))
    simp +decide only [ClientMessage.payload, isProfileUpdatePayload, record,
      property_objectOf_cons, property_objectOf_nil, ↓reduceIte, Option.or_none, Option.none_or,
      name, token, Bool.and_self]
  | videoShare memberToken video playback =>
    obtain ⟨member, read, plays⟩ := holds
    have token := valid.memberTokens _ member
    obtain ⟨source, mem, vouches⟩ := valid.vouched video read
    have named := meets.shared video rfl source mem vouches.given
    have shared := isSharedVideo_toDoc (vouches.sound named)
    have played : ((playback.map PlaybackState.toDoc).isNone ||
        isPlaybackState (playback.map PlaybackState.toDoc)) = true := by
      cases playback with
      | none => rfl
      | some playback => exact valid.plays (plays playback rfl) (meets.played playback rfl)
    simp +decide only [ClientMessage.payload, isShareVideoPayload, record, property_objectOf_cons,
      property_objectOf_nil, ↓reduceIte, Option.or_none, Option.none_or, shared, token, played,
      Bool.and_self]
  | playbackUpdate memberToken playback =>
    obtain ⟨member, plays⟩ := holds
    have token := valid.memberTokens _ member
    have played := valid.plays plays (meets.played playback rfl)
    simp +decide only [ClientMessage.payload, isPlaybackUpdatePayload, record,
      property_objectOf_cons, property_objectOf_nil, ↓reduceIte, Option.or_none, Option.none_or,
      token, played, Bool.and_self]
  | syncRequest memberToken =>
    have token := valid.memberTokens _ holds
    simp +decide only [ClientMessage.payload, isSyncRequestPayload, record, property_objectOf_cons,
      property_objectOf_nil, ↓reduceIte, Option.none_or, token, Bool.and_self]
  | syncPing clientSendTime => rfl

/-! ### Events -/

theorem Valid.hear {message : Doc JsString}
    (accepted : isServerMessage P.URL (some message) = true) : Valid P (s.hear message) := by
  simp only [isServerMessage, Bool.and_eq_true] at accepted
  obtain ⟨-, accepted⟩ := accepted
  unfold Extension.hear
  dsimp only
  split
  · next created =>
    simp only [created, ↓reduceIte, isRoomCreatedPayload, Bool.and_eq_true] at accepted
    obtain ⟨⟨⟨⟨⟨-, code⟩, member⟩, join⟩, token⟩, -⟩ := accepted
    exact { valid with
      roomCodes := List.forall_mem_append.mpr ⟨valid.roomCodes, field_holds code⟩
      joinTokens := List.forall_mem_append.mpr ⟨valid.joinTokens, field_holds join⟩
      memberTokens := List.forall_mem_append.mpr ⟨valid.memberTokens, field_holds token⟩
      memberIds := List.forall_mem_append.mpr ⟨valid.memberIds, field_holds member⟩ }
  · next notCreated =>
    rw [if_neg notCreated] at accepted
    split
    · next joined =>
      simp only [joined, ↓reduceIte, isRoomJoinedPayload, Bool.and_eq_true] at accepted
      obtain ⟨⟨⟨⟨-, code⟩, member⟩, token⟩, -⟩ := accepted
      exact { valid with
        roomCodes := List.forall_mem_append.mpr ⟨valid.roomCodes, field_holds code⟩
        memberTokens := List.forall_mem_append.mpr ⟨valid.memberTokens, field_holds token⟩
        memberIds := List.forall_mem_append.mpr ⟨valid.memberIds, field_holds member⟩ }
    · next notJoined =>
      rw [if_neg notJoined] at accepted
      split
      · next state =>
        simp only [state, ↓reduceIte, isRoomStatePayload, isRoomState, Bool.and_eq_true] at accepted
        obtain ⟨⟨-, ⟨⟨⟨-, code⟩, -⟩, -⟩, -⟩, -⟩ := accepted
        exact { valid with
          roomCodes := List.forall_mem_append.mpr ⟨valid.roomCodes, field_holds code⟩ }
      · exact valid

theorem Valid.paste (documented : P.Documented) (invite : JsString) :
    Valid P (s.paste P invite) := by
  unfold Extension.paste
  split
  · next roomCode joinToken parsed =>
    obtain ⟨code, token, plain⟩ := parseInviteValue_sound parsed
    rw [requestJoinRoom_sound documented code plain]
    exact { valid with
      roomCodes := forall_mem_concat valid.roomCodes code
      joinTokens := forall_mem_concat valid.joinTokens token }
  · exact valid

end

/-! ### Runs -/

theorem Valid.read (documented : P.Documented) {s : Extension} (valid : Valid P s) {read : Read}
    (allowed : Allowed P s (.read read)) : Valid P { s with reads := s.reads ++ [read] } := by
  have later {video : PageVideo.SharedVideo} (known : video ∈ s.videos P) :
      ∃ source ∈ s.reads ++ [read], Vouches P source video := by
    obtain ⟨source, mem, vouches⟩ := valid.vouched video known
    exact ⟨source, List.mem_append_left _ mem, vouches⟩
  have itself {video : PageVideo.SharedVideo} (vouches : Vouches P read video) :
      ∃ source ∈ s.reads ++ [read], Vouches P source video :=
    ⟨read, List.mem_append_right _ List.mem_cons_self, vouches⟩
  refine { valid with vouched := fun video mem => ?_ }
  obtain ⟨source, is_read, given⟩ := List.mem_filterMap.mp mem
  rcases List.mem_append.mp is_read with old | new
  · exact later (List.mem_filterMap.mpr ⟨source, old, given⟩)
  obtain rfl := List.mem_singleton.mp new
  cases source with
  | bridge pathname pageUrl detail =>
    exact itself {
      given
      sound := fun names => sound_readSnapshot documented allowed names given
      fits := fun fits => fits_readSnapshot fits given }
  | page source =>
    obtain ⟨onSite, page, festival⟩ := allowed
    cases handed : source.pageSnapshot with
    | some snapshot =>
      obtain rfl : snapshot = video := by
        simpa [Read.video?, resolvePageSharedVideo, handed] using given
      exact later (page snapshot handed)
    | none =>
      by_cases celebrated : startsWith source.pathname "/festival/" = true ∧
          source.festivalSnapshot.isSome = true
      · obtain ⟨onFestival, some_snapshot⟩ := celebrated
        obtain ⟨snapshot, kept⟩ := Option.isSome_iff_exists.mp some_snapshot
        obtain rfl : snapshot = video := by
          simpa [Read.video?, resolvePageSharedVideo, handed, onFestival, kept] using given
        exact later (festival snapshot kept)
      · have noFestival : startsWith source.pathname "/festival/" = true →
            source.festivalSnapshot = none := fun onFestival => by
          simpa [onFestival] using celebrated
        exact itself {
          given
          sound := fun names => sound_resolvePageSharedVideo documented onSite handed noFestival
            names given
          fits := fun fits => fits_resolvePageSharedVideo onSite fits handed noFestival given }

theorem step_valid (documented : P.Documented) {s t : Extension} (step : StepMeeting P s t)
    (valid : Valid P s) : Valid P t := by
  obtain ⟨event, allowed, meets, rfl⟩ := step
  cases event with
  | hear message => exact valid.hear allowed
  | paste invite => exact valid.paste documented invite
  | reportUser uname mid =>
    change Valid P (s.reportUser uname mid)
    unfold Extension.reportUser
    split
    · exact valid
    · exact { valid with }
  | read read => exact valid.read documented allowed
  | send message =>
    exact { valid with
      sent := forall_mem_concat valid.sent (valid.accepted allowed (meets message rfl)) }

theorem run_valid (documented : P.Documented) {s : Extension} (run : RunMeeting P {} s) :
    Valid P s := by
  induction run with
  | refl => exact valid_start
  | tail _ step ih => exact step_valid documented step ih

/-- Where all that is sent of pages and accounts keeps to the condition, the server takes all the
extension sends, once written as JSON and read back. -/
theorem every_frame_is_accepted (documented : P.Documented) {s : Extension}
    (run : RunMeeting P {} s) :
    ∀ sent ∈ s.sent, isClientMessage P.URL (some (parse (stringify sent))) = true := by
  intro sent mem
  rw [parse_stringify]
  exact (run_valid documented run).sent sent mem

/-! ## A platform -/

def upper (u : CodeUnit) : CodeUnit := if within 'a' 'z' u then u - 32 else u

def readAddress (url : JsString) : Option Url :=
  (site.isPrefixOf? url).map fun rest =>
    { origin := site
      hostname := js "www.bilibili.com"
      pathname := rest.takeWhile (· ≠ char '?')
      searchParams := [] }

/-- A platform that reads the addresses of the site and leaves their queries out. -/
def sitePlatform : Platform where
  URL := readAddress
  withVideoParams pageUrl bvid cid :=
    pageUrl.takeWhile (· ≠ char '?') ++ (js "?bvid=" ++ bvid ++ js "&cid=" ++ cid)
  toUpperCase s := s.map upper

theorem readAddress_site (rest : JsString) : readAddress (site ++ rest) =
    some {
      origin := site
      hostname := js "www.bilibili.com"
      pathname := rest.takeWhile (· ≠ char '?')
      searchParams := [] } := by
  rw [readAddress, isPrefixOf?_eq_some_iff.mpr rfl]
  rfl

theorem sitePlatform_documented : sitePlatform.Documented where
  empty := rfl
  reads path query start plain asked := by
    have apart : ∀ u ∈ path, decide (u ≠ char '?') = true := by
      intro u mem
      apply decide_eq_true
      rintro rfl
      exact absurd (plain _ mem) (by decide)
    have stop : query.takeWhile (· ≠ char '?') = [] := by
      cases query with
      | nil => rfl
      | cons u rest =>
        rcases asked with blank | first
        · cases blank
        · obtain rfl : u = char '?' := Option.some.inj first
          simp
    refine ⟨_, by rw [List.append_assoc]; exact readAddress_site (path ++ query), rfl, ?_⟩
    rw [List.takeWhile_append_of_pos apart, stop, List.append_nil]
  keepsRoute pageUrl bvid cid parsed read := by
    obtain ⟨rest, spelt, rfl⟩ := Option.map_eq_some_iff.mp read
    obtain rfl := isPrefixOf?_eq_some_iff.mp spelt
    have apart : ∀ u ∈ site, decide (u ≠ char '?') = true :=
      List.all_eq_true.mp (by decide)
    have again : sitePlatform.withVideoParams (site ++ rest) bvid cid =
        site ++ (rest.takeWhile (· ≠ char '?') ++ (js "?bvid=" ++ bvid ++ js "&cid=" ++ cid)) := by
      change (site ++ rest).takeWhile (· ≠ char '?') ++ _ = _
      rw [List.takeWhile_append_of_pos apart]
      simp only [List.append_assoc]
    have kept : ∀ u ∈ rest.takeWhile (· ≠ char '?'), decide (u ≠ char '?') = true := by
      intro u mem
      have held := List.mem_takeWhile_imp mem
      exact held
    have stop : (js "?bvid=" ++ bvid ++ js "&cid=" ++ cid).takeWhile (· ≠ char '?') = [] := rfl
    rw [again]
    refine ⟨_, readAddress_site _, rfl, ?_⟩
    rw [List.takeWhile_append_of_pos kept, stop, List.append_nil]
  upper s letters := by
    have same : ∀ u ∈ s, upper u = u := by
      intro u mem
      have letter := letters u mem
      have small : within 'a' 'z' u = false := by
        have high : ¬ char 'a' ≤ u := by
          intro far
          have near := UInt16.le_trans far (le_of_code letter)
          exact absurd near (by decide)
        rw [within, decide_eq_false high, Bool.false_and]
      rw [upper, small]
      rfl
    change s.map upper = s
    rw [List.map_congr_left same, List.map_id']

/-! ## What goes wrong -/

def videoPage (documentTitle : JsString) : PageVideoSource where
  pageUrl := js "https://www.bilibili.com/video/BV1"
  pathname := js "/video/BV1"
  documentTitle := documentTitle

def memberToken : JsString := js "AAAAAAAAAAAAAAAA"

/-- The answer to a room that was made. -/
def roomCreatedMessage : Doc JsString :=
  message "room:created" <| .obj <| object [
    ("roomCode", .str (js "ABC234")),
    ("memberId", .str (js "m1")),
    ("joinToken", .str memberToken),
    ("memberToken", .str memberToken)]

def sharedFromPage (documentTitle : JsString) : ClientMessage :=
  .videoShare memberToken
    { videoId := js "BV1", url := js "https://www.bilibili.com/video/BV1", title := documentTitle }
    none

theorem onSite_videoPage (documentTitle : JsString) :
    OnSite sitePlatform (videoPage documentTitle).pageUrl (videoPage documentTitle).pathname := by
  have address : js "https://www.bilibili.com/video/BV1" = site ++ js "/video/BV1" := by
    decide
  have path : (js "/video/BV1").takeWhile (· ≠ char '?') = js "/video/BV1" := by decide
  have read := readAddress_site (js "/video/BV1")
  rw [path, ← address] at read
  exact ⟨_, read, rfl, rfl, rfl⟩

theorem hear_roomCreated : Allowed sitePlatform {} (.hear roomCreatedMessage) := by
  change isServerMessage sitePlatform.URL (some roomCreatedMessage) = true
  decide

theorem read_videoPage (s : Extension) (documentTitle : JsString) :
    Allowed sitePlatform s (.read (.page (videoPage documentTitle))) :=
  ⟨onSite_videoPage documentTitle, (fun _ given => nomatch given), fun _ given => nomatch given⟩

def longTitle : JsString := List.replicate 129 (char 'x')

/-- A title of 129 code units: the share goes out, and the server refuses it. -/
theorem long_title_is_refused : ∃ s : Extension, Run sitePlatform {} s ∧
    ∃ sent ∈ s.sent, isClientMessage sitePlatform.URL (some (parse (stringify sent))) = false := by
  have heard : Run sitePlatform {} _ := .single ⟨.hear roomCreatedMessage, hear_roomCreated, rfl⟩
  have read := heard.tail ⟨_, read_videoPage _ longTitle, rfl⟩
  have holds : ((({} : Extension).hear roomCreatedMessage).exec sitePlatform
      (.read (.page (videoPage longTitle)))).Holds sitePlatform (sharedFromPage longTitle) :=
    ⟨by decide +kernel, by decide +kernel, fun _ h => by cases h⟩
  have sent := read.tail ⟨.send (sharedFromPage longTitle), holds, rfl⟩
  refine ⟨_, sent, (sharedFromPage longTitle).toDoc, List.mem_append_right _ List.mem_cons_self, ?_⟩
  rw [parse_stringify]
  decide +kernel

def shortTitle : JsString := js "A video"

theorem address_videoPage : sitePlatform.URL (js "https://www.bilibili.com/video/BV1") = some {
    origin := site, hostname := js "www.bilibili.com", pathname := js "/video/BV1"
    searchParams := [] } := by decide

theorem path_videoPage :
    parseSupportedBilibiliPath (js "/video/BV1") = some (.video, js "BV1") := by decide

theorem names_shortTitle : SourceNames sitePlatform (videoPage shortTitle) := by
  intro _ _ _ _
  constructor
  · intro parsed read
    cases Option.some.inj (address_videoPage.symm.trans read)
    rw [AddressNames, path_videoPage]
    exact ⟨by decide, by decide⟩
  · intro title first
    have said : (titlesOf (videoPage shortTitle)).find? (· ≠ []) = some shortTitle := by
      decide
    cases Option.some.inj (said.symm.trans first)
    decide

theorem fits_videoPage (documentTitle : JsString) :
    SourceFits sitePlatform (videoPage documentTitle) := by
  intro _ _ _ parsed read
  cases Option.some.inj (address_videoPage.symm.trans read)
  rw [AddressFits, path_videoPage]
  decide

def readFrom (documentTitle : JsString) : PageVideo.SharedVideo where
  videoId := js "BV1"
  url := js "https://www.bilibili.com/video/BV1"
  title := documentTitle

/-- The update of a member on a page. -/
def updateFrom (documentTitle : JsString) : ClientMessage :=
  .playbackUpdate memberToken <| stamped (some (js "m1")) <|
    createPlaybackBroadcastPayload (readFrom documentTitle) (js "local")
      { currentTime := 5, playState := .playing, playbackRate := 1, updatedAt := 7, seq := 1 }

/-- An extension in a room, with what it read and sent. -/
def inRoom (reads : List Read) (sent : List ClientMessage) : Extension where
  accounts := [(longTitle, [])]
  roomCodes := [js "ABC234"]
  joinTokens := [memberToken]
  memberTokens := [memberToken]
  memberIds := [js "m1"]
  reads
  sent := sent.map ClientMessage.toDoc

theorem video_videoPage :
    (Read.page (videoPage longTitle)).video? sitePlatform = some (readFrom longTitle) ∧
      (Read.page (videoPage shortTitle)).video? sitePlatform = some (readFrom shortTitle) := by
  decide +kernel

theorem plays_updateFrom {s : Extension} {documentTitle : JsString}
    (read : readFrom documentTitle ∈ s.videos sitePlatform) (member : memberToken ∈ s.memberTokens)
    (id : js "m1" ∈ s.memberIds) : s.Holds sitePlatform (updateFrom documentTitle) := by
  refine ⟨member, _, read, none, some (js "m1"), (fun _ absent => nomatch absent), ?_, _, .inl rfl⟩
  rintro _ ⟨⟩
  exact id

/-- The title of a page that is only followed may be long, and so may a name that is not sent. -/
theorem short_title_is_accepted : ∃ s : Extension, RunMeeting sitePlatform {} s ∧
    s.sent.length = 2 ∧
    ∀ sent ∈ s.sent, isClientMessage sitePlatform.URL (some (parse (stringify sent))) = true := by
  let long := Read.page (videoPage longTitle)
  let short := Read.page (videoPage shortTitle)
  have reported : RunMeeting sitePlatform {} (inRoom [] []) := by
    have heard : RunMeeting sitePlatform {} (({} : Extension).hear roomCreatedMessage) :=
      .single ⟨.hear roomCreatedMessage, hear_roomCreated, (fun _ same => by cases same), rfl⟩
    exact heard.tail ⟨.reportUser longTitle [], trivial, (fun _ same => by cases same),
      by decide +kernel⟩
  have followed : RunMeeting sitePlatform {} (inRoom [long] []) :=
    reported.tail ⟨.read long, read_videoPage _ longTitle, (fun _ same => by cases same), rfl⟩
  have updated : RunMeeting sitePlatform {} (inRoom [long] [updateFrom longTitle]) := by
    refine followed.tail ⟨.send (updateFrom longTitle), plays_updateFrom ?_ ?_ ?_, ?_, rfl⟩
    · exact List.mem_filterMap.mpr ⟨long, List.mem_cons_self, video_videoPage.1⟩
    · exact List.mem_cons_self
    · exact List.mem_cons_self
    · rintro _ ⟨⟩
      refine ⟨(fun _ absent => nomatch absent), (fun _ absent => nomatch absent), ?_⟩
      intro _ _ read mem _ _ _
      cases List.mem_singleton.mp mem
      exact fits_videoPage longTitle
  have again : RunMeeting sitePlatform {} (inRoom [long, short] [updateFrom longTitle]) :=
    updated.tail ⟨.read short, read_videoPage _ shortTitle, (fun _ same => by cases same), rfl⟩
  have shared : RunMeeting sitePlatform {}
      (inRoom [long, short] [updateFrom longTitle, sharedFromPage shortTitle]) := by
    refine again.tail ⟨.send (sharedFromPage shortTitle), ⟨?_, ?_, ?_⟩, ?_, rfl⟩
    · exact List.mem_cons_self
    · exact List.mem_filterMap.mpr
        ⟨short, List.mem_cons_of_mem _ List.mem_cons_self, video_videoPage.2⟩
    · exact fun _ absent => nomatch absent
    · rintro _ ⟨⟩
      refine ⟨(fun _ absent => nomatch absent), ?_, fun _ absent => nomatch absent⟩
      rintro _ ⟨⟩ read mem given
      rcases List.mem_cons.mp mem with rfl | mem
      · have same := congrArg PageVideo.SharedVideo.title
          (Option.some.inj (video_videoPage.1.symm.trans given))
        exact absurd (congrArg List.length same) (by decide +kernel)
      · cases List.mem_singleton.mp mem
        exact names_shortTitle
  exact ⟨_, shared, rfl, every_frame_is_accepted sitePlatform_documented shared⟩

end BiliSyncPlay.Outgoing
