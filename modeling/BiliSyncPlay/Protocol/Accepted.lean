import BiliSyncPlay.Protocol.Bounds

/-!
# Whatever the server sends, its clients accept

Every record the server keeps stays within what the receiving guard allows, and each message is
built of those.
-/

namespace BiliSyncPlay.Protocol

open Json RedisRoomStore

@[simp] theorem holds_str (test : JsString → Bool) (s : JsString) :
    holds test (some (.str s)) = test s := rfl

@[simp] theorem isActorId_str (s : JsString) : isActorId (some (.str s)) = isActorName s := rfl

/-! ## Rooms -/

variable {URL : JsString → Option Url}

structure ValidRoom (URL : JsString → Option Url) (room : RedisRoomStore.PersistedRoom) : Prop where
  code : isRoomCode (some (.str room.code.units)) = true
  token : IsToken room.joinToken
  video : ∀ video, room.sharedVideo = some video → isSharedVideo URL (some video.1) = true
  playback : ∀ playback, room.playback = some playback → isPlaybackState (some playback.1) = true

/-- A video keeps its checks under another sharer. -/
theorem isSharedVideo_shared {d : Doc JsString} {sharer name : Unknown}
    (accepted : isSharedVideo URL (some d) = true)
    (actor : sharer.isNone = true ∨ isActorId sharer = true)
    (short : name.isNone = true ∨ isBoundedString name DISPLAY_NAME_MAX_LENGTH = true) :
    isSharedVideo URL (some (withField "sharedByDisplayName" name
      (withField "sharedByMemberId" sharer d))) = true := by
  have text : isOptionalString sharer = true := by
    rcases actor with absent | actor
    · simp [isOptionalString, absent]
    · simp [isOptionalString, isString_of_holds actor]
  have sharerOk : (sharer.isNone || isActorId sharer) = true := by simpa using actor
  have nameOk : (name.isNone || isBoundedString name DISPLAY_NAME_MAX_LENGTH) = true := by
    simpa using short
  simp only [isSharedVideo, Bool.and_eq_true] at accepted
  obtain ⟨⟨⟨⟨⟨⟨⟨⟨-, idBound⟩, id⟩, urlBound⟩, url⟩, title⟩, -⟩, -⟩, -⟩ := accepted
  have record (field : String) (value : Unknown) (e : Doc JsString) :
      isRecord (some (withField field value e)) = true := isTable_withField field value e
  simp only [isSharedVideo, property_withField, Bool.and_eq_true, record]
  simp +decide only [↓reduceIte, idBound, id, urlBound, url, title, text, sharerOk, nameOk,
    and_self]

variable {room : RedisRoomStore.PersistedRoom} {roomCode : JsString} {sent : Doc JsString}
  {session : Session}

theorem isPlaybackState_stamped (actor : isActorName session.actorId = true) (currentTime : Rat)
    {d : Doc JsString} (accepted : isPlaybackState (some d) = true) :
    isPlaybackState (some (stampedPlayback session currentTime d)) = true := by
  simp only [isPlaybackState, Bool.and_eq_true] at accepted
  obtain ⟨⟨⟨⟨⟨⟨⟨⟨⟨⟨⟨-, url⟩, current⟩, state⟩, intent⟩, user⟩, natural⟩, rate⟩, updated⟩, -⟩, -⟩,
    seq⟩ := accepted
  have record (field : String) (value : Unknown) (e : Doc JsString) :
      isRecord (some (withField field value e)) = true := isTable_withField field value e
  simp only [isPlaybackState, stampedPlayback, property_withField, Bool.and_eq_true, record]
  simp +decide only [↓reduceIte, url, current, state, intent, user, natural, rate, updated, seq,
    isActorId_str, actor, isFiniteNumber_num, and_self]

theorem isPlaybackState_sharePlayback (actor : isActorName session.actorId = true)
    (video : AcceptedVideo URL) (playback : Option AcceptedPlayback) (currentTime : Rat) :
    isPlaybackState (some (sharePlayback session video.1 playback currentTime)) = true := by
  have bound : isBoundedString (property (some video.1) "url") URL_MAX_LENGTH = true := by
    have accepted := video.2
    simp only [Client.isSharedVideo, Bool.and_eq_true] at accepted
    exact accepted.1.1.1.1.1.2
  cases playback with
  | none =>
    obtain ⟨text, named⟩ := isString_iff.mp (isString_of_holds bound)
    rw [named] at bound
    rw [sharePlayback, named]
    change (true && isBoundedString (some (.str text)) URL_MAX_LENGTH && true && true && true &&
      true && true && true && true && true && isActorName session.actorId && true) = true
    simp [bound, actor]
  | some played =>
    have accepted := played.2
    simp only [isPlaybackState, Bool.and_eq_true] at accepted
    obtain ⟨⟨⟨⟨⟨⟨⟨⟨⟨⟨⟨-, -⟩, current⟩, state⟩, -⟩, user⟩, natural⟩, rate⟩, updated⟩, server⟩,
      author⟩, seq⟩ := accepted
    have record (field : String) (value : Unknown) (e : Doc JsString) :
        isRecord (some (withField field value e)) = true := isTable_withField field value e
    apply isPlaybackState_stamped actor
    simp only [isPlaybackState, property_withField, Bool.and_eq_true, record]
    simp +decide only [↓reduceIte, bound, current, state, user, natural, rate, updated, server,
      author, seq, Option.isNone_none, Bool.true_or, and_self]

theorem ValidRoom.patched (valid : ValidRoom URL room) {patch : RedisRoomStore.PersistedRoomPatch}
    (video : ∀ video, patch.sharedVideo = some (some video) →
      isSharedVideo URL (some video.1) = true)
    (playback : ∀ playback, patch.playback = some (some playback) →
      isPlaybackState (some playback.1) = true) : ValidRoom URL (room.patched patch) where
  code := valid.code
  token := valid.token
  video shown h := by
    change patch.sharedVideo.getD room.sharedVideo = some shown at h
    cases patched : patch.sharedVideo with
    | none =>
      rw [patched] at h
      exact valid.video shown h
    | some value =>
      rw [patched] at h
      exact video shown (patched.trans (congrArg some h))
  playback shown h := by
    change patch.playback.getD room.playback = some shown at h
    cases patched : patch.playback with
    | none =>
      rw [patched] at h
      exact valid.playback shown h
    | some value =>
      rw [patched] at h
      exact playback shown (patched.trans (congrArg some h))

theorem ValidRoom.shared (valid : ValidRoom URL room) (shown : Shown session)
    (video : AcceptedVideo URL) (playback : Option AcceptedPlayback) (currentTime : Rat) :
    ValidRoom URL (room.patched (sharePatch session video playback currentTime)) := by
  apply valid.patched
  · intro made h
    cases Option.some.inj (Option.some.inj h)
    apply isSharedVideo_shared (isSharedVideo_of_client video.2)
    · exact .inr shown.actorId
    · exact .inr (decide_eq_true shown.short)
  · intro made h
    cases Option.some.inj (Option.some.inj h)
    exact isPlaybackState_sharePlayback shown.actorId video playback currentTime

theorem ValidRoom.played (valid : ValidRoom URL room) (shown : Shown session)
    (playback : AcceptedPlayback) (currentTime : Rat) :
    ValidRoom URL (room.patched (playbackPatch session playback currentTime)) := by
  apply valid.patched
  · intro made h
    cases h
  · intro made h
    cases Option.some.inj (Option.some.inj h)
    exact isPlaybackState_stamped shown.actorId currentTime playback.2

/-! ## Room states -/

theorem longestTenured_mem {members : List SharedVideoOwnerCandidate}
    {best : SharedVideoOwnerCandidate} (found : longestTenured members = some best) :
    best ∈ members := by
  have kept : (none : Option SharedVideoOwnerCandidate) = some best ∨ best ∈ members := by
    unfold longestTenured at found
    generalize (none : Option SharedVideoOwnerCandidate) = start at found ⊢
    induction members generalizing start with
    | nil => exact .inl found
    | cons member rest ih =>
      rw [List.foldl_cons] at found
      rcases ih _ found with taken | later
      · cases start with
        | none =>
          cases Option.some.inj taken
          exact .inr List.mem_cons_self
        | some known =>
          dsimp only at taken
          split at taken
          · cases Option.some.inj taken
            exact .inr List.mem_cons_self
          · exact .inl taken
      · exact .inr (List.mem_cons_of_mem _ later)
  rcases kept with none | mem
  · cases none
  · exact mem

/-- An owner that is not the stored sharer is one of the members. -/
theorem resolve_mem {stored : Option JsString} {candidates : List SharedVideoOwnerCandidate}
    {owner : JsString} (resolved : resolveSharedVideoOwnerId stored candidates = some owner)
    (moved : some owner ≠ stored) : ∃ candidate ∈ candidates, candidate.id = owner := by
  unfold resolveSharedVideoOwnerId at resolved
  split at resolved
  · cases resolved
  · cases resolved
  · split at resolved
    · exact absurd resolved.symm moved
    · cases successor : longestTenured candidates with
      | none =>
        rw [successor] at resolved
        exact absurd resolved.symm moved
      | some best =>
        rw [successor] at resolved
        exact ⟨best, longestTenured_mem successor, Option.some.inj resolved⟩

theorem shown_seated (room : RedisRoomStore.PersistedRoom) {sessions : List Session}
    (shown : ∀ session ∈ sessions, Shown session) :
    ∀ session ∈ seated room sessions, Shown session :=
  fun session mem => shown session (List.mem_of_mem_filter mem)

theorem memberNames_valid {sessions : List Session} (shown : ∀ session ∈ sessions, Shown session)
    {memberId name : JsString} (found : (memberNames sessions).get? memberId = some name) :
    isActorName memberId = true ∧ name.length ≤ DISPLAY_NAME_MAX_LENGTH := by
  have kept (rest : List Session) (start : JsMap JsString JsString)
      (valid : ∀ memberId name, start.get? memberId = some name →
        isActorName memberId = true ∧ name.length ≤ DISPLAY_NAME_MAX_LENGTH)
      (shown : ∀ session ∈ rest, Shown session) :
      ∀ memberId name, (rest.foldl (fun members session =>
        members.set session.actorId session.displayName) start).get? memberId = some name →
        isActorName memberId = true ∧ name.length ≤ DISPLAY_NAME_MAX_LENGTH := by
    induction rest generalizing start with
    | nil => exact valid
    | cons session rest ih =>
      rw [List.foldl_cons]
      apply ih
      · intro memberId name h
        rw [JsMap.get?_set] at h
        split at h
        · next same =>
          have here := shown session List.mem_cons_self
          cases Option.some.inj h
          subst same
          exact ⟨here.actorId, here.short⟩
        · exact valid memberId name h
      · exact fun other mem => shown other (List.mem_cons_of_mem _ mem)
  apply kept sessions .empty ?_ shown memberId name found
  intro memberId name h
  cases h

structure ValidState (URL : JsString → Option Url) (state : RoomState) : Prop where
  code : isRoomCode (some (.str state.roomCode)) = true
  video : ∀ video, state.sharedVideo = some video → isSharedVideo URL (some video) = true
  playback : ∀ playback, state.playback = some playback → isPlaybackState (some playback) = true
  members : ∀ member ∈ state.members,
    isActorName member.id = true ∧ member.name.length ≤ DISPLAY_NAME_MAX_LENGTH

theorem valid_roomStateFromSessions (valid : ValidRoom URL room) {sessions : List Session}
    (shown : ∀ session ∈ sessions, Shown session) :
    ValidState URL (roomStateFromSessions room sessions) where
  code := valid.code
  video video h := by
    have here := shown_seated room shown
    obtain ⟨stored, held, rfl⟩ := Option.map_eq_some_iff.mp h
    obtain ⟨original, kept, rfl⟩ := Option.map_eq_some_iff.mp held
    have accepted := valid.video original kept
    dsimp only
    split
    · exact accepted
    · next moved =>
      apply isSharedVideo_shared accepted
      · cases resolved : resolveSharedVideoOwnerId _ _ with
        | none => exact .inl rfl
        | some owner =>
          rw [resolved] at moved
          obtain ⟨candidate, mem, rfl⟩ := resolve_mem resolved moved
          obtain ⟨session, seat, rfl⟩ := List.mem_map.mp mem
          exact .inr (here session seat).actorId
      · cases named : (resolveSharedVideoOwnerId _ _).bind _ with
        | none =>
          simp only [isSharedVideo, Bool.and_eq_true, Bool.or_eq_true] at accepted
          exact accepted.2
        | some name =>
          obtain ⟨owner, -, found⟩ := Option.bind_eq_some_iff.mp named
          exact .inr (decide_eq_true (memberNames_valid here found).2)
  playback playback h := by
    obtain ⟨original, kept, rfl⟩ := Option.map_eq_some_iff.mp h
    exact valid.playback original kept
  members member mem := by
    obtain ⟨⟨memberId, name⟩, entry, rfl⟩ := List.mem_map.mp mem
    exact memberNames_valid (shown_seated room shown) (JsMap.mem_entries_iff.mp entry)

/-! ## Messages -/

/-- A message is accepted as its payload is. -/
theorem isServerMessage_message (type : String) (payload : Doc JsString) :
    isServerMessage URL (some (message type payload)) =
      if js type = js "room:created" then isRoomCreatedPayload (some payload)
      else if js type = js "room:joined" then isRoomJoinedPayload (some payload)
      else if js type = js "room:state" then isRoomStatePayload URL (some payload)
      else if js type = js "room:member-joined" then isRoomMemberPayload (some payload)
      else if js type = js "room:member-left" then isRoomMemberPayload (some payload)
      else if js type = js "error" then isErrorPayload (some payload)
      else if js type = js "sync:pong" then isSyncPongPayload (some payload)
      else if js type = js "server:announcement" then isServerAnnouncementPayload (some payload)
      else false := by
  have typed : property (some (message type payload)) "type" = some (.str (js type)) := rfl
  have carried : property (some (message type payload)) "payload" = some payload := rfl
  have record : isRecord (some (message type payload)) = true := rfl
  have equal (name : String) :
      equals (some (.str (js type))) name = decide (js type = js name) := by
    apply Bool.eq_iff_iff.mpr
    simp [equals]
  simp only [isServerMessage, typed, carried, record, isString_str, equal, Bool.true_and,
    decide_eq_true_eq]

abbrev Accepted (URL : JsString → Option Url) (sent : Doc JsString) : Prop :=
  isServerMessage URL (some sent) = true

theorem accepted_roomCreated (actor : isActorName session.actorId = true)
    {joinToken memberToken : JsString} (code : isRoomCode (some (.str roomCode)) = true)
    (join : IsToken joinToken) (member : IsToken memberToken) :
    Accepted URL (roomCreated session roomCode joinToken memberToken) := by
  rw [Accepted, roomCreated, isServerMessage_message, if_pos rfl]
  change (true && isRoomCode (some (.str roomCode)) && isActorName session.actorId &&
    isToken (some (.str joinToken)) && isToken (some (.str memberToken)) && true) = true
  simp [code, actor, join, member]

theorem accepted_roomJoined (actor : isActorName session.actorId = true) {memberToken : JsString}
    (code : isRoomCode (some (.str roomCode)) = true) (member : IsToken memberToken) :
    Accepted URL (roomJoined session roomCode memberToken) := by
  rw [Accepted, roomJoined, isServerMessage_message, if_neg (by decide), if_pos rfl]
  change (true && isRoomCode (some (.str roomCode)) && isActorName session.actorId &&
    isToken (some (.str memberToken)) && true) = true
  simp [code, actor, member]

theorem isRoomMember_toDoc {member : RoomMember} (actor : isActorName member.id = true)
    (short : member.name.length ≤ DISPLAY_NAME_MAX_LENGTH) :
    isRoomMember (some member.toDoc) = true := by
  change (true && isActorName member.id &&
    decide (member.name.length ≤ DISPLAY_NAME_MAX_LENGTH)) = true
  simp [actor, short]

theorem every_items {test : Unknown → Bool} {docs : List (Doc JsString)}
    (each : ∀ d ∈ docs, test (some d) = true) : every test (items docs) = true := by
  induction docs with
  | nil => rfl
  | cons d rest ih =>
    have here := each d List.mem_cons_self
    have after := ih fun e mem => each e (List.mem_cons_of_mem _ mem)
    simp [items, every, here, after]

theorem isRoomState_toDoc {state : RoomState} (valid : ValidState URL state) :
    isRoomState URL (some state.toDoc) = true := by
  have members : isArrayOf isRoomMember (property (some state.toDoc) "members") = true := by
    apply every_items
    intro d mem
    obtain ⟨member, listed, rfl⟩ := List.mem_map.mp mem
    obtain ⟨actor, short⟩ := valid.members member listed
    exact isRoomMember_toDoc actor short
  have code : isRoomCode (property (some state.toDoc) "roomCode") = true := valid.code
  have video : property (some state.toDoc) "sharedVideo" =
      some (nullable id state.sharedVideo) := rfl
  have playback : property (some state.toDoc) "playback" = some (nullable id state.playback) := rfl
  have videoOk : (isNull (some (nullable id state.sharedVideo)) ||
      isSharedVideo URL (some (nullable id state.sharedVideo))) = true := by
    cases held : state.sharedVideo with
    | none => rfl
    | some d => simp [nullable, valid.video d held]
  have playbackOk : (isNull (some (nullable id state.playback)) ||
      isPlaybackState (some (nullable id state.playback))) = true := by
    cases held : state.playback with
    | none => rfl
    | some d => simp [nullable, valid.playback d held]
  have record : isRecord (some state.toDoc) = true := rfl
  simp only [isRoomState, record, code, video, videoOk, playback, playbackOk, members,
    Bool.and_self]

/-- The guard reads no age. -/
theorem isRoomState_withField (age : Unknown) (d : Doc JsString) (accepted :
    isRoomState URL (some d) = true) :
    isRoomState URL (some (withField "playbackAgeMs" age d)) = true := by
  simp only [isRoomState, Bool.and_eq_true] at accepted
  obtain ⟨⟨⟨⟨-, code⟩, video⟩, playback⟩, members⟩ := accepted
  have record : isRecord (some (withField "playbackAgeMs" age d)) = true := isTable_withField ..
  simp only [isRoomState, property_withField, record, Bool.and_eq_true]
  simp +decide only [↓reduceIte, code, video, playback, members, and_self]

theorem accepted_roomState {state : RoomState} (valid : ValidState URL state) (sentAtMs : Rat) :
    Accepted URL (roomState state sentAtMs) := by
  rw [Accepted, roomState, isServerMessage_message, if_neg (by decide), if_neg (by decide),
    if_pos rfl]
  have accepted := isRoomState_toDoc valid
  unfold withPlaybackAge
  split
  · have young : property (some state.toDoc) "playbackAgeMs" = none := rfl
    have record : isRecord (some state.toDoc) = true := rfl
    simp [isRoomStatePayload, accepted, young, record]
  · next playback held =>
    dsimp only
    have aged := isRoomState_withField (some (.num (max 0 (sentAtMs -
      (asNumber (property (some playback) "serverTime")).getD 0)))) state.toDoc accepted
    simp [isRoomStatePayload, aged, isRecord, isNonNegative]

theorem valid_deletedRoomState (code : isRoomCode (some (.str roomCode)) = true) :
    ValidState URL (deletedRoomState roomCode) where
  code := code
  video _ h := by cases h
  playback _ h := by cases h
  members _ h := by cases h

theorem accepted_syncPong (clientSendTime serverReceiveTime serverSendTime : Rat) :
    Accepted URL (syncPong clientSendTime serverReceiveTime serverSendTime) := rfl

theorem length_js_le (s : String) : (js s).length ≤ s.length := by
  have bound : ∀ chars : List Char, (Text.units (chars.filterMap fun c =>
      if plain : ¬ CodeUnit.IsSurrogate c.val.toUInt16 then some (.unit _ plain)
      else none)).length ≤ chars.length := by
    intro chars
    induction chars with
    | nil => exact Nat.zero_le _
    | cons c rest ih =>
      rw [List.filterMap_cons]
      split
      · exact Nat.le_succ_of_le ih
      · next scalar spelt =>
        split at spelt
        · cases Option.some.inj spelt
          simp only [Text.units_cons, Scalar.units, List.length_append, List.length_cons,
            List.length_nil]
          omega
        · cases spelt
  have whole := bound s.toList
  rwa [String.length_toList] at whole

theorem length_le_of_spelt {s : String} {chars : List Char} {n : Nat}
    (spelt : s = String.ofList chars) (short : chars.length ≤ n) : s.length ≤ n := by
  rw [spelt, String.length_ofList]
  exact short

theorem accepted_sendError {code text : String} (known : code ∈ errorCodes)
    (said : text ∈ errorMessages) : Accepted URL (sendError code text) := by
  have codes : ∀ code ∈ errorCodes, code.length ≤ 32 := by
    simp only [errorCodes, List.forall_mem_cons]
    and_intros <;> first | exact List.forall_mem_nil _ | exact length_le_of_spelt rfl (by decide)
  have texts : ∀ text ∈ errorMessages, text.length ≤ TITLE_MAX_LENGTH := by
    simp only [errorMessages, List.forall_mem_cons]
    and_intros <;> first | exact List.forall_mem_nil _ | exact length_le_of_spelt rfl (by decide)
  have short := Nat.le_trans (length_js_le code) (codes code known)
  have brief := Nat.le_trans (length_js_le text) (texts text said)
  rw [Accepted, sendError, isServerMessage_message]
  simp +decide only [↓reduceIte]
  change (true && decide ((js code).length ≤ 32) &&
    decide ((js text).length ≤ TITLE_MAX_LENGTH)) = true
  simp only [short, brief, decide_true, Bool.and_self]

/-! ### Of the bus -/

/-- The bus hands on what was published. -/
theorem parseMessage_stringify (event : RoomEventBusMessage) :
    parseMessage (stringify event.toDoc) = some event := by
  unfold parseMessage
  rw [parse_stringify]
  cases event with
  | room type roomCode sourceInstanceId emittedAt => cases type <;> rfl
  | member type roomCode sourceInstanceId emittedAt memberId displayName => cases type <;> rfl

def ValidEvent : RoomEventBusMessage → Prop
  | .room _ roomCode _ _ => isRoomCode (some (.str roomCode)) = true
  | .member _ roomCode _ _ memberId displayName => isRoomCode (some (.str roomCode)) = true ∧
      isActorName memberId = true ∧ displayName.length ≤ DISPLAY_NAME_MAX_LENGTH

theorem accepted_createMemberMessage {event : RoomEventBusMessage} (valid : ValidEvent event)
    (made : createMemberMessage event = some sent) : Accepted URL sent := by
  cases event with
  | room => cases made
  | member type roomCode sourceInstanceId emittedAt memberId displayName =>
    obtain ⟨code, actor, short⟩ := valid
    have member := @isRoomMember_toDoc { id := memberId, name := displayName } actor short
    have payload : isRoomMemberPayload (some (.obj (object [("roomCode", .str roomCode),
        ("member", RoomMember.toDoc { id := memberId, name := displayName })]))) = true := by
      change (true && isRoomCode (some (.str roomCode)) &&
        isRoomMember (some (RoomMember.toDoc { id := memberId, name := displayName }))) = true
      simp [code, member]
    cases Option.some.inj made
    rw [Accepted, isServerMessage_message]
    cases type <;> simp +decide only [↓reduceIte, payload]

/-! ### Announcements -/

structure ValidAnnouncement (announcement : StoredAnnouncement) : Prop where
  id : isAnnouncementId (some (.str announcement.id)) = true
  message : isAnnouncementMessage (some (.str announcement.message)) = true
  scheduled : ∀ time, announcement.scheduledAt = some time → 0 ≤ time

theorem isAnnouncementId_randomUUID (digits : Fin 32 → Fin 16) :
    isAnnouncementId (some (.str (randomUUID digits))) = true := by
  obtain ⟨length, parts⟩ := randomUUID_parts digits
  have all : (randomUUID digits).all
      (fun u => isAlphanumeric u || u ∈ [char '_', char '-']) = true := by
    apply List.all_eq_true.mpr
    intro u mem
    rcases parts u mem with letter | rfl
    · simp [letter]
    · decide
  simp only [isAnnouncementId, holds_str, length, all]
  decide

theorem valid_publish {input : PublishAnnouncementInput} {publishedAt : Rat}
    {digits : Fin 32 → Fin 16} {announcement : StoredAnnouncement} {ttlMs : Rat}
    (accepted : publish input publishedAt (randomUUID digits) = .ok (announcement, ttlMs)) :
    ValidAnnouncement announcement := by
  unfold publish at accepted
  split at accepted
  · cases accepted
  · split at accepted
    · cases accepted
    · next level _ _ text _ =>
      dsimp only at accepted
      split at accepted
      · cases accepted
      · next filled =>
        split at accepted
        · cases accepted
        · next short =>
          split at accepted
          · cases accepted
          · split at accepted
            · cases accepted
            · split at accepted
              · cases accepted
              · split at accepted
                · cases accepted
                · cases accepted
                  refine {
                    id := isAnnouncementId_randomUUID digits
                    message := ?_
                    scheduled := ?_ }
                  · have spoken : 0 < (trim (trim text)).length := by
                      rw [trim_trim]
                      exact List.length_pos_iff.mpr filled
                    have bound : (trim text).length ≤ ANNOUNCEMENT_MESSAGE_MAX_LENGTH :=
                      Nat.le_of_not_gt short
                    simp [isAnnouncementMessage, spoken, bound]
                  · intro time scheduled
                    simpa using (Option.filter_eq_some_iff.mp scheduled).2

theorem isAnnouncement_wireForm (id level message : Doc JsString) (scheduledAt : Option Rat)
    (expiresInMs : Rat) :
    isAnnouncement (some (wireForm id level message scheduledAt expiresInMs)) =
      (isAnnouncementId (some id) && isAnnouncementLevel (some level) &&
        isAnnouncementMessage (some message) && scheduledAt.all (0 ≤ ·) &&
        decide (0 < expiresInMs)) := by
  have record : isRecord (some (wireForm id level message scheduledAt expiresInMs)) = true :=
    isTable_withField ..
  have idField : property (some (wireForm id level message scheduledAt expiresInMs)) "id" =
      some id := by
    rw [wireForm, property_withField, if_neg (by decide)]
    rfl
  have levelField : property (some (wireForm id level message scheduledAt expiresInMs)) "level" =
      some level := by
    rw [wireForm, property_withField, if_neg (by decide)]
    rfl
  have messageField : property (some (wireForm id level message scheduledAt expiresInMs))
      "message" = some message := by
    rw [wireForm, property_withField, if_neg (by decide)]
    rfl
  have expiryField : property (some (wireForm id level message scheduledAt expiresInMs))
      "expiresInMs" = some (.num expiresInMs) := by
    rw [wireForm, property_withField, if_neg (by decide)]
    rfl
  have scheduledField : property (some (wireForm id level message scheduledAt expiresInMs))
      "scheduledAt" = scheduledAt.map .num := by
    rw [wireForm, property_withField, if_pos rfl]
  rw [isAnnouncement, record, idField, levelField, messageField, expiryField, scheduledField]
  cases scheduledAt <;> simp [isNonNegative, isPositive]

theorem ValidAnnouncement.scheduledOk {announcement : StoredAnnouncement}
    (valid : ValidAnnouncement announcement) : announcement.scheduledAt.all (0 ≤ ·) = true := by
  cases time : announcement.scheduledAt with
  | none => rfl
  | some q => exact decide_eq_true (valid.scheduled q time)

theorem accepted_serverAnnouncement {announcement : StoredAnnouncement}
    (valid : ValidAnnouncement announcement) (remainingMs elapsedMs : Rat) :
    Accepted URL (serverAnnouncement (toWireAnnouncement announcement remainingMs elapsedMs)) := by
  have level : isAnnouncementLevel (some (.str (js announcement.level.text))) = true := by
    cases announcement.level <;> decide
  rw [Accepted, serverAnnouncement, isServerMessage_message]
  simp +decide only [↓reduceIte]
  unfold toWireAnnouncement
  dsimp only
  split
  · rfl
  · next left =>
    have accepted := isAnnouncement_wireForm (.str announcement.id)
      (.str (js announcement.level.text)) (.str announcement.message) announcement.scheduledAt
      (⌊remainingMs - max 0 elapsedMs⌋ : Rat)
    rw [valid.id, level, valid.message, valid.scheduledOk, decide_eq_true (lt_of_not_ge left)]
      at accepted
    change (true && (_ || isAnnouncement (some (wireForm ..)))) = true
    rw [accepted]
    rfl

theorem accepted_noAnnouncement : Accepted URL (serverAnnouncement none) := by
  rw [Accepted, serverAnnouncement, isServerMessage_message]
  rfl

/-- A stored body that is read at all is read as one every receiver accepts. -/
theorem valid_parseStoredAnnouncement {raw : Source} {read : StoredAnnouncement}
    (answered : parseStoredAnnouncement raw = some read) : ValidAnnouncement read := by
  simp only [parseStoredAnnouncement, Option.bind_eq_bind, Option.bind_eq_some_iff] at answered
  obtain ⟨scheduledAt, -, publishedAt, -, id, -, level, -, message, -, answered⟩ := answered
  split at answered
  · next accepted =>
    obtain ⟨known, -, made⟩ := Option.bind_eq_some_iff.mp answered
    cases Option.some.inj made
    rw [isAnnouncement_wireForm] at accepted
    simp only [Bool.and_eq_true] at accepted
    obtain ⟨⟨⟨⟨idOk, -⟩, messageOk⟩, scheduledOk⟩, -⟩ := accepted
    obtain ⟨idText, named⟩ := isString_iff.mp (isString_of_holds idOk)
    obtain ⟨messageText, spoken⟩ := isString_iff.mp (isString_of_holds messageOk)
    cases Option.some.inj named
    cases Option.some.inj spoken
    refine { id := idOk, message := messageOk, scheduled := ?_ }
    rintro time rfl
    exact of_decide_eq_true scheduledOk
  · cases answered

/-! ## Runs -/

structure Valid (URL : JsString → Option Url) (s : Server) : Prop where
  sessions : ∀ session ∈ s.sessions, ValidSession session
  records : ∀ session ∈ s.records, Shown session
  snapshots : ∀ snapshot ∈ s.snapshots, ValidSnapshot snapshot
  seats : ∀ seat ∈ s.seats, ValidIdentity seat
  rooms : ∀ room ∈ s.rooms, ValidRoom URL room
  events : ∀ event ∈ s.events, ValidEvent event
  announcements : ∀ announcement ∈ s.announcements, ValidAnnouncement announcement
  sent : ∀ sent ∈ s.sent, Accepted URL sent

theorem forall_mem_concat {α : Type} {p : α → Prop} {l : List α} {a : α} (old : ∀ x ∈ l, p x)
    (new : p a) : ∀ x ∈ l ++ [a], p x := by
  intro x mem
  rcases List.mem_append.mp mem with mem | mem
  · exact old x mem
  · obtain rfl := List.mem_singleton.mp mem
    exact new

variable {s t : Server}

theorem valid_start : Valid URL {} := by
  constructor <;> intro _ mem <;> cases mem

theorem Valid.put (valid : Valid URL s) (i : Nat) (new : ValidSession session) :
    Valid URL (s.put i session) :=
  { valid with
    sessions := fun other mem => by
      rcases List.mem_or_eq_of_mem_set mem with mem | rfl
      · exact valid.sessions other mem
      · exact new }

theorem Valid.send (valid : Valid URL s) (accepted : Accepted URL sent) :
    Valid URL (s.send sent) :=
  { valid with sent := forall_mem_concat valid.sent accepted }

theorem Valid.write (valid : Valid URL s) (new : ValidRoom URL room) : Valid URL (s.write room) :=
  { valid with rooms := forall_mem_concat valid.rooms new }

theorem Valid.emit (valid : Valid URL s) {event : RoomEventBusMessage} (new : ValidEvent event) :
    Valid URL (s.emit event) :=
  { valid with events := forall_mem_concat valid.events new }

theorem Valid.enter (valid : Valid URL s) (i : Nat) (held : ValidSession session)
    (code : isRoomCode (some (.str roomCode)) = true) (joinedAt : Rat) {joinIdentity : JoinIdentity}
    (identity : ValidIdentity joinIdentity) :
    Valid URL (s.enter i session roomCode joinedAt joinIdentity) :=
  { valid.put i (valid_applyJoinedSessionState held code joinedAt identity) with
    seats := forall_mem_concat valid.seats identity }

/-! ### What the client guard bounds -/

/-- A message of a type is checked as one of that type. -/
theorem isClientMessage_typed {type : String} (typed : equals (messageType sent) type = true) :
    isClientMessage URL (some sent) = (isRecord (some sent) &&
      let payload := property (some sent) "payload"
      if js type = js "room:create" then payload.isNone || isClientHelloPayload payload
      else if js type = js "room:join" then isJoinRoomPayload payload
      else if js type = js "profile:update" then isProfileUpdatePayload payload
      else if js type = js "room:leave" then payload.isNone || isLeaveRoomPayload payload
      else if js type = js "video:share" then isShareVideoPayload URL payload
      else if js type = js "playback:update" then isPlaybackUpdatePayload payload
      else if js type = js "sync:request" then isSyncRequestPayload payload
      else if js type = js "sync:ping" then isSyncPingPayload payload
      else false) := by
  have named : property (some sent) "type" = some (.str (js type)) := by
    simpa [equals, messageType] using typed
  have equal (name : String) :
      equals (some (.str (js type))) name = decide (js type = js name) := by
    apply Bool.eq_iff_iff.mpr
    simp [equals]
  simp only [isClientMessage, named, equal, isString_str, Bool.and_true, decide_eq_true_eq]

theorem short_of_bounded {field : Unknown}
    (bounded : isOptionalBoundedString field DISPLAY_NAME_MAX_LENGTH = true) {name : JsString}
    (given : asString field = some name) : name.length ≤ DISPLAY_NAME_MAX_LENGTH := by
  rcases field with _ | _ | _ | _ | text | _ | _ <;> cases given
  exact of_decide_eq_true bounded

theorem name_of_naming (accepted : isClientMessage URL (some sent) = true)
    (naming : isNaming sent = true) {name : JsString}
    (given : asString (payloadField sent "displayName") = some name) :
    name.length ≤ DISPLAY_NAME_MAX_LENGTH := by
  refine short_of_bounded ?_ given
  simp only [isNaming, Bool.or_eq_true] at naming
  rcases naming with (typed | typed) | typed
  · have payload := (isClientMessage_typed typed).symm.trans accepted
    simp only [↓reduceIte, Bool.or_eq_true, isClientHelloPayload, Bool.and_eq_true] at payload
    rcases payload.2 with absent | ⟨⟨-, bounded⟩, -⟩
    · rw [payloadField, Option.isNone_iff_eq_none.mp absent]
      rfl
    · exact bounded
  · have payload := (isClientMessage_typed typed).symm.trans accepted
    simp +decide only [↓reduceIte, isJoinRoomPayload, Bool.and_eq_true] at payload
    exact payload.2.1.2
  · have payload := (isClientMessage_typed typed).symm.trans accepted
    simp +decide only [↓reduceIte, isProfileUpdatePayload, Bool.and_eq_true] at payload
    simp [isOptionalBoundedString, payloadField, payload.2.2]

theorem token_of_join (accepted : isClientMessage URL (some sent) = true)
    (joining : equals (messageType sent) "room:join" = true) {token : JsString}
    (given : asString (payloadField sent "memberToken") = some token) : IsToken token := by
  have payload := (isClientMessage_typed joining).symm.trans accepted
  simp +decide only [↓reduceIte, isJoinRoomPayload, Bool.and_eq_true] at payload
  have member := payload.2.1.1.2
  change ((payloadField sent "memberToken").isNone ||
    isToken (payloadField sent "memberToken")) = true at member
  rcases field : payloadField sent "memberToken" with _ | _ | _ | _ | text | _ | _ <;>
    rw [field] at given member <;> cases given
  exact member

/-! ### Steps -/

theorem step_valid (step : Step URL s t) (valid : Valid URL s) : Valid URL t := by
  have at_ {i : Nat} {session : Session} (held : s.sessions[i]? = some session) :=
    valid.sessions session (List.mem_of_getElem? held)
  cases step with
  | connect digits guest =>
    exact { valid with
      sessions := forall_mem_concat valid.sessions (valid_acceptConnection digits guest) }
  | rename held sent accepted naming =>
    apply valid.put
    apply valid_setSessionDisplayName (at_ held)
    intro name given
    exact name_of_naming accepted naming given
  | observe held =>
    exact { valid with
      records := forall_mem_concat valid.records (valid.sessions _ held).toShown }
  | record held _ answered =>
    exact { valid with
      records := forall_mem_concat valid.records
        (shown_deserializeSession (valid.sessions _ held) answered) }
  | snapshot held taken =>
    exact { valid with
      snapshots := forall_mem_concat valid.snapshots
        (valid_snapshotJoinedSession (valid.sessions _ held) taken) }
  | leave held => exact valid.put _ (valid_clearSessionRoom (at_ held))
  | restore held taken =>
    exact valid.put _ (valid_restoreJoinedSession (at_ held) (valid.snapshots _ taken))
  | createRoom held draws sextets createdAt =>
    apply valid.write
    exact {
      code := isRoomCode_createRoomCode draws
      token := isToken_generateToken sextets
      video := fun _ h => by cases h
      playback := fun _ h => by cases h }
  | enterCreated held written sextets createdAt =>
    have session := at_ held
    exact valid.enter _ session (valid.rooms _ written).code createdAt
      { member := session.id, token := isToken_generateToken sextets }
  | enterJoined held written sent accepted joining _ reclaimed sextets joinedAt =>
    have session := at_ held
    apply valid.enter _ session (valid.rooms _ written).code joinedAt
    apply valid_buildJoinIdentity session
    · intro memberId named
      obtain ⟨seat, mem, rfl⟩ := reclaimed memberId named
      exact (valid.seats seat mem).member
    · intro token given
      exact token_of_join accepted joining given
    · exact isToken_generateToken sextets
  | update written patch neither =>
    apply valid.write
    apply (valid.rooms _ written).patched
    · intro video h
      rcases neither.1 with same | cleared
      · rw [same] at h
        cases h
      · rw [cleared] at h
        cases h
    · intro playback h
      rcases neither.2 with same | cleared
      · rw [same] at h
        cases h
      · rw [cleared] at h
        cases h
  | share held written _ _ _ video _ playback _ currentTime =>
    apply valid.write
    exact (valid.rooms _ written).shared (valid.sessions _ held).toShown video playback currentTime
  | play held written _ _ _ playback _ _ currentTime =>
    apply valid.write
    exact (valid.rooms _ written).played (valid.sessions _ held).toShown playback currentTime
  | roomEvent written type _ _ => exact valid.emit (valid.rooms _ written).code
  | memberEvent held seated type _ _ =>
    have session := valid.sessions _ held
    exact valid.emit ⟨session.room _ seated, session.actorId, session.short⟩
  | sendCreated held written taken =>
    have room := valid.rooms _ written
    exact valid.send (accepted_roomCreated (valid.sessions _ held).actorId room.code room.token
      (valid.seats _ taken).token)
  | sendJoined held written taken =>
    exact valid.send (accepted_roomJoined (valid.sessions _ held).actorId
      (valid.rooms _ written).code (valid.seats _ taken).token)
  | sendState written listed sentAtMs =>
    apply valid.send
    apply accepted_roomState
    apply valid_roomStateFromSessions (valid.rooms _ written)
    exact fun session mem => valid.records session (listed session mem)
  | sendDeleted published read sentAtMs =>
    rw [parseMessage_stringify] at read
    have event := valid.events _ published
    rw [Option.some.inj read] at event
    exact valid.send (accepted_roomState (valid_deletedRoomState event) sentAtMs)
  | sendMember published received made =>
    rw [parseMessage_stringify] at received
    have event := valid.events _ published
    rw [Option.some.inj received] at event
    exact valid.send (accepted_createMemberMessage event made)
  | sendPong => exact valid.send (accepted_syncPong ..)
  | sendError known said => exact valid.send (accepted_sendError known said)
  | publish _ _ digits accepted =>
    exact { valid with
      announcements := forall_mem_concat valid.announcements (valid_publish accepted) }
  | sendAnnouncement published answered remainingMs elapsedMs =>
    apply valid.send
    apply accepted_serverAnnouncement
    rcases answered with rfl | answered
    · exact valid.announcements _ published
    · exact valid_parseStoredAnnouncement answered
  | sendNoAnnouncement => exact valid.send accepted_noAnnouncement

theorem run_valid (run : Run URL {} s) : Valid URL s := by
  induction run with
  | refl => exact valid_start
  | tail _ step ih => exact step_valid step ih

/-- Every message a server sends is one its clients accept, once written as JSON and read back. -/
theorem every_message_is_accepted (run : Run URL {} s) :
    ∀ sent ∈ s.sent, isServerMessage URL (some (parse (stringify sent))) = true := by
  intro sent mem
  rw [parse_stringify]
  exact (run_valid run).sent sent mem

/-- A platform that knows one address. -/
def oneAddress (url : JsString) : Option Url :=
  if url = js "https://www.bilibili.com/video/BV1" then
    some {
      origin := js "https://www.bilibili.com"
      hostname := js "www.bilibili.com"
      pathname := js "/video/BV1"
      searchParams := [] }
  else none

def sharedVideoOf (title : String) : Doc JsString :=
  .obj (object [("videoId", .str (js "BV1")), ("title", .str (js title)),
    ("url", .str (js "https://www.bilibili.com/video/BV1"))])

def shareMessage : Doc JsString :=
  message "video:share" (.obj (object [("memberToken", .str (js "AAAAAAAAAAAAAAAA")),
    ("video", sharedVideoOf "A video")]))

/-- A member enters a room it made and shares a video: the room's state reaches it. -/
theorem shared_state_is_accepted : ∃ s : Server, Run oneAddress {} s ∧ s.sent.length = 1 ∧
    ∀ sent ∈ s.sent, isServerMessage oneAddress (some (parse (stringify sent))) = true := by
  let guest := acceptConnection (fun _ => 0) 0
  let host := applyJoinedSessionState guest (createRoomCode fun _ => 0).units 5
    { memberId := guest.id, memberToken := generateToken fun _ => 0 }
  have connected : Run oneAddress {} _ := .single (.connect (fun _ => 0) 0)
  have created := connected.tail
    (.createRoom List.mem_cons_self (fun _ => 0) (fun _ => 0) 5)
  have entered := created.tail
    (.enterCreated (i := 0) rfl List.mem_cons_self (fun _ => 0) 5)
  have shared := entered.tail
    (.share (List.mem_singleton_self host) List.mem_cons_self shareMessage
      (by decide) (by decide) ⟨sharedVideoOf "A video", by decide⟩ rfl none
      rfl 7)
  have observed := shared.tail (.observe (List.mem_singleton_self host))
  have sent := observed.tail
    (.sendState (List.mem_cons_of_mem _ List.mem_cons_self)
      (fun session (mem : session ∈ [host]) => mem) 9)
  exact ⟨_, sent, rfl, every_message_is_accepted sent⟩

end BiliSyncPlay.Protocol
