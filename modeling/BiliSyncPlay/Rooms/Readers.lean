import BiliSyncPlay.Rooms.ExpiryIndex

/-!
# Two readers of one body

A room the store wrote is read back in TypeScript, and judged by the scripts that may remove it.
The scripts reach a verdict only on a body `cjson.decode` takes, which it does unless some string
of the room has an unpaired surrogate.
-/

namespace BiliSyncPlay.RedisRoomStore

open Json Database

/-! ## Display names, from a message to a room -/

def DISPLAY_NAME_MAX_LENGTH : Nat := 32

def isBoundedString (value : JsString) (maxLength : Nat) : Bool := decide (value.length ≤ maxLength)

/-- White space and line terminators. -/
def isWhiteSpace (u : CodeUnit) : Bool :=
  decide (0x9 ≤ u ∧ u ≤ 0xD ∨ 0x2000 ≤ u ∧ u ≤ 0x200A) ||
    [0x20, 0xA0, 0x1680, 0x2028, 0x2029, 0x202F, 0x205F, 0x3000, 0xFEFF].contains u

def trim (s : JsString) : JsString :=
  ((s.dropWhile isWhiteSpace).reverse.dropWhile isWhiteSpace).reverse

/-- The name a session goes by after a message that named one. -/
def sessionDisplayName (current displayName : JsString) : JsString :=
  match trim displayName with
  | [] => current
  | nextDisplayName => nextDisplayName

/-! ## What the scripts make of a room the service reads -/

/-- The scripts find the body usable, read the token and the expiry it was written with, and take
the room: for its token, and once it expired, on its own or in a sweep. -/
structure Reapable (db : Database) (code : RoomCode) (raw : Raw) (room : PersistedRoom) : Prop where
  usable : db.roomBodyState code = .usable
  joinToken : (Lua.index raw.decode "joinToken").map (Doc.map Text.units) =
    some (.str room.joinToken)
  expiresAt : Lua.index raw.decode "expiresAt" = some (nullable .num room.expiresAt)
  deletes : (db.deleteRoom code room.joinToken).1 = .ok .deleted ∧
    (db.deleteRoom code room.joinToken).2.get code = .missing
  deletesExpired : ∀ expiresAt now, room.expiresAt = some expiresAt → expiresAt ≤ now →
    (db.deleteExpiredRoom code now).1 = .ok .deleted ∧
      (db.deleteExpiredRoom code now).2.get code = .missing
  sweeps : ∀ expiresAt now token, room.expiresAt = some expiresAt → expiresAt ≤ now →
    code ∈ (db.deleteExpiredRooms now token).1.deletedRoomCodes ∧
      (db.deleteExpiredRooms now token).2.get code = .missing

variable {db : Database} {code : RoomCode} {raw : Raw} {decoded : Doc Text}

theorem get_deleted (db : Database) (code : RoomCode) :
    Database.get { db with
      roomsByExpiry := db.roomsByExpiry.zrem code
      bodies := db.bodies.delete code } code = .missing := by
  simp [Database.get]

/-- A guard that holds of the body it is asked about lets the delete take it. -/
theorem deleteRoomWhen_of_guard {guard : Doc Text → Bool} (got : db.get code = .raw raw)
    (read : raw.decode = some decoded) (table : isTable (some decoded) = true)
    (passed : guard decoded = true) :
    (deleteRoomWhen (db.deleteRoomLua code guard)).1 = .ok .deleted ∧
      (deleteRoomWhen (db.deleteRoomLua code guard)).2.get code = .missing := by
  have taken : (isTable (some decoded) && guard decoded) = true := by rw [table, passed]; rfl
  unfold Database.deleteRoomLua
  simp only [got, read, taken, ↓reduceIte, deleteRoomWhen, true_and]
  exact get_deleted db code

/-- A body the script cannot decode is nobody's to delete. -/
theorem deleteRoomWhen_of_unread {guard : Doc Text → Bool} (got : db.get code = .raw raw)
    (unread : raw.decode = none) :
    deleteRoomWhen (db.deleteRoomLua code guard) = (.ok .superseded, db) := by
  unfold Database.deleteRoomLua
  simp only [got, unread, deleteRoomWhen]

/-! ## The sweep -/

theorem visitCandidate_deletedCodes (now : Rat) (token : ClaimToken) (s : Sweep) (other : RoomCode) :
    s.deletedCodes ⊆ (Sweep.visitCandidate now token s other).deletedCodes := by
  unfold Sweep.visitCandidate
  split
  · exact List.Subset.refl _
  · split <;> exact List.Subset.refl _
  · split
    · split
      · exact List.Subset.refl _
      · split
        · exact List.subset_append_left _ _
        · exact List.Subset.refl _
      · exact List.Subset.refl _
    · exact List.Subset.refl _

theorem visitCandidate_takes (now : Rat) (token : ClaimToken) (s : Sweep) (other : RoomCode) :
    (Sweep.visitCandidate now token s other).deletedCodes ⊆ s.deletedCodes ++ [other] := by
  unfold Sweep.visitCandidate
  split
  · exact List.subset_append_left _ _
  · split <;> exact List.subset_append_left _ _
  · split
    · split
      · exact List.subset_append_left _ _
      · split
        · exact List.Subset.refl _
        · exact List.subset_append_left _ _
      · exact List.subset_append_left _ _
    · exact List.subset_append_left _ _

/-- A visit leaves the other codes' bodies alone, and takes none but the visited. -/
theorem visitCandidate_bodies (now : Rat) (token : ClaimToken) (s : Sweep) (other : RoomCode) :
    (Sweep.visitCandidate now token s other).db.bodies = s.db.bodies ∨
      (Sweep.visitCandidate now token s other).db.bodies = s.db.bodies.delete other := by
  unfold Sweep.visitCandidate
  split
  · exact .inl (removeIndexWithOrphanClaim_bodies s.db other token)
  · have kept := removeIndexWithOrphanClaim_bodies s.db other token
    split
    · next eq =>
      rw [eq] at kept
      exact .inl kept
    · next eq =>
      rw [eq] at kept
      exact .inl kept
  · split
    · split
      · exact .inl rfl
      · split
        · exact .inr rfl
        · exact .inl rfl
      · exact .inl rfl
    · exact .inl rfl

theorem visitCandidate_get (now : Rat) (token : ClaimToken) (s : Sweep) {other : RoomCode}
    (apart : other ≠ code) :
    (Sweep.visitCandidate now token s other).db.bodies.get? code = s.db.bodies.get? code := by
  rcases visitCandidate_bodies now token s other with same | deleted
  · rw [same]
  · rw [deleted, JsMap.get?_delete_ne _ apart]

theorem foldl_visitCandidate_deletedCodes (now : Rat) (token : ClaimToken) (codes : List RoomCode)
    (s : Sweep) : s.deletedCodes ⊆ (codes.foldl (Sweep.visitCandidate now token) s).deletedCodes := by
  induction codes generalizing s with
  | nil => exact List.Subset.refl _
  | cons other rest ih =>
    exact List.Subset.trans (visitCandidate_deletedCodes now token s other) (ih _)

theorem foldl_visitCandidate_missing (now : Rat) (token : ClaimToken) (codes : List RoomCode)
    {s : Sweep} (missing : s.db.bodies.get? code = none) :
    (codes.foldl (Sweep.visitCandidate now token) s).db.bodies.get? code = none := by
  induction codes generalizing s with
  | nil => exact missing
  | cons other rest ih =>
    apply ih
    rcases visitCandidate_bodies now token s other with same | deleted
    · rw [same, missing]
    · rw [deleted, JsMap.get?_delete, missing, ite_self]

/-- A candidate that is usable and past its expiry is deleted in its turn. -/
theorem foldl_visitCandidate_expired {now expiresAt : Rat} (token : ClaimToken)
    (read : raw.decode = some decoded) (usable : Lua.isUsableRoom (some decoded) code = true)
    (expiry : Lua.index (some decoded) "expiresAt" = some (.num expiresAt)) (past : expiresAt ≤ now)
    {codes : List RoomCode} (candidate : code ∈ codes) {s : Sweep}
    (held : s.db.bodies.get? code = some (.text raw)) :
    code ∈ (codes.foldl (Sweep.visitCandidate now token) s).deletedCodes ∧
      (codes.foldl (Sweep.visitCandidate now token) s).db.bodies.get? code = none := by
  induction codes generalizing s with
  | nil => cases candidate
  | cons other rest ih =>
    by_cases same : other = code
    · subst same
      have got : s.db.get other = .raw raw := by simp [Database.get, held]
      have visited : Sweep.visitCandidate now token s other = { s with
          db.bodies := s.db.bodies.delete other
          db.roomsByExpiry := s.db.roomsByExpiry.zrem other
          deletedCodes := s.deletedCodes ++ [other] } := by
        simp [Sweep.visitCandidate, got, read, usable, expiry, past]
      rw [List.foldl_cons, visited]
      constructor
      · apply foldl_visitCandidate_deletedCodes
        exact List.mem_append_right _ (List.mem_singleton_self other)
      · apply foldl_visitCandidate_missing
        exact JsMap.get?_delete_self _ other
    · have later : code ∈ rest := (List.mem_cons.mp candidate).resolve_left (Ne.symm same)
      exact ih later ((visitCandidate_get now token s same).trans held)

theorem deleteExpiredRooms_expired {now expiresAt : Rat} (token : ClaimToken)
    (held : db.bodies.get? code = some (.text raw))
    (scored : db.roomsByExpiry.zscore code = some (expiresAt : Score))
    (read : raw.decode = some decoded) (usable : Lua.isUsableRoom (some decoded) code = true)
    (expiry : Lua.index (some decoded) "expiresAt" = some (.num expiresAt)) (past : expiresAt ≤ now) :
    code ∈ (db.deleteExpiredRooms now token).1.deletedRoomCodes ∧
      (db.deleteExpiredRooms now token).2.get code = .missing := by
  let staged := (db.orphanedRoomQueue.zrange (REPAIR_CHUNK_SIZE - 1)).foldl Sweep.visitStaged { db }
  have candidate :
      code ∈ db.roomsByExpiry.zrangebyscore fun score => decide (score ≤ (now : Score)) :=
    SortedSet.mem_zrangebyscore.mpr ⟨expiresAt, scored, by simpa using past⟩
  have held' : staged.db.bodies.get? code = some (.text raw) := by
    rw [(foldl_visitStaged_frame _ { db }).1]
    exact held
  obtain ⟨deleted, missing⟩ :=
    foldl_visitCandidate_expired token read usable expiry past candidate held'
  exact ⟨deleted, get_of_missing_body missing⟩

/-! ## Which rooms can be removed -/

theorem reapable_of_decode (indexed : ExpiryIndex.Indexed db) {room : PersistedRoom}
    (got : db.get room.code = .raw (.document (serializeRoom room)))
    (read : decode (serializeRoom room) = some decoded) :
    Reapable db room.code (.document (serializeRoom room)) room := by
  have held := get_of_raw got
  have readable : (Raw.document (serializeRoom room)).decode = some decoded := read
  have usable : Lua.isUsableRoom (some decoded) room.code = true :=
    (lua_isUsableRoom_iff read room.code).mpr rfl
  have table : isTable (some decoded) = true := by
    simp only [Lua.isUsableRoom, Bool.and_eq_true, and_assoc] at usable
    exact usable.1
  have token := index_joinToken read
  have expiry := index_expiresAt read
  obtain ⟨d, found, units⟩ := index_of_property read (property_joinToken room)
  refine ⟨?_, ?_, ?_, ?_, ?_, ?_⟩
  · simp [roomBodyState, got, readable, usable]
  · rw [readable, found, Option.map_some, units]
  · rw [readable, expiry]
  · have named : isInstance room.joinToken.utf8 decoded = true := by
      rw [isInstance, token, beq_self_eq_true]
    exact deleteRoomWhen_of_guard got readable table named
  · intro expiresAt now ends past
    have expired : hasExpired now decoded = true := by
      rw [hasExpired, expiry, ends]
      exact decide_eq_true past
    exact deleteRoomWhen_of_guard got readable table expired
  · intro expiresAt now uuid ends past
    have parsed := parseRoom_serializeRoom room
    have ending : Lua.index (some decoded) "expiresAt" = some (.num expiresAt) := by
      rw [expiry, ends]
      rfl
    obtain ⟨room', parsed', -, -, scored⟩ := indexed.room held
    obtain rfl : room = room' := Option.some.inj (parsed.symm.trans parsed')
    have score : expiryScore room = (expiresAt : Score) := by
      rw [expiryScore, ends]
    rw [score] at scored
    exact deleteExpiredRooms_expired uuid held scored readable usable ending past

/-- The service reads every room the store wrote. The scripts agree with it on the room, and can
remove it, exactly where no string of the room has an unpaired surrogate. -/
theorem readers_agree (reached : ExpiryIndex.Reachable db) (got : db.get code = .raw raw) :
    ∃ room, parseRoom raw code = some room ∧
      (Reapable db code raw room ↔ room.toDoc.WellFormed) := by
  have indexed := ExpiryIndex.reachable_indexed reached
  obtain ⟨room, parsed, rfl, rfl, -⟩ := indexed.room (get_of_raw got)
  refine ⟨room, parsed, ?_, ?_⟩
  · intro reapable
    apply (isSome_decode_stringify room.toDoc).mp
    cases read : decode (stringify room.toDoc) with
    | some decoded => rfl
    | none =>
      have unread : (Raw.document (serializeRoom room)).decode = none := read
      have token := reapable.joinToken
      rw [unread] at token
      cases token
  · intro wellFormed
    have readable := (isSome_decode_stringify room.toDoc).mpr wellFormed
    obtain ⟨decoded, read⟩ := Option.isSome_iff_exists.mp readable
    exact reapable_of_decode indexed got read

def watchedVideo : SharedVideo :=
  ⟨.obj (object [("videoId", .str (js "BV1")), ("url", .str (js "u")), ("title", .str (js "t"))]),
    by decide⟩

def watchedPlayback : PlaybackState :=
  ⟨.obj (object [("url", .str (js "u")), ("currentTime", .num 3), ("playState", .str (js "paused")),
    ("playbackRate", .num 1), ("updatedAt", .num 5), ("serverTime", .num 5),
    ("actorId", .str (js "m")), ("seq", .num 1)]), by decide⟩

/-- A room whose owner goes by a well-formed name, that shows a video and is to expire. -/
theorem readers_agree_named :
    let input : CreatePersistedRoomInput :=
      { code := ⟨ascii "AAAAAA", by decide⟩, joinToken := js "a", createdAt := 1,
        ownerDisplayName := some (js "owner") }
    let patch : PersistedRoomPatch :=
      { sharedVideo := some (some watchedVideo), playback := some (some watchedPlayback),
        lastActiveAt := some 5, expiresAt := some (some 9) }
    let room := (createPersistedRoom input).patched patch
    let written := ((({} : Database).createRoom input).2.updateRoom input.code (.version 0) patch).2
    Reapable written input.code (.document (serializeRoom room)) room := by
  intro input patch room written
  have created : ExpiryIndex.Reachable (({} : Database).createRoom input).2 :=
    .single (.createRoom input true)
  have reached : ExpiryIndex.Reachable written := created.updateRoom input.code (.version 0) patch true
  have got : written.get input.code = .raw (.document (serializeRoom room)) := rfl
  obtain ⟨read, parsed, agree⟩ := readers_agree reached got
  have wellFormed : room.toDoc.WellFormed := (isSome_decode_stringify _).mp rfl
  obtain rfl : room = read := Option.some.inj ((parseRoom_serializeRoom room).symm.trans parsed)
  exact agree.mpr wellFormed

/-- One half of an emoji is a display name the message guard accepts. The room of an owner who
goes by it is read, but neither its token nor its expiry ever removes it. -/
theorem unpaired_name_is_never_reaped :
    let name : JsString := [0xD83D]
    let input : CreatePersistedRoomInput :=
      { code := ⟨ascii "AAAAAA", by decide⟩, joinToken := js "a", createdAt := 1,
        ownerDisplayName := some (sessionDisplayName [] name) }
    let created := (({} : Database).createRoom input).2
    let expiring := (created.updateRoom input.code (.version 0) { expiresAt := some (some 5) }).2
    isBoundedString name DISPLAY_NAME_MAX_LENGTH = true ∧ ExpiryIndex.Reachable expiring ∧
      (∃ room, expiring.getRoom input.code = .ok (some room) ∧ room.expiresAt = some 5 ∧
        (expiring.deleteRoom input.code room.joinToken).1 = .ok .superseded) ∧
      expiring.roomBodyState input.code = .unusable ∧
      (expiring.deleteExpiredRoom input.code 7).1 = .ok .superseded ∧
      (expiring.deleteExpiredRooms 7 0).1.deletedRoomCodes = [] := by
  intro name input created expiring
  have started : ExpiryIndex.Reachable created := .single (.createRoom input true)
  have reached : ExpiryIndex.Reachable expiring := started.updateRoom input.code _ _ true
  let room := (createPersistedRoom input).patched { expiresAt := some (some 5) }
  have got : expiring.get input.code = .raw (.document (serializeRoom room)) := rfl
  have unread : (Raw.document (serializeRoom room)).decode = none := rfl
  have deleted : (expiring.deleteRoom input.code room.joinToken).1 = .ok .superseded := by
    unfold Database.deleteRoom deleteRoomInstanceLua
    rw [deleteRoomWhen_of_unread got unread]
  have deletedExpired : (expiring.deleteExpiredRoom input.code 7).1 = .ok .superseded := by
    unfold Database.deleteExpiredRoom deleteExpiredRoomLua
    rw [deleteRoomWhen_of_unread got unread]
  have read : expiring.getRoom input.code = .ok (some room) := rfl
  have state : expiring.roomBodyState input.code = .unusable := by
    simp [roomBodyState, got, unread, Lua.isUsableRoom, isTable]
  have swept : (expiring.deleteExpiredRooms 7 0).1.deletedRoomCodes = [] := by
    decide
  exact ⟨by decide, reached, ⟨room, read, rfl, deleted⟩, state, deletedExpired, swept⟩

end BiliSyncPlay.RedisRoomStore
