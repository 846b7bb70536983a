import BiliSyncPlay.Rooms.Objects
import BiliSyncPlay.Rooms.Readers

/-!
# The two room stores

The store of `room-store.ts` keeps rooms in a map, and the Redis store keeps them behind scripts.
They answer one sequence of calls alike as long as the scripts can read the rooms they are to
delete, every update says when the room was last active, and no patch leaves a room without a
property that rooms have.
-/

namespace BiliSyncPlay.RedisRoomStore

open Json Database

inductive UpdateResult where
  | ok (room : RoomObject)
  | refused (reason : RoomUpdateRefusal)
  deriving DecidableEq

/-! ## The store in memory -/

/-- `cloneRoom`: a video or a playback that is undefined comes back null. -/
def RoomObject.clone (room : RoomObject) : RoomObject :=
  { room with
    sharedVideo := some room.sharedVideo.join
    playback := some room.playback.join }

abbrev InMemory := JsMap RoomCode RoomObject

namespace InMemory

def createRoom (rooms : InMemory) (input : CreatePersistedRoomInput) :
    Except StoreError RoomObject × InMemory :=
  if rooms.has input.code then (.error .alreadyExists, rooms)
  else
    let room := (createPersistedRoom input).toObject
    (.ok room.clone, rooms.set room.code room)

def getRoom (rooms : InMemory) (code : RoomCode) : Option RoomObject :=
  (rooms.get? code).map RoomObject.clone

def updateRoom (rooms : InMemory) (code : RoomCode) (expected : RoomUpdateGuard)
    (patch : RoomPatch) (now : Rat) : UpdateResult × InMemory :=
  match rooms.get? code with
  | none => (.refused .notFound, rooms)
  | some currentRoom =>
    let update :=
      let nextRoom :=
        { currentRoom.spread patch with lastActiveAt := some (patch.lastActiveAt.or now) }
      (.ok nextRoom.clone, rooms.set code nextRoom)
    match expected with
    | .version v =>
      if currentRoom.version ≠ v then (.refused .versionConflict, rooms) else update
    | .inst joinToken pinned =>
      if currentRoom.joinToken ≠ joinToken then (.refused .notFound, rooms)
      else if pinned.any (currentRoom.version ≠ ·) then (.refused .versionConflict, rooms)
      else update

def deleteRoom (rooms : InMemory) (code : RoomCode) (joinToken : JsString) :
    RoomDeleteOutcome × InMemory :=
  match rooms.get? code with
  | none => (.alreadyDeleted, rooms)
  | some room =>
    if room.joinToken ≠ joinToken then (.superseded, rooms) else (.deleted, rooms.delete code)

/-- Undefined is neither null nor later than any time. -/
def deleteExpiredRoom (rooms : InMemory) (code : RoomCode) (currentTime : Rat) :
    RoomDeleteOutcome × InMemory :=
  match rooms.get? code with
  | none => (.alreadyDeleted, rooms)
  | some room =>
    match room.expiresAt with
    | some none => (.superseded, rooms)
    | some (some expiresAt) =>
      if currentTime < expiresAt then (.superseded, rooms) else (.deleted, rooms.delete code)
    | none => (.deleted, rooms.delete code)

/-- What the sweep asks; undefined is not at most any time either. -/
def expired (currentTime : Rat) (room : RoomObject) : Bool :=
  room.expiresAt.join.any fun expiresAt => decide (expiresAt ≤ currentTime)

/-- The entries are visited in the order of the map, which allows for their removal. -/
def deleteExpiredRooms (rooms : InMemory) (currentTime : Rat) : List RoomCode × InMemory :=
  let deletedRoomCodes :=
    (rooms.entries.filter fun entry => expired currentTime entry.2).map Prod.fst
  (deletedRoomCodes, deletedRoomCodes.foldl JsMap.delete rooms)

end InMemory

/-! ## The Redis store -/

/-- The score an expiry is written as. `ZADD` raises on the text of undefined. -/
def RoomObject.expiryScore (room : RoomObject) : Option Score :=
  room.expiresAt.map fun
    | none => ⊤
    | some expiresAt => expiresAt

/-- Why the guard refuses the room it was read with. -/
def RoomUpdateGuard.refuses (expected : RoomUpdateGuard) (currentRoom : RoomObject) :
    Option RoomUpdateRefusal :=
  match expected with
  | .version v => if currentRoom.version ≠ v then some .versionConflict else none
  | .inst joinToken pinned =>
    if currentRoom.joinToken ≠ joinToken then some .notFound
    else if pinned.any (currentRoom.version ≠ ·) then some .versionConflict
    else none

abbrev Redis := Database

namespace Redis

def getRoom (db : Redis) (code : RoomCode) : Except StoreError (Option RoomObject) :=
  match db.get code with
  | .missing => .ok none
  | .wrongType => .error .wrongType
  | .raw raw =>
    match parseObject raw code with
    | some room => .ok (some room)
    | none => .error .invalidBody

def updateRoom (db : Redis) (code : RoomCode) (expected : RoomUpdateGuard) (patch : RoomPatch) :
    Except StoreError UpdateResult × Redis :=
  match db.get code with
  | .missing => (.ok (.refused .notFound), db)
  | .wrongType => (.error .wrongType, db)
  | .raw rawRoom =>
    match parseObject rawRoom code with
    | none => (.error .invalidBody, db)
    | some currentRoom =>
      match expected.refuses currentRoom with
      | some reason => (.ok (.refused reason), db)
      | none =>
        let nextRoom := currentRoom.spread patch
        let score := nextRoom.expiryScore
        match db.updateRoomCasLua code rawRoom (stringify nextRoom.toDoc) (score.getD ⊤)
          score.isSome with
        | (.ok .ok, db) => (.ok (.ok nextRoom), db)
        | (.ok .notFound, db) => (.ok (.refused .notFound), db)
        | (.ok .versionConflict, db) => (.ok (.refused .versionConflict), db)
        | (.ok .indexFailed, db) => (.error .indexFailed, db)
        | (.error .wrongType, db) => (.error .wrongType, db)

end Redis

/-! ## Calls -/

inductive Call where
  | createRoom (input : CreatePersistedRoomInput)
  | getRoom (code : RoomCode)
  | updateRoom (code : RoomCode) (expected : RoomUpdateGuard) (patch : RoomPatch)
  | deleteRoom (expected : PersistedRoom)
  | deleteExpiredRoom (code : RoomCode) (currentTime : Rat)
  | deleteExpiredRooms (currentTime : Rat)

/-- A call, at the time both stores read off their clock; the token is the one the Redis store
draws for a sweep. -/
structure Request where
  call : Call
  now : Rat
  token : ClaimToken

inductive Reply where
  | created (result : Except StoreError RoomObject)
  | found (result : Except StoreError (Option RoomObject))
  | updated (result : Except StoreError UpdateResult)
  | deleted (result : Except StoreError RoomDeleteOutcome)
  | swept (deletedRoomCodes orphanedIndexCodes : List RoomCode)

/-- The same result, up to the order of the codes a sweep deleted. -/
inductive Reply.Same : Reply → Reply → Prop
  | refl (reply : Reply) : Same reply reply
  | swept {codes codes' : List RoomCode} (perm : codes.Perm codes') (orphaned : List RoomCode) :
    Same (.swept codes orphaned) (.swept codes' orphaned)

def InMemory.answer (rooms : InMemory) (r : Request) : Reply × InMemory :=
  match r.call with
  | .createRoom input => (rooms.createRoom input).map .created id
  | .getRoom code => (.found (.ok (rooms.getRoom code)), rooms)
  | .updateRoom code expected patch =>
    (rooms.updateRoom code expected patch r.now).map (fun result => .updated (.ok result)) id
  | .deleteRoom expected =>
    (rooms.deleteRoom expected.code expected.joinToken).map (fun o => .deleted (.ok o)) id
  | .deleteExpiredRoom code currentTime =>
    (rooms.deleteExpiredRoom code currentTime).map (fun o => .deleted (.ok o)) id
  | .deleteExpiredRooms currentTime =>
    (rooms.deleteExpiredRooms currentTime).map (fun codes => .swept codes []) id

def Redis.answer (db : Redis) (r : Request) : Reply × Redis :=
  match r.call with
  | .createRoom input =>
    (db.createRoom input).map (fun result => .created (result.map PersistedRoom.toObject)) id
  | .getRoom code => (.found (db.getRoom code), db)
  | .updateRoom code expected patch => (db.updateRoom code expected patch).map .updated id
  | .deleteRoom expected => (db.deleteRoom expected.code expected.joinToken).map .deleted id
  | .deleteExpiredRoom code currentTime => (db.deleteExpiredRoom code currentTime).map .deleted id
  | .deleteExpiredRooms currentTime =>
    (db.deleteExpiredRooms currentTime r.token).map
      (fun sweep => .swept sweep.deletedRoomCodes (sweep.orphanedIndexClaims.map (·.code))) id

/-- The replies to a sequence of requests, and the store after them. -/
def serve {σ : Type} (answer : σ → Request → Reply × σ) (s : σ) : List Request → List Reply × σ
  | [] => ([], s)
  | r :: rest =>
    let (reply, s) := answer s r
    let (replies, s) := serve answer s rest
    (reply :: replies, s)

/-- A patch that leaves the room every property it has to have, and does not leave the time it was
last active to the store. -/
structure RoomPatch.Whole (patch : RoomPatch) (room : RoomObject) (now : Rat) : Prop where
  sharedVideo : patch.sharedVideo ≠ .undefined
  playback : patch.playback ≠ .undefined
  expiresAt : patch.expiresAt ≠ .undefined
  lastActiveAt : patch.lastActiveAt ≠ .undefined
  dated : patch.lastActiveAt = .absent → room.lastActiveAt = some now

/-- What keeps the stores together over one request to them. -/
def Request.Meets (rooms : InMemory) (r : Request) : Prop :=
  match r.call with
  | .updateRoom code expected patch => ∀ room, rooms.get? code = some room →
    expected.refuses room = none → patch.Whole room r.now
  | .deleteRoom expected => ∀ room, rooms.get? expected.code = some room →
    -- The script compares the tokens as UTF-8, in the rooms it can decode.
    (room.joinToken = expected.joinToken ↔
      room.toDoc.WellFormed ∧ room.joinToken.utf8 = expected.joinToken.utf8)
  | .deleteExpiredRoom code currentTime => ∀ room, rooms.get? code = some room →
    InMemory.expired currentTime room = true → room.toDoc.WellFormed
  | .deleteExpiredRooms currentTime => ∀ code room, rooms.get? code = some room →
    InMemory.expired currentTime room = true → room.toDoc.WellFormed
  | _ => True

/-- Every request meets the rooms it finds. -/
def Meeting (rooms : InMemory) : List Request → Prop
  | [] => True
  | r :: rest => r.Meets rooms ∧ Meeting (rooms.answer r).2 rest

/-! ## One set of rooms in two places -/

structure Agree (rooms : InMemory) (db : Redis) : Prop where
  bodies : ∀ code, db.bodies.get? code =
    (rooms.get? code).map fun room => .text (.document (stringify room.toDoc))
  scores : ∀ code, db.roomsByExpiry.zscore code = (rooms.get? code).bind RoomObject.expiryScore
  unclaimed : db.orphanedRoomQueue = JsMap.empty
  named : ∀ code room, rooms.get? code = some room → room.code = code
  usable : ∀ code room, rooms.get? code = some room → room.Usable

section
variable {rooms : InMemory} {db : Redis} {code : RoomCode} {room : RoomObject}

theorem RoomObject.Usable.clone (usable : room.Usable) : room.clone = room := by
  obtain ⟨shared, played, -, -⟩ := usable
  obtain ⟨video, video_eq⟩ := Option.isSome_iff_exists.mp shared
  obtain ⟨playback, playback_eq⟩ := Option.isSome_iff_exists.mp played
  have video_kept : some room.sharedVideo.join = room.sharedVideo := by rw [video_eq]; rfl
  have playback_kept : some room.playback.join = room.playback := by rw [playback_eq]; rfl
  unfold RoomObject.clone
  rw [video_kept, playback_kept]

theorem PersistedRoom.usable_toObject (room : PersistedRoom) : room.toObject.Usable :=
  ⟨rfl, rfl, rfl, rfl⟩

section
variable (agree : Agree rooms db)
include agree

theorem Agree.get_none (absent : rooms.get? code = none) :
    db.get code = .missing := by
  have body := agree.bodies code
  rw [absent] at body
  simp [Database.get, body]

theorem Agree.get_some (held : rooms.get? code = some room) :
    db.get code = .raw (.document (stringify room.toDoc)) := by
  have body := agree.bodies code
  rw [held] at body
  simp [Database.get, body]

theorem Agree.parse (held : rooms.get? code = some room) :
    parseObject (.document (stringify room.toDoc)) code = some room := by
  obtain rfl := agree.named code room held
  exact parseObject_object room (agree.usable _ room held)

theorem Agree.has (code : RoomCode) :
    db.bodies.has code = rooms.has code := by
  rw [JsMap.has, JsMap.has, agree.bodies code, Option.isSome_map]

theorem Agree.held (code : RoomCode) :
    Redis.getRoom db code = .ok (rooms.get? code) := by
  unfold Redis.getRoom
  cases held : rooms.get? code with
  | none => rw [agree.get_none held]
  | some room => simp only [agree.get_some held, agree.parse held]

theorem Agree.getRoom (code : RoomCode) :
    Redis.getRoom db code = .ok (rooms.getRoom code) := by
  rw [agree.held]
  unfold InMemory.getRoom
  cases held : rooms.get? code with
  | none => rfl
  | some room => rw [Option.map_some, (agree.usable code room held).clone]

theorem Agree.put (named : room.code = code) (usable : room.Usable) :
    Agree (rooms.set code room) { db with
      bodies := db.bodies.set code (.text (.document (stringify room.toDoc)))
      roomsByExpiry := db.roomsByExpiry.zadd (room.expiryScore.getD ⊤) code } where
  bodies other := by
    simp only [JsMap.get?_set]
    split
    · rfl
    · exact agree.bodies other
  scores other := by
    obtain ⟨score, scored⟩ := Option.isSome_iff_exists.mp
      (show room.expiryScore.isSome from Option.isSome_map.trans usable.expiresAt)
    simp only [JsMap.get?_set, SortedSet.zscore_zadd]
    split
    · simp only [scored, Option.getD_some, Option.bind_some]
    · exact agree.scores other
  unclaimed := agree.unclaimed
  named other r held := by
    rw [JsMap.get?_set] at held
    split at held
    · next same =>
      cases held
      exact named.trans same
    · exact agree.named other r held
  usable other r held := by
    rw [JsMap.get?_set] at held
    split at held
    · cases held
      exact usable
    · exact agree.usable other r held

theorem Agree.drop (code : RoomCode) :
    Agree (rooms.delete code) { db with
      roomsByExpiry := db.roomsByExpiry.zrem code
      bodies := db.bodies.delete code } where
  bodies other := by
    simp only [JsMap.get?_delete]
    split
    · rfl
    · exact agree.bodies other
  scores other := by
    simp only [JsMap.get?_delete, SortedSet.zscore_zrem]
    split
    · rfl
    · exact agree.scores other
  unclaimed := agree.unclaimed
  named other r held := by
    rw [JsMap.get?_delete] at held
    split at held
    · cases held
    · exact agree.named other r held
  usable other r held := by
    rw [JsMap.get?_delete] at held
    split at held
    · cases held
    · exact agree.usable other r held

theorem Agree.unlist (absent : rooms.get? code = none) :
    Agree rooms { db with roomsByExpiry := db.roomsByExpiry.zrem code } where
  bodies := agree.bodies
  scores other := by
    simp only [SortedSet.zscore_zrem]
    split
    · next same => rw [← same, absent]; rfl
    · exact agree.scores other
  unclaimed := agree.unclaimed
  named := agree.named
  usable := agree.usable

/-- A script decodes every well-formed room the two stores share. -/
theorem Agree.decode (held : rooms.get? code = some room) (well : room.toDoc.WellFormed) :
    ∃ decoded, Json.decode (stringify room.toDoc) = some decoded ∧
      Lua.isUsableRoom (some decoded) code = true ∧ isTable (some decoded) = true := by
  have readable := (isSome_decode_stringify room.toDoc).mpr well
  obtain ⟨decoded, read⟩ := Option.isSome_iff_exists.mp readable
  have usable : Lua.isUsableRoom (some decoded) code = true := by
    rw [lua_isUsableRoom_eq read]
    exact (isUsableRoom_object room code).mpr ⟨agree.named code room held,
      agree.usable code room held⟩
  have table := usable
  simp only [Lua.isUsableRoom, Bool.and_eq_true, and_assoc] at table
  exact ⟨decoded, read, usable, table.1⟩

/-- An expiry is null or a number, for the scripts too. -/
theorem Agree.index_expiresAt (held : rooms.get? code = some room) {decoded : Doc Text}
    (read : Json.decode (stringify room.toDoc) = some decoded) :
    ∃ expiresAt, room.expiresAt = some expiresAt ∧
      Lua.index (some decoded) "expiresAt" = some (nullable .num expiresAt) := by
  obtain ⟨expiresAt, ends⟩ := Option.isSome_iff_exists.mp (agree.usable code room held).expiresAt
  refine ⟨expiresAt, ends, index_nullable read ?_⟩
  rw [room.property_toDoc.2.2.2.2.2.2.2.2.2, ends]
  rfl

end

/-! ## One call, answered twice -/

theorem Agree.createRoom (agree : Agree rooms db) (input : CreatePersistedRoomInput) :
    (db.createRoom input).1.map PersistedRoom.toObject = (rooms.createRoom input).1 ∧
      Agree (rooms.createRoom input).2 (db.createRoom input).2 := by
  have has := agree.has input.code
  unfold Database.createRoom InMemory.createRoom createRoomLua
  cases taken : rooms.has input.code with
  | true =>
    rw [taken] at has
    simp only [createPersistedRoom, has, ↓reduceIte, agree, and_true]
    rfl
  | false =>
    rw [taken] at has
    have usable := (createPersistedRoom input).usable_toObject
    simp only [createPersistedRoom, has, Bool.false_eq_true, ↓reduceIte]
    exact ⟨congrArg Except.ok usable.clone.symm, agree.put rfl usable⟩

/-- The guard is the same in both stores. -/
theorem InMemory.updateRoom_eq (held : rooms.get? code = some room)
    (expected : RoomUpdateGuard) (patch : RoomPatch) (now : Rat) :
    rooms.updateRoom code expected patch now =
      match expected.refuses room with
      | some reason => (.refused reason, rooms)
      | none =>
        let nextRoom := { room.spread patch with lastActiveAt := some (patch.lastActiveAt.or now) }
        (.ok nextRoom.clone, rooms.set code nextRoom) := by
  unfold InMemory.updateRoom RoomUpdateGuard.refuses
  rw [held]
  cases expected with
  | version v =>
    dsimp only
    split <;> rfl
  | inst joinToken pinned =>
    dsimp only
    split
    · rfl
    · split <;> rfl

theorem Patched.isSome_over {α : Type} {patched : Patched α} {current : Option α}
    (defined : patched ≠ .undefined) (held : current.isSome) : (patched.over current).isSome := by
  cases patched with
  | absent => exact held
  | undefined => exact absurd rfl defined
  | value a => rfl

variable {now : Rat}

/-- A whole patch dates the room as both stores do, and leaves it usable. -/
theorem RoomPatch.Whole.spread {patch : RoomPatch} (whole : patch.Whole room now)
    (usable : room.Usable) :
    { room.spread patch with lastActiveAt := some (patch.lastActiveAt.or now) } =
        room.spread patch ∧ (room.spread patch).Usable := by
  have dated : some (patch.lastActiveAt.or now) = patch.lastActiveAt.over room.lastActiveAt := by
    cases time : patch.lastActiveAt with
    | absent => exact (whole.dated time).symm
    | undefined => exact absurd time whole.lastActiveAt
    | value a => rfl
  constructor
  · rw [dated]
    rfl
  · exact ⟨Patched.isSome_over whole.sharedVideo usable.sharedVideo,
      Patched.isSome_over whole.playback usable.playback,
      Patched.isSome_over whole.lastActiveAt usable.lastActiveAt,
      Patched.isSome_over whole.expiresAt usable.expiresAt⟩

section
variable (agree : Agree rooms db)
include agree

theorem Agree.updateRoom {code : RoomCode} {expected : RoomUpdateGuard} {patch : RoomPatch}
    (meets : ∀ room, rooms.get? code = some room → expected.refuses room = none →
      patch.Whole room now) :
    (Redis.updateRoom db code expected patch).1 =
        .ok (rooms.updateRoom code expected patch now).1 ∧
      Agree (rooms.updateRoom code expected patch now).2
        (Redis.updateRoom db code expected patch).2 := by
  unfold Redis.updateRoom
  cases held : rooms.get? code with
  | none =>
    simp only [agree.get_none held, InMemory.updateRoom, held, true_and]
    exact agree
  | some room =>
    rw [InMemory.updateRoom_eq held]
    simp only [agree.get_some held, agree.parse held]
    cases refused : expected.refuses room with
    | some reason => exact ⟨rfl, agree⟩
    | none =>
      obtain ⟨dated, usable⟩ := (meets room held refused).spread (agree.usable code room held)
      have scored : (room.spread patch).expiryScore.isSome = true :=
        Option.isSome_map.trans usable.expiresAt
      have written : db.updateRoomCasLua code (.document (stringify room.toDoc))
          (stringify (room.spread patch).toDoc) ((room.spread patch).expiryScore.getD ⊤) true =
          (.ok .ok, { db with
            bodies := db.bodies.set code (.text (.document (stringify (room.spread patch).toDoc)))
            roomsByExpiry :=
              db.roomsByExpiry.zadd ((room.spread patch).expiryScore.getD ⊤) code }) := by
        unfold updateRoomCasLua
        simp only [agree.get_some held, ne_eq, not_true, ↓reduceIte]
      have named : (room.spread patch).code = code := agree.named code room held
      have put := agree.put named usable
      simp only [dated, scored, written, usable.clone, true_and]
      exact put

/-- The delete script on a room the stores share. -/
theorem Agree.deleteRoomWhen (held : rooms.get? code = some room) {decoded : Doc Text}
    (read : Json.decode (stringify room.toDoc) = some decoded) (guard : Doc Text → Bool)
    (table : isTable (some decoded) = true) :
    deleteRoomWhen (db.deleteRoomLua code guard) =
      if guard decoded then (.ok .deleted, { db with
        roomsByExpiry := db.roomsByExpiry.zrem code
        bodies := db.bodies.delete code })
      else (.ok .superseded, db) := by
  have readable : (Raw.document (stringify room.toDoc)).decode = some decoded := read
  unfold deleteRoomLua
  simp only [agree.get_some held, readable, table, Bool.true_and]
  split <;> rfl

theorem Agree.deleteMissing (absent : rooms.get? code = none) (guard : Doc Text → Bool) :
    Database.deleteRoomWhen (db.deleteRoomLua code guard) =
      (.ok .alreadyDeleted, { db with roomsByExpiry := db.roomsByExpiry.zrem code }) := by
  unfold deleteRoomLua
  simp only [agree.get_none absent, Database.deleteRoomWhen]

/-- A script cannot tell whose room it is that has an unpaired surrogate. -/
theorem Agree.deleteUnread (held : rooms.get? code = some room) (ill : ¬ room.toDoc.WellFormed)
    (guard : Doc Text → Bool) :
    Database.deleteRoomWhen (db.deleteRoomLua code guard) = (.ok .superseded, db) := by
  have unread : (Raw.document (stringify room.toDoc)).decode = none := by
    rw [← Option.not_isSome_iff_eq_none]
    exact fun readable => ill ((isSome_decode_stringify room.toDoc).mp readable)
  exact deleteRoomWhen_of_unread (agree.get_some held) unread

theorem Agree.deleteRoom {code : RoomCode} {joinToken : JsString}
    (meets : ∀ room, rooms.get? code = some room →
      (room.joinToken = joinToken ↔
        room.toDoc.WellFormed ∧ room.joinToken.utf8 = joinToken.utf8)) :
    (db.deleteRoom code joinToken).1 = .ok (rooms.deleteRoom code joinToken).1 ∧
      Agree (rooms.deleteRoom code joinToken).2 (db.deleteRoom code joinToken).2 := by
  unfold Database.deleteRoom deleteRoomInstanceLua InMemory.deleteRoom
  cases held : rooms.get? code with
  | none =>
    rw [agree.deleteMissing held]
    exact ⟨rfl, agree.unlist held⟩
  | some room =>
    by_cases well : room.toDoc.WellFormed
    · obtain ⟨decoded, read, -, table⟩ := agree.decode held well
      have guard : isInstance joinToken.utf8 decoded = decide (room.joinToken = joinToken) := by
        unfold isInstance
        rw [index_str read room.property_toDoc.2.1]
        apply Bool.eq_iff_iff.mpr
        simp only [beq_iff_eq, Option.some.injEq, Doc.str.injEq, decide_eq_true_eq]
        rw [meets room held]
        exact ⟨fun same => ⟨well, same⟩, And.right⟩
      rw [agree.deleteRoomWhen held read _ table, guard]
      by_cases same : room.joinToken = joinToken
      · simp only [same, decide_true, ↓reduceIte, ne_eq, not_true, true_and]
        exact agree.drop code
      · simp only [same, decide_false, Bool.false_eq_true, ↓reduceIte, ne_eq, not_false_eq_true,
          true_and]
        exact agree
    · have other : room.joinToken ≠ joinToken := fun same => well ((meets room held).mp same).1
      rw [agree.deleteUnread held well]
      simp only [other, ne_eq, not_false_eq_true, ↓reduceIte, true_and]
      exact agree

theorem Agree.deleteExpiredRoom_eq (held : rooms.get? code = some room) (currentTime : Rat) :
    rooms.deleteExpiredRoom code currentTime =
      if InMemory.expired currentTime room then (.deleted, rooms.delete code)
      else (.superseded, rooms) := by
  obtain ⟨expiresAt, ends⟩ := Option.isSome_iff_exists.mp (agree.usable code room held).expiresAt
  simp only [InMemory.deleteExpiredRoom, InMemory.expired, held, ends, Option.join_some]
  cases expiresAt with
  | none => rfl
  | some expiresAt =>
    by_cases past : expiresAt ≤ currentTime
    · simp [past, not_lt.mpr past]
    · simp [past, not_le.mp past]

theorem Agree.deleteExpiredRoom {code : RoomCode} {currentTime : Rat}
    (meets : ∀ room, rooms.get? code = some room →
      InMemory.expired currentTime room = true → room.toDoc.WellFormed) :
    (db.deleteExpiredRoom code currentTime).1 = .ok (rooms.deleteExpiredRoom code currentTime).1 ∧
      Agree (rooms.deleteExpiredRoom code currentTime).2
        (db.deleteExpiredRoom code currentTime).2 := by
  unfold Database.deleteExpiredRoom deleteExpiredRoomLua
  cases held : rooms.get? code with
  | none =>
    rw [agree.deleteMissing held]
    simp only [InMemory.deleteExpiredRoom, held, true_and]
    exact agree.unlist held
  | some room =>
    rw [agree.deleteExpiredRoom_eq held]
    by_cases well : room.toDoc.WellFormed
    · obtain ⟨decoded, read, -, table⟩ := agree.decode held well
      obtain ⟨expiresAt, ends, indexed⟩ := agree.index_expiresAt held read
      have guard : hasExpired currentTime decoded = InMemory.expired currentTime room := by
        unfold hasExpired InMemory.expired
        rw [indexed, ends]
        cases expiresAt <;> rfl
      rw [agree.deleteRoomWhen held read _ table, guard]
      cases InMemory.expired currentTime room with
      | true => exact ⟨rfl, agree.drop code⟩
      | false => exact ⟨rfl, agree⟩
    · have alive : InMemory.expired currentTime room = false := by
        cases past : InMemory.expired currentTime room with
        | true => exact absurd (meets room held past) well
        | false => rfl
      rw [agree.deleteUnread held well, alive]
      exact ⟨rfl, agree⟩

end

/-! ## The sweep -/

theorem visitCandidate_due (agree : Agree rooms db) (held : rooms.get? code = some room)
    (well : room.toDoc.WellFormed) (due : InMemory.expired now room = true) (token : ClaimToken)
    (deletedCodes : List RoomCode) (orphanClaims : JsMap RoomCode ClaimToken) :
    Sweep.visitCandidate now token ⟨db, deletedCodes, orphanClaims⟩ code =
      ⟨{ db with
          roomsByExpiry := db.roomsByExpiry.zrem code
          bodies := db.bodies.delete code }, deletedCodes ++ [code], orphanClaims⟩ := by
  obtain ⟨decoded, read, usable, -⟩ := agree.decode held well
  obtain ⟨value, ends, indexed⟩ := agree.index_expiresAt held read
  have readable : (Raw.document (stringify room.toDoc)).decode = some decoded := read
  unfold InMemory.expired at due
  rw [ends] at due
  obtain ⟨expiresAt, rfl, past⟩ := (Option.any_eq_true ..).mp due
  have scored : Lua.index (some decoded) "expiresAt" = some (.num expiresAt) := indexed
  have reached : expiresAt ≤ now := of_decide_eq_true past
  unfold Sweep.visitCandidate
  simp only [agree.get_some held, readable, usable, scored, reached, ↓reduceIte]

/-- Only what the codes hold matters, not the order they were first held in. -/
theorem Agree.congr {rooms' : InMemory} (agree : Agree rooms db)
    (same : ∀ code, rooms'.get? code = rooms.get? code) : Agree rooms' db where
  bodies code := by rw [same]; exact agree.bodies code
  scores code := by rw [same]; exact agree.scores code
  unclaimed := agree.unclaimed
  named code room held := agree.named code room (same code ▸ held)
  usable code room held := agree.usable code room (same code ▸ held)

theorem foldl_visitCandidate_due (token : ClaimToken) (codes : List RoomCode) (nodup : codes.Nodup)
    (agree : Agree rooms db) (due : ∀ code ∈ codes, ∃ room, rooms.get? code = some room ∧
      InMemory.expired now room = true ∧ room.toDoc.WellFormed) (deletedCodes : List RoomCode) :
    ∃ swept, codes.foldl (Sweep.visitCandidate now token) ⟨db, deletedCodes, .empty⟩ =
        ⟨swept, deletedCodes ++ codes, .empty⟩ ∧
      Agree (codes.foldl JsMap.delete rooms) swept := by
  induction codes generalizing rooms db deletedCodes with
  | nil => exact ⟨db, by rw [List.append_nil]; rfl, agree⟩
  | cons code rest ih =>
    obtain ⟨fresh, nodup⟩ := List.nodup_cons.mp nodup
    obtain ⟨room, held, past, well⟩ := due code List.mem_cons_self
    have later : ∀ other ∈ rest, ∃ room, (rooms.delete code).get? other = some room ∧
        InMemory.expired now room = true ∧ room.toDoc.WellFormed := by
      intro other mem
      have apart : code ≠ other := fun same => fresh (same ▸ mem)
      rw [JsMap.get?_delete_ne _ apart]
      exact due other (List.mem_cons_of_mem code mem)
    have visited := visitCandidate_due agree held well past token deletedCodes .empty
    obtain ⟨swept, rest_swept, agree⟩ := ih nodup (agree.drop code) later (deletedCodes ++ [code])
    refine ⟨swept, ?_, agree⟩
    rw [List.foldl_cons, visited, rest_swept, List.append_assoc, List.singleton_append]

theorem mem_candidates (agree : Agree rooms db) (now : Rat) :
    code ∈ db.roomsByExpiry.zrangebyscore (fun score => decide (score ≤ now)) ↔
      ∃ room, rooms.get? code = some room ∧ InMemory.expired now room = true := by
  rw [SortedSet.mem_zrangebyscore, agree.scores code]
  cases held : rooms.get? code with
  | none => simp
  | some room =>
    obtain ⟨expiresAt, ends⟩ := Option.isSome_iff_exists.mp (agree.usable code room held).expiresAt
    cases expiresAt with
    | none => simp [RoomObject.expiryScore, InMemory.expired, ends]
    | some expiresAt => simp [RoomObject.expiryScore, InMemory.expired, ends]

theorem mem_expiredCodes (rooms : InMemory) (now : Rat) :
    code ∈ (rooms.deleteExpiredRooms now).1 ↔
      ∃ room, rooms.get? code = some room ∧ InMemory.expired now room = true := by
  unfold InMemory.deleteExpiredRooms
  rw [List.mem_map]
  constructor
  · rintro ⟨⟨_, room⟩, mem, rfl⟩
    obtain ⟨entry, past⟩ := List.mem_filter.mp mem
    exact ⟨room, JsMap.mem_entries_iff.mp entry, past⟩
  · rintro ⟨room, held, past⟩
    exact ⟨(code, room), List.mem_filter.mpr ⟨JsMap.mem_entries_iff.mpr held, past⟩, rfl⟩

theorem Agree.unstaged (agree : Agree rooms db) :
    db.orphanedRoomQueue.zrange ((REPAIR_CHUNK_SIZE : Int) - 1) = [] := by
  rw [agree.unclaimed]
  rfl

theorem Agree.deleteExpiredRooms (agree : Agree rooms db)
    (meets : ∀ code room, rooms.get? code = some room →
      InMemory.expired now room = true → room.toDoc.WellFormed) (token : ClaimToken) :
    (db.deleteExpiredRooms now token).1.orphanedIndexClaims = [] ∧
      (rooms.deleteExpiredRooms now).1.Perm (db.deleteExpiredRooms now token).1.deletedRoomCodes ∧
      Agree (rooms.deleteExpiredRooms now).2 (db.deleteExpiredRooms now token).2 := by
  let candidates := db.roomsByExpiry.zrangebyscore fun score => decide (score ≤ now)
  have nodup : candidates.Nodup := SortedSet.nodup_zrangebyscore _ _
  have due : ∀ code ∈ candidates, ∃ room, rooms.get? code = some room ∧
      InMemory.expired now room = true ∧ room.toDoc.WellFormed := by
    intro code mem
    obtain ⟨room, held, past⟩ := (mem_candidates agree now).mp mem
    exact ⟨room, held, past, meets code room held past⟩
  obtain ⟨swept, visited, agreed⟩ := foldl_visitCandidate_due token candidates nodup agree due []
  have ran : db.deleteExpiredRoomsLua now REPAIR_CHUNK_SIZE token = ⟨swept, candidates, .empty⟩ := by
    unfold deleteExpiredRoomsLua
    simp only [agree.unstaged, List.foldl_nil]
    exact visited
  have distinct : (rooms.deleteExpiredRooms now).1.Nodup :=
    rooms.nodup.sublist (List.filter_sublist.map Prod.fst)
  have perm : (rooms.deleteExpiredRooms now).1.Perm candidates := by
    rw [List.perm_ext_iff_of_nodup distinct nodup]
    intro code
    rw [mem_expiredCodes, mem_candidates agree]
  unfold Database.deleteExpiredRooms
  rw [ran]
  refine ⟨rfl, perm, agreed.congr ?_⟩
  intro code
  change ((rooms.deleteExpiredRooms now).1.foldl JsMap.delete rooms).get? code = _
  rw [JsMap.get?_foldl_delete, JsMap.get?_foldl_delete]
  by_cases listed : code ∈ candidates
  · simp [perm.mem_iff, listed]
  · simp [perm.mem_iff, listed]

/-! ## Where the answers part -/

theorem visitCandidate_unread {raw : Raw} (unread : raw.decode = none) (now : Rat)
    (token : ClaimToken) {s : Sweep} (held : s.db.bodies.get? code = some (.text raw))
    (kept : code ∉ s.deletedCodes) (other : RoomCode) :
    (Sweep.visitCandidate now token s other).db.bodies.get? code = some (.text raw) ∧
      code ∉ (Sweep.visitCandidate now token s other).deletedCodes := by
  by_cases same : other = code
  · subst same
    have got : s.db.get other = .raw raw := by simp [Database.get, held]
    have visited : Sweep.visitCandidate now token s other = s := by
      simp [Sweep.visitCandidate, got, unread, Lua.isUsableRoom, isTable]
    rw [visited]
    exact ⟨held, kept⟩
  · constructor
    · rw [visitCandidate_get now token s same, held]
    · intro deleted
      have taken := visitCandidate_takes now token s other deleted
      rcases List.mem_append.mp taken with before | visited
      · exact kept before
      · exact same (List.mem_singleton.mp visited).symm

/-- A sweep deletes nothing it cannot decode. -/
theorem foldl_visitCandidate_unread {raw : Raw} (unread : raw.decode = none) (now : Rat)
    (token : ClaimToken) (codes : List RoomCode) {s : Sweep}
    (held : s.db.bodies.get? code = some (.text raw)) (kept : code ∉ s.deletedCodes) :
    code ∉ (codes.foldl (Sweep.visitCandidate now token) s).deletedCodes := by
  induction codes generalizing s with
  | nil => exact kept
  | cons other rest ih =>
    obtain ⟨held, kept⟩ := visitCandidate_unread unread now token held kept other
    exact ih held kept

section
variable (agree : Agree rooms db)
include agree

theorem Agree.unread (held : rooms.get? code = some room) (ill : ¬ room.toDoc.WellFormed) :
    db.bodies.get? code = some (.text (.document (stringify room.toDoc))) ∧
      (Raw.document (stringify room.toDoc)).decode = none := by
  constructor
  · rw [agree.bodies, held]
    rfl
  · rw [← Option.not_isSome_iff_eq_none]
    exact fun readable => ill ((isSome_decode_stringify room.toDoc).mp readable)

theorem Agree.whole_of_updateRoom {expected : RoomUpdateGuard} {patch : RoomPatch}
    (held : rooms.get? code = some room) (accepted : expected.refuses room = none)
    (same : (Redis.updateRoom db code expected patch).1 =
      .ok (rooms.updateRoom code expected patch now).1) : patch.Whole room now := by
  unfold Redis.updateRoom at same
  rw [InMemory.updateRoom_eq held] at same
  simp only [agree.get_some held, agree.parse held, accepted, updateRoomCasLua, ne_eq, not_true,
    ↓reduceIte] at same
  have indexed : (room.spread patch).expiryScore.isSome = true := by
    cases scored : (room.spread patch).expiryScore.isSome with
    | true => rfl
    | false => simp [scored] at same
  simp only [indexed, ↓reduceIte, Except.ok.injEq, UpdateResult.ok.injEq] at same
  have ends : patch.expiresAt ≠ .undefined := by
    intro undefined
    simp [RoomObject.expiryScore, RoomObject.spread, undefined, Patched.over] at indexed
  have video : patch.sharedVideo ≠ .undefined := by
    intro undefined
    have shown := congrArg RoomObject.sharedVideo same
    simp [RoomObject.clone, RoomObject.spread, undefined, Patched.over] at shown
  have played : patch.playback ≠ .undefined := by
    intro undefined
    have shown := congrArg RoomObject.playback same
    simp [RoomObject.clone, RoomObject.spread, undefined, Patched.over] at shown
  have dates := congrArg RoomObject.lastActiveAt same
  have active : patch.lastActiveAt ≠ .undefined := by
    intro undefined
    simp [RoomObject.clone, RoomObject.spread, undefined, Patched.over, Patched.or] at dates
  refine ⟨video, played, ends, active, ?_⟩
  intro absent
  simpa [RoomObject.clone, RoomObject.spread, absent, Patched.over, Patched.or] using dates

theorem Agree.named_of_deleteRoom {joinToken : JsString} (held : rooms.get? code = some room)
    (same : (db.deleteRoom code joinToken).1 = .ok (rooms.deleteRoom code joinToken).1) :
    room.joinToken = joinToken ↔
      room.toDoc.WellFormed ∧ room.joinToken.utf8 = joinToken.utf8 := by
  unfold Database.deleteRoom deleteRoomInstanceLua InMemory.deleteRoom at same
  rw [held] at same
  by_cases well : room.toDoc.WellFormed
  · obtain ⟨decoded, read, -, table⟩ := agree.decode held well
    have guard : isInstance joinToken.utf8 decoded =
        decide (room.joinToken.utf8 = joinToken.utf8) := by
      unfold isInstance
      rw [index_str read room.property_toDoc.2.1]
      apply Bool.eq_iff_iff.mpr
      simp
    rw [agree.deleteRoomWhen held read _ table, guard] at same
    by_cases token : room.joinToken = joinToken
    · simp [token, well]
    · by_cases text : room.joinToken.utf8 = joinToken.utf8
      · simp [token, text] at same
      · simp [token, text]
  · rw [agree.deleteUnread held well] at same
    by_cases token : room.joinToken = joinToken
    · simp [token] at same
    · simp [token, well]

theorem Agree.readable_of_deleteExpiredRoom {currentTime : Rat} (held : rooms.get? code = some room)
    (past : InMemory.expired currentTime room = true)
    (same : (db.deleteExpiredRoom code currentTime).1 =
      .ok (rooms.deleteExpiredRoom code currentTime).1) : room.toDoc.WellFormed := by
  by_contra ill
  unfold Database.deleteExpiredRoom deleteExpiredRoomLua at same
  rw [agree.deleteUnread held ill, agree.deleteExpiredRoom_eq held, past] at same
  simp at same

theorem Agree.readable_of_deleteExpiredRooms {token : ClaimToken}
    (held : rooms.get? code = some room) (past : InMemory.expired now room = true)
    (same : (rooms.deleteExpiredRooms now).1.Perm
      (db.deleteExpiredRooms now token).1.deletedRoomCodes) : room.toDoc.WellFormed := by
  by_contra ill
  obtain ⟨body, unread⟩ := agree.unread held ill
  have swept := same.mem_iff.mp ((mem_expiredCodes rooms now).mpr ⟨room, held, past⟩)
  revert swept
  unfold Database.deleteExpiredRooms deleteExpiredRoomsLua
  rw [agree.unstaged]
  exact foldl_visitCandidate_unread unread now token _ body List.not_mem_nil

end

end

/-! ## Runs -/

theorem Agree.empty : Agree .empty {} where
  bodies _ := rfl
  scores _ := rfl
  unclaimed := rfl
  named _ _ held := by cases held
  usable _ _ held := by cases held

theorem Agree.answer {rooms : InMemory} {db : Redis} (agree : Agree rooms db) {r : Request}
    (meets : r.Meets rooms) :
    (rooms.answer r).1.Same (Redis.answer db r).1 ∧ Agree (rooms.answer r).2 (Redis.answer db r).2 := by
  obtain ⟨call, now, token⟩ := r
  cases call with
  | createRoom input =>
    obtain ⟨result, agree⟩ := agree.createRoom input
    refine ⟨?_, agree⟩
    simp only [InMemory.answer, Redis.answer, Prod.map_fst, result]
    exact .refl _
  | getRoom code =>
    refine ⟨?_, agree⟩
    simp only [InMemory.answer, Redis.answer, agree.getRoom code]
    exact .refl _
  | updateRoom code expected patch =>
    obtain ⟨result, agree⟩ := agree.updateRoom meets
    refine ⟨?_, agree⟩
    simp only [InMemory.answer, Redis.answer, Prod.map_fst, result]
    exact .refl _
  | deleteRoom expected =>
    obtain ⟨outcome, agree⟩ := agree.deleteRoom meets
    refine ⟨?_, agree⟩
    simp only [InMemory.answer, Redis.answer, Prod.map_fst, outcome]
    exact .refl _
  | deleteExpiredRoom code currentTime =>
    obtain ⟨outcome, agree⟩ := agree.deleteExpiredRoom meets
    refine ⟨?_, agree⟩
    simp only [InMemory.answer, Redis.answer, Prod.map_fst, outcome]
    exact .refl _
  | deleteExpiredRooms currentTime =>
    obtain ⟨none, perm, agree⟩ := agree.deleteExpiredRooms meets token
    refine ⟨?_, agree⟩
    simp only [InMemory.answer, Redis.answer, Prod.map_fst, none]
    exact .swept perm []

theorem Reply.Same.eq_of_not_swept {reply reply' : Reply} (same : reply.Same reply')
    (other : ∀ codes orphaned, reply ≠ .swept codes orphaned) : reply = reply' := by
  cases same with
  | refl => rfl
  | swept perm orphaned => exact absurd rfl (other _ orphaned)

/-- Stores that hold the same rooms answer alike exactly where the request meets them. -/
theorem Agree.meets_of_same {rooms : InMemory} {db : Redis} (agree : Agree rooms db) {r : Request}
    (same : (rooms.answer r).1.Same (Redis.answer db r).1) : r.Meets rooms := by
  obtain ⟨call, now, token⟩ := r
  cases call with
  | createRoom input => trivial
  | getRoom code => trivial
  | updateRoom code expected patch =>
    have same := same.eq_of_not_swept (by intro _ _ swept; cases swept)
    intro room held accepted
    exact agree.whole_of_updateRoom held accepted (Reply.updated.inj same).symm
  | deleteRoom expected =>
    have same := same.eq_of_not_swept (by intro _ _ swept; cases swept)
    intro room held
    exact agree.named_of_deleteRoom held (Reply.deleted.inj same).symm
  | deleteExpiredRoom code currentTime =>
    have same := same.eq_of_not_swept (by intro _ _ swept; cases swept)
    intro room held past
    exact agree.readable_of_deleteExpiredRoom held past (Reply.deleted.inj same).symm
  | deleteExpiredRooms currentTime =>
    have perm : (rooms.deleteExpiredRooms currentTime).1.Perm
        (db.deleteExpiredRooms currentTime token).1.deletedRoomCodes := by
      generalize answered : (rooms.answer ⟨.deleteExpiredRooms currentTime, now, token⟩).1 = reply
        at same
      generalize answered' : (Redis.answer db ⟨.deleteExpiredRooms currentTime, now, token⟩).1 =
        reply' at same
      cases same with
      | refl =>
        have codes := (Reply.swept.inj (answered.trans answered'.symm)).1
        exact codes ▸ List.Perm.refl _
      | swept perm orphaned =>
        have left : (rooms.deleteExpiredRooms currentTime).1 = _ := (Reply.swept.inj answered).1
        have right : (db.deleteExpiredRooms currentTime token).1.deletedRoomCodes = _ :=
          (Reply.swept.inj answered').1
        rw [left, right]
        exact perm
    intro code room held past
    exact agree.readable_of_deleteExpiredRooms held past perm

theorem Agree.serve {rooms : InMemory} {db : Redis} (agree : Agree rooms db)
    {requests : List Request} (meets : Meeting rooms requests) :
    List.Forall₂ Reply.Same (serve InMemory.answer rooms requests).1
        (serve Redis.answer db requests).1 ∧
      Agree (serve InMemory.answer rooms requests).2 (serve Redis.answer db requests).2 := by
  induction requests generalizing rooms db with
  | nil => exact ⟨.nil, agree⟩
  | cons r rest ih =>
    obtain ⟨reply, agree⟩ := agree.answer meets.1
    obtain ⟨replies, agree⟩ := ih agree meets.2
    exact ⟨.cons reply replies, agree⟩

theorem Agree.meeting {rooms : InMemory} {db : Redis} (agree : Agree rooms db)
    {requests : List Request}
    (same : List.Forall₂ Reply.Same (RedisRoomStore.serve InMemory.answer rooms requests).1
      (RedisRoomStore.serve Redis.answer db requests).1) : Meeting rooms requests := by
  induction requests generalizing rooms db with
  | nil => trivial
  | cons r rest ih =>
    obtain ⟨reply, replies⟩ := List.forall₂_cons.mp same
    have meets := agree.meets_of_same reply
    exact ⟨meets, ih (agree.answer meets).2 replies⟩

/-- The two stores give the same answers and hold the same rooms exactly as long as every request
meets the rooms it finds. -/
theorem stores_agree (requests : List Request) :
    (List.Forall₂ Reply.Same (serve InMemory.answer .empty requests).1
        (serve Redis.answer {} requests).1 ∧
      ∀ code, (serve Redis.answer {} requests).2.getRoom code =
        .ok ((serve InMemory.answer .empty requests).2.get? code)) ↔
      Meeting .empty requests := by
  constructor
  · intro ⟨replies, _⟩
    exact Agree.empty.meeting replies
  · intro meets
    obtain ⟨replies, agree⟩ := Agree.empty.serve meets
    exact ⟨replies, agree.held⟩

/-- A room created, updated, read and swept. Its owner's name is patched away, and a delete that
means another room leaves it. -/
theorem stores_agree_swept :
    let input : CreatePersistedRoomInput :=
      { code := ⟨ascii "AAAAAA", by decide⟩, joinToken := js "a", createdAt := 1,
        ownerDisplayName := some (js "owner") }
    let patch : RoomPatch :=
      { ownerDisplayName := .undefined, lastActiveAt := .value 5, expiresAt := .value (some 10) }
    let other : PersistedRoom := createPersistedRoom { input with joinToken := js "b" }
    let requests : List Request :=
      [⟨.createRoom input, 1, 0⟩, ⟨.updateRoom input.code (.version 0) patch, 5, 1⟩,
        ⟨.getRoom input.code, 6, 2⟩, ⟨.deleteRoom other, 7, 3⟩, ⟨.deleteExpiredRooms 10, 10, 4⟩]
    List.Forall₂ Reply.Same (serve InMemory.answer .empty requests).1
        (serve Redis.answer {} requests).1 ∧
      ∀ code, (serve Redis.answer {} requests).2.getRoom code =
        .ok ((serve InMemory.answer .empty requests).2.get? code) := by
  intro input patch other requests
  let room := (createPersistedRoom input).toObject.spread patch
  have written : (serve InMemory.answer .empty (requests.take 3)).2 =
      JsMap.empty.set input.code room := rfl
  have kept : (serve InMemory.answer .empty (requests.take 4)).2 =
      JsMap.empty.set input.code room := rfl
  have well : room.toDoc.WellFormed := (isSome_decode_stringify _).mp rfl
  have whole : Request.Meets (serve InMemory.answer .empty (requests.take 1)).2
      ⟨.updateRoom input.code (.version 0) patch, 5, 1⟩ := by
    intro room _ _
    exact ⟨by decide, by decide, by decide, by decide, by intro absent; cases absent⟩
  have named : Request.Meets (serve InMemory.answer .empty (requests.take 3)).2
      ⟨.deleteRoom other, 7, 3⟩ := by
    intro room held
    rw [written, JsMap.get?_set] at held
    have apart : js "a" ≠ js "b" := by decide
    have written_apart : (js "a").utf8 ≠ (js "b").utf8 := by decide
    split at held
    · cases held
      constructor
      · exact fun same => absurd same apart
      · exact fun same => absurd same.2 written_apart
    · cases held
  have sweepable : Request.Meets (serve InMemory.answer .empty (requests.take 4)).2
      ⟨.deleteExpiredRooms 10, 10, 4⟩ := by
    intro code room held _
    rw [kept, JsMap.get?_set] at held
    split at held
    · cases held
      exact well
    · cases held
  exact (stores_agree requests).mpr
    ⟨trivial, ⟨whole, ⟨trivial, ⟨named, ⟨sweepable, trivial⟩⟩⟩⟩⟩

/-- The store in memory dates an update that leaves the date to it, and the Redis store does not. -/
theorem undated_update_is_dated_in_memory :
    let input : CreatePersistedRoomInput :=
      { code := ⟨ascii "AAAAAA", by decide⟩, joinToken := js "a", createdAt := 1,
        ownerDisplayName := none }
    let requests : List Request :=
      [⟨.createRoom input, 1, 0⟩,
        ⟨.updateRoom input.code (.inst (js "a") none) { expiresAt := .value (some 5) }, 5, 1⟩]
    let memory := (serve InMemory.answer .empty requests).2
    let redis := (serve Redis.answer {} requests).2
    (∃ room, memory.get? input.code = some room ∧ room.lastActiveAt = some 5) ∧
      (∃ room, redis.getRoom input.code = .ok (some room) ∧ room.lastActiveAt = some 1) ∧
      ¬ ∀ code, redis.getRoom code = .ok (memory.get? code) := by
  intro input requests memory redis
  let kept := (createPersistedRoom input).toObject.spread { expiresAt := .value (some 5) }
  let dated := { kept with lastActiveAt := some 5 }
  have inMemory : memory.get? input.code = some dated := rfl
  have body : redis.get input.code = .raw (.document (stringify kept.toDoc)) := rfl
  have inRedis : redis.getRoom input.code = .ok (some kept) := by
    have parsed : parseObject (.document (stringify kept.toDoc)) input.code = some kept :=
      parseObject_object kept ⟨rfl, rfl, rfl, rfl⟩
    unfold Redis.getRoom
    simp only [body, parsed]
  have atFive : dated.lastActiveAt = some 5 := rfl
  have atOne : kept.lastActiveAt = some 1 := rfl
  have apart : ¬ ∀ code, redis.getRoom code = .ok (memory.get? code) := by
    intro agree
    have same := agree input.code
    rw [inMemory, inRedis] at same
    have dates := congrArg (Except.map (Option.map RoomObject.lastActiveAt)) same
    exact absurd dates (by decide)
  exact ⟨⟨dated, inMemory, atFive⟩, ⟨kept, inRedis, atOne⟩, apart⟩

end BiliSyncPlay.RedisRoomStore
