import BiliSyncPlay.Rooms.Store

/-!
# Rooms as JavaScript objects

An update spreads its patch over the room. A property the patch has without a value is then
undefined on the room, and `JSON.stringify` leaves it out of the body.
-/

namespace BiliSyncPlay.RedisRoomStore

open Json

/-- What a patch has under one name. -/
inductive Patched (α : Type) where
  | absent
  | undefined
  | value (a : α)
  deriving DecidableEq

/-- The property after the spread. -/
def Patched.over {α : Type} (current : Option α) : Patched α → Option α
  | .absent => current
  | .undefined => none
  | .value a => some a

/-- `patch.name ?? fallback`, for a property that is never null. -/
def Patched.or {α : Type} (fallback : α) : Patched α → α
  | .absent | .undefined => fallback
  | .value a => a

structure RoomPatch where
  ownerDisplayName : Patched (Option JsString) := .absent
  sharedVideo : Patched (Option SharedVideo) := .absent
  playback : Patched (Option PlaybackState) := .absent
  lastActiveAt : Patched Rat := .absent
  expiresAt : Patched (Option Rat) := .absent
  deriving DecidableEq

/-- A property that is undefined or not there is `none`, and null is `some none`. -/
structure RoomObject where
  code : RoomCode
  joinToken : JsString
  createdAt : Rat
  ownerMemberId : Option (Option JsString)
  ownerDisplayName : Option (Option JsString)
  sharedVideo : Option (Option SharedVideo)
  playback : Option (Option PlaybackState)
  version : Nat
  lastActiveAt : Option Rat
  expiresAt : Option (Option Rat)
  deriving DecidableEq

def PersistedRoom.toObject (room : PersistedRoom) : RoomObject where
  code := room.code
  joinToken := room.joinToken
  createdAt := room.createdAt
  ownerMemberId := some room.ownerMemberId
  ownerDisplayName := some room.ownerDisplayName
  sharedVideo := some room.sharedVideo
  playback := some room.playback
  version := room.version
  lastActiveAt := some room.lastActiveAt
  expiresAt := some room.expiresAt

namespace RoomObject

/-- `{ ...currentRoom, ...patch, version: currentRoom.version + 1 }`. -/
def spread (currentRoom : RoomObject) (patch : RoomPatch) : RoomObject :=
  { currentRoom with
    ownerDisplayName := patch.ownerDisplayName.over currentRoom.ownerDisplayName
    sharedVideo := patch.sharedVideo.over currentRoom.sharedVideo
    playback := patch.playback.over currentRoom.playback
    lastActiveAt := patch.lastActiveAt.over currentRoom.lastActiveAt
    expiresAt := patch.expiresAt.over currentRoom.expiresAt
    version := currentRoom.version + 1 }

/-- The properties that have a value. -/
def fields : List (String × Option (Doc JsString)) → Fields JsString
  | [] => .nil
  | (_, none) :: rest => fields rest
  | (name, some value) :: rest => .cons (js name) value (fields rest)

/-- What `JSON.stringify` writes. -/
def toDoc (room : RoomObject) : Doc JsString :=
  .obj <| fields [
    ("code", some (.str room.code.units)),
    ("joinToken", some (.str room.joinToken)),
    ("createdAt", some (.num room.createdAt)),
    ("ownerMemberId", room.ownerMemberId.map (nullable .str)),
    ("ownerDisplayName", room.ownerDisplayName.map (nullable .str)),
    ("sharedVideo", room.sharedVideo.map (nullable Subtype.val)),
    ("playback", room.playback.map (nullable Subtype.val)),
    ("version", some (.num room.version)),
    ("lastActiveAt", room.lastActiveAt.map .num),
    ("expiresAt", room.expiresAt.map (nullable .num))]

end RoomObject

/-! ## Reading one back -/

/-- A property narrowed to null or a value the guard takes. -/
def readNullable {α : Type} (read : Option (Doc JsString) → Option α)
    (value : Option (Doc JsString)) : Option (Option α) :=
  value.map fun d => read (some d)

/-- A usable document as it stands. -/
def readObject (value : Option (Doc JsString)) (code : RoomCode) : RoomObject where
  code := code
  joinToken := (asString (property value "joinToken")).getD []
  createdAt := (asNumber (property value "createdAt")).getD 0
  ownerMemberId := readNullable asString (property value "ownerMemberId")
  ownerDisplayName := readNullable asString (property value "ownerDisplayName")
  sharedVideo := readNullable (narrow isUsableSharedVideo) (property value "sharedVideo")
  playback := readNullable (narrow isUsablePlayback) (property value "playback")
  version := ((asNumber (property value "version")).getD 0).num.toNat
  lastActiveAt := asNumber (property value "lastActiveAt")
  expiresAt := readNullable asNumber (property value "expiresAt")

/-- `parseRoom`, with the properties the body lacks told from the ones that are null. -/
def parseObject (raw : Raw) (expectedCode : RoomCode) : Option RoomObject :=
  match raw with
  | .garbled _ => none
  | .document source =>
    let parsed := some (parse source)
    if isUsableRoom parsed expectedCode then some (readObject parsed expectedCode) else none

/-- The room type has no undefined property apart from the owner's two. -/
structure RoomObject.Usable (room : RoomObject) : Prop where
  sharedVideo : room.sharedVideo.isSome
  playback : room.playback.isSome
  lastActiveAt : room.lastActiveAt.isSome
  expiresAt : room.expiresAt.isSome

/-! An object's properties are the ones it was written with. -/

section
variable (room : RoomObject)

theorem get?_fields_cons (name other : String) (value : Option (Doc JsString))
    (rest : List (String × Option (Doc JsString))) :
    (RoomObject.fields ((other, value) :: rest)).get? (js name) =
      ((RoomObject.fields rest).get? (js name)).or (if js other = js name then value else none) := by
  cases value <;> simp [RoomObject.fields, Fields.get?]

theorem get?_fields_nil (name : String) : (RoomObject.fields []).get? (js name) = none := rfl

/-- Names are told apart one by one. -/
theorem RoomObject.property_toDoc :
    property (some room.toDoc) "code" = some (.str room.code.units) ∧
      property (some room.toDoc) "joinToken" = some (.str room.joinToken) ∧
      property (some room.toDoc) "createdAt" = some (.num room.createdAt) ∧
      property (some room.toDoc) "ownerMemberId" = room.ownerMemberId.map (nullable .str) ∧
      property (some room.toDoc) "ownerDisplayName" = room.ownerDisplayName.map (nullable .str) ∧
      property (some room.toDoc) "sharedVideo" = room.sharedVideo.map (nullable Subtype.val) ∧
      property (some room.toDoc) "playback" = room.playback.map (nullable Subtype.val) ∧
      property (some room.toDoc) "version" = some (.num room.version) ∧
      property (some room.toDoc) "lastActiveAt" = room.lastActiveAt.map .num ∧
      property (some room.toDoc) "expiresAt" = room.expiresAt.map (nullable .num) := by
  simp +decide only [property, RoomObject.toDoc, Option.bind_some, Doc.get?, get?_fields_cons,
    get?_fields_nil, Option.none_or, Option.or_none, ↓reduceIte, and_self]

theorem isOptionalNullableString_map (value : Option (Option JsString)) :
    isOptionalNullableString (value.map (nullable .str)) = true := by
  rcases value with _ | _ | _ <;> rfl

theorem isUsable_map {guard : Option (Doc JsString) → Bool} (undefined : guard none = false)
    (value : Option (Option {d : Doc JsString // guard (some d) = true})) :
    (isNull (value.map (nullable Subtype.val)) || guard (value.map (nullable Subtype.val))) =
      value.isSome := by
  cases value with
  | none => simp [isNull, undefined]
  | some value => simp [isUsable_nullable]

theorem isFiniteNumber_map_nullable (value : Option (Option Rat)) :
    (isNull (value.map (nullable (.num : Rat → Doc JsString))) ||
      isFiniteNumber (value.map (nullable (.num : Rat → Doc JsString)))) = value.isSome := by
  rcases value with _ | _ | _ <;> rfl

/-- The guard takes exactly the objects of the room type. -/
theorem isUsableRoom_object (code : RoomCode) :
    isUsableRoom (some room.toDoc) code = true ↔ room.code = code ∧ room.Usable := by
  obtain ⟨code', joinToken, createdAt, ownerMemberId, ownerDisplayName, sharedVideo, playback,
    version, lastActiveAt, expiresAt⟩ := room.property_toDoc
  have integral : isIntegral (some (.num (room.version : Rat) : Doc JsString)) = true := by
    simp [isIntegral]
  have counted : isNonNegative (some (.num (room.version : Rat) : Doc JsString)) = true := by
    simp [isNonNegative]
  have table : isTable (some room.toDoc) = true := rfl
  have string (s : JsString) : isString (some (.str s)) = true := rfl
  have number (q : Rat) : isFiniteNumber (some (.num q : Doc JsString)) = true := rfl
  have active : isFiniteNumber (room.lastActiveAt.map (.num : Rat → Doc JsString)) =
      room.lastActiveAt.isSome := by
    cases room.lastActiveAt <;> rfl
  have usable : room.Usable ↔ room.sharedVideo.isSome ∧ room.playback.isSome ∧
      room.lastActiveAt.isSome ∧ room.expiresAt.isSome := by
    constructor
    · intro usable
      exact ⟨usable.sharedVideo, usable.playback, usable.lastActiveAt, usable.expiresAt⟩
    · rintro ⟨video, played, active, ends⟩
      exact ⟨video, played, active, ends⟩
  have shared := @isUsable_map isUsableSharedVideo rfl room.sharedVideo
  have played := @isUsable_map isUsablePlayback rfl room.playback
  rw [usable]
  simp only [isUsableRoom, code', joinToken, createdAt, ownerMemberId, ownerDisplayName,
    sharedVideo, playback, version, lastActiveAt, expiresAt, table, string, number, integral,
    counted, active, isOptionalNullableString_map, shared, played, isFiniteNumber_map_nullable,
    Bool.and_true, Bool.true_and, Bool.and_eq_true, beq_iff_eq, Option.some.injEq, Doc.str.injEq,
    RoomCode.units_injective.eq_iff, and_assoc]

theorem readNullable_map {α : Type} {read : Option (Doc JsString) → Option α}
    {write : α → Doc JsString} (inverse : ∀ value : Option α, read (some (nullable write value)) = value)
    (value : Option (Option α)) : readNullable read (value.map (nullable write)) = value := by
  cases value with
  | none => rfl
  | some value => simp [readNullable, inverse]

theorem readObject_object : readObject (some room.toDoc) room.code = room := by
  obtain ⟨-, joinToken, createdAt, ownerMemberId, ownerDisplayName, sharedVideo, playback,
    version, lastActiveAt, expiresAt⟩ := room.property_toDoc
  have string (s : JsString) : asString (some (.str s)) = some s := rfl
  have number (q : Rat) : asNumber (some (.num q)) = some q := rfl
  have active : asNumber (room.lastActiveAt.map .num) = room.lastActiveAt := by
    cases room.lastActiveAt <;> rfl
  have names := readNullable_map asString_nullable
  have ends := readNullable_map asNumber_nullable room.expiresAt
  have shared := readNullable_map (@narrow_nullable isUsableSharedVideo rfl) room.sharedVideo
  have played := readNullable_map (@narrow_nullable isUsablePlayback rfl) room.playback
  simp [readObject, joinToken, createdAt, ownerMemberId, ownerDisplayName, sharedVideo, playback,
    version, lastActiveAt, expiresAt, string, number, active, names, ends, shared, played]

/-- Reading a body back gives the object, where its code is asked for and it is usable. -/
theorem parseObject_object (usable : room.Usable) :
    parseObject (.document (stringify room.toDoc)) room.code = some room := by
  have accepted := (isUsableRoom_object room room.code).mpr ⟨rfl, usable⟩
  simp [parseObject, parse_stringify, accepted, readObject_object]

end

end BiliSyncPlay.RedisRoomStore
