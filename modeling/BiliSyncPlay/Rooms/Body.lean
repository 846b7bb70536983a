import BiliSyncPlay.Json.Documents
import Mathlib.Data.Rat.Floor

/-!
# Room bodies

The document `redis-room-store.ts` keeps of a room, and the two predicates that say which
documents are rooms: one in TypeScript, which every read asks, and one in Lua, which the expiry
sweep asks. Numbers are finite.
-/

namespace BiliSyncPlay.RedisRoomStore

open Json

/-- The member of the orphan queue that stands for no room. -/
def sequenceMember : Text := ascii "!sequence"

/-- Room codes are letters and digits: UTF-8 carries them, and none is the reserved member. -/
abbrev RoomCode := {t : Text // t ≠ sequenceMember}

def RoomCode.units (code : RoomCode) : JsString := Text.units code.1

theorem RoomCode.units_injective : Function.Injective RoomCode.units :=
  Json.units_injective.comp Subtype.val_injective

/-! ## What both languages ask of a value; an absent one is `undefined` and `nil` -/

section
variable {σ : Type}

def isTable : Option (Doc σ) → Bool
  | some (.arr _) | some (.obj _) => true
  | _ => false

def isString : Option (Doc σ) → Bool
  | some (.str _) => true
  | _ => false

def isBoolean : Option (Doc σ) → Bool
  | some (.bool _) => true
  | _ => false

def isNull : Option (Doc σ) → Bool
  | some .null => true
  | _ => false

def isFiniteNumber : Option (Doc σ) → Bool
  | some (.num _) => true
  | _ => false

def isOptionalNullableString (value : Option (Doc σ)) : Bool :=
  value.isNone || isNull value || isString value

/-- `Number.isInteger`, and `version % 1 == 0`. -/
def isIntegral : Option (Doc σ) → Bool
  | some (.num q) => q.den == 1
  | _ => false

def isNonNegative : Option (Doc σ) → Bool
  | some (.num q) => decide (0 ≤ q)
  | _ => false

end

/-! ## The TypeScript predicate -/

def js (s : String) : JsString := (ascii s).units

def property (value : Option (Doc JsString)) (name : String) : Option (Doc JsString) :=
  value.bind (Doc.get? (js name))

def equals (value : Option (Doc JsString)) (s : String) : Bool :=
  value == some (.str (js s))

def isUsableSharedVideo (value : Option (Doc JsString)) : Bool :=
  isTable value
    && isString (property value "videoId")
    && isString (property value "url")
    && isString (property value "title")
    && ((property value "sharedByMemberId").isNone
      || isString (property value "sharedByMemberId"))
    && ((property value "sharedByDisplayName").isNone
      || isString (property value "sharedByDisplayName"))

def isUsablePlayback (value : Option (Doc JsString)) : Bool :=
  isTable value
    && isString (property value "url")
    && isFiniteNumber (property value "currentTime")
    && (equals (property value "playState") "playing"
      || equals (property value "playState") "paused"
      || equals (property value "playState") "buffering")
    && ((property value "syncIntent").isNone
      || equals (property value "syncIntent") "explicit-seek"
      || equals (property value "syncIntent") "explicit-ratechange")
    && ((property value "userInitiated").isNone || isBoolean (property value "userInitiated"))
    && ((property value "naturalEnd").isNone || isBoolean (property value "naturalEnd"))
    && isFiniteNumber (property value "playbackRate")
    && isFiniteNumber (property value "updatedAt")
    && isFiniteNumber (property value "serverTime")
    && isString (property value "actorId")
    && isFiniteNumber (property value "seq")

def isUsableRoom (value : Option (Doc JsString)) (expectedCode : RoomCode) : Bool :=
  isTable value
    && property value "code" == some (.str expectedCode.units)
    && isString (property value "joinToken")
    && isFiniteNumber (property value "createdAt")
    && isOptionalNullableString (property value "ownerMemberId")
    && isOptionalNullableString (property value "ownerDisplayName")
    && (isNull (property value "sharedVideo")
      || isUsableSharedVideo (property value "sharedVideo"))
    && (isNull (property value "playback") || isUsablePlayback (property value "playback"))
    && isFiniteNumber (property value "version")
    && isIntegral (property value "version")
    && isNonNegative (property value "version")
    && isFiniteNumber (property value "lastActiveAt")
    && (isNull (property value "expiresAt") || isFiniteNumber (property value "expiresAt"))

/-! ## The Lua predicate -/

namespace Lua

def index (value : Option (Doc Text)) (name : String) : Option (Doc Text) :=
  value.bind (Doc.get? (ascii name))

def equals (value : Option (Doc Text)) (s : String) : Bool :=
  value == some (.str (ascii s))

def isSharedVideo (value : Option (Doc Text)) : Bool :=
  isNull value
    || isTable value
      && isString (index value "videoId")
      && isString (index value "url")
      && isString (index value "title")
      && ((index value "sharedByMemberId").isNone
        || isString (index value "sharedByMemberId"))
      && ((index value "sharedByDisplayName").isNone
        || isString (index value "sharedByDisplayName"))

def isPlayback (value : Option (Doc Text)) : Bool :=
  let playState := index value "playState"
  let syncIntent := index value "syncIntent"
  isNull value
    || isTable value
      && isString (index value "url")
      && isFiniteNumber (index value "currentTime")
      && (equals playState "playing" || equals playState "paused" || equals playState "buffering")
      && (syncIntent.isNone || equals syncIntent "explicit-seek"
        || equals syncIntent "explicit-ratechange")
      && ((index value "userInitiated").isNone || isBoolean (index value "userInitiated"))
      && ((index value "naturalEnd").isNone || isBoolean (index value "naturalEnd"))
      && isFiniteNumber (index value "playbackRate")
      && isFiniteNumber (index value "updatedAt")
      && isFiniteNumber (index value "serverTime")
      && isString (index value "actorId")
      && isFiniteNumber (index value "seq")

def isUsableRoom (room : Option (Doc Text)) (code : RoomCode) : Bool :=
  let version := index room "version"
  let expiresAt := index room "expiresAt"
  isTable room
    && index room "code" == some (.str code.1)
    && isString (index room "joinToken")
    && isFiniteNumber (index room "createdAt")
    && isOptionalNullableString (index room "ownerMemberId")
    && isOptionalNullableString (index room "ownerDisplayName")
    && isSharedVideo (index room "sharedVideo")
    && isPlayback (index room "playback")
    && isFiniteNumber version
    && isNonNegative version
    && isIntegral version
    && isFiniteNumber (index room "lastActiveAt")
    && (isNull expiresAt || isFiniteNumber expiresAt)

end Lua

/-! ## One document, read in either language -/

section
variable {σ τ : Type} {f : σ → τ} (value : Option (Doc σ))

@[simp] theorem isTable_map : isTable (value.map (Doc.map f)) = isTable value := by
  rcases value with _ | _ | _ | _ | _ | _ | _ <;> rfl

@[simp] theorem isString_map : isString (value.map (Doc.map f)) = isString value := by
  rcases value with _ | _ | _ | _ | _ | _ | _ <;> rfl

@[simp] theorem isBoolean_map : isBoolean (value.map (Doc.map f)) = isBoolean value := by
  rcases value with _ | _ | _ | _ | _ | _ | _ <;> rfl

@[simp] theorem isNull_map : isNull (value.map (Doc.map f)) = isNull value := by
  rcases value with _ | _ | _ | _ | _ | _ | _ <;> rfl

@[simp] theorem isFiniteNumber_map :
    isFiniteNumber (value.map (Doc.map f)) = isFiniteNumber value := by
  rcases value with _ | _ | _ | _ | _ | _ | _ <;> rfl

@[simp] theorem isIntegral_map : isIntegral (value.map (Doc.map f)) = isIntegral value := by
  rcases value with _ | _ | _ | _ | _ | _ | _ <;> rfl

@[simp] theorem isNonNegative_map : isNonNegative (value.map (Doc.map f)) = isNonNegative value := by
  rcases value with _ | _ | _ | _ | _ | _ | _ <;> rfl

end

section
variable (value : Option (Doc Text))
include value

theorem property_units (name : String) :
    property (value.map (Doc.map Text.units)) name =
      (Lua.index value name).map (Doc.map Text.units) := by
  cases value with
  | none => rfl
  | some d => exact Doc.get?_map units_injective (ascii name) d

theorem str_units_iff (t : Text) :
    value.map (Doc.map Text.units) = some (.str t.units) ↔ value = some (.str t) := by
  rcases value with _ | _ | _ | _ | s | _ | _ <;> simp [Doc.map, units_injective.eq_iff]

theorem equals_units (s : String) :
    equals (value.map (Doc.map Text.units)) s = Lua.equals value s := by
  apply Bool.eq_iff_iff.mpr
  simp only [equals, Lua.equals, beq_iff_eq]
  exact str_units_iff value (ascii s)

theorem isSharedVideo_units :
    (isNull value || isUsableSharedVideo (value.map (Doc.map Text.units))) =
      Lua.isSharedVideo value := by
  simp only [isUsableSharedVideo, Lua.isSharedVideo, property_units, isTable_map, isString_map,
    Option.isNone_map]

theorem isPlayback_units :
    (isNull value || isUsablePlayback (value.map (Doc.map Text.units))) = Lua.isPlayback value := by
  simp only [isUsablePlayback, Lua.isPlayback, property_units, equals_units, isTable_map,
    isString_map, isFiniteNumber_map, isBoolean_map, Option.isNone_map]

end

/-- The two predicates are one: they say the same of every value both readers reach. -/
theorem isUsableRoom_units (room : Option (Doc Text)) (code : RoomCode) :
    isUsableRoom (room.map (Doc.map Text.units)) code = Lua.isUsableRoom room code := by
  have named : ((Lua.index room "code").map (Doc.map Text.units) == some (.str code.units)) =
      (Lua.index room "code" == some (.str code.1)) := by
    apply Bool.eq_iff_iff.mpr
    simp only [beq_iff_eq]
    exact str_units_iff _ code.1
  simp only [isUsableRoom, Lua.isUsableRoom, property_units, named, isTable_map, isString_map,
    isFiniteNumber_map, isNull_map, isOptionalNullableString, Option.isNone_map, isSharedVideo_units,
    isPlayback_units, isIntegral_map, isNonNegative_map, Bool.and_assoc, Bool.and_left_comm]

/-! ## Rooms -/

/-- What the type guard narrows to. Whatever else a client's message named stays in it. -/
abbrev SharedVideo := {d : Doc JsString // isUsableSharedVideo (some d) = true}

abbrev PlaybackState := {d : Doc JsString // isUsablePlayback (some d) = true}

structure PersistedRoom where
  code : RoomCode
  joinToken : JsString
  createdAt : Rat
  ownerMemberId : Option JsString
  ownerDisplayName : Option JsString
  sharedVideo : Option SharedVideo
  playback : Option PlaybackState
  version : Nat
  lastActiveAt : Rat
  expiresAt : Option Rat
  deriving DecidableEq

def object : List (String × Doc JsString) → Fields JsString
  | [] => .nil
  | (name, value) :: rest => .cons (js name) value (object rest)

def nullable {α σ : Type} (write : α → Doc σ) : Option α → Doc σ
  | none => .null
  | some a => write a

/-- The JavaScript object a room is. -/
def PersistedRoom.toDoc (room : PersistedRoom) : Doc JsString :=
  .obj <| object [
    ("code", .str room.code.units),
    ("joinToken", .str room.joinToken),
    ("createdAt", .num room.createdAt),
    ("ownerMemberId", nullable .str room.ownerMemberId),
    ("ownerDisplayName", nullable .str room.ownerDisplayName),
    ("sharedVideo", nullable Subtype.val room.sharedVideo),
    ("playback", nullable Subtype.val room.playback),
    ("version", .num room.version),
    ("lastActiveAt", .num room.lastActiveAt),
    ("expiresAt", nullable .num room.expiresAt)]

def serializeRoom (room : PersistedRoom) : Source := stringify room.toDoc

def asString : Option (Doc JsString) → Option JsString
  | some (.str s) => some s
  | _ => none

def asNumber : Option (Doc JsString) → Option Rat
  | some (.num q) => some q
  | _ => none

def narrow (guard : Option (Doc JsString) → Bool) (value : Option (Doc JsString)) :
    Option {d : Doc JsString // guard (some d) = true} :=
  value.bind fun d => if usable : guard (some d) = true then some ⟨d, usable⟩ else none

/-- A usable document, taken for the room it is. -/
def readRoom (value : Option (Doc JsString)) (code : RoomCode) : PersistedRoom where
  code := code
  joinToken := (asString (property value "joinToken")).getD []
  createdAt := (asNumber (property value "createdAt")).getD 0
  ownerMemberId := asString (property value "ownerMemberId")
  ownerDisplayName := asString (property value "ownerDisplayName")
  sharedVideo := narrow isUsableSharedVideo (property value "sharedVideo")
  playback := narrow isUsablePlayback (property value "playback")
  version := ((asNumber (property value "version")).getD 0).num.toNat
  lastActiveAt := (asNumber (property value "lastActiveAt")).getD 0
  expiresAt := asNumber (property value "expiresAt")

/-- A string Redis holds: a JSON document, or bytes that are none. -/
inductive Raw where
  | document (source : Source)
  | garbled (bytes : List UInt8)
  deriving DecidableEq

/-- What `pcall(cjson.decode, raw)` leaves a script with. -/
def Raw.decode : Raw → Option (Doc Text)
  | .document source => Json.decode source
  | .garbled _ => none

/-- No room where the source throws. -/
def parseRoom (raw : Raw) (expectedCode : RoomCode) : Option PersistedRoom :=
  match raw with
  | .garbled _ => none
  | .document source =>
    let parsed := some (parse source)
    if isUsableRoom parsed expectedCode then some (readRoom parsed expectedCode) else none

/-! A room's fields are the ones it was written with. -/

section
variable (room : PersistedRoom)

@[simp] theorem property_code : property (some room.toDoc) "code" = some (.str room.code.units) := rfl

@[simp] theorem property_joinToken :
    property (some room.toDoc) "joinToken" = some (.str room.joinToken) := rfl

@[simp] theorem property_createdAt :
    property (some room.toDoc) "createdAt" = some (.num room.createdAt) := rfl

@[simp] theorem property_ownerMemberId :
    property (some room.toDoc) "ownerMemberId" = some (nullable .str room.ownerMemberId) := rfl

@[simp] theorem property_ownerDisplayName :
    property (some room.toDoc) "ownerDisplayName" =
      some (nullable .str room.ownerDisplayName) := rfl

@[simp] theorem property_sharedVideo :
    property (some room.toDoc) "sharedVideo" = some (nullable Subtype.val room.sharedVideo) := rfl

@[simp] theorem property_playback :
    property (some room.toDoc) "playback" = some (nullable Subtype.val room.playback) := rfl

@[simp] theorem property_version :
    property (some room.toDoc) "version" = some (.num room.version) := rfl

@[simp] theorem property_lastActiveAt :
    property (some room.toDoc) "lastActiveAt" = some (.num room.lastActiveAt) := rfl

@[simp] theorem property_expiresAt :
    property (some room.toDoc) "expiresAt" = some (nullable .num room.expiresAt) := rfl

theorem isUsable_nullable {guard : Option (Doc JsString) → Bool}
    (value : Option {d : Doc JsString // guard (some d) = true}) :
    (isNull (some (nullable Subtype.val value)) || guard (some (nullable Subtype.val value))) = true := by
  cases value with
  | none => rfl
  | some d => simp only [nullable, d.property, Bool.or_true]

theorem narrow_nullable {guard : Option (Doc JsString) → Bool} (unusable : guard (some .null) = false)
    (value : Option {d : Doc JsString // guard (some d) = true}) :
    narrow guard (some (nullable Subtype.val value)) = value := by
  cases value with
  | none => simp [narrow, nullable, unusable]
  | some d => simp [narrow, nullable, d.property]

@[simp] theorem isOptionalNullableString_nullable (value : Option JsString) :
    isOptionalNullableString (some (nullable .str value)) = true := by
  cases value <;> rfl

@[simp] theorem asString_nullable (value : Option JsString) :
    asString (some (nullable .str value)) = value := by
  cases value <;> rfl

@[simp] theorem asNumber_nullable (value : Option Rat) :
    asNumber (some (nullable .num value)) = value := by
  cases value <;> rfl

theorem isFiniteNumber_nullable {σ : Type} (value : Option Rat) :
    (isNull (some (nullable (.num : Rat → Doc σ) value)) ||
      isFiniteNumber (some (nullable (.num : Rat → Doc σ) value))) = true := by
  cases value <;> rfl

theorem isUsableRoom_toDoc (code : RoomCode) :
    isUsableRoom (some room.toDoc) code = true ↔ room.code = code := by
  have integral : isIntegral (some (.num (room.version : Rat) : Doc JsString)) = true := by
    simp [isIntegral]
  have counted : isNonNegative (some (.num (room.version : Rat) : Doc JsString)) = true := by
    simp [isNonNegative]
  have table : isTable (some room.toDoc) = true := rfl
  have string (s : JsString) : isString (some (.str s)) = true := rfl
  have number (q : Rat) : isFiniteNumber (some (.num q : Doc JsString)) = true := rfl
  simp [isUsableRoom, isUsable_nullable, isFiniteNumber_nullable, integral, counted, table, string,
    number, RoomCode.units_injective.eq_iff]

theorem readRoom_toDoc : readRoom (some room.toDoc) room.code = room := by
  have string (s : JsString) : asString (some (.str s)) = some s := rfl
  have number (q : Rat) : asNumber (some (.num q)) = some q := rfl
  have video : narrow isUsableSharedVideo (some (nullable Subtype.val room.sharedVideo)) =
      room.sharedVideo := narrow_nullable rfl _
  have played : narrow isUsablePlayback (some (nullable Subtype.val room.playback)) =
      room.playback := narrow_nullable rfl _
  simp [readRoom, string, number, video, played]

theorem parseRoom_serializeRoom :
    parseRoom (.document (serializeRoom room)) room.code = some room := by
  have usable := (isUsableRoom_toDoc room room.code).mpr rfl
  simp [parseRoom, serializeRoom, parse_stringify, usable, readRoom_toDoc]

/-! What a script makes of a document, where it makes anything of it. -/

variable {whole : Doc JsString} {decoded : Doc Text} {name : String}

section
variable (read : decode (stringify whole) = some decoded)
include read

theorem map_units_of_decode :
    decoded.map Text.units = whole :=
  (parse_of_decode read).symm.trans (parse_stringify whole)

theorem lua_isUsableRoom_eq (code : RoomCode) :
    Lua.isUsableRoom (some decoded) code = isUsableRoom (some whole) code := by
  rw [← isUsableRoom_units, ← map_units_of_decode read]
  rfl

theorem index_of_property {d : Doc JsString} (named : property (some whole) name = some d) :
    ∃ d', Lua.index (some decoded) name = some d' ∧ d'.map Text.units = d := by
  have same : (some decoded).map (Doc.map Text.units) = some whole :=
    congrArg some (map_units_of_decode read)
  rw [← same, property_units] at named
  exact Option.map_eq_some_iff.mp named

theorem index_str {s : JsString} (named : property (some whole) name = some (.str s)) :
    Lua.index (some decoded) name = some (.str s.utf8) := by
  obtain ⟨d, found, units⟩ := index_of_property read named
  cases d with
  | str text =>
    have same : text.units = s := Doc.str.inj units
    rw [found, ← same, utf8_units]
  | _ => cases units

theorem index_nullable {value : Option Rat}
    (named : property (some whole) name = some (nullable .num value)) :
    Lua.index (some decoded) name = some (nullable .num value) := by
  obtain ⟨d, found, units⟩ := index_of_property read named
  rw [found]
  cases value with
  | none =>
    cases d <;> cases units
    rfl
  | some q =>
    cases d <;> cases units
    rfl

end

variable {room}

section
variable (read : decode (serializeRoom room) = some decoded)
include read

theorem lua_isUsableRoom_iff (code : RoomCode) :
    Lua.isUsableRoom (some decoded) code = true ↔ room.code = code := by
  rw [lua_isUsableRoom_eq read]
  exact isUsableRoom_toDoc room code

theorem index_joinToken :
    Lua.index (some decoded) "joinToken" = some (.str room.joinToken.utf8) :=
  index_str read (property_joinToken room)

theorem index_expiresAt :
    Lua.index (some decoded) "expiresAt" = some (nullable .num room.expiresAt) :=
  index_nullable read (property_expiresAt room)

end

end

end BiliSyncPlay.RedisRoomStore
