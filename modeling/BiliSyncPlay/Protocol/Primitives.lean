import BiliSyncPlay.Rooms.Body
import Mathlib.Data.List.DropRight

/-!
# What the guards ask of one value

The patterns of `guards/primitives.ts`, and the video a page address names. `new URL` is the
platform's: `URL` answers the parts the protocol reads of an address, or nothing where the
constructor throws.
-/

namespace BiliSyncPlay.Protocol

open Json RedisRoomStore

/-- An `unknown`; nothing where the field is `undefined`. -/
abbrev Unknown := Option (Doc JsString)

/-! ## Code units -/

def char (c : Char) : CodeUnit := c.val.toUInt16

def within (low high : Char) (u : CodeUnit) : Bool :=
  decide (char low ≤ u) && decide (u ≤ char high)

def isDigit : CodeUnit → Bool := within '0' '9'

def isUpper : CodeUnit → Bool := within 'A' 'Z'

/-- The letters of a pattern that takes them in either case. -/
def foldCase (u : CodeUnit) : CodeUnit := if isUpper u then u + 32 else u

def isAlphanumeric (u : CodeUnit) : Bool := isDigit u || isUpper u || within 'a' 'z' u

/-- What `String.prototype.trim` takes off: the white space and the line ends of the language. -/
def isWhiteSpace (u : CodeUnit) : Bool :=
  u ∈ [0x09, 0x0A, 0x0B, 0x0C, 0x0D, 0x20, 0xA0, 0x1680, 0x2028, 0x2029, 0x202F, 0x205F, 0x3000,
    0xFEFF] || decide (0x2000 ≤ u) && decide (u ≤ 0x200A)

def trim (s : JsString) : JsString := (s.dropWhile isWhiteSpace).rdropWhile isWhiteSpace

theorem trim_trim (s : JsString) : trim (trim s) = trim s := by
  have led : (trim s).dropWhile isWhiteSpace = trim s := by
    rw [List.dropWhile_eq_self_iff]
    intro nonempty
    have start : trim s <+: s.dropWhile isWhiteSpace := List.rdropWhile_prefix ..
    have longer := lt_of_lt_of_le nonempty start.length_le
    rw [start.getElem nonempty]
    exact List.dropWhile_get_zero_not _ _ longer
  rw [trim, led]
  exact List.rdropWhile_idempotent ..

theorem white_of_trim {s : JsString} (blank : trim s = []) : ∀ u ∈ s, isWhiteSpace u = true := by
  have rest := List.rdropWhile_eq_nil_iff.mp blank
  cases kept : s.dropWhile isWhiteSpace with
  | nil => exact List.dropWhile_eq_nil_iff.mp kept
  | cons first others =>
    have white : isWhiteSpace first = true := rest first (by simp [kept])
    have dark := List.head?_dropWhile_not isWhiteSpace s
    rw [kept] at dark
    exact absurd (white.symm.trans dark) (by decide)

theorem length_utf8 (s : JsString) : s.utf8.units.length = s.length := by
  have length : s.length = (quote s).units.length := by rw [units_quote]
  rw [length, JsString.utf8]
  generalize quote s = l
  induction l with
  | nil => rfl
  | cons piece rest ih => cases piece <;> simp [Piece.units, Scalar.units, ih]

/-! ## Primitives -/

def isRecord : Unknown → Bool := isTable

def isOptionalString (value : Unknown) : Bool := value.isNone || isString value

def asInteger : Unknown → Option Int
  | some (.num q) => if q.den = 1 then some q.num else none
  | _ => none

def isOptionalPositiveInteger (value : Unknown) : Bool :=
  value.isNone || (asInteger value).any (1 ≤ ·)

def isOptionalNonNegativeInteger (value : Unknown) : Bool :=
  value.isNone || (asInteger value).any (0 ≤ ·)

/-- A string with a property. -/
def holds (test : JsString → Bool) (value : Unknown) : Bool := (asString value).any test

def isBoundedString (value : Unknown) (maxLength : Nat) : Bool := holds (·.length ≤ maxLength) value

def isRoomCode : Unknown → Bool :=
  holds fun s => s.length = 6 && s.all fun u => isUpper u || isDigit u

def isActorName : JsString → Bool
  | [] => false
  | first :: rest => isAlphanumeric first && decide (rest.length ≤ 63) &&
      rest.all fun u => isAlphanumeric u || u ∈ [char ':', char '_', char '-']

def isActorId : Unknown → Bool := holds isActorName

def isToken : Unknown → Bool := holds fun s => 16 ≤ s.length && s.length ≤ 128

/-- `\d+`. -/
def isDigits (s : JsString) : Bool := !s.isEmpty && s.all isDigit

/-- `[1-9]\d*`. -/
def isCounter : JsString → Bool
  | [] => false
  | first :: rest => within '1' '9' first && rest.all isDigit

/-- `BV[0-9A-Za-z]+`, or `(?:av|ep|ss)\d+`. -/
def isVideoName (s : JsString) : Bool :=
  let (kind, rest) := s.splitAt 2
  kind = js "BV" && !rest.isEmpty && rest.all isAlphanumeric ||
    kind ∈ [js "av", js "ep", js "ss"] && isDigits rest

/-- `VIDEO_ID_PATTERN`: a colon ends the name, and a part or a page follows it. -/
def isVideoId : Unknown → Bool := holds fun s =>
  isVideoName (s.takeWhile (· ≠ char ':')) &&
    match s.dropWhile (· ≠ char ':') with
    | [] => true
    | _ :: part => if part.head? = some (char 'p') then isCounter part.tail else isCounter part

def isPlaybackPlayState (value : Unknown) : Bool :=
  equals value "playing" || equals value "paused" || equals value "buffering"

def isPlaybackSyncIntent (value : Unknown) : Bool :=
  equals value "explicit-seek" || equals value "explicit-ratechange"

/-! ## Addresses -/

structure Url where
  origin : JsString
  hostname : JsString
  pathname : JsString
  /-- The pairs of the query, decoded, as they stand. -/
  searchParams : List (JsString × JsString)
  deriving DecidableEq

/-- `searchParams.get`, an empty value with no value: the code reads them alike. -/
def Url.get (url : Url) (name : String) : Option JsString :=
  ((url.searchParams.find? fun pair => pair.1 = js name).map Prod.snd).filter (· ≠ [])

structure BilibiliVideoRef where
  videoId : JsString
  normalizedUrl : JsString
  deriving DecidableEq

inductive PathKind where
  | video | bangumi | festival | medialist
  deriving DecidableEq

/-- `[^/?]+`. -/
def isSegment (s : JsString) : Bool := !s.isEmpty && s.all fun u => u ∉ [char '/', char '?']

def segmentAfter (lead : String) (path : JsString) : Option JsString :=
  ((js lead).isPrefixOf? path).filter isSegment

/-- `^(?:watchlater|ml\d+|\d+)$`. -/
def isMediaListSegment (s : JsString) : Bool :=
  s = js "watchlater" || ((js "ml").isPrefixOf? s).any isDigits || isDigits s

def withoutTrailingSlashes (path : JsString) : JsString := path.rdropWhile (· = char '/')

def parseSupportedBilibiliPath (pathname : JsString) : Option (PathKind × JsString) :=
  let normalizedPath := withoutTrailingSlashes pathname
  match segmentAfter "/video/" normalizedPath with
  | some id => some (.video, id)
  | none =>
    match segmentAfter "/bangumi/play/" normalizedPath with
    | some id => some (.bangumi, id)
    | none =>
      if (segmentAfter "/festival/" normalizedPath).isSome then some (.festival, normalizedPath)
      else if ((segmentAfter "/list/" normalizedPath).or
          (segmentAfter "/medialist/play/" normalizedPath)).any isMediaListSegment then
        some (.medialist, normalizedPath)
      else none

theorem isPrefixOf?_eq_some_iff {lead path rest : JsString} :
    lead.isPrefixOf? path = some rest ↔ path = lead ++ rest := by
  induction lead generalizing path with
  | nil => simp [List.isPrefixOf?]
  | cons u lead ih =>
    cases path with
    | nil => simp [List.isPrefixOf?]
    | cons v path =>
      by_cases same : u = v
      · subst same
        simp [List.isPrefixOf?, ih]
      · simp [List.isPrefixOf?, same, Ne.symm same]

theorem segmentAfter_eq_some_iff {lead : String} {path id : JsString} :
    segmentAfter lead path = some id ↔ path = js lead ++ id ∧ isSegment id = true := by
  rw [segmentAfter, Option.filter_eq_some_iff, isPrefixOf?_eq_some_iff]

/-- What the path of each kind of page is made of. -/
theorem path_of_kind {pathname id : JsString} {kind : PathKind}
    (path : parseSupportedBilibiliPath pathname = some (kind, id)) :
    match kind with
    | .video => withoutTrailingSlashes pathname = js "/video/" ++ id ∧ isSegment id = true
    | .bangumi => withoutTrailingSlashes pathname = js "/bangumi/play/" ++ id
    | .festival | .medialist => withoutTrailingSlashes pathname = id := by
  simp only [parseSupportedBilibiliPath] at path
  split at path
  · next after =>
    cases Option.some.inj path
    exact segmentAfter_eq_some_iff.mp after
  · split at path
    · next after =>
      cases Option.some.inj path
      exact (segmentAfter_eq_some_iff.mp after).1
    · split at path
      · cases Option.some.inj path
        rfl
      · split at path
        · cases Option.some.inj path
          rfl
        · cases path

section
variable (URL : JsString → Option Url)

/-- The id of an entry: its part where one is named, else its page. -/
def videoIdOf (id : JsString) (cid p : Option JsString) : JsString :=
  match cid, p with
  | some cid, _ => id ++ js ":" ++ cid
  | none, some p => id ++ js ":p" ++ p
  | none, none => id

def normalizedUrlOf (base : JsString) (cid p : Option JsString) : JsString :=
  match cid, p with
  | some cid, _ => base ++ js "?cid=" ++ cid
  | none, some p => base ++ js "?p=" ++ p
  | none, none => base

def parseBilibiliVideoRef (url : JsString) : Option BilibiliVideoRef := do
  let parsed ← if url = [] then none else URL url
  if parsed.hostname ≠ js "www.bilibili.com" then none
  let (kind, id) ← parseSupportedBilibiliPath parsed.pathname
  let p := parsed.get "p"
  match kind, parsed.get "bvid" with
  | .festival, some bvid | .medialist, some bvid =>
    let cid := parsed.get "cid"
    some {
      videoId := videoIdOf bvid cid p
      normalizedUrl := normalizedUrlOf (js "https://www.bilibili.com/video/" ++ bvid) cid p }
  | .medialist, none => none
  | _, _ =>
    let cid := if kind = .video then parsed.get "cid" else none
    let basePath := parsed.origin ++ withoutTrailingSlashes parsed.pathname
    some { videoId := videoIdOf id cid p, normalizedUrl := normalizedUrlOf basePath cid p }

def normalizeBilibiliUrl (url : JsString) : Option JsString :=
  (parseBilibiliVideoRef URL url).map BilibiliVideoRef.normalizedUrl

def isBilibiliUrl : Unknown → Bool := holds fun url => (parseBilibiliVideoRef URL url).isSome

end

end BiliSyncPlay.Protocol
