import BiliSyncPlay.Protocol.Primitives

/-!
# Addresses

`isIP` of `node:net`, and the one form an address has everywhere: without brackets, and in IPv4
where it is mapped.
-/

namespace BiliSyncPlay.Admission

open Json RedisRoomStore Protocol

/-! ## `isIP` -/

def isHexDigit (u : CodeUnit) : Bool := isDigit u || within 'a' 'f' u || within 'A' 'F' u

/-- `25[0-5]|2[0-4]\d|1\d\d|[1-9]\d|\d`. -/
def isV4Segment : JsString → Bool
  | [unit] => isDigit unit
  | [ten, unit] => within '1' '9' ten && isDigit unit
  | [hundred, ten, unit] =>
    hundred = char '1' && isDigit ten && isDigit unit ||
      hundred = char '2' &&
        (within '0' '4' ten && isDigit unit || ten = char '5' && within '0' '5' unit)
  | _ => false

def isIPv4 (s : JsString) : Bool :=
  let segments := s.splitOn (char '.')
  segments.length = 4 && segments.all isV4Segment

def isV6Segment (s : JsString) : Bool := 1 ≤ s.length && s.length ≤ 4 && s.all isHexDigit

/-- How many of the eight groups the text spells out; an IPv4 address at its end spells two. -/
def groupCount (endsAddress : Bool) (s : JsString) : Option Nat :=
  let groups := s.splitOn (char ':')
  if s = [] then some 0
  else if groups.all isV6Segment then some groups.length
  else if endsAddress && groups.dropLast.all isV6Segment && isIPv4 (groups.getLastD []) then
    some (groups.length + 1)
  else none

/-- The two sides of the first `::`. -/
def splitAtGap : JsString → Option (JsString × JsString)
  | first :: second :: rest =>
    if first = char ':' ∧ second = char ':' then some ([], rest)
    else (splitAtGap (second :: rest)).map fun (left, right) => (first :: left, right)
  | _ => none

def isV6Groups (s : JsString) : Bool :=
  match splitAtGap s with
  | none => groupCount true s = some 8
  | some (left, right) =>
    match groupCount false left, groupCount true right with
    | some before, some after => before + after ≤ 7
    | _, _ => false

def isZoneUnit (u : CodeUnit) : Bool := isAlphanumeric u || u ∈ [char '-', char '.', char ':']

def isIPv6 (s : JsString) : Bool :=
  isV6Groups (s.takeWhile (· ≠ char '%')) &&
    match s.dropWhile (· ≠ char '%') with
    | [] => true
    | _ :: zone => !zone.isEmpty && zone.all isZoneUnit

def isIP (s : JsString) : Nat := if isIPv4 s then 4 else if isIPv6 s then 6 else 0

/-! ## The form of an address -/

def toLower (u : CodeUnit) : CodeUnit := if isUpper u then u + 32 else u

/-- `/^::ffff:(\d+\.\d+\.\d+\.\d+)$/i`, and what it captures. -/
def mappedIpv4 (s : JsString) : Option JsString :=
  let (head, rest) := s.splitAt 7
  let numbers := rest.splitOn (char '.')
  if head.map toLower = js "::ffff:" ∧ numbers.length = 4 ∧ numbers.all isDigits then some rest
  else none

def startsAndEnds (first last : Char) (s : JsString) : Bool :=
  s.head? = some (char first) && s.getLast? = some (char last)

def normalizeIpAddress (value : JsString) : Option JsString :=
  let trimmed := Protocol.trim value
  if trimmed = [] then none
  else
    let unwrapped := if startsAndEnds '[' ']' trimmed then trimmed.tail.dropLast else trimmed
    if isIP unwrapped = 0 then none
    else
      match (mappedIpv4 unwrapped).filter (isIP · = 4) with
      | some ipv4 => some ipv4
      | none => some unwrapped

example : normalizeIpAddress (js " [::FFFF:203.0.113.10] ") = some (js "203.0.113.10") := by
  decide +kernel

example : isIP (js "1:2:3:4:5:6:7::") = 6 ∧ isIP (js "1:2:3:4:5:6::1.2.3.4") = 0 ∧
    isIP (js "fe80::1%eth0") = 6 ∧ isIP (js "1.2.3.04") = 0 := by
  decide +kernel

/-! ## Lists of addresses -/

def valid (entry : JsString) : Bool := (normalizeIpAddress entry).isSome

/-- The entries of an `X-Forwarded-For` header. -/
def entries (forwarded : JsString) : List JsString :=
  (forwarded.splitOn (char ',')).map Protocol.trim

def parseForwardedChain (forwarded : JsString) : Option (List JsString) :=
  let parts := entries forwarded
  if parts.length = 0 ∨ parts.any (·.length = 0) then none
  else
    let addresses := parts.map normalizeIpAddress
    if addresses.any (· = none) then none else some (addresses.filterMap id)

theorem valid_ne_nil {entry : JsString} (ok : valid entry = true) : entry ≠ [] := by
  rintro rfl
  cases ok

/-- A chain is read whole, or not at all. -/
theorem parseForwardedChain_eq (forwarded : JsString) :
    parseForwardedChain forwarded =
      if (entries forwarded).all valid then some ((entries forwarded).filterMap normalizeIpAddress)
      else none := by
  have nonempty : entries forwarded ≠ [] := by
    intro none
    exact List.splitOn_ne_nil (char ',') forwarded (List.map_eq_nil_iff.mp none)
  by_cases ok : (entries forwarded).all valid
  · have whole : ∀ entry ∈ entries forwarded, valid entry = true := List.all_eq_true.mp ok
    have filled : ¬ ((entries forwarded).length = 0 ∨
        (entries forwarded).any (·.length = 0) = true) := by
      rintro (none | hole)
      · exact nonempty (List.length_eq_zero_iff.mp none)
      · obtain ⟨entry, mem, empty⟩ := List.any_eq_true.mp hole
        exact valid_ne_nil (whole entry mem) (List.length_eq_zero_iff.mp (of_decide_eq_true empty))
    have read : ¬ ((entries forwarded).map normalizeIpAddress).any (· = none) = true := by
      intro failed
      obtain ⟨address, mem, absent⟩ := List.any_eq_true.mp failed
      obtain ⟨entry, listed, rfl⟩ := List.mem_map.mp mem
      have here := whole entry listed
      rw [valid, of_decide_eq_true absent] at here
      cases here
    rw [parseForwardedChain, if_pos ok, if_neg filled, if_neg read, List.filterMap_map]
    rfl
  · rw [if_neg ok, parseForwardedChain]
    split
    · rfl
    · have failed : ((entries forwarded).map normalizeIpAddress).any (· = none) = true := by
        rw [List.all_eq_true] at ok
        push Not at ok
        obtain ⟨entry, listed, bad⟩ := ok
        apply List.any_eq_true.mpr
        refine ⟨normalizeIpAddress entry, List.mem_map_of_mem listed, ?_⟩
        simpa [valid] using bad
      rw [if_pos failed]

end BiliSyncPlay.Admission
