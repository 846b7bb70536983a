import BiliSyncPlay.Protocol.Primitives
import Mathlib.Data.List.Induction

/-!
# Paths and queries of an address

What the URL standard makes of the text after the origin: blanks at its end and line breaks in it
go, a `#` ends it, the first `?` ends its path, and the query is cut into pairs whose names and
values are decoded. A path is written back as its segments.
-/

namespace BiliSyncPlay.WebAddress

open Json RedisRoomStore Protocol

/-! ## Texts -/

/-- A control or a space. -/
def isBlank (u : CodeUnit) : Bool := decide (u ≤ 0x20)

/-- A tab or a line break. -/
def isRemoved (u : CodeUnit) : Bool := u ∈ [0x09, 0x0A, 0x0D]

def clean (rest : JsString) : JsString := (rest.rdropWhile isBlank).filter (!isRemoved ·)

def beforeHash (text : JsString) : JsString := text.takeWhile (· ≠ char '#')

def pathText (rest : JsString) : JsString := (beforeHash (clean rest)).takeWhile (· ≠ char '?')

def queryText (rest : JsString) : JsString :=
  ((beforeHash (clean rest)).dropWhile (· ≠ char '?')).tail

def isHex (u : CodeUnit) : Bool := isDigit u || within 'a' 'f' u || within 'A' 'F' u

/-- A percent sign with two hexadecimal digits. -/
def hasEscape : JsString → Bool
  | percent :: high :: low :: rest =>
    decide (percent = char '%') && isHex high && isHex low || hasEscape (high :: low :: rest)
  | _ => false

/-- What is documented of the decoding of names and values. -/
structure Decoding (decode : JsString → JsString) : Prop where
  plain : ∀ s, s.WellFormed → hasEscape s = false → char '+' ∉ s → decode s = s
  le : ∀ s, (decode s).length ≤ s.length
  lt : ∀ s, hasEscape s = true → (decode s).length < s.length
  plus : ∀ s, hasEscape s = false → char '+' ∉ decode s

section
variable (decode : JsString → JsString)

def pairOf (piece : JsString) : JsString × JsString :=
  (decode (piece.takeWhile (· ≠ char '=')), decode (piece.dropWhile (· ≠ char '=')).tail)

def pieces (query : JsString) : List JsString := (query.splitOn (char '&')).filter (· ≠ [])

def searchParams (rest : JsString) : List (JsString × JsString) :=
  (pieces (queryText rest)).map (pairOf decode)

end

/-! ## Paths -/

/-- A code unit that stands for itself in a segment of a path. -/
def isSegmentUnit (u : CodeUnit) : Bool :=
  decide (0x21 ≤ u) && decide (u ≤ 0x7E) &&
    decide (u ∉ [char '"', char '#', char '<', char '>', char '?', char '^', 0x60, 0x7B, 0x7D,
      char '/', char '\\'])

def isDotSegment (segment : JsString) : Bool :=
  segment.map foldCase ∈ [js ".", js "%2e", js "..", js ".%2e", js "%2e.", js "%2e%2e"]

def isPlainSegment (segment : JsString) : Bool :=
  segment.all isSegmentUnit && !isDotSegment segment

def serialize (segments : List JsString) : JsString := segments.flatMap (char '/' :: ·)

def NormalPath (path : JsString) : Prop :=
  ∃ segments, path = serialize segments ∧ ∀ segment ∈ segments, isPlainSegment segment = true

/-! ## A value that is read back -/

/-- The value of the first pair of a query that starts with its name. -/
def reread (decode : JsString → JsString) (value : JsString) : JsString :=
  decode ((beforeHash (clean value)).takeWhile (· ≠ char '&'))

/-- A value that stands for itself at the end of an address. -/
def isPlainValue (value : JsString) : Bool :=
  value.all (fun u => !isRemoved u && decide (u ∉ [char '#', char '&', char '+'])) &&
    !hasEscape value && (value.getLast?.all fun u => !isBlank u)

theorem read_sublist (text : JsString) : List.Sublist (beforeHash (clean text)) text :=
  ((List.takeWhile_sublist _).trans List.filter_sublist).trans (List.rdropWhile_prefix ..).sublist

theorem taken_sublist (value : JsString) :
    List.Sublist ((beforeHash (clean value)).takeWhile (· ≠ char '&')) value :=
  (List.takeWhile_sublist _).trans (read_sublist value)

variable {lead piece value : JsString}

theorem taken_of_plain (plain : isPlainValue value = true) :
    clean value = value ∧ beforeHash value = value ∧ value.takeWhile (· ≠ char '&') = value := by
  simp only [isPlainValue, Bool.and_eq_true, List.all_eq_true, Bool.not_eq_true',
    decide_eq_true_eq, List.mem_cons, not_or] at plain
  obtain ⟨⟨units, -⟩, last⟩ := plain
  constructor
  · have ends : value.rdropWhile isBlank = value := by
      rw [List.rdropWhile_eq_self_iff]
      intro filled
      rw [List.getLast?_eq_some_getLast filled] at last
      simpa using last
    rw [clean, ends, List.filter_eq_self]
    intro u mem
    simpa using (units u mem).1
  · constructor
    · apply List.takeWhile_eq_self_iff.mpr
      intro u mem
      exact decide_eq_true (units u mem).2.1
    · apply List.takeWhile_eq_self_iff.mpr
      intro u mem
      exact decide_eq_true (units u mem).2.2.1

/-- What is taken whole has nothing that would cut it or be taken out of it. -/
theorem units_of_taken (whole : (beforeHash (clean value)).takeWhile (· ≠ char '&') = value) :
    (∀ u ∈ value, isRemoved u = false ∧ u ≠ char '#' ∧ u ≠ char '&') ∧
      ∀ u, value.getLast? = some u → isBlank u = false := by
  have taken : List.Sublist value (beforeHash (clean value)) := by
    conv_lhs => rw [← whole]
    exact List.takeWhile_sublist _
  have before : List.Sublist (beforeHash (clean value)) (clean value) := List.takeWhile_sublist _
  have ends : value.rdropWhile isBlank = value :=
    (List.rdropWhile_prefix ..).sublist.eq_of_length_le
      ((taken.trans before).trans List.filter_sublist).length_le
  constructor
  · intro u mem
    have kept := taken.mem mem
    have cut : decide (u ≠ char '&') = true :=
      List.mem_takeWhile_imp (p := fun u => decide (u ≠ char '&')) (whole.symm ▸ mem)
    have unhashed : decide (u ≠ char '#') = true :=
      List.mem_takeWhile_imp (p := fun u => decide (u ≠ char '#')) kept
    have stays := (List.mem_filter.mp (before.mem kept)).2
    exact ⟨by simpa using stays, of_decide_eq_true unhashed, of_decide_eq_true cut⟩
  · intro u last
    have filled : value ≠ [] := by
      rintro rfl
      cases last
    have dark := List.rdropWhile_eq_self_iff.mp ends filled
    rw [List.getLast?_eq_some_getLast filled, Option.some.injEq] at last
    simpa [last] using dark

/-- A value is read back as it was exactly if it is plain. -/
theorem reread_eq_iff {decode : JsString → JsString} (decoding : Decoding decode)
    (wellFormed : value.WellFormed) :
    reread decode value = value ↔ isPlainValue value = true := by
  constructor
  · intro same
    have whole : (beforeHash (clean value)).takeWhile (· ≠ char '&') = value := by
      apply (taken_sublist value).eq_of_length_le
      have le := decoding.le ((beforeHash (clean value)).takeWhile (· ≠ char '&'))
      rw [reread] at same
      rwa [same] at le
    rw [reread, whole] at same
    obtain ⟨units, last⟩ := units_of_taken whole
    have unescaped : hasEscape value = false := by
      by_contra escaped
      have lt := decoding.lt value (by simpa using escaped)
      rw [same] at lt
      exact Nat.lt_irrefl _ lt
    have plus := decoding.plus value unescaped
    rw [same] at plus
    simp only [isPlainValue, Bool.and_eq_true, List.all_eq_true, Bool.not_eq_true',
      decide_eq_true_eq, List.mem_cons, List.not_mem_nil, or_false, not_or]
    refine ⟨⟨?_, unescaped⟩, ?_⟩
    · intro u mem
      obtain ⟨stays, hash, amp⟩ := units u mem
      exact ⟨stays, hash, amp, fun eq => plus (eq ▸ mem)⟩
    · cases ends : value.getLast? with
      | none => rfl
      | some u => simp [last u ends]
  · intro plain
    obtain ⟨cleaned, unhashed, single⟩ := taken_of_plain plain
    rw [reread, cleaned, unhashed, single]
    simp only [isPlainValue, Bool.and_eq_true, List.all_eq_true, Bool.not_eq_true',
      decide_eq_true_eq, List.mem_cons, List.not_mem_nil, or_false, not_or] at plain
    apply decoding.plain value wellFormed plain.1.2
    intro plus
    exact (plain.1.1 _ plus).2.2.2 rfl

/-! ## The pairs of a query -/

/-- A code unit that survives in front of anything. -/
def isDark (u : CodeUnit) : Bool := !isBlank u && !isRemoved u && decide (u ≠ char '#')

theorem clean_append (dark : ∀ u ∈ lead, isDark u = true) (rest : JsString) :
    clean (lead ++ rest) = lead ++ clean rest := by
  simp only [isDark, Bool.and_eq_true, Bool.not_eq_true'] at dark
  have ends : (lead ++ rest).rdropWhile isBlank = lead ++ rest.rdropWhile isBlank := by
    induction rest using List.reverseRecOn with
    | nil =>
      rw [List.append_nil, List.rdropWhile_nil, List.append_nil, List.rdropWhile_eq_self_iff]
      intro filled
      simp [(dark _ (List.getLast_mem filled)).1.1]
    | append_singleton rest u ih =>
      by_cases blank : isBlank u = true
      · rw [← List.append_assoc, List.rdropWhile_concat_pos _ _ _ blank,
          List.rdropWhile_concat_pos _ _ _ blank, ih]
      · rw [← List.append_assoc, List.rdropWhile_concat_neg _ _ _ blank,
          List.rdropWhile_concat_neg _ _ _ blank, List.append_assoc]
  rw [clean, ends, List.filter_append, List.filter_eq_self.mpr]
  · rfl
  · intro u mem
    simp [(dark u mem).1.2]

theorem beforeHash_append (dark : ∀ u ∈ lead, isDark u = true) (rest : JsString) :
    beforeHash (lead ++ rest) = lead ++ beforeHash rest := by
  apply List.takeWhile_append_of_pos
  intro u mem
  have unhashed := dark u mem
  simp only [isDark, Bool.and_eq_true] at unhashed
  exact unhashed.2

section
variable {path : JsString} (dark : ∀ u ∈ path, isDark u = true) (plain : char '?' ∉ path)
include dark plain

theorem pathText_bare : pathText path = path := by
  have cleaned := clean_append dark []
  have cut := beforeHash_append dark []
  simp only [List.append_nil] at cleaned cut
  have last : clean [] = [] ∧ beforeHash [] = [] := ⟨rfl, rfl⟩
  rw [pathText, cleaned, last.1, List.append_nil, cut, last.2, List.append_nil,
    List.takeWhile_eq_self_iff]
  intro u mem
  exact decide_eq_true fun eq => plain (eq ▸ mem)

theorem queryText_bare : queryText path = [] := by
  have cleaned := clean_append dark []
  have cut := beforeHash_append dark []
  simp only [List.append_nil] at cleaned cut
  have last : clean [] = [] ∧ beforeHash [] = [] := ⟨rfl, rfl⟩
  rw [queryText, cleaned, last.1, List.append_nil, cut, last.2, List.append_nil,
    List.dropWhile_eq_nil_iff.mpr]
  · rfl
  · intro u mem
    exact decide_eq_true fun eq => plain (eq ▸ mem)

theorem texts_of_query (query : JsString) :
    pathText (path ++ char '?' :: query) = path ∧
      queryText (path ++ char '?' :: query) = beforeHash (clean query) := by
  have lead : ∀ u ∈ path ++ [char '?'], isDark u = true := by
    intro u mem
    rcases List.mem_append.mp mem with here | mark
    · exact dark u here
    · rw [List.mem_singleton.mp mark]
      decide
  have whole : beforeHash (clean (path ++ char '?' :: query)) =
      path ++ char '?' :: beforeHash (clean query) := by
    have cleaned := clean_append lead query
    have cut := beforeHash_append lead (clean query)
    simp only [List.append_assoc, List.singleton_append] at cleaned cut
    rw [cleaned, cut]
  have apart : ∀ u ∈ path, decide (u ≠ char '?') = true := by
    intro u mem
    exact decide_eq_true fun eq => plain (eq ▸ mem)
  constructor
  · rw [pathText, whole, List.takeWhile_append_of_pos apart]
    simp
  · rw [queryText, whole, List.dropWhile_append_of_pos apart]
    simp

end

theorem splitOn_head (query : JsString) (c : CodeUnit) :
    ∃ others, query.splitOn c = query.takeWhile (· ≠ c) :: others ∧
      (c ∉ query → others = []) := by
  have parts : query.takeWhile (· ≠ c) ++ query.dropWhile (· ≠ c) = query :=
    List.takeWhile_append_dropWhile
  have apart : c ∉ query.takeWhile (· ≠ c) := by
    intro mem
    have other := List.mem_takeWhile_imp (p := fun u => decide (u ≠ c)) mem
    simp at other
  cases rest : query.dropWhile (· ≠ c) with
  | nil =>
    rw [rest, List.append_nil] at parts
    refine ⟨[], ?_, fun _ => rfl⟩
    rw [parts, List.splitOn_eq_singleton (parts ▸ apart)]
  | cons first others =>
    have stop : first = c := by
      have head := List.head?_dropWhile_not (fun u => decide (u ≠ c)) query
      rw [rest] at head
      simpa using head
    rw [rest, stop] at parts
    refine ⟨others.splitOn c, ?_, fun absent => absurd ?_ absent⟩
    · conv_lhs => rw [← parts]
      exact List.splitOn_append_cons_self_of_not_mem apart ..
    · rw [← parts]
      simp

theorem splitOn_length (query : JsString) (c : CodeUnit) :
    ((query.splitOn c).map fun piece => piece.length + 1).sum = query.length + 1 := by
  induction query with
  | nil => simp
  | cons u query ih =>
    rw [List.splitOn_cons_eq_if_modifyHead]
    split
    · simp only [List.map_cons, List.sum_cons, ih, List.length_nil, List.length_cons]
      omega
    · obtain ⟨others, split_, -⟩ := splitOn_head query c
      rw [split_] at ih ⊢
      simp only [List.modifyHead_cons, List.map_cons, List.sum_cons, List.length_cons] at ih ⊢
      omega

theorem wellFormed_js (s : String) : (js s).WellFormed := ⟨ascii s, rfl⟩

/-- The room a list of pieces takes, one code unit beside each. -/
theorem piece_takes {parts : List JsString} (here : piece ∈ parts) :
    (parts.map fun p => p.length + 1).sum =
      piece.length + 1 + ((parts.erase piece).map fun p => p.length + 1).sum := by
  have perm := (List.perm_cons_erase here).map fun p : JsString => p.length + 1
  simpa using perm.sum_eq

theorem piece_fits {query : JsString} {c : CodeUnit} (here : piece ∈ query.splitOn c) :
    piece.length ≤ query.length := by
  have total := splitOn_length query c
  rw [piece_takes here] at total
  omega

/-- Two different pieces leave room for what parts them. -/
theorem two_pieces_fit {query other : JsString} {c : CodeUnit} (here : piece ∈ query.splitOn c)
    (there : other ∈ query.splitOn c) (differ : piece ≠ other) :
    piece.length + other.length + 1 ≤ query.length := by
  have total := splitOn_length query c
  rw [piece_takes here, piece_takes ((List.mem_erase_of_ne (Ne.symm differ)).mpr there)] at total
  omega

theorem mem_searchParams {decode : JsString → JsString} {rest name : JsString}
    (mem : (name, value) ∈ searchParams decode rest) :
    ∃ piece ∈ (queryText rest).splitOn (char '&'), pairOf decode piece = (name, value) := by
  obtain ⟨piece, here, pair⟩ := List.mem_map.mp mem
  exact ⟨piece, (List.mem_filter.mp here).1, pair⟩

section
variable {decode : JsString → JsString} (decoding : Decoding decode)
include decoding

theorem pair_fits {name : JsString} (pair : pairOf decode piece = (name, value))
    (filled : value ≠ []) : name.length + value.length + 1 ≤ piece.length := by
  obtain ⟨rfl, rfl⟩ := Prod.mk.inj pair
  have nameFits := decoding.le (piece.takeWhile (· ≠ char '='))
  have valueFits := decoding.le (piece.dropWhile (· ≠ char '=')).tail
  have whole := congrArg List.length
    (List.takeWhile_append_dropWhile (p := (· ≠ char '=')) (l := piece))
  have some_ := List.length_pos_iff.mpr filled
  rw [List.length_append] at whole
  rw [List.length_tail] at valueFits
  omega

theorem value_fits {rest name : JsString} (mem : (name, value) ∈ searchParams decode rest)
    (filled : value ≠ []) : name.length + value.length + 1 ≤ (queryText rest).length := by
  obtain ⟨piece, here, pair⟩ := mem_searchParams mem
  exact (pair_fits decoding pair filled).trans (piece_fits here)

theorem two_values_fit {rest name name' value' : JsString}
    (mem : (name, value) ∈ searchParams decode rest) (filled : value ≠ [])
    (mem' : (name', value') ∈ searchParams decode rest) (filled' : value' ≠ [])
    (differ : name ≠ name') :
    name.length + value.length + name'.length + value'.length + 3 ≤ (queryText rest).length := by
  obtain ⟨piece, here, pair⟩ := mem_searchParams mem
  obtain ⟨other, there, pair'⟩ := mem_searchParams mem'
  have apart : piece ≠ other := by
    intro same
    rw [same, pair'] at pair
    exact differ (Prod.mk.inj pair).1.symm
  have both := two_pieces_fit here there apart
  have one := pair_fits decoding pair filled
  have two := pair_fits decoding pair' filled'
  omega

end

/-- A code unit of a name that is written as it is. -/
def isNameUnit (u : CodeUnit) : Bool := isDark u && decide (u ∉ [char '=', char '&'])

section
variable {path name : JsString} (dark : ∀ u ∈ path, isDark u = true) (plain : char '?' ∉ path)
  (units : ∀ u ∈ name, isNameUnit u = true)
include dark plain units

theorem queryText_of_name (value : JsString) :
    queryText (path ++ char '?' :: (name ++ char '=' :: value)) =
      name ++ char '=' :: beforeHash (clean value) := by
  have lead : ∀ u ∈ name ++ [char '='], isDark u = true := by
    intro u mem
    rcases List.mem_append.mp mem with here | mark
    · have unit := units u here
      simp only [isNameUnit, Bool.and_eq_true] at unit
      exact unit.1
    · rw [List.mem_singleton.mp mark]
      decide
  have cleaned := clean_append lead value
  have cut := beforeHash_append lead (clean value)
  simp only [List.append_assoc, List.singleton_append] at cleaned cut
  rw [(texts_of_query dark plain _).2, cleaned, cut]

/-- The pairs of a query that starts with a name and its value. -/
theorem searchParams_of_query {decode : JsString → JsString} (named : decode name = name)
    (value : JsString) :
    ∃ others, searchParams decode (path ++ char '?' :: (name ++ char '=' :: value)) =
      (name, reread decode value) :: others ∧ (isPlainValue value = true → others = []) := by
  simp only [isNameUnit, Bool.and_eq_true, decide_eq_true_eq, List.mem_cons, List.not_mem_nil,
    or_false, not_or] at units
  have unequal : ∀ u ∈ name, decide (u ≠ char '=') = true := fun u mem =>
    decide_eq_true (units u mem).2.1
  have unparted : ∀ u ∈ name ++ [char '='], decide (u ≠ char '&') = true := by
    intro u mem
    rcases List.mem_append.mp mem with here | mark
    · exact decide_eq_true (units u here).2.2
    · rw [List.mem_singleton.mp mark]
      decide
  obtain ⟨others, parts, single⟩ :=
    splitOn_head (name ++ char '=' :: beforeHash (clean value)) (char '&')
  have first : (name ++ char '=' :: beforeHash (clean value)).takeWhile (· ≠ char '&') =
      name ++ char '=' :: (beforeHash (clean value)).takeWhile (· ≠ char '&') := by
    have whole : ((name ++ [char '=']) ++ beforeHash (clean value)).takeWhile (· ≠ char '&') =
        (name ++ [char '=']) ++ (beforeHash (clean value)).takeWhile (· ≠ char '&') :=
      List.takeWhile_append_of_pos unparted
    simpa only [List.append_assoc, List.singleton_append] using whole
  have pair : pairOf decode
      (name ++ char '=' :: (beforeHash (clean value)).takeWhile (· ≠ char '&')) =
      (name, reread decode value) := by
    rw [pairOf, List.takeWhile_append_of_pos unequal, List.dropWhile_append_of_pos unequal]
    simp [named, reread]
  refine ⟨(others.filter (· ≠ [])).map (pairOf decode), ?_, ?_⟩
  · rw [searchParams, queryText_of_name dark plain (by simpa [isNameUnit] using units), pieces,
      parts, first, List.filter_cons_of_pos (by simp), List.map_cons, pair]
  · intro isPlain
    obtain ⟨cleaned, unhashed, uncut⟩ := taken_of_plain isPlain
    rw [single, List.filter_nil, List.map_nil]
    rw [cleaned, unhashed]
    intro mem
    rcases List.mem_append.mp mem with here | there
    · exact (units _ here).2.2 rfl
    · rcases List.mem_cons.mp there with mark | inside
      · exact absurd mark (by decide)
      · have kept :=
          List.mem_takeWhile_imp (p := fun u => decide (u ≠ char '&')) (uncut.symm ▸ inside)
        simp at kept

end

/-! ## The segments of a path -/

/-- What stands for itself in a segment neither ends a path nor parts it. -/
theorem dark_of_segmentUnit {u : CodeUnit} (unit : isSegmentUnit u = true) :
    isDark u = true ∧ u ≠ char '?' ∧ u ≠ char '/' := by
  simp only [isSegmentUnit, Bool.and_eq_true, decide_eq_true_eq, List.mem_cons,
    List.not_mem_nil, or_false, not_or] at unit
  obtain ⟨⟨low, -⟩, -, hash, -, -, mark, -, -, -, -, slash, -⟩ := unit
  refine ⟨?_, mark, slash⟩
  have bound : 0x21 ≤ u.toNat := UInt16.le_iff_toNat_le.mp low
  have unblank : ¬ u ≤ 0x20 := by
    intro le
    have := UInt16.le_iff_toNat_le.mp le
    simp at this
    omega
  have stays : u ∉ [0x09, 0x0A, 0x0D] := by
    intro mem
    simp only [List.mem_cons, List.not_mem_nil, or_false] at mem
    rcases mem with rfl | rfl | rfl <;> revert bound <;> decide
  simp [isDark, isBlank, isRemoved, unblank, stays, hash]
  
theorem NormalPath.units {path : JsString} (normal : NormalPath path) :
    ∀ u ∈ path, isDark u = true ∧ u ≠ char '?' := by
  obtain ⟨segments, rfl, plain⟩ := normal
  intro u mem
  obtain ⟨segment, here, inside⟩ := List.mem_flatMap.mp mem
  rcases List.mem_cons.mp inside with slash | unit
  · rw [slash]
    decide
  · have units := plain segment here
    simp only [isPlainSegment, Bool.and_eq_true, List.all_eq_true] at units
    have dark := dark_of_segmentUnit (units.1 u unit)
    exact ⟨dark.1, dark.2.1⟩

theorem slash_not_mem {segment : JsString} (plain : isPlainSegment segment = true) :
    char '/' ∉ segment := by
  simp only [isPlainSegment, Bool.and_eq_true, List.all_eq_true] at plain
  intro mem
  exact (dark_of_segmentUnit (plain.1 _ mem)).2.2 rfl

/-- Without the slashes at its end a path keeps the rest of its segments. -/
theorem NormalPath.withoutTrailingSlashes {path : JsString} (normal : NormalPath path) :
    NormalPath (withoutTrailingSlashes path) := by
  obtain ⟨segments, rfl, plain⟩ := normal
  induction segments using List.reverseRecOn with
  | nil => exact ⟨[], rfl, by simp⟩
  | append_singleton segments segment ih =>
    have others : ∀ s ∈ segments, isPlainSegment s = true := fun s mem =>
      plain s (List.mem_append_left _ mem)
    have last : isPlainSegment segment = true := plain segment (by simp)
    by_cases empty : segment = []
    · subst empty
      have drop : Protocol.withoutTrailingSlashes (serialize (segments ++ [[]])) =
          Protocol.withoutTrailingSlashes (serialize segments) := by
        simp [Protocol.withoutTrailingSlashes, serialize]
      rw [drop]
      exact ih others
    · refine ⟨segments ++ [segment], ?_, plain⟩
      have filled : serialize (segments ++ [segment]) =
          (serialize segments ++ char '/' :: segment.dropLast) ++ [segment.getLast empty] := by
        simp [serialize, List.dropLast_append_getLast]
      rw [Protocol.withoutTrailingSlashes, filled, List.rdropWhile_concat_neg]
      simp only [decide_eq_true_eq]
      intro slash
      exact slash_not_mem last (slash ▸ List.getLast_mem empty)

theorem intercalate_eq_serialize (first : JsString) (segments : List JsString) :
    List.intercalate [char '/'] (first :: segments) = first ++ serialize segments := by
  induction segments generalizing first with
  | nil => simp [serialize]
  | cons segment segments ih =>
    rw [List.intercalate_cons_cons, ih]
    simp [serialize]

/-- `NormalPath`, computed. -/
def isNormalPath (path : JsString) : Bool :=
  match path.splitOn (char '/') with
  | [] :: segments => segments.all isPlainSegment
  | _ => false

theorem isNormalPath_iff (path : JsString) : isNormalPath path = true ↔ NormalPath path := by
  constructor
  · intro normal
    have whole : [char '/'].intercalate (path.splitOn (char '/')) = path :=
      List.intercalate_splitOn _
    rw [isNormalPath] at normal
    split at normal
    · next segments parts =>
      rw [parts, intercalate_eq_serialize, List.nil_append] at whole
      exact ⟨segments, whole.symm, List.all_eq_true.mp normal⟩
    · cases normal
  · rintro ⟨segments, rfl, plain⟩
    have parts : (serialize segments).splitOn (char '/') = [] :: segments := by
      have cut : ([char '/'].intercalate ([] :: segments)).splitOn (char '/') = [] :: segments :=
        List.splitOn_intercalate _ (by simpa using fun s mem => slash_not_mem (plain s mem))
          (by simp)
      rwa [intercalate_eq_serialize, List.nil_append] at cut
    rw [isNormalPath, parts]
    exact List.all_eq_true.mpr plain

theorem part_unique {lead' part part' : JsString} {c : CodeUnit} (absent : c ∉ part)
    (absent' : c ∉ part') (same : lead ++ c :: part = lead' ++ c :: part') : part = part' := by
  rcases List.append_eq_append_iff.mp same with ⟨between, -, rest⟩ | ⟨between, -, rest⟩
  · cases between with
    | nil => simpa using rest
    | cons u between =>
      simp only [List.cons_append, List.cons.injEq] at rest
      exact absurd (by simp [rest.2]) absent
  · cases between with
    | nil => simpa using rest.symm
    | cons u between =>
      simp only [List.cons_append, List.cons.injEq] at rest
      exact absurd (by simp [rest.2]) absent'

/-- The last part of a path is a segment of it. -/
theorem NormalPath.last {part : JsString} (normal : NormalPath (lead ++ char '/' :: part))
    (whole : char '/' ∉ part) : isPlainSegment part = true := by
  obtain ⟨segments, same, plain⟩ := normal
  induction segments using List.reverseRecOn with
  | nil => simp [serialize] at same
  | append_singleton segments segment ih =>
    have last : isPlainSegment segment = true := plain segment (by simp)
    have parts : lead ++ char '/' :: part = serialize segments ++ char '/' :: segment := by
      simpa [serialize] using same
    rw [part_unique whole (slash_not_mem last) parts]
    exact last

end BiliSyncPlay.WebAddress
