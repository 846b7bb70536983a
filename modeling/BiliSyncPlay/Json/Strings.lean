import Mathlib.Data.List.Lex
import Mathlib.Data.Nat.Basic
import Mathlib.Order.Nat

/-!
# The strings of a JSON text

A string of JavaScript is any sequence of UTF-16 code units, a string that UTF-8 can carry is a
sequence of Unicode scalar values. A JSON string literal stands between the two: it spells a
scalar value as itself, and a code unit that belongs to none as an escape.
-/

namespace Json

abbrev CodeUnit := UInt16

def CodeUnit.IsHigh (u : CodeUnit) : Prop := 0xD800 ≤ u ∧ u < 0xDC00

def CodeUnit.IsLow (u : CodeUnit) : Prop := 0xDC00 ≤ u ∧ u < 0xE000

def CodeUnit.IsSurrogate (u : CodeUnit) : Prop := 0xD800 ≤ u ∧ u < 0xE000

instance : DecidablePred CodeUnit.IsHigh := fun u =>
  inferInstanceAs (Decidable (0xD800 ≤ u ∧ u < 0xDC00))

instance : DecidablePred CodeUnit.IsLow := fun u =>
  inferInstanceAs (Decidable (0xDC00 ≤ u ∧ u < 0xE000))

instance : DecidablePred CodeUnit.IsSurrogate := fun u =>
  inferInstanceAs (Decidable (0xD800 ≤ u ∧ u < 0xE000))

theorem CodeUnit.IsHigh.isSurrogate {u : CodeUnit} (h : u.IsHigh) : u.IsSurrogate :=
  ⟨h.1, UInt16.lt_trans h.2 (by decide)⟩

/-- A Unicode scalar value, by the code units that spell it in UTF-16. -/
inductive Scalar where
  | unit (u : CodeUnit) (plain : ¬ u.IsSurrogate)
  | pair (high low : CodeUnit) (isHigh : high.IsHigh) (isLow : low.IsLow)
  deriving DecidableEq

def Scalar.units : Scalar → List CodeUnit
  | .unit u _ => [u]
  | .pair high low _ _ => [high, low]

def Scalar.codePoint : Scalar → Nat
  | .unit u _ => u.toNat
  | .pair high low _ _ => (high.toNat - 0xD7C0) * 0x400 + (low.toNat - 0xDC00)

theorem Scalar.codePoint_injective : Function.Injective Scalar.codePoint := by
  have bounds {high low : CodeUnit} (isHigh : high.IsHigh) (isLow : low.IsLow) :
      0xD800 ≤ high.toNat ∧ high.toNat < 0xDC00 ∧ 0xDC00 ≤ low.toNat ∧ low.toNat < 0xE000 :=
    ⟨UInt16.le_iff_toNat_le.mp isHigh.1, UInt16.lt_iff_toNat_lt.mp isHigh.2,
      UInt16.le_iff_toNat_le.mp isLow.1, UInt16.lt_iff_toNat_lt.mp isLow.2⟩
  rintro (⟨u, plain⟩ | ⟨h, l, isHigh, isLow⟩) (⟨u', plain'⟩ | ⟨h', l', isHigh', isLow'⟩) same
  · obtain rfl : u = u' := UInt16.toNat_inj.mp same
    rfl
  · have small : u.toNat < 0x10000 := u.toNat_lt
    have range := bounds isHigh' isLow'
    change u.toNat = (h'.toNat - 0xD7C0) * 0x400 + (l'.toNat - 0xDC00) at same
    omega
  · have small : u'.toNat < 0x10000 := u'.toNat_lt
    have range := bounds isHigh isLow
    change (h.toNat - 0xD7C0) * 0x400 + (l.toNat - 0xDC00) = u'.toNat at same
    omega
  · have range := bounds isHigh isLow
    have range' := bounds isHigh' isLow'
    change (h.toNat - 0xD7C0) * 0x400 + (l.toNat - 0xDC00) =
      (h'.toNat - 0xD7C0) * 0x400 + (l'.toNat - 0xDC00) at same
    obtain rfl : h = h' := UInt16.toNat_inj.mp (by omega)
    obtain rfl : l = l' := UInt16.toNat_inj.mp (by omega)
    rfl

/-- The order of code points is the order of their bytes in UTF-8. -/
instance : LinearOrder Scalar := LinearOrder.lift' Scalar.codePoint Scalar.codePoint_injective

abbrev JsString := List CodeUnit

instance : LawfulBEq JsString := inferInstance

/-- What UTF-8 can carry. -/
abbrev Text := List Scalar

def Text.units (t : Text) : JsString := t.flatMap Scalar.units

@[simp] theorem Text.units_nil : Text.units [] = [] := rfl

@[simp] theorem Text.units_cons (c : Scalar) (t : Text) :
    Text.units (c :: t) = c.units ++ Text.units t := rfl

def JsString.WellFormed (s : JsString) : Prop := ∃ t : Text, t.units = s

/-- The text of a literal of the source, which is ASCII. -/
def ascii (s : String) : Text :=
  s.toList.filterMap fun c =>
    if plain : ¬ CodeUnit.IsSurrogate c.val.toUInt16 then some (.unit _ plain) else none

inductive Piece where
  | scalar (c : Scalar)
  /-- `\uXXXX`. -/
  | escape (u : CodeUnit)
  deriving DecidableEq

def Piece.units : Piece → List CodeUnit
  | .scalar c => c.units
  | .escape u => [u]

abbrev Literal := List Piece

/-- The string a JavaScript reader makes of a literal. -/
def Literal.units (l : Literal) : JsString := l.flatMap Piece.units

@[simp] theorem Literal.units_nil : Literal.units [] = [] := rfl

@[simp] theorem Literal.units_cons (p : Piece) (l : Literal) :
    Literal.units (p :: l) = p.units ++ Literal.units l := rfl

/-- A code unit on its own. -/
def spell (u : CodeUnit) : Piece :=
  if plain : ¬ u.IsSurrogate then .scalar (.unit u plain) else .escape u

@[simp] theorem units_spell (u : CodeUnit) : (spell u).units = [u] := by
  unfold spell
  split <;> rfl

/-- The literal a JavaScript writer spells a string with. -/
def quote : JsString → Literal
  | [] => []
  | [u] => [spell u]
  | u :: v :: rest =>
    if h : u.IsHigh ∧ v.IsLow then .scalar (.pair u v h.1 h.2) :: quote rest
    else spell u :: quote (v :: rest)

@[simp] theorem units_quote (s : JsString) : (quote s).units = s := by
  fun_induction quote s with
  | case1 => rfl
  | case2 u => simp
  | case3 u v rest h ih => simp [Piece.units, Scalar.units, ih]
  | case4 u v rest h ih => simp [ih]

theorem quote_plain {u : CodeUnit} (plain : ¬ u.IsSurrogate) (s : JsString) :
    quote (u :: s) = .scalar (.unit u plain) :: quote s := by
  have spelt : spell u = .scalar (.unit u plain) := dif_pos plain
  cases s with
  | nil => simp [quote, spelt]
  | cons v rest =>
    have single : ¬ (u.IsHigh ∧ v.IsLow) := fun h => plain h.1.isSurrogate
    rw [quote, dif_neg single, spelt]

theorem quote_units (t : Text) : quote t.units = t.map Piece.scalar := by
  induction t with
  | nil => rfl
  | cons c rest ih =>
    cases c with
    | unit u plain =>
      have first : Text.units (.unit u plain :: rest) = u :: Text.units rest := rfl
      rw [first, quote_plain plain, ih]
      rfl
    | pair high low isHigh isLow =>
      have first : Text.units (.pair high low isHigh isLow :: rest) =
          high :: low :: Text.units rest := rfl
      rw [first, quote, dif_pos ⟨isHigh, isLow⟩, ih]
      rfl

/-- The text a reader whose strings are UTF-8 makes of a literal. It takes two escapes for one
scalar value where they pair up, and has nothing to make of one that stays unpaired. -/
def Literal.decode : Literal → Option Text
  | [] => some []
  | .scalar c :: rest => (decode rest).map (c :: ·)
  | [.escape u] => if plain : ¬ u.IsSurrogate then some [.unit u plain] else none
  | .escape u :: .scalar c :: rest =>
    if plain : ¬ u.IsSurrogate then (decode rest).map (.unit u plain :: c :: ·) else none
  | .escape u :: .escape v :: rest =>
    if h : u.IsHigh ∧ v.IsLow then (decode rest).map (.pair u v h.1 h.2 :: ·)
    else if plain : ¬ u.IsSurrogate then (decode (.escape v :: rest)).map (.unit u plain :: ·)
    else none

/-- The two readers agree on what they both read. -/
theorem units_of_decode {l : Literal} {t : Text} (h : l.decode = some t) : t.units = l.units := by
  fun_induction Literal.decode l generalizing t with
  | case1 => cases h; rfl
  | case2 c rest ih =>
    obtain ⟨t', decoded, rfl⟩ := Option.map_eq_some_iff.mp h
    simp [Piece.units, ih decoded]
  | case3 u plain => cases h; rfl
  | case4 => cases h
  | case5 u c rest plain ih =>
    obtain ⟨t', decoded, rfl⟩ := Option.map_eq_some_iff.mp h
    simp [Piece.units, Scalar.units, ih decoded]
  | case6 => cases h
  | case7 u v rest paired ih =>
    obtain ⟨t', decoded, rfl⟩ := Option.map_eq_some_iff.mp h
    simp [Piece.units, Scalar.units, ih decoded]
  | case8 u v rest single plain ih =>
    obtain ⟨t', decoded, rfl⟩ := Option.map_eq_some_iff.mp h
    simp [Piece.units, Scalar.units, ih decoded]
  | case9 => cases h

theorem decode_scalars (t : Text) : Literal.decode (t.map Piece.scalar) = some t := by
  induction t with
  | nil => rfl
  | cons c rest ih => simp [Literal.decode, ih]

theorem decode_quote_units (t : Text) : (quote t.units).decode = some t := by
  rw [quote_units, decode_scalars]

theorem units_injective : Function.Injective Text.units := by
  intro t t' same
  have decoded := decode_quote_units t
  rw [same, decode_quote_units] at decoded
  exact (Option.some.inj decoded).symm

/-- A UTF-8 reader takes what a JavaScript writer wrote exactly where no surrogate is unpaired. -/
theorem isSome_decode_quote (s : JsString) : (quote s).decode.isSome ↔ s.WellFormed := by
  constructor
  · intro h
    obtain ⟨t, decoded⟩ := Option.isSome_iff_exists.mp h
    exact ⟨t, by rw [units_of_decode decoded, units_quote]⟩
  · rintro ⟨t, rfl⟩
    rw [decode_quote_units]
    rfl

/-- Sent as UTF-8, an unpaired surrogate becomes U+FFFD. -/
def JsString.utf8 (s : JsString) : Text :=
  (quote s).map fun
    | .scalar c => c
    | .escape _ => .unit 0xFFFD (by decide)

@[simp] theorem utf8_units (t : Text) : JsString.utf8 t.units = t := by
  simp [JsString.utf8, quote_units, Function.comp_def]

theorem JsString.WellFormed.units_utf8 {s : JsString} (h : s.WellFormed) : s.utf8.units = s := by
  obtain ⟨t, rfl⟩ := h
  rw [utf8_units]

end Json
