import BiliSyncPlay.Json.Strings
import Mathlib.Data.Rat.Defs

/-!
# JSON documents

One tree for the three things a document is: a text, whose strings are literals; the value
JavaScript holds, whose strings are sequences of code units; and the value a UTF-8 reader holds.
Layout and the spelling of numbers are left out.
-/

namespace Json

mutual
inductive Doc (σ : Type) where
  | null
  | bool (b : Bool)
  | num (q : Rat)
  | str (s : σ)
  | arr (items : Items σ)
  | obj (fields : Fields σ)

inductive Items (σ : Type) where
  | nil
  | cons (item : Doc σ) (rest : Items σ)

inductive Fields (σ : Type) where
  | nil
  | cons (name : σ) (value : Doc σ) (rest : Fields σ)
end

deriving instance DecidableEq for Doc, Items, Fields

variable {σ τ υ : Type}

mutual
def Doc.map (f : σ → τ) : Doc σ → Doc τ
  | .null => .null
  | .bool b => .bool b
  | .num q => .num q
  | .str s => .str (f s)
  | .arr items => .arr (items.map f)
  | .obj fields => .obj (fields.map f)

def Items.map (f : σ → τ) : Items σ → Items τ
  | .nil => .nil
  | .cons item rest => .cons (item.map f) (rest.map f)

def Fields.map (f : σ → τ) : Fields σ → Fields τ
  | .nil => .nil
  | .cons name value rest => .cons (f name) (value.map f) (rest.map f)
end

mutual
/-- Every string of a document, the names of its fields with them. -/
def Doc.strings : Doc σ → List σ
  | .str s => [s]
  | .arr items => items.strings
  | .obj fields => fields.strings
  | _ => []

def Items.strings : Items σ → List σ
  | .nil => []
  | .cons item rest => item.strings ++ rest.strings

def Fields.strings : Fields σ → List σ
  | .nil => []
  | .cons name value rest => name :: (value.strings ++ rest.strings)
end

mutual
theorem Doc.map_congr {f g : σ → τ} :
    ∀ {d : Doc σ}, (∀ s ∈ d.strings, f s = g s) → d.map f = d.map g
  | .null, _ => rfl
  | .bool _, _ => rfl
  | .num _, _ => rfl
  | .str s, h => congrArg Doc.str (h s (List.mem_singleton_self s))
  | .arr _, h => congrArg Doc.arr (Items.map_congr h)
  | .obj _, h => congrArg Doc.obj (Fields.map_congr h)

theorem Items.map_congr {f g : σ → τ} :
    ∀ {items : Items σ}, (∀ s ∈ items.strings, f s = g s) → items.map f = items.map g
  | .nil, _ => rfl
  | .cons _ _, h =>
    congrArg₂ Items.cons (Doc.map_congr fun s mem => h s (List.mem_append_left _ mem))
      (Items.map_congr fun s mem => h s (List.mem_append_right _ mem))

theorem Fields.map_congr {f g : σ → τ} :
    ∀ {fields : Fields σ}, (∀ s ∈ fields.strings, f s = g s) → fields.map f = fields.map g
  | .nil, _ => rfl
  | .cons name value rest, h => by
    have first : f name = g name := h name List.mem_cons_self
    have inside : value.map f = value.map g :=
      Doc.map_congr fun s mem => h s (List.mem_cons_of_mem _ (List.mem_append_left _ mem))
    have after : rest.map f = rest.map g :=
      Fields.map_congr fun s mem => h s (List.mem_cons_of_mem _ (List.mem_append_right _ mem))
    simp only [Fields.map, first, inside, after]
end

mutual
theorem Doc.map_map (f : σ → τ) (g : τ → υ) :
    ∀ d : Doc σ, (d.map f).map g = d.map (g ∘ f)
  | .null | .bool _ | .num _ | .str _ => rfl
  | .arr items => congrArg Doc.arr (Items.map_map f g items)
  | .obj fields => congrArg Doc.obj (Fields.map_map f g fields)

theorem Items.map_map (f : σ → τ) (g : τ → υ) :
    ∀ items : Items σ, (items.map f).map g = items.map (g ∘ f)
  | .nil => rfl
  | .cons item rest => congrArg₂ Items.cons (Doc.map_map f g item) (Items.map_map f g rest)

theorem Fields.map_map (f : σ → τ) (g : τ → υ) :
    ∀ fields : Fields σ, (fields.map f).map g = fields.map (g ∘ f)
  | .nil => rfl
  | .cons name value rest => by
    simp only [Fields.map, Doc.map_map f g value, Fields.map_map f g rest, Function.comp]
end

mutual
theorem Doc.map_id : ∀ d : Doc σ, d.map id = d
  | .null | .bool _ | .num _ | .str _ => rfl
  | .arr items => congrArg Doc.arr (Items.map_id items)
  | .obj fields => congrArg Doc.obj (Fields.map_id fields)

theorem Items.map_id : ∀ items : Items σ, items.map id = items
  | .nil => rfl
  | .cons item rest => congrArg₂ Items.cons (Doc.map_id item) (Items.map_id rest)

theorem Fields.map_id : ∀ fields : Fields σ, fields.map id = fields
  | .nil => rfl
  | .cons name value rest => by
    simp only [Fields.map, Doc.map_id value, Fields.map_id rest, id]
end

mutual
theorem Doc.strings_map (f : σ → τ) : ∀ d : Doc σ, (d.map f).strings = d.strings.map f
  | .null | .bool _ | .num _ | .str _ => rfl
  | .arr items => Items.strings_map f items
  | .obj fields => Fields.strings_map f fields

theorem Items.strings_map (f : σ → τ) :
    ∀ items : Items σ, (items.map f).strings = items.strings.map f
  | .nil => rfl
  | .cons item rest => by
    simp only [Items.map, Items.strings, List.map_append, Doc.strings_map f item,
      Items.strings_map f rest]

theorem Fields.strings_map (f : σ → τ) :
    ∀ fields : Fields σ, (fields.map f).strings = fields.strings.map f
  | .nil => rfl
  | .cons name value rest => by
    simp only [Fields.map, Fields.strings, List.map_cons, List.map_append,
      Doc.strings_map f value, Fields.strings_map f rest]
end

/-! ## Fields -/

section
variable [DecidableEq σ] [DecidableEq τ]

/-- A name written twice stands for what was written last. -/
def Fields.get? (name : σ) : Fields σ → Option (Doc σ)
  | .nil => none
  | .cons n value rest => (rest.get? name).or (if n = name then some value else none)

/-- The field of a document, absent on anything but an object. -/
def Doc.get? (name : σ) : Doc σ → Option (Doc σ)
  | .obj fields => fields.get? name
  | _ => none

theorem Fields.get?_map {f : σ → τ} (inj : Function.Injective f) (name : σ) (fields : Fields σ) :
    (fields.map f).get? (f name) = (fields.get? name).map (Doc.map f) := by
  match fields with
  | .nil => rfl
  | .cons n value rest =>
    have after := Fields.get?_map inj name rest
    by_cases named : n = name
    · subst named
      cases found : rest.get? n <;> simp [Fields.map, Fields.get?, after, found]
    · have apart : f n ≠ f name := fun same => named (inj same)
      cases found : rest.get? name <;> simp [Fields.map, Fields.get?, after, found, named, apart]

theorem Doc.get?_map {f : σ → τ} (inj : Function.Injective f) (name : σ) (d : Doc σ) :
    (d.map f).get? (f name) = (d.get? name).map (Doc.map f) := by
  cases d with
  | obj fields => exact Fields.get?_map inj name fields
  | _ => rfl

end

/-! ## Writing and reading -/

/-- What is stored of a document. -/
abbrev Source := Doc Literal

/-- `JSON.stringify`. -/
def stringify (d : Doc JsString) : Source := d.map quote

/-- `JSON.parse`. -/
def parse (d : Source) : Doc JsString := d.map Literal.units

/-- `cjson.decode`: one literal it has nothing to make of, and it refuses the document. -/
def decode (d : Source) : Option (Doc Text) :=
  if ∀ l ∈ d.strings, l.decode.isSome then some (d.map fun l => l.decode.getD []) else none

def Doc.WellFormed (d : Doc JsString) : Prop := ∀ s ∈ d.strings, JsString.WellFormed s

theorem parse_stringify (d : Doc JsString) : parse (stringify d) = d := by
  have units : Literal.units ∘ quote = id := funext units_quote
  rw [parse, stringify, Doc.map_map, units, Doc.map_id]

/-- What `cjson.decode` reads, `JSON.parse` reads the same way. -/
theorem parse_of_decode {d : Source} {t : Doc Text} (h : decode d = some t) :
    parse d = t.map Text.units := by
  unfold decode at h
  split at h
  · next decodable =>
    cases h
    rw [Doc.map_map]
    apply Doc.map_congr
    intro l mem
    obtain ⟨text, decoded⟩ := Option.isSome_iff_exists.mp (decodable l mem)
    simp only [Function.comp, decoded, Option.getD_some]
    exact (units_of_decode decoded).symm
  · cases h

theorem isSome_decode_stringify (d : Doc JsString) :
    (decode (stringify d)).isSome ↔ d.WellFormed := by
  have literals : (stringify d).strings = d.strings.map quote := Doc.strings_map quote d
  have spelt : (∀ l ∈ (stringify d).strings, l.decode.isSome) ↔ d.WellFormed := by
    simp only [literals, List.forall_mem_map, isSome_decode_quote, Doc.WellFormed]
  unfold decode
  split
  · next decodable => simpa using spelt.mp decodable
  · next refused => simpa using fun well => refused (spelt.mpr well)

end Json
