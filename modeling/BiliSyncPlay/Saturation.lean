import Mathlib.Data.List.Forall2
import Mathlib.Logic.Relation

/-!
# Marking to a fixpoint

Things with a mark each, and links along which a mark travels. Sweeps over all of them, in place and
until one changes nothing, mark exactly what the first marks reach, in whatever order they stand.
-/

namespace BiliSyncPlay.Saturation

variable {α : Type}

abbrev Marks (α : Type) := List (α × Bool)

section
variable (link : α → α → Bool)

/-- The mark of one thing travels to everything it links to. -/
def spread (x : α) (marks : Marks α) : Marks α :=
  marks.map fun entry => (entry.1, entry.2 || link x entry.1)

/-- What the marks at these places, one after the other, bring about. -/
def sweepAt (marks : Marks α) (i : Nat) : Marks α :=
  match marks[i]? with
  | some (x, true) => spread link x marks
  | _ => marks

def sweep (marks : Marks α) : Marks α :=
  (List.range marks.length).foldl (sweepAt link) marks

end

/-- The same things, and at least the same marks. -/
def Covers : Marks α → Marks α → Prop :=
  List.Forall₂ fun less more => less.1 = more.1 ∧ (less.2 = true → more.2 = true)

variable {a b : Marks α} {seed : α → Prop} {x : α}

namespace Covers

theorem refl (marks : Marks α) : Covers marks marks :=
  List.forall₂_same.mpr fun _ _ => ⟨rfl, id⟩

theorem trans {c : Marks α} (first : Covers a b) (second : Covers b c) : Covers a c := by
  induction first generalizing c with
  | nil => exact second
  | cons step _ ih =>
    cases second with
    | cons next rest => exact .cons ⟨step.1.trans next.1, next.2 ∘ step.2⟩ (ih rest)

theorem things (covers : Covers a b) : b.map Prod.fst = a.map Prod.fst := by
  induction covers with
  | nil => rfl
  | cons step _ ih => rw [List.map_cons, List.map_cons, ih, step.1]

theorem length (covers : Covers a b) : a.length = b.length :=
  List.Forall₂.length_eq covers

theorem at_ (covers : Covers a b) {i : Nat} (marked : a[i]? = some (x, true)) :
    b[i]? = some (x, true) := by
  induction covers generalizing i with
  | nil => cases marked
  | @cons less more _ _ step _ ih =>
    cases i with
    | succ i => exact ih marked
    | zero =>
      obtain rfl : less = (x, true) := Option.some.inj marked
      obtain ⟨y, mark⟩ := more
      obtain rfl : x = y := step.1
      exact congrArg (fun mark => some (x, mark)) (step.2 rfl)

end Covers

def unmarked (marks : Marks α) : Nat := marks.countP fun entry => !entry.2

theorem unmarked_le (covers : Covers a b) : unmarked b ≤ unmarked a := by
  induction covers with
  | nil => exact Nat.le_refl _
  | @cons less more _ _ step _ ih =>
    have one : (!more.2) = true → (!less.2) = true := by
      intro bare
      cases marked : less.2 with
      | false => rfl
      | true => simp [step.2 marked] at bare
    simp only [unmarked, List.countP_cons] at ih ⊢
    by_cases bare : (!more.2) = true
    · simp only [bare, one bare, ↓reduceIte]
      omega
    · simp only [bare, Bool.false_eq_true, ↓reduceIte]
      omega

theorem unmarked_lt (covers : Covers a b) (changed : b ≠ a) :
    unmarked b < unmarked a := by
  induction covers with
  | nil => exact absurd rfl changed
  | @cons less more _ _ step rest ih =>
    obtain ⟨x, old⟩ := less
    obtain ⟨y, new⟩ := more
    obtain rfl : x = y := step.1
    have others := unmarked_le rest
    simp only [unmarked, List.countP_cons] at ih others ⊢
    cases old with
    | true =>
      obtain rfl : new = true := step.2 rfl
      have later := ih fun same => changed (congrArg _ same)
      simp only [Bool.not_true, Bool.false_eq_true, ↓reduceIte]
      omega
    | false =>
      cases new with
      | true =>
        simp only [Bool.not_true, Bool.not_false, Bool.false_eq_true, ↓reduceIte]
        omega
      | false =>
        have later := ih fun same => changed (congrArg _ same)
        simp only [Bool.not_false, ↓reduceIte]
        omega

section
variable {link : α → α → Bool}

theorem covers_spread (x : α) (marks : Marks α) : Covers marks (spread link x marks) := by
  induction marks with
  | nil => exact .nil
  | cons entry marks ih => exact .cons ⟨rfl, fun marked => by simp [marked]⟩ ih

theorem covers_sweepAt (marks : Marks α) (i : Nat) : Covers marks (sweepAt link marks i) := by
  unfold sweepAt
  split
  · exact covers_spread ..
  · exact .refl _

theorem covers_sweeps (marks : Marks α) (places : List Nat) :
    Covers marks (places.foldl (sweepAt link) marks) := by
  induction places generalizing marks with
  | nil => exact .refl _
  | cons i places ih => exact (covers_sweepAt marks i).trans (ih _)

theorem covers_sweep (marks : Marks α) : Covers marks (sweep link marks) := covers_sweeps ..

end

/-- Sweep until nothing changes. Every other sweep marks something, and there is only so much. -/
def saturate [DecidableEq α] (link : α → α → Bool) (marks : Marks α) : Marks α :=
  if sweep link marks = marks then marks else saturate link (sweep link marks)
termination_by unmarked marks
decreasing_by exact unmarked_lt (covers_sweep marks) (by assumption)

/-! ## What is marked in the end -/

/-- The things that the first marks reach. -/
inductive Reached (seed : α → Prop) (link : α → α → Prop) (things : α → Prop) : α → Prop
  | seed {x : α} : things x → seed x → Reached seed link things x
  | link {x y : α} : Reached seed link things x → things y → link x y → Reached seed link things y

theorem Reached.thing {link : α → α → Prop} {things : α → Prop}
    (reached : Reached seed link things x) : things x := by
  cases reached with
  | seed thing => exact thing
  | link _ thing => exact thing

theorem Reached.mono {link : α → α → Prop} {few many : α → Prop} (more : ∀ x, few x → many x)
    (reached : Reached seed link few x) :
    Reached seed link many x := by
  induction reached with
  | seed thing seed => exact .seed (more _ thing) seed
  | link _ thing link ih => exact .link ih (more _ thing) link

section
variable {link : α → α → Bool}

variable {marks : Marks α} {xs : List α}

/-- A mark that stands at the start of a sweep has travelled by its end. -/
theorem linked_of_sweeps {places : List Nat} {i j : Nat} {y : α} {m : Bool} (place : i ∈ places)
    (marked : marks[i]? = some (x, true)) (other : marks[j]? = some (y, m))
    (linked : link x y = true) :
    (places.foldl (sweepAt link) marks)[j]? = some (y, true) := by
  induction places generalizing marks m with
  | nil => cases place
  | cons first places ih =>
    by_cases now : i = first
    · have spreads : sweepAt link marks first = spread link x marks := by
        rw [← now]
        simp only [sweepAt, marked]
      have lands : (spread link x marks)[j]? = some (y, true) := by
        simp [spread, other, linked]
      exact (covers_sweeps _ places).at_ (spreads ▸ lands)
    · have later := (List.mem_cons.mp place).resolve_left now
      have still : (sweepAt link marks first)[i]? = some (x, true) :=
        (covers_sweepAt marks first).at_ marked
      obtain ⟨n, stays⟩ : ∃ n, (sweepAt link marks first)[j]? = some (y, n) := by
        unfold sweepAt
        split
        next z _ => exact ⟨m || link z y, by simp [spread, other]⟩
        · exact ⟨m, other⟩
      exact ih later still stays

theorem closed_of_stable (stable : sweep link marks = marks) {y : α} {m : Bool}
    (marked : (x, true) ∈ marks) (other : (y, m) ∈ marks) (linked : link x y = true) :
    m = true := by
  obtain ⟨i, here⟩ := List.getElem?_of_mem marked
  obtain ⟨j, there⟩ := List.getElem?_of_mem other
  have place : i ∈ List.range marks.length := by
    rw [List.mem_range]
    exact (List.getElem?_eq_some_iff.mp here).1
  have lands := linked_of_sweeps place here there linked
  change (sweep link marks)[j]? = _ at lands
  rw [stable, there] at lands
  exact congrArg Prod.snd (Option.some.inj lands)

/-- Every mark is one that is reached. -/
def Sound (seed : α → Prop) (link : α → α → Bool) (xs : List α) (marks : Marks α) : Prop :=
  ∀ entry ∈ marks, entry.1 ∈ xs ∧
    (entry.2 = true → Reached seed (fun x y => link x y = true) (· ∈ xs) entry.1)

theorem sound_spread (sound : Sound seed link xs marks) (marked : (x, true) ∈ marks) :
    Sound seed link xs (spread link x marks) := by
  intro entry mem
  obtain ⟨⟨y, m⟩, old, rfl⟩ := List.mem_map.mp mem
  obtain ⟨thing, reached⟩ := sound _ old
  refine ⟨thing, fun mark => ?_⟩
  rcases Bool.or_eq_true_iff.mp mark with already | linked
  · exact reached already
  · exact .link ((sound _ marked).2 rfl) thing linked

theorem sound_sweeps (sound : Sound seed link xs marks) (places : List Nat) :
    Sound seed link xs (places.foldl (sweepAt link) marks) := by
  induction places generalizing marks with
  | nil => exact sound
  | cons i places ih =>
    apply ih
    unfold sweepAt
    split
    next marked => exact sound_spread sound (List.mem_of_getElem? marked)
    · exact sound

theorem saturate_spec [DecidableEq α] (marks : Marks α) (sound : Sound seed link xs marks) :
    Covers marks (saturate link marks) ∧ Sound seed link xs (saturate link marks) ∧
      sweep link (saturate link marks) = saturate link marks := by
  unfold saturate
  split
  next stable => exact ⟨.refl _, sound, stable⟩
  next changed =>
    obtain ⟨covers, still, stable⟩ := saturate_spec (sweep link marks) (sound_sweeps sound _)
    exact ⟨(covers_sweep marks).trans covers, still, stable⟩
termination_by unmarked marks
decreasing_by exact unmarked_lt (covers_sweep marks) (by assumption)

def seeded (seed : α → Bool) (xs : List α) : Marks α := xs.map fun x => (x, seed x)

theorem sound_seeded (seed : α → Bool) (xs : List α) :
    Sound (fun x => seed x = true) link xs (seeded seed xs) := by
  intro entry mem
  obtain ⟨x, thing, rfl⟩ := List.mem_map.mp mem
  exact ⟨thing, fun seeds => .seed thing seeds⟩

variable [DecidableEq α]

theorem things_saturate (seed : α → Bool) (xs : List α) :
    (saturate link (seeded seed xs)).map Prod.fst = xs := by
  rw [(saturate_spec _ (sound_seeded seed xs)).1.things, seeded, List.map_map]
  exact List.map_id xs

/-- In the end exactly what the seeds reach is marked. -/
theorem mark_iff {seed : α → Bool} {m : Bool} (mem : (x, m) ∈ saturate link (seeded seed xs)) :
    m = true ↔ Reached (fun x => seed x = true) (fun x y => link x y = true) (· ∈ xs) x := by
  obtain ⟨covers, sound, stable⟩ := saturate_spec _ (sound_seeded seed xs)
  have things : (saturate link (seeded seed xs)).map Prod.fst = xs := things_saturate seed xs
  constructor
  · exact (sound _ mem).2
  · intro reached
    induction reached generalizing m with
    | @seed x thing seeds =>
      obtain ⟨i, here⟩ := List.getElem?_of_mem mem
      have place : xs[i]? = some x := by
        rw [← things, List.getElem?_map, here]
        rfl
      have marked : (seeded seed xs)[i]? = some (x, true) := by
        rw [seeded, List.getElem?_map, place]
        exact congrArg (fun mark => some (x, mark)) seeds
      have stays := covers.at_ marked
      rw [here] at stays
      exact congrArg Prod.snd (Option.some.inj stays)
    | @link x y reached _ linked ih =>
      have there : x ∈ (saturate link (seeded seed xs)).map Prod.fst := by
        rw [things]
        exact reached.thing
      obtain ⟨⟨_, n⟩, marked, rfl⟩ := List.mem_map.mp there
      obtain rfl : n = true := ih marked
      exact closed_of_stable stable marked mem linked

/-- Who is marked depends on what there is, not on how it stands. -/
theorem saturate_eq {seed marks : α → Bool} (settles : ∀ x ∈ xs, marks x = true ↔
      Reached (fun x => seed x = true) (fun x y => link x y = true) (· ∈ xs) x) :
    (saturate link (seeded seed xs)).map Prod.snd = xs.map marks := by
  have things : (saturate link (seeded seed xs)).map Prod.fst = xs := things_saturate seed xs
  have each : ∀ entry ∈ saturate link (seeded seed xs), entry.2 = marks entry.1 := by
    intro entry mem
    have thing : entry.1 ∈ xs := things ▸ List.mem_map_of_mem mem
    rw [Bool.eq_iff_iff, settles _ thing]
    exact mark_iff mem
  calc (saturate link (seeded seed xs)).map Prod.snd
      = (saturate link (seeded seed xs)).map (marks ∘ Prod.fst) := List.map_congr_left each
    _ = xs.map marks := by rw [← List.map_map, things]

end

end BiliSyncPlay.Saturation
