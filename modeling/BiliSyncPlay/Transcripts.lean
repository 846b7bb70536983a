import Mathlib.Data.List.Induction

/-!
# Transcripts

A state that answers one call after another, and the calls with their answers, oldest first. What
stands before an entry of a transcript is the transcript of a run of its own.
-/

namespace Transcript

variable {σ κ α : Type}

structure Entry (κ α : Type) where
  call : κ
  answer : α
  deriving DecidableEq

variable (step : σ → κ → α × σ)

/-- The state a run of calls leaves. -/
def after (s : σ) : List κ → σ
  | [] => s
  | c :: rest => after (step s c).2 rest

def answers (s : σ) : List κ → List (Entry κ α)
  | [] => []
  | c :: rest => ⟨c, (step s c).1⟩ :: answers (step s c).2 rest

variable {step}

@[simp] theorem after_nil (s : σ) : after step s [] = s := rfl

@[simp] theorem answers_nil (s : σ) : answers step s [] = [] := rfl

theorem after_append (s : σ) (l l' : List κ) :
    after step s (l ++ l') = after step (after step s l) l' := by
  induction l generalizing s with
  | nil => rfl
  | cons c rest ih => exact ih _

theorem answers_append (s : σ) (l l' : List κ) :
    answers step s (l ++ l') = answers step s l ++ answers step (after step s l) l' := by
  induction l generalizing s with
  | nil => rfl
  | cons c rest ih => simp [answers, after, ih]

theorem after_concat (s : σ) (l : List κ) (c : κ) :
    after step s (l ++ [c]) = (step (after step s l) c).2 := after_append s l [c]

theorem answers_concat (s : σ) (l : List κ) (c : κ) :
    answers step s (l ++ [c]) = answers step s l ++ [⟨c, (step (after step s l) c).1⟩] :=
  answers_append s l [c]

@[simp] theorem answers_calls (s : σ) (l : List κ) :
    (answers step s l).map Entry.call = l := by
  induction l generalizing s with
  | nil => rfl
  | cons c rest ih => simp [answers, ih]

theorem call_mem {s : σ} {l : List κ} {e : Entry κ α} (mem : e ∈ answers step s l) :
    e.call ∈ l := by
  have listed : e.call ∈ (answers step s l).map Entry.call := List.mem_map_of_mem mem
  rwa [answers_calls] at listed

/-- What stands before an entry is a run of its own. -/
theorem answers_split {s : σ} {l : List κ} {before later : List (Entry κ α)} {e : Entry κ α}
    (split : answers step s l = before ++ e :: later) :
    ∃ earlier rest, l = earlier ++ e.call :: rest ∧ answers step s earlier = before ∧
      e.answer = (step (after step s earlier) e.call).1 := by
  induction before generalizing s l with
  | nil =>
    cases l with
    | nil => cases split
    | cons c rest =>
      obtain ⟨same, -⟩ := List.cons.inj split
      subst same
      exact ⟨[], rest, rfl, rfl, rfl⟩
  | cons first before ih =>
    cases l with
    | nil => cases split
    | cons c rest =>
      obtain ⟨same, tail⟩ := List.cons.inj split
      obtain ⟨earlier, rest', rfl, whole, answer⟩ := ih tail
      refine ⟨c :: earlier, rest', rfl, ?_, answer⟩
      rw [answers, whole, same]

/-- Two machines that agree on each call, and stay related, answer alike. -/
theorem answers_eq_of_related {τ : Type} {other : τ → κ → α × τ} {R : List κ → σ → τ → Prop}
    (agree : ∀ c rest s t, R (c :: rest) s t →
      (step s c).1 = (other t c).1 ∧ R rest (step s c).2 (other t c).2)
    {s : σ} {t : τ} {l : List κ} (related : R l s t) : answers step s l = answers other t l := by
  induction l generalizing s t with
  | nil => rfl
  | cons c rest ih =>
    obtain ⟨same, next⟩ := agree c rest s t related
    rw [answers, answers, same, ih next]

end Transcript
