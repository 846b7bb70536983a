import BiliSyncPlay.Interleave.Pool

/-!
# What calls issue, and when they did

`Prog.Issues` bounds the commands on all paths of a program at once, without phases. A `Path` is
a run with its moves in order, so that what is true now can be traced to the move that made it
so: whatever a call was told, an earlier move of the path told it.
-/

namespace Interleave

namespace Prog

variable {Cmd : Type} {Ans : Cmd → Type} {ε α β : Type} {may : Cmd → Prop}

/-- Every command on every path of the program is one that `may` be issued. -/
def Issues (may : Cmd → Prop) : Prog Cmd Ans ε α → Prop
  | ret _ | fail _ => True
  | op c k => may c ∧ ∀ a, (k a).Issues may

@[simp] theorem issues_perform {c : Cmd} :
    (perform c : Prog Cmd Ans ε (Ans c)).Issues may ↔ may c :=
  ⟨fun h => h.1, fun h => ⟨h, fun _ => trivial⟩⟩

variable {x : Prog Cmd Ans ε α}

theorem issues_bind {f : α → Prog Cmd Ans ε β} (hx : x.Issues may) (hf : ∀ a, (f a).Issues may) :
    (x >>= f).Issues may := by
  change (x.bind f).Issues may
  induction x with
  | ret a => exact hf a
  | fail e => trivial
  | op c k ih => exact ⟨hx.1, fun a => ih a (hx.2 a)⟩

theorem issues_tryCatch {h : ε → Prog Cmd Ans ε α} (hx : x.Issues may) (hh : ∀ e, (h e).Issues may) :
    (tryCatch x h).Issues may := by
  change (x.rescue h).Issues may
  induction x with
  | ret a => trivial
  | fail e => exact hh e
  | op c k ih => exact ⟨hx.1, fun a => ih a (hx.2 a)⟩

theorem issues_ensuring {cleanup : Prog Cmd Ans ε Unit} (hx : x.Issues may)
    (hc : cleanup.Issues may) : (x.ensuring cleanup).Issues may := by
  apply issues_bind
  · apply issues_tryCatch hx
    intro e
    exact issues_bind hc fun _ => trivial
  · intro a
    exact issues_bind hc fun _ => trivial

theorem Issues.mono {may' : Cmd → Prop} (h : x.Issues may) (weaken : ∀ c, may c → may' c) :
    x.Issues may' := by
  induction x with
  | ret | fail => trivial
  | op c k ih => exact ⟨weaken c h.1, fun a => ih a (h.2 a)⟩

/-- What is recorded only grows. -/
theorem Follows.grown {may : List ((c : Cmd) × Ans c) → Cmd → Prop}
    {past : List ((c : Cmd) × Ans c)} {Q : List ((c : Cmd) × Ans c) → Except ε α → Prop}
    (h : x.Follows (recording may) past Q) :
    x.Follows (recording may) past fun later r => past <:+ later ∧ Q later r := by
  induction x generalizing past with
  | ret | fail => exact ⟨List.suffix_rfl, h⟩
  | op c k ih =>
    refine ⟨h.1, fun a expected => (ih a (h.2 a expected)).mono fun later r grown => ?_⟩
    exact ⟨(List.suffix_cons _ _).trans grown.1, grown.2⟩

/-- A program whose commands a protocol permits in every phase follows it. -/
theorem Issues.follows {P : Protocol Cmd Ans} {φ : P.Phase} (h : x.Issues may)
    (permitted : ∀ φ c, may c → P.permits φ c) :
    x.Follows P φ fun _ _ => True := by
  induction x generalizing φ with
  | ret | fail => trivial
  | op c k ih => exact ⟨permitted φ c h.1, fun a _ => ih a (h.2 a)⟩

end Prog

/-- Whatever a client issued was permitted by what it had recorded then. -/
theorem Reaches.permitted {Cmd : Type} {Ans : Cmd → Type} {ε α : Type}
    {p rest : Prog Cmd Ans ε α} {hist : List ((c : Cmd) × Ans c)}
    {may : List ((c : Cmd) × Ans c) → Cmd → Prop}
    {Q : List ((c : Cmd) × Ans c) → Except ε α → Prop} (h : Reaches p hist rest)
    (follows : p.Follows (recording may) [] Q) :
    ∀ e ∈ hist, ∃ past, past <:+ hist ∧ may past e.1 := by
  induction h with
  | start => simp
  | answered a reached ih =>
    intro e mem
    rcases List.mem_cons.mp mem with rfl | earlier
    · exact ⟨_, List.suffix_cons .., (reached.follows follows).1⟩
    · obtain ⟨past, suffix, permitted⟩ := ih e earlier
      exact ⟨past, suffix.trans (List.suffix_cons ..), permitted⟩

variable {M : Machine}

/-- A run, by its moves in order. -/
inductive Path (ok : Guard M) (p₀ : Pool M) : List (Move M) → Pool M → Prop where
  | start : Path ok p₀ [] p₀
  | move {moves : List (Move M)} {p q : Pool M} (mv : Move M) (path : Path ok p₀ moves p)
      (allowed : ok p mv) (step : p.step? mv = some q) : Path ok p₀ (moves ++ [mv]) q

/-- At some move of the path, with the moves before it. -/
def Along (ok : Guard M) (p₀ : Pool M) (moves : List (Move M))
    (happens : List (Move M) → Pool M → Pool M → Prop) : Prop :=
  ∃ before mv after q r, moves = before ++ mv :: after ∧ Path ok p₀ before q ∧
    q.step? mv = some r ∧ happens before q r

/-- The step from `p` to `q` has the command of a call answered. -/
def Pool.Performs (p q : Pool M) (call : Call M) (c : M.Cmd) (a : M.Ans c) : Prop :=
  ∃ i ch spawned, p.run? i ch = some q ∧ p.calls[i]? = some call ∧ call.rest.next? = some c ∧
    M.exec c ch p.shared = some (a, q.shared, spawned)

/-- The call issued the command after this past, or does so next. -/
def Call.Issued (call : Call M) (past : List ((c : M.Cmd) × M.Ans c)) (c : M.Cmd) : Prop :=
  (past = call.hist ∧ call.rest.next? = some c) ∨ ∃ a, ⟨c, a⟩ :: past <:+ call.hist

variable {call : Call M}

theorem Call.Issued.suffix {past : List ((c : M.Cmd) × M.Ans c)} {c : M.Cmd}
    (h : call.Issued past c) : past <:+ call.hist := by
  rcases h with ⟨rfl, -⟩ | ⟨a, answered⟩
  · exact List.suffix_rfl
  · exact (List.suffix_cons ..).trans answered

variable {ok : Guard M} {p₀ p q : Pool M} {moves : List (Move M)} {mv : Move M}
  {happens happens' : List (Move M) → Pool M → Pool M → Prop}

theorem Path.run (path : Path ok p₀ moves p) : Run ok p₀ p := by
  induction path with
  | start => exact .refl _
  | move mv _ allowed step ih => exact .step mv ih allowed step

theorem Path.cons {r : Pool M} (allowed : ok p mv) (step : p.step? mv = some q)
    (path : Path ok q moves r) : Path ok p (mv :: moves) r := by
  induction path with
  | start => exact .move mv .start allowed step
  | move last _ allowed' step' ih => exact .move last ih allowed' step'

theorem Along.later (h : Along ok p₀ moves happens) : Along ok p₀ (moves ++ [mv]) happens := by
  obtain ⟨before, here, after, q, r, rfl, path, step, what⟩ := h
  exact ⟨before, here, after ++ [mv], q, r, by simp, path, step, what⟩

theorem Along.last (path : Path ok p₀ moves p) (step : p.step? mv = some q)
    (what : happens moves p q) : Along ok p₀ (moves ++ [mv]) happens :=
  ⟨moves, mv, [], p, q, rfl, path, step, what⟩

theorem Along.mono (h : Along ok p₀ moves happens)
    (weaken : ∀ before q r, happens before q r → happens' before q r) :
    Along ok p₀ moves happens' := by
  obtain ⟨before, here, after, q, r, split, path, step, what⟩ := h
  exact ⟨before, here, after, q, r, split, path, step, weaken before q r what⟩

/-- The call a step moved, and what became of the calls. -/
theorem Pool.performs_of_run? {i : Nat} {ch : M.Choice} (h : p.run? i ch = some q) :
    ∃ call c a, p.Performs q call c a ∧ call ∈ p.calls ∧
      ∀ other ∈ q.calls, other ∈ p.calls ∨ other.hist = [] ∨
        (other.req = call.req ∧ other.hist = ⟨c, a⟩ :: call.hist) := by
  obtain ⟨call, c, k, a, σ, spawned, at_i, rest, hexec, rfl⟩ := Discipline.run?_cases h
  refine ⟨call, c, a, ⟨i, ch, spawned, h, at_i, by rw [rest]; rfl, hexec⟩,
    List.mem_of_getElem? at_i, ?_⟩
  intro other mem
  rcases List.mem_append.mp mem with old | new
  · rcases List.mem_or_eq_of_mem_set old with same | rfl
    · exact .inl same
    · exact .inr (.inr ⟨rfl, rfl⟩)
  · obtain ⟨r, -, rfl⟩ := List.mem_map.mp new
    exact .inr (.inl rfl)

/-- A call that may run has its next command answered. -/
theorem Pool.performs_of_exec {i : Nat} {ch : M.Choice} {c : M.Cmd} {a : M.Ans c} {σ : M.Shared}
    {spawned : List M.Req} (at_i : p.calls[i]? = some call) (may : p.mayRun call = true)
    (next : call.rest.next? = some c) (hexec : M.exec c ch p.shared = some (a, σ, spawned)) :
    ∃ q, p.step? (.run i ch) = some q ∧ p.Performs q call c a := by
  cases rest : call.rest with
  | ret | fail =>
    rw [rest] at next
    cases next
  | op c' k =>
    have same := next
    rw [rest] at same
    cases same
    have run : p.run? i ch =
        some ⟨σ, p.calls.set i (call.answered c k a) ++ spawned.map .fresh⟩ := by
      simp [Pool.run?, at_i, may, rest, hexec]
    exact ⟨_, run, i, ch, spawned, run, at_i, next, hexec⟩

/-- After a step, a call is an old one, a new one, or one that was answered. -/
theorem Pool.call_of_step (step : p.step? mv = some q) (mem : call ∈ q.calls) :
    call ∈ p.calls ∨ call.hist = [] ∨ ∃ own ∈ p.calls, ∃ c a,
      call.req = own.req ∧ call.hist = ⟨c, a⟩ :: own.hist ∧ p.Performs q own c a := by
  cases mv with
  | start r =>
    cases step
    rcases List.mem_append.mp mem with old | new
    · exact .inl old
    · cases List.mem_singleton.mp new
      exact .inr (.inl rfl)
  | event ev =>
    simp only [Pool.step?, Option.map_eq_some_iff] at step
    obtain ⟨σ, -, rfl⟩ := step
    exact .inl mem
  | run i ch =>
    obtain ⟨own, c, a, performs, own_mem, moved⟩ := Pool.performs_of_run? step
    rcases moved call mem with old | fresh | ⟨req, grown⟩
    · exact .inl old
    · exact .inr (.inl fresh)
    · exact .inr (.inr ⟨own, own_mem, c, a, req, grown, performs⟩)

/-- Calls are kept, with whatever they issued. -/
theorem Pool.issued_step (step : p.step? mv = some q) (mem : call ∈ p.calls)
    {past : List ((c : M.Cmd) × M.Ans c)} {c : M.Cmd} (issued : call.Issued past c) :
    ∃ later ∈ q.calls, later.req = call.req ∧ later.Issued past c := by
  cases mv with
  | start r =>
    cases step
    exact ⟨call, List.mem_append_left _ mem, rfl, issued⟩
  | event ev =>
    simp only [Pool.step?, Option.map_eq_some_iff] at step
    obtain ⟨σ, -, rfl⟩ := step
    exact ⟨call, mem, rfl, issued⟩
  | run i ch =>
    obtain ⟨own, c', k, a, σ, spawned, at_i, rest, -, rfl⟩ := Discipline.run?_cases step
    obtain ⟨j, at_j⟩ := List.mem_iff_getElem?.mp mem
    by_cases same : i = j
    · subst same
      cases at_i.symm.trans at_j
      have here := (List.getElem?_eq_some_iff.mp at_i).1
      refine ⟨_, List.mem_append_left _ (List.mem_set here _), rfl, ?_⟩
      rcases issued with ⟨rfl, next⟩ | ⟨b, answered⟩
      · rw [rest] at next
        cases next
        exact .inr ⟨a, List.suffix_rfl⟩
      · exact .inr ⟨b, answered.trans (List.suffix_cons ..)⟩
    · refine ⟨call, List.mem_append_left _ (List.mem_iff_getElem?.mpr ⟨j, ?_⟩), rfl, issued⟩
      rw [List.getElem?_set_ne same]
      exact at_j

/-- Whatever a call was answered, a move of the path answered it. -/
theorem Path.answered (path : Path ok p₀ moves p) (idle : p₀.calls = []) :
    ∀ call ∈ p.calls, ∀ e ∈ call.hist, Along ok p₀ moves fun _ q r =>
      ∃ earlier, earlier.req = call.req ∧ q.Performs r earlier e.1 e.2 := by
  induction path with
  | start =>
    intro call mem
    rw [idle] at mem
    cases mem
  | move mv path allowed step ih =>
    intro call mem e he
    rcases Pool.call_of_step step mem with old | fresh | ⟨own, own_mem, c, a, req, grown, did⟩
    · exact (ih call old e he).later
    · rw [fresh] at he
      cases he
    · rw [grown] at he
      rcases List.mem_cons.mp he with rfl | earlier
      · exact Along.last path step ⟨own, req.symm, did⟩
      · exact (ih own own_mem e earlier).later.mono fun _ q r ⟨first, same, did⟩ =>
          ⟨first, same.trans req.symm, did⟩

section Replayed

variable [∀ p mv, Decidable (ok p mv)]

theorem Pool.replay_path (h : p₀.replay ok moves = some p) : Path ok p₀ moves p := by
  induction moves generalizing p₀ with
  | nil => cases h; exact .start
  | cons mv rest ih =>
    simp only [Pool.replay] at h
    split at h
    · rename_i allowed
      split at h
      · rename_i r step
        exact .cons allowed step (ih h)
      · cases h
    · cases h

theorem Path.replay (path : Path ok p₀ moves p) : p₀.replay ok moves = some p := by
  have append (first rest : List (Move M)) (p : Pool M) :
      p.replay ok (first ++ rest) = (p.replay ok first).bind (·.replay ok rest) := by
    induction first generalizing p with
    | nil => rfl
    | cons mv first ih =>
      simp only [List.cons_append, Pool.replay]
      split
      · split
        · exact ih _
        · rfl
      · rfl
  induction path with
  | start => rfl
  | move mv _ allowed step ih => simp [append, ih, Pool.replay, allowed, step]

end Replayed

end Interleave
