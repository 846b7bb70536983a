import BiliSyncPlay.Interleave.Prog
import Mathlib.Data.List.Basic

/-!
# Interleaved calls

A `Machine` runs any number of calls against one shared state. Calls of one lane take turns
at the granularity of awaited commands: a call in the middle of a synchronous stretch keeps
its lane. `Discipline.run_invariant` proves an invariant over every interleaving from what one
command preserves, with the callers' positions read off their histories by a protocol.
-/

namespace Interleave

structure Machine where
  Cmd : Type
  Ans : Cmd → Type
  Err : Type
  Res : Type
  Req : Type
  Shared : Type
  Choice : Type
  Event : Type
  body : Req → Prog Cmd Ans Err Res
  lane : Req → Nat
  sync : Cmd → Bool
  /-- One command, with the calls it spawns. `none`: it cannot complete yet. -/
  exec : (c : Cmd) → Choice → Shared → Option (Ans c × Shared × List Req)
  occur : Event → Shared → Option Shared

structure Call (M : Machine) where
  req : M.Req
  /-- The commands issued so far with their answers, newest first. -/
  hist : List ((c : M.Cmd) × M.Ans c)
  rest : Prog M.Cmd M.Ans M.Err M.Res
  /-- In the middle of a synchronous stretch. -/
  hot : Bool

structure Pool (M : Machine) where
  shared : M.Shared
  calls : List (Call M)

inductive Move (M : Machine) where
  | start (req : M.Req)
  | run (index : Nat) (choice : M.Choice)
  | event (event : M.Event)

variable {M : Machine}

def Call.fresh (r : M.Req) : Call M := ⟨r, [], M.body r, false⟩

def Call.nextSync (rest : Prog M.Cmd M.Ans M.Err M.Res) : Bool :=
  match rest.next? with
  | some c => M.sync c
  | none => false

def Call.answered (call : Call M) (c : M.Cmd) (k : M.Ans c → Prog M.Cmd M.Ans M.Err M.Res)
    (a : M.Ans c) : Call M :=
  ⟨call.req, ⟨c, a⟩ :: call.hist, k a, M.sync c && Call.nextSync (k a)⟩

def Pool.mayRun (p : Pool M) (call : Call M) : Bool :=
  call.hot || p.calls.all fun other => !(other.hot && M.lane other.req == M.lane call.req)

def Pool.run? (p : Pool M) (i : Nat) (ch : M.Choice) : Option (Pool M) :=
  match p.calls[i]? with
  | none => none
  | some call =>
    if p.mayRun call then
      match call.rest with
      | .op c k =>
        match M.exec c ch p.shared with
        | some (a, shared, spawned) =>
          some ⟨shared, p.calls.set i (call.answered c k a) ++ spawned.map .fresh⟩
        | none => none
      | _ => none
    else none

def Pool.step? (p : Pool M) : Move M → Option (Pool M)
  | .start r => some ⟨p.shared, p.calls ++ [.fresh r]⟩
  | .run i ch => p.run? i ch
  | .event e => (M.occur e p.shared).map fun shared => ⟨shared, p.calls⟩

/-- A restriction on the steps of a run: what callers promise, or what a result is about. -/
abbrev Guard (M : Machine) := Pool M → Move M → Prop

inductive Run (ok : Guard M) : Pool M → Pool M → Prop where
  | refl (p : Pool M) : Run ok p p
  | step {p q r : Pool M} (mv : Move M) : Run ok p q → ok q mv → q.step? mv = some r → Run ok p r

def Pool.Quiescent (p : Pool M) : Prop := ∀ call ∈ p.calls, call.rest.settled = true

instance (p : Pool M) : Decidable p.Quiescent := by unfold Pool.Quiescent; infer_instance

variable {i : Nat} {p q : Pool M}

theorem Run.trans {ok : Guard M} {r : Pool M} (h : Run ok p q) (h' : Run ok q r) :
    Run ok p r := by
  induction h' with
  | refl => exact h
  | step mv _ hok hstep ih => exact .step mv ih hok hstep

theorem Run.mono {ok ok' : Guard M} (weaken : ∀ p mv, ok p mv → ok' p mv) (h : Run ok p q) :
    Run ok' p q := by
  induction h with
  | refl => exact .refl _
  | step mv _ hok hstep ih => exact .step mv ih (weaken _ _ hok) hstep

/-- What a client is left with after a history of commands and answers, newest first. -/
inductive Reaches {Cmd : Type} {Ans : Cmd → Type} {ε α : Type} (p : Prog Cmd Ans ε α) :
    List ((c : Cmd) × Ans c) → Prog Cmd Ans ε α → Prop where
  | start : Reaches p [] p
  | answered {hist c k} (a : Ans c) : Reaches p hist (.op c k) → Reaches p (⟨c, a⟩ :: hist) (k a)

/-- The protocol whose phase is all that happened so far. -/
abbrev recording {Cmd : Type} {Ans : Cmd → Type} (may : List ((c : Cmd) × Ans c) → Cmd → Prop) :
    Protocol Cmd Ans where
  Phase := List ((c : Cmd) × Ans c)
  permits := may
  expects _ _ _ := True
  after hist c a := ⟨c, a⟩ :: hist

/-- A client that follows a recording from its start follows it from where it is. -/
theorem Reaches.follows {Cmd : Type} {Ans : Cmd → Type} {ε α : Type} {p rest : Prog Cmd Ans ε α}
    {hist : List ((c : Cmd) × Ans c)} {may : List ((c : Cmd) × Ans c) → Cmd → Prop}
    {Q : List ((c : Cmd) × Ans c) → Except ε α → Prop} (h : Reaches p hist rest)
    (follows : p.Follows (recording may) [] Q) : rest.Follows (recording may) hist Q := by
  induction h with
  | start => exact follows
  | answered a _ ih => exact ih.2 a trivial

/-- Every call is where its history led its body. -/
def Pool.Genuine (p : Pool M) : Prop :=
  ∀ call ∈ p.calls, Reaches (M.body call.req) call.hist call.rest

section Replay

variable (ok : Guard M) [∀ p mv, Decidable (ok p mv)]

/-- Performs the moves in order, refusing the first that is not allowed. -/
def Pool.replay (p : Pool M) : List (Move M) → Option (Pool M)
  | [] => some p
  | mv :: rest =>
    if ok p mv then
      match p.step? mv with
      | some q => q.replay rest
      | none => none
    else none

theorem Pool.replay_run {moves : List (Move M)} (h : p.replay ok moves = some q) : Run ok p q := by
  induction moves generalizing p with
  | nil => cases h; exact .refl _
  | cons mv rest ih =>
    simp only [Pool.replay] at h
    split at h
    · rename_i allowed
      split at h
      · rename_i r hstep
        exact (Run.step mv (.refl p) allowed hstep).trans (ih h)
      · cases h
    · cases h

/-- A replayed run, and what is to be seen at its end. -/
theorem Pool.replay_spec (p : Pool M) (moves : List (Move M)) {β : Type} (f : Pool M → β) {b : β}
    (h : (p.replay ok moves).map f = some b) : ∃ q, Run ok p q ∧ f q = b := by
  obtain ⟨q, hq, hb⟩ := Option.map_eq_some_iff.mp h
  exact ⟨q, replay_run ok hq, hb⟩

end Replay

/-- Later states keep every call, further along. -/
def Pool.Grows (p q : Pool M) : Prop :=
  ∀ call ∈ p.calls, ∃ call' ∈ q.calls, call'.req = call.req ∧ ∀ e ∈ call.hist, e ∈ call'.hist

section Distinct

variable {α κ : Type} {key : α → Option κ}

variable {φs : List α}

theorem getElem?_set_append {spawned : List α} {j : Nat} {ψ χ : α}
    (h : (φs.set i ψ ++ spawned)[j]? = some χ) :
    (j = i ∧ χ = ψ) ∨ (j ≠ i ∧ φs[j]? = some χ) ∨
      (φs.length ≤ j ∧ spawned[j - φs.length]? = some χ) := by
  by_cases old : j < φs.length
  · rw [List.getElem?_append_left (by simpa using old)] at h
    by_cases same : i = j
    · subst same
      rw [List.getElem?_set_self old] at h
      exact .inl ⟨rfl, (Option.some.inj h).symm⟩
    · rw [List.getElem?_set_ne same] at h
      exact .inr (.inl ⟨Ne.symm same, h⟩)
  · have new : φs.length ≤ j := Nat.le_of_not_lt old
    rw [List.getElem?_append_right (by simpa using new), List.length_set] at h
    exact .inr (.inr ⟨new, h⟩)

/-- No two calls carry the same key. -/
def Distinct (key : α → Option κ) (φs : List α) : Prop :=
  ∀ (i j : Nat) φ ψ k, φs[i]? = some φ → φs[j]? = some ψ → key φ = some k → key ψ = some k → i = j

theorem distinct_nil : Distinct key ([] : List α) := by
  intro i j φ ψ k h
  cases h

theorem distinct_of_length_le_one {l : List α} (one : l.length ≤ 1) : Distinct key l := by
  intro i j φ ψ k hi hj _ _
  have first := (List.getElem?_eq_some_iff.mp hi).1
  have second := (List.getElem?_eq_some_iff.mp hj).1
  omega

/-- Keys stay distinct while a call keeps or drops its own, and new calls come with keys nobody
carries. -/
theorem distinct_step {spawned : List α} {φ ψ : α} (distinct : Distinct key φs)
    (at_i : φs[i]? = some φ) (own : ∀ k, key ψ = some k → key φ = some k)
    (apart : Distinct key spawned)
    (new : ∀ χ ∈ spawned, ∀ k, key χ = some k → ∀ φ ∈ φs, key φ ≠ some k) :
    Distinct key (φs.set i ψ ++ spawned) := by
  have clash : ∀ {j l χ χ' k}, φs[j]? = some χ → key χ = some k →
      φs.length ≤ l → spawned[l - φs.length]? = some χ' → key χ' = some k → False :=
    fun hj hk _ hl hk' => new _ (List.mem_of_getElem? hl) _ hk' _ (List.mem_of_getElem? hj) hk
  intro j l χ χ' k hj hl hk hk'
  rcases getElem?_set_append hj with ⟨rfl, rfl⟩ | ⟨-, old⟩ | ⟨le, new⟩ <;>
    rcases getElem?_set_append hl with ⟨rfl, rfl⟩ | ⟨-, old'⟩ | ⟨le', new'⟩
  · rfl
  · exact distinct _ _ _ _ k at_i old' (own k hk) hk'
  · exact (clash at_i (own k hk) le' new' hk').elim
  · exact distinct _ _ _ _ k old at_i hk (own k hk')
  · exact distinct _ _ _ _ k old old' hk hk'
  · exact (clash old hk le' new' hk').elim
  · exact (clash at_i (own k hk') le new hk).elim
  · exact (clash old' hk' le new hk).elim
  · have same := apart _ _ _ _ k new new' hk hk'
    omega

/-- A call hands its key to the one it spawns. -/
theorem distinct_handover {φ ψ χ : α} (distinct : Distinct key φs) (at_i : φs[i]? = some φ)
    (bare : key ψ = none) (taken : ∀ k, key χ = some k → key φ = some k) :
    Distinct key (φs.set i ψ ++ [χ]) := by
  -- Where a key is carried afterwards, and by whom it was carried before.
  have carried : ∀ {j ρ k}, (φs.set i ψ ++ [χ])[j]? = some ρ → key ρ = some k →
      (j ≠ i ∧ j < φs.length ∧ φs[j]? = some ρ) ∨ (j = φs.length ∧ key φ = some k) := by
    intro j ρ k hj hk
    rcases getElem?_set_append hj with ⟨-, rfl⟩ | ⟨other, old⟩ | ⟨le, new⟩
    · rw [bare] at hk
      cases hk
    · exact .inl ⟨other, (List.getElem?_eq_some_iff.mp old).1, old⟩
    · have last : j - φs.length < 1 := (List.getElem?_eq_some_iff.mp new).1
      obtain rfl := List.mem_singleton.mp (List.mem_of_getElem? new)
      exact .inr ⟨by omega, taken k hk⟩
  intro j l ρ ρ' k hj hl hk hk'
  rcases carried hj hk with ⟨other, -, old⟩ | ⟨rfl, own⟩ <;>
    rcases carried hl hk' with ⟨other', -, old'⟩ | ⟨rfl, own'⟩
  · exact distinct _ _ _ _ k old old' hk hk'
  · exact absurd (distinct _ _ _ _ k old at_i hk own') other
  · exact absurd (distinct _ _ _ _ k old' at_i hk' own) other'
  · rfl

theorem distinct_append {φ : α} (distinct : Distinct key φs) (bare : key φ = none) :
    Distinct key (φs ++ [φ]) := by
  intro j l χ χ' k hj hl hk hk'
  have old : ∀ {m : Nat} {χ : α}, (φs ++ [φ])[m]? = some χ → key χ = some k → φs[m]? = some χ := by
    intro m χ hm hk
    by_cases hlt : m < φs.length
    · rwa [List.getElem?_append_left hlt] at hm
    · rw [List.getElem?_append_right (Nat.le_of_not_lt hlt)] at hm
      obtain rfl := List.mem_singleton.mp (List.mem_of_getElem? hm)
      rw [bare] at hk
      cases hk
  exact distinct _ _ _ _ k (old hj hk) (old hl hk') hk hk'

end Distinct

/-- A protocol together with the phase each call begins in, the phases it may settle in, and
what is remembered of it once it has settled. -/
structure Discipline (M : Machine) extends Protocol M.Cmd M.Ans where
  begin : M.Req → Phase
  done : Phase → Except M.Err M.Res → Prop
  retire : Phase → Phase

namespace Discipline

variable (D : Discipline M)

def running (call : Call M) : D.Phase :=
  call.hist.foldr (fun e φ => D.after φ e.1 e.2) (D.begin call.req)

def phaseOf (call : Call M) : D.Phase :=
  if call.rest.settled then D.retire (D.running call) else D.running call

def phases (p : Pool M) : List D.Phase := p.calls.map D.phaseOf

def Conforming (p : Pool M) : Prop :=
  ∀ call ∈ p.calls, call.rest.Follows D.toProtocol (D.running call) D.done

/-- A guard in terms of phases. -/
structure Terms where
  start : M.Shared → List D.Phase → M.Req → Prop
  /-- The call at an index, in a phase, performs a command. -/
  act : M.Shared → List D.Phase → Nat → D.Phase → M.Cmd → M.Choice → Prop
  occur : M.Shared → List D.Phase → M.Event → Prop

variable {D} in
def Terms.guard (t : D.Terms) : Guard M
  | p, .start r => t.start p.shared (D.phases p) r
  | p, .run i ch => ∀ call c, p.calls[i]? = some call → call.rest.next? = some c →
      t.act p.shared (D.phases p) i (D.phaseOf call) c ch
  | p, .event e => t.occur p.shared (D.phases p) e

instance Terms.decidable (t : D.Terms) [∀ σ φs r, Decidable (t.start σ φs r)]
    [∀ σ φs i φ c ch, Decidable (t.act σ φs i φ c ch)] [∀ σ φs e, Decidable (t.occur σ φs e)]
    (p : Pool M) (mv : Move M) : Decidable (t.guard p mv) :=
  match mv with
  | .start r => inferInstanceAs (Decidable (t.start p.shared (D.phases p) r))
  | .event e => inferInstanceAs (Decidable (t.occur p.shared (D.phases p) e))
  | .run i ch =>
    match hcall : p.calls[i]? with
    | none => .isTrue fun _ _ h => nomatch hcall.symm.trans h
    | some call =>
      match hnext : call.rest.next? with
      | none => .isTrue fun _ _ h h' => by
          cases Option.some.inj (hcall.symm.trans h)
          cases hnext.symm.trans h'
      | some c => decidable_of_iff (t.act p.shared (D.phases p) i (D.phaseOf call) c ch) (by
          constructor
          · intro allowed call' c' h h'
            cases Option.some.inj (hcall.symm.trans h)
            cases Option.some.inj (hnext.symm.trans h')
            exact allowed
          · exact fun allowed => allowed call c hcall hnext)

/-- What has to be shown of an invariant over the shared state and the callers' phases. -/
structure Preserves (t : D.Terms) (serves : M.Req → Prop)
    (Inv : M.Shared → List D.Phase → Prop) : Prop where
  body : ∀ r, serves r →
    (M.body r).settled = false ∧ (M.body r).Follows D.toProtocol (D.begin r) D.done
  start : ∀ σ φs r, Inv σ φs → t.start σ φs r → serves r ∧ Inv σ (φs ++ [D.begin r])
  occur : ∀ σ φs e σ', Inv σ φs → t.occur σ φs e → M.occur e σ = some σ' → Inv σ' φs
  act : ∀ σ φs i φ c ch a σ' spawned, Inv σ φs → φs[i]? = some φ → D.permits φ c →
    t.act σ φs i φ c ch → M.exec c ch σ = some (a, σ', spawned) →
    D.expects φ c a ∧ (∀ r ∈ spawned, serves r) ∧
      Inv σ' (φs.set i (D.after φ c a) ++ spawned.map D.begin)
  settle : ∀ σ φs i φ r, Inv σ φs → φs[i]? = some φ → D.done φ r → Inv σ (φs.set i (D.retire φ))

variable {D}

/-- What holds of a phase only if it held before holds of the first one. -/
theorem begin_of_running (D : Discipline M) (P : D.Phase → Prop) (back : ∀ φ c a, P (D.after φ c a) → P φ)
    {call : Call M} (h : P (D.running call)) : P (D.begin call.req) := by
  unfold running at h
  generalize call.hist = hist at h
  induction hist with
  | nil => exact h
  | cons e rest ih => exact ih (back _ _ _ h)

theorem phaseOf_unsettled {call : Call M} (h : call.rest.settled = false) :
    D.phaseOf call = D.running call := by
  simp [phaseOf, h]

theorem phaseOf_fresh {r : M.Req} (h : (M.body r).settled = false) :
    D.phaseOf (.fresh r) = D.begin r := phaseOf_unsettled h

theorem phases_getElem? {call : Call M} (h : p.calls[i]? = some call) :
    (D.phases p)[i]? = some (D.phaseOf call) := by
  simp [phases, h]

theorem run?_cases {ch : M.Choice} (h : p.run? i ch = some q) :
    ∃ call c k a σ spawned, p.calls[i]? = some call ∧ call.rest = .op c k ∧
      M.exec c ch p.shared = some (a, σ, spawned) ∧
      q = ⟨σ, p.calls.set i (call.answered c k a) ++ spawned.map .fresh⟩ := by
  unfold Pool.run? at h
  split at h
  · cases h
  · rename_i call hcall
    split at h
    · split at h
      · rename_i c k hrest
        split at h
        · rename_i a σ spawned hexec
          exact ⟨call, c, k, a, σ, spawned, hcall, hrest, hexec, (Option.some.inj h).symm⟩
        · cases h
      · cases h
    · cases h

theorem phases_fresh {spawned : List M.Req} (h : ∀ r ∈ spawned, (M.body r).settled = false) :
    (spawned.map Call.fresh).map D.phaseOf = spawned.map D.begin := by
  rw [List.map_map]
  exact List.map_congr_left fun r hr => phaseOf_fresh (h r hr)

theorem step_invariant {t : D.Terms} {serves : M.Req → Prop} {Inv : M.Shared → List D.Phase → Prop}
    (pres : D.Preserves t serves Inv) {mv : Move M} (hok : t.guard p mv) (h : p.step? mv = some q)
    (conf : D.Conforming p) (inv : Inv p.shared (D.phases p)) :
    D.Conforming q ∧ Inv q.shared (D.phases q) := by
  cases mv with
  | start r =>
    cases h
    obtain ⟨served, inv'⟩ := pres.start _ _ r inv hok
    obtain ⟨unsettled, follows⟩ := pres.body r served
    refine ⟨?_, ?_⟩
    · intro call hcall
      rcases List.mem_append.mp hcall with old | new
      · exact conf call old
      · cases List.mem_singleton.mp new
        exact follows
    · simpa [phases, phaseOf_fresh unsettled] using inv'
  | event e =>
    simp only [Pool.step?, Option.map_eq_some_iff] at h
    obtain ⟨σ, hσ, rfl⟩ := h
    exact ⟨conf, pres.occur _ _ e σ inv hok hσ⟩
  | run i ch =>
    obtain ⟨call, c, k, a, σ, spawned, hcall, hrest, hexec, rfl⟩ := run?_cases h
    have own := conf call (List.mem_of_getElem? hcall)
    rw [hrest] at own
    have unsettled : call.rest.settled = false := by rw [hrest]; rfl
    have phase : D.phaseOf call = D.running call := phaseOf_unsettled unsettled
    have acts := hok call c hcall (by rw [hrest]; rfl)
    have at_i := phases_getElem? (D := D) hcall
    rw [phase] at acts at_i
    obtain ⟨expected, served, inv'⟩ :=
      pres.act _ _ i _ c ch a σ spawned inv at_i own.1 acts hexec
    have follows := own.2 a expected
    have bodies := fun r hr => pres.body r (served r hr)
    refine ⟨?_, ?_⟩
    · intro other hother
      rcases List.mem_append.mp hother with old | new
      · rcases List.mem_or_eq_of_mem_set old with same | rfl
        · exact conf other same
        · exact follows
      · obtain ⟨r, hr, rfl⟩ := List.mem_map.mp new
        exact (bodies r hr).2
    · have moved : D.phases ⟨σ, p.calls.set i (call.answered c k a) ++ spawned.map .fresh⟩ =
          (D.phases p).set i (D.phaseOf (call.answered c k a)) ++ spawned.map D.begin := by
        simp only [phases, List.map_append, List.map_set]
        rw [phases_fresh fun r hr => (bodies r hr).1]
      rw [moved]
      by_cases ended : (k a).settled = true
      · have retired : D.phaseOf (call.answered c k a) = D.retire (D.after (D.running call) c a) := by
          simp [phaseOf, Call.answered, ended, running]
        obtain ⟨r, hr⟩ : ∃ r, D.done (D.after (D.running call) c a) r := by
          cases hk : k a with
          | ret v => rw [hk] at follows; exact ⟨_, follows⟩
          | fail e => rw [hk] at follows; exact ⟨_, follows⟩
          | op c k => rw [hk] at ended; cases ended
        have hi : i < (D.phases p).length := (List.getElem?_eq_some_iff.mp at_i).1
        have settled := pres.settle _ _ i _ r inv' (by
          rw [List.getElem?_append_left (by simpa using hi), List.getElem?_set_self hi]) hr
        rw [List.set_append_left _ _ (by simpa using hi), List.set_set] at settled
        rwa [retired]
      · rw [phaseOf_unsettled (by simpa [Call.answered] using ended)]
        exact inv'

/-- An invariant that every command preserves holds after every guarded run, and so does the
protocol. -/
theorem run_invariant {t : D.Terms} {serves : M.Req → Prop} {Inv : M.Shared → List D.Phase → Prop}
    (pres : D.Preserves t serves Inv) (h : Run t.guard p q) (conf : D.Conforming p)
    (inv : Inv p.shared (D.phases p)) :
    D.Conforming q ∧ Inv q.shared (D.phases q) := by
  induction h with
  | refl => exact ⟨conf, inv⟩
  | step mv _ hok hstep ih => exact step_invariant pres hok hstep ih.1 ih.2

theorem genuine_of_no_calls (h : p.calls = []) : p.Genuine := by
  intro call hcall
  rw [h] at hcall
  cases hcall

theorem step_genuine {mv : Move M} (h : p.step? mv = some q) (gen : p.Genuine) :
    q.Genuine := by
  have fresh : ∀ r, Reaches (M.body r) (Call.fresh r).hist (Call.fresh r).rest := fun _ => .start
  intro call hcall
  cases mv with
  | start r =>
    cases h
    rcases List.mem_append.mp hcall with old | new
    · exact gen call old
    · cases List.mem_singleton.mp new
      exact fresh r
  | event e =>
    simp only [Pool.step?, Option.map_eq_some_iff] at h
    obtain ⟨σ, -, rfl⟩ := h
    exact gen call hcall
  | run i ch =>
    obtain ⟨own, c, k, a, σ, spawned, at_i, rest, -, rfl⟩ := run?_cases h
    rcases List.mem_append.mp hcall with old | new
    · rcases List.mem_or_eq_of_mem_set old with same | rfl
      · exact gen call same
      · have reached := gen own (List.mem_of_getElem? at_i)
        rw [rest] at reached
        exact .answered a reached
    · obtain ⟨r, -, rfl⟩ := List.mem_map.mp new
      exact fresh r

theorem step_grows {mv : Move M} (h : p.step? mv = some q) : p.Grows q := by
  intro call hcall
  cases mv with
  | start r =>
    cases h
    exact ⟨call, List.mem_append_left _ hcall, rfl, fun _ => id⟩
  | event e =>
    simp only [Pool.step?, Option.map_eq_some_iff] at h
    obtain ⟨σ, -, rfl⟩ := h
    exact ⟨call, hcall, rfl, fun _ => id⟩
  | run i ch =>
    obtain ⟨own, c, k, a, σ, spawned, at_i, -, -, rfl⟩ := run?_cases h
    obtain ⟨j, at_j⟩ := List.mem_iff_getElem?.mp hcall
    have within : j < p.calls.length := (List.getElem?_eq_some_iff.mp at_j).1
    by_cases same : j = i
    · subst same
      cases Option.some.inj (at_i.symm.trans at_j)
      exact ⟨_, List.mem_append_left _ (List.mem_set within _), rfl,
        fun e he => List.mem_cons_of_mem _ he⟩
    · refine ⟨call, List.mem_append_left _ (List.mem_iff_getElem?.mpr ⟨j, ?_⟩), rfl, fun _ => id⟩
      rw [List.getElem?_set_ne (Ne.symm same), at_j]

/-- What holds of every answer given along a run holds of all that was answered. -/
theorem run_answers {ok : Guard M} {P : (c : M.Cmd) → M.Ans c → Prop} (h : Run ok p q)
    (start : p.calls = [])
    (answers : ∀ (r : Pool M) i ch call c a σ spawned, ok r (.run i ch) → r.calls[i]? = some call →
      call.rest.next? = some c → M.exec c ch r.shared = some (a, σ, spawned) → P c a) :
    ∀ call ∈ q.calls, ∀ e ∈ call.hist, P e.1 e.2 := by
  induction h with
  | refl =>
    intro call hcall
    rw [start] at hcall
    cases hcall
  | step mv _ hok hstep ih =>
    intro call hcall
    cases mv with
    | start r =>
      cases hstep
      rcases List.mem_append.mp hcall with old | new
      · exact ih call old
      · cases List.mem_singleton.mp new
        exact fun _ h => nomatch h
    | event e =>
      simp only [Pool.step?, Option.map_eq_some_iff] at hstep
      obtain ⟨σ, -, rfl⟩ := hstep
      exact ih call hcall
    | run i ch =>
      obtain ⟨own, c, k, a, σ, spawned, at_i, rest, hexec, rfl⟩ := run?_cases hstep
      rcases List.mem_append.mp hcall with old | new
      · rcases List.mem_or_eq_of_mem_set old with same | rfl
        · exact ih call same
        · intro e he
          rcases List.mem_cons.mp he with rfl | earlier
          · exact answers _ i ch own c a σ spawned hok at_i (by rw [rest]; rfl) hexec
          · exact ih own (List.mem_of_getElem? at_i) e earlier
      · obtain ⟨r, -, rfl⟩ := List.mem_map.mp new
        exact fun _ h => nomatch h

theorem run_genuine {ok : Guard M} (h : Run ok p q) (gen : p.Genuine) :
    q.Genuine := by
  induction h with
  | refl => exact gen
  | step mv _ _ hstep ih => exact step_genuine hstep ih

/-- A pool without calls conforms to every protocol. -/
theorem conforming_of_no_calls (h : p.calls = []) :
    D.Conforming p ∧ D.phases p = [] := by
  refine ⟨?_, by simp [phases, h]⟩
  intro call hcall
  rw [h] at hcall
  cases hcall

theorem retired_of_quiescent (conf : D.Conforming p) (quiet : p.Quiescent) {φ : D.Phase}
    (h : φ ∈ D.phases p) : ∃ ψ r, φ = D.retire ψ ∧ D.done ψ r := by
  obtain ⟨call, hcall, rfl⟩ := List.mem_map.mp h
  have own := conf call hcall
  have ended := quiet call hcall
  refine ⟨D.running call, ?_⟩
  cases hrest : call.rest with
  | ret a => rw [hrest] at own ended; exact ⟨_, by simp [phaseOf, hrest, ended], own⟩
  | fail e => rw [hrest] at own ended; exact ⟨_, by simp [phaseOf, hrest, ended], own⟩
  | op c k => rw [hrest] at ended; cases ended

end Discipline

end Interleave
