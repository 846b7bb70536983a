import BiliSyncPlay.Service.Effects

/-!
# What a sweep acknowledges

The reaper hands the orphan claims it dealt with back to the store. A code counts as dealt with
once the wait for its teardown ended without an error, whatever the teardown reported. From the
moment a sweep takes a code up, the ledger of its node loses the code's entry for good unless
another collection makes one.
-/

namespace BiliSyncPlay

open Interleave Discipline Prog

abbrev History := List ((c : Cmd) × c.Ans)

/-- Why a collection took a code for settled. -/
def TakenAsSettled (h : History) (n : NodeId) (code : Code) : Prop :=
  ((∃ room, ⟨.getRoom code, .ok (some room)⟩ ∈ h) ∧
      ⟨.forgetRuntimeTeardownDebt n code, ()⟩ ∈ h) ∨
    ∃ g id bound r, ⟨.startRuntimeTeardownEffect n code g, id⟩ ∈ h ∧
      ⟨.awaitEffect id bound, some r⟩ ∈ h ∧ ∀ f, r ≠ .failed f

/-- Whether the node's entry of the code was dropped, or a teardown of it was started. -/
def addresses (n : NodeId) (code : Code) : (c : Cmd) × c.Ans → Bool
  | ⟨.forgetRuntimeTeardownDebt m c, _⟩ => m = n ∧ c = code
  | ⟨.startRuntimeTeardownEffect m c _, _⟩ => m = n ∧ c = code
  | _ => false

/-- Whether the store handed out an orphan claim of the code. -/
def handsClaim (code : Code) : (c : Cmd) × c.Ans → Bool
  | ⟨.deleteExpiredRooms _, .ok swept⟩ =>
    swept.orphanedIndexClaims.any fun claim => claim.code = code
  | _ => false

def acknowledges : (c : Cmd) × c.Ans → Bool
  | ⟨.acknowledgeOrphanedIndexClaims _, _⟩ => true
  | _ => false

/-- A sweep addresses a code once, after it was handed the claims, and acknowledges once, those
whose codes its own collection took for settled. -/
abbrev sweeping (n : NodeId) : Protocol Cmd Cmd.Ans := recording fun h c =>
  match c with
  | .deleteExpiredRooms _ => ∀ code, h.any (addresses n code) = false
  | .rememberRuntimeTeardownDebt m code => h.any (addresses m code) = false
  | .startRuntimeTeardownEffect m code _ => h.any (addresses m code) = false
  | .acknowledgeOrphanedIndexClaims claims => h.any acknowledges = false ∧ ∀ claim ∈ claims,
    TakenAsSettled h n claim.code ∧ h.any (handsClaim claim.code)
  | _ => True

variable {code : Code} {g : Option Generation} {h h' : History} {n : NodeId}

theorem TakenAsSettled.mono (sub : ∀ e ∈ h, e ∈ h') (taken : TakenAsSettled h n code) :
    TakenAsSettled h' n code := by
  obtain ⟨⟨room, read⟩, forgot⟩ | ⟨g, id, bound, r, start, wait, fine⟩ := taken
  · exact .inl ⟨⟨room, sub _ read⟩, sub _ forgot⟩
  · exact .inr ⟨g, id, bound, r, sub _ start, sub _ wait, fine⟩

/-- A history grown by what a collection did about one code, and what it made of the code. -/
structure Grown (h : History) (n : NodeId) (code : Code) (h' : History) (r : Except Err Bool) :
    Prop where
  grows : ∃ done, h' = done ++ h ∧ ∀ e ∈ done, acknowledges e = false ∧
    ∀ other, code ≠ other → addresses n other e = false
  taken : r = .ok true → TakenAsSettled h' n code

theorem Grown.older {r : Except Err Bool} (grown : Grown h n code h' r) : ∀ e ∈ h, e ∈ h' := by
  obtain ⟨done, rfl, -⟩ := grown.grows
  exact fun e he => List.mem_append_right _ he

theorem Grown.elsewhere {other : Code} {r : Except Err Bool} (grown : Grown h n code h' r)
    (ne : code ≠ other) (fresh : h.any (addresses n other) = false) :
    h'.any (addresses n other) = false := by
  obtain ⟨done, rfl, quiet⟩ := grown.grows
  rw [List.any_append, fresh, Bool.or_false]
  exact List.any_eq_false.mpr fun e he => by simp [(quiet e he).2 other ne]

theorem Grown.extend {past : History} {r : Except Err Bool}
    (quiet : ∀ e ∈ past, acknowledges e = false ∧ ∀ other, addresses n other e = false)
    (grown : Grown (past ++ h) n code h' r) : Grown h n code h' r where
  grows := by
    obtain ⟨done, rfl, still⟩ := grown.grows
    refine ⟨done ++ past, (List.append_assoc ..).symm, fun e he => ?_⟩
    rcases List.mem_append.mp he with new | old
    · exact still e new
    · exact ⟨(quiet e old).1, fun other _ => (quiet e old).2 other⟩
  taken := grown.taken

theorem follows_awaitRuntimeTeardown {caller : RoomReadCaller}
    (fresh : h.any (addresses n code) = false) :
    Follows (sweeping n) h (awaitRuntimeTeardown n code g caller) (Grown h n code) := by
  simp only [awaitRuntimeTeardown, ask, follows_bind, follows_perform, fresh, true_and,
    forall_const, andThen_ok]
  intro id settled
  have gaveUp : ∀ line, Grown h n code (⟨.logEvent line, ()⟩ ::
      ⟨.awaitEffect id caller.bound, settled⟩ :: ⟨.startRuntimeTeardownEffect n code g, id⟩ :: h)
      (.ok false) :=
    fun line => ⟨⟨[_, _, _], rfl, by simp +contextual [acknowledges, addresses]⟩, by simp⟩
  have taken : ∀ r, (∀ f, r ≠ .failed f) → settled = some r → Grown h n code
      (⟨.awaitEffect id caller.bound, settled⟩ :: ⟨.startRuntimeTeardownEffect n code g, id⟩ :: h)
      (.ok true) := by
    rintro r fine rfl
    refine ⟨⟨[_, _], rfl, by simp +contextual [acknowledges, addresses]⟩, fun _ => .inr ?_⟩
    exact ⟨g, id, caller.bound, r, List.mem_cons_of_mem _ (List.mem_cons_self ..),
      List.mem_cons_self .., fine⟩
  cases settled with
  | none =>
    simp only [logEvent, ask, follows_bind, follows_perform, true_and, forall_const, andThen_ok,
      follows_pure]
    exact fun _ => gaveUp _
  | some settled =>
    cases settled with
    | failed f =>
      simp only [logEvent, ask, follows_bind, follows_perform, true_and, forall_const, andThen_ok,
        follows_pure]
      exact fun _ => gaveUp _
    | _ => exact taken _ (by simp) rfl

theorem follows_collectCandidate {caller : RoomReadCaller} {debt : Option RuntimeTeardownDebt}
    (fresh : h.any (addresses n code) = false) :
    Follows (sweeping n) h (collectCandidate n caller code debt) (Grown h n code) := by
  have undecided : ∀ past : History, (∀ e ∈ past, acknowledges e = false ∧
      ∀ other, addresses n other e = false) → Grown h n code (past ++ h) (.ok false) :=
    fun past quiet => ⟨⟨past, rfl, fun e he => ⟨(quiet e he).1, fun other _ => (quiet e he).2 other⟩⟩,
      by simp⟩
  have awaits : ∀ (g : Option Generation) (past : History), (∀ e ∈ past, acknowledges e = false ∧
      ∀ other, addresses n other e = false) →
      Follows (sweeping n) (past ++ h) (awaitRuntimeTeardown n code g caller) (Grown h n code) := by
    intro g past quiet
    refine (follows_awaitRuntimeTeardown ?_).mono fun _ _ grown => grown.extend quiet
    rw [List.any_append, fresh, Bool.or_false]
    exact List.any_eq_false.mpr fun e he => by simp [(quiet e he).2 code]
  simp only [collectCandidate, ask, follows_bind, follows_perform, true_and, forall_const,
    andThen_ok]
  intro pinned
  cases pinned with
  | error f =>
    exact ⟨by simpa [addresses] using fresh,
      fun _ _ => undecided [_, _] (by simp [acknowledges, addresses])⟩
  | ok g =>
    simp only [follows_bind, follows_perform, true_and, forall_const, andThen_ok]
    intro found
    cases found with
    | error f =>
      exact ⟨by simpa [addresses] using fresh,
        fun _ _ => undecided [_, _, _] (by simp [acknowledges, addresses])⟩
    | ok found =>
      cases found with
      | some room =>
        refine ⟨trivial, fun _ _ => ⟨⟨[_, _, _], rfl, by simp +contextual [acknowledges, addresses]⟩,
          fun _ => .inl ⟨⟨room, ?_⟩, List.mem_cons_self ..⟩⟩⟩
        exact List.mem_cons_of_mem _ (List.mem_cons_self ..)
      | none =>
        simp only [follows_bind, follows_perform, true_and, forall_const, andThen_ok]
        intro confirmed
        cases confirmed with
        | error f =>
          exact ⟨by simpa [addresses] using fresh,
            fun _ _ => undecided [_, _, _, _] (by simp [acknowledges, addresses])⟩
        | ok g' =>
          dsimp only
          split
          · exact undecided [_, _, _] (by simp [acknowledges, addresses])
          · cases debt with
            | none => exact awaits g [_, _, _] (by simp [acknowledges, addresses])
            | some debt =>
              simp only [follows_bind, follows_perform, true_and, forall_const, andThen_ok]
              intro current
              split
              · exact undecided [_, _, _, _] (by simp [acknowledges, addresses])
              · exact awaits g [_, _, _, _] (by simp [acknowledges, addresses])

theorem follows_collectCandidates {caller : RoomReadCaller}
    (candidates : List (Code × Option RuntimeTeardownDebt)) (once : (candidates.map Prod.fst).Nodup)
    (fresh : ∀ code ∈ candidates.map Prod.fst, h.any (addresses n code) = false) :
    Follows (sweeping n) h (collectCandidates n caller candidates) fun h' r =>
      (∃ done, h' = done ++ h ∧ ∀ e ∈ done, acknowledges e = false) ∧
      ∀ codes, r = .ok codes → ∀ code ∈ codes, TakenAsSettled h' n code := by
  induction candidates generalizing h with
  | nil => exact ⟨⟨[], rfl, by simp⟩, fun codes own => by cases own; simp⟩
  | cons candidate rest ih =>
    obtain ⟨code, debt⟩ := candidate
    obtain ⟨apart, once⟩ := List.nodup_cons.mp once
    simp only [collectCandidates, follows_bind]
    refine (follows_collectCandidate (fresh code (by simp))).mono fun h' r grown => ?_
    have quiet : ∃ done, h' = done ++ h ∧ ∀ e ∈ done, acknowledges e = false := by
      obtain ⟨done, own, quiet⟩ := grown.grows
      exact ⟨done, own, fun e he => (quiet e he).1⟩
    cases r with
    | error e => exact ⟨quiet, (by simp)⟩
    | ok settled =>
      simp only [andThen_ok, follows_bind]
      refine (ih once fun other mem => ?_).mono fun h'' r' later => ?_
      · exact grown.elsewhere (fun same => apart (same ▸ mem))
          (fresh other (List.mem_cons_of_mem _ mem))
      · obtain ⟨⟨more, rfl, still⟩, taken⟩ := later
        have grows : ∃ done, more ++ h' = done ++ h ∧ ∀ e ∈ done, acknowledges e = false := by
          obtain ⟨done, rfl, quiet⟩ := quiet
          refine ⟨more ++ done, (List.append_assoc ..).symm, fun e he => ?_⟩
          exact (List.mem_append.mp he).elim (still e) (quiet e)
        cases r' with
        | error e => exact ⟨grows, (by simp)⟩
        | ok codes =>
          refine ⟨grows, fun codes' own => ?_⟩
          cases own
          cases settled with
          | false => exact taken codes rfl
          | true =>
            intro c hc
            rcases List.mem_cons.mp hc with rfl | old
            · exact (grown.taken rfl).mono fun e he => List.mem_append_right _ he
            · exact taken codes rfl c old

theorem follows_deleteExpiredRooms (cfg : Config) :
    Follows (sweeping n) [] (body cfg (.deleteExpiredRooms n)) fun _ _ => True := by
  simp only [body, deleteExpiredRooms, call, ask, follows_bind, follows_perform, true_and,
    forall_const, andThen_ok]
  refine fun now => ⟨fun code => rfl, fun swept => ?_⟩
  cases swept with
  | error f => trivial
  | ok swept =>
    simp only [follows_pure, andThen_ok, follows_bind, follows_perform, true_and, forall_const,
      collectRuntimeStateForDeletedRooms]
    intro pending
    refine (follows_collectCandidates _ (JsMap.nodup _) fun code _ => by simp [addresses]).mono
      fun h r grown => ?_
    cases r with
    | error e => trivial
    | ok codes =>
      simp only [andThen_ok]
      split
      · simp only [follows_bind, follows_perform, forall_const, andThen_ok]
        obtain ⟨⟨done, rfl, quiet⟩, taken⟩ := grown
        refine ⟨⟨?_, fun claim mem => ⟨?_, ?_⟩⟩, fun result => ?_⟩
        · rw [List.any_append, Bool.or_eq_false_iff]
          exact ⟨List.any_eq_false.mpr fun e he => by simp [quiet e he], rfl⟩
        · exact taken codes rfl _ (by simpa using (List.mem_filter.mp mem).2)
        · refine List.any_eq_true.mpr ⟨⟨.deleteExpiredRooms now, .ok swept⟩, by simp, ?_⟩
          exact List.any_eq_true.mpr ⟨claim, (List.mem_filter.mp mem).1, decide_eq_true rfl⟩
        · cases result with
          | ok _ => trivial
          | error f => exact ⟨trivial, fun _ _ => trivial⟩
      · trivial

/-! ## Teardowns that apply -/

/-- A guarded delete that runs while the generation it was decided against is still current. -/
def Cmd.Current (σ : World) : Cmd → Prop
  | .deleteRoomRuntime code g => σ.runtime.getRoomGeneration code = g
  | _ => True

instance (σ : World) (c : Cmd) : Decidable (c.Current σ) := by
  cases c <;> unfold Cmd.Current <;> infer_instance

/-- Every guarded delete is current when it runs. -/
abbrev undeclined (cfg : Config) (calm : Prop) : (roomDiscipline cfg calm).Terms where
  start _ _ r := r.entry = true
  act σ _ _ _ c _ := c.Current σ
  occur _ _ _ := True

/-- The store tore the runtime state of the code down, and the caller waited for it. -/
def TornDown {cfg : Config} (p : Pool (machine cfg)) (h : History) (code : Code) : Prop :=
  ∃ n g id bound, ⟨.awaitEffect id bound, some (.applied true)⟩ ∈ h ∧
    ∃ effect ∈ p.calls, effect.req = .effect n id (.teardown code g) ∧
      (⟨.deleteRoomRuntime code g, .ok true⟩ : (c : Cmd) × c.Ans) ∈ effect.hist

theorem applied_of_undeclined {cfg : Config} {w : World} {q : Pool (machine cfg)}
    (run : Run (undeclined cfg False).guard ⟨w, []⟩ q) :
    ∀ call ∈ q.calls, ∀ code g b,
      (⟨.deleteRoomRuntime code g, .ok b⟩ : (c : Cmd) × c.Ans) ∈ call.hist → b = true := by
  have answers := run_answers (P := fun c a => ∀ code g b,
    (⟨c, a⟩ : (c : Cmd) × c.Ans) = ⟨.deleteRoomRuntime code g, .ok b⟩ → b = true) run rfl ?_
  · exact fun call mem code g b own => answers call mem _ own code g b rfl
  · rintro r i ch call c a σ spawned ok at_i next hexec code g b own
    cases own
    have current : r.shared.runtime.getRoomGeneration code = g := ok call _ at_i next
    simp only [exec] at hexec
    rw [(call_ok hexec).1, World.withRuntime, RuntimeStore.deleteRoom]
    simp [current]

/-! ## Codes nobody else touches -/

def failsWait (id : EffectId) : (c : Cmd) × c.Ans → Bool
  | ⟨.awaitEffect e _, some (.failed _)⟩ => e = id
  | _ => false

/-- Whether the code was found alive here, or a teardown of it started that was not seen to
fail. -/
def takesUp (h : History) (n : NodeId) (code : Code) : (c : Cmd) × c.Ans → Bool
  | ⟨.forgetRuntimeTeardownDebt m c, _⟩ => m = n ∧ c = code
  | ⟨.startRuntimeTeardownEffect m c _, id⟩ => m = n ∧ c = code ∧ h.any (failsWait id) = false
  | _ => false

section Undisturbed

variable {cfg : Config}

/-- The sweep was handed a claim of the code and has acknowledged nothing yet. -/
def owes (call : Call (machine cfg)) (n : NodeId) (code : Code) : Bool :=
  call.req = .deleteExpiredRooms n ∧ call.hist.any (handsClaim code) ∧
    call.hist.any acknowledges = false

/-- The teardown about to be joined lost the code's entry to somebody else. -/
def Cmd.joinsDisowned (w : World) : Cmd → Option (NodeId × Code)
  | .startRuntimeTeardownEffect n code g =>
    match (w.nodes n).runtimeTeardownEffects.get? (code, g), w.debt? n code with
    | some id, some debt => if debt.owner = some id then none else some (n, code)
    | _, _ => none
  | _ => none

/-- The command leaves the entries alone that sweeps have taken up, and joins no teardown that
lost its code's entry. -/
def Spares (p : Pool (machine cfg)) (i : Nat) (call : Call (machine cfg)) (c : Cmd) : Prop :=
  (∀ k ∈ c.touches p.shared, ∀ j < p.calls.length, j ≠ i → ∀ sweep ∈ p.calls[j]?,
    owes sweep k.1 k.2 → sweep.hist.any (takesUp sweep.hist k.1 k.2) = false) ∧
  ∀ k ∈ c.joinsDisowned p.shared, owes call k.1 k.2 = false

instance (p : Pool (machine cfg)) (i : Nat) (call : Call (machine cfg)) (c : Cmd) :
    Decidable (Spares p i call c) := by unfold Spares; infer_instance

/-- No other collection makes or takes over the entry of a code between a sweep's taking it up
and the acknowledgement, and no sweep joins a teardown that lost the entry. -/
def Undisturbed (p : Pool (machine cfg)) : Move (machine cfg) → Prop
  | .run i _ => ∀ call ∈ p.calls[i]?, ∀ c ∈ call.rest.next?, Spares p i call c
  | _ => True

instance (p : Pool (machine cfg)) (mv : Move (machine cfg)) : Decidable (Undisturbed p mv) :=
  match mv with
  | .run i _ => inferInstanceAs
      (Decidable (∀ call ∈ p.calls[i]?, ∀ c ∈ call.rest.next?, Spares p i call c))
  | .start _ | .event _ => inferInstanceAs (Decidable True)

abbrev undisturbed (cfg : Config) : Guard (machine cfg) := fun p mv =>
  (undeclined cfg False).guard p mv ∧ Undisturbed p mv

/-! ## What an effect reported -/

variable {id : EffectId}

/-- Nobody but its own call settles a teardown, with what the store answered. -/
theorem report_of_settled {q : Pool (machine cfg)} (genuine : q.Genuine) (tracked : Tracked q)
    {effect : Call (machine cfg)} (mem : effect ∈ q.calls)
    (req : effect.req = .effect n id (.teardown code g)) {r : Settled} (settled : SettledAs q id r) :
    ∃ res, r = .ofTeardown res ∧
      effect.hist = [⟨.settleRuntimeTeardown n code g id res, ()⟩,
        ⟨.deleteRoomRuntime code g, res⟩] := by
  obtain ⟨settler, hsettler, own, e, he, settles⟩ := settled
  obtain rfl : settler = effect := by
    obtain ⟨i, at_i⟩ := List.mem_iff_getElem?.mp hsettler
    obtain ⟨j, at_j⟩ := List.mem_iff_getElem?.mp mem
    obtain rfl := tracked.alone i j _ _ id at_i at_j own (congrArg Req.effectId? req)
    exact Option.some.inj (at_i.symm.trans at_j)
  have reached := genuine settler hsettler
  rw [req] at reached
  rcases teardown_history cfg reached with ⟨hist, -⟩ | ⟨res, hist, -⟩ | ⟨res, hist, -⟩
  · rw [hist] at he
    cases he
  · rw [hist] at he
    cases List.mem_singleton.mp he
    cases settles
  · rw [hist] at he
    rcases List.mem_cons.mp he with rfl | he
    · cases settles
      exact ⟨res, rfl, hist⟩
    · cases List.mem_singleton.mp he
      cases settles

/-- A command that settles a teardown is the report of its own call. -/
theorem settles_teardown {p : Pool (machine cfg)} (conf : (roomDiscipline cfg False).Conforming p)
    (genuine : p.Genuine) (tracked : Tracked p) {own : Call (machine cfg)} (mem : own ∈ p.calls)
    {c : Cmd} (next : own.rest.next? = some c) {r : Settled} (settles : c.settles = some (id, r))
    (called : Called p (.effect n id (.teardown code g))) :
    ∃ res, c = .settleRuntimeTeardown n code g id res ∧ r = .ofTeardown res ∧
      own.hist = [⟨.deleteRoomRuntime code g, res⟩] := by
  have follows := conf own mem
  cases hrest : own.rest with
  | ret | fail => rw [hrest] at next; cases next
  | op c k =>
    rw [hrest] at next follows
    cases next
    obtain ⟨effect, hmem, req⟩ := called
    have owns : own.req.effectId? = some id :=
      req_of_effectId (effectId_of_settles follows.1 settles)
    obtain ⟨i, at_i⟩ := List.mem_iff_getElem?.mp mem
    obtain ⟨j, at_j⟩ := List.mem_iff_getElem?.mp hmem
    obtain rfl := tracked.alone i j _ _ id at_i at_j owns (congrArg Req.effectId? req)
    cases Option.some.inj (at_i.symm.trans at_j)
    have reached := genuine own mem
    rw [req, hrest] at reached
    rcases teardown_history cfg reached with ⟨-, h⟩ | ⟨res, hist, h⟩ | ⟨res, -, h⟩
    · cases h
      cases settles
    · cases h
      cases settles
      exact ⟨res, rfl, rfl, hist⟩
    · cases h

/-- Only the step's own command adds to what is settled. -/
theorem settledAs_step {p : Pool (machine cfg)} {i : Nat} {own : Call (machine cfg)} {c : Cmd}
    {k : c.Ans → Service Res} {a : c.Ans} {spawned : List (machine cfg).Req} {σ : World}
    (at_i : p.calls[i]? = some own) {r : Settled} (settled : SettledAs
      (⟨σ, p.calls.set i (own.answered c k a) ++ spawned.map .fresh⟩ : Pool (machine cfg)) id r) :
    SettledAs p id r ∨ c.settles = some (id, r) := by
  obtain ⟨call, mem, owns, e, he, settles⟩ := settled
  rcases List.mem_append.mp mem with set | new
  · rcases List.mem_or_eq_of_mem_set set with old | rfl
    · exact .inl ⟨call, old, owns, e, he, settles⟩
    · rcases List.mem_cons.mp he with rfl | earlier
      · exact .inr settles
      · exact .inl ⟨own, List.mem_of_getElem? at_i, owns, e, earlier, settles⟩
  · obtain ⟨r', -, rfl⟩ := List.mem_map.mp new
    cases he

/-! ## Entries of codes that were taken up -/

/-- The entry is gone, or the teardown failed, or is under way and takes the entry with it. -/
def Pledged (q : Pool (machine cfg)) (n : NodeId) (code : Code) (id : EffectId) : Prop :=
  q.shared.debt? n code = none ∨ (∃ f, SettledAs q id (.failed f)) ∨
    ((∀ r, ¬SettledAs q id r) ∧
      ∃ debt, q.shared.debt? n code = some debt ∧ debt.owner = some id)

structure Pledges (q : Pool (machine cfg)) : Prop where
  unreported : ∀ n code g id, (q.shared.nodes n).runtimeTeardownEffects.get? (code, g) = some id →
    ∀ r, ¬SettledAs q id r
  forgotten : ∀ sweep ∈ q.calls, ∀ n code, owes sweep n code →
    ⟨.forgetRuntimeTeardownDebt n code, ()⟩ ∈ sweep.hist → q.shared.debt? n code = none
  pledged : ∀ sweep ∈ q.calls, ∀ n code g id, owes sweep n code →
    ⟨.startRuntimeTeardownEffect n code g, id⟩ ∈ sweep.hist →
    sweep.hist.any (failsWait id) = false → Pledged q n code id

theorem vacant_kept {c : Cmd} {ch : Choice} {w w' : World} {a : c.Ans} {rs : List Req}
    (h : exec cfg c ch w = some (a, w', rs)) (vacant : w.debt? n code = none)
    (untouched : c.touches w ≠ some (n, code)) :
    w'.debt? n code = none := by
  rcases exec_debt h n code with same | ⟨-, gone⟩ | ⟨touched, -⟩ | ⟨g, id, r, debt, -, owed, -⟩
  · rw [same, vacant]
  · exact gone
  · exact absurd touched untouched
  · rw [vacant] at owed
    cases owed

theorem owes_before {own : Call (machine cfg)} {c : Cmd} {k : c.Ans → Service Res} {a : c.Ans}
    (bare : handsClaim code ⟨c, a⟩ = false) (h : owes (own.answered c k a) n code) :
    owes own n code := by
  simp only [owes, Call.answered, List.any_cons, bare, Bool.false_or, Bool.or_eq_false_iff,
    decide_eq_true_eq] at h ⊢
  exact ⟨h.1, h.2.1, h.2.2.2⟩

theorem bare_of_addressed {c : Cmd} {a : c.Ans} (permits : (sweeping n).permits h c)
    (addressed : h.any (addresses n code)) :
    handsClaim code ⟨c, a⟩ = false := by
  cases c with
  | deleteExpiredRooms t =>
    rw [permits code] at addressed
    cases addressed
  | _ => rfl

/-- A sweep leaves a code alone once it addressed it. -/
theorem untouched_of_addressed {c : Cmd} {σ : World} (permits : (sweeping n).permits h c)
    (addressed : h.any (addresses n code)) :
    c.touches σ ≠ some (n, code) := by
  intro touched
  cases c with
  | rememberRuntimeTeardownDebt | startRuntimeTeardownEffect =>
    simp only [Cmd.touches, Option.ite_none_right_eq_some, Option.some.injEq, Prod.mk.injEq]
      at touched
    obtain ⟨-, rfl, rfl⟩ := touched
    rw [permits] at addressed
    cases addressed
  | _ => cases touched

theorem sweep_permitted {p : Pool (machine cfg)} (genuine : p.Genuine) {own : Call (machine cfg)}
    (mem : own ∈ p.calls) {c : Cmd} {k : c.Ans → Service Res} (rest : own.rest = .op c k)
    (req : own.req = .deleteExpiredRooms n) : (sweeping n).permits own.hist c := by
  have reached := genuine own mem
  rw [req, rest] at reached
  exact (reached.follows (follows_deleteExpiredRooms cfg)).1

section Step

variable {p : Pool (machine cfg)} {i : Nat} {ch : Choice} {own : Call (machine cfg)} {c : Cmd}
  {k : c.Ans → Service Res} {a : c.Ans} {σ : World} {spawned : List (machine cfg).Req}
  (conf : (roomDiscipline cfg False).Conforming p) (genuine : p.Genuine) (tracked : Tracked p)
  (at_i : p.calls[i]? = some own) (rest : own.rest = .op c k)
  (hexec : exec cfg c ch p.shared = some (a, σ, spawned))

abbrev stepped (p : Pool (machine cfg)) (i : Nat) (own : Call (machine cfg)) (c : Cmd)
    (k : c.Ans → Service Res) (a : c.Ans) (σ : World) (spawned : List (machine cfg).Req) :
    Pool (machine cfg) :=
  ⟨σ, p.calls.set i (own.answered c k a) ++ spawned.map .fresh⟩

include conf genuine tracked at_i rest hexec

theorem unreported_step (inv : Pledges p)
    (named : (σ.nodes n).runtimeTeardownEffects.get? (code, g) = some id) (r : Settled) :
    ¬SettledAs (stepped p i own c k a σ spawned) id r := by
  intro settled
  have mem := List.mem_of_getElem? at_i
  have names : (σ.nodes n).Names id (.teardown code g) := named
  rcases exec_names hexec names with old | new
  · have known : (p.shared.nodes n).runtimeTeardownEffects.get? (code, g) = some id := old
    rcases settledAs_step at_i settled with before | settles
    · exact inv.unreported n code g id known r before
    · obtain ⟨res, rfl, -, -⟩ := settles_teardown conf genuine tracked mem (by rw [rest]; rfl)
        settles (tracked.named n id (.teardown code g) old)
      cases hexec
      rw [World.settleRuntimeTeardown_nodes, if_pos rfl] at named
      dsimp only at named
      rw [if_pos known, JsMap.get?_delete_self] at named
      cases named
  · obtain ⟨own', -⟩ := spawned_ids (exec_spawned hexec) _ new
    cases own'
    rcases settledAs_step at_i settled with ⟨call, hcall, owns, -⟩ | settles
    · exact absurd (tracked.drawn call hcall _ owns) (Nat.lt_irrefl _)
    · have spawns := exec_spawned hexec
      cases spawns with
      | none => cases new
      | tracked | collection => cases settles
      | teardown => cases settles

theorem pledged_step (applied : ∀ call ∈ p.calls, ∀ code g b,
      (⟨.deleteRoomRuntime code g, .ok b⟩ : (c : Cmd) × c.Ans) ∈ call.hist → b = true)
    (grows : p.Grows (stepped p i own c k a σ spawned))
    (called : Called p (.effect n id (.teardown code g)))
    (untouched : c.touches p.shared ≠ some (n, code)) (pledged : Pledged p n code id) :
    Pledged (stepped p i own c k a σ spawned) n code id := by
  have mem := List.mem_of_getElem? at_i
  have within : i < p.calls.length := (List.getElem?_eq_some_iff.mp at_i).1
  have here : own.answered c k a ∈ (stepped p i own c k a σ spawned).calls :=
    List.mem_append_left _ (List.mem_set within _)
  rcases pledged with vacant | ⟨f, failed⟩ | ⟨unsettled, debt, owed, owner⟩
  · exact .inl (vacant_kept hexec vacant untouched)
  · exact .inr (.inl ⟨f, failed.grows grows⟩)
  · by_cases settles : ∃ r, c.settles = some (id, r)
    · obtain ⟨r, settles⟩ := settles
      have follows := conf own mem
      rw [rest] at follows
      have owns : own.req.effectId? = some id :=
        req_of_effectId (effectId_of_settles follows.1 settles)
      obtain ⟨res, rfl, rfl, hist⟩ := settles_teardown conf genuine tracked mem
        (by rw [rest]; rfl) settles called
      cases res with
      | error f =>
        exact .inr (.inl ⟨f, _, here, owns, ⟨.settleRuntimeTeardown n code g id (.error f), a⟩,
          List.mem_cons_self .., rfl⟩)
      | ok b =>
        cases applied own mem code g b (by simp [hist])
        refine .inl ?_
        cases hexec
        rw [World.debt?, World.settleRuntimeTeardown_nodes, if_pos rfl]
        exact (get?_settledDebts_owned owed owner).trans (if_pos rfl)
    · rcases exec_debt hexec n code with same | ⟨-, gone⟩ | ⟨touched, -⟩ |
        ⟨g', id', r, debt', rfl, owed', owner', -⟩
      · refine .inr (.inr ⟨fun r settled => ?_, debt, same.trans owed, owner⟩)
        rcases settledAs_step at_i settled with before | now
        · exact unsettled r before
        · exact settles ⟨r, now⟩
      · exact .inl gone
      · exact absurd touched untouched
      · cases owed.symm.trans owed'
        cases owner.symm.trans owner'
        exact absurd ⟨_, rfl⟩ settles

end Step

theorem Pledged.keep {p q : Pool (machine cfg)}
    (same : q.shared.debt? n code = p.shared.debt? n code) (grows : p.Grows q)
    (settled : ∀ r, SettledAs q id r → SettledAs p id r) (pledged : Pledged p n code id) :
    Pledged q n code id := by
  rcases pledged with vacant | ⟨f, failed⟩ | ⟨unsettled, debt, owed, owner⟩
  · exact .inl (same.trans vacant)
  · exact .inr (.inl ⟨f, failed.grows grows⟩)
  · exact .inr (.inr ⟨fun r now => unsettled r (settled r now), debt, same.trans owed, owner⟩)

theorem addressed_of_forgot (forgot : ⟨.forgetRuntimeTeardownDebt n code, ()⟩ ∈ h) :
    h.any (addresses n code) :=
  List.any_eq_true.mpr ⟨_, forgot, by simp [addresses]⟩

theorem addressed_of_started (start : ⟨.startRuntimeTeardownEffect n code g, id⟩ ∈ h) :
    h.any (addresses n code) :=
  List.any_eq_true.mpr ⟨_, start, by simp [addresses]⟩

theorem takenUp_of_forgot (forgot : ⟨.forgetRuntimeTeardownDebt n code, ()⟩ ∈ h) :
    h.any (takesUp h n code) :=
  List.any_eq_true.mpr ⟨_, forgot, by simp [takesUp]⟩

theorem takenUp_of_started (start : ⟨.startRuntimeTeardownEffect n code g, id⟩ ∈ h)
    (waits : h.any (failsWait id) = false) : h.any (takesUp h n code) :=
  List.any_eq_true.mpr ⟨_, start, by simp only [takesUp, waits]; simp⟩

theorem failed_of_failsWait (fails : h.any (failsWait id)) :
    ∃ bound f, ⟨.awaitEffect id bound, some (.failed f)⟩ ∈ h := by
  obtain ⟨⟨c, a⟩, mem, fails⟩ := List.any_eq_true.mp fails
  cases c with
  | awaitEffect id' bound =>
    cases a with
    | none => cases fails
    | some r =>
      cases r with
      | failed f =>
        obtain rfl : id' = id := of_decide_eq_true fails
        exact ⟨bound, f, mem⟩
      | _ => cases fails
  | _ => cases fails

/-- A teardown a sweep has just started or joined is under way and owns the code's entry. -/
theorem pledged_start {p q : Pool (machine cfg)} (ch : Choice) {rs : List Req}
    (hexec : exec cfg (.startRuntimeTeardownEffect n code g) ch p.shared = some (id, q.shared, rs))
    (unreported : (q.shared.nodes n).runtimeTeardownEffects.get? (code, g) = some id →
      ∀ r, ¬SettledAs q id r)
    (owned : (n, code) ∉ (Cmd.startRuntimeTeardownEffect n code g).joinsDisowned p.shared) :
    Pledged q n code id := by
  simp only [exec, World.startRuntimeTeardownEffect] at hexec
  split at hexec
  · rename_i existing known
    obtain ⟨rfl, same, -⟩ := by simpa using hexec
    rw [← same] at unreported
    cases owed : p.shared.debt? n code with
    | none => exact .inl (by rw [← same, owed])
    | some debt =>
      refine .inr (.inr ⟨unreported known, debt, by rw [← same, owed], ?_⟩)
      by_contra other
      exact owned (by simp [Cmd.joinsDisowned, known, owed, other])
  · obtain ⟨rfl, same, -⟩ := by simpa using hexec
    rw [← same] at unreported
    refine .inr (.inr ⟨unreported ?_, ⟨p.shared.fresh, some p.shared.fresh⟩, ?_, rfl⟩)
    · simp [World.setNode_nodes, World.startEffect]
    · simp [← same, World.debt?, World.setNode_nodes, World.startEffect]

theorem Pledges.start {p : Pool (machine cfg)} (r : Req) (inv : Pledges p) :
    Pledges (⟨p.shared, p.calls ++ [.fresh r]⟩ : Pool (machine cfg)) := by
  have grows := step_grows (show p.step? (.start r) = some ⟨p.shared, p.calls ++ [.fresh r]⟩ from rfl)
  have settled : ∀ id r', SettledAs (⟨p.shared, p.calls ++ [.fresh r]⟩ : Pool (machine cfg)) id r' →
      SettledAs p id r' := by
    rintro id r' ⟨call, mem, owns, e, he, settles⟩
    rcases List.mem_append.mp mem with old | new
    · exact ⟨call, old, owns, e, he, settles⟩
    · cases List.mem_singleton.mp new
      cases he
  have earlier : ∀ sweep ∈ p.calls ++ [Call.fresh r], ∀ e ∈ sweep.hist, sweep ∈ p.calls := by
    intro sweep mem e he
    rcases List.mem_append.mp mem with old | new
    · exact old
    · cases List.mem_singleton.mp new
      cases he
  constructor
  · exact fun n code g id named r' now => inv.unreported n code g id named r' (settled id r' now)
  · exact fun sweep mem n code owed forgot =>
      inv.forgotten sweep (earlier sweep mem _ forgot) n code owed forgot
  · exact fun sweep mem n code g id owed start waits =>
      Pledged.keep (p := p) rfl grows (settled id)
        (inv.pledged sweep (earlier sweep mem _ start) n code g id owed start waits)

theorem Pledges.occur {p : Pool (machine cfg)} {e : Event} {σ : World}
    (happened : BiliSyncPlay.occur e p.shared = some σ) (inv : Pledges p) :
    Pledges (⟨σ, p.calls⟩ : Pool (machine cfg)) := by
  have grows := step_grows (show p.step? (.event e) = some ⟨σ, p.calls⟩ from
    congrArg (Option.map (Pool.mk · p.calls)) happened)
  have debts : ∀ n code, σ.debt? n code = p.shared.debt? n code := by
    intro n code
    obtain ⟨closing, same⟩ := occur_node happened n
    rw [World.debt?, same]
    rfl
  constructor
  · intro n code g id named
    obtain ⟨closing, same⟩ := occur_node happened n
    rw [same] at named
    exact inv.unreported n code g id named
  · exact fun sweep mem n code owed forgot =>
      (debts n code).trans (inv.forgotten sweep mem n code owed forgot)
  · exact fun sweep mem n code g id owed start waits =>
      (inv.pledged sweep mem n code g id owed start waits).keep (debts n code) grows fun _ now => now

theorem step_pledges {p q : Pool (machine cfg)} {mv : Move (machine cfg)}
    (conf : (roomDiscipline cfg False).Conforming p) (genuine : p.Genuine) (tracked : Tracked p)
    (applied : ∀ call ∈ p.calls, ∀ code g b,
      (⟨.deleteRoomRuntime code g, .ok b⟩ : (c : Cmd) × c.Ans) ∈ call.hist → b = true)
    (ok : Undisturbed p mv) (step : p.step? mv = some q) (inv : Pledges p) : Pledges q := by
  have grows := step_grows step
  cases mv with
  | start r =>
    cases step
    exact inv.start r
  | event e =>
    simp only [Pool.step?, Option.map_eq_some_iff] at step
    obtain ⟨σ, happened, rfl⟩ := step
    exact inv.occur happened
  | run i ch =>
    obtain ⟨own, c, k, a, σ, spawned, at_i, rest, hexec, rfl⟩ := run?_cases step
    have mem := List.mem_of_getElem? at_i
    have next : own.rest.next? = some c := by rw [rest]; rfl
    obtain ⟨aside, joins⟩ := ok own at_i c next
    have unreported : ∀ n code g id,
        (σ.nodes n).runtimeTeardownEffects.get? (code, g) = some id →
          ∀ r, ¬SettledAs (stepped p i own c k a σ spawned) id r := fun _ _ _ _ named r =>
      unreported_step conf genuine tracked at_i rest hexec inv named r
    -- Another sweep has not taken a code up whose entry this step makes or takes over.
    have spared : ∀ j sweep n code, j ≠ i → p.calls[j]? = some sweep → owes sweep n code →
        sweep.hist.any (takesUp sweep.hist n code) → c.touches p.shared ≠ some (n, code) := by
      intro j sweep n code ne at_j owed takes touched
      have within := (List.getElem?_eq_some_iff.mp at_j).1
      rw [aside (n, code) touched j within ne sweep at_j owed] at takes
      cases takes
    -- The sweep that moves does not touch again what it addressed.
    have again : ∀ n code, owes (own.answered c k a) n code → own.hist.any (addresses n code) →
        owes own n code ∧ c.touches p.shared ≠ some (n, code) := by
      intro n code owed addressed
      have req : own.req = .deleteExpiredRooms n := by
        simp only [owes, decide_eq_true_eq] at owed
        exact owed.1
      have permits := sweep_permitted genuine mem rest req
      exact ⟨owes_before (bare_of_addressed permits addressed) owed,
        untouched_of_addressed permits addressed⟩
    have called : ∀ call ∈ p.calls, ∀ n code g id,
        ⟨.startRuntimeTeardownEffect n code g, id⟩ ∈ call.hist →
          Called p (.effect n id (.teardown code g)) :=
      fun call mem n code g id start => tracked.started call mem _ start _ rfl
    constructor
    · exact unreported
    · intro sweep hsweep n code owed forgot
      obtain ⟨j, at_j⟩ := List.mem_iff_getElem?.mp hsweep
      rcases getElem?_set_append at_j with ⟨rfl, rfl⟩ | ⟨ne, old⟩ | ⟨-, new⟩
      · rcases List.mem_cons.mp forgot with now | earlier
        · cases now
          cases hexec
          simp [World.debt?, World.setNode_nodes]
        · obtain ⟨before, untouched⟩ := again n code owed (addressed_of_forgot earlier)
          exact vacant_kept hexec (inv.forgotten own mem n code before earlier) untouched
      · have held := List.mem_of_getElem? old
        exact vacant_kept hexec (inv.forgotten sweep held n code owed forgot)
          (spared j sweep n code ne old owed (takenUp_of_forgot forgot))
      · obtain ⟨r, -, rfl⟩ := List.mem_map.mp (List.mem_of_getElem? new)
        cases forgot
    · intro sweep hsweep n code g id owed start waits
      obtain ⟨j, at_j⟩ := List.mem_iff_getElem?.mp hsweep
      rcases getElem?_set_append at_j with ⟨rfl, rfl⟩ | ⟨ne, old⟩ | ⟨-, new⟩
      · rcases List.mem_cons.mp start with now | earlier
        · cases now
          have before : owes own n code := owes_before rfl owed
          refine pledged_start ch hexec (unreported n code g id) fun disowned => ?_
          rw [joins (n, code) disowned] at before
          cases before
        · obtain ⟨before, untouched⟩ := again n code owed (addressed_of_started earlier)
          simp only [Call.answered, List.any_cons, Bool.or_eq_false_iff] at waits
          exact pledged_step conf genuine tracked at_i rest hexec applied grows
            (called own mem n code g id earlier) untouched
            (inv.pledged own mem n code g id before earlier waits.2)
      · have held := List.mem_of_getElem? old
        exact pledged_step conf genuine tracked at_i rest hexec applied grows
          (called sweep held n code g id start)
          (spared j sweep n code ne old owed (takenUp_of_started start waits))
          (inv.pledged sweep held n code g id owed start waits)
      · obtain ⟨r, -, rfl⟩ := List.mem_map.mp (List.mem_of_getElem? new)
        cases start

theorem served_of_undisturbed {p q : Pool (machine cfg)} (run : Run (undisturbed cfg) p q) :
    Run (served cfg False).guard p q :=
  run.mono fun p mv ok => by
    cases mv with
    | start r => exact ok.1
    | run i ch => exact fun _ _ _ _ => trivial
    | event e => trivial

theorem run_pledges {w : World} {q : Pool (machine cfg)} (booted : w.Booted)
    (run : Run (undisturbed cfg) ⟨w, []⟩ q) : Pledges q := by
  have pledges : ∀ {p q : Pool (machine cfg)}, Run (undisturbed cfg) p q → p = ⟨w, []⟩ →
      Pledges q := by
    intro p q run start
    induction run with
    | refl =>
      subst start
      refine ⟨?_, (fun _ h => nomatch h), (fun _ h => nomatch h)⟩
      intro n code g id named r settled
      obtain ⟨call, mem, -⟩ := settled
      cases mem
    | step mv before ok step ih =>
      subst start
      obtain ⟨conf, tracked⟩ := run_tracked booted (served_of_undisturbed before)
      exact step_pledges conf (run_genuine before (genuine_of_no_calls rfl)) tracked
        (applied_of_undeclined (before.mono fun _ _ => And.left)) ok.2 step ih
  exact pledges run rfl

/-- Nobody else may touch a code a sweep took up, and no teardown declines: then what the sweep
acknowledges is alive or torn down, and its node's ledger has no entry of it. -/
theorem acknowledged_claims_are_settled {w : World} {q : Pool (machine cfg)}
    (booted : w.Booted) (run : Run (undisturbed cfg) ⟨w, []⟩ q)
    {call : Call (machine cfg)} (mem : call ∈ q.calls) {n : NodeId}
    (sweep : call.req = .deleteExpiredRooms n) {claims : List OrphanedIndexClaim}
    (next : call.rest.next? = some (.acknowledgeOrphanedIndexClaims claims)) :
    ∀ claim ∈ claims, q.shared.debt? n claim.code = none ∧
      ((∃ room, (⟨.getRoom claim.code, .ok (some room)⟩ : (c : Cmd) × c.Ans) ∈ call.hist) ∨
        TornDown q call.hist claim.code) := by
  obtain ⟨conf, tracked⟩ := run_tracked booted (served_of_undisturbed run)
  have genuine := run_genuine run (genuine_of_no_calls rfl)
  have pledges := run_pledges booted run
  intro claim hclaim
  cases hrest : call.rest with
  | ret | fail => rw [hrest] at next; cases next
  | op c k =>
    rw [hrest] at next
    cases next
    obtain ⟨first, settled⟩ := sweep_permitted genuine mem hrest sweep
    obtain ⟨taken, handed⟩ := settled claim hclaim
    have owed : owes call n claim.code := by
      simp [owes, sweep, handed, first]
    obtain ⟨read, forgot⟩ | ⟨g, id, bound, r, start, wait, fine⟩ := taken
    · exact ⟨pledges.forgotten call mem n _ owed forgot, .inl read⟩
    · obtain ⟨effect, hmem, req⟩ := tracked.started call mem _ start _ rfl
      have report : ∀ bound r', (⟨.awaitEffect id bound, some r'⟩ : (c : Cmd) × c.Ans) ∈ call.hist →
          ∃ res, r' = .ofTeardown res ∧ effect.hist =
            [⟨.settleRuntimeTeardown n claim.code g id res, ()⟩,
              ⟨.deleteRoomRuntime claim.code g, res⟩] := fun bound r' told =>
        report_of_settled genuine tracked hmem req (tracked.told call mem id bound r' told)
      obtain ⟨res, rfl, hist⟩ := report bound r wait
      cases res with
      | error f => exact absurd rfl (fine f)
      | ok b =>
        have asked : (⟨.deleteRoomRuntime claim.code g, .ok b⟩ : (c : Cmd) × c.Ans) ∈
            effect.hist := by simp [hist]
        cases applied_of_undeclined (run.mono fun _ _ => And.left) effect hmem claim.code g b asked
        have waits : call.hist.any (failsWait id) = false := by
          by_contra fails
          obtain ⟨bound', f, told⟩ := failed_of_failsWait (by simpa using fails)
          obtain ⟨res, own, hist'⟩ := report bound' _ told
          rw [hist] at hist'
          cases hist'
          cases own
        refine ⟨?_, .inr ⟨n, g, id, bound, wait, effect, hmem, req, asked⟩⟩
        rcases pledges.pledged call mem n _ g id owed start waits with vacant | ⟨f, failed⟩ |
          ⟨unsettled, -⟩
        · exact vacant
        · obtain ⟨res, own, hist'⟩ := report_of_settled genuine tracked hmem req failed
          rw [hist] at hist'
          cases hist'
          cases own
        · exact absurd (tracked.told call mem id bound _ wait) (unsettled _)

end Undisturbed

/-- An orphan code whose runtime state still carries a generation. -/
def orphaned : World where
  orphanedIndexClaims := [⟨1, 7⟩]
  runtime := { roomGenerations := JsMap.empty.set 1 5 }
  fresh := 100

/-- The index also lost the entry of a room that is alive. -/
def reborn : World :=
  { orphaned with
    orphanedIndexClaims := [⟨1, 7⟩, ⟨2, 8⟩]
    roomStore := JsMap.empty.set 2 ⟨2, 9, 0, none, none, none, none, 0, 0, none⟩ }

theorem reborn_booted : reborn.Booted where
  keyed := by
    intro code room h
    simp only [reborn, RoomStore.getRoom, JsMap.get?_set] at h
    split at h
    · rename_i own
      cases h
      exact own
    · cases h
  idle _ := rfl
  effects := rfl

/-- A request joins the teardown the sweep waits for, then tears another code down before the
sweep acknowledges. -/
def sharedSweep : List (Move (machine oneNode)) :=
  [.start (.deleteExpiredRooms 0)] ++ turns _ 0 7 ++ [.start (.teardownRoomRuntime 0 3)] ++
    turns _ 2 6 ++ turns _ 1 2 ++ turns _ 2 5 ++ turns _ 0 4

theorem settled_claim_is_acknowledged : ∃ q : Pool (machine oneNode), ∃ call ∈ q.calls,
    call.rest.next? = some (.acknowledgeOrphanedIndexClaims [⟨1, 7⟩, ⟨2, 8⟩]) ∧
    (q.shared.debt? 0 3).isSome ∧
    ∀ claim ∈ [(⟨1, 7⟩ : OrphanedIndexClaim), ⟨2, 8⟩], q.shared.debt? 0 claim.code = none ∧
      ((∃ room, (⟨.getRoom claim.code, .ok (some room)⟩ : (c : Cmd) × c.Ans) ∈ call.hist) ∨
        TornDown q call.hist claim.code) := by
  obtain ⟨q, run, seen⟩ := Pool.replay_spec (undisturbed oneNode) ⟨reborn, []⟩ sharedSweep
    (fun q => (q.calls.head?.map fun call => (call.req, call.rest.next?),
      (q.shared.debt? 0 3).isSome))
    (b := (some (.deleteExpiredRooms 0,
      some (.acknowledgeOrphanedIndexClaims [⟨1, 7⟩, ⟨2, 8⟩])), true)) rfl
  simp only [Prod.mk.injEq, Option.map_eq_some_iff] at seen
  obtain ⟨⟨call, head, req, next⟩, owed⟩ := seen
  have mem := List.mem_of_mem_head? head
  exact ⟨q, call, mem, next, owed, acknowledged_claims_are_settled reborn_booted run mem req next⟩

/-! ## Teardowns that decline -/

/-- Whether an answer showed a live record under the code. -/
def showsAlive (code : Code) : (c : Cmd) × c.Ans → Bool
  | ⟨.getRoom c, .ok (some _)⟩ => c = code
  | _ => false

/-- Whether an answer says that the runtime state of the code was torn down. -/
def showsApplied (code : Code) : (c : Cmd) × c.Ans → Bool
  | ⟨.deleteRoomRuntime c _, .ok true⟩ => c = code
  | _ => false

theorem not_settled {cfg : Config} {q : Pool (machine cfg)}
    (alive : h.any (showsAlive code) = false)
    (applied : (q.calls.any fun call => call.hist.any (showsApplied code)) = false) :
    ¬((∃ room, ⟨.getRoom code, .ok (some room)⟩ ∈ h) ∨ TornDown q h code) := by
  rintro (⟨room, read⟩ | ⟨n, g, id, bound, -, effect, mem, -, asked⟩)
  · have := List.any_eq_false.mp alive _ read
    simp [showsAlive] at this
  · have := List.any_eq_false.mp (Bool.eq_false_iff.mpr
      (List.any_eq_false.mp applied effect mem)) _ asked
    simp [showsApplied] at this

/-- While the sweep decides, a creator takes the code over and stamps it: the teardown declines
and its claim is acknowledged all the same. -/
def declinedSweep : List (Move (machine oneNode)) :=
  [.start (.deleteExpiredRooms 0)] ++ turns _ 0 7 ++ [.start (.create 3 none)] ++ turns _ 2 3 ++
    [.run 2 (.code 1)] ++ turns _ 2 7 ++ turns _ 1 2 ++ turns _ 0 1

theorem declined_teardown_is_acknowledged : ∃ q : Pool (machine oneNode),
    Run (served oneNode False).guard ⟨orphaned, []⟩ q ∧
    ∃ call ∈ q.calls, call.req = .deleteExpiredRooms 0 ∧
      call.rest.next? = some (.acknowledgeOrphanedIndexClaims [⟨1, 7⟩]) ∧
      ¬((∃ room, (⟨.getRoom 1, .ok (some room)⟩ : (c : Cmd) × c.Ans) ∈ call.hist) ∨
        TornDown q call.hist 1) ∧
      (q.shared.debt? 0 1).map RuntimeTeardownDebt.owner = some none := by
  obtain ⟨q, run, seen⟩ := Pool.replay_spec (served oneNode False).guard ⟨orphaned, []⟩
    declinedSweep (fun q => (q.calls.head?.map fun call =>
        (call.req, call.rest.next?, call.hist.any (showsAlive 1)),
      q.calls.any fun call => call.hist.any (showsApplied 1),
      (q.shared.debt? 0 1).map RuntimeTeardownDebt.owner))
    (b := (some (.deleteExpiredRooms 0, some (.acknowledgeOrphanedIndexClaims [⟨1, 7⟩]), false),
      false, some none)) rfl
  simp only [Prod.mk.injEq, Option.map_eq_some_iff] at seen
  obtain ⟨⟨call, head, req, next, alive⟩, applied, owner⟩ := seen
  exact ⟨q, run, call, List.mem_of_mem_head? head, req, next, not_settled alive applied,
    by simpa using owner⟩

end BiliSyncPlay
