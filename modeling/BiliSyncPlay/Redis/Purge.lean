import BiliSyncPlay.Redis.Frames

/-!
# The startup purge and the seats of others

A purge drops a binding it read as one its own previous run left behind. That is still what the
binding names when it is dropped, as long as no other node seats its own session in between.
-/

namespace BiliSyncPlay.RedisRuntime

open Interleave DurableWriteQueue

variable {owner : SessionId → InstanceId} {retention : Time}

/-- What a purge knows where it stands: the seat it is about to drop is one of its own. -/
def Phase.Spares (owner : SessionId → InstanceId) (keys : Keys) : Phase → Prop
  | examining i session => session.instanceId = some i → owner session.id = i
  | unseating i code m => ∀ s, (keys.room code).members.get? m = some s → owner s = i
  | _ => True

/-- A purge dropped no seat, and started no clock, of another instance's session. -/
def Spared (owner : SessionId → InstanceId) (history : List Happening) : Prop :=
  ∀ i seat bound, .unseated i seat bound ∈ history → ∀ s, bound = some s → owner s = i

structure Sparing (owner : SessionId → InstanceId) (w : World) (φs : List Phase) : Prop where
  truthful : ∀ id, (w.keys.hash id).Truthful owner id
  holds : ∀ φ ∈ φs, φ.Spares owner w.keys
  spared : Spared owner w.history

/-- A seat that is being dropped is taken by a session of the purged instance alone. -/
def Phase.toleratesSeat (owner : SessionId → InstanceId) (code : Code) (m : MemberId)
    (s : SessionId) : Phase → Bool
  | unseating i c n => c ≠ code || n ≠ m || owner s = i
  | _ => true

/-- An `addMember` that lands does so while no purge is between its reading of the binding and its
transaction. -/
def seatsApart (owner : SessionId → InstanceId) (φs : List Phase) : Cmd → Choice → Bool
  | .write (.addMember code m s _), .ok => φs.all (Phase.toleratesSeat owner code m s)
  | _, _ => true

def Req.entry : Req → Bool
  | .late _ => false
  | _ => true

/-- Clients vouch for what they write. -/
abbrev vouching (owner : SessionId → InstanceId) (retention : Time) :
    (discipline True owner retention).Terms where
  start _ _ r := r.entry = true ∧ r.Vouched True owner
  act _ _ _ _ _ _ := True
  occur _ _ _ := True

/-- Clients vouch for what they write, and seat no session of theirs where a purge is at it. -/
abbrev sparing (owner : SessionId → InstanceId) (retention : Time) :
    (discipline True owner retention).Terms where
  start _ _ r := r.entry = true ∧ r.Vouched True owner
  act _ φs _ _ c choice := seatsApart owner φs c choice = true
  occur _ _ _ := True

section Steps

variable {w w' : World} {φ : Phase} {φs : List Phase}

/-- A write that lands keeps what every purge knows of its seat. -/
theorem spares_perform {write : Write} (tolerated : seatsApart owner φs (.write write) .ok = true)
    (mem : φ ∈ φs) (h : φ.Spares owner w.keys) : φ.Spares owner (w.perform write).2.keys := by
  cases φ with
  | unseating i code m =>
    intro s hs
    rcases bound_perform hs with old | ⟨token, rfl⟩
    · exact h s old
    · have here := List.all_eq_true.mp tolerated _ mem
      simpa [Phase.toleratesSeat] using here
  | _ => exact h

/-- What a purge drops was still its own. -/
theorem spared_perform {write : Write} (spared : Spared owner w.history)
    (holds : φ.Spares owner w.keys) (may : φ.Writes write) :
    Spared owner (w.perform write).2.history := by
  intro i seat bound mem s hs
  simp only [World.perform] at mem
  split at mem
  · rcases List.mem_append.mp mem with new | old
    · cases write with
      | purgeSession j id roomCode unseat =>
        cases unseat with
        | none => simp [Write.noted] at new
        | some u =>
          simp only [Write.noted, Option.toList_some, List.mem_singleton,
            Happening.unseated.injEq] at new
          obtain ⟨rfl, rfl, rfl⟩ := new
          cases may
          exact holds s hs
      | _ => simp [Write.noted] at new
    · exact spared i seat bound old s hs
  · exact spared i seat bound mem s hs

theorem spares_read {i : InstanceId} {id : SessionId} {hash : SessionHash} {keys : Keys}
    (truthful : hash.Truthful owner id) : (Phase.read i hash).Spares owner keys := by
  unfold Phase.read
  split
  · rename_i session decoded
    intro own
    exact ((truthful_deserialized truthful decoded).2 i own).symm
  · trivial

/-- Where a call stands after an answer, given the keys as they are by then. -/
theorem spares_after {keys : Keys} {c : Cmd} {a : c.Ans} (holds : φ.Spares owner keys)
    (expected : Phase.Expects True owner c a)
    (bound : ∀ code m b, (⟨c, a⟩ : (c : Cmd) × c.Ans) = ⟨.hgetMember code m, some b⟩ →
      (keys.room code).members.get? m = b) : (φ.after c a).Spares owner keys := by
  unfold Phase.after
  split
  · exact spares_read (expected trivial)
  · exact spares_read (expected trivial)
  · rename_i i session code m b
    split
    · rename_i held
      intro s hs
      rw [bound code m b rfl, held.2] at hs
      cases hs
      exact holds held.1
    · exact holds
  · trivial
  · trivial
  · trivial
  · trivial
  · trivial
  · trivial
  · trivial
  · exact holds

theorem spares_late {write : Write} (holds : φ.Spares owner w.keys) (may : φ.Writes write) :
    (Phase.begin (.late write)).Spares owner w.keys := by
  cases write with
  | purgeSession i id roomCode seat =>
    cases seat with
    | none => trivial
    | some seat =>
      cases may
      exact holds
  | _ => trivial

/-- What is read is what is stored. -/
theorem exec_expected {c : Cmd} {ch : Choice} {a : c.Ans} {late : List Write}
    (h : exec c ch w = some (a, w', late)) (truthful : ∀ id, (w.keys.hash id).Truthful owner id) :
    Phase.Expects True owner c a ∧
      ∀ code m b, (⟨c, a⟩ : (c : Cmd) × c.Ans) = ⟨.hgetMember code m, some b⟩ →
        (w'.keys.room code).members.get? m = b := by
  cases c <;> cases ch <;> simp only [exec, reduceCtorEq] at h
  case smembersSessions.order =>
    split at h <;> cases h
    exact ⟨trivial, (by simp)⟩
  case hgetall.ok id =>
    cases h
    exact ⟨fun _ => truthful id, (by simp)⟩
  case hgetMember.ok code m =>
    cases h
    refine ⟨trivial, ?_⟩
    intro code' m' b same
    cases same
    rfl
  case getRoomGeneration.ok =>
    cases h
    exact ⟨rfl, (by simp)⟩
  all_goals
    cases h
    exact ⟨trivial, (by simp)⟩

theorem Sparing.act (inv : Sparing owner w φs) {i : Nat} {c : Cmd} {ch : Choice} {a : c.Ans}
    {late : List Write} (at_i : φs[i]? = some φ) (may : Phase.Permits True owner φ c)
    (apart : seatsApart owner φs c ch = true) (h : exec c ch w = some (a, w', late)) :
    Sparing owner w' (φs.set i (φ.after c a) ++ late.map fun write => Phase.begin (.late write)) := by
  have mem : φ ∈ φs := List.mem_of_getElem? at_i
  have holds := inv.holds φ mem
  obtain ⟨expected, bound⟩ := exec_expected h inv.truthful
  -- What the others stand on, and what this call stands on before its answer.
  have kept : (∀ id, (w'.keys.hash id).Truthful owner id) ∧ Spared owner w'.history ∧
      (∀ ψ ∈ φs, ψ.Spares owner w'.keys) ∧
      ∀ ψ ∈ late.map fun write => Phase.begin (.late write), ψ.Spares owner w'.keys := by
    cases exec_did h with
    | read => exact ⟨inv.truthful, inv.spared, inv.holds, fun _ h => nomatch h⟩
    | minted => exact ⟨inv.truthful, inv.spared, inv.holds, fun _ h => nomatch h⟩
    | pinned =>
      refine ⟨inv.truthful, ?_, inv.holds, fun _ h => nomatch h⟩
      intro j seat bound mem
      exact inv.spared j seat bound (by simpa using mem)
    | landed write =>
      exact ⟨truthful_perform may.1 inv.truthful, spared_perform inv.spared holds may.2,
        fun ψ hψ => spares_perform apart hψ (inv.holds ψ hψ), fun _ h => nomatch h⟩
    | late write =>
      refine ⟨inv.truthful, inv.spared, inv.holds, ?_⟩
      intro ψ hψ
      cases List.mem_singleton.mp hψ
      exact spares_late holds may.2
  obtain ⟨truthful, spared, others, new⟩ := kept
  refine ⟨truthful, ?_, spared⟩
  intro ψ hψ
  rcases List.mem_append.mp hψ with old | fresh
  · rcases List.mem_or_eq_of_mem_set old with same | rfl
    · exact others ψ same
    · exact spares_after (others φ mem) expected bound
  · exact new ψ fresh

end Steps

/-- A Redis as any history may have left it, with records that tell the truth. -/
def Booted (owner : SessionId → InstanceId) (p : Pool (machine retention)) : Prop :=
  p.calls = [] ∧ p.shared.history = [] ∧ ∀ id, (p.shared.keys.hash id).Truthful owner id

theorem sparing_preserved :
    (discipline True owner retention).Preserves (sparing owner retention) (Req.Vouched True owner)
      fun w φs => Sparing owner w φs where
  body r vouched := ⟨body_unsettled r, follows_body vouched⟩
  start w φs r inv enters := by
    refine ⟨enters.2, inv.truthful, ?_, inv.spared⟩
    intro φ hφ
    rcases List.mem_append.mp hφ with old | new
    · exact inv.holds φ old
    · cases List.mem_singleton.mp new
      cases r with
      | late w => cases enters.1
      | _ => trivial
  occur _ _ e := nomatch e
  act w φs i φ c ch a w' spawned inv at_i may apart h := by
    obtain ⟨⟨a', w'', late⟩, done, same⟩ := Option.map_eq_some_iff.mp h
    cases same
    refine ⟨(exec_expected done inv.truthful).1, ?_, ?_⟩
    · intro r hr
      obtain ⟨write, hw, rfl⟩ := List.mem_map.mp hr
      cases exec_did done with
      | late =>
        cases List.mem_singleton.mp hw
        exact may.1
      | _ => cases hw
    · rw [List.map_map]
      exact inv.act at_i may apart done
  settle w φs i φ r inv _ _ := by
    refine ⟨inv.truthful, ?_, inv.spared⟩
    intro ψ hψ
    rcases List.mem_or_eq_of_mem_set hψ with same | rfl
    · exact inv.holds ψ same
    · trivial

/-- In every run in which no `addMember` of another instance lands between a purge's reading of a
binding and its transaction, no purge drops the seat of another instance's session, nor starts
the clock of one. -/
theorem purge_spares_others {p q : Pool (machine retention)} (start : Booted owner p)
    (run : Run (sparing owner retention).guard p q) : Spared owner q.shared.history := by
  obtain ⟨conf, none⟩ :=
    Discipline.conforming_of_no_calls (D := discipline True owner retention) start.1
  have begun : Sparing owner p.shared ((discipline True owner retention).phases p) := by
    rw [none]
    refine ⟨start.2.2, (fun _ h => nomatch h), ?_⟩
    intro i seat bound mem
    rw [start.2.1] at mem
    cases mem
  exact (Discipline.run_invariant sparing_preserved run conf begun).2.spared

/-- Session 0 of instance 1 was left behind in seat 5 of room 7. -/
abbrev leftBehind : Pool (machine 0) where
  shared :=
    { keys :=
        { sessions := {0}
          hash := Function.update (fun _ => {}) 0
            ⟨some 0, some (some 7),
              some { instanceId := some 1, memberId := some 5, displayName := "Ada" }⟩
          room := Function.update (fun _ => {}) 7
            { members := JsMap.empty.set 5 0, memberTokens := JsMap.empty.set 5 50 } } }
  calls := []

abbrev ownerOf : SessionId → InstanceId := fun s => if s = 0 then 1 else 2

theorem leftBehind_booted : Booted ownerOf leftBehind := by
  refine ⟨rfl, rfl, fun id => ?_⟩
  by_cases own : id = 0
  · subst own
    decide
  · simp only [Function.update_of_ne own]
    exact ⟨nofun, nofun⟩

abbrev does (i : Nat) (choices : List Choice) : List (Move (machine 0)) := choices.map (.run i)

/-- Another member comes back while the purge drops the seat. -/
theorem purge_spares_others_apart : ∃ q : Pool (machine 0),
    q.shared.history = [.unseated 1 ⟨7, 5, some 10⟩ (some 0)] ∧
      Spared ownerOf q.shared.history := by
  obtain ⟨q, run, seen⟩ := Pool.replay_spec (sparing ownerOf 0).guard leftBehind
    ([.start (.purgeSessionsByInstance 1)] ++ does 0 [.order [0], .ok, .ok, .ok, .time 10] ++
      [.start (.addMember 7 6 9 60)] ++ does 1 [.ok] ++ does 0 [.ok])
    (fun q => q.shared.history) (b := [.unseated 1 ⟨7, 5, some 10⟩ (some 0)]) (by rfl)
  exact ⟨q, seen, purge_spares_others leftBehind_booted run⟩

/-- The member reconnects to instance 2 after the purge read its binding: the purge drops the new
seat, and starts its clock. -/
theorem purge_drops_reconnected : ∃ q : Pool (machine 0),
    Run (vouching ownerOf 0).guard leftBehind q ∧ ¬ Spared ownerOf q.shared.history := by
  obtain ⟨q, run, seen⟩ := Pool.replay_spec (vouching ownerOf 0).guard leftBehind
    ([.start (.purgeSessionsByInstance 1)] ++ does 0 [.order [0], .ok, .ok, .ok, .time 10] ++
      [.start (.addMember 7 5 9 50)] ++ does 1 [.ok] ++ does 0 [.ok])
    (fun q => q.shared.history) (b := [.unseated 1 ⟨7, 5, some 10⟩ (some 9)]) (by rfl)
  refine ⟨q, run, fun spared => ?_⟩
  have own := spared 1 ⟨7, 5, some 10⟩ (some 9) (by rw [seen]; exact List.mem_singleton_self _) 9 rfl
  exact absurd own (by decide)

end BiliSyncPlay.RedisRuntime
