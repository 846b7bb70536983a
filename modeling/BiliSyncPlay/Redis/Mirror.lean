import BiliSyncPlay.Redis.Members

/-!
# The seats agree

Redis binds a member as the node's own members map does once every write was answered, as long as
no attempt of a removal takes effect while the map holds the seat again.
-/

namespace BiliSyncPlay.RedisMembers

open Interleave DurableWriteQueue
open RedisRuntime (RoomKeys)

variable {retention : Time} {options : DurableWriteQueueOptions}

/-! ## What a node knows of Redis -/

/-- The members map holds no seat the removal would drop. -/
def Node.vacant (n : Node) (op : RemoveMember) : Bool :=
  ((n.localStore.seats op.code).get? op.memberId).all fun s => !decide (op.Drops op.code op.memberId s)

/-- Where Redis may differ from the members map: in a seat that is still to be dropped, by a
removal no attempt of which has taken effect since it was called. -/
structure Node.Faithful (n : Node) : Prop where
  known : ∀ v ∈ n.landed, v < n.removals.length
  seated : ∀ code m s, (n.localStore.seats code).get? m = some s →
    (n.redis code).members.get? m = some s
  retained : ∀ code m s, (n.redis code).members.get? m = some s →
    (n.redis code).memberTokenExpiry.has m = false
  vacated : ∀ code m s, (n.localStore.seats code).get? m = none →
    (n.redis code).members.get? m = some s →
      ∃ v op, n.removals[v]? = some op ∧ op.Drops code m s ∧
        ∀ u op', v ≤ u → n.removals[u]? = some op' → op'.key = op.key → u ∉ n.landed

section Steps

variable {n : Node}

theorem onRoom_redis (n : Node) (code c : Code) (f : RoomKeys → RoomKeys) :
    (n.onRoom code f).redis c = if c = code then f (n.redis c) else n.redis c := by
  by_cases same : c = code
  · subst same
    simp [Node.onRoom]
  · simp [Node.onRoom, same]

theorem Node.Faithful.addMember (h : n.Faithful) (call : AddMember) (now : Time) :
    (n.addMember call now true).Faithful := by
  have redis : ∀ code, (n.addMember call now true).redis code =
      if code = call.code then
        (n.redis code).addMember call.memberId call.session call.memberToken
      else n.redis code := fun code => by
    simp only [Node.addMember, if_true]
    exact onRoom_redis ..
  have seats : ∀ code, (n.addMember call now true).localStore.seats code =
      if call.code = code then (n.localStore.seats call.code).set call.memberId call.session
      else n.localStore.seats code := fun code => RuntimeStore.seats_addMember ..
  constructor
  · exact h.known
  · intro code m s held
    rw [redis]
    rw [seats] at held
    by_cases room : code = call.code
    · subst room
      rw [if_pos rfl] at held ⊢
      rw [JsMap.get?_set] at held
      simp only [RoomKeys.addMember, JsMap.get?_set]
      by_cases own : call.memberId = m
      · rwa [if_pos own] at held ⊢
      · rw [if_neg own] at held ⊢
        exact h.seated call.code m s held
    · rw [if_neg (Ne.symm room)] at held
      rw [if_neg room]
      exact h.seated code m s held
  · intro code m s bound
    rw [redis] at bound ⊢
    by_cases room : code = call.code
    · rw [if_pos room] at bound ⊢
      simp only [RoomKeys.addMember, JsMap.get?_set, JsMap.has, JsMap.get?_delete] at bound ⊢
      by_cases own : call.memberId = m
      · simp [own]
      · rw [if_neg own] at bound ⊢
        exact h.retained code m s bound
    · rw [if_neg room] at bound ⊢
      exact h.retained code m s bound
  · intro code m s free bound
    rw [redis] at bound
    rw [seats] at free
    by_cases room : code = call.code
    · subst room
      rw [if_pos rfl, JsMap.get?_set] at free
      simp only [if_true, RoomKeys.addMember, JsMap.get?_set] at bound
      by_cases own : call.memberId = m
      · rw [if_pos own] at free
        cases free
      · rw [if_neg own] at free bound
        exact h.vacated call.code m s free bound
    · rw [if_neg (Ne.symm room)] at free
      rw [if_neg room] at bound
      exact h.vacated code m s free bound

/-- A removal that was just called is a promise to drop the seat it vacated. -/
theorem Node.Faithful.vacate (h : n.Faithful) (op : RemoveMember) :
    (n.vacate retention op).Faithful := by
  have earlier : ∀ {u : Nat} {op' : RemoveMember}, n.removals[u]? = some op' →
      (n.removals ++ [op])[u]? = some op' := by
    intro u op' at_u
    rw [List.getElem?_append_left (List.getElem?_eq_some_iff.mp at_u).1]
    exact at_u
  constructor
  · intro v landed
    simp only [Node.vacate, List.length_append, List.length_singleton]
    exact Nat.lt_succ_of_lt (h.known v landed)
  · intro code m s held
    rw [seats_vacate, Option.filter_eq_some_iff] at held
    exact h.seated code m s held.1
  · exact h.retained
  · intro code m s free bound
    rw [seats_vacate, Option.filter_eq_none_iff] at free
    cases old : (n.localStore.seats code).get? m with
    | none =>
      obtain ⟨v, op₀, called, drops, pending⟩ := h.vacated code m s old bound
      refine ⟨v, op₀, earlier called, drops, ?_⟩
      intro u op' le at_u same landed
      have within := h.known u landed
      simp only [Node.vacate, List.getElem?_append_left within] at at_u
      exact pending u op' le at_u same landed
    | some t =>
      have held := (h.seated code m t old).symm.trans bound
      obtain rfl := Option.some.inj held
      refine ⟨n.removals.length, op, List.getElem?_concat_length, by simpa using free t old, ?_⟩
      intro u op' le at_u same landed
      exact absurd (h.known u landed) (Nat.not_lt.mpr le)

/-- An attempt drops nothing the members map holds, and keeps the promise of its own removal. -/
theorem Node.Faithful.removeMember (h : n.Faithful) {w : WriteId} {op : RemoveMember}
    (called : n.removals[w]? = some op) (vacant : n.vacant op = true) (expiresAt : Time) :
    (n.removeMember w op expiresAt).Faithful := by
  have redis : ∀ code, (n.removeMember w op expiresAt).redis code =
      if code = op.code then (n.redis code).removeMember op.memberId op.session expiresAt
      else n.redis code := fun code => by
    simp only [Node.removeMember]
    exact onRoom_redis ..
  have members : ∀ code m, ((n.removeMember w op expiresAt).redis code).members.get? m =
      ((n.redis code).members.get? m).filter fun s => !decide (op.Drops code m s) := by
    intro code m
    rw [redis]
    by_cases room : code = op.code
    · subst room
      rw [if_pos rfl, members_removeMember]
    · rw [if_neg room]
      cases (n.redis code).members.get? m <;>
        simp [Option.filter, RemoveMember.Drops, Ne.symm room]
  constructor
  · intro v landed
    rcases List.mem_cons.mp landed with rfl | before
    · exact (List.getElem?_eq_some_iff.mp called).1
    · exact h.known v before
  · intro code m s held
    rw [members, Option.filter_eq_some_iff]
    refine ⟨h.seated code m s held, ?_⟩
    have spared : ¬ op.Drops code m s := by
      rintro ⟨rfl, rfl, own⟩
      have free : (n.localStore.seats op.code).get? op.memberId = some s := held
      simp only [Node.vacant, free, Option.all_some, Bool.not_eq_true', decide_eq_false_iff_not] at vacant
      exact vacant ⟨rfl, rfl, own⟩
    simpa using spared
  · intro code m s bound
    have still := bound
    rw [members, Option.filter_eq_some_iff] at still
    rw [redis]
    by_cases room : code = op.code
    · subst room
      rw [redis, if_pos rfl] at bound
      rw [if_pos rfl, expiry_removeMember bound]
      exact h.retained op.code m s still.1
    · rw [if_neg room]
      exact h.retained code m s still.1
  · intro code m s free bound
    rw [members, Option.filter_eq_some_iff] at bound
    obtain ⟨v, op₀, called₀, drops, pending⟩ := h.vacated code m s free bound.1
    refine ⟨v, op₀, called₀, drops, ?_⟩
    intro u op' le at_u same landed
    rcases List.mem_cons.mp landed with rfl | before
    · obtain rfl := Option.some.inj (called.symm.trans at_u)
      have spared : ¬ op.Drops code m s := by simpa using bound.2
      obtain ⟨codes, ids, sessions⟩ := key_inj same
      exact spared ⟨codes.trans drops.1, ids.trans drops.2.1, sessions ▸ drops.2.2⟩
    · exact pending u op' le at_u same before

end Steps

/-! ## Where a call stands -/

abbrev QueueCmd (retention : Time) := DurableWriteQueue.Cmd (backend retention)

inductive Phase where
  | idle
  /-- Trying a removal, and whether its last attempt was answered to have landed. -/
  | trying (w : WriteId) (op : RemoveMember) (landed : Bool)

namespace Phase

def after : Phase → (c : QueueCmd retention) → c.Ans → Phase
  | trying w op _, .backend (.removeMember ..), .ok () => trying w op true
  | trying w op _, .backend (.removeMember ..), .error _ => trying w op false
  | φ, _, _ => φ

def Permits (φ : Phase) : QueueCmd retention → Prop
  | .enqueue request => request.key = request.op.key
  | .backend (.removeMember w op) => ∃ landed, φ = trying w op landed
  | .runResolved w => ∃ op, φ = trying w op true
  | _ => True

def begin : DurableWriteQueue.Req (backend retention) → Phase
  | .reported w _ request => trying w request.op false
  | _ => idle

theorem after_other {φ : Phase} {c : QueueCmd retention}
    (other : ∀ w op, c ≠ .backend (.removeMember w op)) (a : c.Ans) : φ.after c a = φ := by
  unfold after
  split
  · exact absurd rfl (other _ _)
  · exact absurd rfl (other _ _)
  · rfl

end Phase

/-- A removal is enqueued under its own key. -/
def Keyed : DurableWriteQueue.Req (backend retention) → Prop
  | .enqueue request => request.key = request.op.key
  | _ => True

instance (r : DurableWriteQueue.Req (backend retention)) : Decidable (Keyed r) := by
  unfold Keyed
  split <;> infer_instance

abbrev protocol (retention : Time) : Protocol (QueueCmd retention) DurableWriteQueue.Cmd.Ans where
  Phase := Phase
  permits := Phase.Permits
  expects _ _ _ := True
  after := Phase.after

abbrev discipline (retention : Time) (options : DurableWriteQueueOptions) :
    Discipline (members retention options) where
  toProtocol := protocol retention
  begin := Phase.begin
  done _ _ := True
  retire _ := .idle

section Follows

variable {w : WriteId} {request : DurableWriteRequest (backend retention)} {landed : Bool}

theorem follows_attempt {op : RemoveMember}
    {Q : Phase → Except WriteError (Except RunError Unit) → Prop}
    (done : Q (.trying w op true) (.ok (.ok ())))
    (failed : ∀ error, Q (.trying w op false) (.ok (.error error))) :
    (awaited (attempt w op) : DurableWriteQueue.Client (backend retention) _).Follows
      (protocol retention) (.trying w op landed) Q := by
  refine ⟨⟨landed, rfl⟩, fun answer _ => ⟨trivial, fun _ _ => ?_⟩⟩
  cases answer with
  | ok => exact done
  | error error => exact failed error

theorem follows_raceStopped {work : Work} :
    (raceStopped work : DurableWriteQueue.Client (backend retention) Unit).Follows
      (protocol retention) (.trying w request.op landed) fun φ _ => φ = .trying w request.op landed := by
  refine ⟨trivial, fun result _ => ?_⟩
  cases result with
  | none => rfl
  | some answer => cases answer <;> rfl

theorem follows_retry {attempt : Nat} {error : RunError}
    {again : DurableWriteQueue.Client (backend retention) Unit}
    (tries : again.Follows (protocol retention) (.trying w request.op landed) fun _ _ => True) :
    (retry options w request attempt error again).Follows (protocol retention)
      (.trying w request.op landed) fun _ _ => True := by
  rw [retry, Prog.follows_bind]
  refine ⟨trivial, fun stopped _ => ?_⟩
  cases stopped with
  | true => trivial
  | false =>
    refine ⟨trivial, fun superseded _ => ?_⟩
    cases superseded with
    | true => trivial
    | false =>
      refine ⟨trivial, fun _ _ => ⟨trivial, fun id _ => ?_⟩⟩
      change Prog.Follows _ _ (raceStopped (.settle id) >>= _) _
      rw [Prog.follows_bind]
      refine follows_raceStopped.mono fun φ r same => ?_
      subst same
      cases r with
      | error e => trivial
      | ok =>
        refine ⟨trivial, fun superseded _ => ?_⟩
        cases superseded with
        | true => trivial
        | false =>
          refine ⟨trivial, fun begun _ => ?_⟩
          cases begun with
          | true => exact tries
          | false => trivial

theorem follows_attempts (left attempt : Nat) :
    (attempts options w request left attempt).Follows (protocol retention)
      (.trying w request.op landed) fun _ _ => True := by
  induction left generalizing attempt landed with
  | zero =>
    rw [attempts, Prog.follows_bind]
    exact follows_attempt ⟨⟨request.op, rfl⟩, fun _ _ => trivial⟩ fun _ => trivial
  | succ left ih =>
    rw [attempts, Prog.follows_bind]
    refine follows_attempt ⟨⟨request.op, rfl⟩, fun _ _ => trivial⟩ fun error => ?_
    change Prog.Follows _ _ (ite _ _ _) _
    split
    · exact follows_retry (ih (attempt + 1))
    · trivial

theorem follows_outcome {previous : Option WriteId} :
    (outcome options w previous request).Follows (protocol retention)
      (.trying w request.op landed) fun _ _ => True := by
  rw [outcome, Prog.follows_bind]
  refine follows_raceStopped.mono fun φ r same => ?_
  subst same
  cases r with
  | error e => trivial
  | ok =>
    refine ⟨trivial, fun stopped _ => ?_⟩
    cases stopped with
    | true => trivial
    | false =>
      refine ⟨trivial, fun _ _ => ⟨trivial, fun begun _ => ?_⟩⟩
      cases begun with
      | true => exact follows_attempts _ _
      | false => trivial

theorem follows_body {r : DurableWriteQueue.Req (backend retention)} (keyed : Keyed r) :
    (DurableWriteQueue.body options r).Follows (protocol retention) (Phase.begin r) fun _ _ => True := by
  cases r with
  | enqueue request => exact ⟨keyed, fun _ _ => trivial⟩
  | drain | stopRetrying => exact ⟨trivial, fun _ _ => trivial⟩
  | confirm => exact ⟨trivial, fun _ _ => ⟨trivial, fun _ _ => ⟨trivial, fun _ _ => trivial⟩⟩⟩
  | reported w previous request =>
    rw [DurableWriteQueue.body, reported, Prog.follows_bind, Prog.follows_tryCatch, Prog.follows_bind]
    refine follows_outcome.mono fun φ r _ => ?_
    cases r <;> exact ⟨trivial, fun _ _ => trivial⟩
  | settled w previous request =>
    refine ⟨trivial, fun _ _ => ⟨trivial, fun _ _ => ⟨trivial, fun _ _ => ⟨trivial, fun _ _ => ?_⟩⟩⟩⟩
    exact ⟨trivial, fun _ _ => ⟨trivial, fun _ _ => ⟨trivial, fun _ _ => trivial⟩⟩⟩
  | settle id w request => exact ⟨trivial, fun _ _ => ⟨trivial, fun _ _ => trivial⟩⟩
  | task call => exact ⟨trivial, fun _ _ => trivial⟩

end Follows

/-! ## Runs -/

/-- What every interleaving keeps: a write's key and its removal go together, and whoever tries a
removal tries the one that was called. -/
structure Mirrored (w : DurableWriteQueue.World (backend retention)) (φs : List Phase) : Prop where
  keys : w.queue.writes.map Write.key = w.backend.removals.map RemoveMember.key
  trying : ∀ v op landed, .trying v op landed ∈ φs →
    w.backend.removals[v]? = some op ∧ (landed = true → v ∈ w.backend.landed)
  resolved : ∀ v, .runResolved v ∈ w.queue.history → v ∈ w.backend.landed
  faithful : w.backend.Faithful

/-- An `addMember` is not lost, and an attempt of a removal takes effect only while the members map
does not hold the seat it drops. -/
def timely (n : Node) : QueueCmd retention → DurableWriteQueue.Choice (backend retention) → Bool
  | .backend (.addMember _), .backend ch => ch.fate.lands
  | .backend (.removeMember _ op), .backend ch => !ch.fate.lands || n.vacant op
  | _, _ => true

abbrev timing (retention : Time) (options : DurableWriteQueueOptions) :
    (discipline retention options).Terms where
  start _ _ r := r.entry = true ∧ Keyed r
  act w _ _ _ c ch := timely w.backend c ch = true
  occur _ _ _ := True

section Acts

variable {w w' : DurableWriteQueue.World (backend retention)} {φs : List Phase} {φ : Phase} {i : Nat}

theorem Mirrored.step {spawned : List Phase} {ψ : Phase} (inv : Mirrored w φs)
    (keys : w'.queue.writes.map Write.key = w'.backend.removals.map RemoveMember.key)
    (called : ∀ (v : WriteId) op, w.backend.removals[v]? = some op → w'.backend.removals[v]? = some op)
    (landed : ∀ v ∈ w.backend.landed, v ∈ w'.backend.landed)
    (resolved : ∀ v, .runResolved v ∈ w'.queue.history → v ∈ w'.backend.landed)
    (faithful : w'.backend.Faithful)
    (own : ∀ v op b, ψ = .trying v op b →
      w'.backend.removals[v]? = some op ∧ (b = true → v ∈ w'.backend.landed))
    (new : ∀ v op b, .trying v op b ∈ spawned → w'.backend.removals[v]? = some op ∧ b = false) :
    Mirrored w' (φs.set i ψ ++ spawned) := by
  refine ⟨keys, ?_, resolved, faithful⟩
  intro v op b mem
  rcases List.mem_append.mp mem with old | fresh
  · rcases List.mem_or_eq_of_mem_set old with same | rfl
    · obtain ⟨at_v, done⟩ := inv.trying v op b same
      exact ⟨called v op at_v, fun h => landed v (done h)⟩
    · exact own v op b rfl
  · obtain ⟨at_v, rfl⟩ := new v op b fresh
    exact ⟨at_v, nofun⟩

theorem Mirrored.act (inv : Mirrored w φs) {c : QueueCmd retention}
    {ch : DurableWriteQueue.Choice (backend retention)} {a : c.Ans}
    {spawned : List (DurableWriteQueue.Req (backend retention))} (at_i : φs[i]? = some φ) (may : φ.Permits c)
    (timed : timely w.backend c ch = true) (h : DurableWriteQueue.exec c ch w = some (a, w', spawned)) :
    Mirrored w' (φs.set i (φ.after c a) ++ spawned.map Phase.begin) := by
  have mem : φ ∈ φs := List.mem_of_getElem? at_i
  have length : w.queue.writes.length = w.backend.removals.length := by
    simpa using congrArg List.length inv.keys
  have stays : (∀ v op, c ≠ .backend (.removeMember v op)) → ∀ v op b, φ.after c a = .trying v op b →
      w.backend.removals[v]? = some op ∧ (b = true → v ∈ w.backend.landed) := by
    intro other v op b same
    rw [Phase.after_other other] at same
    exact inv.trying v op b (same ▸ mem)
  have internal : (∀ request, c ≠ .enqueue request) → (∀ c', c ≠ .backend c') →
      Mirrored w' (φs.set i (φ.after c a) ++ spawned.map Phase.begin) := by
    intro enqueues own
    obtain ⟨node, keys, resolves, settles⟩ := exec_internal enqueues own h
    refine inv.step (by rw [keys, node]; exact inv.keys) (fun _ _ h => node ▸ h)
      (fun _ h => node ▸ h) ?_ (node ▸ inv.faithful) ?_ ?_
    · intro v resolved
      rw [node]
      rcases resolves v resolved with rfl | before
      · obtain ⟨op, rfl⟩ := may
        exact (inv.trying v op true mem).2 rfl
      · exact inv.resolved v before
    · intro v op b same
      rw [node]
      exact stays (fun _ _ => own _) v op b same
    · intro v op b mem
      obtain ⟨r, hr, starts⟩ := List.mem_map.mp mem
      obtain ⟨id, u, request, rfl⟩ := settles r hr
      cases starts
  cases c with
  | enqueue request =>
    cases h
    have same : request.key = request.op.key := may
    have keys : (w.queue.enqueue request.key).2.writes.map Write.key =
        (w.backend.removals ++ [request.op]).map RemoveMember.key := by
      rw [enqueue_keys, inv.keys, List.map_append, same]
      rfl
    refine inv.step keys ?_ (fun _ h => h) ?_ (inv.faithful.vacate request.op) ?_ ?_
    · intro v op at_v
      exact (List.getElem?_append_left (List.getElem?_eq_some_iff.mp at_v).1).trans at_v
    · intro v resolved
      have before : .runResolved v ∈ (w.queue.enqueue request.key).2.history := resolved
      rw [enqueue_history] at before
      exact inv.resolved v (by simpa using before)
    · intro v op b same
      obtain ⟨at_v, done⟩ := stays (by simp) v op b same
      exact ⟨(List.getElem?_append_left (List.getElem?_eq_some_iff.mp at_v).1).trans at_v, done⟩
    · intro v op b mem
      simp only [List.map_cons, List.map_nil, List.mem_cons, List.not_mem_nil, or_false, Phase.begin,
        reduceCtorEq, or_false] at mem
      cases mem
      refine ⟨?_, rfl⟩
      change (w.backend.removals ++ [request.op])[w.queue.writes.length]? = some request.op
      rw [length]
      exact List.getElem?_concat_length
  | backend c' =>
    cases ch with
    | go | stop => cases h
    | backend ch =>
      obtain ⟨⟨a', n, tasks⟩, done, same⟩ := Option.map_eq_some_iff.mp h
      cases same
      cases c' with
      | reply =>
        cases done
        exact inv.step inv.keys (fun _ _ h => h) (fun _ h => h) inv.resolved inv.faithful
          (stays (by simp)) (by simp)
      | addMember call =>
        cases done
        have lands : ch.fate.lands = true := timed
        rw [lands]
        exact inv.step inv.keys (fun _ _ h => h) (fun _ h => h) inv.resolved
          (inv.faithful.addMember call ch.now) (stays (by simp)) (by simp)
      | removeMember v op =>
        cases done
        obtain ⟨b, rfl⟩ := may
        obtain ⟨at_v, -⟩ := inv.trying v op b mem
        cases lands : ch.fate.lands with
        | false =>
          have failed : ∃ error, ch.fate.answer = .error error := by
            cases fate : ch.fate with
            | lost error => exact ⟨error, rfl⟩
            | ok | unanswered => rw [fate] at lands; cases lands
          obtain ⟨error, failed⟩ := failed
          rw [failed]
          refine inv.step inv.keys (fun _ _ h => h) (fun _ h => h) inv.resolved inv.faithful ?_
            (by simp)
          intro u op' b' same
          cases same
          exact ⟨at_v, (by simp)⟩
        | true =>
          have vacant : w.backend.vacant op = true := by
            simpa [timely, lands] using timed
          simp only [if_true]
          refine inv.step inv.keys (fun _ _ h => h) (fun _ => List.mem_cons_of_mem _) ?_
            (inv.faithful.removeMember at_v vacant _) ?_ (by simp)
          · exact fun u resolved => List.mem_cons_of_mem _ (inv.resolved u resolved)
          · intro u op' b' same
            generalize ch.fate.answer = answer at same
            cases answer <;> cases same <;> exact ⟨at_v, fun _ => List.mem_cons_self⟩
  | _ => exact internal (by simp) (by simp)

/-- What a command leaves behind enqueues nothing. -/
theorem spawned_keyed {c : QueueCmd retention} {ch : DurableWriteQueue.Choice (backend retention)}
    {a : c.Ans} {spawned : List (DurableWriteQueue.Req (backend retention))}
    (h : DurableWriteQueue.exec c ch w = some (a, w', spawned)) : ∀ r ∈ spawned, Keyed r := by
  intro r hr
  have internal := fun enqueues own => exec_internal enqueues own h
  cases c with
  | enqueue request =>
    cases h
    simp only [List.mem_cons, List.not_mem_nil, or_false] at hr
    rcases hr with rfl | rfl <;> trivial
  | backend c' =>
    cases ch with
    | go | stop => cases h
    | backend ch =>
      obtain ⟨⟨a', n, tasks⟩, -, same⟩ := Option.map_eq_some_iff.mp h
      cases same
      obtain ⟨call, -, rfl⟩ := List.mem_map.mp hr
      trivial
  | _ =>
    obtain ⟨-, -, -, settles⟩ := internal (by simp) (by simp)
    obtain ⟨id, v, request, rfl⟩ := settles r hr
    trivial

end Acts

theorem mirrored_preserved : (discipline retention options).Preserves (timing retention options) Keyed
    fun w φs => Mirrored w φs where
  body r keyed := ⟨DurableWriteQueue.body_unsettled r, follows_body keyed⟩
  start w φs r inv enters := by
    refine ⟨enters.2, inv.keys, ?_, inv.resolved, inv.faithful⟩
    intro v op b mem
    rcases List.mem_append.mp mem with old | new
    · exact inv.trying v op b old
    · obtain ⟨entry, -⟩ := enters
      cases r with
      | reported => cases entry
      | _ => cases List.mem_singleton.mp new
  occur _ _ e := nomatch e
  act w φs i φ c ch a w' spawned inv at_i may timed h :=
    ⟨trivial, spawned_keyed h, inv.act at_i may timed h⟩
  settle w φs i φ r inv _ _ := by
    refine ⟨inv.keys, ?_, inv.resolved, inv.faithful⟩
    intro v op b mem
    rcases List.mem_or_eq_of_mem_set mem with same | idle
    · exact inv.trying v op b same
    · cases idle

/-- Redis binds members as the node's own map does, and no clock runs for a member it binds. -/
def Node.Agrees (n : Node) : Prop :=
  ∀ code m, (n.redis code).members.get? m = (n.localStore.seats code).get? m ∧
    ((n.redis code).members.has m = true → (n.redis code).memberTokenExpiry.has m = false)

/-- A node that just started, agreeing with Redis on what is seated. -/
structure Started (p : Pool (members retention options)) : Prop where
  booted : Booted p
  removals : p.shared.backend.removals = []
  landed : p.shared.backend.landed = []
  agrees : p.shared.backend.Agrees

/-- The last attempt of the removal succeeded, or it left the seat to a newer removal of it. -/
def fulfilled (a : Write) : Bool :=
  match a.outcome with
  | some (.ok ()) => true
  | some (.error e) => e.isSuperseded
  | none => false

theorem run_mirrored {p q : Pool (members retention options)} (start : Started p)
    (run : Run (timing retention options).guard p q) :
    ∃ φs, Mirrored q.shared φs := by
  obtain ⟨conf, none⟩ :=
    Discipline.conforming_of_no_calls (D := discipline retention options) start.booted.1
  have begun : Mirrored p.shared ((discipline retention options).phases p) := by
    rw [none]
    refine ⟨?_, (fun _ _ _ h => nomatch h), ?_, ?_⟩
    · rw [start.booted.2, start.removals]
      rfl
    · rw [start.booted.2]
      exact fun _ h => nomatch h
    · constructor
      · rw [start.landed]
        exact fun _ h => nomatch h
      · exact fun code m s held => (start.agrees code m).1.trans held
      · exact fun code m s bound => (start.agrees code m).2 (by rw [JsMap.has, bound]; rfl)
      · intro code m s free bound
        rw [(start.agrees code m).1, free] at bound
        cases bound
  exact ⟨_, (Discipline.run_invariant mirrored_preserved run conf begun).2⟩

/-- A removal that was fulfilled landed since it was called, or a newer one of its key did. -/
theorem landed_since {w : DurableWriteQueue.World (backend retention)} {φs : List Phase} (earned : Earned w.queue)
    (inv : Mirrored w φs) (done : ∀ a ∈ w.queue.writes, fulfilled a = true) {v : WriteId}
    {op : RemoveMember} (called : w.backend.removals[v]? = some op) :
    ∃ (u : WriteId) (op' : RemoveMember), v ≤ u ∧ w.backend.removals[u]? = some op' ∧
      op'.key = op.key ∧ u ∈ w.backend.landed := by
  have keyed : ∀ u : WriteId, (w.queue.writes[u]?).map Write.key =
      (w.backend.removals[u]?).map RemoveMember.key := by
    intro u
    rw [← List.getElem?_map, inv.keys, List.getElem?_map]
  -- On how many removals were called since: each gives way to a later one.
  induction left : w.backend.removals.length - v using Nat.strongRecOn generalizing v op with
  | _ n ih =>
    have within : v < w.backend.removals.length := (List.getElem?_eq_some_iff.mp called).1
    obtain ⟨a, at_v, key⟩ : ∃ a, w.queue.writes[v]? = some a ∧ a.key = op.key := by
      have same := keyed v
      rw [called] at same
      exact Option.map_eq_some_iff.mp same
    have answered := done a (List.mem_of_getElem? at_v)
    unfold fulfilled at answered
    split at answered
    · rename_i ok
      exact ⟨v, op, Nat.le_refl v, called, rfl, inv.resolved v (earned.written v a at_v ok)⟩
    · rename_i e failed
      obtain ⟨u, b, lt, at_u, same⟩ := earned.newer v a at_v (earned.gaveWay v a e at_v failed answered)
      obtain ⟨op', called', key'⟩ : ∃ op', w.backend.removals[u]? = some op' ∧ op'.key = b.key := by
        have same := keyed u
        rw [at_u] at same
        exact Option.map_eq_some_iff.mp same.symm
      have closer : w.backend.removals.length - u < n := by
        rw [← left]
        exact Nat.sub_lt_sub_left within lt
      obtain ⟨t, op₁, le, at_t, key₁, landed⟩ := ih _ closer called' rfl
      exact ⟨t, op₁, Nat.le_trans (Nat.le_of_lt lt) le, at_t,
        key₁.trans (key'.trans (same.trans key)), landed⟩
    · cases answered

/-- Once every removal was answered with success, or left its seat to a newer removal of it, Redis
binds members as the members map of the node does, and no clock runs for a member it binds: in
every run in which an attempt of a removal takes effect only while the members map does not hold
the seat it drops. -/
theorem last_issued_wins {p q : Pool (members retention options)} (start : Started p)
    (run : Run (timing retention options).guard p q)
    (done : ∀ a ∈ q.shared.queue.writes, fulfilled a = true) : q.shared.backend.Agrees := by
  obtain ⟨φs, inv⟩ := run_mirrored start run
  have earned : Earned q.shared.queue := by
    refine run_earned start.booted (run.mono fun p mv timed => ?_)
    cases mv with
    | start r => exact timed.1
    | run i ch => exact fun _ _ _ _ => trivial
    | event e => cases e
  intro code m
  constructor
  · cases held : (q.shared.backend.localStore.seats code).get? m with
    | some s => exact inv.faithful.seated code m s held
    | none =>
      cases bound : (q.shared.backend.redis code).members.get? m with
      | none => rfl
      | some s =>
        obtain ⟨v, op, called, drops, pending⟩ := inv.faithful.vacated code m s held bound
        obtain ⟨u, op', le, at_u, same, landed⟩ := landed_since earned inv done called
        exact absurd landed (pending u op' le at_u same)
  · intro seated
    obtain ⟨s, bound⟩ := Option.isSome_iff_exists.mp seated
    exact inv.faithful.retained code m s bound

/-- A node that just started over an empty Redis. -/
abbrev unused : Pool (members 100 {}) where
  shared := { backend := { localStore := {}, redis := fun _ => {} } }
  calls := []

theorem unused_started : Started unused := by
  refine ⟨⟨rfl, rfl⟩, rfl, rfl, ?_⟩
  intro code m
  exact ⟨rfl, nofun⟩

abbrev seating (session : SessionId) : Move (members 100 {}) := .start (.task ⟨7, 5, session, 50⟩)

abbrev removal (session : SessionId) : RemoveMember := ⟨7, 5, some session, 0⟩

abbrev removing (session : SessionId) : Move (members 100 {}) :=
  .start (.enqueue ⟨(removal session).key, "remove_member", removal session⟩)

abbrev turns (i n : Nat) : List (Move (members 100 {})) := List.replicate n (.run i .go)

abbrev sent (i : Nat) (fate : Fate) : Move (members 100 {}) := .run i (.backend ⟨0, fate⟩)

/-- Session 9 is seated and removed, the first attempt of the removal fails, and `returning` is
seated before the second. -/
abbrev comesBack (returning : SessionId) : List (Move (members 100 {})) :=
  [seating 9, sent 0 .ok, removing 9] ++ turns 1 1 ++ turns 2 4 ++
    [sent 2 (.lost (.other "lost")), sent 2 .ok] ++ turns 2 4 ++ [seating returning, sent 5 .ok] ++
    [sent 4 .ok] ++ turns 4 1 ++ turns 2 3 ++ [sent 2 .ok, sent 2 .ok] ++ turns 2 2 ++ turns 3 3 ++
    [sent 6 .ok] ++ turns 6 1 ++ turns 3 4

/-- What is left at the end: whether all is quiet and every write resolved, and who holds the seat
here and in Redis. -/
abbrev left (q : Pool (members 100 {})) : Bool × Option SessionId × Option SessionId :=
  (decide (q.Quiescent ∧ ∀ a ∈ q.shared.queue.writes, a.outcome = some (.ok ())),
    (q.shared.backend.localStore.seats 7).get? 5, (q.shared.backend.redis 7).members.get? 5)

/-- Another session takes the seat in between. -/
theorem last_issued_wins_replaced : ∃ q : Pool (members 100 {}),
    (q.Quiescent ∧ (q.shared.backend.redis 7).members.get? 5 = some 10) ∧
      q.shared.backend.Agrees := by
  obtain ⟨q, run, seen⟩ := Pool.replay_spec (timing 100 {}).guard unused (comesBack 10) left
    (b := (true, some 10, some 10)) (by rfl)
  obtain ⟨ended, bound⟩ := Prod.mk.inj seen
  obtain ⟨quiet, resolved⟩ := of_decide_eq_true ended
  refine ⟨q, ⟨quiet, (Prod.mk.inj bound).2⟩, last_issued_wins unused_started run ?_⟩
  intro a mem
  simp [fulfilled, resolved a mem]

/-- No `addMember` is lost. -/
def unlost : QueueCmd retention → DurableWriteQueue.Choice (backend retention) → Bool
  | .backend (.addMember _), .backend ch => ch.fate.lands
  | _, _ => true

/-- Attempts take effect at any time. -/
abbrev retrying (retention : Time) (options : DurableWriteQueueOptions) :
    (discipline retention options).Terms where
  start _ _ r := r.entry = true ∧ Keyed r
  act _ _ _ _ c ch := unlost c ch = true
  occur _ _ _ := True

/-- The same session takes the seat again, and the second attempt drops it in Redis. -/
theorem retry_drops_readded : ∃ q : Pool (members 100 {}),
    Run (retrying 100 {}).guard unused q ∧ q.Quiescent ∧
      (∀ a ∈ q.shared.queue.writes, a.outcome = some (.ok ())) ∧ ¬ q.shared.backend.Agrees := by
  obtain ⟨q, run, seen⟩ := Pool.replay_spec (retrying 100 {}).guard unused (comesBack 9) left
    (b := (true, some 9, none)) (by rfl)
  obtain ⟨ended, seats⟩ := Prod.mk.inj seen
  obtain ⟨held, bound⟩ := Prod.mk.inj seats
  obtain ⟨quiet, resolved⟩ := of_decide_eq_true ended
  refine ⟨q, run, quiet, resolved, fun agrees => ?_⟩
  have same := (agrees 7 5).1
  rw [held, bound] at same
  cases same

end BiliSyncPlay.RedisMembers
