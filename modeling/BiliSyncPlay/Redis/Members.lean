import BiliSyncPlay.Redis.Keys
import BiliSyncPlay.WriteQueue.Earned

/-!
# Seats, here and in Redis

A node keeps its own members map and writes every change through to Redis: an `addMember` is one
transaction, a `removeMember` goes through the write queue and is tried again. One connection runs
its commands in the order they were issued, so a command takes effect when it is issued and is
answered later.
-/

namespace BiliSyncPlay.RedisMembers

open Interleave DurableWriteQueue
open RedisRuntime (RoomKeys)

/-! ## The node -/

/-- A call of `removeMember`, with the time it was made at. -/
structure RemoveMember where
  code : Code
  memberId : MemberId
  session : Option SessionId
  calledAt : Time

structure AddMember where
  code : Code
  memberId : MemberId
  session : SessionId
  memberToken : Token

def RemoveMember.key (op : RemoveMember) : String :=
  "member:" ++ toString op.code ++ ":" ++ toString op.memberId ++ ":" ++
    (op.session.map toString).getD ""

/-- What one node and Redis hold of the rooms. -/
structure Node where
  localStore : RuntimeStore
  redis : Code → RoomKeys
  /-- Every removal called so far, in the order of the calls. -/
  removals : List RemoveMember := []
  /-- The removals of which an attempt took effect. -/
  landed : List WriteId := []

def Node.onRoom (n : Node) (code : Code) (f : RoomKeys → RoomKeys) : Node :=
  { n with redis := Function.update n.redis code (f (n.redis code)) }

inductive Cmd where
  /-- The whole of the call, up to issuing its transaction. -/
  | addMember (call : AddMember)
  /-- Issues `REMOVE_MEMBER_LUA`. -/
  | removeMember (w : WriteId) (op : RemoveMember)
  | reply

abbrev Cmd.Ans : Cmd → Type
  | addMember _ | reply => Unit
  -- What the command is going to be answered with.
  | removeMember .. => Except RunError Unit

inductive Fate where
  | ok
  /-- It failed before it had any effect. -/
  | lost (error : RunError)
  /-- It took effect, and whoever waits is told it failed. -/
  | unanswered (error : RunError)

def Fate.lands : Fate → Bool
  | lost _ => false
  | _ => true

def Fate.answer : Fate → Except RunError Unit
  | ok => .ok ()
  | lost error | unanswered error => .error error

structure Choice where
  now : Time
  fate : Fate

def Node.addMember (n : Node) (call : AddMember) (now : Time) (lands : Bool) : Node :=
  let n := { n with localStore :=
    n.localStore.addMember call.code call.memberId call.session call.memberToken now }
  if lands then n.onRoom call.code fun room =>
    room.addMember call.memberId call.session call.memberToken
  else n

def Node.removeMember (n : Node) (w : WriteId) (op : RemoveMember) (expiresAt : Time) : Node :=
  { n.onRoom op.code fun room => room.removeMember op.memberId op.session expiresAt with
    landed := w :: n.landed }

/-- What `removeMember` does before it enqueues. -/
def Node.vacate (retention : Time) (op : RemoveMember) (n : Node) : Node :=
  { n with
    localStore :=
      (n.localStore.removeMember op.code op.memberId op.session retention op.calledAt).2
    removals := n.removals ++ [op] }

def exec (retention : Time) : (c : Cmd) → Choice → Node → Option (c.Ans × Node × List AddMember)
  | .addMember call, ch, n => some ((), n.addMember call ch.now ch.fate.lands, [])
  | .removeMember w op, ch, n =>
    some (ch.fate.answer,
      if ch.fate.lands then n.removeMember w op (ch.now + retention) else n, [])
  | .reply, _, n => some ((), n, [])

abbrev Client := Prog Cmd Cmd.Ans RunError

def ask (c : Cmd) : Client c.Ans := Prog.perform c

def attempt (w : WriteId) (op : RemoveMember) : Client Unit := do
  let answer ← ask (.removeMember w op)
  ask .reply
  match answer with
  | .ok () => pure ()
  | .error error => throw error

abbrev backend (retention : Time) : Backend where
  Cmd := Cmd
  Ans := Cmd.Ans
  Shared := Node
  Choice := Choice
  Op := RemoveMember
  Task := AddMember
  sync
    | .reply => false
    | _ => true
  exec := exec retention
  uponEnqueue := Node.vacate retention
  run := attempt
  settle _ _ := ask .reply
  task call := ask (.addMember call)
  task_waits _ := rfl

abbrev members (retention : Time) (options : DurableWriteQueueOptions) : Machine :=
  DurableWriteQueue.machine (backend retention) options

variable {retention : Time} {options : DurableWriteQueueOptions}

/-! ## What a removal drops -/

/-- The seat is one the removal drops: its member's, and its session's if it names one. -/
def RemoveMember.Drops (op : RemoveMember) (code : Code) (m : MemberId) (s : SessionId) : Prop :=
  op.code = code ∧ op.memberId = m ∧ ∀ e ∈ op.session, e = s

instance (op : RemoveMember) (code : Code) (m : MemberId) (s : SessionId) :
    Decidable (op.Drops code m s) := by
  unfold RemoveMember.Drops
  infer_instance

section Removals

variable {op op' : RemoveMember} {code : Code} {m : MemberId} {s : SessionId}

theorem seats_vacate (n : Node) (retention : Time) (op : RemoveMember) :
    ((n.vacate retention op).localStore.seats code).get? m =
      ((n.localStore.seats code).get? m).filter fun s => !decide (op.Drops code m s) := by
  obtain ⟨c, k, session, calledAt⟩ := op
  by_cases room : c = code
  · subst room
    by_cases own : k = m
    · subst own
      cases held : (n.localStore.seats c).get? k with
      | none =>
        cases session <;>
          simp [Node.vacate, RuntimeStore.seats_removeMember, RuntimeStore.seats_removeMember_none, held]
      | some s =>
        cases session with
        | none => simp [Node.vacate, RuntimeStore.seats_removeMember_none, Option.filter, RemoveMember.Drops]
        | some e =>
          by_cases same : s = e
          · simp [Node.vacate, RuntimeStore.seats_removeMember, Option.filter, RemoveMember.Drops, held, same]
          · simp [Node.vacate, RuntimeStore.seats_removeMember, Option.filter, RemoveMember.Drops, held, same,
              Ne.symm same]
    · have kept : ((n.vacate retention ⟨c, k, session, calledAt⟩).localStore.seats c).get? m =
          (n.localStore.seats c).get? m := by
        cases session with
        | none => simp [Node.vacate, RuntimeStore.seats_removeMember_none, own]
        | some e =>
          simp only [Node.vacate, RuntimeStore.seats_removeMember]
          split
          · exact JsMap.get?_delete_ne _ own
          · rfl
      rw [kept]
      cases (n.localStore.seats c).get? m <;> simp [Option.filter, RemoveMember.Drops, own]
  · have kept : (n.vacate retention ⟨c, k, session, calledAt⟩).localStore.seats code =
        n.localStore.seats code := by
      cases session <;> simp [Node.vacate, RuntimeStore.seats_removeMember, RuntimeStore.seats_removeMember_none, room]
    rw [kept]
    cases (n.localStore.seats code).get? m <;> simp [Option.filter, RemoveMember.Drops, room]

theorem removeMember_cases (room : RoomKeys) (k : MemberId) (session : Option SessionId)
    (expiresAt : Time) : room.removeMember k session expiresAt = room ∨
      room.removeMember k session expiresAt = room.unseat k expiresAt := by
  unfold RoomKeys.removeMember
  split
  · split
    · exact .inr rfl
    · exact .inl rfl
  · exact .inr rfl

theorem members_removeMember (room : RoomKeys) (op : RemoveMember) (expiresAt : Time) :
    (room.removeMember op.memberId op.session expiresAt).members.get? m =
      (room.members.get? m).filter fun s => !decide (op.Drops op.code m s) := by
  obtain ⟨c, k, session, calledAt⟩ := op
  by_cases own : k = m
  · subst own
    cases held : room.members.get? k with
    | none => cases session <;> simp [RoomKeys.removeMember, RoomKeys.unseat, held]
    | some s =>
      cases session with
      | none => simp [RoomKeys.removeMember, RoomKeys.unseat, Option.filter, RemoveMember.Drops]
      | some e =>
        by_cases same : s = e
        · simp [RoomKeys.removeMember, RoomKeys.unseat, Option.filter, RemoveMember.Drops, held, same]
        · simp [RoomKeys.removeMember, Option.filter, RemoveMember.Drops, held, same, Ne.symm same]
  · have kept : (room.removeMember k session expiresAt).members.get? m = room.members.get? m := by
      rcases removeMember_cases room k session expiresAt with same | same
      · rw [same]
      · rw [same]
        exact JsMap.get?_delete_ne _ own
    rw [kept]
    cases room.members.get? m <;> simp [Option.filter, RemoveMember.Drops, own]

/-- No clock is started for a seat that stays. -/
theorem expiry_removeMember {room : RoomKeys} {k : MemberId} {session : Option SessionId}
    {expiresAt : Time} (bound : (room.removeMember k session expiresAt).members.get? m = some s) :
    (room.removeMember k session expiresAt).memberTokenExpiry.has m = room.memberTokenExpiry.has m := by
  rcases removeMember_cases room k session expiresAt with same | same
  · rw [same]
  · rw [same] at bound ⊢
    have other : k ≠ m := by
      rintro rfl
      simp [RoomKeys.unseat] at bound
    by_cases identity : room.memberTokens.has k = true
    · simp only [RoomKeys.unseat, if_pos identity]
      exact congrArg Option.isSome (JsMap.get?_set_ne _ _ other)
    · simp [RoomKeys.unseat, identity]

theorem cut_inj {x x' z z' : List Char} (absent : ':' ∉ x) (absent' : ':' ∉ x')
    (same : x ++ ':' :: z = x' ++ ':' :: z') : x = x' ∧ z = z' := by
  induction x generalizing x' with
  | nil =>
    cases x' with
    | nil => exact ⟨rfl, (List.cons.inj same).2⟩
    | cons c x' => exact absurd ((List.cons.inj same).1 ▸ List.mem_cons_self) absent'
  | cons c x ih =>
    cases x' with
    | nil => exact absurd ((List.cons.inj same).1 ▸ List.mem_cons_self) absent
    | cons c' x' =>
      obtain ⟨rfl, rest⟩ := List.cons.inj same
      obtain ⟨rfl, rfl⟩ := ih (fun h => absent (List.mem_cons_of_mem _ h))
        (fun h => absent' (List.mem_cons_of_mem _ h)) rest
      exact ⟨rfl, rfl⟩

theorem colon_notMem_toDigits (n : Nat) : ':' ∉ Nat.toDigits 10 n := by
  intro mem
  have digit : ':'.isDigit = true := Nat.isDigit_of_mem_toDigits (by decide) (by decide) mem
  exact absurd digit (by decide)

theorem toDigits_inj {n n' : Nat} (same : Nat.toDigits 10 n = Nat.toDigits 10 n') : n = n' := by
  rw [← Nat.ofDigitChars_toDigits (b := 10) (n := n) (by decide) (by decide), same,
    Nat.ofDigitChars_toDigits (by decide) (by decide)]

/-- Removals of one key drop the same seats. -/
theorem key_inj (same : op.key = op'.key) :
    op.code = op'.code ∧ op.memberId = op'.memberId ∧ op.session = op'.session := by
  have chars := congrArg String.toList same
  simp only [RemoveMember.key, String.toList_append, List.append_assoc, List.append_cancel_left_eq,
    Nat.toString_eq_repr, Nat.toList_repr] at chars
  obtain ⟨code, rest⟩ := cut_inj (colon_notMem_toDigits _) (colon_notMem_toDigits _) chars
  obtain ⟨member, last⟩ := cut_inj (colon_notMem_toDigits _) (colon_notMem_toDigits _) rest
  refine ⟨toDigits_inj code, toDigits_inj member, ?_⟩
  cases held : op.session with
  | none =>
    cases held' : op'.session with
    | none => rfl
    | some s => simp [held, held', Nat.toDigits_ne_nil] at last
  | some s =>
    cases held' : op'.session with
    | none => simp [held, held', Nat.toDigits_ne_nil] at last
    | some s' =>
      simp only [held, held', Option.map_some, Option.getD_some, Nat.toString_eq_repr,
        Nat.toList_repr] at last
      exact congrArg some (toDigits_inj last)

end Removals

end BiliSyncPlay.RedisMembers
