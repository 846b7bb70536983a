import BiliSyncPlay.Interleave.Pool
import BiliSyncPlay.Redis.Clients

/-!
# What a client stands on

Where an operation on the Redis keys stands: what it has read that its next write relies on. A
session belongs to the instance that created it, and every record names that instance.
-/

namespace BiliSyncPlay.RedisRuntime

open Interleave DurableWriteQueue

variable {honest : Prop} {owner : SessionId → InstanceId}

/-! ## Records that tell the truth -/

/-- The fields of a session's hash are about that session. -/
def SessionHash.Truthful (owner : SessionId → InstanceId) (id : SessionId) (hash : SessionHash) :
    Prop :=
  (∀ x ∈ hash.id, x = id) ∧ ∀ f ∈ hash.fields, ∀ i ∈ f.instanceId, i = owner id

def Session.Truthful (owner : SessionId → InstanceId) (session : Session) : Prop :=
  ∀ i ∈ session.instanceId, i = owner session.id

/-- What a writer vouches for: its record is about its session, as far as clients are honest, and
a join was not pinned to a tombstone. -/
def Write.Vouched (honest : Prop) (owner : SessionId → InstanceId) : Write → Prop
  | .registerSession id record | .leaveRoomIndex id _ record =>
    honest → record.Truthful owner id
  | .joinRoomIndex pin id _ record =>
    (honest → record.Truthful owner id) ∧ pin.value ≠ some ROOM_GENERATION_TOMBSTONE
  | _ => True

def Req.Vouched (honest : Prop) (owner : SessionId → InstanceId) : Req → Prop
  | .registerSession session => honest → session.Truthful owner
  | .markSessionJoinedRoom id _ locals => honest →
    ∀ localSession ∈ locals, ∀ session ∈ localSession, session.id = id ∧ session.Truthful owner
  | .markSessionLeftRoom id _ localSession => honest →
    ∀ session ∈ localSession, session.id = id ∧ session.Truthful owner
  | .late write => write.Vouched honest owner
  | _ => True

instance (id : SessionId) (hash : SessionHash) : Decidable (hash.Truthful owner id) := by
  unfold SessionHash.Truthful
  infer_instance

instance (session : Session) : Decidable (session.Truthful owner) := by
  unfold Session.Truthful
  infer_instance

instance [Decidable honest] (w : Write) : Decidable (w.Vouched honest owner) := by
  unfold Write.Vouched
  split <;> infer_instance

instance [Decidable honest] (r : Req) : Decidable (r.Vouched honest owner) := by
  unfold Req.Vouched
  split <;> infer_instance

theorem truthful_record {session : Session} (h : session.Truthful owner) (code : Option Code) :
    (sessionHashRecord session code).Truthful owner session.id := by
  constructor
  · intro x hx
    exact (Option.some.inj hx).symm
  · intro f hf i hi
    cases hf
    exact h i hi

variable {id : SessionId}

theorem truthful_deserialized {hash : SessionHash} {session : Session} (h : hash.Truthful owner id)
    (decoded : deserializeSession hash = some session) :
    session.id = id ∧ session.Truthful owner := by
  obtain ⟨x, hx, rfl⟩ := Option.map_eq_some_iff.mp decoded
  obtain rfl := h.1 x hx
  refine ⟨rfl, ?_⟩
  intro i hi
  cases fields : hash.fields with
  | none =>
    rw [fields] at hi
    cases hi
  | some f =>
    rw [fields] at hi
    exact h.2 f fields i hi

theorem truthful_hset {hash record : SessionHash} (h : hash.Truthful owner id)
    (h' : record.Truthful owner id) : (hash.hset record).Truthful owner id := by
  constructor
  · intro x hx
    rcases Option.or_eq_some_iff.mp hx with new | ⟨-, old⟩
    · exact h'.1 x new
    · exact h.1 x old
  · intro f hf
    rcases Option.or_eq_some_iff.mp hf with new | ⟨-, old⟩
    · exact h'.2 f new
    · exact h.2 f old

/-! ## Phases -/

inductive Phase where
  | free
  | purging (instance_ : InstanceId)
  | examining (instance_ : InstanceId) (session : Session)
  /-- The binding was read as one the purged session still holds. -/
  | unseating (instance_ : InstanceId) (code : Code) (memberId : MemberId)
  | seating (pin : Option Pin)
  | founding (pin : Option Pin)
  | stamping (pin : Pin) (uuid : Nat)
  | tearing (expected : Option Pin)
  deriving DecidableEq

namespace Phase

def read (i : InstanceId) (hash : SessionHash) : Phase :=
  match deserializeSession hash with
  | some session => examining i session
  | none => purging i

def after : Phase → (c : Cmd) → c.Ans → Phase
  | purging i, .hgetall _, some hash | examining i _, .hgetall _, some hash => read i hash
  | examining i session, .hgetMember code memberId, some bound =>
    if session.instanceId = some i ∧ bound = some session.id then unseating i code memberId
    else examining i session
  | examining i _, .write (.purgeSession ..), _ | unseating i _ _, .write (.purgeSession ..), _ =>
    purging i
  | seating none, .getRoomGeneration _, some pin => seating (some pin)
  | founding none, .getRoomGeneration _, some pin => founding (some pin)
  | founding (some pin), .randomUUID, uuid => stamping pin uuid
  | tearing none, .getRoomGeneration _, some pin => tearing (some pin)
  | stamping .., .write (.markRoomGeneration ..), _ => free
  | φ, _, _ => φ

/-- The writes that rely on what was read. -/
def Writes (φ : Phase) : Write → Prop
  | .purgeSession i _ _ (some seat) => φ = unseating i seat.code seat.memberId
  | .joinRoomIndex pin .. => φ = seating (some pin)
  | .markRoomGeneration pin uuid => φ = stamping pin uuid
  | .deleteRoom pin => φ = tearing (some pin)
  | _ => True

def Permits (honest : Prop) (owner : SessionId → InstanceId) (φ : Phase) : Cmd → Prop
  | .write write => write.Vouched honest owner ∧ φ.Writes write
  | _ => True

def Expects (honest : Prop) (owner : SessionId → InstanceId) : (c : Cmd) → c.Ans → Prop
  | .hgetall id, some hash => honest → hash.Truthful owner id
  | .getRoomGeneration code, some pin => pin.code = code
  | _, _ => True

def begin : Req → Phase
  | .markSessionJoinedRoom .. => seating none
  | .createRoom _ => founding none
  | .collectRuntimeState _ => tearing none
  | .purgeSessionsByInstance i => purging i
  | .late (.purgeSession i _ _ (some seat)) => unseating i seat.code seat.memberId
  | .late (.joinRoomIndex pin ..) => seating (some pin)
  | .late (.markRoomGeneration pin uuid) => stamping pin uuid
  | .late (.deleteRoom pin) => tearing (some pin)
  | _ => free

end Phase

abbrev protocol (honest : Prop) (owner : SessionId → InstanceId) : Protocol Cmd Cmd.Ans where
  Phase := Phase
  permits := Phase.Permits honest owner
  expects _ := Phase.Expects honest owner
  after := Phase.after

/-- A call that ended stands on nothing any more. -/
abbrev discipline (honest : Prop) (owner : SessionId → InstanceId) (retention : Time) :
    Discipline (machine retention) where
  toProtocol := protocol honest owner
  begin := Phase.begin
  done _ _ := True
  retire _ := .free

/-! ## Every operation follows the protocol -/

section Follows

variable {φ : Phase} {retention : Time} {α : Type}

theorem follows_orThrow {a : Option α} {Q : Phase → Except RunError α → Prop}
    (ok : ∀ x, a = some x → Q φ (.ok x)) (failed : ∀ e, a = none → Q φ (.error e)) :
    (orThrow a).Follows (protocol honest owner) φ Q := by
  cases a with
  | none => exact failed _ rfl
  | some x => exact ok x rfl

theorem follows_perform {w : Write} {Q : Phase → Except RunError Bool → Prop}
    (may : Phase.Permits honest owner φ (.write w))
    (ended : ∀ a r, Q (Phase.after φ (.write w) a) r) :
    (perform w).Follows (protocol honest owner) φ Q := by
  rw [perform, Prog.follows_bind]
  exact ⟨may, fun a _ => follows_orThrow (fun x _ => ended a (.ok x)) fun e _ => ended a (.error e)⟩

/-- Reading a session's hash: what was read is about that session. -/
theorem follows_loadSession {Q : Phase → Except RunError (Option Session) → Prop}
    (loaded : ∀ hash, (honest → hash.Truthful owner id) →
      Q (Phase.after φ (.hgetall id) (some hash)) (.ok (deserializeSession hash)))
    (failed : ∀ e, Q (Phase.after φ (.hgetall id) none) (.error e)) :
    (loadSession id).Follows (protocol honest owner) φ Q := by
  rw [loadSession, Prog.follows_bind]
  refine ⟨trivial, fun a expected => ?_⟩
  change Prog.Follows _ _ (orThrow a >>= _) _
  rw [Prog.follows_bind]
  cases a with
  | none => exact failed _
  | some hash => exact loaded hash expected

theorem follows_cleanup {code : Option Code} {Q : Phase → Except RunError Unit → Prop}
    (ended : Q φ (.ok ())) : (cleanupEmptyRoomIndex code).Follows (protocol honest owner) φ Q := by
  cases code with
  | none => exact ended
  | some code =>
    refine ⟨⟨trivial, trivial⟩, fun a _ => ?_⟩
    have stays : Phase.after φ (.write (.cleanupEmptyRoom code)) a = φ := by
      cases φ with
      | seating pin | founding pin | tearing pin => cases pin <;> rfl
      | _ => rfl
    change Q (Phase.after φ _ a) (.ok ())
    rw [stays]
    exact ended

theorem follows_unregisterSession {roomCode : Option Code} :
    (unregisterSession id roomCode).Follows (protocol honest owner) .free fun _ _ => True := by
  have drop : ∀ roomCode, Prog.Follows (protocol honest owner) .free
      (perform (.unregisterSession id roomCode) >>= fun _ => cleanupEmptyRoomIndex roomCode)
      fun _ _ => True := by
    intro roomCode
    rw [Prog.follows_bind]
    refine follows_perform ⟨trivial, trivial⟩ ?_
    intro a r
    cases r with
    | ok b => exact follows_cleanup trivial
    | error e => trivial
  rw [unregisterSession, Prog.follows_bind]
  cases roomCode with
  | some code => exact drop (some code)
  | none =>
    rw [roomCodeOf, Prog.follows_bind]
    apply follows_loadSession
    · exact fun hash _ => drop _
    · exact fun _ => trivial

variable {code : Code}

theorem truthful_joinRecord {hash : SessionHash} {localSession : Option Session}
    (read : hash.Truthful owner id)
    (own : ∀ session ∈ localSession, session.id = id ∧ session.Truthful owner) :
    (joinRecord id code (deserializeSession hash) localSession).Truthful owner id := by
  cases localSession with
  | some session =>
    obtain ⟨rfl, truthful⟩ := own session rfl
    exact truthful_record truthful _
  | none =>
    cases stored : deserializeSession hash with
    | some session =>
      obtain ⟨rfl, truthful⟩ := truthful_deserialized read stored
      exact truthful_record truthful _
    | none =>
      refine ⟨fun x hx => (Option.some.inj hx).symm, ?_⟩
      intro f hf
      cases hf

theorem follows_joinAttempt {pin : Pin} {localSession : Option Session}
    (live : pin.value ≠ some ROOM_GENERATION_TOMBSTONE)
    (own : honest → ∀ session ∈ localSession, session.id = id ∧ session.Truthful owner) :
    (joinAttempt pin id localSession).Follows (protocol honest owner) (.seating (some pin))
      fun φ _ => φ = .seating (some pin) := by
  rw [joinAttempt, Prog.follows_bind]
  apply follows_loadSession
  · intro hash read
    change Prog.Follows _ _ (perform _ >>= _) _
    rw [Prog.follows_bind]
    refine follows_perform ⟨⟨fun h => truthful_joinRecord (read h) (own h), live⟩, rfl⟩ ?_
    intro a r
    cases r with
    | error e => rfl
    | ok applied =>
      cases applied with
      | true => exact follows_cleanup rfl
      | false => rfl
  · exact fun _ => rfl

theorem follows_joinAttempts {pin : Pin} {locals : List (Option Session)}
    (live : pin.value ≠ some ROOM_GENERATION_TOMBSTONE)
    (own : honest → ∀ localSession ∈ locals, ∀ session ∈ localSession,
      session.id = id ∧ session.Truthful owner) :
    (joinAttempts pin id locals).Follows (protocol honest owner) (.seating (some pin))
      fun φ _ => φ = .seating (some pin) := by
  induction locals with
  | nil => rfl
  | cons localSession rest ih =>
    have first := fun h => own h localSession List.mem_cons_self
    have again := ih fun h other mem => own h other (List.mem_cons_of_mem _ mem)
    rw [joinAttempts, Prog.follows_tryCatch]
    refine (follows_joinAttempt live first).mono ?_
    rintro ψ (error | done) rfl
    · change Prog.Follows _ _ (ite _ _ _) _
      split
      · exact again
      · rfl
    · rfl

theorem follows_markSessionJoinedRoom {locals : List (Option Session)}
    (own : honest → ∀ localSession ∈ locals, ∀ session ∈ localSession,
      session.id = id ∧ session.Truthful owner) :
    (markSessionJoinedRoom id code locals).Follows (protocol honest owner) (.seating none)
      fun _ _ => True := by
  rw [markSessionJoinedRoom, Prog.follows_bind]
  refine ⟨trivial, fun a _ => ?_⟩
  cases a with
  | none => trivial
  | some pin =>
    change Prog.Follows _ _ (ite _ _ _) _
    split
    · trivial
    · rename_i live
      exact (follows_joinAttempts live own).mono fun _ _ _ => trivial

theorem follows_markSessionLeftRoom {code : Option Code} {localSession : Option Session}
    (own : honest → ∀ session ∈ localSession, session.id = id ∧ session.Truthful owner) :
    (markSessionLeftRoom id code localSession).Follows (protocol honest owner) .free
      fun _ _ => True := by
  have record : honest → (leftRecord localSession).Truthful owner id := by
    intro h
    cases localSession with
    | none => exact ⟨by simp [leftRecord], by simp [leftRecord]⟩
    | some session =>
      obtain ⟨rfl, truthful⟩ := own h session rfl
      exact truthful_record truthful none
  rw [markSessionLeftRoom, Prog.follows_bind]
  apply follows_loadSession
  · intro hash _
    dsimp only [Prog.andThen]
    split
    · trivial
    · rw [Prog.follows_bind]
      refine follows_perform ⟨record, trivial⟩ ?_
      intro a r
      cases r with
      | ok b => exact follows_cleanup trivial
      | error e => trivial
  · exact fun _ => trivial

theorem follows_createRoom :
    (createRoom code).Follows (protocol honest owner) (.founding none) fun _ _ => True := by
  refine ⟨trivial, fun now _ => ⟨trivial, fun redisNow _ => ?_⟩⟩
  change Prog.Follows _ _ (perform _ >>= _) _
  rw [Prog.follows_bind]
  refine follows_perform ⟨trivial, trivial⟩ ?_
  intro a r
  cases r with
  | error e => trivial
  | ok b =>
    change Prog.Follows _ _ (perform _ >>= _) _
    rw [Prog.follows_bind]
    refine follows_perform ⟨trivial, trivial⟩ ?_
    intro a r
    cases r with
    | error e => trivial
    | ok found =>
      cases found with
      | true => trivial
      | false =>
        refine ⟨trivial, fun created _ => ?_⟩
        cases created with
        | none => trivial
        | some created =>
          cases created with
          | false => trivial
          | true =>
            refine ⟨trivial, fun read _ => ?_⟩
            cases read with
            | none => trivial
            | some pin =>
              refine ⟨trivial, fun uuid _ => ?_⟩
              exact follows_perform ⟨trivial, rfl⟩ fun _ _ => trivial

theorem follows_collectRuntimeState :
    (collectRuntimeState code).Follows (protocol honest owner) (.tearing none) fun _ _ => True := by
  refine ⟨trivial, fun read _ => ?_⟩
  cases read with
  | none => trivial
  | some expected =>
    refine ⟨trivial, fun found _ => ?_⟩
    cases found with
    | none => trivial
    | some found =>
      cases found with
      | true => trivial
      | false =>
        refine ⟨trivial, fun again _ => ?_⟩
        cases again with
        | none => trivial
        | some confirmed =>
          change Prog.Follows _ _ (ite _ _ _) _
          split
          · trivial
          · exact follows_perform ⟨trivial, rfl⟩ fun _ _ => trivial

/-- Between two sessions, nothing of the one is carried into the other. -/
def Phase.Purges (i : InstanceId) (φ : Phase) : Prop :=
  φ = .purging i ∨ ∃ session, φ = .examining i session

theorem follows_purgeSession {i : InstanceId} (purges : φ.Purges i) :
    (purgeSession retention i id).Follows (protocol honest owner) φ
      fun ψ r => ∀ n, r = .ok n → ψ.Purges i := by
  have reads : ∀ hash, Phase.after φ (.hgetall id) (some hash) = Phase.read i hash := by
    rcases purges with rfl | ⟨session, rfl⟩ <;> exact fun _ => rfl
  rw [purgeSession, Prog.follows_bind]
  apply follows_loadSession
  · intro hash _
    rw [reads, Phase.read]
    cases deserializeSession hash with
    | none => exact fun _ _ => .inl rfl
    | some session =>
      have finish : ∀ seat ψ, (ψ = .examining i session ∧ seat = none ∨
          ∃ u : Unseat, seat = some u ∧ ψ = .unseating i u.code u.memberId) →
          Prog.Follows (protocol honest owner) ψ (do
            let _ ← perform (.purgeSession i id session.roomCode seat)
            cleanupEmptyRoomIndex session.roomCode
            pure 1 : Client Nat) fun ψ r => ∀ n, r = .ok n → ψ.Purges i := by
        intro seat ψ stands
        have may : Phase.Permits honest owner ψ (.write (.purgeSession i id session.roomCode seat)) ∧
            ∀ a, Phase.after ψ (.write (.purgeSession i id session.roomCode seat)) a =
              .purging i := by
          rcases stands with ⟨rfl, rfl⟩ | ⟨u, rfl, rfl⟩
          · exact ⟨⟨trivial, trivial⟩, fun _ => rfl⟩
          · exact ⟨⟨trivial, rfl⟩, fun _ => rfl⟩
        rw [Prog.follows_bind]
        apply follows_perform may.1
        intro a r
        rw [may.2 a]
        cases r with
        | error e => exact nofun
        | ok b =>
          rw [Prog.andThen_ok, Prog.follows_bind]
          exact follows_cleanup fun _ _ => .inl rfl
      change Prog.Follows (protocol honest owner) (Phase.examining i session) (ite (session.instanceId = some i) _ _) _
      split
      · rename_i own
        rw [Prog.follows_bind, purgedSeat]
        split
        · rename_i code memberId _ _
          refine ⟨trivial, fun bound _ => ?_⟩
          cases bound with
          | none => exact nofun
          | some bound =>
            change Prog.Follows _ (ite (session.instanceId = some i ∧ bound = some session.id) _ _)
              (ite (bound = some session.id) _ _) _
            by_cases held : bound = some session.id
            · rw [if_pos ⟨own, held⟩, if_pos held]
              refine ⟨trivial, fun token _ => ?_⟩
              cases token with
              | none => exact nofun
              | some token =>
                cases token with
                | none => exact finish _ _ (.inr ⟨_, rfl, rfl⟩)
                | some token =>
                  exact ⟨trivial, fun now _ => finish _ _ (.inr ⟨_, rfl, rfl⟩)⟩
            · rw [if_neg fun both => held both.2, if_neg held]
              exact finish none _ (.inl ⟨rfl, rfl⟩)
        · exact finish none _ (.inl ⟨rfl, rfl⟩)
      · exact fun _ _ => .inr ⟨session, rfl⟩
  · exact fun _ _ => nofun

theorem follows_purgeSessions {i : InstanceId} {ids : List SessionId} (purges : φ.Purges i) :
    (purgeSessions retention i ids).Follows (protocol honest owner) φ fun _ _ => True := by
  induction ids generalizing φ with
  | nil => trivial
  | cons id rest ih =>
    rw [purgeSessions, Prog.follows_bind]
    refine (follows_purgeSession purges).mono fun ψ r kept => ?_
    cases r with
    | error e => trivial
    | ok n =>
      rw [Prog.andThen_ok, Prog.follows_bind]
      refine (ih (kept n rfl)).mono fun χ r _ => ?_
      cases r <;> trivial

theorem follows_purgeSessionsByInstance {i : InstanceId} :
    (purgeSessionsByInstance retention i).Follows (protocol honest owner) (.purging i)
      fun _ _ => True := by
  refine ⟨trivial, fun sessions _ => ?_⟩
  cases sessions with
  | none => trivial
  | some sessions => exact follows_purgeSessions (.inl rfl)

theorem permits_late {w : Write} (vouched : w.Vouched honest owner) :
    Phase.Permits honest owner (Phase.begin (.late w)) (.write w) := by
  refine ⟨vouched, ?_⟩
  cases w with
  | purgeSession i id roomCode seat => cases seat <;> trivial
  | joinRoomIndex | markRoomGeneration | deleteRoom => rfl
  | _ => trivial

/-- A call whose result is of no interest follows what the operation follows. -/
theorem follows_discarded {β : Type} {p : Client β}
    (h : p.Follows (protocol honest owner) φ fun _ _ => True) :
    (do
      let _ ← p
      pure () : Client Unit).Follows (protocol honest owner) φ fun _ _ => True := by
  rw [Prog.follows_bind]
  refine h.mono fun _ r _ => ?_
  cases r <;> trivial

/-- Every call, from where it begins. -/
theorem follows_body {r : Req} (vouched : r.Vouched honest owner) :
    (body retention r).Follows (protocol honest owner) (Phase.begin r) fun _ _ => True := by
  cases r with
  | addMember => exact follows_discarded (follows_perform ⟨trivial, trivial⟩ fun _ _ => trivial)
  | removeMember code memberId session =>
    refine ⟨trivial, fun now _ => ?_⟩
    exact follows_discarded (follows_perform ⟨trivial, trivial⟩ fun _ _ => trivial)
  | registerSession session =>
    exact follows_discarded
      (follows_perform ⟨fun h => truthful_record (vouched h) _, trivial⟩ fun _ _ => trivial)
  | unregisterSession => exact follows_unregisterSession
  | markSessionJoinedRoom => exact follows_markSessionJoinedRoom vouched
  | markSessionLeftRoom => exact follows_markSessionLeftRoom vouched
  | createRoom => exact follows_discarded follows_createRoom
  | collectRuntimeState => exact follows_discarded follows_collectRuntimeState
  | purgeSessionsByInstance => exact follows_discarded follows_purgeSessionsByInstance
  | late w => exact ⟨permits_late vouched, fun _ _ => trivial⟩

theorem body_unsettled (r : Req) : (body retention r).settled = false := by
  cases r with
  | unregisterSession id roomCode => cases roomCode <;> rfl
  | _ => rfl

end Follows

end BiliSyncPlay.RedisRuntime
