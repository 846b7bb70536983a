import BiliSyncPlay.Protocol.Server
import Mathlib.Data.List.OfFn

/-!
# What the server makes up stays within the guards

Its ids, codes and tokens by how they are made, and the names of clients by the guard that let them
in, whether read off a session or off its record.
-/

namespace BiliSyncPlay.Protocol

open Json RedisRoomStore

/-! ## Names -/

theorem pick_holds {α : Type} {alphabet : List α} {default : α} {i : Nat} {test : α → Bool}
    (all : alphabet.all test = true) (inside : i < alphabet.length) :
    test (pick alphabet default i) = true := by
  have held : pick alphabet default i = alphabet[i] := by simp [pick, inside]
  rw [held]
  exact List.all_eq_true.mp all _ (List.getElem_mem inside)

def isNamePart (u : CodeUnit) : Bool := isAlphanumeric u || u ∈ [char ':', char '_', char '-']

variable {s : JsString} {session : Session}

theorem isActorName_iff : isActorName s = true ↔
    ∃ first rest, s = first :: rest ∧ isAlphanumeric first = true ∧ rest.length ≤ 63 ∧
      ∀ u ∈ rest, isNamePart u = true := by
  cases s with
  | nil => simp [isActorName]
  | cons first rest => simp [isActorName, isNamePart, and_assoc]

/-- An id starts with a digit and has letters, digits and hyphens. -/
theorem randomUUID_spelt (digits : Fin 32 → Fin 16) : ∃ first rest,
    randomUUID digits = first :: rest ∧ isAlphanumeric first = true ∧ rest.length = 35 ∧
      ∀ u ∈ rest, isAlphanumeric u = true ∨ u = char '-' := by
  have alphanumeric : ∀ u ∈ List.ofFn fun i => pick (js "0123456789abcdef") 0 (digits i),
      isAlphanumeric u = true := by
    intro u mem
    obtain ⟨i, rfl⟩ := List.mem_ofFn.mp mem
    exact pick_holds (by decide) (digits i).isLt
  have length : (List.ofFn fun i => pick (js "0123456789abcdef") 0 (digits i)).length = 32 := by
    simp
  unfold randomUUID
  generalize (List.ofFn fun i => pick (js "0123456789abcdef") 0 (digits i)) = hex at *
  cases hex with
  | nil => simp at length
  | cons first rest =>
    have group {u : CodeUnit} {from_ count : Nat}
        (mem : u ∈ ((first :: rest).drop from_).take count) : isAlphanumeric u = true :=
      alphanumeric u (List.mem_of_mem_drop (List.mem_of_mem_take mem))
    simp only [List.take_succ_cons, List.cons_append, List.append_assoc, List.nil_append]
    refine ⟨first, _, rfl, alphanumeric first List.mem_cons_self, ?_, ?_⟩
    · simp at length ⊢
      omega
    · intro u mem
      simp only [List.mem_append, List.mem_cons] at mem
      rcases mem with h | rfl | h | rfl | h | rfl | h | rfl | h
      · exact .inl (alphanumeric u (List.mem_cons_of_mem _ (List.mem_of_mem_take h)))
      · exact .inr rfl
      · exact .inl (group h)
      · exact .inr rfl
      · exact .inl (group h)
      · exact .inr rfl
      · exact .inl (group h)
      · exact .inr rfl
      · exact .inl (alphanumeric u (List.mem_of_mem_drop h))

theorem randomUUID_parts (digits : Fin 32 → Fin 16) : (randomUUID digits).length = 36 ∧
    ∀ u ∈ randomUUID digits, isAlphanumeric u = true ∨ u = char '-' := by
  obtain ⟨first, rest, spelt, alphanumeric, length, parts⟩ := randomUUID_spelt digits
  rw [spelt]
  refine ⟨by simp [length], fun u mem => ?_⟩
  rcases List.mem_cons.mp mem with rfl | mem
  · exact .inl alphanumeric
  · exact parts u mem

theorem isActorName_randomUUID (digits : Fin 32 → Fin 16) :
    isActorName (randomUUID digits) = true := by
  obtain ⟨first, rest, spelt, alphanumeric, length, parts⟩ := randomUUID_spelt digits
  apply isActorName_iff.mpr
  refine ⟨first, rest, spelt, alphanumeric, by omega, fun u mem => ?_⟩
  rcases parts u mem with letter | rfl
  · simp [isNamePart, letter]
  · decide

theorem length_generateToken (sextets : Fin 32 → Fin 64) : (generateToken sextets).length = 32 := by
  simp [generateToken]

theorem length_guestName (n : Fin 900) : (guestName n).length = 9 := by
  simp only [guestName, List.length_append]
  rfl

/-! ### Codes -/

def isLetter : Scalar → Bool
  | .unit u _ => isUpper u || isDigit u
  | .pair .. => false

theorem isRoomCode_createRoomCode (draws : Fin 6 → Fin 32) :
    isRoomCode (some (.str (createRoomCode draws).units)) = true := by
  have letters : ∀ c ∈ roomCodeText draws,
      ∃ u, c.units = [u] ∧ (isUpper u || isDigit u) = true := by
    have single (c : Scalar) (letter : isLetter c = true) :
        ∃ u, c.units = [u] ∧ (isUpper u || isDigit u) = true := by
      cases c with
      | unit u plain => exact ⟨u, rfl, letter⟩
      | pair => cases letter
    intro c mem
    obtain ⟨i, rfl⟩ := List.mem_ofFn.mp mem
    apply single
    exact pick_holds (by decide) (draws i).isLt
  have six : (roomCodeText draws).length = 6 := by simp [roomCodeText]
  have spelt : ∀ t : Text, (∀ c ∈ t, ∃ u, c.units = [u] ∧ (isUpper u || isDigit u) = true) →
      t.units.length = t.length ∧ t.units.all (fun u => isUpper u || isDigit u) = true := by
    intro t each
    induction t with
    | nil => exact ⟨rfl, rfl⟩
    | cons c rest ih =>
      obtain ⟨u, units, letter⟩ := each c List.mem_cons_self
      obtain ⟨length, all⟩ := ih fun c mem => each c (List.mem_cons_of_mem _ mem)
      rw [Text.units_cons, units]
      exact ⟨by simp [length], by simp [letter, all]⟩
  obtain ⟨length, all⟩ := spelt _ letters
  have units : (createRoomCode draws).units = (roomCodeText draws).units := rfl
  simp [isRoomCode, holds, asString, units, length, six, all]

/-! ### Trimmed names -/

theorem length_trim_le (s : JsString) : (trim s).length ≤ s.length := by
  have outer := (List.rdropWhile_prefix isWhiteSpace (s.dropWhile isWhiteSpace)).length_le
  have inner := (List.dropWhile_suffix isWhiteSpace (l := s)).length_le
  exact Nat.le_trans outer inner

/-! ### Texts through UTF-8 -/

theorem units_utf8_of_plain (plain : ∀ u ∈ s, ¬ u.IsSurrogate) :
    s.utf8.units = s := by
  apply JsString.WellFormed.units_utf8
  induction s with
  | nil => exact ⟨[], rfl⟩
  | cons u rest ih =>
    obtain ⟨text, units⟩ := ih fun v mem => plain v (List.mem_cons_of_mem _ mem)
    exact ⟨.unit u (plain u List.mem_cons_self) :: text, by simp [Scalar.units, units]⟩

theorem not_surrogate_of_name {u : CodeUnit} (part : isNamePart u = true) : ¬ u.IsSurrogate := by
  intro surrogate
  have high : 0xD800 ≤ u.toNat := UInt16.le_iff_toNat_le.mp surrogate.1
  have low : u.toNat < 0x80 := by
    simp only [isNamePart, isAlphanumeric, isDigit, isUpper, within, Bool.or_eq_true,
      Bool.and_eq_true, decide_eq_true_eq, List.mem_cons, List.not_mem_nil, or_false] at part
    rcases part with ((⟨-, h⟩ | ⟨-, h⟩) | ⟨-, h⟩) | rfl | rfl | rfl
    · exact Nat.lt_of_le_of_lt (UInt16.le_iff_toNat_le.mp h) (by decide)
    · exact Nat.lt_of_le_of_lt (UInt16.le_iff_toNat_le.mp h) (by decide)
    · exact Nat.lt_of_le_of_lt (UInt16.le_iff_toNat_le.mp h) (by decide)
    all_goals decide
  omega

theorem units_utf8_of_actor (actor : isActorName s = true) : s.utf8.units = s := by
  obtain ⟨first, rest, rfl, alphanumeric, -, parts⟩ := isActorName_iff.mp actor
  apply units_utf8_of_plain
  intro u mem
  apply not_surrogate_of_name
  rcases List.mem_cons.mp mem with rfl | mem
  · simp [isNamePart, alphanumeric]
  · exact parts u mem

/-! ## Sessions -/

abbrev IsToken (s : JsString) : Prop := isToken (some (.str s)) = true

theorem isToken_iff : IsToken s ↔ 16 ≤ s.length ∧ s.length ≤ 128 := by
  simp [IsToken, isToken, holds, asString]

theorem isToken_generateToken (sextets : Fin 32 → Fin 64) : IsToken (generateToken sextets) := by
  rw [isToken_iff, length_generateToken]
  omega

/-- What a room state takes of a session. -/
structure Shown (session : Session) : Prop where
  id : isActorName session.id = true
  memberId : ∀ memberId, session.memberId = some memberId → isActorName memberId = true
  named : session.displayName ≠ []
  short : session.displayName.length ≤ DISPLAY_NAME_MAX_LENGTH

theorem Shown.actorId (shown : Shown session) :
    isActorName session.actorId = true := by
  unfold Session.actorId
  cases member : session.memberId with
  | none => exact shown.id
  | some memberId => exact shown.memberId memberId member

structure ValidSession (session : Session) : Prop extends Shown session where
  room : ∀ code, session.roomCode = some code → isRoomCode (some (.str code)) = true

structure ValidSnapshot (snapshot : JoinedSessionSnapshot) : Prop where
  room : isRoomCode (some (.str snapshot.roomCode)) = true
  member : isActorName snapshot.memberId = true

structure ValidIdentity (joinIdentity : JoinIdentity) : Prop where
  member : isActorName joinIdentity.memberId = true
  token : IsToken joinIdentity.memberToken

theorem valid_acceptConnection (digits : Fin 32 → Fin 16) (guest : Fin 900) :
    ValidSession (acceptConnection digits guest) where
  id := isActorName_randomUUID digits
  memberId _ h := by cases h
  named := by
    have length := length_guestName guest
    intro blank
    rw [show guestName guest = [] from blank] at length
    cases length
  short := by
    change (guestName guest).length ≤ 32
    rw [length_guestName]
    omega
  room _ h := by cases h

section
variable (valid : ValidSession session)
include valid

theorem valid_setSessionDisplayName {displayName : Option JsString}
    (bounded : ∀ name, displayName = some name → name.length ≤ DISPLAY_NAME_MAX_LENGTH) :
    ValidSession (setSessionDisplayName session displayName) := by
  unfold setSessionDisplayName
  split
  · exact valid
  · exact valid
  · next next_name blank trimmed =>
    obtain ⟨name, named, rfl⟩ := Option.map_eq_some_iff.mp trimmed
    have short := Nat.le_trans (length_trim_le name) (bounded name named)
    exact { id := valid.id, memberId := valid.memberId, named := blank, short, room := valid.room }

theorem valid_clearSessionRoom :
    ValidSession (clearSessionRoom session) where
  id := valid.id
  memberId _ h := by cases h
  named := valid.named
  short := valid.short
  room _ h := by cases h

theorem valid_snapshotJoinedSession {snapshot : JoinedSessionSnapshot}
    (taken : snapshotJoinedSession session = some snapshot) :
    ValidSnapshot snapshot := by
  simp only [snapshotJoinedSession, Option.bind_eq_bind, Option.bind_eq_some_iff,
    Option.filter_eq_some_iff] at taken
  obtain ⟨roomCode, ⟨room, -⟩, memberId, ⟨member, -⟩, memberToken, -, made⟩ := taken
  cases Option.some.inj made
  exact { room := valid.room roomCode room, member := valid.memberId memberId member }

theorem valid_restoreJoinedSession {snapshot : JoinedSessionSnapshot}
    (taken : ValidSnapshot snapshot) :
    ValidSession (restoreJoinedSession session snapshot) where
  id := valid.id
  memberId _ h := by
    cases Option.some.inj h
    exact taken.member
  named := valid.named
  short := valid.short
  room _ h := by
    cases Option.some.inj h
    exact taken.room

theorem valid_applyJoinedSessionState {roomCode : JsString}
    (coded : isRoomCode (some (.str roomCode)) = true) (joinedAt : Rat)
    {joinIdentity : JoinIdentity} (identity : ValidIdentity joinIdentity) :
    ValidSession (applyJoinedSessionState session roomCode joinedAt joinIdentity) where
  id := valid.id
  memberId _ h := by
    cases Option.some.inj h
    exact identity.member
  named := valid.named
  short := valid.short
  room _ h := by
    cases Option.some.inj h
    exact coded

theorem valid_buildJoinIdentity {reconnectMemberId previousMemberToken : Option JsString}
    {fresh : JsString}
    (member : ∀ memberId, reconnectMemberId = some memberId → isActorName memberId = true)
    (previous : ∀ token, previousMemberToken = some token → IsToken token) (token : IsToken fresh) :
    ValidIdentity (buildJoinIdentity session reconnectMemberId previousMemberToken fresh) where
  member := by
    cases reconnectMemberId with
    | none => exact valid.id
    | some memberId => exact member memberId rfl
  token := by
    unfold buildJoinIdentity
    dsimp only
    split
    · next given => exact previous _ (Option.filter_eq_some_iff.mp given).1
    · exact token

/-- A record shows a session the way the session was. -/
theorem shown_deserializeSession {read : Session} {roomCodeOverride : Option JsString}
    (answered : deserializeSession (sessionHashRecord session roomCodeOverride) = some read) :
    Shown read := by
  unfold deserializeSession at answered
  split at answered
  · cases answered
  · cases Option.some.inj answered
    have name := length_utf8 session.displayName
    have filled : (sessionHashRecord session roomCodeOverride).displayName ≠ [] := by
      intro blank
      change session.displayName.utf8 = [] at blank
      rw [blank] at name
      exact valid.named (List.length_eq_zero_iff.mp name.symm)
    refine { id := ?_, memberId := ?_, named := ?_, short := ?_ }
    · change isActorName session.id.utf8.units = true
      rw [units_utf8_of_actor valid.id]
      exact valid.id
    · intro memberId member
      change normalizeNullable (encodeNullable session.memberId) = some memberId at member
      unfold normalizeNullable at member
      split at member
      · cases member
      · next present =>
        cases held : session.memberId with
        | none => simp [encodeNullable, held, JsString.utf8, quote] at present
        | some known =>
          have actor := valid.memberId known held
          rw [encodeNullable, held, Option.getD_some, units_utf8_of_actor actor] at member
          cases Option.some.inj member
          exact actor
    · rw [if_neg filled]
      intro blank
      change session.displayName.utf8.units = [] at blank
      rw [blank] at name
      exact valid.named (List.length_eq_zero_iff.mp name.symm)
    · rw [if_neg filled]
      change session.displayName.utf8.units.length ≤ DISPLAY_NAME_MAX_LENGTH
      rw [name]
      exact valid.short

end

end BiliSyncPlay.Protocol
