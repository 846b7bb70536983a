import BiliSyncPlay.Redis.Discipline

/-!
# What a write leaves alone

Most writes touch neither the generation of a room nor the session any of its members is bound
to, but for dropping a binding. The others are few.
-/

namespace BiliSyncPlay.RedisRuntime

variable {owner : SessionId → InstanceId}

/-- The same instance of a room, with no binding that it did not have. -/
structure RoomKeys.Within (room room' : RoomKeys) : Prop where
  generation : room'.generation = room.generation
  members : ∀ m s, room'.members.get? m = some s → room.members.get? m = some s

namespace RoomKeys

variable {room room' room'' : RoomKeys} {memberId : MemberId}

theorem Within.refl (room : RoomKeys) : room.Within room := ⟨rfl, fun _ _ h => h⟩

theorem Within.trans (h : room.Within room') (h' : room'.Within room'') : room.Within room'' :=
  ⟨h'.generation.trans h.generation, fun m s got => h.members m s (h'.members m s got)⟩

theorem within_of_delete (generation : room'.generation = room.generation)
    (members : room'.members = room.members.delete memberId) : room.Within room' := by
  refine ⟨generation, fun m s got => ?_⟩
  rw [members, JsMap.get?_delete] at got
  split at got
  · cases got
  · exact got

theorem within_unseat (room : RoomKeys) (memberId : MemberId) (expiresAt : Time) :
    room.Within (room.unseat memberId expiresAt) := within_of_delete rfl rfl

theorem within_removeMember (room : RoomKeys) (memberId : MemberId) (session : Option SessionId)
    (expiresAt : Time) : room.Within (room.removeMember memberId session expiresAt) := by
  unfold removeMember
  split
  · split
    · exact within_unseat room memberId expiresAt
    · exact .refl room
  · exact within_unseat room memberId expiresAt

theorem within_forgetIdentities (room : RoomKeys) (expired : List (MemberId × Time)) :
    room.Within (room.forgetIdentities expired) := by
  induction expired generalizing room with
  | nil => exact .refl room
  | cons e rest ih =>
    have first : room.Within { room with
        memberTokens := room.memberTokens.delete e.1
        memberTokenExpiry := room.memberTokenExpiry.delete e.1 } := ⟨rfl, fun _ _ h => h⟩
    exact first.trans (ih _)

end RoomKeys

namespace Keys

variable {keys : Keys} {f : RoomKeys → RoomKeys}

theorem within_onRoom (within : ∀ room : RoomKeys, room.Within (f room)) (c code : Code) :
    (keys.room code).Within ((keys.onRoom c f).room code) := by
  rw [onRoom_room]
  split
  · exact within _
  · exact .refl _

theorem within_onRoom? (within : ∀ room : RoomKeys, room.Within (f room)) (c : Option Code)
    (code : Code) : (keys.room code).Within ((keys.onRoom? c f).room code) := by
  cases c with
  | none => exact .refl _
  | some c => exact within_onRoom within c code

theorem within_dropSession (keys : Keys) (id : SessionId) (c : Option Code) (code : Code) :
    (keys.room code).Within ((keys.dropSession id c).room code) := by
  rw [dropSession, onRoom?_room]
  split
  · exact ⟨rfl, fun _ _ h => h⟩
  · exact .refl _

end Keys

/-- Writes that bind no member and neither stamp nor tear down a room. -/
def Write.Plain : Write → Prop
  | .addMember .. | .markRoomGeneration .. | .deleteRoom _ => False
  | _ => True

theorem within_perform {keys : Keys} {w : Write} (plain : w.Plain) (code : Code) :
    (keys.room code).Within ((keys.perform w).2.room code) := by
  have indexed : ∀ room : RoomKeys, ∀ sessions, room.Within { room with sessions } :=
    fun _ _ => ⟨rfl, fun _ _ h => h⟩
  cases w with
  | addMember | markRoomGeneration | deleteRoom => exact plain.elim
  | removeMember c m session expiresAt =>
    simp only [Keys.perform]
    exact Keys.within_onRoom (fun room => room.within_removeMember m session expiresAt) c code
  | registerSession => exact .refl _
  | joinRoomIndex pin id roomCodeToLeave record =>
    simp only [Keys.perform, Keys.joinRoomIndex]
    split
    · exact .refl _
    · have left : (keys.room code).Within ((keys.onRoom? roomCodeToLeave fun room =>
          { room with sessions := room.sessions.erase id }).room code) :=
        Keys.within_onRoom? (fun _ => indexed _ _) _ _
      exact left.trans (Keys.within_onRoom (fun _ => indexed _ _) _ _)
  | leaveRoomIndex id c record =>
    simp only [Keys.perform, Keys.leaveRoomIndex]
    exact Keys.within_onRoom (fun _ => indexed _ _) c code
  | unregisterSession id c =>
    exact keys.within_dropSession id c code
  | purgeSession i id c seat =>
    simp only [Keys.perform]
    refine (keys.within_dropSession id c code).trans ?_
    refine Keys.within_onRoom? (fun room => ?_) _ code
    cases seat with
    | none => exact .refl room
    | some seat => exact RoomKeys.within_of_delete rfl rfl
  | cleanupEmptyRoom c =>
    simp only [Keys.perform, Keys.cleanupEmptyRoom]
    split
    · exact .refl _
    · split <;> exact .refl _
  | hasRoomResidue c now redisNow =>
    simp only [Keys.perform]
    rw [Keys.onRoom_room]
    split
    · rename_i same
      subst same
      exact ⟨rfl, fun _ _ h => h⟩
    · exact .refl _
  | pruneMemberTokens c now =>
    simp only [Keys.perform]
    exact Keys.within_onRoom (fun room => room.within_forgetIdentities _) c code

theorem perform_markRoomGeneration (keys : Keys) (pin : Pin) (uuid : Nat) :
    keys.perform (.markRoomGeneration pin uuid) =
      if (keys.room pin.code).generation = pin.value then
        (true, keys.onRoom pin.code fun room => { room with generation := some (.uuid uuid) })
      else (false, keys) := by
  simp only [Keys.perform, Keys.markRoomGeneration, ne_eq, ite_not]

theorem perform_deleteRoom (keys : Keys) (pin : Pin) :
    keys.perform (.deleteRoom pin) =
      if (keys.room pin.code).generation = pin.value then
        (true, { keys.onRoom pin.code fun _ => { generation := some ROOM_GENERATION_TOMBSTONE } with
          rooms := keys.rooms.erase pin.code })
      else (false, keys) := by
  simp only [Keys.perform, Keys.deleteRoom, ne_eq, ite_not]

/-- Only `addMember` binds a member to a session. -/
theorem bound_perform {keys : Keys} {w : Write} {code : Code} {m : MemberId} {s : SessionId}
    (h : ((keys.perform w).2.room code).members.get? m = some s) :
    (keys.room code).members.get? m = some s ∨ ∃ token, w = .addMember code m s token := by
  by_cases plain : w.Plain
  · exact .inl ((within_perform plain code).members m s h)
  · cases w with
    | addMember c memberId session token =>
      simp only [Keys.perform, Keys.onRoom_room] at h
      split at h
      · rename_i here
        subst here
        rw [RoomKeys.addMember, JsMap.get?_set] at h
        split at h
        · rename_i own
          cases own
          cases h
          exact .inr ⟨token, rfl⟩
        · exact .inl h
      · exact .inl h
    | markRoomGeneration pin uuid =>
      rw [perform_markRoomGeneration] at h
      split at h
      · simp only [Keys.onRoom_room] at h
        split at h <;> exact .inl h
      · exact .inl h
    | deleteRoom pin =>
      rw [perform_deleteRoom] at h
      split at h
      · simp only [Keys.onRoom_room] at h
        split at h
        · cases h
        · exact .inl h
      · exact .inl h
    | _ => exact absurd trivial plain

/-- A record is written by a client that vouches for it, or dropped. -/
theorem truthful_perform {keys : Keys} {w : Write} (vouched : w.Vouched True owner)
    (h : ∀ id, (keys.hash id).Truthful owner id) (id : SessionId) :
    ((keys.perform w).2.hash id).Truthful owner id := by
  have register : ∀ {keys : Keys} {x : SessionId} {record : SessionHash},
      (∀ id, (keys.hash id).Truthful owner id) → record.Truthful owner x →
      ((keys.registerSession x record).hash id).Truthful owner id := by
    intro keys x record h own
    by_cases same : id = x
    · subst same
      simp only [Keys.registerSession, Keys.setHash, Function.update_self]
      exact truthful_hset (h id) own
    · simpa only [Keys.registerSession, Keys.setHash, Function.update_of_ne same] using h id
  have onRoom? : ∀ (keys : Keys) (c : Option Code) (f : RoomKeys → RoomKeys),
      (keys.onRoom? c f).hash = keys.hash := by
    intro keys c f
    cases c <;> rfl
  have drop : ∀ x c, ((keys.dropSession x c).hash id).Truthful owner id := by
    intro x c
    rw [Keys.dropSession, onRoom?]
    by_cases same : id = x
    · subst same
      simp only [Keys.setHash, Function.update_self]
      exact ⟨nofun, nofun⟩
    · simpa only [Keys.setHash, Function.update_of_ne same] using h id
  cases w with
  | registerSession x record => exact register h (vouched trivial)
  | leaveRoomIndex x c record => exact register h (vouched trivial)
  | joinRoomIndex pin x roomCodeToLeave record =>
    simp only [Keys.perform, Keys.joinRoomIndex]
    split
    · exact h id
    · refine register (fun id => ?_) (vouched.1 trivial)
      rw [onRoom?]
      exact h id
  | unregisterSession x c => exact drop x c
  | purgeSession i x c seat =>
    simp only [Keys.perform]
    rw [onRoom?]
    exact drop x c
  | cleanupEmptyRoom c =>
    simp only [Keys.perform, Keys.cleanupEmptyRoom]
    split
    · exact h id
    · split <;> exact h id
  | markRoomGeneration pin uuid =>
    rw [perform_markRoomGeneration]
    split <;> exact h id
  | deleteRoom pin =>
    rw [perform_deleteRoom]
    split <;> exact h id
  | _ => exact h id

/-! ## What a command did -/

inductive Did (w : World) : (c : Cmd) → c.Ans → Choice → World → List Write → Prop
  /-- It read, or was refused. -/
  | read {c : Cmd} {a : c.Ans} {ch : Choice} :
      (∀ code pin, (⟨c, a⟩ : (c : Cmd) × c.Ans) ≠ ⟨.getRoomGeneration code, some pin⟩) →
      (∀ uuid, (⟨c, a⟩ : (c : Cmd) × c.Ans) ≠ ⟨.randomUUID, uuid⟩) → Did w c a ch w []
  | pinned (code : Code) (ch : Choice) :
      Did w (.getRoomGeneration code) (some ⟨code, (w.keys.room code).generation, w.reads⟩) ch
        { w with
          reads := w.reads + 1
          history := .pinned ⟨code, (w.keys.room code).generation, w.reads⟩ :: w.history } []
  | minted (ch : Choice) : Did w .randomUUID w.uuids ch { w with uuids := w.uuids + 1 } []
  | landed (write : Write) :
      Did w (.write write) (some (w.perform write).1) .ok (w.perform write).2 []
  | late (write : Write) : Did w (.write write) none .late w [write]

theorem exec_did {w w' : World} {c : Cmd} {ch : Choice} {a : c.Ans} {late : List Write}
    (h : exec c ch w = some (a, w', late)) : Did w c a ch w' late := by
  cases c <;> cases ch <;> simp only [exec, reduceCtorEq] at h
  case smembersSessions.order =>
    split at h <;> cases h
    exact .read (by simp) (by simp)
  case write.ok write =>
    cases h
    exact .landed write
  case write.late write =>
    cases h
    exact .late write
  case getRoomGeneration.ok code =>
    cases h
    exact .pinned code _
  case randomUUID.ok =>
    cases h
    exact .minted _
  all_goals
    cases h
    exact .read (by simp) (by simp)

end BiliSyncPlay.RedisRuntime
