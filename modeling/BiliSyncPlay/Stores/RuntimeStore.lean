import BiliSyncPlay.Stores.RoomStore

/-!
# The runtime store

The volatile half of a room: who holds which seat, which tokens reclaim one, which generation
the runtime state belongs to. `seats` is the member map of a code, empty when no entry exists.
-/

namespace BiliSyncPlay

/-- `identity` tells an entry from a later one under the same code: a caller that kept a
reference to a dropped entry does not see its successor. -/
structure ActiveRoom where
  code : Code
  identity : Nat
  members : JsMap MemberId SessionId
  memberTokens : JsMap MemberId Token
  deriving DecidableEq

structure KickedMemberBlock where
  memberToken : Token
  expiresAt : Time
  deriving DecidableEq

inductive SlotKey where
  | share (actorId : MemberId) (url : String) (seq : Nat)
  | playback (actorId : MemberId) (sessionId : SessionId) (seq : Nat)
  deriving DecidableEq

inductive RoomLockKey where
  | joinAdmission
  deriving DecidableEq

structure Held where
  token : Token
  expiresAt : Time
  deriving DecidableEq

structure Removal where
  room : Option ActiveRoom
  roomEmpty : Bool
  removed : Bool
  deriving DecidableEq

abbrev ActiveRooms := JsMap Code ActiveRoom

structure RuntimeStore where
  rooms : ActiveRooms := .empty
  nextIdentity : Nat := 0
  /-- What entries dropped with their members still show to a caller holding a reference. -/
  detached : JsMap Nat (JsMap MemberId SessionId) := .empty
  memberTokenExpiry : JsMap Code (JsMap MemberId Time) := .empty
  blockedMemberTokens : JsMap Code (List KickedMemberBlock) := .empty
  claimedSlots : JsMap Code (JsMap SlotKey Held) := .empty
  ownedRoomLocks : JsMap Code (JsMap RoomLockKey Held) := .empty
  roomGenerations : JsMap Code Generation := .empty
  /-- `sessionsById`: the registered ids. -/
  registered : List SessionId := []
  roomSessionIds : JsMap Code (List SessionId) := .empty
  deriving DecidableEq

def ActiveRooms.members (rooms : ActiveRooms) (code : Code) : JsMap MemberId SessionId :=
  match rooms.get? code with
  | some room => room.members
  | none => .empty

def addMemberToRoom (rooms : ActiveRooms) (identity : Nat) (code : Code) (memberId : MemberId)
    (session : SessionId) (memberToken : Token) : ActiveRooms :=
  let room := (rooms.get? code).getD ⟨code, identity, .empty, .empty⟩
  rooms.set code { room with
    members := room.members.set memberId session
    memberTokens := room.memberTokens.set memberId memberToken }

def findMemberIdByTokenEntries (entries : List (MemberId × Token)) (memberToken : Token) :
    Option MemberId :=
  (entries.find? fun e => e.2 = memberToken).map Prod.fst

def filterActiveBlockedMemberTokens (entries : List KickedMemberBlock) (currentTime : Time) :
    List KickedMemberBlock :=
  entries.filter fun entry => entry.expiresAt > currentTime

/-- Whether another session than this one holds the seat. -/
def heldByAnother (room : ActiveRoom) (memberId : MemberId) (session : Option SessionId) : Bool :=
  match session, room.members.get? memberId with
  | some s, some current => current ≠ s
  | _, _ => false

/-- Presence only: the member's token is left behind. -/
def removeMemberFromRoom (rooms : ActiveRooms) (code : Code) (memberId : MemberId)
    (session : Option SessionId) : Removal × ActiveRooms :=
  match rooms.get? code with
  | none => (⟨none, true, false⟩, rooms)
  | some room =>
    if heldByAnother room memberId session then (⟨some room, false, false⟩, rooms)
    else
      let next := { room with members := room.members.delete memberId }
      let roomEmpty := next.members.size = 0
      (⟨if roomEmpty then none else some next, roomEmpty, room.members.has memberId⟩,
        if roomEmpty ∧ next.memberTokens.size = 0 then rooms.delete code else rooms.set code next)

def revokeMemberTokenInRoom (rooms : ActiveRooms) (code : Code) (memberId : MemberId)
    (session : Option SessionId) : Bool × ActiveRooms :=
  match rooms.get? code with
  | none => (false, rooms)
  | some room =>
    if heldByAnother room memberId session then (false, rooms)
    else
      let next := { room with memberTokens := room.memberTokens.delete memberId }
      (room.memberTokens.has memberId,
        if next.members.size = 0 ∧ next.memberTokens.size = 0 then rooms.delete code
        else rooms.set code next)

/-- Claims a key unless an unexpired holder has it; lapsed holders are dropped on the way. -/
def claimHeld {κ : Type} [DecidableEq κ] (held : JsMap κ Held) (key : κ) (token : Token)
    (expiresAt now : Time) : Bool × JsMap κ Held :=
  let live := held.entries.foldl (fun m e => if e.2.expiresAt ≤ now then m.delete e.1 else m) held
  if live.has key then (false, live) else (true, live.set key ⟨token, expiresAt⟩)

namespace RuntimeStore

def seats (store : RuntimeStore) (code : Code) : JsMap MemberId SessionId :=
  store.rooms.members code

def pruneExpiredMemberTokens (store : RuntimeStore) (code : Code) (now : Time) : RuntimeStore :=
  match store.memberTokenExpiry.get? code with
  | none => store
  | some expiryByMember =>
    let lapsed := expiryByMember.entries.filter fun e => e.2 ≤ now
    let left := lapsed.foldl (fun m e => m.delete e.1) expiryByMember
    { store with
      rooms := lapsed.foldl (fun r e => (revokeMemberTokenInRoom r code e.1 none).2) store.rooms
      memberTokenExpiry := if left.size = 0 then store.memberTokenExpiry.delete code
        else store.memberTokenExpiry.set code left }

/-- What a reference to an entry shows now, the entry possibly dropped or replaced since. -/
def membersOf (store : RuntimeStore) (room : ActiveRoom) : JsMap MemberId SessionId :=
  match store.rooms.get? room.code with
  | some current =>
    if current.identity = room.identity then current.members
    else (store.detached.get? room.identity).getD .empty
  | none => (store.detached.get? room.identity).getD .empty

def getRoom (store : RuntimeStore) (code : Code) (now : Time) : Option ActiveRoom × RuntimeStore :=
  let store := store.pruneExpiredMemberTokens code now
  (store.rooms.get? code, store)

def dropTokenExpiry (store : RuntimeStore) (code : Code) (memberId : MemberId) : RuntimeStore :=
  match store.memberTokenExpiry.get? code with
  | none => store
  | some expiryByMember =>
    { store with
      memberTokenExpiry := store.memberTokenExpiry.set code (expiryByMember.delete memberId) }

def addMember (store : RuntimeStore) (code : Code) (memberId : MemberId) (session : SessionId)
    (memberToken : Token) (now : Time) : RuntimeStore :=
  let store := (store.pruneExpiredMemberTokens code now).dropTokenExpiry code memberId
  { store with
    rooms := addMemberToRoom store.rooms store.nextIdentity code memberId session memberToken
    nextIdentity := store.nextIdentity + 1 }

def findMemberIdByToken (store : RuntimeStore) (code : Code) (memberToken : Token) (now : Time) :
    Option MemberId × RuntimeStore :=
  let store := store.pruneExpiredMemberTokens code now
  ((store.rooms.get? code).bind fun room =>
    findMemberIdByTokenEntries room.memberTokens.entries memberToken, store)

def isMemberTokenBlocked (store : RuntimeStore) (code : Code) (memberToken : Token)
    (currentTime : Time) : Bool × RuntimeStore :=
  let active := filterActiveBlockedMemberTokens
    ((store.blockedMemberTokens.get? code).getD []) currentTime
  (active.any fun entry => entry.memberToken = memberToken,
    { store with
      blockedMemberTokens := if active.isEmpty then store.blockedMemberTokens.delete code
        else store.blockedMemberTokens.set code active })

def tryClaimMessageSlot (store : RuntimeStore) (code : Code) (key : SlotKey) (token : Token)
    (expiresAt now : Time) : Bool × RuntimeStore :=
  let (granted, slots) := claimHeld ((store.claimedSlots.get? code).getD .empty) key token
    expiresAt now
  (granted, { store with claimedSlots := store.claimedSlots.set code slots })

def releaseMessageSlot (store : RuntimeStore) (code : Code) (key : SlotKey) (token : Token) :
    Bool × RuntimeStore :=
  match store.claimedSlots.get? code with
  | none => (false, store)
  | some slots =>
    if (slots.get? key).map Held.token = some token then
      (true, { store with claimedSlots := store.claimedSlots.set code (slots.delete key) })
    else (false, store)

def acquireRoomLock (store : RuntimeStore) (code : Code) (key : RoomLockKey) (token : Token)
    (expiresAt now : Time) : Bool × RuntimeStore :=
  let (granted, locks) := claimHeld ((store.ownedRoomLocks.get? code).getD .empty) key token
    expiresAt now
  (granted, { store with ownedRoomLocks := store.ownedRoomLocks.set code locks })

def releaseRoomLock (store : RuntimeStore) (code : Code) (key : RoomLockKey) (token : Token) :
    Bool × RuntimeStore :=
  match store.ownedRoomLocks.get? code with
  | none => (false, store)
  | some locks =>
    if (locks.get? key).map Held.token = some token then
      let left := locks.delete key
      (true, { store with
        ownedRoomLocks := if left.size = 0 then store.ownedRoomLocks.delete code
          else store.ownedRoomLocks.set code left })
    else (false, store)

/-- Removing a seat starts the clock of the identity that held it. -/
def removeMember (store : RuntimeStore) (code : Code) (memberId : MemberId)
    (session : Option SessionId) (memberTokenRetentionMs now : Time) : Removal × RuntimeStore :=
  let store := store.pruneExpiredMemberTokens code now
  let (removal, rooms) := removeMemberFromRoom store.rooms code memberId session
  let kept := removal.removed &&
    ((rooms.get? code).map fun room => room.memberTokens.has memberId).getD false
  (removal, { store with
    rooms
    memberTokenExpiry := if kept then
        store.memberTokenExpiry.set code
          (((store.memberTokenExpiry.get? code).getD .empty).set memberId
            (now + memberTokenRetentionMs))
      else store.memberTokenExpiry })

def revokeMemberToken (store : RuntimeStore) (code : Code) (memberId : MemberId)
    (session : Option SessionId) : RuntimeStore :=
  let (revoked, rooms) := revokeMemberTokenInRoom store.rooms code memberId session
  if revoked then
    match store.memberTokenExpiry.get? code with
    | none => { store with rooms }
    | some expiryByMember =>
      let left := expiryByMember.delete memberId
      { store with
        rooms
        memberTokenExpiry := if left.size = 0 then store.memberTokenExpiry.delete code
          else store.memberTokenExpiry.set code left }
  else { store with rooms }

def registerSession (store : RuntimeStore) (s : SessionId) : RuntimeStore :=
  { store with registered := store.registered.insert s }

/-- Drops the id from every room's index, and a room whose index empties. -/
def detachSessionFromRoomIndexes (store : RuntimeStore) (s : SessionId) : RuntimeStore :=
  { store with
    roomSessionIds := store.roomSessionIds.keys.foldl (fun index code =>
      match index.get? code with
      | some ids => if (ids.erase s).isEmpty then index.delete code else index.set code (ids.erase s)
      | none => index) store.roomSessionIds }

def unregisterSession (store : RuntimeStore) (s : SessionId) : RuntimeStore :=
  let store := store.detachSessionFromRoomIndexes s
  { store with registered := store.registered.erase s }

/-- An unregistered session is not indexed. -/
def markSessionJoinedRoom (store : RuntimeStore) (s : SessionId) (code : Code) : RuntimeStore :=
  if s ∈ store.registered then
    let store := store.detachSessionFromRoomIndexes s
    { store with
      roomSessionIds := store.roomSessionIds.set code
        (((store.roomSessionIds.get? code).getD []).insert s) }
  else store

def markSessionLeftRoom (store : RuntimeStore) (s : SessionId) (code : Code) : RuntimeStore :=
  match store.roomSessionIds.get? code with
  | none => store
  | some ids =>
    let left := ids.erase s
    { store with
      roomSessionIds := if left.isEmpty then store.roomSessionIds.delete code
        else store.roomSessionIds.set code left }

def hasRoomResidue (store : RuntimeStore) (code : Code) (now : Time) : Bool × RuntimeStore :=
  let store := store.pruneExpiredMemberTokens code now
  (store.rooms.has code || store.roomSessionIds.has code || store.blockedMemberTokens.has code ||
    store.memberTokenExpiry.has code || store.claimedSlots.has code, store)

def getRoomGeneration (store : RuntimeStore) (code : Code) : Option Generation :=
  store.roomGenerations.get? code

def markRoomGeneration (store : RuntimeStore) (code : Code) (generation : Generation)
    (expectedPrevious : Option Generation) : Bool × RuntimeStore :=
  if store.getRoomGeneration code ≠ expectedPrevious then (false, store)
  else (true, { store with roomGenerations := store.roomGenerations.set code generation })

def deleteRoom (store : RuntimeStore) (code : Code) (expectedGeneration : Option Generation) :
    Bool × RuntimeStore :=
  if store.getRoomGeneration code ≠ expectedGeneration then (false, store)
  else (true, { store with
    roomGenerations := store.roomGenerations.delete code
    rooms := store.rooms.delete code
    detached := match store.rooms.get? code with
      | some room => store.detached.set room.identity room.members
      | none => store.detached
    memberTokenExpiry := store.memberTokenExpiry.delete code
    roomSessionIds := store.roomSessionIds.delete code
    blockedMemberTokens := store.blockedMemberTokens.delete code
    claimedSlots := store.claimedSlots.delete code
    ownedRoomLocks := store.ownedRoomLocks.delete code })

end RuntimeStore

theorem members_set (rooms : ActiveRooms) (code c : Code) (room : ActiveRoom) :
    (ActiveRooms.members (rooms.set code room) c) =
      if code = c then room.members else rooms.members c := by
  unfold ActiveRooms.members
  by_cases h : code = c <;> simp [h]

theorem members_delete (rooms : ActiveRooms) (code c : Code) :
    (ActiveRooms.members (rooms.delete code) c) =
      if code = c then .empty else rooms.members c := by
  unfold ActiveRooms.members
  by_cases h : code = c <;> simp [h]

theorem members_of_get? {rooms : ActiveRooms} {code : Code} {room : ActiveRoom}
    (h : rooms.get? code = some room) : rooms.members code = room.members := by
  simp only [ActiveRooms.members, h]

theorem members_of_absent {rooms : ActiveRooms} {code : Code} (h : rooms.get? code = none) :
    rooms.members code = .empty := by
  simp only [ActiveRooms.members, h]

theorem members_addMemberToRoom (rooms : ActiveRooms) (identity : Nat) (code c : Code)
    (m : MemberId) (s : SessionId) (tok : Token) :
    (addMemberToRoom rooms identity code m s tok).members c =
      if code = c then (rooms.members code).set m s else rooms.members c := by
  unfold addMemberToRoom
  rw [members_set]
  cases h : rooms.get? code with
  | none => simp [members_of_absent h]
  | some room => simp [members_of_get? h]

theorem heldByAnother_some {room : ActiveRoom} {m : MemberId} {s : SessionId} :
    heldByAnother room m (some s) = true ↔ ∃ t, room.members.get? m = some t ∧ t ≠ s := by
  unfold heldByAnother
  cases room.members.get? m <;> simp

theorem members_removeMemberFromRoom (rooms : ActiveRooms) (code c : Code) (m : MemberId)
    (s : SessionId) :
    (removeMemberFromRoom rooms code m (some s)).2.members c =
      if code = c ∧ (rooms.members code).get? m = some s then (rooms.members code).delete m
      else rooms.members c := by
  unfold removeMemberFromRoom
  cases h : rooms.get? code with
  | none => simp [members_of_absent h]
  | some room =>
    simp only
    by_cases other : heldByAnother room m (some s) = true
    · obtain ⟨t, ht, hne⟩ := heldByAnother_some.mp other
      simp [other, members_of_get? h, ht, hne]
    · have own : room.members.get? m = some s ∨ room.members.get? m = none := by
        rw [heldByAnother_some] at other
        cases hm : room.members.get? m with
        | none => exact .inr rfl
        | some t => exact .inl (congrArg some (not_not.mp fun hne => other ⟨t, hm, hne⟩))
      have next : (if code = c then room.members.delete m else rooms.members c) =
          if code = c ∧ (rooms.members code).get? m = some s then
            (rooms.members code).delete m else rooms.members c := by
        rw [members_of_get? h]
        by_cases hc : code = c
        · subst hc
          rcases own with hs | hn
          · simp [hs]
          · simp [hn, JsMap.delete_of_get?_none hn, members_of_get? h]
        · simp [hc]
      rw [← next]
      simp only [other, Bool.false_eq_true, ↓reduceIte]
      split
      · rename_i dropped
        rw [members_delete, JsMap.eq_empty_of_size dropped.1]
      · rw [members_set]

/-- Without a session, whoever holds the seat loses it. -/
theorem members_removeMemberFromRoom_none (rooms : ActiveRooms) (code c : Code) (m : MemberId) :
    (removeMemberFromRoom rooms code m none).2.members c =
      if code = c then (rooms.members code).delete m else rooms.members c := by
  unfold removeMemberFromRoom
  cases h : rooms.get? code with
  | none =>
    have empty : (JsMap.empty : JsMap MemberId SessionId).delete m = .empty :=
      JsMap.delete_of_get?_none (JsMap.get?_empty m)
    by_cases same : code = c
    · subst same
      simp [members_of_absent h, empty]
    · simp [same]
  | some room =>
    have unheld : heldByAnother room m none = false := rfl
    rw [members_of_get? h]
    simp only [unheld, Bool.false_eq_true, ↓reduceIte]
    split
    · rename_i dropped
      rw [members_delete, JsMap.eq_empty_of_size dropped.1]
    · rw [members_set]

theorem members_revokeMemberTokenInRoom (rooms : ActiveRooms) (code c : Code) (m : MemberId)
    (s : Option SessionId) :
    (revokeMemberTokenInRoom rooms code m s).2.members c = rooms.members c := by
  unfold revokeMemberTokenInRoom
  cases h : rooms.get? code with
  | none => rfl
  | some room =>
    simp only
    split
    · rfl
    · have same : (if code = c then room.members else rooms.members c) = rooms.members c := by
        split
        · rename_i hc; subst hc; exact (members_of_get? h).symm
        · rfl
      simp only
      split
      · rename_i dropped
        rw [members_delete, ← JsMap.eq_empty_of_size dropped.1, same]
      · rw [members_set, same]

theorem members_foldl_revoke (rooms : ActiveRooms) (code c : Code) (lapsed : List (MemberId × Time)) :
    (lapsed.foldl (fun r e => (revokeMemberTokenInRoom r code e.1 none).2) rooms).members c =
      rooms.members c := by
  induction lapsed generalizing rooms with
  | nil => rfl
  | cons e rest ih => rw [List.foldl_cons, ih, members_revokeMemberTokenInRoom]

namespace RuntimeStore

variable (store : RuntimeStore) (code c : Code) (m : MemberId) (s : SessionId) (now : Time)

@[simp] theorem seats_prune : (store.pruneExpiredMemberTokens code now).seats c = store.seats c := by
  unfold pruneExpiredMemberTokens
  split
  · rfl
  · exact members_foldl_revoke ..

@[simp] theorem seats_dropTokenExpiry : (store.dropTokenExpiry code m).seats c = store.seats c := by
  unfold dropTokenExpiry
  split <;> rfl

theorem seats_addMember (tok : Token) :
    (store.addMember code m s tok now).seats c =
      if code = c then (store.seats code).set m s else store.seats c := by
  have pruned := fun c => (seats_dropTokenExpiry (store.pruneExpiredMemberTokens code now)
    code c m).trans (seats_prune store code c now)
  rw [← pruned c, ← pruned code]
  exact members_addMemberToRoom ..

theorem seats_removeMember (retention : Time) :
    (store.removeMember code m (some s) retention now).2.seats c =
      if code = c ∧ (store.seats code).get? m = some s then (store.seats code).delete m
      else store.seats c := by
  rw [← seats_prune store code c now, ← seats_prune store code code now]
  exact members_removeMemberFromRoom ..

theorem seats_removeMember_none (retention : Time) :
    (store.removeMember code m none retention now).2.seats c =
      if code = c then (store.seats code).delete m else store.seats c := by
  rw [← seats_prune store code c now, ← seats_prune store code code now]
  exact members_removeMemberFromRoom_none ..

@[simp] theorem seats_revokeMemberToken (owner : Option SessionId) :
    (store.revokeMemberToken code m owner).seats c = store.seats c := by
  unfold revokeMemberToken
  simp only
  split
  · split <;> exact members_revokeMemberTokenInRoom ..
  · exact members_revokeMemberTokenInRoom ..

end RuntimeStore

end BiliSyncPlay
