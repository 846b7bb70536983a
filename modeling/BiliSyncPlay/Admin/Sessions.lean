import BiliSyncPlay.JsMap
import Mathlib.Logic.Relation

/-!
# Admin sessions

The two session stores, and the calls of the auth service that present one token. A call of a store
is one step, and so is each stretch of a service call between two of them.
-/

namespace BiliSyncPlay.AdminSessions

inductive AdminRole where
  | viewer | operator | admin
  deriving DecidableEq

structure AdminSession where
  id : String
  adminId : String
  username : String
  role : AdminRole
  createdAt : Int
  expiresAt : Int
  lastSeenAt : Int
  deriving DecidableEq

/-- A hash of the secret and the token. -/
abbrev TokenId := String

/-! ## Stores -/

/-- A session store, and what it holds of a token id as far as `get` may ever say. -/
structure SessionStore (σ : Type) where
  save : Int → TokenId → AdminSession → σ → σ
  get : Int → TokenId → σ → Option AdminSession × σ
  delete : TokenId → σ → σ
  holds : σ → TokenId → Option AdminSession
  holds_save : ∀ now tokenId session s, holds (save now tokenId session s) tokenId = some session ∨
    holds (save now tokenId session s) tokenId = none
  holds_delete : ∀ tokenId s, holds (delete tokenId s) tokenId = none
  holds_of_get : ∀ now tokenId s session, (get now tokenId s).1 = some session →
    holds s tokenId = some session
  holds_get : ∀ now tokenId s, holds (get now tokenId s).2 tokenId = holds s tokenId ∨
    holds (get now tokenId s).2 tokenId = none

def inMemory : SessionStore (JsMap TokenId AdminSession) where
  save _ tokenId session s := s.set tokenId session
  get _ tokenId s := (s.get? tokenId, s)
  delete tokenId s := s.delete tokenId
  holds s tokenId := s.get? tokenId
  holds_save _ tokenId session s := .inl (s.get?_set_self tokenId session)
  holds_delete tokenId s := s.get?_delete_self tokenId
  holds_of_get _ _ _ _ found := found
  holds_get _ _ _ := .inl rfl

namespace Redis

/-- A hash with the time its key expires at. -/
structure Entry where
  session : AdminSession
  deadline : Int
  deriving DecidableEq

abbrev Keys := JsMap TokenId Entry

def save (now : Int) (tokenId : TokenId) (session : AdminSession) (keys : Keys) : Keys :=
  let ttlMs := session.expiresAt - now
  if ttlMs ≤ 0 then keys.delete tokenId else keys.set tokenId ⟨session, now + ttlMs⟩

/-- The hash, unless its key has expired or one of its texts is empty. -/
def hgetall (now : Int) (tokenId : TokenId) (keys : Keys) : Option AdminSession :=
  (keys.get? tokenId).bind fun entry =>
    if entry.deadline ≤ now then none
    else if entry.session.id = "" ∨ entry.session.adminId = "" ∨ entry.session.username = "" then
      none
    else some entry.session

def get (now : Int) (tokenId : TokenId) (keys : Keys) : Option AdminSession × Keys :=
  match hgetall now tokenId keys with
  | none => (none, keys)
  | some session =>
    if session.expiresAt ≤ now then (none, keys.delete tokenId) else (some session, keys)

def holds (keys : Keys) (tokenId : TokenId) : Option AdminSession :=
  (keys.get? tokenId).map Entry.session

theorem holds_of_hgetall {now : Int} {tokenId : TokenId} {keys : Keys} {session : AdminSession}
    (found : hgetall now tokenId keys = some session) : holds keys tokenId = some session := by
  obtain ⟨entry, at_key, read⟩ := Option.bind_eq_some_iff.mp found
  unfold holds
  rw [at_key]
  split at read
  · cases read
  · split at read
    · cases read
    · exact read

theorem holds_save (now : Int) (tokenId : TokenId) (session : AdminSession) (keys : Keys) :
    holds (save now tokenId session keys) tokenId = some session ∨
      holds (save now tokenId session keys) tokenId = none := by
  unfold holds save
  dsimp only
  split
  · right
    rw [JsMap.get?_delete_self]
    rfl
  · left
    rw [JsMap.get?_set_self]
    rfl

theorem holds_get (now : Int) (tokenId : TokenId) (keys : Keys) :
    holds (get now tokenId keys).2 tokenId = holds keys tokenId ∨
      holds (get now tokenId keys).2 tokenId = none := by
  unfold get
  split
  · exact .inl rfl
  · split
    · right
      unfold holds
      rw [JsMap.get?_delete_self]
      rfl
    · exact .inl rfl

def store : SessionStore Keys where
  save := save
  get := get
  delete tokenId keys := keys.delete tokenId
  holds := holds
  holds_save := holds_save
  holds_delete tokenId keys := by
    unfold holds
    rw [JsMap.get?_delete_self]
    rfl
  holds_of_get now tokenId keys session found := by
    unfold get at found
    split at found
    · cases found
    · next read =>
      split at found
      · cases found
      · cases found
        exact holds_of_hgetall read
  holds_get := holds_get

end Redis

/-! ## Calls of the service -/

inductive Request where
  | authenticate | logout
  deriving DecidableEq

/-- How far a call has come. `logouts`: the deletes of logouts there were when it read its session.
-/
inductive Progress where
  | getting
  | got (session : AdminSession) (logouts : Nat)
  | saving (nextSession : AdminSession) (logouts : Nat)
  | deleting
  | returned (session : Option AdminSession)
  | loggingOut
  | loggedOut
  deriving DecidableEq

structure Call where
  progress : Progress
  /-- A logout had completed when it started. -/
  afterLogout : Bool
  /-- What it read off the clock. -/
  currentTime : Option Int := none
  deriving DecidableEq

structure Service (σ : Type) where
  sessions : σ
  clock : Int
  calls : List Call := []
  /-- The deletes of logouts that took effect. -/
  logouts : Nat := 0

inductive Event where
  | ticks (now : Int)
  | starts (request : Request)
  | proceeds (call : Nat)

section
variable {σ : Type} (store : SessionStore σ) (tokenId : TokenId)

/-- The session `login` saves. -/
def newSession (id username : String) (role : AdminRole) (currentTime sessionTtlMs : Int) :
    AdminSession where
  id := id
  adminId := "admin-1"
  username := username
  role := role
  createdAt := currentTime
  expiresAt := currentTime + sessionTtlMs
  lastSeenAt := currentTime

/-- Once `login` has saved its session. -/
def loggedIn (session : AdminSession) (clock : Int) (sessions : σ) : Service σ :=
  { sessions := store.save clock tokenId session sessions, clock }

namespace Service

def starts (s : Service σ) (request : Request) : Service σ :=
  let progress := match request with
    | .authenticate => Progress.getting
    | .logout => Progress.loggingOut
  { s with calls := s.calls ++
      [{ progress, afterLogout := s.calls.any fun c => decide (c.progress = .loggedOut) }] }

/-- What `authenticate` does with the session it got. -/
def decides (currentTime : Int) (session : AdminSession) (logouts : Nat) : Progress :=
  if session.expiresAt ≤ currentTime then .deleting
  else .saving { session with lastSeenAt := currentTime } logouts

def proceeds (s : Service σ) (id : Nat) (call : Call) : Option (Service σ) :=
  let becomes (call : Call) := s.calls.set id call
  match call.progress with
  | .getting =>
    let (session, sessions) := store.get s.clock tokenId s.sessions
    let progress := match session with
      | none => Progress.returned none
      | some session => Progress.got session s.logouts
    some { s with sessions, calls := becomes { call with progress } }
  | .got session logouts =>
    some { s with calls := becomes { call with
      progress := decides s.clock session logouts
      currentTime := some s.clock } }
  | .saving nextSession _ =>
    some { s with
      sessions := store.save s.clock tokenId nextSession s.sessions
      calls := becomes { call with progress := .returned (some nextSession) } }
  | .deleting =>
    some { s with
      sessions := store.delete tokenId s.sessions
      calls := becomes { call with progress := .returned none } }
  | .loggingOut =>
    some { s with
      sessions := store.delete tokenId s.sessions
      calls := becomes { call with progress := .loggedOut }
      logouts := s.logouts + 1 }
  | .returned _ | .loggedOut => none

def exec (s : Service σ) : Event → Option (Service σ)
  | .ticks now => if s.clock ≤ now then some { s with clock := now } else none
  | .starts request => some (s.starts request)
  | .proceeds id => s.calls[id]?.bind (s.proceeds store tokenId id)

end Service

end

/-! ## Runs -/

section
variable {σ : Type} (store : SessionStore σ) (tokenId : TokenId)

/-- A call saves its session back only where no logout has deleted it since the call read it. -/
def Service.Meets (s : Service σ) (e : Event) : Prop :=
  ∀ id call session logouts, e = .proceeds id → s.calls[id]? = some call →
    call.progress = .saving session logouts → logouts = s.logouts

def StepWith (meets : Service σ → Event → Prop) (s t : Service σ) : Prop :=
  ∃ e, meets s e ∧ s.exec store tokenId e = some t

def RunWith (meets : Service σ → Event → Prop) : Service σ → Service σ → Prop :=
  Relation.ReflTransGen (StepWith store tokenId meets)

variable {store tokenId} {s t : Service σ}

/-! ## No session outlives its expiry -/

/-- A session somebody is about to return, or has returned. -/
def Call.Dated (expiresAt : Int) (c : Call) : Prop :=
  match c.progress with
  | .got session _ => session.expiresAt = expiresAt
  | .saving session _ | .returned (some session) => session.expiresAt = expiresAt ∧
    ∃ currentTime, c.currentTime = some currentTime ∧ currentTime < expiresAt
  | _ => True

variable (store tokenId) in
structure Dated (expiresAt : Int) (s : Service σ) : Prop where
  held : ∀ session, store.holds s.sessions tokenId = some session → session.expiresAt = expiresAt
  calls : ∀ c ∈ s.calls, c.Dated expiresAt

theorem Dated.proceeds {expiresAt : Int} (dated : Dated store tokenId expiresAt s) {id : Nat}
    {call : Call} (at_id : s.calls[id]? = some call)
    (h : s.proceeds store tokenId id call = some t) : Dated store tokenId expiresAt t := by
  have own := dated.calls call (List.mem_of_getElem? at_id)
  have others : ∀ c' : Call, c'.Dated expiresAt → ∀ c ∈ s.calls.set id c', c.Dated expiresAt := by
    intro c' dated' c mem
    rcases List.mem_or_eq_of_mem_set mem with mem | rfl
    · exact dated.calls c mem
    · exact dated'
  unfold Service.proceeds at h
  unfold Call.Dated at own
  dsimp only at h
  cases progress : call.progress with
  | getting =>
    rw [progress] at h
    have kept : ∀ session, store.holds (store.get s.clock tokenId s.sessions).2 tokenId =
        some session → session.expiresAt = expiresAt := by
      intro session held
      rcases store.holds_get s.clock tokenId s.sessions with same | gone
      · exact dated.held session (same ▸ held)
      · rw [gone] at held
        cases held
    cases h
    cases found : (store.get s.clock tokenId s.sessions).1 with
    | none => exact ⟨kept, others _ trivial⟩
    | some session =>
      exact ⟨kept, others _ (dated.held session (store.holds_of_get _ _ _ _ found))⟩
  | got session logouts =>
    rw [progress] at h own
    cases h
    refine ⟨dated.held, others _ ?_⟩
    unfold Service.decides
    split
    · exact trivial
    · exact ⟨own, s.clock, rfl, by dsimp only at own; omega⟩
  | saving session logouts =>
    rw [progress] at h own
    cases h
    refine ⟨?_, others _ own⟩
    intro session' held
    rcases store.holds_save s.clock tokenId session s.sessions with saved | gone
    · rw [saved] at held
      cases held
      exact own.1
    · rw [gone] at held
      cases held
  | deleting =>
    rw [progress] at h
    cases h
    refine ⟨?_, others _ trivial⟩
    intro session held
    rw [store.holds_delete] at held
    cases held
  | loggingOut =>
    rw [progress] at h
    cases h
    refine ⟨?_, others _ trivial⟩
    intro session held
    rw [store.holds_delete] at held
    cases held
  | returned result =>
    rw [progress] at h
    cases h
  | loggedOut =>
    rw [progress] at h
    cases h

theorem Dated.exec {expiresAt : Int} (dated : Dated store tokenId expiresAt s) {e : Event}
    (h : s.exec store tokenId e = some t) : Dated store tokenId expiresAt t := by
  cases e with
  | ticks now =>
    simp only [Service.exec] at h
    split at h
    · cases h
      exact ⟨dated.held, dated.calls⟩
    · cases h
  | starts request =>
    cases h
    refine ⟨dated.held, ?_⟩
    intro c mem
    rcases List.mem_append.mp mem with mem | mem
    · exact dated.calls c mem
    · rw [List.mem_singleton.mp mem]
      cases request <;> exact trivial
  | proceeds id =>
    obtain ⟨call, at_id, h⟩ := Option.bind_eq_some_iff.mp h
    exact dated.proceeds at_id h

/-! ## No session outlives a logout -/

/-- A call that started after a logout never gets a session, and none was read after one. -/
structure Call.Barred (c : Call) : Prop where
  late : c.afterLogout = true →
    c.progress = .getting ∨ c.progress = .returned none ∨ c.progress = .loggingOut ∨
      c.progress = .loggedOut
  read : ∀ session logouts, c.progress = .got session logouts ∨
    c.progress = .saving session logouts → logouts = 0

variable (store tokenId) in
structure Barred (s : Service σ) : Prop where
  gone : 0 < s.logouts → store.holds s.sessions tokenId = none
  left : (∃ c ∈ s.calls, c.progress = .loggedOut ∨ c.afterLogout = true) → 0 < s.logouts
  calls : ∀ c ∈ s.calls, c.Barred

theorem Call.Barred.finished {c : Call} (progress : c.progress = .returned none ∨
    c.progress = .loggingOut ∨ c.progress = .loggedOut) : c.Barred where
  late _ := .inr progress
  read session logouts reads := by
    rcases progress with is | is | is <;> rw [is] at reads <;> rcases reads with h | h <;> cases h

theorem Barred.proceeds (barred : Barred store tokenId s) {id : Nat} {call : Call}
    (at_id : s.calls[id]? = some call)
    (meets : ∀ session logouts, call.progress = .saving session logouts → logouts = s.logouts)
    (h : s.proceeds store tokenId id call = some t) : Barred store tokenId t := by
  have mem_call := List.mem_of_getElem? at_id
  have own := barred.calls call mem_call
  have others : ∀ c' : Call, c'.Barred → ∀ c ∈ s.calls.set id c', c.Barred := by
    intro c' barred' c mem
    rcases List.mem_or_eq_of_mem_set mem with mem | rfl
    · exact barred.calls c mem
    · exact barred'
  have before : ∀ c' : Call, c'.afterLogout = call.afterLogout → c'.progress ≠ .loggedOut →
      (∃ c ∈ s.calls.set id c', c.progress = .loggedOut ∨ c.afterLogout = true) →
        0 < s.logouts := by
    rintro c' same going ⟨c, mem, left⟩
    rcases List.mem_or_eq_of_mem_set mem with mem | rfl
    · exact barred.left ⟨c, mem, left⟩
    · exact barred.left ⟨call, mem_call, .inr (same ▸ left.resolve_left going)⟩
  have on_time : (∀ p, call.progress = p → p ≠ .getting ∧ p ≠ .returned none ∧ p ≠ .loggingOut ∧
      p ≠ .loggedOut) → call.afterLogout = true → False := by
    intro apart after
    obtain ⟨a, b, c, d⟩ := apart call.progress rfl
    rcases own.late after with h | h | h | h
    · exact a h
    · exact b h
    · exact c h
    · exact d h
  unfold Service.proceeds at h
  dsimp only at h
  cases progress : call.progress with
  | getting =>
    rw [progress] at h
    have kept : 0 < s.logouts → store.holds (store.get s.clock tokenId s.sessions).2 tokenId =
        none := by
      intro some_left
      rcases store.holds_get s.clock tokenId s.sessions with same | gone
      · rw [same]
        exact barred.gone some_left
      · exact gone
    cases h
    cases found : (store.get s.clock tokenId s.sessions).1 with
    | none => exact ⟨kept, before _ rfl nofun, others _ (.finished (.inl rfl))⟩
    | some session =>
      have held := store.holds_of_get _ _ _ _ found
      have none_left : ¬ 0 < s.logouts := by
        intro some_left
        rw [barred.gone some_left] at held
        cases held
      refine ⟨kept, before _ rfl nofun, others _ ⟨?_, ?_⟩⟩
      · intro after
        exact absurd (barred.left ⟨call, mem_call, .inr after⟩) none_left
      · intro session' logouts reads
        rcases reads with got | saves
        · cases got
          exact Nat.eq_zero_of_not_pos none_left
        · cases saves
  | got session logouts =>
    rw [progress] at h
    have early : call.afterLogout = true → False := on_time (by rw [progress]; rintro p rfl; simp)
    have fresh := own.read session logouts (.inl progress)
    cases h
    unfold Service.decides
    split
    · refine ⟨barred.gone, before _ rfl nofun, others _ ⟨fun after => (early after).elim, ?_⟩⟩
      rintro session' logouts' (got | saves)
      · cases got
      · cases saves
    · refine ⟨barred.gone, before _ rfl nofun, others _ ⟨fun after => (early after).elim, ?_⟩⟩
      rintro session' logouts' (got | saves)
      · cases got
      · cases saves
        exact fresh
  | saving session logouts =>
    rw [progress] at h
    have early : call.afterLogout = true → False := on_time (by rw [progress]; rintro p rfl; simp)
    have fresh := own.read session logouts (.inr progress)
    have current := meets session logouts progress
    cases h
    refine ⟨?_, before _ rfl nofun, others _ ⟨fun after => (early after).elim, ?_⟩⟩
    · intro some_left
      change 0 < s.logouts at some_left
      omega
    · rintro session' logouts' (got | saves)
      · cases got
      · cases saves
  | deleting =>
    rw [progress] at h
    cases h
    exact ⟨fun _ => store.holds_delete tokenId s.sessions, before _ rfl nofun,
      others _ (.finished (.inl rfl))⟩
  | loggingOut =>
    rw [progress] at h
    cases h
    exact ⟨fun _ => store.holds_delete tokenId s.sessions, fun _ => Nat.succ_pos _,
      others _ (.finished (.inr (.inr rfl)))⟩
  | returned result =>
    rw [progress] at h
    cases h
  | loggedOut =>
    rw [progress] at h
    cases h

theorem Barred.exec (barred : Barred store tokenId s) {e : Event} (meets : s.Meets e)
    (h : s.exec store tokenId e = some t) : Barred store tokenId t := by
  cases e with
  | ticks now =>
    simp only [Service.exec] at h
    split at h
    · cases h
      exact ⟨barred.gone, barred.left, barred.calls⟩
    · cases h
  | starts request =>
    cases h
    refine ⟨barred.gone, ?_, ?_⟩
    · rintro ⟨c, mem, left⟩
      rcases List.mem_append.mp mem with mem | mem
      · exact barred.left ⟨c, mem, left⟩
      · rw [List.mem_singleton.mp mem] at left
        rcases left with done | after
        · cases request <;> cases done
        · obtain ⟨c', mem', done⟩ := List.any_eq_true.mp after
          exact barred.left ⟨c', mem', .inl (of_decide_eq_true done)⟩
    · intro c mem
      rcases List.mem_append.mp mem with mem | mem
      · exact barred.calls c mem
      · rw [List.mem_singleton.mp mem]
        cases request with
        | authenticate =>
          refine ⟨fun _ => .inl rfl, ?_⟩
          rintro session logouts (got | saves)
          · cases got
          · cases saves
        | logout => exact .finished (.inr (.inl rfl))
  | proceeds id =>
    obtain ⟨call, at_id, h⟩ := Option.bind_eq_some_iff.mp h
    have current := fun session logouts => meets id call session logouts rfl at_id
    exact barred.proceeds at_id current h

/-! ## After a login -/

theorem Dated.start (session : AdminSession) (clock : Int) (sessions : σ) :
    Dated store tokenId session.expiresAt (loggedIn store tokenId session clock sessions) where
  held session' held := by
    rcases store.holds_save clock tokenId session sessions with saved | gone
    · rw [loggedIn, saved] at held
      cases held
      rfl
    · rw [loggedIn, gone] at held
      cases held
  calls _ mem := by cases mem

theorem Barred.start (session : AdminSession) (clock : Int) (sessions : σ) :
    Barred store tokenId (loggedIn store tokenId session clock sessions) where
  gone some_left := absurd some_left (Nat.lt_irrefl 0)
  left := by
    rintro ⟨c, mem, -⟩
    cases mem
  calls _ mem := by cases mem

variable (store tokenId) in
/-- As long as no call saves a session back that a logout has deleted since, no call that started
after a logout returns a session. No call returns one that had expired by its clock, in any run. -/
theorem logout_is_final (session : AdminSession) (clock : Int) (sessions : σ) (s : Service σ) :
    (RunWith store tokenId Service.Meets (loggedIn store tokenId session clock sessions) s →
      ∀ c ∈ s.calls, c.afterLogout = true → ∀ returned, c.progress ≠ .returned (some returned)) ∧
    (RunWith store tokenId (fun _ _ => True) (loggedIn store tokenId session clock sessions) s →
      ∀ c ∈ s.calls, ∀ returned, c.progress = .returned (some returned) →
        ∃ currentTime, c.currentTime = some currentTime ∧ currentTime < session.expiresAt) := by
  constructor
  · intro run
    have barred : Barred store tokenId s := by
      induction run with
      | refl => exact .start session clock sessions
      | tail _ step ih =>
        obtain ⟨e, meets, h⟩ := step
        exact ih.exec meets h
    intro c mem after returned is
    rcases (barred.calls c mem).late after with h | h | h | h <;> rw [is] at h <;> cases h
  · intro run
    have dated : Dated store tokenId session.expiresAt s := by
      induction run with
      | refl => exact .start session clock sessions
      | tail _ step ih =>
        obtain ⟨e, -, h⟩ := step
        exact ih.exec h
    intro c mem returned is
    have own := dated.calls c mem
    unfold Call.Dated at own
    rw [is] at own
    exact own.2

/-! ## Runs replayed -/

/-- The condition on a step, as a check. -/
def Service.calm (s : Service σ) : Event → Bool
  | .proceeds id => match s.calls[id]?.map Call.progress with
    | some (.saving _ logouts) => decide (logouts = s.logouts)
    | _ => true
  | _ => true

theorem Service.Meets.of_calm {e : Event} (calm : s.calm e = true) : s.Meets e := by
  rintro id call session logouts rfl at_id saves
  simpa [Service.calm, at_id, saves] using calm

variable (store tokenId) in
def Service.replay : List Event → Service σ → Option (Service σ)
  | [], s => some s
  | e :: rest, s => if s.calm e then (s.exec store tokenId e).bind (replay rest) else none

theorem runWith_of_replay {events : List Event} (h : s.replay store tokenId events = some t) :
    RunWith store tokenId Service.Meets s t := by
  induction events generalizing s with
  | nil =>
    cases h
    exact .refl
  | cons e rest ih =>
    unfold Service.replay at h
    split at h
    · next calm =>
      obtain ⟨u, step, h⟩ := Option.bind_eq_some_iff.mp h
      exact .head ⟨e, .of_calm calm, step⟩ (ih h)
    · cases h

end

/-- One call is answered, its session logged out, and the next call refused. -/
theorem logout_is_final_once :
    let session := newSession "s" "root" .admin 0 100
    ∃ s, RunWith inMemory "t" Service.Meets (loggedIn inMemory "t" session 0 .empty) s ∧
      s.calls.map Call.progress =
        [.returned (some { session with lastSeenAt := 5 }), .loggedOut, .returned none] ∧
      ∀ c ∈ s.calls, c.afterLogout = true → ∀ returned, c.progress ≠ .returned (some returned) := by
  intro session
  have ends : (Service.replay inMemory "t" [.ticks 5, .starts .authenticate, .proceeds 0,
      .proceeds 0, .proceeds 0, .starts .logout, .proceeds 1, .starts .authenticate, .proceeds 2]
      (loggedIn inMemory "t" session 0 .empty)).map (fun s => s.calls.map Call.progress) =
        some [.returned (some { session with lastSeenAt := 5 }), .loggedOut, .returned none] := by
    decide +kernel
  obtain ⟨s, ran, ends⟩ := Option.map_eq_some_iff.mp ends
  have run := runWith_of_replay ran
  exact ⟨s, run, ends, (logout_is_final inMemory "t" session 0 .empty s).1 run⟩

/-- The first call reads the session, a logout deletes it, the first call saves it back, and a call
that starts after the logout returns it, with either store. -/
theorem logout_is_undone :
    let session := newSession "s" "root" .admin 0 100
    let race : List Event := [.starts .authenticate, .proceeds 0, .starts .logout, .proceeds 1,
      .proceeds 0, .proceeds 0, .starts .authenticate, .proceeds 2, .proceeds 2, .proceeds 2]
    let late : Call :=
      { progress := .returned (some session), afterLogout := true, currentTime := some 0 }
    (∃ s, race.foldlM (Service.exec inMemory "t") (loggedIn inMemory "t" session 0 .empty) = some s ∧
      late ∈ s.calls) ∧
    ∃ s, race.foldlM (Service.exec Redis.store "t") (loggedIn Redis.store "t" session 0 .empty) =
      some s ∧ late ∈ s.calls := by
  intro session race late
  have inProcess : (race.foldlM (Service.exec inMemory "t")
      (loggedIn inMemory "t" session 0 .empty)).any (fun s => decide (late ∈ s.calls)) = true := by
    decide +kernel
  have inRedis : (race.foldlM (Service.exec Redis.store "t")
      (loggedIn Redis.store "t" session 0 .empty)).any (fun s => decide (late ∈ s.calls)) = true := by
    decide +kernel
  obtain ⟨s, ran, found⟩ := (Option.any_eq_true ..).mp inProcess
  obtain ⟨s', ran', found'⟩ := (Option.any_eq_true ..).mp inRedis
  exact ⟨⟨s, ran, of_decide_eq_true found⟩, s', ran', of_decide_eq_true found'⟩

end BiliSyncPlay.AdminSessions
