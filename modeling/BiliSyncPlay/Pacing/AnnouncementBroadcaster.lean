import BiliSyncPlay.Pacing.MaintenancePass
import BiliSyncPlay.Protocol.Records
import Mathlib.Data.Rat.Floor

/-!
# The announcement broadcaster

Polls of the stored announcement, each with the instant the store answers it at, the sessions that
are seated meanwhile, and what was sent to them. The store and the broadcaster measure with clocks
of one speed, so one clock stands for both. A session's version is the one it entered with.
-/

namespace BiliSyncPlay.AnnouncementBroadcaster

open Json RedisRoomStore Protocol MaintenancePass

/-! ## Announcements -/

structure AnnouncementSnapshot where
  announcement : StoredAnnouncement
  remainingMs : Rat
  deriving DecidableEq

structure Announcement where
  id : JsString
  level : AnnouncementLevel
  message : JsString
  scheduledAt : Option Rat
  expiresInMs : Int
  deriving DecidableEq

def toWireAnnouncement (snapshot : AnnouncementSnapshot) (elapsedMs : Rat) : Option Announcement :=
  let expiresInMs := ⌊snapshot.remainingMs - max 0 elapsedMs⌋
  if expiresInMs ≤ 0 then none
  else
    let announcement := snapshot.announcement
    some {
      id := announcement.id
      level := announcement.level
      message := announcement.message
      scheduledAt := announcement.scheduledAt
      expiresInMs }

def Announcement.toDoc (announcement : Announcement) : Doc JsString :=
  wireForm (.str announcement.id) (.str (js announcement.level.text)) (.str announcement.message)
    announcement.scheduledAt announcement.expiresInMs

/-- The message a receiver checks is this one. -/
theorem toWireAnnouncement_toDoc (snapshot : AnnouncementSnapshot) (elapsedMs : Rat) :
    Protocol.toWireAnnouncement snapshot.announcement snapshot.remainingMs elapsedMs =
      (toWireAnnouncement snapshot elapsedMs).map Announcement.toDoc := by
  unfold Protocol.toWireAnnouncement toWireAnnouncement
  dsimp only
  by_cases lapsed : ⌊snapshot.remainingMs - max 0 elapsedMs⌋ ≤ 0
  · rw [if_pos lapsed, if_pos (by exact_mod_cast lapsed)]
    rfl
  · rw [if_neg lapsed, if_neg (by exact_mod_cast lapsed)]
    rfl

/-! ## The store -/

/-- The one announcement of the store, which lapses by itself. -/
structure Held where
  announcement : StoredAnnouncement
  expiresAt : Rat
  deriving DecidableEq

def getAnnouncement (announcement : Option Held) (now : Rat) : Option AnnouncementSnapshot :=
  match announcement with
  | none => none
  | some held =>
    let remainingMs := held.expiresAt - now
    if remainingMs ≤ 0 then none else some { announcement := held.announcement, remainingMs }

/-- What the store held at the instant it answered a read. -/
structure Answer where
  answeredAt : Rat
  held : Option Held

def Answer.snapshot (answer : Answer) : Option AnnouncementSnapshot :=
  getAnnouncement answer.held answer.answeredAt

/-- A read, by the call that makes it. -/
structure Read where
  startedAtMs : Rat
  answer : Option Answer := none

/-! ## The broadcaster -/

def ANNOUNCEMENT_PROTOCOL_VERSION : Nat := 5

/-- `entered`: `sendCurrentTo` has been called for it since it was listed. -/
structure Session where
  id : Nat
  attached : Bool
  protocolVersion : Option Nat
  entered : Bool := false
  deriving DecidableEq

/-- What `run` answers with. -/
structure Poll where
  snapshot : Option AnnouncementSnapshot
  readStartedAtMs : Rat
  deriving DecidableEq

def Poll.announcementId (poll : Poll) : Option JsString := poll.snapshot.map (·.announcement.id)

/-- A `server:announcement`. -/
structure Sent where
  session : Nat
  announcement : Option Announcement
  sentAt : Rat
  deriving DecidableEq

/-- An `announcement_polled` of the log. -/
structure Polled where
  announcementId : Option JsString
  changed : Bool
  recipients : Nat
  deriving DecidableEq

structure State where
  now : Rat := 0
  announcement : Option Held := none
  publishedIds : List JsString := []
  reads : List Read := []
  pass : Pass Poll := {}
  known : Option Poll := none
  roomSessions : List Session := []
  sent : List Sent := []
  polled : List Polled := []

/-- `hasAttachedSocket`, and the version is new enough. -/
def Session.receives (session : Session) : Bool :=
  session.attached && ANNOUNCEMENT_PROTOCOL_VERSION ≤ session.protocolVersion.getD 1

namespace State

def currentMessage (s : State) : Option (Option Announcement) :=
  s.known.map fun known =>
    known.snapshot.bind fun snapshot => toWireAnnouncement snapshot (s.now - known.readStartedAtMs)

def sendTo (session : Session) (message : Option Announcement) (s : State) : State :=
  if session.receives then { s with sent := s.sent ++ [⟨session.id, message, s.now⟩] } else s

/-- With how many sessions it reached. -/
def broadcast (s : State) : State × Nat :=
  match s.currentMessage with
  | none => (s, 0)
  | some message =>
    (s.roomSessions.foldl (fun s session => s.sendTo session message) s,
      s.roomSessions.countP Session.receives)

def onSuccess (result : Poll) (s : State) : State :=
  let previousId := s.known.map Poll.announcementId
  let s := { s with known := some result }
  let currentId := result.announcementId
  let changed := decide (previousId ≠ some currentId)
  let (s, recipients) := if changed then s.broadcast else (s, 0)
  { s with polled := s.polled ++ [{ announcementId := currentId, changed, recipients }] }

/-- `pollNow`, up to where it waits for the read it makes. -/
def pollNow (options : Options) (s : State) : State :=
  { s with
    pass := s.pass.runNow options none
    reads := if s.pass.inFlight.isSome then s.reads else s.reads ++ [{ startedAtMs := s.now }] }

def sendCurrentTo (session : Session) (s : State) : State :=
  match s.currentMessage with
  | none => s
  | some message => s.sendTo session message

def setSession (id : Nat) (change : Session → Session) (s : State) : State :=
  { s with
    roomSessions := s.roomSessions.map fun session =>
      if session.id = id then change session else session }

end State

inductive Step (options : Options) : State → State → Prop where
  | advance (s : State) (later : Rat) (passed : s.now ≤ later) :
      Step options s { s with now := later }
  | publish (s : State) (announcement : StoredAnnouncement) (ttlMs : Rat)
      (fresh : announcement.id ∉ s.publishedIds) :
      Step options s { s with
        announcement := some { announcement, expiresAt := s.now + ttlMs }
        publishedIds := s.publishedIds ++ [announcement.id] }
  | withdraw (s : State) : Step options s { s with announcement := none }
  | poll (s : State) : Step options s (s.pollNow options)
  | read (s : State) (call : CallId) (startedAtMs : Rat)
      (unread : s.reads[call]? = some { startedAtMs }) :
      Step options s { s with
        reads := s.reads.set call
          { startedAtMs, answer := some { answeredAt := s.now, held := s.announcement } } }
  | answer (s : State) (call : CallId) (startedAtMs : Rat) (answer : Answer)
      (answered : s.reads[call]? = some { startedAtMs, answer := some answer })
      (waits : s.pass.Unanswered call) :
      Step options s { s with
        pass := s.pass.answer call
          (.ok { snapshot := answer.snapshot, readStartedAtMs := startedAtMs }) }
  | fail (s : State) (call : CallId) (error : PassError) (waits : s.pass.Unanswered call) :
      Step options s { s with pass := s.pass.answer call (.error error) }
  | succeed (s : State) (tick : TickId) (call : CallId) (result : Poll)
      (awaits : s.pass.Awaits tick call)
      (answered : s.pass.runs[call]? = some (.answered (.ok result))) :
      Step options s { s.onSuccess result with pass := s.pass.resume tick call (.ok result) }
  | giveUp (s : State) (tick : TickId) (call : CallId) (error : PassError)
      (awaits : s.pass.Awaits tick call)
      (answered : s.pass.runs[call]? = some (.answered (.error error))) :
      Step options s { s with pass := s.pass.resume tick call (.error error) }
  | expire (s : State) (tick : TickId) (call : CallId) (awaits : s.pass.Awaits tick call) :
      Step options s { s with
        pass := s.pass.resume tick call (.error (.timeout options.name options.timeoutMs)) }
  | list (s : State) (session : Session) (absent : ∀ other ∈ s.roomSessions, other.id ≠ session.id)
      (outside : session.entered = false) :
      Step options s { s with roomSessions := s.roomSessions ++ [session] }
  | enter (s : State) (session : Session) (listed : session ∈ s.roomSessions) :
      Step options s
        ((s.sendCurrentTo session).setSession session.id fun session =>
          { session with entered := true })
  | detach (s : State) (id : Nat) :
      Step options s (s.setSession id fun session => { session with attached := false })
  | leave (s : State) (id : Nat) :
      Step options s { s with roomSessions := s.roomSessions.filter (·.id ≠ id) }

def Reachable (options : Options) : State → Prop := Relation.ReflTransGen (Step options) {}

/-! ## What each read found -/

/-- A poll tells what some read found. -/
def Poll.From (reads : List Read) (poll : Poll) : Prop :=
  ∃ (read : Read) (answer : Answer), read ∈ reads ∧ read.answer = some answer ∧
    poll = { snapshot := answer.snapshot, readStartedAtMs := read.startedAtMs }

/-- What was sent of a read at an instant. -/
def Sent.Of (message : Sent) (read : Read) (answer : Answer) : Prop :=
  read.answer = some answer ∧
    message.announcement = answer.snapshot.bind fun snapshot =>
      toWireAnnouncement snapshot (message.sentAt - read.startedAtMs)

/-- The message carries the announcement that was polled, or none where less than a millisecond of
it was left, counting from the start of the read it was made of. -/
def Sent.Carries (reads : List Read) (announcementId : Option JsString) (message : Sent) : Prop :=
  message.announcement.map (·.id) = announcementId ∨
    message.announcement = none ∧
      ∃ (read : Read) (answer : Answer) (snapshot : AnnouncementSnapshot),
        read ∈ reads ∧ message.Of read answer ∧ answer.snapshot = some snapshot ∧
        announcementId = some snapshot.announcement.id ∧
        snapshot.remainingMs - (message.sentAt - read.startedAtMs) < 1

def lastSentTo (id : Nat) (sent : List Sent) : Option Sent :=
  (sent.filter (·.session = id)).getLast?

/-- A session that is in a room, was told so, and can be told of announcements. -/
def Session.Seated (session : Session) : Prop :=
  session.entered = true ∧ session.receives = true

/-- The reads of a later state: more of them, and the open ones answered. -/
def Extended (reads later : List Read) : Prop :=
  ∀ read ∈ reads, read.answer.isSome = true → read ∈ later

structure Kept (s : State) : Prop where
  started : ∀ read ∈ s.reads, read.startedAtMs ≤ s.now
  during : ∀ read ∈ s.reads, ∀ answer, read.answer = some answer →
    read.startedAtMs ≤ answer.answeredAt
  answered : ∀ (call : CallId) (poll : Poll),
    s.pass.runs[call]? = some (.answered (.ok poll)) → poll.From s.reads
  known : ∀ poll, s.known = some poll → poll.From s.reads
  made : ∀ message ∈ s.sent, ∃ (read : Read) (answer : Answer), read ∈ s.reads ∧
    message.Of read answer
  polled : s.polled.getLast?.map (·.announcementId) = s.known.map Poll.announcementId
  told : ∀ poll, s.known = some poll → ∀ session ∈ s.roomSessions, session.Seated →
    ∃ message, lastSentTo session.id s.sent = some message ∧
      message.Carries s.reads poll.announcementId
  distinct : ∀ session ∈ s.roomSessions, ∀ other ∈ s.roomSessions, session.id = other.id →
    session = other

/-! ## What is made of a snapshot -/

section
variable {snapshot : AnnouncementSnapshot} {elapsedMs : Rat}

theorem toWireAnnouncement_id {announcement : Announcement}
    (made : toWireAnnouncement snapshot elapsedMs = some announcement) :
    announcement.id = snapshot.announcement.id := by
  unfold toWireAnnouncement at made
  dsimp only at made
  split at made
  · cases made
  · cases made
    rfl

theorem lifetime_le {announcement : Announcement}
    (made : toWireAnnouncement snapshot elapsedMs = some announcement) :
    announcement.expiresInMs ≤ snapshot.remainingMs - elapsedMs := by
  unfold toWireAnnouncement at made
  dsimp only at made
  split at made
  · cases made
  · cases made
    calc (⌊snapshot.remainingMs - max 0 elapsedMs⌋ : Rat)
        ≤ snapshot.remainingMs - max 0 elapsedMs := Int.floor_le _
      _ ≤ snapshot.remainingMs - elapsedMs := by
        have := le_max_right 0 elapsedMs
        linarith

theorem lapsed_of_none (made : toWireAnnouncement snapshot elapsedMs = none)
    (forward : 0 ≤ elapsedMs) : snapshot.remainingMs - elapsedMs < 1 := by
  unfold toWireAnnouncement at made
  dsimp only at made
  split at made
  · next lapsed =>
    rw [max_eq_right forward] at lapsed
    have below : ⌊snapshot.remainingMs - elapsedMs⌋ < 1 := by omega
    exact_mod_cast Int.floor_lt.mp below
  · cases made

end

theorem remainingMs_eq {held : Option Held} {now : Rat} {snapshot : AnnouncementSnapshot}
    (found : getAnnouncement held now = some snapshot) :
    ∃ own, held = some own ∧ own.announcement = snapshot.announcement ∧
      snapshot.remainingMs = own.expiresAt - now := by
  match held with
  | none => cases found
  | some own =>
    unfold getAnnouncement at found
    dsimp only at found
    split at found
    · cases found
    · cases found
      exact ⟨own, rfl, rfl, rfl⟩

/-! ## What is sent -/

variable {options : Options} {s t : State} {poll : Poll} {message : Option Announcement}

/-- What is sent now is made of the poll that is known. -/
theorem currentMessage_sound (known : s.known = some poll) (from_ : poll.From s.reads)
    (started : ∀ read ∈ s.reads, read.startedAtMs ≤ s.now) :
    ∃ message, s.currentMessage = some message ∧ ∀ id,
      (∃ (read : Read) (answer : Answer), read ∈ s.reads ∧
        (Sent.mk id message s.now).Of read answer) ∧
      (Sent.mk id message s.now).Carries s.reads poll.announcementId := by
  obtain ⟨read, answer, mem, answered, rfl⟩ := from_
  refine ⟨_, by rw [State.currentMessage, known]; rfl, fun id =>
    ⟨⟨read, answer, mem, answered, rfl⟩, ?_⟩⟩
  have forward : 0 ≤ s.now - read.startedAtMs := sub_nonneg.mpr (started read mem)
  unfold Sent.Carries Poll.announcementId
  dsimp only
  cases found : answer.snapshot with
  | none => exact .inl rfl
  | some snapshot =>
    rw [Option.bind_some]
    cases made : toWireAnnouncement snapshot (s.now - read.startedAtMs) with
    | some announcement =>
      left
      rw [Option.map_some, Option.map_some, toWireAnnouncement_id made]
    | none =>
      right
      refine ⟨rfl, read, answer, snapshot, mem, ⟨answered, ?_⟩, found, rfl,
        lapsed_of_none made forward⟩
      rw [found, Option.bind_some, made]

theorem currentMessage_eq_none (silent : s.currentMessage = none) : s.known = none :=
  Option.map_eq_none_iff.mp silent

/-- What a broadcast sends. -/
def sentNow (message : Option Announcement) (now : Rat) (sessions : List Session) : List Sent :=
  (sessions.filter Session.receives).map fun session => ⟨session.id, message, now⟩

theorem foldl_sendTo (sessions : List Session) (s : State) :
    sessions.foldl (fun s session => s.sendTo session message) s =
      { s with sent := s.sent ++ sentNow message s.now sessions } := by
  induction sessions generalizing s with
  | nil => simp [sentNow]
  | cons first rest ih =>
    rw [List.foldl_cons, ih, State.sendTo]
    by_cases receives : first.receives = true
    · simp [sentNow, receives]
    · simp [sentNow, receives]

/-- A successful poll is passed on where its announcement is another one. -/
theorem onSuccess_cases (s : State) (result : Poll) :
    (∃ recipients, s.known.map Poll.announcementId = some result.announcementId ∧
      s.onSuccess result = { s with
        known := some result
        polled := s.polled ++ [⟨result.announcementId, false, recipients⟩] }) ∨
    ∃ message recipients, ({ s with known := some result } : State).currentMessage = some message ∧
      s.onSuccess result = { s with
        known := some result
        sent := s.sent ++ sentNow message s.now s.roomSessions
        polled := s.polled ++ [⟨result.announcementId, true, recipients⟩] } := by
  by_cases same : s.known.map Poll.announcementId = some result.announcementId
  · exact .inl ⟨0, same, by simp [State.onSuccess, same]⟩
  · right
    obtain ⟨message, current⟩ : ∃ message,
        ({ s with known := some result } : State).currentMessage = some message := ⟨_, rfl⟩
    refine ⟨message, s.roomSessions.countP Session.receives, current, ?_⟩
    simp [State.onSuccess, same, State.broadcast, current, foldl_sendTo]

theorem onSuccess_pass (s : State) (result : Poll) : (s.onSuccess result).pass = s.pass := by
  rcases onSuccess_cases s result with ⟨recipients, -, eq⟩ | ⟨message, recipients, -, eq⟩ <;>
    rw [eq]

theorem lastSentTo_append (id : Nat) (sent new : List Sent) :
    lastSentTo id (sent ++ new) = (lastSentTo id new).or (lastSentTo id sent) := by
  rw [lastSentTo, List.filter_append, List.getLast?_append]
  rfl

theorem lastSentTo_sentNow {session : Session} {sessions : List Session} (now : Rat)
    (listed : session ∈ sessions) (receives : session.receives = true) :
    lastSentTo session.id (sentNow message now sessions) = some ⟨session.id, message, now⟩ := by
  cases last : lastSentTo session.id (sentNow message now sessions) with
  | none =>
    have own : (⟨session.id, message, now⟩ : Sent) ∈ sentNow message now sessions :=
      List.mem_map.mpr ⟨session, List.mem_filter.mpr ⟨listed, receives⟩, rfl⟩
    have none_ := List.getLast?_eq_none_iff.mp last
    rw [List.filter_eq_nil_iff] at none_
    exact absurd (decide_eq_true rfl) (none_ _ own)
  | some sent =>
    obtain ⟨mem, own⟩ := List.mem_filter.mp (List.mem_of_getLast? last)
    obtain ⟨other, -, rfl⟩ := List.mem_map.mp mem
    have same : other.id = session.id := of_decide_eq_true own
    rw [same]

/-! ## Steps -/

theorem Poll.From.extended {reads later : List Read} (from_ : poll.From reads)
    (extended : Extended reads later) : poll.From later := by
  obtain ⟨read, answer, mem, answered, eq⟩ := from_
  exact ⟨read, answer, extended read mem (by rw [answered]; rfl), answered, eq⟩

theorem Sent.Carries.extended {reads later : List Read} {announcementId : Option JsString}
    {sent : Sent} (carries : sent.Carries reads announcementId) (extended : Extended reads later) :
    sent.Carries later announcementId := by
  rcases carries with same | ⟨none_, read, answer, snapshot, mem, of_, rest⟩
  · exact .inl same
  · exact .inr ⟨none_, read, answer, snapshot, extended read mem (by rw [of_.1]; rfl), of_, rest⟩

theorem Extended.refl (reads : List Read) : Extended reads reads := fun _ mem _ => mem

/-- A step that only moves time, the store, the reads and the pass. -/
theorem Kept.quiet (kept : Kept s) (extended : Extended s.reads t.reads)
    (started : ∀ read ∈ t.reads, read.startedAtMs ≤ t.now)
    (during : ∀ read ∈ t.reads, ∀ answer, read.answer = some answer →
      read.startedAtMs ≤ answer.answeredAt)
    (answered : ∀ (call : CallId) (poll : Poll),
      t.pass.runs[call]? = some (.answered (.ok poll)) → poll.From t.reads)
    (known : t.known = s.known) (roomSessions : t.roomSessions = s.roomSessions)
    (sent : t.sent = s.sent) (polled : t.polled = s.polled) : Kept t := by
  constructor
  · exact started
  · exact during
  · exact answered
  · intro poll held
    exact (kept.known poll (known ▸ held)).extended extended
  · intro message mem
    obtain ⟨read, answer, here, of_⟩ := kept.made message (sent ▸ mem)
    exact ⟨read, answer, extended read here (by rw [of_.1]; rfl), of_⟩
  · rw [polled, known]
    exact kept.polled
  · intro poll held session listed seated
    obtain ⟨message, last, carries⟩ :=
      kept.told poll (known ▸ held) session (roomSessions ▸ listed) seated
    exact ⟨message, by rw [sent]; exact last, carries.extended extended⟩
  · rw [roomSessions]
    exact kept.distinct

theorem resume_runs (p : Pass Poll) (tick : TickId) (call : CallId)
    (result : Except PassError Poll) : (p.resume tick call result).runs = p.runs := by
  obtain ⟨report, stalled, eq, -⟩ := resume_cases (p := p) tick call result
  rw [eq]
  rfl

theorem runNow_answered {p : Pass Poll} {call : CallId} {result : Except PassError Poll}
    (answered : (p.runNow options none).runs[call]? = some (.answered result)) :
    p.runs[call]? = some (.answered result) := by
  unfold Pass.runNow at answered
  split at answered
  · exact answered
  · rcases getElem?_concat_cases answered with ⟨-, new⟩ | ⟨-, old⟩
    · cases new
    · exact old

theorem answer_runs (p : Pass Poll) (call : CallId) (result : Except PassError Poll) :
    (p.answer call result).runs = p.runs.set call (.answered result) := by
  unfold Pass.answer Pass.release
  split <;> rfl

theorem Kept.pollNow (kept : Kept s) : Kept (s.pollNow options) := by
  have reads : (s.pollNow options).reads = s.reads ∨
      (s.pollNow options).reads = s.reads ++ [{ startedAtMs := s.now }] := by
    unfold State.pollNow
    dsimp only
    split
    · exact .inl rfl
    · exact .inr rfl
  have extended : Extended s.reads (s.pollNow options).reads := by
    intro read mem _
    rcases reads with same | more
    · rwa [same]
    · rw [more]
      exact List.mem_append_left _ mem
  have cases_ : ∀ read ∈ (s.pollNow options).reads, read ∈ s.reads ∨
      read = { startedAtMs := s.now } := by
    intro read mem
    rcases reads with same | more
    · exact .inl (same ▸ mem)
    · rw [more] at mem
      exact (List.mem_append.mp mem).imp_right List.mem_singleton.mp
  refine kept.quiet extended ?_ ?_ ?_ rfl rfl rfl rfl
  · intro read mem
    rcases cases_ read mem with old | rfl
    · exact kept.started read old
    · exact le_refl s.now
  · intro read mem answer answered
    rcases cases_ read mem with old | rfl
    · exact kept.during read old answer answered
    · cases answered
  · intro call poll answered
    exact (kept.answered call poll (runNow_answered answered)).extended extended

theorem Kept.read (kept : Kept s) {call : CallId} {startedAtMs : Rat}
    (unread : s.reads[call]? = some { startedAtMs }) :
    Kept { s with
      reads := s.reads.set call
        { startedAtMs, answer := some { answeredAt := s.now, held := s.announcement } } } := by
  have before := kept.started _ (List.mem_of_getElem? unread)
  have extended : Extended s.reads (s.reads.set call
      { startedAtMs, answer := some { answeredAt := s.now, held := s.announcement } }) := by
    intro read mem answered
    obtain ⟨i, at_i⟩ := List.mem_iff_getElem?.mp mem
    have other : call ≠ i := by
      rintro rfl
      rw [unread] at at_i
      cases at_i
      cases answered
    exact List.mem_of_getElem? (by rw [List.getElem?_set_ne other, at_i])
  refine kept.quiet extended ?_ ?_ ?_ rfl rfl rfl rfl
  · intro read mem
    rcases List.mem_or_eq_of_mem_set mem with old | rfl
    · exact kept.started read old
    · exact before
  · intro read mem answer answered
    rcases List.mem_or_eq_of_mem_set mem with old | rfl
    · exact kept.during read old answer answered
    · cases answered
      exact before
  · intro other poll answered
    exact (kept.answered other poll answered).extended extended

theorem Kept.answer (kept : Kept s) {call : CallId} {result : Except PassError Poll}
    (sound : ∀ poll, result = .ok poll → poll.From s.reads) :
    Kept { s with pass := s.pass.answer call result } := by
  refine kept.quiet (Extended.refl _) kept.started kept.during ?_ rfl rfl rfl rfl
  intro other poll answered
  dsimp only at answered
  rw [answer_runs] at answered
  rcases getElem?_set_cases answered with ⟨-, same⟩ | ⟨-, old⟩
  · cases same
    exact sound poll rfl
  · exact kept.answered other poll old

theorem Kept.resume (kept : Kept s) (tick : TickId) (call : CallId)
    (result : Except PassError Poll) : Kept { s with pass := s.pass.resume tick call result } := by
  refine kept.quiet (Extended.refl _) kept.started kept.during ?_ rfl rfl rfl rfl
  intro other poll answered
  rw [resume_runs] at answered
  exact kept.answered other poll answered

theorem Kept.onSuccess (kept : Kept s) {result : Poll} (from_ : result.From s.reads) :
    Kept (s.onSuccess result) := by
  rcases onSuccess_cases s result with ⟨recipients, same, eq⟩ | ⟨message, recipients, current, eq⟩
  · rw [eq]
    constructor
    · exact kept.started
    · exact kept.during
    · exact kept.answered
    · rintro poll ⟨⟩
      exact from_
    · exact kept.made
    · simp
    · rintro poll ⟨⟩ session listed seated
      obtain ⟨before, known, id⟩ := Option.map_eq_some_iff.mp same
      obtain ⟨message, last, carries⟩ := kept.told before known session listed seated
      exact ⟨message, last, id ▸ carries⟩
    · exact kept.distinct
  · obtain ⟨other, current', sound⟩ := currentMessage_sound
      (s := { s with known := some result }) rfl from_ kept.started
    obtain rfl : message = other := Option.some.inj (current.symm.trans current')
    rw [eq]
    constructor
    · exact kept.started
    · exact kept.during
    · exact kept.answered
    · rintro poll ⟨⟩
      exact from_
    · intro sent mem
      rcases List.mem_append.mp mem with old | new
      · exact kept.made sent old
      · obtain ⟨session, -, rfl⟩ := List.mem_map.mp new
        exact (sound session.id).1
    · simp
    · rintro poll ⟨⟩ session listed seated
      refine ⟨⟨session.id, message, s.now⟩, ?_, (sound session.id).2⟩
      rw [lastSentTo_append, lastSentTo_sentNow s.now listed seated.2, Option.some_or]
    · exact kept.distinct

/-- The sessions change, and each that is seated was before. -/
theorem Kept.seats (kept : Kept s) {sessions : List Session}
    (before : ∀ session ∈ sessions, session.Seated →
      ∃ own ∈ s.roomSessions, own.id = session.id ∧ own.Seated)
    (distinct : ∀ session ∈ sessions, ∀ other ∈ sessions, session.id = other.id →
      session = other) : Kept { s with roomSessions := sessions } := by
  constructor
  · exact kept.started
  · exact kept.during
  · exact kept.answered
  · exact kept.known
  · exact kept.made
  · exact kept.polled
  · intro poll known session listed seated
    obtain ⟨own, mem, id, seated⟩ := before session listed seated
    rw [← id]
    exact kept.told poll known own mem seated
  · exact distinct

theorem distinct_map {sessions : List Session} (id : Nat) (change : Session → Session)
    (keeps : ∀ session, (change session).id = session.id)
    (distinct : ∀ session ∈ sessions, ∀ other ∈ sessions, session.id = other.id →
      session = other) :
    ∀ session ∈ sessions.map fun session => if session.id = id then change session else session,
      ∀ other ∈ sessions.map fun session => if session.id = id then change session else session,
        session.id = other.id → session = other := by
  have same_id (session : Session) :
      (if session.id = id then change session else session).id = session.id := by
    split
    · exact keeps session
    · rfl
  intro session mem other mem' same
  obtain ⟨before, listed, rfl⟩ := List.mem_map.mp mem
  obtain ⟨before', listed', rfl⟩ := List.mem_map.mp mem'
  rw [same_id, same_id] at same
  rw [distinct before listed before' listed' same]

theorem receives_detached {session : Session} :
    ({ session with attached := false } : Session).receives = false := rfl

theorem Kept.detach (kept : Kept s) (id : Nat) :
    Kept (s.setSession id fun session => { session with attached := false }) := by
  have distinct := distinct_map id (fun session => { session with attached := false })
    (fun _ => rfl) kept.distinct
  refine kept.seats ?_ distinct
  intro session mem seated
  obtain ⟨own, listed, rfl⟩ := List.mem_map.mp mem
  by_cases here : own.id = id
  · rw [if_pos here] at seated
    exact absurd seated.2 (by rw [receives_detached]; exact Bool.false_ne_true)
  · rw [if_neg here] at seated ⊢
    exact ⟨own, listed, rfl, seated⟩

theorem Kept.leave (kept : Kept s) (id : Nat) :
    Kept { s with roomSessions := s.roomSessions.filter (·.id ≠ id) } := by
  apply kept.seats
  · intro session mem seated
    exact ⟨session, (List.mem_filter.mp mem).1, rfl, seated⟩
  · intro session mem other mem'
    exact kept.distinct session (List.mem_filter.mp mem).1 other (List.mem_filter.mp mem').1

theorem Kept.list (kept : Kept s) {session : Session}
    (absent : ∀ other ∈ s.roomSessions, other.id ≠ session.id) (outside : session.entered = false) :
    Kept { s with roomSessions := s.roomSessions ++ [session] } := by
  apply kept.seats
  · intro other mem seated
    rcases List.mem_append.mp mem with old | new
    · exact ⟨other, old, rfl, seated⟩
    · obtain rfl := List.mem_singleton.mp new
      exact absurd seated.1 (by rw [outside]; exact Bool.false_ne_true)
  · intro one mem other mem' same
    rcases List.mem_append.mp mem with old | new <;> rcases List.mem_append.mp mem' with old' | new'
    · exact kept.distinct one old other old' same
    · obtain rfl := List.mem_singleton.mp new'
      exact absurd same (absent one old)
    · obtain rfl := List.mem_singleton.mp new
      exact absurd same.symm (absent other old')
    · rw [List.mem_singleton.mp new, List.mem_singleton.mp new']

/-- Who is told after `sendCurrentTo`: the session itself, and whoever was told before. -/
theorem Kept.enter (kept : Kept s) {session : Session} (listed : session ∈ s.roomSessions) :
    Kept ((s.sendCurrentTo session).setSession session.id fun session =>
      { session with entered := true }) := by
  have distinct := distinct_map session.id (fun session => { session with entered := true })
    (fun _ => rfl) kept.distinct
  cases current : s.currentMessage with
  | none =>
    have unknown := currentMessage_eq_none current
    have silent : s.sendCurrentTo session = s := by rw [State.sendCurrentTo, current]
    rw [silent]
    constructor
    · exact kept.started
    · exact kept.during
    · exact kept.answered
    · exact kept.known
    · exact kept.made
    · exact kept.polled
    · intro poll known
      exact absurd (unknown.symm.trans known) nofun
    · exact distinct
  | some message =>
    obtain ⟨poll, known, -⟩ := Option.map_eq_some_iff.mp current
    obtain ⟨other, current', sound⟩ :=
      currentMessage_sound known (kept.known poll known) kept.started
    obtain rfl : message = other := Option.some.inj (current.symm.trans current')
    have sends : s.sendCurrentTo session =
        { s with sent := s.sent ++ sentNow message s.now [session] } := by
      rw [State.sendCurrentTo, current, ← foldl_sendTo [session] s]
      rfl
    rw [sends]
    constructor
    · exact kept.started
    · exact kept.during
    · exact kept.answered
    · exact kept.known
    · intro sent mem
      rcases List.mem_append.mp mem with old | new
      · exact kept.made sent old
      · obtain ⟨own, -, rfl⟩ := List.mem_map.mp new
        exact (sound own.id).1
    · exact kept.polled
    · intro poll' known' one mem seated
      obtain rfl : poll = poll' := Option.some.inj (known.symm.trans known')
      obtain ⟨own, held, rfl⟩ := List.mem_map.mp mem
      change ∃ sent, lastSentTo _ (s.sent ++ sentNow message s.now [session]) = some sent ∧ _
      by_cases here : own.id = session.id
      · obtain rfl := kept.distinct own held session listed here
        rw [if_pos rfl] at seated ⊢
        refine ⟨⟨own.id, message, s.now⟩, ?_, (sound own.id).2⟩
        rw [lastSentTo_append, lastSentTo_sentNow s.now (List.mem_singleton_self own) seated.2,
          Option.some_or]
      · rw [if_neg here] at seated ⊢
        obtain ⟨sent, last, carries⟩ := kept.told poll known own held seated
        refine ⟨sent, ?_, carries⟩
        have others : lastSentTo own.id (sentNow message s.now [session]) = none := by
          apply List.getLast?_eq_none_iff.mpr
          rw [List.filter_eq_nil_iff]
          intro sent mem
          obtain ⟨to_, only, rfl⟩ := List.mem_map.mp mem
          obtain rfl := List.mem_singleton.mp (List.mem_filter.mp only).1
          simpa using Ne.symm here
        rw [lastSentTo_append, others, Option.none_or]
        exact last
    · exact distinct

theorem step_kept (step : Step options s t) (kept : Kept s) : Kept t := by
  cases step with
  | advance later passed =>
    refine kept.quiet (Extended.refl _) ?_ kept.during kept.answered rfl rfl rfl rfl
    intro read mem
    exact (kept.started read mem).trans passed
  | publish announcement ttlMs fresh =>
    exact kept.quiet (Extended.refl _) kept.started kept.during kept.answered rfl rfl rfl rfl
  | withdraw =>
    exact kept.quiet (Extended.refl _) kept.started kept.during kept.answered rfl rfl rfl rfl
  | poll => exact kept.pollNow
  | read call startedAtMs unread => exact kept.read unread
  | answer call startedAtMs answer answered waits =>
    apply kept.answer
    rintro poll ⟨⟩
    exact ⟨_, answer, List.mem_of_getElem? answered, rfl, rfl⟩
  | fail call error waits => exact kept.answer nofun
  | succeed tick call result awaits answered =>
    have passed := (kept.onSuccess (kept.answered call result answered)).resume tick call
      (.ok result)
    rwa [onSuccess_pass] at passed
  | giveUp tick call error awaits answered => exact kept.resume tick call _
  | expire tick call awaits => exact kept.resume tick call _
  | list session absent outside => exact kept.list absent outside
  | enter session listed => exact kept.enter listed
  | detach id => exact kept.detach id
  | leave id => exact kept.leave id

theorem reachable_kept (run : Reachable options s) : Kept s := by
  induction run with
  | refl => exact ⟨nofun, nofun, nofun, nofun, nofun, rfl, nofun, nofun⟩
  | tail _ step ih => exact step_kept step ih

/-! ## What clients are told -/

/-- A message sent never promises more than the announcement had left at the store, going by the
read it was made of, and the last one a seated session was sent is about the announcement that was
last polled, or about none where that had run out counting from the start of its read. -/
theorem announcements_neither_outlive_nor_miss (run : Reachable options s) :
    (∀ message ∈ s.sent, ∃ (read : Read) (answer : Answer), read ∈ s.reads ∧
      message.Of read answer ∧ ∀ announcement, message.announcement = some announcement →
        ∃ held, answer.held = some held ∧ held.announcement.id = announcement.id ∧
          announcement.expiresInMs ≤ held.expiresAt - message.sentAt) ∧
    (∀ polled, s.polled.getLast? = some polled →
      ∀ session ∈ s.roomSessions, session.Seated →
        ∃ message, lastSentTo session.id s.sent = some message ∧
          message.Carries s.reads polled.announcementId) := by
  have kept := reachable_kept run
  constructor
  · intro message mem
    obtain ⟨read, answer, here, answered, made⟩ := kept.made message mem
    refine ⟨read, answer, here, ⟨answered, made⟩, fun announcement carried => ?_⟩
    rw [carried] at made
    obtain ⟨snapshot, found, wire⟩ := Option.bind_eq_some_iff.mp made.symm
    obtain ⟨held, stored, same, remaining⟩ := remainingMs_eq found
    refine ⟨held, stored, ?_, ?_⟩
    · rw [same, toWireAnnouncement_id wire]
    · have started := kept.during read here answer answered
      calc (announcement.expiresInMs : Rat)
          ≤ snapshot.remainingMs - (message.sentAt - read.startedAtMs) := lifetime_le wire
        _ = held.expiresAt - answer.answeredAt - (message.sentAt - read.startedAtMs) := by
          rw [remaining]
        _ ≤ held.expiresAt - message.sentAt := by linarith
  · intro polled last session listed seated
    have id := kept.polled
    rw [last] at id
    obtain ⟨poll, known, same⟩ := Option.map_eq_some_iff.mp id.symm
    change poll.announcementId = polled.announcementId at same
    rw [← same]
    exact kept.told poll known session listed seated

/-! ### On a run -/

def notice : StoredAnnouncement :=
  { id := js "n", level := .info, message := js "m", scheduledAt := none, publishedAt := 0 }

def pollOptions : Options := { name := "announcement poll", timeoutMs := 5000 }

/-- A notice with five seconds to live, and a session that entered a room. -/
def waiting : State where
  announcement := some { announcement := notice, expiresAt := 0 + 5000 }
  publishedIds := [notice.id]
  roomSessions := [{ id := 1, attached := true, protocolVersion := some 5, entered := true }]

/-- The poll whose read the store answered at an instant. -/
def pollAt (answeredAt : Rat) : Poll where
  snapshot := getAnnouncement waiting.announcement answeredAt
  readStartedAtMs := 0

/-- The first poll, before its answer is passed on. -/
def answered (answeredAt : Rat) : State :=
  { waiting with
    now := answeredAt
    reads := [{ startedAtMs := 0, answer := some { answeredAt, held := waiting.announcement } }]
    pass := (waiting.pass.runNow pollOptions none).answer 0 (.ok (pollAt answeredAt)) }

def noticed (answeredAt : Rat) : State :=
  { (answered answeredAt).onSuccess (pollAt answeredAt) with
    pass := (answered answeredAt).pass.resume 0 0 (.ok (pollAt answeredAt)) }

theorem reachable_noticed {answeredAt : Rat} (later : 0 ≤ answeredAt) :
    Reachable pollOptions (noticed answeredAt) := by
  have published : Reachable pollOptions _ := .tail .refl (.publish {} notice 5000 (by simp))
  have listed := published.tail (.list _ ⟨1, true, some 5, false⟩ nofun rfl)
  have entered : Reachable pollOptions waiting :=
    listed.tail (.enter _ ⟨1, true, some 5, false⟩ (List.mem_singleton_self _))
  have polled := entered.tail (.poll _)
  have passed := polled.tail (.advance _ answeredAt later)
  have read := passed.tail (.read _ 0 0 rfl)
  have answered := read.tail (.answer _ 0 0 ⟨answeredAt, waiting.announcement⟩ rfl rfl)
  exact answered.tail (.succeed _ 0 0 (pollAt answeredAt) ⟨_, rfl, rfl, rfl⟩ rfl)

theorem announcements_reach_the_first_session :
    let s := noticed 1
    (∀ message ∈ s.sent, ∃ (read : Read) (answer : Answer), read ∈ s.reads ∧
      message.Of read answer ∧ ∀ announcement, message.announcement = some announcement →
        ∃ held, answer.held = some held ∧ held.announcement.id = announcement.id ∧
          announcement.expiresInMs ≤ held.expiresAt - message.sentAt) ∧
    (∀ polled, s.polled.getLast? = some polled →
      ∀ session ∈ s.roomSessions, session.Seated →
        ∃ message, lastSentTo session.id s.sent = some message ∧
          message.Carries s.reads polled.announcementId) :=
  announcements_neither_outlive_nor_miss (reachable_noticed (by decide))

/-- A read that took three of the five seconds: the notice still has two when none is sent. -/
theorem slow_reads_announce_none :
    ∃ s, Reachable pollOptions s ∧
      s.polled = [{ announcementId := some notice.id, changed := true, recipients := 1 }] ∧
      s.roomSessions.map Session.id = [1] ∧ (∀ session ∈ s.roomSessions, session.Seated) ∧
      lastSentTo 1 s.sent = some { session := 1, announcement := none, sentAt := 3000 } ∧
      ∃ held, s.announcement = some held ∧ held.announcement = notice ∧ 3000 < held.expiresAt := by
  refine ⟨noticed 3000, reachable_noticed (by decide), by decide +kernel, by decide +kernel, ?_,
    by decide +kernel, _, rfl, rfl, by decide +kernel⟩
  unfold Session.Seated
  decide +kernel

end BiliSyncPlay.AnnouncementBroadcaster
