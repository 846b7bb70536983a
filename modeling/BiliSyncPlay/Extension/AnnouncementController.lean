import Mathlib.Data.List.DropRight
import Mathlib.Logic.Relation
import BiliSyncPlay.Protocol.Records

/-!
# The announcement a browser shows

`createAnnouncementController`: what the server announced last, whether it may be shown, and what
the toolbar and the pages were told of it. Times are readings of the monotonic clock.
-/

namespace BiliSyncPlay.AnnouncementController

open Json RedisRoomStore Protocol

/-- `setTimeout` takes a signed 32-bit delay. -/
def MAX_TIMER_DELAY_MS : Int := 2 ^ 31 - 1

def DISMISSED_ANNOUNCEMENT_LIMIT : Nat := 20

structure AnnouncementView where
  id : JsString
  level : AnnouncementLevel
  message : JsString
  scheduledAt : Option Int
  deriving DecidableEq

/-- The announcement as the server sends it. -/
structure Announcement extends AnnouncementView where
  expiresInMs : Int
  deriving DecidableEq

structure AnnouncementBadge where
  text : String
  color : String
  deriving DecidableEq

def ANNOUNCEMENT_BADGE_COLORS : AnnouncementLevel → String
  | .info => "#2563eb"
  | .warning => "#ea580c"

structure Current where
  view : AnnouncementView
  expiresAtMs : Int
  serverUrl : JsString
  deriving DecidableEq

/-- The state was broadcast in this room, for this server, at this time. -/
structure Told where
  roomCode : Option JsString
  serverUrl : JsString
  at_ : Int
  deriving DecidableEq

/-- The background of the extension, as far as the controller reads and writes it. -/
structure Background where
  roomCode : Option JsString := none
  serverUrl : JsString
  now : Int
  current : Option Current := none
  dismissedIds : List JsString := []
  /-- When the armed timer runs out. -/
  expiryTimer : Option Int := none
  lastPushedKey : Option (Option JsString) := none
  /-- What the toolbar shows; a service worker that starts finds what the last one left. -/
  badge : Option AnnouncementBadge := none
  /-- What the content scripts were told last. -/
  shown : Option AnnouncementView := none
  /-- The last refresh. -/
  told : Option Told := none
  deriving DecidableEq

namespace Background

/-- What may be shown in a room, for a server, at a time. -/
def visibleIn (roomCode : Option JsString) (serverUrl : JsString) (now : Int) (b : Background) :
    Option AnnouncementView :=
  match b.current with
  | none => none
  | some current =>
    if roomCode = none ∨ serverUrl ≠ current.serverUrl ∨ current.expiresAtMs ≤ now ∨
        current.view.id ∈ b.dismissedIds then none
    else some current.view

def getVisible (b : Background) : Option AnnouncementView :=
  b.visibleIn b.roomCode b.serverUrl b.now

def badgeOf (visible : AnnouncementView) : AnnouncementBadge :=
  ⟨"!", ANNOUNCEMENT_BADGE_COLORS visible.level⟩

def refresh (b : Background) : Background :=
  let visible := b.getVisible
  let key := visible.map AnnouncementView.id
  let b := { b with told := some ⟨b.roomCode, b.serverUrl, b.now⟩ }
  if b.lastPushedKey = some key then b
  else { b with lastPushedKey := some key, badge := visible.map badgeOf, shown := visible }

def scheduleExpiry (b : Background) : Background :=
  match b.current with
  | none => { b with expiryTimer := none }
  | some current =>
    let remainingMs := current.expiresAtMs - b.now
    { b with
      expiryTimer :=
        if remainingMs ≤ 0 then none else some (b.now + min remainingMs MAX_TIMER_DELAY_MS) }

/-- `notifyAll` starts with the refresh. -/
def receive (announcement : Option Announcement) (sourceServerUrl : JsString) (b : Background) :
    Background :=
  let current := announcement.map fun announcement =>
    { view := announcement.toAnnouncementView
      expiresAtMs := b.now + announcement.expiresInMs
      serverUrl := sourceServerUrl }
  refresh (scheduleExpiry { b with current })

/-- The callback of the timer. -/
def onExpiryTimer (b : Background) : Background :=
  refresh (scheduleExpiry { b with expiryTimer := none })

def hydrate (loaded : List JsString) (b : Background) : Background :=
  { b with dismissedIds := loaded.rtake DISMISSED_ANNOUNCEMENT_LIMIT }

def dismiss (id : JsString) (b : Background) : Background :=
  if id ∈ b.dismissedIds then b
  else
    let dismissedIds := (b.dismissedIds ++ [id]).rtake DISMISSED_ANNOUNCEMENT_LIMIT
    refresh { b with dismissedIds }

end Background

open Background

inductive Step : Background → Background → Prop where
  | receive (b : Background) (announcement : Option Announcement) (sourceServerUrl : JsString) :
    Step b (b.receive announcement sourceServerUrl)
  | dismiss (b : Background) (id : JsString) : Step b (b.dismiss id)
  | expiry (b : Background) (deadline : Int) (armed : b.expiryTimer = some deadline)
    (due : deadline ≤ b.now) : Step b b.onExpiryTimer
  | refresh (b : Background) : Step b b.refresh
  /-- A room is entered or left, or another server configured; a refresh follows some time. -/
  | move (b : Background) (roomCode : Option JsString) (serverUrl : JsString) :
    Step b { b with roomCode, serverUrl }
  | tick (b : Background) (now : Int) (later : b.now ≤ now) : Step b { b with now }

/-- A service worker that has just started, over whatever badge the last one left. -/
inductive Started : Background → Prop where
  | mk (roomCode : Option JsString) (serverUrl : JsString) (now : Int) (loaded : List JsString)
    (badge : Option AnnouncementBadge) :
    Started (({ roomCode, serverUrl, now, badge } : Background).hydrate loaded)

def Reachable (b : Background) : Prop := ∃ b₀, Started b₀ ∧ Relation.ReflTransGen Step b₀ b

/-- Steps of which so many are dismissals. -/
inductive Dismissing : Nat → Background → Background → Prop where
  | refl (b : Background) : Dismissing 0 b b
  | dismiss (count : Nat) (b b' : Background) (id : JsString) (before : Dismissing count b b') :
    Dismissing (count + 1) b (b'.dismiss id)
  | other (count : Nat) (b b' b'' : Background) (before : Dismissing count b b')
    (step : Step b' b'') (keeps : b''.dismissedIds = b'.dismissedIds) : Dismissing count b b''

/-! ## One refresh -/

section Refresh

variable {b b' : Background}

@[simp] theorem refresh_current (b : Background) : b.refresh.current = b.current := by
  unfold refresh
  dsimp only
  split <;> rfl

@[simp] theorem refresh_dismissedIds (b : Background) :
    b.refresh.dismissedIds = b.dismissedIds := by
  unfold refresh
  dsimp only
  split <;> rfl

@[simp] theorem refresh_expiryTimer (b : Background) : b.refresh.expiryTimer = b.expiryTimer := by
  unfold refresh
  dsimp only
  split <;> rfl

@[simp] theorem refresh_now (b : Background) : b.refresh.now = b.now := by
  unfold refresh
  dsimp only
  split <;> rfl

@[simp] theorem refresh_told (b : Background) :
    b.refresh.told = some ⟨b.roomCode, b.serverUrl, b.now⟩ := by
  unfold refresh
  dsimp only
  split <;> rfl

@[simp] theorem refresh_lastPushedKey (b : Background) :
    b.refresh.lastPushedKey = some (b.getVisible.map AnnouncementView.id) := by
  unfold refresh
  dsimp only
  split
  · assumption
  · rfl

theorem visibleIn_congr (current : b'.current = b.current)
    (dismissed : b'.dismissedIds = b.dismissedIds) (roomCode : Option JsString)
    (serverUrl : JsString) (now : Int) :
    b'.visibleIn roomCode serverUrl now = b.visibleIn roomCode serverUrl now := by
  unfold visibleIn
  rw [current, dismissed]

end Refresh

/-! ## What a run keeps -/

/-- The toolbar and the pages were told what was visible at the last refresh, and a timer is armed
no later than what could be visible then expires. -/
structure Valid (b : Background) : Prop where
  pushed : ∀ told, b.told = some told → told.at_ ≤ b.now ∧ b.lastPushedKey =
    some ((b.visibleIn told.roomCode told.serverUrl told.at_).map AnnouncementView.id)
  shown : ∀ key, b.lastPushedKey = some key →
    b.shown.map AnnouncementView.id = key ∧ b.badge = b.shown.map badgeOf
  armed : ∀ current, b.current = some current →
    (∃ deadline, b.expiryTimer = some deadline ∧ deadline ≤ current.expiresAtMs) ∨
      ∃ told, b.told = some told ∧ current.expiresAtMs ≤ told.at_
  delay : ∀ deadline, b.expiryTimer = some deadline → deadline ≤ b.now + MAX_TIMER_DELAY_MS

section Valid

variable {b b' : Background}

theorem valid_of_started (started : Started b) : Valid b := by
  cases started
  constructor <;> simp [hydrate]

/-- Whatever a refresh comes after: what was pushed agreed with what was shown, and a timer is
armed for what has not expired. -/
theorem valid_refresh
    (shown : ∀ key, b.lastPushedKey = some key →
      b.shown.map AnnouncementView.id = key ∧ b.badge = b.shown.map badgeOf)
    (armed : ∀ current, b.current = some current → b.now < current.expiresAtMs →
      ∃ deadline, b.expiryTimer = some deadline ∧ deadline ≤ current.expiresAtMs)
    (delay : ∀ deadline, b.expiryTimer = some deadline →
      deadline ≤ b.now + MAX_TIMER_DELAY_MS) : Valid b.refresh := by
  constructor
  · intro told at_
    rw [refresh_told] at at_
    cases at_
    rw [refresh_now, refresh_lastPushedKey,
      visibleIn_congr (refresh_current b) (refresh_dismissedIds b)]
    exact ⟨le_refl _, rfl⟩
  · intro key known
    unfold refresh at known ⊢
    dsimp only at known ⊢
    split at known
    · rename_i same
      rw [if_pos same]
      exact shown key known
    · rename_i other
      rw [if_neg other]
      cases known
      exact ⟨rfl, rfl⟩
  · intro current held
    rw [refresh_current] at held
    rw [refresh_told, refresh_expiryTimer]
    by_cases lives : b.now < current.expiresAtMs
    · exact .inl (armed current held lives)
    · exact .inr ⟨_, rfl, Int.not_lt.mp lives⟩
  · rw [refresh_expiryTimer, refresh_now]
    exact delay

theorem armed_scheduleExpiry (b : Background) (current : Current)
    (held : b.scheduleExpiry.current = some current)
    (lives : b.scheduleExpiry.now < current.expiresAtMs) :
    ∃ deadline, b.scheduleExpiry.expiryTimer = some deadline ∧ deadline ≤ current.expiresAtMs := by
  cases known : b.current with
  | none => simp [scheduleExpiry, known] at held
  | some own =>
    simp only [scheduleExpiry, known] at held lives ⊢
    obtain rfl : own = current := Option.some.inj held
    refine ⟨_, if_neg (by omega), ?_⟩
    omega

theorem delay_scheduleExpiry (b : Background) (deadline : Int)
    (armed : b.scheduleExpiry.expiryTimer = some deadline) :
    deadline ≤ b.scheduleExpiry.now + MAX_TIMER_DELAY_MS := by
  cases known : b.current with
  | none => simp [scheduleExpiry, known] at armed
  | some own =>
    simp only [scheduleExpiry, known] at armed ⊢
    split at armed
    · cases armed
    · cases armed
      omega

theorem shown_scheduleExpiry (b : Background) :
    b.scheduleExpiry.lastPushedKey = b.lastPushedKey ∧ b.scheduleExpiry.shown = b.shown ∧
      b.scheduleExpiry.badge = b.badge := by
  unfold scheduleExpiry
  split <;> exact ⟨rfl, rfl, rfl⟩

theorem valid_rescheduled
    (shown : ∀ key, b.lastPushedKey = some key →
      b.shown.map AnnouncementView.id = key ∧ b.badge = b.shown.map badgeOf) :
    Valid b.scheduleExpiry.refresh := by
  apply valid_refresh
  · obtain ⟨key, shows, badge⟩ := shown_scheduleExpiry b
    rw [key, shows, badge]
    exact shown
  · exact armed_scheduleExpiry b
  · exact delay_scheduleExpiry b

/-- A timer is armed for what lives. -/
theorem Valid.lives (h : Valid b) (current : Current) (held : b.current = some current)
    (lives : b.now < current.expiresAtMs) :
    ∃ deadline, b.expiryTimer = some deadline ∧ deadline ≤ current.expiresAtMs := by
  rcases h.armed current held with armed | ⟨told, known, expired⟩
  · exact armed
  · have earlier := (h.pushed told known).1
    omega

theorem Valid.refresh (h : Valid b) : Valid b.refresh := valid_refresh h.shown h.lives h.delay

theorem Valid.dismiss (h : Valid b) (id : JsString) : Valid (b.dismiss id) := by
  unfold Background.dismiss
  split
  · exact h
  · exact valid_refresh h.shown h.lives h.delay

theorem Valid.step (h : Valid b) (step : Step b b') : Valid b' := by
  cases step with
  | receive announcement sourceServerUrl => exact valid_rescheduled h.shown
  | dismiss id => exact h.dismiss id
  | expiry deadline armed due => exact valid_rescheduled h.shown
  | refresh => exact h.refresh
  | move roomCode serverUrl => exact ⟨h.pushed, h.shown, h.armed, h.delay⟩
  | tick now later =>
    refine ⟨?_, h.shown, h.armed, ?_⟩
    · intro told known
      obtain ⟨earlier, key⟩ := h.pushed told known
      exact ⟨le_trans earlier later, key⟩
    · intro deadline armed
      have delay := h.delay deadline armed
      dsimp only
      omega

theorem valid_of_reachable (reached : Reachable b) : Valid b := by
  obtain ⟨b₀, started, run⟩ := reached
  induction run with
  | refl => exact valid_of_started started
  | tail _ step valid => exact valid.step step

/-- With no timer due, what was visible at the last refresh is visible now. -/
theorem Valid.visible (h : Valid b) {told : Told} (known : b.told = some told)
    (room : told.roomCode = b.roomCode) (server : told.serverUrl = b.serverUrl)
    (quiet : ∀ deadline, b.expiryTimer = some deadline → b.now < deadline) :
    b.visibleIn told.roomCode told.serverUrl told.at_ = b.getVisible := by
  have earlier := (h.pushed told known).1
  unfold getVisible visibleIn
  rw [room, server]
  cases held : b.current with
  | none => rfl
  | some current =>
    have same : current.expiresAtMs ≤ told.at_ ↔ current.expiresAtMs ≤ b.now := by
      constructor
      · intro expired
        omega
      · intro expired
        rcases h.armed current held with ⟨deadline, armed, bound⟩ | ⟨other, known', expired⟩
        · have later := quiet deadline armed
          omega
        · rw [known] at known'
          cases known'
          exact expired
    simp only [same]

end Valid

/-! ## Dismissals -/

section Dismissals

variable {b b' : Background} {id : JsString} {count : Nat}

/-- The id is remembered, with at most so many behind it. -/
def Remembers (id : JsString) (count : Nat) (ids : List JsString) : Prop :=
  ∃ older newer, ids = older ++ id :: newer ∧ newer.length ≤ count

theorem remembers_rtake {ids : List JsString} (remembers : Remembers id count ids)
    (room : count < DISMISSED_ANNOUNCEMENT_LIMIT) :
    Remembers id count (ids.rtake DISMISSED_ANNOUNCEMENT_LIMIT) := by
  obtain ⟨older, newer, rfl, short⟩ := remembers
  unfold List.rtake
  rw [List.drop_append_of_le_length]
  · exact ⟨_, newer, rfl, short⟩
  · simp only [List.length_append, List.length_cons]
    omega

theorem remembers_dismiss (remembers : Remembers id count b.dismissedIds) (other : JsString)
    (room : count + 1 < DISMISSED_ANNOUNCEMENT_LIMIT) :
    Remembers id (count + 1) (b.dismiss other).dismissedIds := by
  obtain ⟨older, newer, ids, short⟩ := remembers
  unfold dismiss
  split
  · exact ⟨older, newer, ids, Nat.le_succ_of_le short⟩
  · rw [refresh_dismissedIds]
    apply remembers_rtake ?_ room
    refine ⟨older, newer ++ [other], by rw [ids, List.append_assoc, List.cons_append], ?_⟩
    simpa using short

theorem remembers_dismissed (fresh : id ∉ b.dismissedIds) :
    Remembers id 0 (b.dismiss id).dismissedIds := by
  unfold dismiss
  rw [if_neg fresh, refresh_dismissedIds]
  exact remembers_rtake ⟨b.dismissedIds, [], rfl, le_refl _⟩ (by decide)

theorem remembers_run (remembers : Remembers id 0 b.dismissedIds)
    (run : Dismissing count b b') (room : count < DISMISSED_ANNOUNCEMENT_LIMIT) :
    Remembers id count b'.dismissedIds := by
  induction run with
  | refl => exact remembers
  | dismiss count b b' other before ih =>
    exact remembers_dismiss (ih remembers (by omega)) other room
  | other count b b' b'' before step keeps ih =>
    rw [keeps]
    exact ih remembers room

theorem visible_undismissed {view : AnnouncementView} (visible : b.getVisible = some view) :
    view.id ∉ b.dismissedIds := by
  unfold getVisible visibleIn at visible
  split at visible
  · cases visible
  · split at visible
    · cases visible
    · rename_i hidden
      cases visible
      simp only [not_or] at hidden
      exact hidden.2.2.2

end Dismissals

/-! ## What was told in full -/

section Shown

variable {b b' : Background}

/-- A refresh tells the pages what is visible, or leaves them with what they were told. -/
theorem shown_refresh (b : Background) :
    b.refresh.shown = b.refresh.getVisible ∨ b.refresh.shown = b.shown := by
  have same : b.refresh.getVisible = b.getVisible := by
    unfold refresh
    dsimp only
    split <;> rfl
  rw [same]
  unfold refresh
  dsimp only
  split
  · exact .inr rfl
  · exact .inl rfl

theorem Step.shown (step : Step b b') : b'.shown = b'.getVisible ∨ b'.shown = b.shown := by
  cases step with
  | receive announcement sourceServerUrl =>
    unfold Background.receive
    refine (shown_refresh _).imp_right fun kept => ?_
    exact kept.trans (shown_scheduleExpiry _).2.1
  | dismiss id =>
    unfold Background.dismiss
    split
    · exact .inr rfl
    · exact shown_refresh _
  | expiry deadline armed due =>
    unfold Background.onExpiryTimer
    refine (shown_refresh _).imp_right fun kept => ?_
    exact kept.trans (shown_scheduleExpiry _).2.1
  | refresh => exact shown_refresh b
  | move roomCode serverUrl => exact .inr rfl
  | tick now later => exact .inr rfl

/-- What the pages were told last was visible, as it was told, at some moment of the run. -/
theorem shown_was_visible (reached : Reachable b) :
    ∃ b₁, Reachable b₁ ∧ Relation.ReflTransGen Step b₁ b ∧ b.shown = b₁.getVisible := by
  obtain ⟨b₀, started, run⟩ := reached
  induction run with
  | refl =>
    refine ⟨b₀, ⟨b₀, started, .refl⟩, .refl, ?_⟩
    cases started
    rfl
  | tail earlier step ih =>
    rcases step.shown with told | kept
    · exact ⟨_, ⟨b₀, started, earlier.tail step⟩, .refl, told⟩
    · obtain ⟨b₁, reached, later, was⟩ := ih
      exact ⟨b₁, reached, later.tail step, kept.trans was⟩

end Shown

/-- In the run so far, what was visible by this id was this very announcement. -/
def Told.Once (b : Background) (view : AnnouncementView) : Prop :=
  ∀ (b₁ : Background) (other : AnnouncementView), Reachable b₁ →
    Relation.ReflTransGen Step b₁ b → b₁.getVisible = some other → other.id = view.id →
      other = view

/-- An announcement for a tenth of a second, in a room. -/
def announced : Background :=
  ({ roomCode := some (js "ROOM"), serverUrl := js "wss://sync", now := 0 } : Background).receive
    (some ⟨⟨js "maintenance", .warning, js "Back soon.", none⟩, 100⟩) (js "wss://sync")

def expired : Background := { announced with now := 100 }.onExpiryTimer

end BiliSyncPlay.AnnouncementController
