import BiliSyncPlay.Extension.Shares
import BiliSyncPlay.Extension.Intent

/-!
# Shares and their confirmation

While the marker of a share is set, something can still confirm it: the share waits to be written,
or it was written to a socket whose close has not been handled.
-/

namespace BiliSyncPlay.Connection

open Json Protocol
open PlaybackAnchors (PlaybackState)
open RedisRoomStore (js)

variable {P : Platform} {s t : Worker}

/-! ## Sockets that have not closed -/

def Open (sockets : Nat → Option Socket) (g : Nat) : Prop :=
  ∃ socket, sockets g = some socket ∧ socket.closed = false

variable {g : Nat} {sockets : Nat → Option Socket}

theorem open_of_setSocket {l : Link} {c : Nat} {next : Socket} (same : g = c → next.closed = false)
    (opens : Open l.sockets g) :
    Open (l.setSocket c next).sockets g := by
  obtain ⟨socket, held, stays⟩ := opens
  have at_g : (l.setSocket c next).sockets g = if g = c then some next else l.sockets g :=
    Function.update_apply ..
  by_cases is_c : g = c
  · exact ⟨next, at_g.trans (if_pos is_c), same is_c⟩
  · exact ⟨socket, (at_g.trans (if_neg is_c)).trans held, stays⟩

theorem open_of_moves {l m : Link} (moved : Moves P l m) (opens : Open l.sockets g) :
    Open m.sockets g := by
  induction moved with
  | refl => exact opens
  | tail _ last ih =>
    cases last with
    | begins | advances | ends | drops | tearsDown => exact ih
    | fades c socket faded held _ same =>
      obtain ⟨was, is_was, stays⟩ := ih
      refine open_of_setSocket (fun is_c => ?_) ⟨was, is_was, stays⟩
      rw [is_c, held] at is_was
      cases is_was
      exact same.trans stays

/-- Only the close event of a socket closes it for good. -/
theorem open_of_changes {event : Event} (changes : s.Changes P t event) (opens : Open s.sockets g)
    (other : ∀ code reason, event ≠ .closes g code reason) :
    Open t.sockets g := by
  cases changes with
  | moves _ moved => exact open_of_moves moved opens
  | closes c socket held code reason moved =>
    refine open_of_moves moved (open_of_setSocket (l := s.link) (fun is_c => ?_) opens)
    subst is_c
    exact absurd rfl (other code reason)
  | creates id probe held current answer created =>
    have at_g : t.link.sockets g = if g = s.link.socketGeneration + 1 then
        some { url := probe.serverUrl, probe := id } else s.sockets g := by
      rw [created]
      exact Function.update_apply ..
    obtain ⟨socket, is_socket, stays⟩ := opens
    by_cases is_new : g = s.link.socketGeneration + 1
    · exact ⟨_, at_g.trans (if_pos is_new), rfl⟩
    · exact ⟨socket, (at_g.trans (if_neg is_new)).trans is_socket, stays⟩
  | redirects _ _ _ _ redirected =>
    have same : t.sockets = s.sockets := congrArg Link.sockets redirected
    rw [same]
    exact opens

theorem open_of_writable (linked : Linked P s.link) (current : s.connection.socket = some g)
    (writable : s.isSocketWritable = true) :
    Open s.sockets g := by
  obtain ⟨socket, held, is_open⟩ := (Option.any_eq_true ..).mp writable
  unfold Worker.currentSocket at held
  rw [current, Option.bind_some] at held
  have is_live : socket.isLive = true := by
    unfold Socket.isLive
    rw [of_decide_eq_true is_open]
    rfl
  exact ⟨socket, held, linked.alive g socket held is_live⟩

/-! ## Markers -/

/-- A share of the marker's URL was written to the socket that the marker names, and the close of
that socket is still to come. -/
def Desk.IsWritten (d : Desk) (sockets : Nat → Option Socket) : Prop :=
  ∃ frame ∈ d.written, d.pendingLocalShareGeneration = some frame.socket ∧
    d.pendingLocalShareUrl = some frame.share.video.url ∧ Open sockets frame.socket

structure Marked (d : Desk) (sockets : Nat → Option Socket) : Prop where
  timer : d.pendingLocalShareTimer = d.pendingLocalShareExpiresAt
  expires : d.isPending = true → d.pendingLocalShareExpiresAt.isSome = true
  queued : ∀ share url, d.pendingSharedVideo = some share → d.pendingLocalShareUrl = some url →
    share.video.url = url
  written : d.isPending = true → d.pendingSharedVideo = none → d.IsWritten sockets

namespace Marked

variable {e : Desk}

theorem of_cleared {d : Desk} (cleared : d.Cleared e)
    (timer : d.pendingLocalShareTimer = d.pendingLocalShareExpiresAt)
    (queued : ∀ share url, d.pendingSharedVideo = some share →
      d.pendingLocalShareUrl = some url → share.video.url = url) : Marked e sockets where
  timer := by
    rcases cleared.timer with ⟨none_timer, none_expires⟩ | ⟨same_timer, same_expires⟩
    · rw [none_timer, none_expires]
    · rw [same_timer, same_expires, timer]
  expires := fun pending => nomatch cleared.unmarked.symm.trans pending
  queued := fun share url is_queued is_url => by
    rw [cleared.queue] at is_queued
    rcases cleared.url with absent | same
    · cases absent.symm.trans is_url
    · exact queued share url is_queued (same ▸ is_url)
  written := fun pending => nomatch cleared.unmarked.symm.trans pending

section
variable (linked : Linked P s.link)
include linked

/-- What a share leaves is marked: it waits, or it was written. -/
theorem shared {video : SharedVideo} {playback : Option PlaybackState} {auto : Bool}
    (marked : Marked s.desk s.sockets) (shared : Shared s video playback auto e)
    (opens : ∀ g, Open s.sockets g → Open sockets g) :
    Marked e sockets := by
  cases shared with
  | refused =>
    exact {
      timer := marked.timer, expires := marked.expires, queued := marked.queued
      written := fun pending empty => by
        obtain ⟨frame, mem, is_g, url, is_open⟩ := marked.written pending empty
        exact ⟨frame, mem, is_g, url, opens _ is_open⟩ }
  | written g current can =>
    refine { timer := rfl, expires := fun _ => rfl, queued := ?_, written := fun _ _ => ?_ }
    · intro share url queued is_url
      obtain ⟨_, _, rfl⟩ := Option.map_eq_some_iff.mp queued
      exact Option.some.inj is_url
    · have latest : g = s.connection.socketGeneration := linked.latest g current
      exact ⟨_, List.mem_append_right _ (List.mem_singleton_self _), congrArg some latest.symm, rfl,
        opens g (open_of_writable linked current (Worker.writable_of_canShare can))⟩
  | queued =>
    refine { timer := rfl, expires := fun _ => rfl, queued := ?_, written := fun _ => nofun }
    intro share url queued is_url
    obtain rfl := Option.some.inj queued
    exact Option.some.inj is_url

theorem flushed {share : Share} (marked : Marked s.desk s.sockets) (flushed : Flushed s share g e)
    (opens : ∀ g, Open s.sockets g → Open sockets g) :
    Marked e sockets := by
  obtain ⟨is_queued, current, writable, rfl⟩ := flushed
  refine {
    timer := marked.timer, expires := marked.expires, queued := fun _ _ => nofun
    written := fun pending _ => ?_ }
  have latest : g = s.connection.socketGeneration := linked.latest g current
  obtain ⟨url, is_url, -⟩ := (Option.any_eq_true ..).mp pending
  have has_url : s.shareState.pendingLocalShareUrl = some url := is_url
  have same := marked.queued share url is_queued is_url
  refine ⟨_, List.mem_append_right _ (List.mem_singleton_self _), ?_, ?_,
    opens g (open_of_writable linked current writable)⟩
  · dsimp only
    rw [has_url, latest]
    rfl
  · rw [same]
    exact is_url

theorem deal {event : Event} (marked : Marked s.desk s.sockets) (deal : Deal s event e)
    (opens : ∀ g, Open s.sockets g → (∀ code reason, event ≠ .closes g code reason) →
      Open sockets g) : Marked e sockets := by
  cases deal with
  | keeps unclosed =>
    refine {
      timer := marked.timer, expires := marked.expires, queued := marked.queued
      written := fun pending empty => ?_ }
    obtain ⟨frame, mem, is_g, url, is_open⟩ := marked.written pending empty
    refine ⟨frame, mem, is_g, url, opens _ is_open fun code reason closes => ?_⟩
    rcases unclosed _ code reason closes with queued | other
    · rw [show s.room.pendingSharedVideo = none from empty] at queued
      cases queued
    · exact other is_g
  | clears _ cleared => exact of_cleared cleared marked.timer marked.queued
  | discards _ _ cleared => exact of_cleared cleared marked.timer fun _ _ => nofun
  | shares auto asks video playback _ shared =>
    refine marked.shared linked shared fun g is_open => opens g is_open fun code reason same => ?_
    subst same
    cases asks
  | flushes task resumes share g _ flushed =>
    refine marked.flushed linked flushed fun g is_open => opens g is_open fun code reason same => ?_
    cases resumes.symm.trans same

theorem exec {now : Rat} {event : Event} (marked : Marked s.desk s.sockets)
    (step : s.exec P now event = some t) :
    Marked t.desk t.sockets := by
  have linked_now : Linked P (s.atTime now).link := linked
  have marked_now : Marked (s.atTime now).desk (s.atTime now).sockets := marked
  exact marked_now.deal linked_now (Worker.deal_take (take_of_exec step)) fun g is_open other =>
    open_of_changes (changes_exec step) is_open other

theorem run (marked : Marked s.desk s.sockets) (run : Run P s t) :
    Linked P t.link ∧ Marked t.desk t.sockets := by
  induction run with
  | refl => exact ⟨linked, marked⟩
  | tail _ last ih =>
    obtain ⟨now, event, step⟩ := last
    exact ⟨ih.1.exec step, ih.2.exec ih.1 step⟩

end

end Marked

theorem marked_of_unmarked {d : Desk}
    (unmarked : d.pendingLocalShareUrl = none ∧ d.pendingLocalShareExpiresAt = none ∧
      d.pendingLocalShareTimer = none) : Marked d sockets := by
  have absent : d.isPending = false := by
    unfold Desk.isPending
    rw [unmarked.1]
    rfl
  exact {
    timer := unmarked.2.2.trans unmarked.2.1.symm
    expires := fun pending => nomatch absent.symm.trans pending
    queued := fun _ _ _ is_url => nomatch unmarked.1.symm.trans is_url
    written := fun pending => nomatch absent.symm.trans pending }

theorem marked_bootstrap (persisted : PersistedSnapshot) :
    Marked (bootstrapBackground P persisted).desk (bootstrapBackground P persisted).sockets := by
  apply marked_of_unmarked
  unfold bootstrapBackground
  dsimp only
  split
  · rw [Worker.desk_connect]
    exact ⟨rfl, rfl, rfl⟩
  · exact ⟨rfl, rfl, rfl⟩

/-! ## Confirmations -/

/-- The expiry timer of the marker is armed, and its share waits to be written, or was written to
the socket that the marker names, whose close has not been handled. -/
def Worker.AwaitsConfirmation (s : Worker) : Prop :=
  (∃ due, s.shareState.pendingLocalShareTimer = some due ∧
    s.shareState.pendingLocalShareExpiresAt = some due) ∧
  ((∃ share, s.room.pendingSharedVideo = some share ∧
      s.shareState.pendingLocalShareUrl = some share.video.url) ∨
    ∃ g memberToken share playback socket, s.shareState.pendingLocalShareGeneration = some g ∧
      { socket := g, message := .share memberToken share playback } ∈ s.sent ∧
      s.shareState.pendingLocalShareUrl = some share.video.url ∧
      s.sockets g = some socket ∧ socket.closed = false)

theorem mem_sent_of_written {frame : WrittenShare} (mem : frame ∈ s.desk.written) :
    ∃ memberToken, {
      socket := frame.socket
      message := .share memberToken frame.share frame.playback } ∈ s.sent := by
  obtain ⟨⟨socket, message⟩, is_sent, is_share⟩ := List.mem_filterMap.mp mem
  unfold Sent.share? at is_share
  cases message with
  | share memberToken share playback =>
    cases is_share
    exact ⟨memberToken, is_sent⟩
  | _ => cases is_share

theorem awaitsConfirmation_of_marked (marked : Marked s.desk s.sockets)
    (pending : s.isPending = true) : s.AwaitsConfirmation := by
  obtain ⟨due, expires⟩ := Option.isSome_iff_exists.mp (marked.expires pending)
  refine ⟨⟨due, marked.timer.trans expires, expires⟩, ?_⟩
  obtain ⟨url, is_url, -⟩ := (Option.any_eq_true ..).mp pending
  cases queued : s.room.pendingSharedVideo with
  | some share =>
    have same := marked.queued share url queued is_url
    exact .inl ⟨share, rfl, same ▸ is_url⟩
  | none =>
    obtain ⟨frame, mem, is_g, is_share, socket, held, stays⟩ := marked.written pending queued
    obtain ⟨memberToken, is_sent⟩ := mem_sent_of_written mem
    exact .inr ⟨_, memberToken, _, _, socket, is_g, is_sent, is_share, held, stays⟩

theorem isPending_of_active {url : Option JsString} {normalizedUrl : JsString}
    (active : s.getActivePendingLocalShareUrl = url)
    (normalized : normalizeSharedVideoUrl P url = some normalizedUrl) : s.isPending = true := by
  unfold Worker.getActivePendingLocalShareUrl at active
  split at active
  · next marker expiresAt is_url _ =>
    split at active
    · next set =>
      unfold Worker.isPending
      rw [is_url]
      exact decide_eq_true set.1
    · subst active
      cases normalized
  · subst active
    cases normalized

/-- A room state that the background hears is applied, unless a share awaits its confirmation. -/
theorem applied_or_pending {now : Rat} {nextState : RoomState}
    (step : s.exec P now (.receives g (.state nextState)) = some t)
    (current : s.connection.socket = some g) (valid : nextState.roomCode ≠ "") :
    t.room.roomState = some nextState ∨ t.isPending = true := by
  have taken := take_of_exec step
  unfold Worker.take at taken
  dsimp only at taken
  split at taken
  · split at taken <;> cases taken
    have is_message : isServerMessage (.state nextState) = true := decide_eq_true valid
    unfold Worker.onMessage
    rw [if_neg (by exact not_not.mpr current), is_message, if_neg (by decide)]
    unfold Worker.handleServerMessage Worker.handleRoomStateMessage
    dsimp only
    generalize (s.atTime now).expirePendingLocalShareIfNeeded = e
    split
    · next suppressed =>
      obtain ⟨url, normalized⟩ := Option.isSome_iff_exists.mp suppressed.1
      exact .inr (isPending_of_active rfl normalized)
    · refine .inl ?_
      split
      · unfold Worker.clearPendingLocalShare Worker.forgetPendingLocalShare
        dsimp only
        split <;> rfl
      · rfl
  · cases taken

/-- In every state that the background reaches, a marker that is set awaits a confirmation that
can still come; and no room state is held back for any other marker. -/
theorem marker_awaits_confirmation {persisted : PersistedSnapshot}
    (run : Run P (bootstrapBackground P persisted) s) :
    (s.isPending = true → s.AwaitsConfirmation) ∧
      ∀ now g nextState t, s.exec P now (.receives g (.state nextState)) = some t →
        s.connection.socket = some g → nextState.roomCode ≠ "" →
          t.room.roomState = some nextState ∨ t.isPending = true ∧ t.AwaitsConfirmation := by
  obtain ⟨linked, marked⟩ :=
    Marked.run (linked_bootstrap persisted) (marked_bootstrap persisted) run
  refine ⟨awaitsConfirmation_of_marked marked, fun now g nextState t step current valid => ?_⟩
  have later := marked.exec linked step
  exact (applied_or_pending step current valid).imp_right fun pending =>
    ⟨pending, awaitsConfirmation_of_marked later pending⟩

/-- A share waits for a socket that is lost before the member is back, and is written to the one
that replaces it. -/
def resent : List Event :=
  [.shares { url := js "https://www.bilibili.com/video/BV1xx411c7mD" } none none] ++ reaches 0 ++
    [.opens 1, .closes 1 1006 [], .connects] ++ reaches 1 ++ [.opens 2, rejoined 2, .resumes 0]

theorem shared_video_awaits_confirmation : ∃ s,
    replay browser (bootstrapBackground browser restored) resent = some s ∧
      s.room.pendingSharedVideo = none ∧ s.isPending = true ∧ s.AwaitsConfirmation := by
  have ends : (replay browser (bootstrapBackground browser restored) resent).any
      (fun s => s.room.pendingSharedVideo.isNone && s.isPending) = true := by decide +kernel
  obtain ⟨s, replayed, holds⟩ := (Option.any_eq_true ..).mp ends
  obtain ⟨flushed, pending⟩ := Bool.and_eq_true_iff.mp holds
  exact ⟨s, replayed, Option.isNone_iff_eq_none.mp flushed, pending,
    (marker_awaits_confirmation (run_replay replayed)).1 pending⟩

end BiliSyncPlay.Connection
