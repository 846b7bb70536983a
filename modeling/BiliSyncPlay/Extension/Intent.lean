import BiliSyncPlay.Extension.Sockets

/-!
# Sockets and the current intent

A socket is opened for the server URL that is configured, and not after the session it was sought
for was left: in every run in which the server URL is not changed while a probe is under way.
-/

namespace BiliSyncPlay.Connection

open Json Protocol
open RedisRoomStore (js)

variable {P : Platform} {s t : Worker}

/-- The probe can still create a socket. -/
def Worker.CanCreate (s : Worker) (p : Nat) : Prop :=
  ∃ probe, s.probes p = some probe ∧ s.isProbeAborted probe = false

/-- The socket whose event it is. -/
def Event.socket : Event → Option Nat
  | .opens socket | .receives socket _ | .fails socket | .closes socket _ _ => some socket
  | _ => none

/-- What the user is told of the connection, and what is kept of its retries. -/
structure SameStatus (s t : Worker) : Prop where
  connected : t.connection.connected = s.connection.connected
  lastError : t.connection.lastError = s.connection.lastError
  reconnectTimer : t.connection.reconnectTimer = s.connection.reconnectTimer
  reconnectAttempt : t.connection.reconnectAttempt = s.connection.reconnectAttempt
  reconnectDeadlineMs : t.connection.reconnectDeadlineMs = s.connection.reconnectDeadlineMs
  serverRestarting : t.connection.serverRestarting = s.connection.serverRestarting

/-- The background opens sockets for the current intent only. -/
structure OpensForIntent (P : Platform) (s : Worker) : Prop where
  opened : ∀ now event t, s.exec P now event = some t →
    ∀ g socket, s.sockets g = none → t.sockets g = some socket →
      validateServerUrl P t.connection.serverUrl = some socket.url ∧
      ∃ probe, s.probes socket.probe = some probe ∧ probe.teardowns = t.teardowns
  one : ∀ p q, s.CanCreate p → s.CanCreate q → p = q
  superseded : ∀ now event t g, s.exec P now event = some t → event.socket = some g →
    s.connection.socket ≠ some g → event.isAdminReset = false → SameStatus s t
  reset : ∀ now event t, s.exec P now event = some t → event.isAdminReset = true →
    t.connection.socket = none ∧ (∀ g socket, t.sockets g = some socket → socket.isLive = false) ∧
      ∀ p, ¬ t.CanCreate p

/-- The server URL is not changed while a probe is under way. -/
def Unredirected (P : Platform) (s : Worker) (event : Event) : Prop :=
  ∀ nextServerUrl serverUrl, event = .updateServerUrl nextServerUrl →
    validateServerUrl P nextServerUrl = some serverUrl → serverUrl ≠ s.connection.serverUrl →
      s.connection.connectProbe = none

def StepUnredirected (P : Platform) (s t : Worker) : Prop :=
  ∃ now event, Unredirected P s event ∧ s.exec P now event = some t

/-! ## Probes of the configured server -/

/-- A probe that can still create a socket is one for the configured server URL. -/
def Targeted (P : Platform) (l : Link) : Prop :=
  ∀ p probe, l.probes p = some probe → probe.epoch = l.connectEpoch →
    validateServerUrl P l.serverUrl = some probe.serverUrl

theorem Targeted.move {l m : Link} (linked : Linked P l) (targeted : Targeted P l)
    (move : Move P l m) : Targeted P m := by
  intro p probe held current
  cases move with
  | begins _ _ normalizedUrl serverUrl normalized valid =>
    have at_p : (l.begin serverUrl).probes p = if p = l.probeCount then
        some { serverUrl, epoch := l.connectEpoch, teardowns := l.teardowns }
      else l.probes p := Function.update_apply ..
    rw [at_p] at held
    split at held
    · cases held
      rw [validate_validate linked.settled normalized] at valid
      exact normalized.trans valid
    · exact targeted p probe held current
  | advances id other is_other stage =>
    have at_p : (l.setProbe id { other with stage }).probes p =
        if p = id then some { other with stage } else l.probes p := Function.update_apply ..
    rw [at_p] at held
    split at held
    · cases held
      exact targeted id other is_other current
    · exact targeted p probe held current
  | ends id => exact targeted p probe (Linked.of_endProbe held).2 current
  | fades | drops => exact targeted p probe held current
  | tearsDown =>
    have bound := linked.past p probe held
    have ahead : probe.epoch = l.connectEpoch + 1 := current
    omega

theorem Targeted.moves {l m : Link} (linked : Linked P l) (targeted : Targeted P l)
    (moved : Moves P l m) : Targeted P m := by
  induction moved with
  | refl => exact targeted
  | tail before last ih => exact ih.move (linked.moves before) last

variable {event : Event} {now : Rat}

theorem Targeted.exec (linked : Linked P s.link) (targeted : Targeted P s.link)
    (unredirected : Unredirected P s event) (step : s.exec P now event = some t) :
    Targeted P t.link := by
  cases changes_exec step with
  | moves _ moved => exact targeted.moves linked moved
  | closes g socket held _ _ moved =>
    exact Targeted.moves (linked.fades held fun live => by cases live) targeted moved
  | creates id probe held current _ created =>
    rw [created]
    intro p other is_other is_current
    exact targeted p other (Linked.of_endProbe is_other).2 is_current
  | redirects nextServerUrl serverUrl valid other redirected =>
    have idle : s.link.connectProbe = none := unredirected _ _ rfl valid other
    rw [redirected]
    intro p probe held current
    have probing := linked.only p probe held current
    rw [idle] at probing
    cases probing

theorem targeted_bootstrap (persisted : PersistedSnapshot) :
    Targeted P (bootstrapBackground P persisted).link := by
  obtain ⟨l, linked, empty, moved⟩ := moves_bootstrap (P := P) persisted
  have targeted : Targeted P l := fun p probe held => by
    rw [empty] at held
    cases held
  exact targeted.moves linked moved

/-! ## Sockets -/

theorem canCreate_iff (s : Worker) (p : Nat) :
    s.CanCreate p ↔ ∃ probe, s.probes p = some probe ∧ probe.epoch = s.connection.connectEpoch := by
  have current (probe : Probe) :
      s.isProbeAborted probe = false ↔ probe.epoch = s.connection.connectEpoch := by
    unfold Worker.isProbeAborted
    rw [decide_eq_false_iff_not, not_not, eq_comm]
  unfold Worker.CanCreate
  simp only [current]

theorem sockets_of_moves {l m : Link} (moved : Moves P l m) (g : Nat)
    (absent : l.sockets g = none) : m.sockets g = none := by
  induction moved with
  | refl => exact absent
  | tail _ last ih =>
    cases last with
    | begins | advances | ends | drops | tearsDown => exact ih
    | fades generation socket faded held =>
      have other : g ≠ generation := fun same => by
        rw [← same, ih] at held
        cases held
      exact (Function.update_of_ne other ..).trans ih

theorem opened_exec (linked : Linked P s.link) (targeted : Targeted P s.link)
    (step : s.exec P now event = some t) {g : Nat} {socket : Socket} (absent : s.sockets g = none)
    (opened : t.sockets g = some socket) :
    validateServerUrl P t.connection.serverUrl = some socket.url ∧
      ∃ probe, s.probes socket.probe = some probe ∧ probe.teardowns = t.teardowns := by
  cases changes_exec step with
  | moves _ moved =>
    rw [show t.sockets g = none from sockets_of_moves moved g absent] at opened
    cases opened
  | closes c closed held _ _ moved =>
    have other : g ≠ c := fun same => by cases (same ▸ absent).symm.trans held
    have still : (s.link.setSocket c { closed with readyState := .CLOSED, closed := true }).sockets
        g = none := (Function.update_of_ne other ..).trans absent
    rw [show t.sockets g = none from sockets_of_moves moved g still] at opened
    cases opened
  | creates id probe held current _ created =>
    have is_socket : t.link.sockets g = some socket := opened
    have serverUrl : t.link.serverUrl = s.link.serverUrl := by rw [created]; rfl
    have teardowns : t.link.teardowns = s.link.teardowns := by rw [created]; rfl
    have at_g : t.link.sockets g = if g = s.link.socketGeneration + 1 then
        some { url := probe.serverUrl, probe := id } else s.sockets g := by
      rw [created]
      exact Function.update_apply ..
    rw [at_g] at is_socket
    split at is_socket
    · cases is_socket
      have target := targeted id probe held current
      rw [← serverUrl] at target
      exact ⟨target, probe, held, (linked.standing id probe held current).trans teardowns.symm⟩
    · rw [absent] at is_socket
      cases is_socket
  | redirects _ serverUrl _ _ redirected =>
    have same : t.sockets g = s.sockets g := congrFun (congrArg Link.sockets redirected) g
    rw [same, absent] at opened
    cases opened

theorem SameStatus.of_connection (same : t.connection = s.connection) : SameStatus s t := by
  constructor <;> rw [same]

theorem connection_clearPendingLocalShare (s : Worker) :
    s.clearPendingLocalShare.connection = s.connection := by
  unfold Worker.clearPendingLocalShare Worker.forgetPendingLocalShare
  dsimp only
  split <;> rfl

theorem superseded_exec (step : s.exec P now event = some t) {g : Nat}
    (is_event : event.socket = some g) (other : s.connection.socket ≠ some g)
    (plain : event.isAdminReset = false) : SameStatus s t := by
  have taken := take_of_exec step
  unfold Worker.take at taken
  cases event with
  | opens generation =>
    cases is_event
    dsimp only at taken
    split at taken
    · split at taken <;> cases taken
      unfold Worker.onOpen
      rw [if_pos (by exact other)]
      exact .of_connection rfl
    · cases taken
  | receives generation message =>
    cases is_event
    dsimp only at taken
    split at taken
    · split at taken <;> cases taken
      unfold Worker.onMessage
      rw [if_pos (by exact other)]
      exact .of_connection rfl
    · cases taken
  | fails generation =>
    cases is_event
    dsimp only at taken
    split at taken
    · split at taken <;> cases taken
      unfold Worker.onError
      rw [if_pos (by exact other)]
      exact .of_connection rfl
    · cases taken
  | closes generation code reason =>
    cases is_event
    have no_reset : formatAdminSessionResetReason reason = none :=
      Option.isSome_eq_false_iff.mp plain |> Option.isNone_iff_eq_none.mp
    dsimp only at taken
    split at taken
    · split at taken <;> cases taken
      unfold Worker.onClose
      rw [no_reset]
      dsimp only
      rw [if_pos (by exact other)]
      unfold Worker.closeSuperseded
      split
      · exact .of_connection (connection_clearPendingLocalShare _)
      · exact .of_connection rfl
    · cases taken
  | _ => cases is_event

theorem link_dropSocket (s : Worker) :
    s.dropSocket.link.socket = none ∧ s.dropSocket.link.connectEpoch = s.connection.connectEpoch ∧
      s.dropSocket.link.probes = s.probes := by
  unfold Worker.dropSocket Worker.closeSocket
  dsimp only
  split
  · exact ⟨rfl, rfl, rfl⟩
  · split
    · split <;> exact ⟨rfl, rfl, rfl⟩
    · exact ⟨rfl, rfl, rfl⟩

theorem link_resetAdminSession (s : Worker) (generation : Nat) (message : Notice) :
    (s.resetAdminSession generation message).link.socket = none ∧
      (s.resetAdminSession generation message).link.connectEpoch = s.connection.connectEpoch + 1 ∧
      (s.resetAdminSession generation message).link.probes = s.probes := by
  unfold Worker.resetAdminSession
  dsimp only
  rw [Worker.link_clearCurrentRoomContext]
  split
  · exact ⟨rfl, rfl, rfl⟩
  · exact link_dropSocket _

theorem reset_exec (linked : Linked P s.link) (step : s.exec P now event = some t)
    (reset : event.isAdminReset = true) :
    t.connection.socket = none ∧ (∀ g socket, t.sockets g = some socket → socket.isLive = false) ∧
      ∀ p, ¬ t.CanCreate p := by
  have after := linked.exec step
  have ended : t.link.socket = none ∧ t.link.connectEpoch = s.connection.connectEpoch + 1 ∧
      t.link.probes = s.probes := by
    have taken := take_of_exec step
    unfold Worker.take at taken
    cases event with
    | closes generation code reason =>
      obtain ⟨message, is_reset⟩ := Option.isSome_iff_exists.mp reset
      dsimp only at taken
      split at taken
      · split at taken <;> cases taken
        unfold Worker.onClose
        rw [is_reset]
        exact link_resetAdminSession _ generation message
      · cases taken
    | _ => cases reset
  obtain ⟨socketless, epoch, probes⟩ := ended
  refine ⟨socketless, fun g socket held => ?_, fun p can => ?_⟩
  · refine Bool.eq_false_of_not_eq_true fun is_live => ?_
    have is_current := after.live g socket held is_live
    rw [socketless] at is_current
    cases is_current
  · obtain ⟨probe, held, current⟩ := (canCreate_iff t p).mp can
    have was : s.link.probes p = some probe := (congrFun probes p).symm.trans held
    have bound : probe.epoch ≤ s.connection.connectEpoch := linked.past p probe was
    have ahead : probe.epoch = s.connection.connectEpoch + 1 := current.trans epoch
    omega

/-! ## Runs -/

theorem linked_and_targeted
    (run : Relation.ReflTransGen (StepUnredirected P) s t) (linked : Linked P s.link)
    (targeted : Targeted P s.link) : Linked P t.link ∧ Targeted P t.link := by
  induction run with
  | refl => exact ⟨linked, targeted⟩
  | tail _ last ih =>
    obtain ⟨now, event, unredirected, step⟩ := last
    exact ⟨ih.1.exec step, ih.2.exec ih.1 unredirected step⟩

/-- In every run that does not change the server URL under a probe, sockets are opened for the
current intent only. -/
theorem sockets_are_for_the_current_intent {persisted : PersistedSnapshot}
    (run : Relation.ReflTransGen (StepUnredirected P) (bootstrapBackground P persisted) s) :
    OpensForIntent P s := by
  obtain ⟨linked, targeted⟩ := linked_and_targeted run (linked_bootstrap persisted)
    (targeted_bootstrap persisted)
  exact {
    opened := fun _ _ _ step _ _ absent opened => opened_exec linked targeted step absent opened
    one := fun p q first second => by
      obtain ⟨_, held, current⟩ := (canCreate_iff s p).mp first
      obtain ⟨_, is_held, is_current⟩ := (canCreate_iff s q).mp second
      have same := (linked.only p _ held current).symm.trans (linked.only q _ is_held is_current)
      exact Option.some.inj same
    superseded := fun _ _ _ _ step is_event other plain => superseded_exec step is_event other plain
    reset := fun _ _ _ step reset => reset_exec linked step reset }

/-! ## Runs on fixed inputs -/

/-- `new URL` on the addresses below. -/
def browser : Platform where
  defaultServerUrl := js "ws://localhost:8787"
  protocol := fun url => some (url.takeWhile (· ≠ 58) ++ [58])
  extensionOrigin := js "chrome-extension://sync"
  normalizeBilibiliUrl := some

/-- A session of a room on the default server, as it is restored. -/
def restored : PersistedSnapshot where
  roomCode := some "ROOM0A"
  joinToken := some "join-token"
  memberToken := some "member-token"
  memberId := some (js "member")
  roomState := none
  serverUrl := none
  filled := by decide
  roomed := fun _ absent => nomatch absent

/-- A probe finds the server reachable. -/
def reaches (probe : Nat) : List Event :=
  [.answers probe (.responds 404), .answers probe (.responds 200)]

/-- The member of the restored session is let into its room again. -/
def rejoined (socket : Nat) : Event :=
  .receives socket (.joined "ROOM0A" "member-token" (js "member"))

def idleFor (s : Worker) : Event → Bool
  | .updateServerUrl _ => s.connection.connectProbe.isNone
  | _ => true

/-- A restored session is connected, moves to another server and leaves its room while that one is
probed. The next connection is reset by an admin, and the user connects once more. -/
def relocates : List Event :=
  reaches 0 ++ [.opens 1, .updateServerUrl (js "wss://other.example"), .resumes 0, .leaveRoom,
    .connects] ++ reaches 2 ++ [.opens 2, .closes 2 1000 (js "Admin closed room"), .connects] ++
    reaches 3

theorem restored_session_opens_its_socket : ∃ s,
    checkedReplay (fun s event => idleFor s event = true) browser
      (bootstrapBackground browser restored) relocates = some s ∧
      s.connection.socket = some 3 ∧ OpensForIntent browser s := by
  have ends : (checkedReplay (fun s event => idleFor s event = true) browser
      (bootstrapBackground browser restored) relocates).any
      (fun s => decide (s.connection.socket = some 3)) = true := by decide +kernel
  obtain ⟨s, replayed, holds⟩ := (Option.any_eq_true ..).mp ends
  have run : Relation.ReflTransGen (StepUnredirected browser)
      (bootstrapBackground browser restored) s := by
    refine (run_of_checkedReplay _ replayed).lift id fun s t ⟨now, event, idle, step⟩ =>
      ⟨now, event, ?_, step⟩
    rintro nextServerUrl serverUrl rfl - -
    exact Option.isNone_iff_eq_none.mp idle
  exact ⟨s, replayed, of_decide_eq_true holds, sockets_are_for_the_current_intent run⟩

/-- The user moves to another server while the probe of the old one is under way: the socket that
it opens is one to the old server. -/
theorem stale_probe_opens_its_socket : ∃ s,
    Run browser (bootstrapBackground browser restored) s ∧ ¬ OpensForIntent browser s := by
  have ends : (replay browser (bootstrapBackground browser restored)
      [.answers 0 (.responds 404), .updateServerUrl (js "wss://other.example"), .resumes 0]).any
      (fun s => (s.sockets 1).isNone &&
        (s.exec browser s.now (.answers 0 (.responds 200))).any fun t =>
          (t.sockets 1).any fun socket =>
            validateServerUrl browser t.connection.serverUrl ≠ some socket.url) = true := by
    decide +kernel
  obtain ⟨s, replayed, holds⟩ := (Option.any_eq_true ..).mp ends
  obtain ⟨absent, later⟩ := Bool.and_eq_true_iff.mp holds
  obtain ⟨t, step, later⟩ := (Option.any_eq_true ..).mp later
  obtain ⟨socket, opened, stale⟩ := (Option.any_eq_true ..).mp later
  refine ⟨s, run_replay replayed, fun intent => of_decide_eq_true stale ?_⟩
  exact (intent.opened _ _ t step 1 socket (Option.isNone_iff_eq_none.mp absent) opened).1

end BiliSyncPlay.Connection
