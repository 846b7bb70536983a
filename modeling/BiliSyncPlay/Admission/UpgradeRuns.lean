import BiliSyncPlay.Admission.LoginRateLimits

/-!
# Upgrades, and the connections they become

The policy sweeps the attempt windows of addresses it has not heard of for ten minutes, and counts
the connections of each. A window lasts a minute, so no decision shows the sweep.
-/

namespace BiliSyncPlay.Admission

open Json RedisRoomStore Protocol

/-! ## Addresses are not empty -/

theorem isIP_nil : isIP [] = 0 := by decide +kernel

variable {address : JsString}

theorem normalizeIpAddress_ne_nil {value : JsString}
    (normal : normalizeIpAddress value = some address) : address ≠ [] := by
  rintro rfl
  unfold normalizeIpAddress at normal
  dsimp only at normal
  generalize (if startsAndEnds '[' ']' (Protocol.trim value) = true
    then (Protocol.trim value).tail.dropLast else Protocol.trim value) = unwrapped at normal
  by_cases blank : Protocol.trim value = []
  · rw [if_pos blank] at normal
    cases normal
  · rw [if_neg blank] at normal
    by_cases ip : isIP unwrapped = 0
    · rw [if_pos ip] at normal
      cases normal
    · rw [if_neg ip] at normal
      cases mapped : (mappedIpv4 unwrapped).filter (isIP · = 4) with
      | none =>
        rw [mapped] at normal
        rw [Option.some.inj normal, isIP_nil] at ip
        exact ip rfl
      | some ipv4 =>
        rw [mapped] at normal
        have ok := (Option.filter_eq_some_iff.mp mapped).2
        rw [Option.some.inj normal, isIP_nil] at ok
        cases ok

theorem getRemoteAddress_ne_nil {config : SecurityConfig} {request : UpgradeRequest}
    (found : getRemoteAddress config request = some address) :
    address ≠ [] := by
  have direct : request.peer = some address → address ≠ [] := normalizeIpAddress_ne_nil
  unfold getRemoteAddress at found
  split at found
  · rename_i socket forwarded peer header
    split at found
    · cases trusted : getTrustedForwardedAddress config forwarded with
      | none =>
        rw [trusted] at found
        exact direct (peer.trans found)
      | some candidate =>
        rw [trusted] at found
        cases found
        unfold getTrustedForwardedAddress at trusted
        obtain ⟨chain, parsed, picked⟩ := Option.bind_eq_some_iff.mp trusted
        rw [parseForwardedChain_eq] at parsed
        split at parsed
        · cases parsed
          have mem := List.mem_reverse.mp (List.mem_of_find?_eq_some picked)
          obtain ⟨entry, -, normal⟩ := List.mem_filterMap.mp mem
          exact normalizeIpAddress_ne_nil normal
        · cases parsed
    · exact direct (peer.trans found)
  · exact direct found

/-! ## One upgrade -/

section
variable (URL : JsString → Option Origin) (config : SecurityConfig)

/-- The key an upgrade is counted under. -/
def ipKeyOf (request : UpgradeRequest) : JsString :=
  (getRemoteAddress config request).getD (js "unknown")

/-- Whether an attempt is allowed, and the entry it leaves, by the one it finds. -/
def attempt (now : Int) (entry : Option AttemptWindowEntry) : Bool × AttemptWindowEntry :=
  let window := match entry with
    | some existing => { existing with lastSeenAt := now }
    | none => { counter := ⟨now, 0⟩, lastSeenAt := now }
  let consumed := consumeFixedWindow window.counter config.connectionAttemptsPerMinute
    WINDOW_MINUTE_MS now
  (consumed.1, { window with counter := consumed.2 })

def upgradeDecision (request : UpgradeRequest) (allowed : Bool) (connections : Nat) :
    UpgradeDecision :=
  let context : RequestContext :=
    { remoteAddress := getRemoteAddress config request, origin := request.origin }
  if !allowed then .refused 429 "Too Many Requests" context "connection_attempt_rate_limited"
  else
    match isOriginAllowed URL config request.origin with
    | some reason => .refused 403 "Forbidden" context reason
    | none =>
      if config.maxConnectionsPerIp ≤ connections then
        .refused 429 "Too Many Requests" context "connection_count_limited"
      else .ok context

variable {URL config}

variable {policy whole : SecurityPolicy} {now : Int} {request : UpgradeRequest}

theorem maybeSweep_counts (policy : SecurityPolicy) (now : Int) :
    (maybeSweepAttemptWindows policy now).ipConnectionCounts = policy.ipConnectionCounts := by
  unfold maybeSweepAttemptWindows
  dsimp only
  split <;> rfl

variable (config) in
theorem attempt_eq (policy : SecurityPolicy) (now : Int) (ipKey : JsString) :
    attempt config now (policy.ipAttemptWindows.get? ipKey) =
      let window := getAttemptWindow policy ipKey now
      let consumed := consumeFixedWindow window.counter config.connectionAttemptsPerMinute
        WINDOW_MINUTE_MS now
      (consumed.1, { window with counter := consumed.2 }) := by
  unfold attempt getAttemptWindow
  cases policy.ipAttemptWindows.get? ipKey <;> rfl

theorem getAttemptWindow_stamps {policy : SecurityPolicy} {ipKey : JsString} {now : Int}
    (past : ∀ held ∈ policy.ipAttemptWindows.get? ipKey, held.counter.windowStart ≤ now) :
    (getAttemptWindow policy ipKey now).counter.windowStart ≤
        (getAttemptWindow policy ipKey now).lastSeenAt ∧
      (getAttemptWindow policy ipKey now).lastSeenAt ≤ now := by
  unfold getAttemptWindow
  cases found : policy.ipAttemptWindows.get? ipKey with
  | none => exact ⟨le_refl now, le_refl now⟩
  | some held => exact ⟨past held found, le_refl now⟩

/-- The decision depends on the attempt window and the count of the one address, and leaves the
counts alone. -/
theorem evaluateUpgrade_spec (URL : JsString → Option Origin) (config : SecurityConfig)
    (policy : SecurityPolicy) (now : Int) (request : UpgradeRequest) :
    let ipKey := ipKeyOf config request
    let attempted := attempt config now (policy.ipAttemptWindows.get? ipKey)
    let evaluated := evaluateUpgrade URL config policy now request
    evaluated.1 = upgradeDecision URL config request attempted.1 (policy.connections ipKey) ∧
      evaluated.2.ipConnectionCounts = policy.ipConnectionCounts ∧
      evaluated.2.ipAttemptWindows = (maybeSweepAttemptWindows
        { policy with
          ipAttemptWindows :=
            policy.ipAttemptWindows.set ipKey (getAttemptWindow policy ipKey now) }
        now).ipAttemptWindows.set ipKey attempted.2 := by
  have counts (windows : JsMap JsString AttemptWindowEntry) :
      (maybeSweepAttemptWindows { policy with ipAttemptWindows := windows } now).ipConnectionCounts
        = policy.ipConnectionCounts := maybeSweep_counts _ now
  dsimp only
  rw [attempt_eq]
  unfold evaluateUpgrade ipKeyOf upgradeDecision
  dsimp only
  obtain ⟨⟨allowed, counter⟩, consumed⟩ : ∃ result, consumeFixedWindow
      (getAttemptWindow policy ((getRemoteAddress config request).getD (js "unknown")) now).counter
      config.connectionAttemptsPerMinute WINDOW_MINUTE_MS now = result := ⟨_, rfl⟩
  simp only [consumed]
  cases allowed with
  | false => exact ⟨rfl, counts _, rfl⟩
  | true =>
    cases isOriginAllowed URL config request.origin with
    | some reason => exact ⟨rfl, counts _, rfl⟩
    | none =>
      simp only [SecurityPolicy.connections, counts, Bool.not_true, Bool.false_eq_true, if_false]
      by_cases full : config.maxConnectionsPerIp ≤ (policy.ipConnectionCounts.get?
          ((getRemoteAddress config request).getD (js "unknown"))).getD 0
      · simp [full]
      · simp [full]

/-! ## The sweep is not seen -/

/-- The windows of a policy and of one that keeps them all. -/
abbrev SweptWindows (now : Int) (windows whole : JsMap JsString AttemptWindowEntry) : Prop :=
  JsMap.Swept (fun entry => entry.counter.windowStart) AttemptWindowEntry.lastSeenAt
    WINDOW_MINUTE_MS now windows whole

structure SweptPolicy (now : Int) (policy whole : SecurityPolicy) : Prop where
  windows : SweptWindows now policy.ipAttemptWindows whole.ipAttemptWindows
  counts : policy.ipConnectionCounts = whole.ipConnectionCounts

theorem SweptPolicy.later (swept : SweptPolicy now policy whole) {now' : Int} (le : now ≤ now') :
    SweptPolicy now' policy whole where
  windows := JsMap.Swept.later swept.windows le
  counts := swept.counts

variable (config) in
theorem lastSeenAt_attempt (now : Int) (entry : Option AttemptWindowEntry) :
    (attempt config now entry).2.lastSeenAt = now := by
  cases entry <;> rfl

theorem consumeFixedWindow_over {counter : WindowCounter Int} {limit : Nat}
    (elapsed : WINDOW_MINUTE_MS ≤ now - counter.windowStart) :
    consumeFixedWindow counter limit WINDOW_MINUTE_MS now =
      consumeFixedWindow ⟨now, 0⟩ limit WINDOW_MINUTE_MS now := by
  simp [consumeFixedWindow, elapsed, createWindowCounter]

/-- An entry whose window is over is as good as none. -/
theorem attempt_over {entry : AttemptWindowEntry}
    (elapsed : WINDOW_MINUTE_MS ≤ now - entry.counter.windowStart) :
    attempt config now (some entry) = attempt config now none := by
  unfold attempt
  dsimp only
  rw [consumeFixedWindow_over elapsed]

theorem windowStart_attempt_le {entry : Option AttemptWindowEntry}
    (past : ∀ held ∈ entry, held.counter.windowStart ≤ now) :
    (attempt config now entry).2.counter.windowStart ≤ now := by
  have consumed (counter : WindowCounter Int) (le : counter.windowStart ≤ now) (limit : Nat) :
      (consumeFixedWindow counter limit WINDOW_MINUTE_MS now).2.windowStart ≤ now := by
    unfold consumeFixedWindow createWindowCounter
    dsimp only
    split <;> split <;> first | exact le_refl now | exact le
  cases entry with
  | none => exact consumed ⟨now, 0⟩ (le_refl now) _
  | some held => exact consumed held.counter (past held rfl) _

/-- A sweep takes windows of addresses unheard of for ten minutes. -/
theorem SweptWindows.afterSweep {windows kept : JsMap JsString AttemptWindowEntry}
    (swept : SweptWindows now windows kept) (policy : SecurityPolicy) :
    SweptWindows now
      (maybeSweepAttemptWindows { policy with ipAttemptWindows := windows } now).ipAttemptWindows
      kept := by
  unfold maybeSweepAttemptWindows
  dsimp only
  split
  · exact swept
  · apply JsMap.Swept.sweep swept
    intro key
    rw [JsMap.get?_foldl_delete]
    split
    · rename_i dead
      obtain ⟨entry, listed, rfl⟩ := List.mem_map.mp dead
      obtain ⟨mem, unused⟩ := List.mem_filter.mp listed
      refine .inr ⟨rfl, fun found same => ?_⟩
      rw [JsMap.mem_entries_iff.mp mem] at same
      cases same
      have idle : ATTEMPT_WINDOW_TTL_MS ≤ now - entry.2.lastSeenAt :=
        of_decide_eq_true (Bool.and_eq_true_iff.mp unused).1
      unfold ATTEMPT_WINDOW_TTL_MS WINDOW_MINUTE_MS at idle
      unfold WINDOW_MINUTE_MS
      omega
    · exact .inl rfl

variable (config) in
theorem attempt_eq_of_swept (swept : SweptPolicy now policy whole) (ipKey : JsString) :
    attempt config now (policy.ipAttemptWindows.get? ipKey) =
      attempt config now (whole.ipAttemptWindows.get? ipKey) :=
  swept.windows.lacks.read (attempt config now) (fun _ elapsed => attempt_over elapsed) ipKey

/-- One call is no reason to sweep. -/
theorem maybeSweepAttemptWindows_fresh (windows : JsMap JsString AttemptWindowEntry)
    (counts : JsMap JsString Nat) (now : Int) :
    (maybeSweepAttemptWindows ⟨windows, counts, 0⟩ now).ipAttemptWindows = windows := rfl

theorem SweptPolicy.connections_eq (swept : SweptPolicy now policy whole) (ipKey : JsString) :
    policy.connections ipKey = whole.connections ipKey := by
  unfold SecurityPolicy.connections
  rw [swept.counts]

variable (config) in
theorem SweptPolicy.evaluate (swept : SweptPolicy now policy whole)
    (URL : JsString → Option Origin) (request : UpgradeRequest) :
    let here := evaluateUpgrade URL config policy now request
    let there := evaluateUpgrade URL config { whole with evaluateCount := 0 } now request
    here.1 = there.1 ∧ SweptPolicy now here.2 there.2 := by
  obtain ⟨decision, counts, windows⟩ := evaluateUpgrade_spec URL config policy now request
  obtain ⟨decision', counts', windows'⟩ :=
    evaluateUpgrade_spec URL config { whole with evaluateCount := 0 } now request
  have attempted := attempt_eq_of_swept config swept (ipKeyOf config request)
  dsimp only at windows windows' decision decision' ⊢
  have whole_ : SecurityPolicy.connections { whole with evaluateCount := 0 }
      (ipKeyOf config request) = whole.connections (ipKeyOf config request) := rfl
  constructor
  · rw [decision, decision', attempted, swept.connections_eq, whole_]
  constructor
  · rw [windows, windows', ← attempted]
    have seen := lastSeenAt_attempt config now
      (policy.ipAttemptWindows.get? (ipKeyOf config request))
    have past : ∀ held ∈ policy.ipAttemptWindows.get? (ipKeyOf config request),
        held.counter.windowStart ≤ now := by
      intro held mem
      have stamps := swept.windows.stamped _ held mem
      exact stamps.1.trans stamps.2
    have opened : (attempt config now
        (policy.ipAttemptWindows.get? (ipKeyOf config request))).2.counter.windowStart ≤ now :=
      windowStart_attempt_le past
    have found := getAttemptWindow_stamps past
    have asked := JsMap.Swept.set swept.windows (ipKeyOf config request) found.1 found.2
    have left := SweptWindows.afterSweep asked policy
    refine JsMap.Swept.congr
      (JsMap.Swept.set left (ipKeyOf config request) (by rw [seen]; exact opened) seen.le) ?_
    intro key
    rw [maybeSweepAttemptWindows_fresh]
    by_cases same : ipKeyOf config request = key
    · rw [same, JsMap.get?_set_self, JsMap.get?_set_self]
    · rw [JsMap.get?_set_ne _ _ same, JsMap.get?_set_ne _ _ same, JsMap.get?_set_ne _ _ same,
        JsMap.get?_set_ne _ _ same]
  · rw [counts, counts']
    exact swept.counts

end

/-! ## Runs -/

inductive SocketEvent where
  /-- An upgrade that is asked for, and that the server takes up at once if it may. -/
  | upgrade (request : UpgradeRequest) (accepted : Bool)
  /-- The end of the cleanup of a connection that was taken up. -/
  | closed (remoteAddress : Option JsString)
  deriving DecidableEq

abbrev TimedEvent := Int × SocketEvent

abbrev SocketEntry := Transcript.Entry TimedEvent (Option UpgradeDecision)

def takeUp (accepted : Bool) (decision : UpgradeDecision) (policy : SecurityPolicy) :
    SecurityPolicy :=
  match decision with
  | .ok context =>
    if accepted then incrementConnectionCount policy context.remoteAddress else policy
  | .refused .. => policy

section
variable (URL : JsString → Option Origin) (config : SecurityConfig)

def serveSocket (policy : SecurityPolicy) (event : TimedEvent) :
    Option UpgradeDecision × SecurityPolicy :=
  match event.2 with
  | .upgrade request accepted =>
    let evaluated := evaluateUpgrade URL config policy event.1 request
    (some evaluated.1, takeUp accepted evaluated.1 evaluated.2)
  | .closed remoteAddress => (none, decrementConnectionCount policy remoteAddress)

/-- A policy whose count of calls is set back before each never comes to a sweep. -/
def serveSocketUnswept (policy : SecurityPolicy) (event : TimedEvent) :
    Option UpgradeDecision × SecurityPolicy :=
  serveSocket URL config { policy with evaluateCount := 0 } event

end

/-- The server took up a connection from the address. -/
def takes (address : JsString) (entry : SocketEntry) : Bool :=
  match entry.call.2, entry.answer with
  | .upgrade _ true, some (.ok context) => context.remoteAddress = some address
  | _, _ => false

def cleans (address : JsString) (entry : SocketEntry) : Bool :=
  match entry.call.2 with
  | .upgrade .. => false
  | .closed remoteAddress => remoteAddress = some address

/-- Each cleanup is of a connection that was taken up, and not cleaned up before. -/
def CleansUp (entries : List SocketEntry) : Prop :=
  ∀ before entry later, entries = before ++ entry :: later → ∀ address,
    cleans address entry = true → before.countP (cleans address) < before.countP (takes address)

variable {entries : List SocketEntry}

theorem CleansUp.of_concat {entry : SocketEntry} (cleansUp : CleansUp (entries ++ [entry])) :
    CleansUp entries ∧ ∀ address, cleans address entry = true →
      entries.countP (cleans address) < entries.countP (takes address) := by
  constructor
  · intro before other later split
    exact cleansUp before other (later ++ [entry]) (by simp [split])
  · exact cleansUp entries entry [] rfl

section
variable {URL : JsString → Option Origin} {config : SecurityConfig}
  {policy whole : SecurityPolicy}

theorem SweptPolicy.takeUp {now : Int} (swept : SweptPolicy now policy whole) (accepted : Bool)
    (decision : UpgradeDecision) :
    SweptPolicy now (takeUp accepted decision policy) (takeUp accepted decision whole) := by
  have alike (address : JsString) : policy.connections address = whole.connections address :=
    swept.connections_eq address
  unfold Admission.takeUp incrementConnectionCount
  split
  · split
    · split
      · exact swept
      · exact ⟨swept.windows, by simp [swept.counts, alike]⟩
    · exact swept
  · exact swept

theorem SweptPolicy.decrement {now : Int} (swept : SweptPolicy now policy whole)
    (address : Option JsString) :
    SweptPolicy now (decrementConnectionCount policy address)
      (decrementConnectionCount { whole with evaluateCount := 0 } address) := by
  unfold decrementConnectionCount
  split
  · exact ⟨swept.windows, swept.counts⟩
  · exact ⟨swept.windows, by simp [swept.counts]⟩

theorem SweptPolicy.serveSocket {event : TimedEvent} (swept : SweptPolicy event.1 policy whole) :
    (serveSocket URL config policy event).1 = (serveSocketUnswept URL config whole event).1 ∧
      SweptPolicy event.1 (serveSocket URL config policy event).2
        (serveSocketUnswept URL config whole event).2 := by
  obtain ⟨now, event⟩ := event
  cases event with
  | upgrade request accepted =>
    obtain ⟨same, next⟩ := swept.evaluate config URL request
    have taken := next.takeUp accepted (evaluateUpgrade URL config policy now request).1
    refine ⟨congrArg some same, ?_⟩
    unfold serveSocketUnswept Admission.serveSocket
    dsimp only
    rw [← same]
    exact taken
  | closed address => exact ⟨rfl, swept.decrement address⟩

/-- Every upgrade is decided as by a policy that never sweeps. -/
theorem serveSocket_answers {events : List TimedEvent} (inOrder : InOrder events) :
    Transcript.answers (serveSocket URL config) {} events =
      Transcript.answers (serveSocketUnswept URL config) {} events := by
  apply Transcript.answers_eq_of_related (R := fun rest swept whole =>
    InOrder rest ∧ ∀ event ∈ rest.head?, SweptPolicy event.1 swept whole)
  · rintro event rest swept whole ⟨timed, related⟩
    obtain ⟨later, after⟩ := timed.of_cons
    obtain ⟨same, next⟩ := (related event rfl).serveSocket
    exact ⟨same, after, fun following mem =>
      next.later (later following (List.mem_of_mem_head? mem))⟩
  · exact ⟨inOrder, fun event _ => ⟨JsMap.swept_empty, rfl⟩⟩

/-! ### What a policy counts -/

theorem connections_increment (policy : SecurityPolicy) (nonempty : address ≠ []) (other : JsString) :
    (incrementConnectionCount policy (some address)).connections other =
      policy.connections other + if address = other then 1 else 0 := by
  have kept : (some address).filter (fun a => decide (a ≠ [])) = some address := by
    simp [nonempty]
  unfold incrementConnectionCount
  rw [kept]
  unfold SecurityPolicy.connections
  by_cases same : address = other
  · simp [same]
  · simp [same, JsMap.get?_set_ne]

theorem connections_decrement (policy : SecurityPolicy) (address : JsString) (other : JsString)
    (counted : 0 < policy.connections address) (nonempty : address ≠ []) :
    (decrementConnectionCount policy (some address)).connections other +
        (if address = other then 1 else 0) = policy.connections other := by
  have kept : (some address).filter (fun a => decide (a ≠ [])) = some address := by
    simp [nonempty]
  unfold decrementConnectionCount
  rw [kept]
  unfold SecurityPolicy.connections at counted ⊢
  cases held : policy.ipConnectionCounts.get? address with
  | none =>
    rw [held] at counted
    cases counted
  | some count =>
    rw [held, Option.getD_some] at counted
    dsimp only [Option.getD_some]
    by_cases same : address = other
    · subst same
      by_cases last : (count : Int) - 1 ≤ 0
      · simp [last, held]
        omega
      · simp [last, held]
        omega
    · split
      · simp [same, JsMap.get?_delete_ne]
      · simp [same, JsMap.get?_set_ne]

/-- The counts after a run: what was taken up and not cleaned up since. -/
structure Exact (config : SecurityConfig) (entries : List SocketEntry) (policy : SecurityPolicy) :
    Prop where
  balance : ∀ address, policy.connections address + entries.countP (cleans address) =
    entries.countP (takes address)
  bounded : ∀ address, policy.connections address ≤ config.maxConnectionsPerIp
  named : ∀ entry ∈ entries, takes [] entry = false

theorem Exact.pass {entry : SocketEntry} (exact_ : Exact config entries policy)
    {next : SecurityPolicy}
    (kept : ∀ address, next.connections address = policy.connections address)
    (cleans_ : ∀ address, cleans address entry = false)
    (takes_ : ∀ address, takes address entry = false) :
    Exact config (entries ++ [entry]) next := by
  constructor
  · intro address
    simpa [List.countP_append, kept, cleans_, takes_] using exact_.balance address
  · intro address
    rw [kept]
    exact exact_.bounded address
  · intro other mem
    rcases List.mem_append.mp mem with old | new
    · exact exact_.named other old
    · rw [List.mem_singleton.mp new]
      exact takes_ []

theorem upgradeDecision_ok {request : UpgradeRequest} {allowed : Bool} {connections : Nat}
    {context : RequestContext}
    (ok : upgradeDecision URL config request allowed connections = .ok context) :
    context.remoteAddress = getRemoteAddress config request ∧
      connections < config.maxConnectionsPerIp := by
  unfold upgradeDecision at ok
  dsimp only at ok
  split at ok
  · cases ok
  · split at ok
    · cases ok
    · by_cases full : config.maxConnectionsPerIp ≤ connections
      · rw [if_pos full] at ok
        cases ok
      · rw [if_neg full] at ok
        cases ok
        exact ⟨rfl, by omega⟩

/-- A connection that is taken up is one more for its address, which had room for it. -/
theorem Exact.takeUp {now : Int} {request : UpgradeRequest} (exact_ : Exact config entries policy)
    {context : RequestContext}
    (ok : (evaluateUpgrade URL config policy now request).1 = .ok context)
    (known : context.remoteAddress = some address) :
    Exact config (entries ++ [⟨(now, .upgrade request true), some (.ok context)⟩])
      (incrementConnectionCount (evaluateUpgrade URL config policy now request).2
        (some address)) := by
  obtain ⟨decision, counts, -⟩ := evaluateUpgrade_spec URL config policy now request
  rw [ok] at decision
  obtain ⟨asked, room⟩ := upgradeDecision_ok decision.symm
  have remote : getRemoteAddress config request = some address := asked.symm.trans known
  have nonempty := getRemoteAddress_ne_nil remote
  have key : ipKeyOf config request = address := by rw [ipKeyOf, remote, Option.getD_some]
  rw [key] at room
  have before (other : JsString) :
      (evaluateUpgrade URL config policy now request).2.connections other =
        policy.connections other := by
    unfold SecurityPolicy.connections
    rw [counts]
  have after (other : JsString) := connections_increment
    (evaluateUpgrade URL config policy now request).2 nonempty other
  have takes_ (other : JsString) :
      takes other (⟨(now, .upgrade request true), some (.ok context)⟩ : SocketEntry) =
        decide (address = other) := by
    simp [takes, known]
  have cleans_ (other : JsString) :
      cleans other (⟨(now, .upgrade request true), some (.ok context)⟩ : SocketEntry) = false := rfl
  constructor
  · intro other
    have balance := exact_.balance other
    rw [after, before, List.countP_append, List.countP_append, List.countP_singleton,
      List.countP_singleton, takes_, cleans_]
    by_cases same : address = other
    · simp only [same, if_true, decide_true, Bool.false_eq_true, if_false]
      omega
    · simp only [same, if_false, decide_false, Bool.false_eq_true]
      omega
  · intro other
    have bounded := exact_.bounded other
    rw [after, before]
    by_cases same : address = other
    · subst same
      rw [if_pos rfl]
      omega
    · rw [if_neg same]
      omega
  · intro entry mem
    rcases List.mem_append.mp mem with old | new
    · exact exact_.named entry old
    · rw [List.mem_singleton.mp new, takes_]
      exact decide_eq_false nonempty

theorem Exact.clean {now : Int} (exact_ : Exact config entries policy)
    (taken : entries.countP (cleans address) < entries.countP (takes address)) :
    Exact config (entries ++ [⟨(now, .closed (some address)), none⟩])
      (decrementConnectionCount policy (some address)) := by
  have counted : 0 < policy.connections address := by
    have balance := exact_.balance address
    omega
  have nonempty : address ≠ [] := by
    rintro rfl
    have none_ : entries.countP (takes []) = 0 := by
      apply List.countP_eq_zero.mpr
      intro entry mem
      simp [exact_.named entry mem]
    omega
  have after (other : JsString) := connections_decrement policy address other counted nonempty
  have cleans_ (other : JsString) :
      cleans other (⟨(now, .closed (some address)), none⟩ : SocketEntry) =
        decide (address = other) := by
    simp [cleans]
  have takes_ (other : JsString) :
      takes other (⟨(now, .closed (some address)), none⟩ : SocketEntry) = false := rfl
  constructor
  · intro other
    have balance := exact_.balance other
    have left := after other
    rw [List.countP_append, List.countP_append, List.countP_singleton, List.countP_singleton,
      takes_, cleans_]
    by_cases same : address = other
    · simp only [same, if_true, decide_true, Bool.false_eq_true, if_false] at left ⊢
      omega
    · simp only [same, if_false, decide_false, Bool.false_eq_true] at left ⊢
      omega
  · intro other
    have bounded := exact_.bounded other
    have left := after other
    omega
  · intro entry mem
    rcases List.mem_append.mp mem with old | new
    · exact exact_.named entry old
    · rw [List.mem_singleton.mp new]
      exact takes_ []

variable (URL config) in
theorem connections_evaluate (policy : SecurityPolicy) (now : Int) (request : UpgradeRequest)
    (address : JsString) :
    (evaluateUpgrade URL config policy now request).2.connections address =
      policy.connections address := by
  unfold SecurityPolicy.connections
  rw [(evaluateUpgrade_spec URL config policy now request).2.1]

theorem Exact.upgrade {now : Int} {request : UpgradeRequest} {accepted : Bool}
    (exact_ : Exact config entries policy) :
    Exact config
      (entries ++ [⟨(now, .upgrade request accepted),
        (serveSocket URL config policy (now, .upgrade request accepted)).1⟩])
      (serveSocket URL config policy (now, .upgrade request accepted)).2 := by
  have kept := connections_evaluate URL config policy now request
  unfold serveSocket Admission.takeUp
  dsimp only
  cases decided : (evaluateUpgrade URL config policy now request).1 with
  | refused => exact exact_.pass kept (fun _ => rfl) fun _ => by cases accepted <;> rfl
  | ok context =>
    cases accepted with
    | false => exact exact_.pass kept (fun _ => rfl) fun _ => rfl
    | true =>
      dsimp only
      rw [if_pos rfl]
      cases known : context.remoteAddress with
      | none =>
        apply exact_.pass kept (fun _ => rfl)
        intro address
        simp [takes, known]
      | some address => exact exact_.takeUp decided known

theorem run_exact {events : List TimedEvent}
    (cleansUp : CleansUp (Transcript.answers (serveSocket URL config) {} events)) :
    Exact config (Transcript.answers (serveSocket URL config) {} events)
      (Transcript.after (serveSocket URL config) {} events) := by
  induction events using List.reverseRecOn with
  | nil =>
    exact ⟨fun _ => rfl, fun _ => Nat.zero_le _, fun _ mem => nomatch mem⟩
  | append_singleton events event ih =>
    rw [Transcript.answers_concat] at cleansUp ⊢
    rw [Transcript.after_concat]
    obtain ⟨before, here⟩ := cleansUp.of_concat
    have exact_ := ih before
    obtain ⟨now, event⟩ := event
    cases event with
    | upgrade request accepted => exact exact_.upgrade
    | closed remoteAddress =>
      cases remoteAddress with
      | none => exact exact_.pass (fun _ => rfl) (fun _ => rfl) fun _ => rfl
      | some address => exact exact_.clean (here address (by simp [cleans]))

end

/-! ## The sweeps of both -/

/-- What a run of the policy promises. -/
def ServesExactly (URL : JsString → Option Origin) (config : SecurityConfig)
    (events : List TimedEvent) : Prop :=
  Transcript.answers (serveSocket URL config) {} events =
      Transcript.answers (serveSocketUnswept URL config) {} events ∧
    ∀ address,
      (Transcript.after (serveSocket URL config) {} events).connections address +
          (Transcript.answers (serveSocket URL config) {} events).countP (cleans address) =
        (Transcript.answers (serveSocket URL config) {} events).countP (takes address) ∧
      (Transcript.after (serveSocket URL config) {} events).connections address ≤
        config.maxConnectionsPerIp

/-- An identity that is counted, and has used up its failures by then. -/
def Barred (toLowerCase : JsString → JsString) (config : AdminLoginRateLimitConfig)
    (counted : JsString → Prop) (calls : List TimedLogin) (now : Int) (input : LoginInput) : Prop :=
  Exhausted config.failuresPerIpPerMinute (failuresOf LoginInput.ipKey input.ipKey calls) now ∨
    counted (usernameOf toLowerCase input) ∧
      Exhausted config.failuresPerUsernamePerMinute
        (failuresOf (usernameOf toLowerCase) (usernameOf toLowerCase input) calls) now

/-- What a run of the limiter promises: the answers of one that never sweeps, and a refusal of
exactly those who are barred. -/
def RefusesExactly (toLowerCase : JsString → JsString) (config : AdminLoginRateLimitConfig)
    (counted : JsString → Prop) (calls : List TimedLogin) : Prop :=
  Transcript.answers (serveLogin toLowerCase config) {} calls =
      Transcript.answers (serveLoginUnswept toLowerCase config) {} calls ∧
    ∀ before now input answer later,
      Transcript.answers (serveLogin toLowerCase config) {} calls =
        before ++ ⟨(now, .check input), answer⟩ :: later →
      (answer ≠ some .ok ↔
        Barred toLowerCase config counted (before.map Transcript.Entry.call) now input)

theorem refusesExactly {toLowerCase : JsString → JsString} {config : AdminLoginRateLimitConfig}
    {calls : List TimedLogin} (inOrder : InOrder calls) :
    RefusesExactly toLowerCase config (· ≠ []) calls := by
  have same := serveLogin_answers toLowerCase config inOrder
  refine ⟨same, fun before now input answer later split => ?_⟩
  rw [same] at split
  obtain ⟨earlier, rest, rfl, rfl, answered⟩ := Transcript.answers_split split
  have tallied := run_tallied toLowerCase config (List.pairwise_append.mp inOrder).1
  have served : answer = (serveLoginUnswept toLowerCase config
      (Transcript.after (serveLoginUnswept toLowerCase config) {} earlier)
      (now, .check input)).1 := answered
  rw [Transcript.answers_calls, served]
  exact tallied.refuses_iff

/-- Sweeps of idle entries change no decision on an upgrade and no answer to a login. The count of
an address is what was taken up and not cleaned up since, and a login is refused exactly where its
address, or its user name if that is not blank, has used up the failures of its window. -/
theorem idle_sweeps_are_not_seen (URL : JsString → Option Origin) (config : SecurityConfig)
    (toLowerCase : JsString → JsString) (limits : AdminLoginRateLimitConfig) :
    (∀ events, InOrder events →
      CleansUp (Transcript.answers (serveSocket URL config) {} events) →
      ServesExactly URL config events) ∧
    ∀ calls, InOrder calls → RefusesExactly toLowerCase limits (· ≠ []) calls := by
  constructor
  · intro events inOrder cleansUp
    have exact_ := run_exact cleansUp
    exact ⟨serveSocket_answers inOrder, fun address =>
      ⟨exact_.balance address, exact_.bounded address⟩⟩
  · intro calls inOrder
    exact refusesExactly inOrder

theorem CleansUp.concat {entry : SocketEntry} (cleansUp : CleansUp entries)
    (here : ∀ address, cleans address entry = true →
      entries.countP (cleans address) < entries.countP (takes address)) :
    CleansUp (entries ++ [entry]) := by
  intro before other later split address cleaned
  rcases List.eq_nil_or_concat later with rfl | ⟨later, last, rfl⟩
  · obtain ⟨rfl, same⟩ := List.append_inj' split rfl
    cases same
    exact here address cleaned
  · rw [List.concat_eq_append, ← List.cons_append, ← List.append_assoc] at split
    obtain ⟨rfl, -⟩ := List.append_inj' split rfl
    exact cleansUp before other later rfl address cleaned

theorem CleansUp.upgrades {more : List SocketEntry} (cleansUp : CleansUp entries)
    (upgrades : ∀ entry ∈ more, ∀ address, cleans address entry = false) :
    CleansUp (entries ++ more) := by
  induction more using List.reverseRecOn with
  | nil => rwa [List.append_nil]
  | append_singleton more last ih =>
    rw [← List.append_assoc]
    apply (ih fun entry mem => upgrades entry (List.mem_append_left _ mem)).concat
    intro address cleaned
    rw [upgrades last (by simp) address] at cleaned
    cases cleaned

def oneEach : SecurityConfig where
  allowMissingOriginInDev := true
  maxConnectionsPerIp := 1
  connectionAttemptsPerMinute := 2

def visitor : UpgradeRequest where
  remoteAddress := some (js "203.0.113.10")

def visits : List TimedEvent :=
  [(0, .upgrade visitor true), (1, .upgrade visitor true), (2, .upgrade visitor true),
    (3, .closed (some (js "203.0.113.10"))), (60000, .upgrade visitor true)]

def mistyped (ipKey username : String) : LoginInput := ⟨js ipKey, js username⟩

/-- The windows of the first calls are over, and the sixty-fourth call sweeps them. -/
def longVisits : List TimedEvent :=
  visits ++ List.replicate 60 (700000, .upgrade { remoteAddress := some (js "::1") } true) ++
    [(700001, .upgrade visitor true)]

def logins : List TimedLogin :=
  [(0, .registerFailure (mistyped "203.0.113.10" " Admin")),
    (1, .check (mistyped "203.0.113.11" "admin"))] ++
    List.replicate 62 (700000, .check (mistyped "::1" "a")) ++
    [(700001, .check (mistyped "203.0.113.11" "admin"))]

theorem visits_clean_up :
    CleansUp (Transcript.answers (serveSocket (fun _ => none) oneEach) {} visits) := by
  have answered : Transcript.answers (serveSocket (fun _ => none) oneEach) {} visits =
      Transcript.answers (serveSocket (fun _ => none) oneEach) {} (visits.take 3) ++
        [⟨(3, .closed (some (js "203.0.113.10"))), none⟩] ++
        [⟨(60000, .upgrade visitor true), some (.ok ⟨some (js "203.0.113.10"), none⟩)⟩] := by
    decide +kernel
  have upgrades : ∀ entry ∈ Transcript.answers (serveSocket (fun _ => none) oneEach) {}
      (visits.take 3), ∀ address, cleans address entry = false := by
    intro entry mem address
    have listed : entry.call = (0, .upgrade visitor true) ∨
        entry.call = (1, .upgrade visitor true) ∨ entry.call = (2, .upgrade visitor true) := by
      simpa [visits] using Transcript.call_mem mem
    rcases listed with first | second | third
    · rw [cleans, first]
    · rw [cleans, second]
    · rw [cleans, third]
  rw [answered]
  apply CleansUp.concat
  · apply CleansUp.concat
    · intro before entry later split address cleaned
      rw [upgrades entry (by rw [split]; simp) address] at cleaned
      cases cleaned
    · intro address cleaned
      have same : some (js "203.0.113.10") = some address := of_decide_eq_true cleaned
      cases same
      decide +kernel
  · intro address cleaned
    cases cleaned

theorem longVisits_clean_up :
    CleansUp (Transcript.answers (serveSocket (fun _ => none) oneEach) {} longVisits) := by
  rw [longVisits, List.append_assoc, Transcript.answers_append]
  apply visits_clean_up.upgrades
  intro entry mem address
  have upgraded : ∃ t request, entry.call = (t, .upgrade request true) := by
    rcases List.mem_append.mp (Transcript.call_mem mem) with crowd | last
    · exact ⟨_, _, List.eq_of_mem_replicate crowd⟩
    · exact ⟨_, _, List.mem_singleton.mp last⟩
  obtain ⟨t, request, same⟩ := upgraded
  rw [cleans, same]

theorem sweeps_of_a_short_run_are_not_seen :
    ServesExactly (fun _ => none) oneEach longVisits ∧
      RefusesExactly (List.map toLower) ⟨2, 1⟩ (· ≠ []) logins := by
  have law := @idle_sweeps_are_not_seen (fun _ => none) oneEach (List.map toLower) ⟨2, 1⟩
  exact ⟨law.1 longVisits (by decide +kernel) longVisits_clean_up, law.2 logins (by decide +kernel)⟩

/-- Failures without a user name bar nobody who gives none. -/
theorem blank_usernames_are_not_barred :
    ¬ RefusesExactly (List.map toLower) ⟨2, 1⟩ (fun _ => True)
      [(0, .registerFailure (mistyped "203.0.113.10" " ")),
        (1, .check (mistyped "203.0.113.11" ""))] := by
  rintro ⟨-, refuses⟩
  have answered : Transcript.answers (serveLogin (List.map toLower) ⟨2, 1⟩) {}
      [(0, .registerFailure (mistyped "203.0.113.10" " ")),
        (1, .check (mistyped "203.0.113.11" ""))] =
      [⟨(0, .registerFailure (mistyped "203.0.113.10" " ")), none⟩] ++
        ⟨(1, .check (mistyped "203.0.113.11" "")), some .ok⟩ :: [] := by decide +kernel
  apply (refuses _ _ _ _ _ answered).mpr (.inr ⟨trivial, 0, ?_, ?_, ?_⟩) rfl
  · decide +kernel
  · decide +kernel
  · decide +kernel

end BiliSyncPlay.Admission
