import BiliSyncPlay.Admission.Addresses
import BiliSyncPlay.Admission.RateLimits
import BiliSyncPlay.JsMap

/-!
# Whom an upgrade is charged to

The address a request is counted under, and the limits kept for each address. `new URL` is the
platform's: `URL` answers the scheme and the host of an origin.
-/

namespace BiliSyncPlay.Admission

open Json RedisRoomStore Protocol

structure Origin where
  protocol : JsString
  host : JsString
  deriving DecidableEq

structure SecurityConfig where
  allowedOrigins : List JsString := []
  allowMissingOriginInDev : Bool := false
  allowAnyFirefoxExtensionOrigin : Bool := false
  trustedProxyAddresses : List JsString := []
  maxConnectionsPerIp : Nat
  connectionAttemptsPerMinute : Nat
  deriving DecidableEq

/-- What the policy reads of an `IncomingMessage`. -/
structure UpgradeRequest where
  remoteAddress : Option JsString
  forwarded : Option JsString := none
  origin : Option JsString := none
  deriving DecidableEq

/-! ## The address -/

/-- `trustedProxyAddresses` of the policy. -/
def SecurityConfig.proxies (config : SecurityConfig) : List JsString :=
  config.trustedProxyAddresses.filterMap normalizeIpAddress

def getTrustedForwardedAddress (config : SecurityConfig) (forwarded : JsString) :
    Option JsString :=
  (parseForwardedChain forwarded).bind fun chain =>
    chain.reverse.find? fun candidate => candidate ∉ config.proxies

/-- The socket the request came in on. -/
def UpgradeRequest.peer (request : UpgradeRequest) : Option JsString :=
  normalizeIpAddress (request.remoteAddress.getD [])

def getRemoteAddress (config : SecurityConfig) (request : UpgradeRequest) : Option JsString :=
  match request.peer, request.forwarded with
  | some socketRemoteAddress, some forwarded =>
    if socketRemoteAddress ∈ config.proxies ∧ Protocol.trim forwarded ≠ [] then
      some ((getTrustedForwardedAddress config forwarded).getD socketRemoteAddress)
    else some socketRemoteAddress
  | socketRemoteAddress, _ => socketRemoteAddress

/-! ## Origins -/

def isLowerHex (u : CodeUnit) : Bool := isDigit u || within 'a' 'f' u

/-- `FIREFOX_EXTENSION_UUID`. -/
def isFirefoxUuid (host : JsString) : Bool :=
  let groups := host.splitOn (char '-')
  groups.map List.length = [8, 4, 4, 4, 12] && groups.all (·.all isLowerHex)

section
variable (URL : JsString → Option Origin)

def isBareMozExtensionOrigin (origin : JsString) : Bool :=
  !origin.isEmpty && !origin.contains (char '*') &&
    match URL origin with
    | none => false
    | some parsed =>
      parsed.protocol = js "moz-extension:" && !parsed.host.isEmpty &&
        origin = parsed.protocol ++ js "//" ++ parsed.host && isFirefoxUuid parsed.host

/-- Why an origin is refused, where it is. -/
def isOriginAllowed (config : SecurityConfig) (origin : Option JsString) : Option String :=
  match origin.filter (· ≠ []) with
  | none => if config.allowMissingOriginInDev then none else some "origin_missing"
  | some origin =>
    if origin ∈ config.allowedOrigins then none
    else if config.allowAnyFirefoxExtensionOrigin ∧ isBareMozExtensionOrigin URL origin then none
    else some "origin_not_allowed"

end

/-! ## The limits -/

def WINDOW_MINUTE_MS : Int := 60000

def ATTEMPT_WINDOW_TTL_MS : Int := 10 * WINDOW_MINUTE_MS

def ATTEMPT_WINDOW_SWEEP_INTERVAL : Nat := 64

structure AttemptWindowEntry where
  counter : WindowCounter Int
  lastSeenAt : Int
  deriving DecidableEq

structure SecurityPolicy where
  ipAttemptWindows : JsMap JsString AttemptWindowEntry := .empty
  ipConnectionCounts : JsMap JsString Nat := .empty
  evaluateCount : Nat := 0

def SecurityPolicy.connections (policy : SecurityPolicy) (ipKey : JsString) : Nat :=
  (policy.ipConnectionCounts.get? ipKey).getD 0

def incrementConnectionCount (policy : SecurityPolicy) (remoteAddress : Option JsString) :
    SecurityPolicy :=
  match remoteAddress.filter (· ≠ []) with
  | none => policy
  | some address =>
    { policy with
      ipConnectionCounts := policy.ipConnectionCounts.set address (policy.connections address + 1) }

def decrementConnectionCount (policy : SecurityPolicy) (remoteAddress : Option JsString) :
    SecurityPolicy :=
  match remoteAddress.filter (· ≠ []) with
  | none => policy
  | some address =>
    let nextValue := ((policy.ipConnectionCounts.get? address).getD 1 : Int) - 1
    { policy with
      ipConnectionCounts :=
        if nextValue ≤ 0 then policy.ipConnectionCounts.delete address
        else policy.ipConnectionCounts.set address nextValue.toNat }

def getAttemptWindow (policy : SecurityPolicy) (ipKey : JsString) (currentTime : Int) :
    AttemptWindowEntry :=
  match policy.ipAttemptWindows.get? ipKey with
  | some existing => { existing with lastSeenAt := currentTime }
  | none => { counter := ⟨currentTime, 0⟩, lastSeenAt := currentTime }

/-- The entries a sweep deletes. -/
def stale (policy : SecurityPolicy) (currentTime : Int) : List JsString :=
  (policy.ipAttemptWindows.entries.filter fun entry =>
    ATTEMPT_WINDOW_TTL_MS ≤ currentTime - entry.2.lastSeenAt &&
      policy.connections entry.1 = 0).map Prod.fst

def maybeSweepAttemptWindows (policy : SecurityPolicy) (currentTime : Int) : SecurityPolicy :=
  let counted := { policy with evaluateCount := policy.evaluateCount + 1 }
  if counted.evaluateCount % ATTEMPT_WINDOW_SWEEP_INTERVAL ≠ 0 then counted
  else
    { counted with
      ipAttemptWindows :=
        (stale counted currentTime).foldl (fun windows key => windows.delete key)
          counted.ipAttemptWindows }

structure RequestContext where
  remoteAddress : Option JsString
  origin : Option JsString
  deriving DecidableEq

inductive UpgradeDecision where
  | ok (context : RequestContext)
  | refused (statusCode : Nat) (statusText : String) (context : RequestContext) (reason : String)
  deriving DecidableEq

/-- The entry of the address that asks is seen now, so the sweep leaves it. -/
def evaluateUpgrade (URL : JsString → Option Origin) (config : SecurityConfig)
    (policy : SecurityPolicy) (currentTime : Int) (request : UpgradeRequest) :
    UpgradeDecision × SecurityPolicy :=
  let remoteAddress := getRemoteAddress config request
  let context : RequestContext := { remoteAddress, origin := request.origin }
  let ipKey := remoteAddress.getD (js "unknown")
  let window := getAttemptWindow policy ipKey currentTime
  let seen := { policy with ipAttemptWindows := policy.ipAttemptWindows.set ipKey window }
  let swept := maybeSweepAttemptWindows seen currentTime
  let (allowed, counter) := consumeFixedWindow window.counter config.connectionAttemptsPerMinute
    WINDOW_MINUTE_MS currentTime
  let next :=
    { swept with ipAttemptWindows := swept.ipAttemptWindows.set ipKey { window with counter } }
  if !allowed then
    (.refused 429 "Too Many Requests" context "connection_attempt_rate_limited", next)
  else
    match isOriginAllowed URL config request.origin with
    | some reason => (.refused 403 "Forbidden" context reason, next)
    | none =>
      if config.maxConnectionsPerIp ≤ next.connections ipKey then
        (.refused 429 "Too Many Requests" context "connection_count_limited", next)
      else (.ok context, next)

/-- The limits know a request by its address and its origin. -/
theorem evaluateUpgrade_congr (URL : JsString → Option Origin) {config : SecurityConfig}
    {left right : UpgradeRequest}
    (address : getRemoteAddress config left = getRemoteAddress config right)
    (origin : left.origin = right.origin) (policy : SecurityPolicy) (now : Int) :
    evaluateUpgrade URL config policy now left = evaluateUpgrade URL config policy now right := by
  unfold evaluateUpgrade
  rw [address, origin]

/-! ## What a client may write -/

variable {config : SecurityConfig}

/-- An entry the proxies answer for: the client's address, as the outermost of them saw it, and
behind it only the proxies. -/
structure Vouched (config : SecurityConfig) (address : JsString) (suffix : List JsString) :
    Prop where
  split : ∃ client hops, suffix = client :: hops ∧ normalizeIpAddress client = some address ∧
    ∀ hop ∈ hops, ∃ proxy ∈ config.proxies, normalizeIpAddress hop = some proxy
  outside : address ∉ config.proxies

theorem Vouched.valid {address : JsString} {suffix : List JsString}
    (vouched : Vouched config address suffix) : ∀ entry ∈ suffix, valid entry = true := by
  obtain ⟨client, hops, rfl, read, trusted⟩ := vouched.split
  intro entry mem
  rcases List.mem_cons.mp mem with rfl | hop
  · rw [Admission.valid, read, Option.isSome_some]
  · obtain ⟨proxy, -, same⟩ := trusted entry hop
    rw [Admission.valid, same, Option.isSome_some]

/-- The scan from the right ends at the client's address. -/
theorem Vouched.found {address : JsString} {suffix : List JsString}
    (vouched : Vouched config address suffix) (written : List JsString) :
    ((written ++ suffix).filterMap normalizeIpAddress).reverse.find?
      (fun candidate => candidate ∉ config.proxies) = some address := by
  obtain ⟨client, hops, rfl, read, trusted⟩ := vouched.split
  have passed : (hops.filterMap normalizeIpAddress).reverse.find?
      (fun candidate => decide (candidate ∉ config.proxies)) = none := by
    rw [List.find?_eq_none]
    intro candidate mem
    obtain ⟨hop, listed, same⟩ := List.mem_filterMap.mp (List.mem_reverse.mp mem)
    obtain ⟨proxy, known, named⟩ := trusted hop listed
    rw [same] at named
    cases named
    simpa using known
  rw [List.filterMap_append, List.filterMap_cons_some read, List.reverse_append,
    List.reverse_cons, List.append_assoc, List.find?_append, passed, Option.none_or]
  exact List.find?_cons_of_pos (by simpa using vouched.outside)

/-- A header with an entry that is not blank is not blank. -/
theorem trim_ne_nil {forwarded entry : JsString} (mem : entry ∈ entries forwarded)
    (nonempty : entry ≠ []) : Protocol.trim forwarded ≠ [] := by
  intro blank
  have plain : ∀ u ∈ forwarded, (u == char ',') = false := by
    intro u here
    have white := white_of_trim blank u here
    by_contra comma
    rw [beq_iff_eq.mp (Bool.of_not_eq_false comma)] at white
    revert white
    decide
  rw [entries, List.splitOn_eq_splitOnP, List.splitOnP_eq_singleton plain, List.map_singleton,
    List.mem_singleton, blank] at mem
  exact nonempty mem

/-- Whatever stands before what the proxies vouch for, the request is counted under the address
they saw, or, where some of it is no address, under their own. -/
theorem getRemoteAddress_forwarded {request : UpgradeRequest} {proxy forwarded : JsString}
    (peer : request.peer = some proxy) (trusted : proxy ∈ config.proxies)
    (header : request.forwarded = some forwarded) {written suffix : List JsString}
    {address : JsString} (list : entries forwarded = written ++ suffix)
    (vouched : Vouched config address suffix) :
    getRemoteAddress config request =
      if written.all valid then some address else some proxy := by
  have filled : Protocol.trim forwarded ≠ [] := by
    obtain ⟨client, hops, same, -, -⟩ := vouched.split
    have mem : client ∈ suffix := by rw [same]; exact List.mem_cons_self
    exact trim_ne_nil (by rw [list]; exact List.mem_append_right _ mem)
      (valid_ne_nil (vouched.valid client mem))
  have suffixValid : suffix.all valid := List.all_eq_true.mpr vouched.valid
  rw [getRemoteAddress, peer, header]
  simp only [trusted, filled, ne_eq, not_false_eq_true, and_self, if_true,
    getTrustedForwardedAddress, parseForwardedChain_eq, list, List.all_append, suffixValid,
    Bool.and_true]
  by_cases ok : written.all valid
  · rw [if_pos ok, if_pos ok, Option.bind_some, vouched.found, Option.getD_some]
  · rw [if_neg ok, if_neg ok, Option.bind_none, Option.getD_none]

/-- Two requests through one proxy, of which it vouches for the same: what a client writes before
that moves its request to no address but the proxy's own, and only by an entry that is none. -/
theorem forwarded_address_ignores_what_the_client_wrote (URL : JsString → Option Origin)
    {left right : UpgradeRequest} {proxy forwarded forwarded' address : JsString}
    {written written' suffix : List JsString}
    (peer : left.peer = some proxy) (peer' : right.peer = some proxy)
    (trusted : proxy ∈ config.proxies)
    (header : left.forwarded = some forwarded) (header' : right.forwarded = some forwarded')
    (list : entries forwarded = written ++ suffix)
    (list' : entries forwarded' = written' ++ suffix)
    (vouched : Vouched config address suffix) :
    ((∀ entry ∈ written, valid entry = true) → (∀ entry ∈ written', valid entry = true) →
      getRemoteAddress config left = some address ∧
        getRemoteAddress config left = getRemoteAddress config right ∧
        (left.origin = right.origin → ∀ policy now,
          evaluateUpgrade URL config policy now left =
            evaluateUpgrade URL config policy now right)) ∧
    ((∃ entry ∈ written, valid entry = false) → getRemoteAddress config left = some proxy) := by
  have here := getRemoteAddress_forwarded peer trusted header list vouched
  have there := getRemoteAddress_forwarded peer' trusted header' list' vouched
  constructor
  · intro clean clean'
    rw [if_pos (List.all_eq_true.mpr clean)] at here
    rw [if_pos (List.all_eq_true.mpr clean')] at there
    have same : getRemoteAddress config left = getRemoteAddress config right :=
      here.trans there.symm
    exact ⟨here, same, evaluateUpgrade_congr URL same⟩
  · rintro ⟨entry, mem, bad⟩
    rw [here, if_neg]
    intro whole
    rw [List.all_eq_true.mp whole entry mem] at bad
    cases bad

def localProxy : SecurityConfig where
  trustedProxyAddresses := [js "127.0.0.1", js "::ffff:198.51.100.7"]
  maxConnectionsPerIp := 1
  connectionAttemptsPerMinute := 10

def through (forwarded : String) : UpgradeRequest where
  remoteAddress := some (js "::ffff:127.0.0.1")
  forwarded := some (js forwarded)

theorem vouched_client :
    Vouched localProxy (js "203.0.113.10") [js "203.0.113.10", js "198.51.100.7"] where
  split := ⟨js "203.0.113.10", [js "198.51.100.7"], rfl, by decide +kernel, by decide +kernel⟩
  outside := by decide +kernel

theorem valid_entries_change_nothing :
    getRemoteAddress localProxy (through "192.0.2.55,[::1], 203.0.113.10, 198.51.100.7") =
        getRemoteAddress localProxy (through "203.0.113.10,198.51.100.7") ∧
      getRemoteAddress localProxy (through "unknown, 203.0.113.10, 198.51.100.7") =
        some (js "127.0.0.1") := by
  have peer (forwarded : String) : (through forwarded).peer = some (js "127.0.0.1") :=
    show normalizeIpAddress (js "::ffff:127.0.0.1") = _ by decide +kernel
  have trusted : js "127.0.0.1" ∈ localProxy.proxies := by decide +kernel
  have plain : entries (js "203.0.113.10,198.51.100.7") =
      [] ++ [js "203.0.113.10", js "198.51.100.7"] := by decide +kernel
  have longer : entries (js "192.0.2.55,[::1], 203.0.113.10, 198.51.100.7") =
      [js "192.0.2.55", js "[::1]"] ++ [js "203.0.113.10", js "198.51.100.7"] := by
    decide +kernel
  have broken : entries (js "unknown, 203.0.113.10, 198.51.100.7") =
      [js "unknown"] ++ [js "203.0.113.10", js "198.51.100.7"] := by decide +kernel
  have same := (forwarded_address_ignores_what_the_client_wrote (fun _ => none) (peer _) (peer _)
    trusted rfl rfl longer plain vouched_client).1 (by decide +kernel) (by decide +kernel)
  have moved := (forwarded_address_ignores_what_the_client_wrote (fun _ => none) (peer _) (peer _)
    trusted rfl rfl broken plain vouched_client).2 (by decide +kernel)
  exact ⟨same.2.1, moved⟩

/-- An entry that is no address charges the request to the proxy. -/
theorem malformed_entry_moves_the_address :
    Vouched localProxy (js "203.0.113.10") [js "203.0.113.10", js "198.51.100.7"] ∧
      entries (js "unknown, 203.0.113.10, 198.51.100.7") =
        [js "unknown"] ++ [js "203.0.113.10", js "198.51.100.7"] ∧
      getRemoteAddress localProxy (through "203.0.113.10, 198.51.100.7") ≠
        getRemoteAddress localProxy (through "unknown, 203.0.113.10, 198.51.100.7") :=
  ⟨vouched_client, by decide +kernel, by decide +kernel⟩

end BiliSyncPlay.Admission
