import BiliSyncPlay.Json.Documents
import BiliSyncPlay.Protocol.Primitives

/-!
# The runtime configuration

A config file is checked field by field, written out as environment variables beneath the real
ones, and read back from there. What follows the reading, the policy checks of the sections, can
only refuse a configuration and is left out, and so is an environment that maps a name to
`undefined`. An object of sections is known by its leaves, for no path of the schema begins
another.
-/

namespace BiliSyncPlay.Config

open Json RedisRoomStore Protocol

/-! ## The schema -/

inductive ConfigValueKind where
  | integer
  | positiveInteger
  | boolean
  | string
  | stringArray
  | enum
  deriving DecidableEq

abbrev Path := List JsString

structure ConfigField where
  path : Path
  envName : String
  kind : ConfigValueKind
  enumValues : List JsString := []
  deriving DecidableEq

def createField (path : List String) (envName : String) (kind : ConfigValueKind)
    (enumValues : List String := []) : ConfigField where
  path := path.map js
  envName := envName
  kind := kind
  enumValues := enumValues.map js

def SERVER_CONFIG_FIELDS : List ConfigField :=
  [createField ["port"] "PORT" .integer,
    createField ["globalAdminPort"] "GLOBAL_ADMIN_PORT" .integer,
    createField ["metricsPort"] "METRICS_PORT" .integer,
    createField ["logLevel"] "LOG_LEVEL" .enum ["debug", "info", "warn", "error"],
    createField ["security", "allowedOrigins"] "ALLOWED_ORIGINS" .stringArray,
    createField ["security", "allowMissingOriginInDev"] "ALLOW_MISSING_ORIGIN_IN_DEV" .boolean,
    createField ["security", "allowAnyFirefoxExtensionOrigin"]
      "ALLOW_ANY_FIREFOX_EXTENSION_ORIGIN" .boolean,
    createField ["security", "trustedProxyAddresses"] "TRUSTED_PROXY_ADDRESSES" .stringArray,
    createField ["security", "maxConnectionsPerIp"] "MAX_CONNECTIONS_PER_IP" .positiveInteger,
    createField ["security", "connectionAttemptsPerMinute"]
      "CONNECTION_ATTEMPTS_PER_MINUTE" .positiveInteger,
    createField ["security", "maxMembersPerRoom"] "MAX_MEMBERS_PER_ROOM" .positiveInteger,
    createField ["security", "maxMessageBytes"] "MAX_MESSAGE_BYTES" .positiveInteger,
    createField ["security", "invalidMessageCloseThreshold"]
      "INVALID_MESSAGE_CLOSE_THRESHOLD" .positiveInteger,
    createField ["security", "wsHeartbeatEnabled"] "WS_HEARTBEAT_ENABLED" .boolean,
    createField ["security", "wsHeartbeatIntervalMs"] "WS_HEARTBEAT_INTERVAL_MS" .positiveInteger,
    createField ["security", "metricsToken"] "METRICS_TOKEN" .string,
    createField ["security", "rateLimits", "roomCreatePerMinute"]
      "RATE_LIMIT_ROOM_CREATE_PER_MINUTE" .positiveInteger,
    createField ["security", "rateLimits", "roomJoinPerMinute"]
      "RATE_LIMIT_ROOM_JOIN_PER_MINUTE" .positiveInteger,
    createField ["security", "rateLimits", "videoSharePer10Seconds"]
      "RATE_LIMIT_VIDEO_SHARE_PER_10_SECONDS" .positiveInteger,
    createField ["security", "rateLimits", "playbackUpdatePerSecond"]
      "RATE_LIMIT_PLAYBACK_UPDATE_PER_SECOND" .positiveInteger,
    createField ["security", "rateLimits", "playbackUpdateBurst"]
      "RATE_LIMIT_PLAYBACK_UPDATE_BURST" .positiveInteger,
    createField ["security", "rateLimits", "syncRequestPer10Seconds"]
      "RATE_LIMIT_SYNC_REQUEST_PER_10_SECONDS" .positiveInteger,
    createField ["security", "rateLimits", "syncPingPerSecond"]
      "RATE_LIMIT_SYNC_PING_PER_SECOND" .positiveInteger,
    createField ["security", "rateLimits", "syncPingBurst"]
      "RATE_LIMIT_SYNC_PING_BURST" .positiveInteger,
    createField ["security", "rateLimits", "adminLoginFailuresPerIpPerMinute"]
      "RATE_LIMIT_ADMIN_LOGIN_FAILURES_PER_IP_PER_MINUTE" .positiveInteger,
    createField ["security", "rateLimits", "adminLoginFailuresPerUsernamePerMinute"]
      "RATE_LIMIT_ADMIN_LOGIN_FAILURES_PER_USERNAME_PER_MINUTE" .positiveInteger,
    createField ["persistence", "provider"] "ROOM_STORE_PROVIDER" .enum ["memory", "redis"],
    createField ["persistence", "runtimeStoreProvider"]
      "RUNTIME_STORE_PROVIDER" .enum ["memory", "redis"],
    createField ["persistence", "roomEventBusProvider"]
      "ROOM_EVENT_BUS_PROVIDER" .enum ["none", "memory", "redis"],
    createField ["persistence", "adminCommandBusProvider"]
      "ADMIN_COMMAND_BUS_PROVIDER" .enum ["none", "memory", "redis"],
    createField ["persistence", "nodeHeartbeatEnabled"] "NODE_HEARTBEAT_ENABLED" .boolean,
    createField ["persistence", "nodeHeartbeatIntervalMs"]
      "NODE_HEARTBEAT_INTERVAL_MS" .positiveInteger,
    createField ["persistence", "nodeHeartbeatTtlMs"] "NODE_HEARTBEAT_TTL_MS" .positiveInteger,
    createField ["persistence", "emptyRoomTtlMs"] "EMPTY_ROOM_TTL_MS" .positiveInteger,
    createField ["persistence", "roomCleanupIntervalMs"]
      "ROOM_CLEANUP_INTERVAL_MS" .positiveInteger,
    createField ["persistence", "redisUrl"] "REDIS_URL" .string,
    createField ["persistence", "redisNamespace"] "REDIS_NAMESPACE" .string,
    createField ["persistence", "instanceId"] "INSTANCE_ID" .string,
    createField ["adminUi", "apiBaseUrl"] "GLOBAL_ADMIN_API_BASE_URL" .string,
    createField ["adminUi", "enabled"] "GLOBAL_ADMIN_ENABLED" .boolean]

def sectionFields (sectionName : String) : List ConfigField :=
  SERVER_CONFIG_FIELDS.filter fun field => field.path.head? = some (js sectionName)

def SECURITY_CONFIG_FIELDS : List ConfigField := sectionFields "security"

def PERSISTENCE_CONFIG_FIELDS : List ConfigField := sectionFields "persistence"

def ADMIN_UI_CONFIG_FIELDS : List ConfigField := sectionFields "adminUi"

mutual
inductive SchemaNode where
  | node (field : Option ConfigField) (children : SchemaChildren)

inductive SchemaChildren where
  | nil
  | cons (key : JsString) (child : SchemaNode) (rest : SchemaChildren)
end

def SchemaNode.empty : SchemaNode := .node none .nil

/-- The child of a key changed, or added where there is none. -/
def SchemaChildren.upsert (key : JsString) (change : SchemaNode → SchemaNode) :
    SchemaChildren → SchemaChildren
  | .nil => .cons key (change .empty) .nil
  | .cons other child rest =>
    if other = key then .cons other (change child) rest
    else .cons other child (rest.upsert key change)

def SchemaNode.insert (field : ConfigField) : Path → SchemaNode → SchemaNode
  | [], .node _ children => .node (some field) children
  | segment :: rest, .node own children =>
    .node own (children.upsert segment fun child => child.insert field rest)

def createSchemaTree (fields : List ConfigField) : SchemaNode :=
  fields.foldl (fun root field => root.insert field field.path) .empty

def SERVER_CONFIG_SCHEMA_TREE : SchemaNode := createSchemaTree SERVER_CONFIG_FIELDS

def SchemaChildren.keys : SchemaChildren → List JsString
  | .nil => []
  | .cons key _ rest => key :: rest.keys

/-! ## The file -/

/-- A value of the configuration; `none` stands for `undefined`. -/
abbrev Value := Option (Doc JsString)

abbrev Parsed (α : Type) := Except JsString α

def mustBe (scope : JsString) (what : String) : JsString :=
  js "Config field \"" ++ scope ++ js "\" must be " ++ js what

def assertInteger (scope : JsString) : Value → Parsed Value
  | none => .ok none
  | some (.num q) => if q.den = 1 then .ok (some (.num q)) else .error (mustBe scope "an integer.")
  | some _ => .error (mustBe scope "an integer.")

def assertPositiveInteger (scope : JsString) (value : Value) : Parsed Value := do
  match ← assertInteger scope value with
  | some (.num q) =>
    if q ≤ 0 then .error (mustBe scope "greater than 0.") else .ok (some (.num q))
  | parsed => .ok parsed

def assertBoolean (scope : JsString) : Value → Parsed Value
  | none => .ok none
  | some (.bool b) => .ok (some (.bool b))
  | some _ => .error (mustBe scope "a boolean.")

def assertString (scope : JsString) : Value → Parsed Value
  | none => .ok none
  | some (.str s) => .ok (some (.str s))
  | some _ => .error (mustBe scope "a string.")

/-- The strings of an array that holds nothing else. -/
def Strings? : Items JsString → Option (List JsString)
  | .nil => some []
  | .cons (.str s) rest => (Strings? rest).map (s :: ·)
  | .cons _ _ => none

def assertStringArray (scope : JsString) : Value → Parsed Value
  | none => .ok none
  | some (.arr items) =>
    if (Strings? items).isSome then .ok (some (.arr items))
    else .error (mustBe scope "an array of strings.")
  | some _ => .error (mustBe scope "an array of strings.")

def joined (separator : JsString) (texts : List JsString) : JsString :=
  List.intercalate separator texts

def parseConfigFileFieldValue (field : ConfigField) (scope : JsString) (value : Value) :
    Parsed Value :=
  match field.kind with
  | .integer => assertInteger scope value
  | .positiveInteger => assertPositiveInteger scope value
  | .boolean => assertBoolean scope value
  | .string => assertString scope value
  | .enum => do
    match ← assertString scope value with
    | some (.str s) =>
      if s ∈ field.enumValues then .ok (some (.str s))
      else .error (mustBe scope "one of " ++ joined (js ", ") field.enumValues ++ js ".")
    | parsed => .ok parsed
  | .stringArray => assertStringArray scope value

def DEPRECATED_CONFIG_KEYS : List JsString := [js "adminUi.demoEnabled"]

/-- The names of an object that are no keys of the schema, and not deprecated either. -/
def assertAllowedKeys (scope : JsString) (allowedKeys : List JsString) :
    Fields JsString → Parsed Unit
  | .nil => .ok ()
  | .cons key _ rest =>
    if key ∈ allowedKeys ∨ scope ++ key ∈ DEPRECATED_CONFIG_KEYS then
      assertAllowedKeys scope allowedKeys rest
    else .error (js "Unsupported config key \"" ++ scope ++ key ++ js "\".")

/-- The object at a node, `undefined` where the file has none. -/
def objectAt (scope : JsString) (keys : List JsString) : Value → Parsed (Option (Fields JsString))
  | some (.obj fields) => do
    assertAllowedKeys (if scope = [] then [] else scope ++ js ".") keys fields
    return some fields
  | value =>
    if scope = [] then .error (js "Config file root must be a JSON object.")
    else
      match value with
      | none => .ok none
      | some _ => .error (mustBe scope "an object.")

mutual
def parseConfigNode : SchemaNode → JsString → Value → Parsed Value
  | .node (some field) _, scope, value => parseConfigFileFieldValue field scope value
  | .node none children, scope, value => do
    match ← objectAt scope children.keys value with
    | none => return none
    | some fields => return some (.obj (← parseChildren children scope fields))

def parseChildren : SchemaChildren → JsString → Fields JsString → Parsed (Fields JsString)
  | .nil, _, _ => .ok .nil
  | .cons key child rest, scope, fields => do
    let childScope := if scope = [] then key else scope ++ js "." ++ key
    let childValue ← parseConfigNode child childScope (fields.get? key)
    let others ← parseChildren rest scope fields
    return match childValue with
      | none => others
      | some value => .cons key value others
end

def parseConfigFileShape (raw : Doc JsString) : Parsed Value :=
  parseConfigNode SERVER_CONFIG_SCHEMA_TREE [] (some raw)

def getConfigValue : Value → Path → Value
  | source, [] => source
  | source, segment :: rest => getConfigValue (source.bind (·.get? segment)) rest

/-! ## The environment -/

/-- The numbers of JavaScript and how they are written. A number that is written out is read back,
and never blank. -/
structure NumberText where
  Represented : Rat → Prop
  toText : Rat → JsString
  parse : JsString → Option Rat
  parse_toText : ∀ q, Represented q → parse (toText q) = some q
  trim_toText : ∀ q, Represented q → Protocol.trim (toText q) ≠ []

abbrev EnvSource := String → Option JsString

section
variable (numbers : NumberText)

mutual
/-- `String(value)`, which joins an array with commas. -/
def valueText : Doc JsString → JsString
  | .null => js "null"
  | .bool true => js "true"
  | .bool false => js "false"
  | .num q => numbers.toText q
  | .str s => s
  | .arr items => joined (js ",") (itemTexts items)
  | .obj _ => js "[object Object]"

def itemTexts : Items JsString → List JsString
  | .nil => []
  | .cons .null rest => [] :: itemTexts rest
  | .cons value rest => valueText value :: itemTexts rest
end

def setEnvValue (env : EnvSource) (name : String) (value : Value) : EnvSource :=
  match value with
  | none => env
  | some value => fun other => if other = name then some (valueText numbers value) else env other

def configFileToEnv (fileConfig : Value) : EnvSource :=
  SERVER_CONFIG_FIELDS.foldl
    (fun env field => setEnvValue numbers env field.envName (getConfigValue fileConfig field.path))
    fun _ => none

def readTrimmedEnv (env : EnvSource) (name : String) : Option JsString :=
  ((env name).map Protocol.trim).filter (· ≠ [])

def texts : List JsString → Items JsString
  | [] => .nil
  | s :: rest => .cons (.str s) (texts rest)

def parseCsvEnv (env : EnvSource) (name : String) (fallback : Value) : Value :=
  match (env name).filter (· ≠ []) with
  | none => fallback
  | some rawValue =>
    some (.arr (texts (((rawValue.splitOn (char ',')).map Protocol.trim).filter (· ≠ []))))

def envMustBe (name : String) (what : JsString) : JsString :=
  js "Environment variable " ++ js name ++ js " must be " ++ what ++ js "."

def parseBooleanEnv (env : EnvSource) (name : String) (fallback : Value) : Parsed Value :=
  match env name with
  | none => .ok fallback
  | some rawValue =>
    if rawValue = js "true" then .ok (some (.bool true))
    else if rawValue = js "false" then .ok (some (.bool false))
    else .error (envMustBe name (js "\"true\" or \"false\""))

def parseIntegerEnv (env : EnvSource) (name : String) (fallback : Value) : Parsed Value :=
  match env name with
  | none => .ok fallback
  | some rawValue =>
    match (numbers.parse rawValue).filter (·.den = 1) with
    | none => .error (envMustBe name (js "an integer"))
    | some parsedValue => .ok (some (.num parsedValue))

def parsePositiveIntegerEnv (env : EnvSource) (name : String) (fallback : Value) :
    Parsed Value := do
  match ← parseIntegerEnv numbers env name fallback with
  | some (.num q) =>
    if q ≤ 0 then .error (envMustBe name (js "greater than 0")) else .ok (some (.num q))
  | parsedValue => .ok parsedValue

def parseConfigEnvFieldValue (field : ConfigField) (env : EnvSource) (fallback : Value) :
    Parsed Value :=
  match field.kind with
  | .integer => parseIntegerEnv numbers env field.envName fallback
  | .positiveInteger => parsePositiveIntegerEnv numbers env field.envName fallback
  | .boolean => parseBooleanEnv env field.envName fallback
  | .stringArray => .ok (parseCsvEnv env field.envName fallback)
  | .string => .ok (((readTrimmedEnv env field.envName).map Doc.str).or fallback)
  | .enum =>
    match (env field.envName).filter (· ≠ []) with
    | none => .ok fallback
    | some rawValue =>
      if rawValue ∈ field.enumValues then .ok (some (.str rawValue))
      else
        .error (envMustBe field.envName (js "one of " ++
          joined (js ", ") (field.enumValues.map fun value => js "\"" ++ value ++ js "\"")))

/-! ## The configuration -/

/-- An object, by the paths of its leaves. -/
abbrev Settings := List (Path × Value)

def Settings.get (settings : Settings) (path : Path) : Value := (settings.lookup path).join

def loadSectionConfigFromEnv (env : EnvSource) (defaults fallbackOverrides : Settings) :
    List ConfigField → Parsed Settings
  | [] => .ok []
  | field :: rest => do
    let localPath := field.path.tail
    let fallback := (fallbackOverrides.lookup field.path).getD (defaults.get localPath)
    let value ← parseConfigEnvFieldValue numbers field env fallback
    let others ← loadSectionConfigFromEnv env defaults fallbackOverrides rest
    return (localPath, value) :: others

def setting (path : List String) (value : Value) : Path × Value := (path.map js, value)

def number (n : Nat) : Value := some (.num n)

def text (s : String) : Value := some (.str (js s))

def flag (b : Bool) : Value := some (.bool b)

def getDefaultSecurityConfig : Settings :=
  [setting ["allowedOrigins"] (some (.arr .nil)),
    setting ["allowMissingOriginInDev"] (flag false),
    setting ["allowAnyFirefoxExtensionOrigin"] (flag false),
    setting ["trustedProxyAddresses"] (some (.arr .nil)),
    setting ["maxConnectionsPerIp"] (number 10),
    setting ["connectionAttemptsPerMinute"] (number 20),
    setting ["maxMembersPerRoom"] (number 8),
    setting ["maxMessageBytes"] (number (8 * 1024)),
    setting ["invalidMessageCloseThreshold"] (number 3),
    setting ["wsHeartbeatEnabled"] (flag true),
    setting ["wsHeartbeatIntervalMs"] (number 30000),
    setting ["rateLimits", "roomCreatePerMinute"] (number 3),
    setting ["rateLimits", "roomJoinPerMinute"] (number 10),
    setting ["rateLimits", "videoSharePer10Seconds"] (number 3),
    setting ["rateLimits", "playbackUpdatePerSecond"] (number 8),
    setting ["rateLimits", "playbackUpdateBurst"] (number 12),
    setting ["rateLimits", "syncRequestPer10Seconds"] (number 6),
    setting ["rateLimits", "syncPingPerSecond"] (number 1),
    setting ["rateLimits", "syncPingBurst"] (number 2),
    setting ["rateLimits", "adminLoginFailuresPerIpPerMinute"] (number 10),
    setting ["rateLimits", "adminLoginFailuresPerUsernamePerMinute"] (number 5)]

def getDefaultPersistenceConfig : Settings :=
  [setting ["provider"] (text "memory"),
    setting ["runtimeStoreProvider"] (text "memory"),
    setting ["roomEventBusProvider"] (text "memory"),
    setting ["adminCommandBusProvider"] (text "memory"),
    setting ["nodeHeartbeatEnabled"] (flag false),
    setting ["nodeHeartbeatIntervalMs"] (number 15000),
    setting ["nodeHeartbeatTtlMs"] (number 45000),
    setting ["emptyRoomTtlMs"] (number (15 * 60 * 1000)),
    setting ["roomCleanupIntervalMs"] (number (60 * 1000)),
    setting ["redisUrl"] (text "redis://localhost:6379"),
    setting ["redisNamespace"] none,
    setting ["instanceId"] (text "instance-1")]

def defaultAdminUiConfig : Settings :=
  [setting ["apiBaseUrl"] none, setting ["enabled"] (flag true)]

/-- The field of a list that a path names. -/
def fieldAt (fields : List ConfigField) (path : List String) : ConfigField :=
  (fields.find? (·.path = path.map js)).getD (createField path "" .string)

def LOG_LEVEL_FIELD : ConfigField := fieldAt SERVER_CONFIG_FIELDS ["logLevel"]

def loadSecurityConfig (env : EnvSource) : Parsed Settings :=
  loadSectionConfigFromEnv numbers env getDefaultSecurityConfig [] SECURITY_CONFIG_FIELDS

def loadPersistenceConfig (env : EnvSource) : Parsed Settings := do
  let defaults := getDefaultPersistenceConfig
  let read (name : String) (fallback : Value) : Parsed Value :=
    parseConfigEnvFieldValue numbers (fieldAt PERSISTENCE_CONFIG_FIELDS ["persistence", name]) env
      fallback
  let defaultOf (name : String) : Value := defaults.get [js name]
  let provider ← read "provider" (defaultOf "provider")
  let runtimeStoreProvider ← read "runtimeStoreProvider"
    (if provider = text "redis" then text "redis" else defaultOf "runtimeStoreProvider")
  let roomEventBusProvider ← read "roomEventBusProvider"
    (if runtimeStoreProvider = text "redis" then text "redis" else defaultOf "roomEventBusProvider")
  let adminCommandBusProvider ← read "adminCommandBusProvider"
    (if runtimeStoreProvider = text "redis" then text "redis"
    else defaultOf "adminCommandBusProvider")
  loadSectionConfigFromEnv numbers env defaults
    [setting ["persistence", "provider"] provider,
      setting ["persistence", "runtimeStoreProvider"] runtimeStoreProvider,
      setting ["persistence", "roomEventBusProvider"] roomEventBusProvider,
      setting ["persistence", "adminCommandBusProvider"] adminCommandBusProvider]
    PERSISTENCE_CONFIG_FIELDS

def loadAdminUiConfig (env : EnvSource) : Parsed Settings :=
  loadSectionConfigFromEnv numbers env defaultAdminUiConfig [] ADMIN_UI_CONFIG_FIELDS

structure RuntimeConfig where
  port : Value
  globalAdminPort : Value
  metricsPort : Value
  logLevel : Value
  securityConfig : Settings
  persistenceConfig : Settings
  adminUiConfig : Settings
  deriving DecidableEq

/-- The environment the loaders read, the real one first. -/
def mergedEnv (fileConfig : Value) (env : EnvSource) : EnvSource := fun name =>
  (env name).or (configFileToEnv numbers fileConfig name)

def loadMetricsPort (env : EnvSource) : Parsed Value :=
  if (readTrimmedEnv env "METRICS_PORT").isSome then
    parseIntegerEnv numbers env "METRICS_PORT" (number 0)
  else .ok none

/-- From a file that was parsed, up to the policy checks. -/
def loadRuntimeConfig (fileConfig : Value) (env : EnvSource) : Parsed RuntimeConfig := do
  let mergedEnv := mergedEnv numbers fileConfig env
  let port ← parseIntegerEnv numbers mergedEnv "PORT" (number 8787)
  let adminFallback ← parseIntegerEnv numbers mergedEnv "PORT" (number 8788)
  let globalAdminPort ← parseIntegerEnv numbers mergedEnv "GLOBAL_ADMIN_PORT" adminFallback
  let metricsPort ← loadMetricsPort numbers mergedEnv
  let logLevel ← parseConfigEnvFieldValue numbers LOG_LEVEL_FIELD mergedEnv (text "info")
  let securityConfig ← loadSecurityConfig numbers mergedEnv
  let persistenceConfig ← loadPersistenceConfig numbers mergedEnv
  let adminUiConfig ← loadAdminUiConfig numbers mergedEnv
  return ⟨port, globalAdminPort, metricsPort, logLevel, securityConfig, persistenceConfig,
    adminUiConfig⟩

end

/-- Where a field of the schema is found in the configuration. -/
def readRuntimeValue (config : RuntimeConfig) (path : Path) : Value :=
  match path with
  | [] => none
  | head :: rest =>
    if head = js "port" then config.port
    else if head = js "globalAdminPort" then config.globalAdminPort
    else if head = js "metricsPort" then config.metricsPort
    else if head = js "logLevel" then config.logLevel
    else if head = js "security" then config.securityConfig.get rest
    else if head = js "persistence" then config.persistenceConfig.get rest
    else if head = js "adminUi" then config.adminUiConfig.get rest
    else none

end BiliSyncPlay.Config
