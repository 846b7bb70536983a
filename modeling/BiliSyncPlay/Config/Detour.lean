import BiliSyncPlay.Config.RuntimeConfig
import BiliSyncPlay.Lists
import Mathlib.Data.List.Nodup
import Mathlib.Data.Nat.Digits.Defs
import Mathlib.Data.Rat.Cast.Defs

/-!
# From the file to the environment and back

What the file parser accepts is written out as text and read back by the parser of the environment,
which trims, splits at commas and takes blanks for nothing. A value comes back as it was exactly
where that does not touch it.
-/

namespace BiliSyncPlay.Config

open Json RedisRoomStore Protocol

/-! ## What the file parser accepts -/

/-- The values a field may have in a parsed file. -/
inductive Accepts (field : ConfigField) : Doc JsString → Prop
  | integer {q : Rat} : field.kind = .integer → q.den = 1 → Accepts field (.num q)
  | positiveInteger {q : Rat} : field.kind = .positiveInteger → q.den = 1 → 0 < q →
      Accepts field (.num q)
  | boolean (b : Bool) : field.kind = .boolean → Accepts field (.bool b)
  | string (s : JsString) : field.kind = .string → Accepts field (.str s)
  | enum {s : JsString} : field.kind = .enum → s ∈ field.enumValues → Accepts field (.str s)
  | stringArray (entries : List JsString) : field.kind = .stringArray →
      Accepts field (.arr (texts entries))

theorem bind_eq_ok {α β : Type} {first : Parsed α} {next : α → Parsed β} {b : β}
    (ok : first >>= next = .ok b) : ∃ a, first = .ok a ∧ next a = .ok b := by
  cases first with
  | error message => cases ok
  | ok a => exact ⟨a, rfl, ok⟩

variable {field : ConfigField} {scope : JsString} {value : Doc JsString} {raw : Value}

theorem assertInteger_eq_some (ok : assertInteger scope raw = .ok (some value)) :
    ∃ q : Rat, value = .num q ∧ q.den = 1 := by
  match raw with
  | none => cases ok
  | some (.num q) =>
    by_cases whole : q.den = 1
    · simp only [assertInteger, whole, if_true] at ok
      cases ok
      exact ⟨q, rfl, whole⟩
    · simp only [assertInteger, whole, if_false] at ok
      cases ok
  | some .null | some (.bool _) | some (.str _) | some (.arr _) | some (.obj _) => cases ok

theorem assertString_eq_some (ok : assertString scope raw = .ok (some value)) :
    ∃ s, value = .str s := by
  match raw with
  | none => cases ok
  | some (.str s) =>
    cases ok
    exact ⟨s, rfl⟩
  | some .null | some (.bool _) | some (.num _) | some (.arr _) | some (.obj _) => cases ok

theorem eq_texts {items : Items JsString} {entries : List JsString}
    (read : Strings? items = some entries) : items = texts entries := by
  match items with
  | .nil =>
    cases read
    rfl
  | .cons (.str s) rest =>
    obtain ⟨others, found, rfl⟩ := Option.map_eq_some_iff.mp read
    rw [eq_texts found]
    rfl
  | .cons .null _ | .cons (.bool _) _ | .cons (.num _) _ | .cons (.arr _) _ | .cons (.obj _) _ =>
    cases read

theorem accepts_of_parse
    (ok : parseConfigFileFieldValue field scope raw = .ok (some value)) : Accepts field value := by
  unfold parseConfigFileFieldValue at ok
  cases kind : field.kind with
  | integer =>
    rw [kind] at ok
    obtain ⟨q, rfl, whole⟩ := assertInteger_eq_some ok
    exact .integer kind whole
  | positiveInteger =>
    rw [kind] at ok
    simp only [assertPositiveInteger] at ok
    cases parsed : assertInteger scope raw with
    | error message =>
      rw [parsed] at ok
      cases ok
    | ok found =>
      rw [parsed] at ok
      cases found with
      | none => cases ok
      | some other =>
        obtain ⟨q, rfl, whole⟩ := assertInteger_eq_some parsed
        simp only [bind, Except.bind] at ok
        by_cases low : q ≤ 0
        · rw [if_pos low] at ok
          cases ok
        · rw [if_neg low] at ok
          cases ok
          exact .positiveInteger kind whole (not_le.mp low)
  | boolean =>
    rw [kind] at ok
    cases raw with
    | none => cases ok
    | some document =>
      cases document with
      | bool b =>
        cases ok
        exact .boolean b kind
      | null | num | str | arr | obj => cases ok
  | string =>
    rw [kind] at ok
    obtain ⟨s, rfl⟩ := assertString_eq_some ok
    exact .string s kind
  | enum =>
    rw [kind] at ok
    cases parsed : assertString scope raw with
    | error message =>
      rw [parsed] at ok
      cases ok
    | ok found =>
      rw [parsed] at ok
      cases found with
      | none => cases ok
      | some other =>
        obtain ⟨s, rfl⟩ := assertString_eq_some parsed
        simp only [bind, Except.bind] at ok
        by_cases known : s ∈ field.enumValues
        · rw [if_pos known] at ok
          cases ok
          exact .enum kind known
        · rw [if_neg known] at ok
          cases ok
  | stringArray =>
    rw [kind] at ok
    cases raw with
    | none => cases ok
    | some document =>
      cases document with
      | arr items =>
        simp only [assertStringArray] at ok
        cases read : Strings? items with
        | none => simp [read] at ok
        | some entries =>
          simp only [read, Option.isSome_some, if_true] at ok
          cases ok
          rw [eq_texts read]
          exact .stringArray entries kind
      | null | num | str | bool | obj => cases ok

/-! ## Paths through the schema -/

mutual
/-- What a path ends at: a field, or a node that has none. -/
def SchemaNode.nodesAt : SchemaNode → Path → List (Option ConfigField)
  | .node own _, [] => [own]
  | .node (some _) _, _ :: _ => []
  | .node none children, segment :: rest => children.nodesAt segment rest

def SchemaChildren.nodesAt : SchemaChildren → JsString → Path → List (Option ConfigField)
  | .nil, _, _ => []
  | .cons key child others, segment, rest =>
    (if key = segment then child.nodesAt rest else []) ++ others.nodesAt segment rest
end

@[simp] theorem getConfigValue_none (path : Path) : getConfigValue none path = none := by
  induction path with
  | nil => rfl
  | cons segment rest ih => exact ih

theorem Accepts.get?_eq_none (accepts : Accepts field value) (segment : JsString) :
    value.get? segment = none := by
  cases accepts <;> rfl

/-- A value at a path is one that some node at the path let through. -/
def LetThrough (nodes : List (Option ConfigField)) (value : Doc JsString) : Prop :=
  ∃ own ∈ nodes, ∀ field ∈ own, Accepts field value

mutual
theorem parseConfigNode_at : ∀ (node : SchemaNode) {scope : JsString} {raw parsed : Value}
    {path : Path}, parseConfigNode node scope raw = .ok parsed →
      getConfigValue parsed path = some value → LetThrough (node.nodesAt path) value
  | .node (some field) _, scope, raw, parsed, path, ok, found => by
    rw [parseConfigNode] at ok
    cases path with
    | nil =>
      have held : parsed = some value := found
      rw [held] at ok
      exact ⟨some field, List.mem_singleton_self _, fun _ same => by
        cases same
        exact accepts_of_parse ok⟩
    | cons segment rest =>
      cases parsed with
      | none => simp at found
      | some leaf =>
        have absent := (accepts_of_parse ok).get?_eq_none segment
        rw [getConfigValue, Option.bind_some, absent, getConfigValue_none] at found
        cases found
  | .node none children, scope, raw, parsed, path, ok, found => by
    rw [parseConfigNode] at ok
    cases path with
    | nil => exact ⟨none, List.mem_singleton_self _, fun _ same => by cases same⟩
    | cons segment rest =>
      obtain ⟨object, at_, ok⟩ := bind_eq_ok ok
      cases object with
      | none =>
        cases ok
        simp at found
      | some fields =>
        obtain ⟨parsedFields, all, ok⟩ := bind_eq_ok ok
        cases ok
        exact parseChildren_at children all found

theorem parseChildren_at : ∀ (children : SchemaChildren) {scope : JsString}
    {fields parsed : Fields JsString} {segment : JsString} {rest : Path},
      parseChildren children scope fields = .ok parsed →
      getConfigValue (parsed.get? segment) rest = some value →
      LetThrough (children.nodesAt segment rest) value
  | .nil, scope, fields, parsed, segment, rest, ok, found => by
    rw [parseChildren] at ok
    cases ok
    simp [Fields.get?] at found
  | .cons key child others, scope, fields, parsed, segment, rest, ok, found => by
    rw [parseChildren] at ok
    obtain ⟨childValue, here, ok⟩ := bind_eq_ok ok
    obtain ⟨later, there, ok⟩ := bind_eq_ok ok
    have behind (at_ : getConfigValue (later.get? segment) rest = some value) :
        LetThrough ((SchemaChildren.cons key child others).nodesAt segment rest) value := by
      obtain ⟨own, mem, accepted⟩ := parseChildren_at others there at_
      exact ⟨own, List.mem_append_right _ mem, accepted⟩
    cases childValue with
    | none =>
      cases ok
      exact behind found
    | some first =>
      cases ok
      rw [Fields.get?] at found
      cases held : later.get? segment with
      | some last =>
        rw [held, Option.some_or] at found
        exact behind (by rw [held]; exact found)
      | none =>
        rw [held, Option.none_or] at found
        by_cases same : key = segment
        · rw [if_pos same] at found
          obtain ⟨own, mem, accepted⟩ := parseConfigNode_at child here found
          refine ⟨own, List.mem_append_left _ ?_, accepted⟩
          rw [if_pos same]
          exact mem
        · rw [if_neg same, getConfigValue_none] at found
          cases found
end

/-- The fields have paths and variables of their own. -/
theorem fields_apart : (∀ field ∈ SERVER_CONFIG_FIELDS,
    SERVER_CONFIG_SCHEMA_TREE.nodesAt field.path = [some field]) ∧
    (SERVER_CONFIG_FIELDS.map ConfigField.envName).Nodup := by
  decide +kernel

theorem schema_nodesAt : ∀ field ∈ SERVER_CONFIG_FIELDS,
    SERVER_CONFIG_SCHEMA_TREE.nodesAt field.path = [some field] :=
  fields_apart.1

/-- What a parsed file holds for a field is what the field accepts. -/
theorem accepts_of_file {file : Value} {raw : Doc JsString}
    (ok : parseConfigFileShape raw = .ok file) (listed : field ∈ SERVER_CONFIG_FIELDS)
    (present : getConfigValue file field.path = some value) : Accepts field value := by
  obtain ⟨own, mem, accepted⟩ := parseConfigNode_at SERVER_CONFIG_SCHEMA_TREE ok present
  rw [schema_nodesAt field listed, List.mem_singleton] at mem
  exact accepted field mem

/-! ## Out to the environment -/

section
variable (numbers : NumberText)

/-- The variables of some fields of a file, set one after another. -/
def setFields (file : Value) (fields : List ConfigField) (env : EnvSource) : EnvSource :=
  fields.foldl
    (fun env field => setEnvValue numbers env field.envName (getConfigValue file field.path)) env

variable {fields : List ConfigField}

theorem setFields_other {file : Value} {name : String}
    (absent : name ∉ fields.map ConfigField.envName) (env : EnvSource) :
    setFields numbers file fields env name = env name := by
  induction fields generalizing env with
  | nil => rfl
  | cons first rest ih =>
    rw [List.map_cons, List.mem_cons, not_or] at absent
    rw [setFields, List.foldl_cons, ← setFields, ih absent.2]
    cases getConfigValue file first.path with
    | none => rfl
    | some value => exact if_neg absent.1

theorem setFields_at {file : Value} (distinct : (fields.map ConfigField.envName).Nodup)
    (listed : field ∈ fields) (env : EnvSource) :
    setFields numbers file fields env field.envName =
      ((getConfigValue file field.path).map (valueText numbers)).or (env field.envName) := by
  induction fields generalizing env with
  | nil => cases listed
  | cons first rest ih =>
    rw [List.map_cons, List.nodup_cons] at distinct
    rw [setFields, List.foldl_cons, ← setFields]
    rcases List.mem_cons.mp listed with rfl | later
    · rw [setFields_other numbers distinct.1]
      cases getConfigValue file field.path with
      | none => rfl
      | some value => exact if_pos rfl
    · have other : field.envName ≠ first.envName := by
        intro same
        exact distinct.1 (same ▸ List.mem_map_of_mem later)
      rw [ih distinct.2 later]
      cases getConfigValue file first.path with
      | none => rfl
      | some value => simp only [setEnvValue, other, if_false]

theorem envNames_nodup : (SERVER_CONFIG_FIELDS.map ConfigField.envName).Nodup :=
  fields_apart.2

theorem configFileToEnv_at (file : Value) (listed : field ∈ SERVER_CONFIG_FIELDS) :
    configFileToEnv numbers file field.envName =
      (getConfigValue file field.path).map (valueText numbers) := by
  rw [configFileToEnv, ← setFields, setFields_at numbers envNames_nodup listed, Option.or_none]

/-- A variable that is not set is what the file says. -/
theorem mergedEnv_at {file : Value} {env : EnvSource} (listed : field ∈ SERVER_CONFIG_FIELDS)
    (unset : env field.envName = none) (present : getConfigValue file field.path = some value) :
    mergedEnv numbers file env field.envName = some (valueText numbers value) := by
  rw [mergedEnv, unset, Option.none_or, configFileToEnv_at numbers file listed, present,
    Option.map_some]

/-! ## And back -/

/-- Text that trimming leaves, and that is not taken for nothing. -/
def Unpadded (s : JsString) : Prop := s ≠ [] ∧ Protocol.trim s = s

/-- The values that the way through the environment leaves as they are. -/
def Survives : Doc JsString → Prop
  | .str s => Unpadded s
  | .arr items => ∀ entry ∈ items.strings, Unpadded entry ∧ char ',' ∉ entry
  | _ => True

theorem strings_texts (entries : List JsString) : (texts entries).strings = entries := by
  induction entries with
  | nil => rfl
  | cons first rest ih =>
    rw [texts, Items.strings, ih]
    rfl

theorem texts_injective : Function.Injective texts := by
  intro entries others same
  rw [← strings_texts entries, same, strings_texts]

theorem itemTexts_texts (entries : List JsString) :
    itemTexts numbers (texts entries) = entries := by
  induction entries with
  | nil => rfl
  | cons first rest ih =>
    rw [texts, itemTexts, ih]
    · rfl
    · nofun

/-- The entries the environment's parser makes of a text. -/
def csvEntries (rawValue : JsString) : List JsString :=
  ((rawValue.splitOn (char ',')).map Protocol.trim).filter (· ≠ [])

theorem mem_of_mem_trim {s : JsString} {u : CodeUnit} (mem : u ∈ Protocol.trim s) : u ∈ s := by
  have start : Protocol.trim s <+: s.dropWhile isWhiteSpace := List.rdropWhile_prefix ..
  exact (List.dropWhile_suffix _).subset (start.subset mem)

theorem plain_of_mem_csvEntries {rawValue entry : JsString} (mem : entry ∈ csvEntries rawValue) :
    Unpadded entry ∧ char ',' ∉ entry := by
  obtain ⟨listed, filled⟩ := List.mem_filter.mp mem
  obtain ⟨piece, here, rfl⟩ := List.mem_map.mp listed
  refine ⟨⟨of_decide_eq_true filled, trim_trim piece⟩, fun comma => ?_⟩
  exact notMem_of_mem_splitOn here (mem_of_mem_trim comma)

/-- A list is read back from its text exactly where no entry needs mending. -/
theorem csvEntries_joined_iff {entries : List JsString} (filled : entries ≠ []) :
    csvEntries (joined (js ",") entries) = entries ↔
      ∀ entry ∈ entries, Unpadded entry ∧ char ',' ∉ entry := by
  constructor
  · intro same entry mem
    rw [← same] at mem
    exact plain_of_mem_csvEntries mem
  · intro plain
    have split : (joined (js ",") entries).splitOn (char ',') = entries :=
      List.splitOn_intercalate _ (fun entry mem => (plain entry mem).2) filled
    have trimmed : entries.map Protocol.trim = entries := by
      conv_rhs => rw [← List.map_id entries]
      exact List.map_congr_left fun entry mem => (plain entry mem).1.2
    rw [csvEntries, split, trimmed]
    exact List.filter_eq_self.mpr fun entry mem => decide_eq_true (plain entry mem).1.1

theorem joined_eq_nil {entries : List JsString} (blank : joined (js ",") entries = []) :
    entries = [] ∨ entries = [[]] := by
  match entries with
  | [] => exact .inl rfl
  | [only] =>
    have nothing : only = [] := by simpa [joined] using blank
    exact .inr (by rw [nothing])
  | first :: second :: rest =>
    rw [joined, List.intercalate_cons_cons] at blank
    have comma : js "," = [] := (List.append_eq_nil_iff.mp (List.append_eq_nil_iff.mp blank).1).2
    exact absurd comma (by decide)

/-- A fallback that a blank text and an empty list may stand for. -/
structure Neutral (field : ConfigField) (fallback : Value) : Prop where
  text : field.kind = .string → ∀ s, fallback = some (.str s) → Unpadded s
  list : field.kind = .stringArray → fallback = some (.arr .nil)

variable {numbers} {env : EnvSource} {fallback : Value}

variable (fallback) in
theorem reads_integer {q : Rat} (written : env field.envName = some (numbers.toText q))
    (represented : numbers.Represented q) (whole : q.den = 1) :
    parseIntegerEnv numbers env field.envName fallback = .ok (some (.num q)) := by
  rw [parseIntegerEnv, written]
  dsimp only
  rw [numbers.parse_toText q represented, Option.filter_some, if_pos (by simpa using whole)]

theorem reads_boolean {b : Bool}
    (written : env field.envName = some (valueText numbers (.bool b))) :
    parseBooleanEnv env field.envName fallback = .ok (some (.bool b)) := by
  rw [parseBooleanEnv, written]
  cases b with
  | true => exact if_pos rfl
  | false =>
    have other : js "false" ≠ js "true" := by decide
    simp only [valueText, other, if_false, if_true]

theorem reads_string {s : JsString} (kind : field.kind = .string)
    (written : env field.envName = some s) (neutral : Neutral field fallback) :
    ((readTrimmedEnv env field.envName).map Doc.str).or fallback = some (.str s) ↔
      Unpadded s := by
  rw [readTrimmedEnv, written, Option.map_some, Option.filter_some]
  by_cases blank : Protocol.trim s = []
  · rw [if_neg (by simpa using blank), Option.map_none, Option.none_or]
    constructor
    · intro same
      exact neutral.text kind s same
    · intro plain
      exact absurd (plain.2.symm.trans blank) plain.1
  · rw [if_pos (by simpa using blank), Option.map_some, Option.some_or]
    constructor
    · intro same
      have trimmed : Protocol.trim s = s := by simpa using same
      exact ⟨fun none_ => blank (trimmed.trans none_), trimmed⟩
    · intro plain
      rw [plain.2]

theorem reads_strings {entries : List JsString} (kind : field.kind = .stringArray)
    (written : env field.envName = some (joined (js ",") entries))
    (neutral : Neutral field fallback) :
    parseCsvEnv env field.envName fallback = some (.arr (texts entries)) ↔
      ∀ entry ∈ entries, Unpadded entry ∧ char ',' ∉ entry := by
  rw [parseCsvEnv, written, Option.filter_some]
  by_cases blank : joined (js ",") entries = []
  · rw [if_neg (by simpa using blank), neutral.list kind]
    rcases joined_eq_nil blank with rfl | rfl
    · simp [texts]
    · constructor
      · intro same
        cases same
      · intro plain
        exact absurd rfl (plain [] (List.mem_singleton_self _)).1.1
  · have filled : entries ≠ [] := by
      rintro rfl
      exact blank rfl
    rw [if_pos (by simpa using blank)]
    dsimp only
    rw [← csvEntries, ← csvEntries_joined_iff filled]
    constructor
    · intro same
      exact texts_injective (by simpa using same)
    · intro same
      rw [same]

/-- What was written is read, and is what it was exactly where it survives. -/
theorem reads_back (accepts : Accepts field value)
    (written : env field.envName = some (valueText numbers value))
    (represented : ∀ q, value = .num q → numbers.Represented q)
    (named : ∀ s ∈ field.enumValues, Unpadded s) (fallback : Value) :
    ∃ read, parseConfigEnvFieldValue numbers field env fallback = .ok read ∧
      (Neutral field fallback → (read = some value ↔ Survives value)) := by
  unfold parseConfigEnvFieldValue
  cases accepts with
  | integer kind whole =>
    rw [kind]
    exact ⟨_, reads_integer fallback written (represented _ rfl) whole, by simp [Survives]⟩
  | @positiveInteger q kind whole positive =>
    rw [kind]
    have read := reads_integer fallback written (represented _ rfl) whole
    refine ⟨some (.num q), ?_, by simp [Survives]⟩
    dsimp only [parsePositiveIntegerEnv]
    rw [read]
    exact if_neg (not_le.mpr positive)
  | boolean b kind =>
    rw [kind]
    exact ⟨_, reads_boolean written, by simp [Survives]⟩
  | string s kind =>
    rw [kind]
    exact ⟨_, rfl, reads_string kind written⟩
  | @enum s kind known =>
    rw [kind]
    have plain := named s known
    have held : env field.envName = some s := written
    refine ⟨some (.str s), ?_, fun _ => by simpa [Survives] using plain⟩
    dsimp only
    rw [held, Option.filter_some, if_pos (by simpa using plain.1)]
    exact if_pos known
  | stringArray entries kind =>
    rw [kind]
    have held : env field.envName = some (joined (js ",") entries) := by
      rw [written, valueText, itemTexts_texts]
    refine ⟨_, rfl, fun neutral => ?_⟩
    rw [reads_strings kind held neutral, Survives, strings_texts]

/-! ## The sections -/

theorem loadSection_at {defaults overrides settings : Settings}
    (distinct : (fields.map fun field => field.path.tail).Nodup)
    (ok : loadSectionConfigFromEnv numbers env defaults overrides fields = .ok settings)
    (listed : field ∈ fields) :
    parseConfigEnvFieldValue numbers field env
        ((overrides.lookup field.path).getD (defaults.get field.path.tail)) =
      .ok (settings.get field.path.tail) := by
  induction fields generalizing settings with
  | nil => cases listed
  | cons first rest ih =>
    rw [List.map_cons, List.nodup_cons] at distinct
    rw [loadSectionConfigFromEnv] at ok
    obtain ⟨value, read, ok⟩ := bind_eq_ok ok
    obtain ⟨others, loaded, ok⟩ := bind_eq_ok ok
    cases ok
    rcases List.mem_cons.mp listed with rfl | later
    · rw [read, Settings.get, List.lookup_cons_self, Option.join_some]
    · have other : field.path.tail ≠ first.path.tail := by
        intro same
        exact distinct.1 (same ▸ List.mem_map_of_mem later)
      rw [ih distinct.2 loaded later, Settings.get, Settings.get, List.lookup_cons,
        beq_false_of_ne other]

/-- Whether a fallback is neutral, as a check. -/
def neutral (field : ConfigField) (fallback : Value) : Bool :=
  match field.kind, fallback with
  | .string, some (.str s) => s ≠ [] && Protocol.trim s = s
  | .stringArray, fallback => fallback = some (.arr .nil)
  | _, _ => true

theorem neutral_of_check (check : neutral field fallback = true) : Neutral field fallback where
  text kind s same := by
    subst same
    unfold neutral at check
    rw [kind] at check
    simpa [Unpadded] using check
  list kind := by
    unfold neutral at check
    rw [kind] at check
    exact of_decide_eq_true check

theorem neutral_of_kind (other : field.kind ≠ .string) (other' : field.kind ≠ .stringArray) :
    Neutral field fallback where
  text kind := absurd kind other
  list kind := absurd kind other'

/-- Whether a fallback passes the check that its field makes of it. -/
def positive (field : ConfigField) (fallback : Value) : Bool :=
  match field.kind, fallback with
  | .positiveInteger, some (.num q) => 0 < q
  | _, _ => true

/-- The fields of the providers, whose fallbacks depend on each other. -/
def providerPaths : List Path :=
  [["persistence", "provider"].map js, ["persistence", "runtimeStoreProvider"].map js,
    ["persistence", "roomEventBusProvider"].map js,
    ["persistence", "adminCommandBusProvider"].map js]

theorem sections_check :
    (∀ field ∈ SECURITY_CONFIG_FIELDS,
      neutral field (getDefaultSecurityConfig.get field.path.tail) = true ∧
        positive field (getDefaultSecurityConfig.get field.path.tail) = true) ∧
    (∀ field ∈ ADMIN_UI_CONFIG_FIELDS,
      neutral field (defaultAdminUiConfig.get field.path.tail) = true ∧
        positive field (defaultAdminUiConfig.get field.path.tail) = true) ∧
    ∀ field ∈ PERSISTENCE_CONFIG_FIELDS,
      field.kind = .enum ∨ field.path ∉ providerPaths ∧
        neutral field (getDefaultPersistenceConfig.get field.path.tail) = true ∧
        positive field (getDefaultPersistenceConfig.get field.path.tail) = true := by
  decide +kernel

theorem security_checks : ∀ field ∈ SECURITY_CONFIG_FIELDS,
    neutral field (getDefaultSecurityConfig.get field.path.tail) = true ∧
      positive field (getDefaultSecurityConfig.get field.path.tail) = true :=
  sections_check.1

theorem adminUi_checks : ∀ field ∈ ADMIN_UI_CONFIG_FIELDS,
    neutral field (defaultAdminUiConfig.get field.path.tail) = true ∧
      positive field (defaultAdminUiConfig.get field.path.tail) = true :=
  sections_check.2.1

theorem persistence_checks : ∀ field ∈ PERSISTENCE_CONFIG_FIELDS,
    field.kind = .enum ∨ field.path ∉ providerPaths ∧
      neutral field (getDefaultPersistenceConfig.get field.path.tail) = true ∧
      positive field (getDefaultPersistenceConfig.get field.path.tail) = true :=
  sections_check.2.2

theorem fields_spelt :
    (∀ field ∈ SERVER_CONFIG_FIELDS, ∀ s ∈ field.enumValues, Unpadded s) ∧
    ∀ field ∈ SERVER_CONFIG_FIELDS,
      field.path.head? = some (js "security") ∨ field.path.head? = some (js "persistence") ∨
        field.path.head? = some (js "adminUi") ∨
        field.path ∈
          [[js "port"], [js "globalAdminPort"], [js "metricsPort"], [js "logLevel"]] := by
  unfold Unpadded
  decide +kernel

theorem enumValues_unpadded : ∀ field ∈ SERVER_CONFIG_FIELDS, ∀ s ∈ field.enumValues,
    Unpadded s :=
  fields_spelt.1

theorem heads_cover : ∀ field ∈ SERVER_CONFIG_FIELDS,
    field.path.head? = some (js "security") ∨ field.path.head? = some (js "persistence") ∨
      field.path.head? = some (js "adminUi") ∨
      field.path ∈ [[js "port"], [js "globalAdminPort"], [js "metricsPort"], [js "logLevel"]] :=
  fields_spelt.2

theorem first_listed (i : Fin 4) :
    SERVER_CONFIG_FIELDS.get (i.castLE (by decide)) ∈ SERVER_CONFIG_FIELDS :=
  List.get_mem ..

/-- A path names one field of the schema. -/
theorem eq_of_path {other : ConfigField} (listed : field ∈ SERVER_CONFIG_FIELDS)
    (listed' : other ∈ SERVER_CONFIG_FIELDS) (same : field.path = other.path) : field = other := by
  have here := schema_nodesAt field listed
  rw [same, schema_nodesAt other listed'] at here
  simpa using here.symm

theorem path_of_section {name : String} (listed : field ∈ sectionFields name) :
    field ∈ SERVER_CONFIG_FIELDS ∧ field.path = js name :: field.path.tail := by
  obtain ⟨mem, head⟩ := List.mem_filter.mp listed
  exact ⟨mem, (List.cons_head?_tail (of_decide_eq_true head)).symm⟩

theorem tails_nodup (name : String) :
    ((sectionFields name).map fun field => field.path.tail).Nodup := by
  have distinct : SERVER_CONFIG_FIELDS.Nodup := List.Nodup.of_map _ envNames_nodup
  apply List.Nodup.map_on _ (List.Nodup.filter _ distinct)
  intro field listed other listed' same
  obtain ⟨mem, path⟩ := path_of_section listed
  obtain ⟨mem', path'⟩ := path_of_section listed'
  apply eq_of_path mem mem'
  rw [path, path', same]

/-! ## The configuration -/

section
variable {file : Value} {config : RuntimeConfig}

/-- What each part of a configuration was read from. -/
structure LoadedFrom (numbers : NumberText) (env : EnvSource) (config : RuntimeConfig) : Prop where
  port : parseIntegerEnv numbers env "PORT" (number 8787) = .ok config.port
  globalAdminPort : ∃ fallback,
    parseIntegerEnv numbers env "GLOBAL_ADMIN_PORT" fallback = .ok config.globalAdminPort
  metricsPort : loadMetricsPort numbers env = .ok config.metricsPort
  logLevel :
    parseConfigEnvFieldValue numbers LOG_LEVEL_FIELD env (text "info") = .ok config.logLevel
  security : loadSecurityConfig numbers env = .ok config.securityConfig
  persistence : loadPersistenceConfig numbers env = .ok config.persistenceConfig
  adminUi : loadAdminUiConfig numbers env = .ok config.adminUiConfig

theorem loadedFrom (loaded : loadRuntimeConfig numbers file env = .ok config) :
    LoadedFrom numbers (mergedEnv numbers file env) config := by
  unfold loadRuntimeConfig at loaded
  obtain ⟨port, readPort, loaded⟩ := bind_eq_ok loaded
  obtain ⟨adminFallback, -, loaded⟩ := bind_eq_ok loaded
  obtain ⟨globalAdminPort, readAdmin, loaded⟩ := bind_eq_ok loaded
  obtain ⟨metricsPort, readMetrics, loaded⟩ := bind_eq_ok loaded
  obtain ⟨logLevel, readLevel, loaded⟩ := bind_eq_ok loaded
  obtain ⟨securityConfig, readSecurity, loaded⟩ := bind_eq_ok loaded
  obtain ⟨persistenceConfig, readPersistence, loaded⟩ := bind_eq_ok loaded
  obtain ⟨adminUiConfig, readAdminUi, loaded⟩ := bind_eq_ok loaded
  cases loaded
  exact ⟨readPort, ⟨_, readAdmin⟩, readMetrics, readLevel, readSecurity, readPersistence,
    readAdminUi⟩

theorem readRuntimeValue_section {name : String} (listed : field ∈ sectionFields name) :
    readRuntimeValue config field.path = readRuntimeValue config (js name :: field.path.tail) := by
  rw [← (path_of_section listed).2]

/-- What the providers' settings override. -/
def providers (v v₁ v₂ v₃ : Value) : Settings :=
  [setting ["persistence", "provider"] v,
    setting ["persistence", "runtimeStoreProvider"] v₁,
    setting ["persistence", "roomEventBusProvider"] v₂,
    setting ["persistence", "adminCommandBusProvider"] v₃]

/-- The overrides are about fields of their own. -/
theorem fallback_of_providers (other : field.path ∉ providerPaths) (v v₁ v₂ v₃ : Value) :
    ((providers v v₁ v₂ v₃).lookup field.path).getD
        (getDefaultPersistenceConfig.get field.path.tail) =
      getDefaultPersistenceConfig.get field.path.tail := by
  simp only [providerPaths, List.mem_cons, List.not_mem_nil, or_false, not_or] at other
  have absent : (providers v v₁ v₂ v₃).lookup field.path = none := by
    simp only [providers, setting, List.lookup_cons, beq_false_of_ne other.1,
      beq_false_of_ne other.2.1, beq_false_of_ne other.2.2.1, beq_false_of_ne other.2.2.2,
      List.lookup_nil]
  rw [absent, Option.getD_none]

theorem fallback_neutral_persistence (listed : field ∈ PERSISTENCE_CONFIG_FIELDS)
    (v v₁ v₂ v₃ : Value) :
    Neutral field
      (((providers v v₁ v₂ v₃).lookup field.path).getD
        (getDefaultPersistenceConfig.get field.path.tail)) := by
  rcases persistence_checks field listed with kind | ⟨other, neutral, -⟩
  · exact neutral_of_kind (by rw [kind]; decide) (by rw [kind]; decide)
  · rw [fallback_of_providers other]
    exact neutral_of_check neutral

/-- Each field of the configuration was read by its kind, with a neutral fallback. -/
theorem LoadedFrom.reads (from_ : LoadedFrom numbers env config)
    (listed : field ∈ SERVER_CONFIG_FIELDS)
    (port : field.path = [js "metricsPort"] →
      (readTrimmedEnv env "METRICS_PORT").isSome = true) :
    ∃ fallback, Neutral field fallback ∧
      parseConfigEnvFieldValue numbers field env fallback =
        .ok (readRuntimeValue config field.path) := by
  rcases heads_cover field listed with security | persistence | adminUi | root
  · have mem : field ∈ SECURITY_CONFIG_FIELDS :=
      List.mem_filter.mpr ⟨listed, decide_eq_true security⟩
    have read := loadSection_at (tails_nodup "security") from_.security mem
    refine ⟨_, neutral_of_check (security_checks field mem).1, ?_⟩
    rw [readRuntimeValue_section mem]
    exact read
  · have mem : field ∈ PERSISTENCE_CONFIG_FIELDS :=
      List.mem_filter.mpr ⟨listed, decide_eq_true persistence⟩
    have loaded := from_.persistence
    unfold loadPersistenceConfig at loaded
    obtain ⟨provider, -, loaded⟩ := bind_eq_ok loaded
    obtain ⟨runtimeStoreProvider, -, loaded⟩ := bind_eq_ok loaded
    obtain ⟨roomEventBusProvider, -, loaded⟩ := bind_eq_ok loaded
    obtain ⟨adminCommandBusProvider, -, loaded⟩ := bind_eq_ok loaded
    have read := loadSection_at (tails_nodup "persistence") loaded mem
    refine ⟨_, fallback_neutral_persistence mem provider runtimeStoreProvider
      roomEventBusProvider adminCommandBusProvider, ?_⟩
    rw [readRuntimeValue_section mem]
    exact read
  · have mem : field ∈ ADMIN_UI_CONFIG_FIELDS :=
      List.mem_filter.mpr ⟨listed, decide_eq_true adminUi⟩
    have read := loadSection_at (tails_nodup "adminUi") from_.adminUi mem
    refine ⟨_, neutral_of_check (adminUi_checks field mem).1, ?_⟩
    rw [readRuntimeValue_section mem]
    exact read
  · simp only [List.mem_cons, List.not_mem_nil, or_false] at root
    rcases root with path | path | path | path
    · rw [eq_of_path listed (first_listed 0) path]
      exact ⟨_, neutral_of_kind (by decide) (by decide), from_.port⟩
    · obtain ⟨fallback, read⟩ := from_.globalAdminPort
      rw [eq_of_path listed (first_listed 1) path]
      exact ⟨fallback, neutral_of_kind (by decide) (by decide), read⟩
    · have read := from_.metricsPort
      rw [loadMetricsPort, if_pos (port path)] at read
      rw [eq_of_path listed (first_listed 2) path]
      exact ⟨_, neutral_of_kind (by decide) (by decide), read⟩
    · rw [eq_of_path listed (first_listed 3) path]
      exact ⟨_, neutral_of_kind (by decide) (by decide), from_.logLevel⟩

/-! ## Nothing refuses what the file parser let through -/

/-- An environment that sets no variable of the schema. -/
def NothingSet (env : EnvSource) : Prop := ∀ field ∈ SERVER_CONFIG_FIELDS, env field.envName = none

/-- Every number of a file is one of JavaScript's. -/
def AllRepresented (numbers : NumberText) (file : Value) : Prop :=
  ∀ field ∈ SERVER_CONFIG_FIELDS, ∀ q, getConfigValue file field.path = some (.num q) →
    numbers.Represented q

theorem parse_unset (unset : env field.envName = none) (checked : positive field fallback = true) :
    parseConfigEnvFieldValue numbers field env fallback = .ok fallback := by
  unfold parseConfigEnvFieldValue
  cases kind : field.kind with
  | integer => simp only [parseIntegerEnv, unset]
  | positiveInteger =>
    simp only [parsePositiveIntegerEnv, parseIntegerEnv, unset]
    match fallback with
    | some (.num q) =>
      simp only [positive, kind, decide_eq_true_eq] at checked
      exact if_neg (not_le.mpr checked)
    | none => rfl
    | some .null | some (.bool _) | some (.str _) | some (.arr _) | some (.obj _) => rfl
  | boolean => simp only [parseBooleanEnv, unset]
  | string => simp only [readTrimmedEnv, unset, Option.map_none, Option.filter_none, Option.none_or]
  | stringArray => simp only [parseCsvEnv, unset, Option.filter_none]
  | enum => simp only [unset, Option.filter_none]

variable {raw : Doc JsString}

variable (fallback) in
theorem parses (ok : parseConfigFileShape raw = .ok file) (nothing : NothingSet env)
    (represented : AllRepresented numbers file) (listed : field ∈ SERVER_CONFIG_FIELDS)
    (checked : positive field fallback = true) :
    ∃ read, parseConfigEnvFieldValue numbers field (mergedEnv numbers file env) fallback =
      .ok read := by
  cases present : getConfigValue file field.path with
  | none =>
    have unset : mergedEnv numbers file env field.envName = none := by
      rw [mergedEnv, nothing field listed, Option.none_or, configFileToEnv_at numbers file listed,
        present, Option.map_none]
    exact ⟨fallback, parse_unset unset checked⟩
  | some value =>
    have written := mergedEnv_at numbers listed (nothing field listed) present
    obtain ⟨read, parsed, -⟩ := reads_back (accepts_of_file ok listed present) written
      (fun q same => represented field listed q (same ▸ present))
      (enumValues_unpadded field listed) fallback
    exact ⟨read, parsed⟩

theorem loadSection_ok {defaults overrides : Settings}
    (each : ∀ field ∈ fields, ∃ read, parseConfigEnvFieldValue numbers field env
      ((overrides.lookup field.path).getD (defaults.get field.path.tail)) = .ok read) :
    ∃ settings, loadSectionConfigFromEnv numbers env defaults overrides fields = .ok settings := by
  induction fields with
  | nil => exact ⟨[], rfl⟩
  | cons first rest ih =>
    obtain ⟨read, parsed⟩ := each first List.mem_cons_self
    obtain ⟨others, loaded⟩ := ih fun field later => each field (List.mem_cons_of_mem _ later)
    exact ⟨(first.path.tail, read) :: others, by
      rw [loadSectionConfigFromEnv, parsed, loaded]
      rfl⟩

theorem positive_of_kind (other : field.kind ≠ .positiveInteger) :
    positive field fallback = true := by
  unfold positive
  split
  · contradiction
  · rfl

theorem provider_fields :
    ∀ name ∈ ["provider", "runtimeStoreProvider", "roomEventBusProvider",
        "adminCommandBusProvider"],
      fieldAt PERSISTENCE_CONFIG_FIELDS ["persistence", name] ∈ SERVER_CONFIG_FIELDS ∧
        (fieldAt PERSISTENCE_CONFIG_FIELDS ["persistence", name]).kind = .enum := by
  decide +kernel

theorem persistence_ok (ok : parseConfigFileShape raw = .ok file) (nothing : NothingSet env)
    (represented : AllRepresented numbers file) :
    ∃ settings, loadPersistenceConfig numbers (mergedEnv numbers file env) = .ok settings := by
  have read {name : String} (fallback : Value)
      (mem : name ∈ ["provider", "runtimeStoreProvider", "roomEventBusProvider",
        "adminCommandBusProvider"]) :
      ∃ read, parseConfigEnvFieldValue numbers
        (fieldAt PERSISTENCE_CONFIG_FIELDS ["persistence", name]) (mergedEnv numbers file env)
          fallback = .ok read := by
    obtain ⟨listed, kind⟩ := provider_fields name mem
    exact parses fallback ok nothing represented listed (positive_of_kind (by rw [kind]; decide))
  unfold loadPersistenceConfig
  obtain ⟨provider, eq⟩ := read (getDefaultPersistenceConfig.get [js "provider"])
    (.head _)
  obtain ⟨runtimeStoreProvider, eq₁⟩ := read
    (if provider = text "redis" then text "redis"
      else getDefaultPersistenceConfig.get [js "runtimeStoreProvider"]) (.tail _ (.head _))
  obtain ⟨roomEventBusProvider, eq₂⟩ := read
    (if runtimeStoreProvider = text "redis" then text "redis"
      else getDefaultPersistenceConfig.get [js "roomEventBusProvider"])
    (.tail _ (.tail _ (.head _)))
  obtain ⟨adminCommandBusProvider, eq₃⟩ := read
    (if runtimeStoreProvider = text "redis" then text "redis"
      else getDefaultPersistenceConfig.get [js "adminCommandBusProvider"])
    (.tail _ (.tail _ (.tail _ (.head _))))
  obtain ⟨settings, loaded⟩ : ∃ settings,
      loadSectionConfigFromEnv numbers (mergedEnv numbers file env) getDefaultPersistenceConfig
        (providers provider runtimeStoreProvider roomEventBusProvider adminCommandBusProvider)
        PERSISTENCE_CONFIG_FIELDS = .ok settings := by
    apply loadSection_ok
    intro field mem
    apply parses _ ok nothing represented (List.mem_filter.mp mem).1
    rcases persistence_checks field mem with kind | ⟨other, -, checked⟩
    · exact positive_of_kind (by rw [kind]; decide)
    · rw [fallback_of_providers other]
      exact checked
  refine ⟨settings, ?_⟩
  dsimp only
  rw [eq]
  dsimp only [bind, Except.bind]
  rw [eq₁]
  dsimp only
  rw [eq₂]
  dsimp only
  rw [eq₃]
  exact loaded

/-- A file that was let through is loaded, where the environment sets nothing against it. -/
theorem loads_of_file (ok : parseConfigFileShape raw = .ok file) (nothing : NothingSet env)
    (represented : AllRepresented numbers file) :
    ∃ config, loadRuntimeConfig numbers file env = .ok config := by
  have listed := first_listed
  have port (fallback : Value) : ∃ read,
      parseIntegerEnv numbers (mergedEnv numbers file env) "PORT" fallback = .ok read :=
    parses fallback ok nothing represented (listed 0) rfl
  obtain ⟨portRead, eq⟩ := port (number 8787)
  obtain ⟨adminFallback, eq₁⟩ := port (number 8788)
  obtain ⟨globalAdminPort, eq₂⟩ : ∃ read, parseIntegerEnv numbers (mergedEnv numbers file env)
      "GLOBAL_ADMIN_PORT" adminFallback = .ok read :=
    parses adminFallback ok nothing represented (listed 1) rfl
  obtain ⟨metricsPort, eq₃⟩ :
      ∃ read, loadMetricsPort numbers (mergedEnv numbers file env) = .ok read := by
    unfold loadMetricsPort
    by_cases given : (readTrimmedEnv (mergedEnv numbers file env) "METRICS_PORT").isSome = true
    · rw [if_pos given]
      exact parses (number 0) ok nothing represented (listed 2) rfl
    · exact ⟨none, if_neg given⟩
  obtain ⟨logLevel, eq₄⟩ : ∃ read, parseConfigEnvFieldValue numbers LOG_LEVEL_FIELD
      (mergedEnv numbers file env) (text "info") = .ok read :=
    parses _ ok nothing represented (listed 3) rfl
  obtain ⟨security, eq₅⟩ :
      ∃ settings, loadSecurityConfig numbers (mergedEnv numbers file env) = .ok settings := by
    apply loadSection_ok
    intro field mem
    exact parses _ ok nothing represented (List.mem_filter.mp mem).1 (security_checks field mem).2
  obtain ⟨persistence, eq₆⟩ := persistence_ok ok nothing represented
  obtain ⟨adminUi, eq₇⟩ :
      ∃ settings, loadAdminUiConfig numbers (mergedEnv numbers file env) = .ok settings := by
    apply loadSection_ok
    intro field mem
    exact parses _ ok nothing represented (List.mem_filter.mp mem).1 (adminUi_checks field mem).2
  refine ⟨⟨portRead, globalAdminPort, metricsPort, logLevel, security, persistence, adminUi⟩, ?_⟩
  unfold loadRuntimeConfig
  dsimp only
  rw [eq, eq₁]
  dsimp only [bind, Except.bind]
  rw [eq₂]
  dsimp only
  rw [eq₃, eq₄, eq₅, eq₆, eq₇]
  rfl

/-! ## What comes back -/

/-- A field of a file that the environment says nothing about is read as the file has it exactly
where its value survives, and the file alone is never refused. -/
theorem configuration_survives_the_detour (ok : parseConfigFileShape raw = .ok file)
    (listed : field ∈ SERVER_CONFIG_FIELDS) (present : getConfigValue file field.path = some value)
    (represented : ∀ q, value = .num q → numbers.Represented q)
    (unset : env field.envName = none) :
    (∀ config, loadRuntimeConfig numbers file env = .ok config →
      (readRuntimeValue config field.path = some value ↔ Survives value)) ∧
    (NothingSet env → AllRepresented numbers file →
      ∃ config, loadRuntimeConfig numbers file env = .ok config) := by
  constructor
  · intro config loaded
    have accepts := accepts_of_file ok listed present
    have written := mergedEnv_at numbers listed unset present
    have port : field.path = [js "metricsPort"] →
        (readTrimmedEnv (mergedEnv numbers file env) "METRICS_PORT").isSome = true := by
      intro path
      have eq := eq_of_path listed (first_listed 2) path
      subst eq
      obtain ⟨q, rfl⟩ : ∃ q, value = .num q := by
        cases accepts with
        | @integer q _ _ | @positiveInteger q _ _ _ => exact ⟨q, rfl⟩
        | boolean _ kind | string _ kind | enum kind _ | stringArray _ kind => cases kind
      have read : mergedEnv numbers file env "METRICS_PORT" = some (numbers.toText q) := written
      rw [readTrimmedEnv, read, Option.map_some, Option.filter_some,
        if_pos (decide_eq_true (numbers.trim_toText q (represented q rfl)))]
      rfl
    obtain ⟨fallback, neutral, read⟩ := (loadedFrom loaded).reads listed port
    obtain ⟨found, read', same⟩ := reads_back accepts written represented
      (enumValues_unpadded field listed) fallback
    rw [read] at read'
    cases read'
    exact same neutral
  · intro nothing all
    exact loads_of_file ok nothing all

end

end

/-! ### On an input -/

def decimalText (q : Rat) : JsString :=
  if q = 0 then js "0"
  else (Nat.digits 10 q.num.toNat).reverse.map fun digit => UInt16.ofNat (48 + digit)

def decimalValue (s : JsString) : Option Rat :=
  if s ≠ [] ∧ (s.all fun unit => 48 ≤ unit && unit ≤ 57) = true then
    some (Nat.ofDigits 10 (s.reverse.map fun unit => unit.toNat - 48) : ℕ)
  else none

theorem digit_unit : ∀ digit < 10, (48 ≤ UInt16.ofNat (48 + digit) ∧
    UInt16.ofNat (48 + digit) ≤ 57) ∧ (UInt16.ofNat (48 + digit)).toNat - 48 = digit ∧
      Protocol.isWhiteSpace (UInt16.ofNat (48 + digit)) = false := by
  decide

/-- A natural number is written with digits, and read from them. -/
theorem decimalText_natCast (n : ℕ) : decimalValue (decimalText n) = some (n : Rat) ∧
    Protocol.trim (decimalText n) ≠ [] := by
  by_cases zero : n = 0
  · subst zero
    decide +kernel
  have digit (d : ℕ) (mem : d ∈ Nat.digits 10 n) := digit_unit d (Nat.digits_lt_base' mem)
  have filled : Nat.digits 10 n ≠ [] := Nat.digits_ne_nil_iff_ne_zero.mpr zero
  have text : decimalText n =
      (Nat.digits 10 n).reverse.map fun digit => UInt16.ofNat (48 + digit) := by
    rw [decimalText, if_neg (Nat.cast_ne_zero.mpr zero), Rat.num_natCast, Int.toNat_natCast]
  rw [text]
  constructor
  · have units : (Nat.digits 10 n).map (fun d => (UInt16.ofNat (48 + d)).toNat - 48) =
        Nat.digits 10 n :=
      (List.map_congr_left fun d mem => (digit d mem).2.1).trans (List.map_id _)
    rw [decimalValue, if_pos, ← List.map_reverse, List.reverse_reverse, List.map_map]
    · exact congrArg (fun digits => some ((Nat.ofDigits 10 digits : ℕ) : Rat)) units |>.trans
        (by rw [Nat.ofDigits_digits])
    · refine ⟨by simpa using filled, List.all_eq_true.mpr fun unit mem => ?_⟩
      obtain ⟨d, listed, rfl⟩ := List.mem_map.mp mem
      simpa using (digit d (List.mem_reverse.mp listed)).1
  · intro blank
    obtain ⟨d, listed⟩ := List.exists_mem_of_ne_nil _ filled
    have white := Protocol.white_of_trim blank _
      (List.mem_map_of_mem (List.mem_reverse.mpr listed))
    cases ((digit d listed).2.2).symm.trans white

/-- Natural numbers in decimal. -/
def decimal : NumberText where
  Represented q := ∃ n : ℕ, q = n
  toText := decimalText
  parse := decimalValue
  parse_toText := by
    rintro q ⟨n, rfl⟩
    exact (decimalText_natCast n).1
  trim_toText := by
    rintro q ⟨n, rfl⟩
    exact (decimalText_natCast n).2

/-- A file with a port, no list of origins, and trusted proxies. -/
def portFile (entries : List JsString) : Doc JsString :=
  .obj (.cons (js "port") (.num 8787) (.cons (js "security")
    (.obj (.cons (js "allowMissingOriginInDev") (.bool true)
      (.cons (js "trustedProxyAddresses") (.arr (texts entries)) .nil))) .nil))

def PORT_FIELD : ConfigField := fieldAt SERVER_CONFIG_FIELDS ["port"]

def PROXIES_FIELD : ConfigField :=
  fieldAt SERVER_CONFIG_FIELDS ["security", "trustedProxyAddresses"]

/-- A value that is no other number than the port. -/
def isPort : Value → Bool
  | some (.num q) => decide (q = (8787 : ℕ))
  | _ => true

theorem port_is_read_back : ∃ config,
    loadRuntimeConfig decimal (some (portFile [js "::1"])) (fun _ => none) = .ok config ∧
      readRuntimeValue config PORT_FIELD.path = some (.num 8787) := by
  have numbers : (SERVER_CONFIG_FIELDS.all fun field =>
      isPort (getConfigValue (some (portFile [js "::1"])) field.path)) = true := by decide +kernel
  have law := @configuration_survives_the_detour PORT_FIELD (.num 8787) decimal
    (fun _ => none) (some (portFile [js "::1"])) (portFile [js "::1"]) (by decide +kernel)
    (by decide +kernel) (by decide +kernel) (fun q same => ⟨8787, (Doc.num.inj same).symm⟩) rfl
  obtain ⟨config, loaded⟩ := law.2 (fun _ _ => rfl) fun field listed q present =>
    ⟨8787, by simpa [isPort, present] using List.all_eq_true.mp numbers field listed⟩
  exact ⟨config, loaded, (law.1 config loaded).mpr trivial⟩

/-- One entry with a comma is read as two proxies. -/
theorem a_comma_trusts_two_proxies :
    parseConfigFileShape (portFile [js "::1,::2"]) = .ok (some (portFile [js "::1,::2"])) ∧
    getConfigValue (some (portFile [js "::1,::2"])) PROXIES_FIELD.path =
      some (.arr (texts [js "::1,::2"])) ∧
    (loadRuntimeConfig decimal (some (portFile [js "::1,::2"])) fun _ => none).map
      (readRuntimeValue · PROXIES_FIELD.path) = .ok (some (.arr (texts [js "::1", js "::2"]))) ∧
    texts [js "::1", js "::2"] ≠ texts [js "::1,::2"] := by
  decide +kernel

end BiliSyncPlay.Config
