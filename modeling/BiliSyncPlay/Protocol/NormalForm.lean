import BiliSyncPlay.Protocol.WebAddress

/-!
# The normal form of an address

`normalizeBilibiliUrl` builds an address out of decoded values and does not encode them again. The
address it builds names the video it came from exactly where those values stand for themselves.
-/

namespace BiliSyncPlay.Protocol

open Json RedisRoomStore WebAddress

/-! ## What an address names -/

/-- The part of a video an address names, after its path. -/
inductive Tail where
  | whole
  | cid (cid : JsString)
  | page (p : JsString)
  deriving DecidableEq

namespace Tail

def of (cid p : Option JsString) : Tail :=
  match cid, p with
  | some cid, _ => .cid cid
  | none, some p => .page p
  | none, none => .whole

def query : Tail → JsString
  | whole => []
  | cid c => js "?cid=" ++ c
  | page p => js "?p=" ++ p

def label : Tail → JsString
  | whole => []
  | cid c => js ":" ++ c
  | page p => js ":p" ++ p

/-- Read back after a path, the part is the same. -/
def isPlain : Tail → Bool
  | whole => true
  | cid value | page value => isPlainValue value

/-- What a query can give. -/
def Given : Tail → Prop
  | whole => True
  | cid value | page value => value ≠ [] ∧ value.WellFormed

end Tail

theorem normalizedUrlOf_eq (base : JsString) (cid p : Option JsString) :
    normalizedUrlOf base cid p = base ++ (Tail.of cid p).query := by
  cases cid <;> cases p <;> simp [normalizedUrlOf, Tail.of, Tail.query]

theorem videoIdOf_eq (id : JsString) (cid p : Option JsString) :
    videoIdOf id cid p = id ++ (Tail.of cid p).label := by
  cases cid <;> cases p <;> simp [videoIdOf, Tail.of, Tail.label]

/-- The part the page of a kind reads out of its query. -/
def Url.tail (url : Url) (kind : PathKind) : Tail :=
  Tail.of (if kind = .video then url.get "cid" else none) (url.get "p")

/-- What a page of the site names: the address before the query, the id, and the part. -/
inductive Names (parsed : Url) : JsString → JsString → Tail → Prop
  | listed {kind : PathKind} {page bvid : JsString}
      (path : parseSupportedBilibiliPath parsed.pathname = some (kind, page))
      (list : kind = .festival ∨ kind = .medialist) (named : parsed.get "bvid" = some bvid) :
      Names parsed (js "https://www.bilibili.com/video/" ++ bvid) bvid
        (Tail.of (parsed.get "cid") (parsed.get "p"))
  | entry {kind : PathKind} {id : JsString}
      (path : parseSupportedBilibiliPath parsed.pathname = some (kind, id))
      (single : kind ≠ .medialist) (unnamed : kind = .festival → parsed.get "bvid" = none) :
      Names parsed (parsed.origin ++ withoutTrailingSlashes parsed.pathname) id (parsed.tail kind)

variable {id s value : JsString} {kind : PathKind} {name : String}

section
variable {URL : JsString → Option Url} {url : JsString} {parsed : Url} (filled : url ≠ [])
  (read : URL url = some parsed) (host : parsed.hostname = js "www.bilibili.com")
include filled read host

theorem ref_of_names {base : JsString} {tail : Tail} (names : Names parsed base id tail) :
    parseBilibiliVideoRef URL url = some ⟨id ++ tail.label, base ++ tail.query⟩ := by
  cases names with
  | listed path list bvid =>
    rcases list with rfl | rfl <;>
      simp [parseBilibiliVideoRef, filled, read, host, path, bvid, normalizedUrlOf_eq,
        videoIdOf_eq]
  | @entry kind id path single unnamed =>
    cases kind with
    | video | bangumi =>
      simp [parseBilibiliVideoRef, filled, read, host, path, normalizedUrlOf_eq, videoIdOf_eq,
        Url.tail]
    | festival =>
      simp [parseBilibiliVideoRef, filled, read, host, path, unnamed rfl, normalizedUrlOf_eq,
        videoIdOf_eq, Url.tail]
    | medialist => exact absurd rfl single

theorem names_of_ref {ref : BilibiliVideoRef} (named : parseBilibiliVideoRef URL url = some ref) :
    ∃ base id tail, Names parsed base id tail ∧ ref = ⟨id ++ tail.label, base ++ tail.query⟩ := by
  cases path : parseSupportedBilibiliPath parsed.pathname with
  | none =>
    simp [parseBilibiliVideoRef, filled, read, host, path] at named
  | some found =>
    obtain ⟨kind, id⟩ := found
    have unnamed_entry (single : kind ≠ .medialist)
        (unnamed : kind = .festival → parsed.get "bvid" = none) :
        ∃ base id tail, Names parsed base id tail ∧
          ref = ⟨id ++ tail.label, base ++ tail.query⟩ := by
      have names := Names.entry path single unnamed
      rw [ref_of_names filled read host names] at named
      exact ⟨_, _, _, names, (Option.some.inj named).symm⟩
    have named_list {bvid : JsString} (list : kind = .festival ∨ kind = .medialist)
        (bound : parsed.get "bvid" = some bvid) :
        ∃ base id tail, Names parsed base id tail ∧
          ref = ⟨id ++ tail.label, base ++ tail.query⟩ := by
      have names := Names.listed path list bound
      rw [ref_of_names filled read host names] at named
      exact ⟨_, _, _, names, (Option.some.inj named).symm⟩
    cases bvid : parsed.get "bvid" with
    | none =>
      by_cases list : kind = .medialist
      · subst list
        simp [parseBilibiliVideoRef, filled, read, host, path, bvid] at named
      · exact unnamed_entry list fun _ => bvid
    | some name =>
      cases kind with
      | video | bangumi => exact unnamed_entry (by decide) (by simp)
      | festival => exact named_list (.inl rfl) bvid
      | medialist => exact named_list (.inr rfl) bvid

end

/-- The path of a page starts with a slash. -/
theorem slash_of_kind {pathname : JsString}
    (path : parseSupportedBilibiliPath pathname = some (kind, id)) (rest : JsString) :
    js "/" <+: withoutTrailingSlashes pathname ++ rest := by
  have slash {lead : String} {part : JsString} (start : js "/" <+: js lead)
      (after : segmentAfter lead (withoutTrailingSlashes pathname) = some part) :
      js "/" <+: withoutTrailingSlashes pathname ++ rest := by
    rw [(segmentAfter_eq_some_iff.mp after).1, List.append_assoc]
    exact start.trans (List.prefix_append ..)
  simp only [parseSupportedBilibiliPath] at path
  split at path
  · next after => exact slash (by decide) after
  · split at path
    · next after => exact slash (by decide) after
    · split at path
      · next after =>
        obtain ⟨part, after⟩ := Option.isSome_iff_exists.mp after
        exact slash (by decide) after
      · split at path
        · next after =>
          cases found : (segmentAfter "/list/" (withoutTrailingSlashes pathname)).or
              (segmentAfter "/medialist/play/" (withoutTrailingSlashes pathname)) with
          | none => simp [found] at after
          | some part =>
            rcases Option.or_eq_some_iff.mp found with after | ⟨-, after⟩
            · exact slash (by decide) after
            · exact slash (by decide) after
        · cases path

theorem withoutTrailingSlashes_idem (path : JsString) :
    withoutTrailingSlashes (withoutTrailingSlashes path) = withoutTrailingSlashes path :=
  List.rdropWhile_idempotent ..

theorem parse_withoutTrailingSlashes (path : JsString) :
    parseSupportedBilibiliPath (withoutTrailingSlashes path) = parseSupportedBilibiliPath path := by
  simp only [parseSupportedBilibiliPath, withoutTrailingSlashes_idem]

/-! ## The parts of a normal form -/

namespace Tail

/-- How much longer the part is in an address than in an id. -/
def margin : Tail → Nat
  | whole => 0
  | cid _ => 4
  | page _ => 1

theorem length_query (t : Tail) : t.query.length = t.label.length + t.margin := by
  cases t with
  | whole => rfl
  | cid c | page c =>
    simp only [query, label, margin, List.length_append]
    have lengths : (js "?cid=").length = 5 ∧ (js ":").length = 1 ∧ (js "?p=").length = 3 ∧
        (js ":p").length = 2 := by decide
    omega

theorem margin_le (t : Tail) : t.margin ≤ 4 := by cases t <;> simp [margin]

theorem query_cid (c : JsString) : (cid c).query = char '?' :: (js "cid" ++ char '=' :: c) := rfl

theorem query_page (p : JsString) : (page p).query = char '?' :: (js "p" ++ char '=' :: p) := rfl

end Tail

/-- Two texts cut at one place by two different marks are cut alike. -/
theorem cut_unique {lead lead' x y x' y' : JsString} {c d : CodeUnit} (differ : c ≠ d)
    (same : lead ++ c :: x = lead' ++ c :: y) (same' : lead ++ d :: x' = lead' ++ d :: y') :
    lead = lead' := by
  rcases List.append_eq_append_iff.mp same with ⟨between, rfl, rest⟩ | ⟨between, rfl, rest⟩
  · cases between with
    | nil => simp
    | cons u between =>
      simp only [List.append_assoc, List.cons_append, List.append_cancel_left_eq,
        List.cons.injEq] at rest same'
      exact absurd (rest.1.trans same'.1.symm) differ
  · cases between with
    | nil => simp
    | cons u between =>
      simp only [List.append_assoc, List.cons_append, List.append_cancel_left_eq,
        List.cons.injEq] at rest same'
      exact absurd (rest.1.trans same'.1) differ

/-- An address and an id together tell the id's page from its part. -/
theorem split_unique {base base' : JsString} {t t' : Tail}
    (queries : base ++ t.query = base' ++ t'.query) (labels : base ++ t.label = base' ++ t'.label) :
    base = base' ∧ t = t' := by
  have length := congrArg List.length queries
  have length' := congrArg List.length labels
  simp only [List.length_append, Tail.length_query] at length length'
  have margins : t.margin = t'.margin := by omega
  have marks : char '?' ≠ char ':' := by decide
  cases t with
  | whole =>
    cases t' with
    | whole => simpa [Tail.query] using queries
    | cid c | page c => simp [Tail.margin] at margins
  | cid c =>
    cases t' with
    | cid c' =>
      have same := cut_unique marks queries labels
      subst same
      have rest := List.append_cancel_left (List.append_cancel_left queries)
      exact ⟨rfl, congrArg Tail.cid rest⟩
    | whole | page c => simp [Tail.margin] at margins
  | page p =>
    cases t' with
    | page p' =>
      have same := cut_unique marks queries labels
      subst same
      have rest := List.append_cancel_left (List.append_cancel_left queries)
      exact ⟨rfl, congrArg Tail.page rest⟩
    | whole | cid c => simp [Tail.margin] at margins

theorem Url.mem_of_get {url : Url} (found : url.get name = some value) :
    (js name, value) ∈ url.searchParams ∧ value ≠ [] := by
  rw [Url.get, Option.filter_eq_some_iff] at found
  obtain ⟨pair, here, rfl⟩ := Option.map_eq_some_iff.mp found.1
  have named := List.find?_some here
  simp only [decide_eq_true_eq] at named
  exact ⟨named ▸ List.mem_of_find?_eq_some here, by simpa using found.2⟩

theorem Url.get_first {url : Url} {others : List (JsString × JsString)}
    (params : url.searchParams = (js name, value) :: others) :
    url.get name = if value = [] then none else some value := by
  by_cases empty : value = [] <;> simp [Url.get, params, empty]

theorem Url.get_other {url : Url} {name' : String} (params : url.searchParams = [(js name', value)])
    (differ : js name' ≠ js name) :
    url.get name = none := by
  simp [Url.get, params, differ]

theorem Url.get_nil {url : Url} (params : url.searchParams = []) (name : String) :
    url.get name = none := by
  simp [Url.get, params]

section
variable {decode : JsString → JsString} (decoding : Decoding decode)
include decoding

/-- A list's entry takes more room in a query than in an id. -/
theorem listed_fits {url : Url} {rest bvid : JsString}
    (params : url.searchParams = searchParams decode rest) (named : url.get "bvid" = some bvid) :
    bvid.length + (Tail.of (url.get "cid") (url.get "p")).label.length + 5 ≤
      (queryText rest).length := by
  obtain ⟨here, filled⟩ := Url.mem_of_get named
  rw [params] at here
  have names : (js "bvid").length = 4 ∧ (js "cid").length = 3 ∧ (js "p").length = 1 ∧
      (js ":").length = 1 ∧ (js ":p").length = 2 := by decide
  cases part : url.get "cid" with
  | some c =>
    obtain ⟨there, filled'⟩ := Url.mem_of_get part
    rw [params] at there
    have fits := two_values_fit decoding here filled there filled' (by decide)
    simp only [Tail.of, Tail.label, List.length_append]
    omega
  | none =>
    cases page : url.get "p" with
    | some p =>
      obtain ⟨there, filled'⟩ := Url.mem_of_get page
      rw [params] at there
      have fits := two_values_fit decoding here filled there filled' (by decide)
      simp only [Tail.of, Tail.label, List.length_append]
      omega
    | none =>
      have fits := value_fits decoding here filled
      simp only [Tail.of, Tail.label, List.length_nil]
      omega

end

/-! ## What a built address is read as -/

/-- The origin of the site, or of an address on it whose scheme has origins. -/
def IsOrigin (URL : JsString → Option Url) (origin : JsString) : Prop :=
  origin = js "https://www.bilibili.com" ∨ ∃ url parsed, URL url = some parsed ∧
    parsed.hostname = js "www.bilibili.com" ∧ parsed.origin = origin ∧ origin ≠ js "null"

/-- What the URL standard says of the addresses on the site. -/
structure Standard (URL : JsString → Option Url) (decode normalizePath : JsString → JsString) :
    Prop where
  decoding : Decoding decode
  kept : ∀ path, NormalPath path → normalizePath path = path
  normal : ∀ path, NormalPath (normalizePath path)
  pathname : ∀ {url parsed}, URL url = some parsed → parsed.hostname = js "www.bilibili.com" →
    parsed.origin ≠ js "null" → NormalPath parsed.pathname
  values : ∀ {url parsed}, URL url = some parsed → ∀ pair ∈ parsed.searchParams,
    pair.2.WellFormed
  reads : ∀ {origin rest}, IsOrigin URL origin → js "/" <+: rest →
    URL (origin ++ rest) = some ⟨origin, js "www.bilibili.com", normalizePath (pathText rest),
      searchParams decode rest⟩
  /-- An opaque origin is written as a word, and no address starts with it. -/
  refuses : ∀ {rest}, js "/" <+: rest → URL (js "null" ++ rest) = none

section
variable {path : JsString} (normal : NormalPath path)
include normal

theorem bare_path : (∀ u ∈ path, isDark u = true) ∧ char '?' ∉ path :=
  ⟨fun u mem => (normal.units u mem).1, fun mem => (normal.units _ mem).2 rfl⟩

theorem pathText_of_tail (t : Tail) : pathText (path ++ t.query) = path := by
  obtain ⟨dark, plain⟩ := bare_path normal
  cases t with
  | whole => rw [Tail.query, List.append_nil, pathText_bare dark plain]
  | cid c => rw [Tail.query_cid, (texts_of_query dark plain _).1]
  | page p => rw [Tail.query_page, (texts_of_query dark plain _).1]

theorem length_queryText (text : JsString) :
    (queryText (path ++ text)).length ≤ text.length - 1 := by
  obtain ⟨dark, plain⟩ := bare_path normal
  have apart : ∀ u ∈ path, decide (u ≠ char '?') = true := by
    intro u mem
    exact decide_eq_true fun eq => plain (eq ▸ mem)
  rw [queryText, clean_append dark, beforeHash_append dark, List.dropWhile_append_of_pos apart,
    List.length_tail]
  have fits := ((List.dropWhile_sublist (· ≠ char '?')).trans (read_sublist text)).length_le
  omega

variable {decode : JsString → JsString}

theorem params_of_whole : searchParams decode (path ++ Tail.whole.query) = [] := by
  obtain ⟨dark, plain⟩ := bare_path normal
  rw [Tail.query, List.append_nil, searchParams, queryText_bare dark plain]
  rfl

variable (decoding : Decoding decode)
include decoding

theorem params_of_cid (c : JsString) :
    ∃ others, searchParams decode (path ++ (Tail.cid c).query) =
      (js "cid", reread decode c) :: others ∧ (isPlainValue c = true → others = []) := by
  obtain ⟨dark, plain⟩ := bare_path normal
  have units : ∀ u ∈ js "cid", isNameUnit u = true := List.all_eq_true.mp (by decide)
  rw [Tail.query_cid]
  exact searchParams_of_query dark plain units
    (decoding.plain _ (wellFormed_js _) (by decide) (by decide)) c

theorem params_of_page (p : JsString) :
    ∃ others, searchParams decode (path ++ (Tail.page p).query) =
      (js "p", reread decode p) :: others ∧ (isPlainValue p = true → others = []) := by
  obtain ⟨dark, plain⟩ := bare_path normal
  have units : ∀ u ∈ js "p", isNameUnit u = true := List.all_eq_true.mp (by decide)
  rw [Tail.query_page]
  exact searchParams_of_query dark plain units
    (decoding.plain _ (wellFormed_js _) (by decide) (by decide)) p

variable {t : Tail} (given : t.Given) {url : Url}
  (params : url.searchParams = searchParams decode (path ++ t.query))
include given params

/-- The part is read back exactly if it is plain. -/
theorem tail_eq_iff (cidless : kind ≠ .video → ∀ c, t ≠ .cid c) :
    url.tail kind = t ↔ t.isPlain = true := by
  cases t with
  | whole =>
    rw [params_of_whole normal] at params
    simp [Url.tail, Url.get_nil params, Tail.of, Tail.isPlain]
  | cid c =>
    obtain ⟨others, same, -⟩ := params_of_cid normal decoding c
    rw [same] at params
    have video : kind = .video := by
      by_contra other
      exact cidless other c rfl
    rw [Url.tail, if_pos video, Url.get_first params, Tail.isPlain,
      ← reread_eq_iff decoding given.2]
    by_cases empty : reread decode c = []
    · rw [if_pos empty, empty]
      constructor
      · intro other
        cases page : url.get "p" <;> simp [Tail.of, page] at other
      · intro same
        exact absurd same.symm given.1
    · simp [if_neg empty, Tail.of]
  | page p =>
    obtain ⟨others, same, alone⟩ := params_of_page normal decoding p
    rw [same] at params
    rw [Tail.isPlain]
    constructor
    · intro read
      rw [← reread_eq_iff decoding given.2]
      rw [Url.tail, Url.get_first params] at read
      cases part : (if kind = .video then url.get "cid" else none) with
      | some c => simp [part, Tail.of] at read
      | none =>
        by_cases empty : reread decode p = []
        · simp [part, empty, Tail.of] at read
        · simpa [part, empty, Tail.of] using read
    · intro plain
      have value := (reread_eq_iff decoding given.2).mpr plain
      have first := Url.get_first params
      rw [value, if_neg given.1] at first
      rw [alone plain] at params
      have part : url.get "cid" = none := Url.get_other params (by decide)
      simp [Url.tail, part, first, Tail.of]

theorem unnamed_of_plain (plain : t.isPlain = true) : url.get "bvid" = none := by
  cases t with
  | whole =>
    rw [params_of_whole normal] at params
    exact Url.get_nil params _
  | cid c =>
    obtain ⟨others, same, alone⟩ := params_of_cid normal decoding c
    rw [same, alone plain] at params
    exact Url.get_other params (by decide)
  | page p =>
    obtain ⟨others, same, alone⟩ := params_of_page normal decoding p
    rw [same, alone plain] at params
    exact Url.get_other params (by decide)

end

section
variable {bvid : JsString} (filled : bvid ≠ []) (plain : isPlainSegment bvid = true)

omit filled in
theorem normal_of_bvid (plain : isPlainSegment bvid = true) :
    NormalPath (js "/video/" ++ bvid) := by
  refine ⟨[js "video", bvid], ?_, ?_⟩
  · have lead : js "/video/" = char '/' :: (js "video" ++ [char '/']) := by decide
    simp [serialize, lead]
  · intro segment mem
    simp only [List.mem_cons, List.not_mem_nil, or_false] at mem
    rcases mem with rfl | rfl
    · decide
    · exact plain

include filled plain

theorem bare_of_bvid :
    withoutTrailingSlashes (js "/video/" ++ bvid) = js "/video/" ++ bvid := by
  apply List.rdropWhile_eq_self_iff.mpr
  intro nonempty
  rw [List.getLast_append_of_ne_nil _ filled]
  simp only [decide_eq_true_eq]
  intro slash
  exact slash_not_mem plain (slash ▸ List.getLast_mem filled)

theorem video_of_bvid :
    parseSupportedBilibiliPath (js "/video/" ++ bvid) = some (.video, bvid) := by
  have segment : isSegment bvid = true := by
    simp only [isPlainSegment, Bool.and_eq_true, List.all_eq_true] at plain
    simp only [isSegment, Bool.and_eq_true, List.all_eq_true, decide_eq_true_eq, List.mem_cons,
      List.not_mem_nil, or_false, not_or]
    refine ⟨by simpa using filled, ?_⟩
    intro u mem
    have dark := dark_of_segmentUnit (plain.1 u mem)
    exact ⟨dark.2.2, dark.2.1⟩
  have after : segmentAfter "/video/" (js "/video/" ++ bvid) = some bvid :=
    segmentAfter_eq_some_iff.mpr ⟨rfl, segment⟩
  simp only [parseSupportedBilibiliPath, bare_of_bvid filled plain, after]

end

section
variable {URL : JsString → Option Url} {decode normalizePath : JsString → JsString}
  (standard : Standard URL decode normalizePath)
include standard

/-- The address of a page names the page itself, in the part its query gives. -/
theorem entry_canonical_iff {origin path : JsString} {t : Tail} (onSite : IsOrigin URL origin)
    (normal : NormalPath path) (bare : withoutTrailingSlashes path = path)
    (entry : parseSupportedBilibiliPath path = some (kind, id)) (single : kind ≠ .medialist)
    (given : t.Given) (cidless : kind ≠ .video → ∀ c, t ≠ .cid c) :
    parseBilibiliVideoRef URL (origin ++ path ++ t.query) =
      some ⟨id ++ t.label, origin ++ path ++ t.query⟩ ↔ t.isPlain = true := by
  have slash := slash_of_kind entry t.query
  rw [bare] at slash
  have read := standard.reads onSite slash
  rw [pathText_of_tail normal, standard.kept path normal, ← List.append_assoc] at read
  have filled : origin ++ path ++ t.query ≠ [] := by
    intro empty
    rw [List.append_assoc, List.append_eq_nil_iff] at empty
    have longer := slash.length_le
    rw [empty.2] at longer
    exact absurd longer (by decide)
  generalize again : (⟨origin, js "www.bilibili.com", path,
    searchParams decode (path ++ t.query)⟩ : Url) = url at read
  have params : url.searchParams = searchParams decode (path ++ t.query) := by rw [← again]
  have path' : url.pathname = path := by rw [← again]
  have origin' : url.origin = origin := by rw [← again]
  have host : url.hostname = js "www.bilibili.com" := by rw [← again]
  have entry' : parseSupportedBilibiliPath url.pathname = some (kind, id) := path'.symm ▸ entry
  have tail := tail_eq_iff normal standard.decoding given params cidless
  constructor
  · intro named
    obtain ⟨base, id', t', names, ref⟩ := names_of_ref filled read host named
    obtain ⟨ids, queries⟩ := BilibiliVideoRef.mk.inj ref
    cases names with
    | listed path list bvid =>
      have fits := listed_fits standard.decoding params bvid
      have length := length_queryText normal t.query
      have ids := congrArg List.length ids
      have margin := t.length_query
      have most := t.margin_le
      simp only [List.length_append] at ids
      omega
    | entry other single unnamed =>
      cases Option.some.inj (entry'.symm.trans other)
      rw [origin', path', bare] at queries
      rw [← tail]
      have queries := congrArg (id ++ ·) (List.append_cancel_left queries)
      exact (split_unique queries ids).2.symm
  · intro plain
    have unnamed := unnamed_of_plain normal standard.decoding given params plain
    have names := Names.entry entry' single fun _ => unnamed
    rw [ref_of_names filled read host names, tail.mpr plain, origin', path', bare]

/-- An address that names a list's entry again has the entry as a segment of its path. -/
theorem plain_of_listed {bvid : JsString} {t : Tail}
    (named : parseBilibiliVideoRef URL
        (js "https://www.bilibili.com" ++ (js "/video/" ++ bvid) ++ t.query) =
      some ⟨bvid ++ t.label,
        js "https://www.bilibili.com" ++ (js "/video/" ++ bvid) ++ t.query⟩) :
    isPlainSegment bvid = true := by
  have lead : js "/video/" = js "/video" ++ [char '/'] ∧ (js "/video/").length = 7 ∧
      (js "/bangumi/play/").length = 14 := by decide
  have videos : NormalPath (js "/video/") := ⟨[js "video", []], by decide, by decide⟩
  have slash : js "/" <+: js "/video/" ++ (bvid ++ t.query) :=
    ⟨js "video/" ++ (bvid ++ t.query), rfl⟩
  have read := standard.reads (.inl rfl) slash
  rw [← List.append_assoc (js "/video/"), ← List.append_assoc] at read
  have filled : js "https://www.bilibili.com" ++ (js "/video/" ++ bvid) ++ t.query ≠ [] := by
    simp [lead.1]
  generalize again :
    (⟨js "https://www.bilibili.com", js "www.bilibili.com", _, _⟩ : Url) = url at read
  have params : url.searchParams = searchParams decode (js "/video/" ++ (bvid ++ t.query)) := by
    rw [← again, List.append_assoc]
  have normal : NormalPath url.pathname := by
    rw [← again]
    exact standard.normal _
  have origin : url.origin = js "https://www.bilibili.com" := by rw [← again]
  have host : url.hostname = js "www.bilibili.com" := by rw [← again]
  obtain ⟨base, id, t', names, ref⟩ := names_of_ref filled read host named
  obtain ⟨ids, queries⟩ := BilibiliVideoRef.mk.inj ref
  have idLength := congrArg List.length ids
  have margin := t.length_query
  have most := t.margin_le
  have margin' := t'.length_query
  have most' := t'.margin_le
  simp only [List.length_append] at idLength
  cases names with
  | listed path list bound =>
    have fits := listed_fits standard.decoding params bound
    have length := length_queryText videos (bvid ++ t.query)
    rw [List.length_append] at length
    omega
  | @entry kind id path single unnamed =>
    rw [origin] at queries
    simp only [List.append_assoc] at queries
    have queries := List.append_cancel_left queries
    have urlLength := congrArg List.length queries
    simp only [List.length_append] at urlLength
    have read := path_of_kind path
    cases kind with
    | video =>
      rw [read.1, List.append_assoc] at queries
      have same := (split_unique (List.append_cancel_left queries) ids).1
      have bare := normal.withoutTrailingSlashes
      rw [read.1, lead.1, List.append_assoc] at bare
      rw [same]
      apply bare.last
      have segment := read.2
      simp only [isSegment, Bool.and_eq_true, List.all_eq_true, decide_eq_true_eq] at segment
      intro mem
      exact segment.2 _ mem (by decide)
    | bangumi =>
      rw [read, List.length_append] at urlLength
      omega
    | festival =>
      rw [read] at urlLength
      omega
    | medialist => exact absurd rfl single

/-- A list's entry is read back exactly if it is a segment of a path and its part is plain. -/
theorem listed_canonical_iff {bvid : JsString} {t : Tail} (filled : bvid ≠ []) (given : t.Given) :
    parseBilibiliVideoRef URL (js "https://www.bilibili.com/video/" ++ bvid ++ t.query) =
      some ⟨bvid ++ t.label, js "https://www.bilibili.com/video/" ++ bvid ++ t.query⟩ ↔
        isPlainSegment bvid = true ∧ t.isPlain = true := by
  have base : js "https://www.bilibili.com/video/" ++ bvid =
      js "https://www.bilibili.com" ++ (js "/video/" ++ bvid) := by
    have same : js "https://www.bilibili.com/video/" =
        js "https://www.bilibili.com" ++ js "/video/" := by decide
    rw [same, List.append_assoc]
  have canonical (plain : isPlainSegment bvid = true) :=
    entry_canonical_iff standard (.inl rfl) (normal_of_bvid plain) (bare_of_bvid filled plain)
      (video_of_bvid filled plain) (by decide) given (by simp)
  rw [base]
  constructor
  · intro named
    have plain := plain_of_listed standard named
    exact ⟨plain, (canonical plain).mp named⟩
  · rintro ⟨plain, part⟩
    exact (canonical plain).mpr part

end

/-! ## An address of the site -/

def hexValue (u : CodeUnit) : Nat :=
  if isDigit u then u.toNat - 48 else (foldCase u).toNat - 87

/-- The decoding of a query, of escapes that stand for ASCII. -/
def unescape : JsString → JsString
  | percent :: high :: low :: rest =>
    if percent = char '%' ∧ isHex high = true ∧ isHex low = true then
      let byte := hexValue high * 16 + hexValue low
      (if byte < 0x80 then byte.toUInt16 else 0xFFFD) :: unescape rest
    else (if percent = char '+' then char ' ' else percent) :: unescape (high :: low :: rest)
  | u :: rest => (if u = char '+' then char ' ' else u) :: unescape rest
  | [] => []

def formDecode (s : JsString) : JsString := (unescape s).utf8.units

theorem unescaped_short {u : CodeUnit} {rest : JsString}
    (short : ∀ high low others, rest = high :: low :: others → False) :
    hasEscape rest = false ∧ hasEscape (u :: rest) = false := by
  cases rest with
  | nil => exact ⟨rfl, rfl⟩
  | cons v rest =>
    cases rest with
    | nil => exact ⟨rfl, rfl⟩
    | cons w rest => exact (short v w rest rfl).elim

theorem unescape_plain (unescaped : hasEscape s = false) (plus : char '+' ∉ s) :
    unescape s = s := by
  fun_induction unescape s with
  | case1 percent high low rest escape byte ih => simp [hasEscape, escape] at unescaped
  | case2 percent high low rest escape ih =>
    simp only [hasEscape, Bool.or_eq_false_iff] at unescaped
    simp only [List.mem_cons, not_or] at plus ih
    rw [ih unescaped.2 plus.2, if_neg (Ne.symm plus.1)]
  | case3 u rest short ih =>
    simp only [List.mem_cons, not_or] at plus
    rw [ih (unescaped_short (u := u) short).1 plus.2, if_neg (Ne.symm plus.1)]
  | case4 => rfl

theorem length_unescape_le (s : JsString) : (unescape s).length ≤ s.length := by
  fun_induction unescape s <;> simp only [List.length_cons, List.length_nil] at * <;> omega

theorem length_unescape_lt (escaped : hasEscape s = true) :
    (unescape s).length < s.length := by
  fun_induction unescape s with
  | case1 percent high low rest escape byte ih =>
    have le := length_unescape_le rest
    simp only [List.length_cons]
    omega
  | case2 percent high low rest escape ih =>
    simp only [hasEscape, Bool.or_eq_true, Bool.and_eq_true, decide_eq_true_eq,
      and_assoc] at escaped
    have lt := ih (escaped.resolve_left escape)
    simp only [List.length_cons] at lt ⊢
    omega
  | case3 u rest short ih =>
    rw [(unescaped_short short).2] at escaped
    cases escaped
  | case4 => cases escaped

theorem plus_unescape (unescaped : hasEscape s = false) :
    char '+' ∉ unescape s := by
  have unit (u : CodeUnit) : char '+' ≠ if u = char '+' then char ' ' else u := by
    split
    · decide
    · next other => exact Ne.symm other
  fun_induction unescape s with
  | case1 percent high low rest escape byte ih => simp [hasEscape, escape] at unescaped
  | case2 percent high low rest escape ih =>
    simp only [hasEscape, Bool.or_eq_false_iff] at unescaped
    simp only [List.mem_cons, not_or]
    exact ⟨unit percent, ih unescaped.2⟩
  | case3 u rest short ih =>
    simp only [List.mem_cons, not_or]
    exact ⟨unit u, ih (unescaped_short (u := u) short).1⟩
  | case4 => simp

theorem mem_utf8 {u : CodeUnit} (mem : u ∈ s.utf8.units) : u ∈ s ∨ u = 0xFFFD := by
  have whole : u ∈ (quote s).units ∨ u = 0xFFFD := by
    simp only [JsString.utf8] at mem
    generalize quote s = pieces at mem ⊢
    induction pieces with
    | nil => cases mem
    | cons piece rest ih =>
      simp only [List.map_cons, Text.units_cons, List.mem_append] at mem
      rw [Literal.units_cons, List.mem_append]
      rcases mem with here | there
      · cases piece with
        | scalar c => exact .inl (.inl here)
        | escape v => exact .inr (by simpa [Scalar.units] using here)
      · rcases ih there with mem | eq
        · exact .inl (.inr mem)
        · exact .inr eq
  rwa [units_quote] at whole

theorem decoding_formDecode : Decoding formDecode where
  plain s wellFormed unescaped plus := by
    rw [formDecode, unescape_plain unescaped plus, wellFormed.units_utf8]
  le s := by
    rw [formDecode, length_utf8]
    exact length_unescape_le s
  lt s escaped := by
    rw [formDecode, length_utf8]
    exact length_unescape_lt escaped
  plus s unescaped mem := by
    rcases mem_utf8 mem with here | other
    · exact plus_unescape unescaped here
    · exact absurd other (by decide)

def sitePath (path : JsString) : JsString := if isNormalPath path then path else js "/"

/-- The addresses of the site. -/
def siteURL (text : JsString) : Option Url :=
  ((js "https://www.bilibili.com").isPrefixOf? text).bind fun rest =>
    if (js "/").isPrefixOf rest then
      some ⟨js "https://www.bilibili.com", js "www.bilibili.com", sitePath (pathText rest),
        searchParams formDecode rest⟩
    else none

theorem siteURL_eq_some {text : JsString} {parsed : Url} (read : siteURL text = some parsed) :
    ∃ rest, parsed = ⟨js "https://www.bilibili.com", js "www.bilibili.com",
      sitePath (pathText rest), searchParams formDecode rest⟩ := by
  obtain ⟨rest, -, found⟩ := Option.bind_eq_some_iff.mp read
  split at found
  · exact ⟨rest, (Option.some.inj found).symm⟩
  · cases found

theorem normal_sitePath (path : JsString) : NormalPath (sitePath path) := by
  rw [sitePath]
  split
  · next normal => exact (isNormalPath_iff path).mp normal
  · exact (isNormalPath_iff _).mp (by decide)

theorem standard_siteURL : Standard siteURL formDecode sitePath where
  decoding := decoding_formDecode
  kept path normal := if_pos ((isNormalPath_iff path).mpr normal)
  normal := normal_sitePath
  pathname read _ _ := by
    obtain ⟨rest, rfl⟩ := siteURL_eq_some read
    exact normal_sitePath _
  values read pair mem := by
    obtain ⟨rest, rfl⟩ := siteURL_eq_some read
    obtain ⟨piece, -, rfl⟩ := List.mem_map.mp mem
    exact ⟨_, rfl⟩
  reads := by
    intro origin rest onSite slash
    have site : origin = js "https://www.bilibili.com" := by
      rcases onSite with site | ⟨url, parsed, read, -, rfl, -⟩
      · exact site
      · obtain ⟨rest, rfl⟩ := siteURL_eq_some read
        rfl
    have split_ : (js "https://www.bilibili.com").isPrefixOf? (origin ++ rest) = some rest :=
      isPrefixOf?_eq_some_iff.mpr (by rw [site])
    rw [siteURL, split_, Option.bind_some, if_pos (List.isPrefixOf_iff_prefix.mpr slash), site]
  refuses := by
    intro rest slash
    cases split_ : (js "https://www.bilibili.com").isPrefixOf? (js "null" ++ rest) with
    | none => rw [siteURL, split_, Option.bind_none]
    | some other =>
      have lead := List.cons.inj (isPrefixOf?_eq_some_iff.mp split_)
      exact absurd lead.1 (by decide)

/-! ## Normal forms -/

/-- What an address is built of stands for itself. -/
def Url.standsForItself (parsed : Url) : Bool :=
  match parseSupportedBilibiliPath parsed.pathname, parsed.get "bvid" with
  | some (.festival, _), some bvid | some (.medialist, _), some bvid =>
    isPlainSegment bvid && (Tail.of (parsed.get "cid") (parsed.get "p")).isPlain
  | some (kind, _), _ => decide (parsed.origin ≠ js "null") && (parsed.tail kind).isPlain
  | none, _ => true

def IsCanonical (URL : JsString → Option Url) (url normalized : JsString) : Prop :=
  normalizeBilibiliUrl URL normalized = some normalized ∧
    (parseBilibiliVideoRef URL normalized).map BilibiliVideoRef.videoId =
      (parseBilibiliVideoRef URL url).map BilibiliVideoRef.videoId

section
variable {URL : JsString → Option Url} {decode normalizePath : JsString → JsString}
  (standard : Standard URL decode normalizePath)
include standard

theorem given_of_get {url : JsString} {parsed : Url} (read : URL url = some parsed)
    (found : parsed.get name = some value) :
    value ≠ [] ∧ value.WellFormed := by
  obtain ⟨mem, filled⟩ := Url.mem_of_get found
  exact ⟨filled, standard.values read _ mem⟩

theorem given_of {url : JsString} {parsed : Url} (read : URL url = some parsed) (kept : Bool) :
    (Tail.of (if kept then parsed.get "cid" else none) (parsed.get "p")).Given := by
  cases part : (if kept then parsed.get "cid" else none) with
  | some c =>
    cases kept with
    | true => exact given_of_get standard read part
    | false => cases part
  | none =>
    cases page : parsed.get "p" with
    | some p => exact given_of_get standard read page
    | none => trivial

omit standard in
theorem no_ref {url : JsString} (refused : URL url = none) :
    parseBilibiliVideoRef URL url = none := by
  by_cases filled : url = [] <;> simp [parseBilibiliVideoRef, filled, refused]

omit standard in
theorem site_of_ref {url : JsString} {parsed : Url} {ref : BilibiliVideoRef}
    (read : URL url = some parsed) (named : parseBilibiliVideoRef URL url = some ref) :
    url ≠ [] ∧ parsed.hostname = js "www.bilibili.com" := by
  by_cases filled : url = []
  · simp [parseBilibiliVideoRef, filled] at named
  · refine ⟨filled, ?_⟩
    by_contra host
    simp [parseBilibiliVideoRef, filled, read, host] at named

/-- An address that is built is read back exactly where what it is built of stands for itself. -/
theorem read_back_iff {url : JsString} {parsed : Url} {ref : BilibiliVideoRef}
    (read : URL url = some parsed) (named : parseBilibiliVideoRef URL url = some ref) :
    parseBilibiliVideoRef URL ref.normalizedUrl = some ref ↔ parsed.standsForItself = true := by
  obtain ⟨filled, host⟩ := site_of_ref read named
  obtain ⟨base, id, t, names, rfl⟩ := names_of_ref filled read host named
  cases names with
  | listed path list bvid =>
    have given := given_of standard read true
    have stands : parsed.standsForItself =
        (isPlainSegment id && (Tail.of (parsed.get "cid") (parsed.get "p")).isPlain) := by
      rcases list with rfl | rfl <;> simp only [Url.standsForItself, path, bvid]
    rw [stands, Bool.and_eq_true]
    exact listed_canonical_iff standard (given_of_get standard read bvid).1 given
  | @entry kind id path single unnamed =>
    have stands : parsed.standsForItself =
        (decide (parsed.origin ≠ js "null") && (parsed.tail kind).isPlain) := by
      cases kind with
      | video | bangumi => simp only [Url.standsForItself, path]
      | festival => simp only [Url.standsForItself, path, unnamed rfl]
      | medialist => exact absurd rfl single
    rw [stands, Bool.and_eq_true, decide_eq_true_eq]
    by_cases sealed : parsed.origin = js "null"
    · have refused := standard.refuses (slash_of_kind path (parsed.tail kind).query)
      rw [← List.append_assoc, ← sealed] at refused
      rw [no_ref refused]
      simp [sealed]
    · have normal := (standard.pathname read host sealed).withoutTrailingSlashes
      have given : (parsed.tail kind).Given := by
        have given := given_of standard read (decide (kind = .video))
        simpa only [Url.tail, decide_eq_true_eq] using given
      have cidless : kind ≠ .video → ∀ c, parsed.tail kind ≠ .cid c := by
        intro other c
        rw [Url.tail, if_neg other]
        cases parsed.get "p" <;> simp [Tail.of]
      have onSite : IsOrigin URL parsed.origin := .inr ⟨url, parsed, read, host, rfl, sealed⟩
      rw [entry_canonical_iff standard onSite normal (withoutTrailingSlashes_idem _)
        (by rw [parse_withoutTrailingSlashes, path]) single given cidless]
      simp [sealed]

/-- A normal form and what is read out of it. -/
theorem isCanonical_iff {url normalized : JsString}
    (normalizes : normalizeBilibiliUrl URL url = some normalized) :
    IsCanonical URL url normalized ↔ (URL url).any Url.standsForItself = true := by
  obtain ⟨ref, named, rfl⟩ := Option.map_eq_some_iff.mp normalizes
  have found : ∃ parsed, URL url = some parsed := by
    cases read : URL url with
    | none => cases (no_ref read).symm.trans named
    | some parsed => exact ⟨parsed, rfl⟩
  obtain ⟨parsed, read⟩ := found
  rw [read, Option.any_some, ← read_back_iff standard read named, IsCanonical, named]
  constructor
  · rintro ⟨same, id⟩
    obtain ⟨again, reread, address⟩ := Option.map_eq_some_iff.mp same
    rw [reread] at id ⊢
    have id : again.videoId = ref.videoId := by simpa using id
    cases again
    cases ref
    simp_all
  · intro back
    rw [normalizeBilibiliUrl, back]
    exact ⟨rfl, rfl⟩

/-- Two addresses are read back out of their normal forms, and equal normal forms name one video,
exactly where what the two are built of stands for itself. -/
theorem normal_forms_are_canonical_iff {u v n m : JsString}
    (fromU : normalizeBilibiliUrl URL u = some n) (fromV : normalizeBilibiliUrl URL v = some m) :
    IsCanonical URL u n ∧ IsCanonical URL v m ∧
        (n = m → (parseBilibiliVideoRef URL u).map BilibiliVideoRef.videoId =
          (parseBilibiliVideoRef URL v).map BilibiliVideoRef.videoId) ↔
      (URL u).any Url.standsForItself = true ∧ (URL v).any Url.standsForItself = true := by
  rw [← isCanonical_iff standard fromU, ← isCanonical_iff standard fromV]
  constructor
  · rintro ⟨left, right, -⟩
    exact ⟨left, right⟩
  · rintro ⟨left, right⟩
    refine ⟨left, right, ?_⟩
    rintro rfl
    exact left.2.symm.trans right.2

end

theorem festival_entry_is_canonical :
    IsCanonical siteURL (js "https://www.bilibili.com/festival/a?bvid=BV1&cid=2")
        (js "https://www.bilibili.com/video/BV1?cid=2") ∧
      IsCanonical siteURL (js "https://www.bilibili.com/video/BV1/?t=3&cid=2#r")
        (js "https://www.bilibili.com/video/BV1?cid=2") ∧
      (js "https://www.bilibili.com/video/BV1?cid=2" =
          js "https://www.bilibili.com/video/BV1?cid=2" →
        (parseBilibiliVideoRef siteURL
            (js "https://www.bilibili.com/festival/a?bvid=BV1&cid=2")).map
          BilibiliVideoRef.videoId =
        (parseBilibiliVideoRef siteURL
            (js "https://www.bilibili.com/video/BV1/?t=3&cid=2#r")).map
          BilibiliVideoRef.videoId) := by
  apply (normal_forms_are_canonical_iff standard_siteURL _ _).mpr
  · decide +kernel
  · decide +kernel
  · decide +kernel

/-- A part with a mark in it comes back as another, and an id with a question mark in it shares
its normal form with an id and its part. -/
theorem decoded_marks_are_not_encoded_again :
    normalizeBilibiliUrl siteURL (js "https://www.bilibili.com/video/BV1?cid=1%262") =
        some (js "https://www.bilibili.com/video/BV1?cid=1&2") ∧
      parseBilibiliVideoRef siteURL (js "https://www.bilibili.com/video/BV1?cid=1&2") =
        some ⟨js "BV1:1", js "https://www.bilibili.com/video/BV1?cid=1"⟩ ∧
      parseBilibiliVideoRef siteURL
          (js "https://www.bilibili.com/festival/a?bvid=BV1%3Fcid%3D1") =
        some ⟨js "BV1?cid=1", js "https://www.bilibili.com/video/BV1?cid=1"⟩ := by
  decide +kernel

end BiliSyncPlay.Protocol
