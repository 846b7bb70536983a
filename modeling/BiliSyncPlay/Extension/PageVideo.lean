import BiliSyncPlay.Protocol.Bounds

/-!
# What a page says it is playing

`content/page-video.ts` and the answer of the page bridge: three places a video can be read from,
none of which looks at how long or how it is spelt what it found.
-/

namespace BiliSyncPlay.PageVideo

open Json RedisRoomStore Protocol

/-- What the code uses of its platform. -/
structure Platform where
  URL : JsString → Option Url
  /-- An address with `bvid` and `cid` set and no hash, written back. -/
  withVideoParams : JsString → JsString → JsString → JsString
  toUpperCase : JsString → JsString

def site : JsString := js "https://www.bilibili.com"

def isPathUnit (u : CodeUnit) : Bool := isAlphanumeric u || u ∈ [char '/', char ':']

/-- What the documentation of the platform promises of addresses of the site. -/
structure Platform.Documented (P : Platform) : Prop where
  empty : P.URL [] = none
  reads : ∀ path query : JsString, path.head? = some (char '/') →
    (∀ u ∈ path, isPathUnit u = true) → (query = [] ∨ query.head? = some (char '?')) →
    ∃ parsed, P.URL (site ++ path ++ query) = some parsed ∧
      parsed.hostname = js "www.bilibili.com" ∧ parsed.pathname = path
  keepsRoute : ∀ pageUrl bvid cid parsed, P.URL pageUrl = some parsed →
    ∃ again, P.URL (P.withVideoParams pageUrl bvid cid) = some again ∧
      again.hostname = parsed.hostname ∧ again.pathname = parsed.pathname
  upper : ∀ s : JsString, (∀ u ∈ s, (isUpper u || isDigit u) = true) → P.toUpperCase s = s

structure SharedVideo where
  videoId : JsString
  url : JsString
  title : JsString
  deriving DecidableEq

/-- The page bridge's answer, each value spelt out; a falsy one is none, but for an empty `cid`. -/
structure Detail where
  epId : Option JsString := none
  bvid : Option JsString := none
  cid : Option JsString := none
  title : Option JsString := none
  deriving DecidableEq

def startsWith (s : JsString) (lead : String) : Bool := (js lead).isPrefixOf s

def normalizedEpId (epId : JsString) : JsString :=
  if startsWith epId "ep" then epId else js "ep" ++ epId

def buildBangumiEpisodeShareUrl (epId : JsString) : JsString :=
  js "https://www.bilibili.com/bangumi/play/" ++ normalizedEpId epId

def buildBvidCidShareUrl (bvid cid : JsString) : JsString :=
  js "https://www.bilibili.com/video/" ++ bvid ++ js "?cid=" ++ cid

section
variable (P : Platform)

def readSnapshot (pathname pageUrl : JsString) (detail : Detail) : Option SharedVideo :=
  match detail.title with
  | none => none
  | some title =>
    match if startsWith pathname "/bangumi/play/" then detail.epId else none with
    | some epId =>
      some {
        videoId := normalizedEpId epId
        url := buildBangumiEpisodeShareUrl epId
        title := trim title }
    | none =>
      match detail.bvid, detail.cid with
      | some bvid, some cid =>
        some {
          videoId := bvid ++ js ":" ++ cid
          url :=
            if startsWith pathname "/festival/" then P.withVideoParams pageUrl bvid cid
            else buildBvidCidShareUrl bvid cid
          title := trim title }
      | _, _ => none

structure PageVideoSource where
  pageUrl : JsString
  pathname : JsString
  documentTitle : JsString
  headingTitle : Option JsString := none
  currentPartTitle : Option JsString := none
  pageSnapshot : Option SharedVideo := none
  festivalSnapshot : Option SharedVideo := none
  addressBarIdentityRefuted : Bool := false
  deriving DecidableEq

/-- `a || b`. -/
def orElse (a b : JsString) : JsString := if a = [] then b else a

def resolveSharedVideoTitle (source : PageVideoSource) : JsString :=
  orElse (source.currentPartTitle.getD []) <| orElse (source.headingTitle.getD []) <|
    orElse (trim (source.documentTitle.takeWhile (· ≠ char '_'))) (trim source.documentTitle)

def resolvePageSharedVideo (source : PageVideoSource) : Option SharedVideo :=
  match source.pageSnapshot with
  | some snapshot => some snapshot
  | none =>
    match if startsWith source.pathname "/festival/" then source.festivalSnapshot else none with
    | some snapshot => some snapshot
    | none =>
      if source.addressBarIdentityRefuted then none
      else (parseBilibiliVideoRef P.URL source.pageUrl).map fun fallbackVideoRef =>
        { videoId := fallbackVideoRef.videoId
          url := fallbackVideoRef.normalizedUrl
          title := orElse (resolveSharedVideoTitle source) fallbackVideoRef.videoId }

/-! ## What the page has to say for its video to be one the guard takes -/

/-- A part: a page, or `p` and a page. -/
def isPart (cid : JsString) : Bool :=
  isCounter cid || cid.head? = some (char 'p') && isCounter cid.tail

/-- The pieces an id is put together from. -/
def NamesVideo (name : JsString) (cid p : Option JsString) : Prop :=
  match cid, p with
  | some cid, _ => isVideoName name = true ∧ isPart cid = true ∧ name.length + cid.length ≤ 127
  | none, some p => isVideoName name = true ∧ isCounter p = true ∧ name.length + p.length ≤ 126
  | none, none => isVideoId (some (.str name)) = true ∧ name.length ≤ 128

/-- What an address of the site says of the video. -/
def AddressNames (parsed : Url) : Prop :=
  match parseSupportedBilibiliPath parsed.pathname with
  | none => True
  | some (kind, id) =>
    match kind, parsed.get "bvid" with
    | .festival, some bvid | .medialist, some bvid =>
      NamesVideo bvid (parsed.get "cid") (parsed.get "p")
    | .medialist, none => True
    | .festival, none => False
    | .video, _ => NamesVideo id (parsed.get "cid") (parsed.get "p")
    | .bangumi, _ => NamesVideo id none (parsed.get "p")

/-- What the bridge's answer says of it. -/
def DetailNames (pathname pageUrl : JsString) (detail : Detail) : Prop :=
  ∀ title, detail.title = some title →
    match if startsWith pathname "/bangumi/play/" then detail.epId else none with
    | some epId =>
      NamesVideo (normalizedEpId epId) none none ∧ (trim title).length ≤ TITLE_MAX_LENGTH
    | none =>
      ∀ bvid cid, detail.bvid = some bvid → detail.cid = some cid →
        NamesVideo bvid (some cid) none ∧ (trim title).length ≤ TITLE_MAX_LENGTH ∧
          (startsWith pathname "/festival/" = true →
            (segmentAfter "/festival/" (withoutTrailingSlashes pathname)).isSome = true ∧
              (P.withVideoParams pageUrl bvid cid).length ≤ URL_MAX_LENGTH)

/-- The titles of a page, best first. -/
def titlesOf (source : PageVideoSource) : List JsString :=
  [source.currentPartTitle.getD [], source.headingTitle.getD [],
    trim (source.documentTitle.takeWhile (· ≠ char '_')), trim source.documentTitle]

/-- What a page says of a video that only its address names. -/
def SourceNames (source : PageVideoSource) : Prop :=
  source.pageSnapshot = none →
    (startsWith source.pathname "/festival/" = true → source.festivalSnapshot = none) →
    source.addressBarIdentityRefuted = false →
    isBilibiliUrl P.URL (some (.str source.pageUrl)) = true →
    (∀ parsed, P.URL source.pageUrl = some parsed → AddressNames parsed) ∧
      ∀ title, (titlesOf source).find? (· ≠ []) = some title → title.length ≤ TITLE_MAX_LENGTH

/-- How much the query of an address adds to it. -/
def queryLength (cid p : Option JsString) : Nat :=
  match cid, p with
  | some cid, _ => 5 + cid.length
  | none, some p => 3 + p.length
  | none, none => 0

/-! A video that is not shared is named in a playback by its address only, which need not be long:
these are the lengths of its pieces, with 24 code units for the site, 31 for its video pages and 38
for its seasons. -/

def AddressFits (parsed : Url) : Prop :=
  match parseSupportedBilibiliPath parsed.pathname with
  | none => True
  | some (kind, _) =>
    match kind, parsed.get "bvid" with
    | .festival, some bvid | .medialist, some bvid =>
      31 + bvid.length + queryLength (parsed.get "cid") (parsed.get "p") ≤ URL_MAX_LENGTH
    | .medialist, none => True
    | _, _ =>
      24 + (withoutTrailingSlashes parsed.pathname).length +
        queryLength (if kind = .video then parsed.get "cid" else none) (parsed.get "p") ≤
          URL_MAX_LENGTH

def DetailFits (pathname pageUrl : JsString) (detail : Detail) : Prop :=
  match if startsWith pathname "/bangumi/play/" then detail.epId else none with
  | some epId => 38 + (normalizedEpId epId).length ≤ URL_MAX_LENGTH
  | none =>
    ∀ bvid cid, detail.bvid = some bvid → detail.cid = some cid →
      if startsWith pathname "/festival/" then
        (P.withVideoParams pageUrl bvid cid).length ≤ URL_MAX_LENGTH
      else 31 + bvid.length + (5 + cid.length) ≤ URL_MAX_LENGTH

def SourceFits (source : PageVideoSource) : Prop :=
  source.pageSnapshot = none →
    (startsWith source.pathname "/festival/" = true → source.festivalSnapshot = none) →
    source.addressBarIdentityRefuted = false →
    ∀ parsed, P.URL source.pageUrl = some parsed → AddressFits parsed

/-- The page a content script runs in. -/
def OnSite (pageUrl pathname : JsString) : Prop :=
  ∃ parsed, P.URL pageUrl = some parsed ∧ parsed.origin = site ∧
    parsed.hostname = js "www.bilibili.com" ∧ parsed.pathname = pathname

end

/-! ## Then the guard takes it -/

/-- What `isSharedVideo` asks of the three fields the extension fills in. -/
structure Sound (P : Platform) (video : SharedVideo) : Prop where
  videoId : isVideoId (some (.str video.videoId)) = true
  idLength : video.videoId.length ≤ TITLE_MAX_LENGTH
  url : isBilibiliUrl P.URL (some (.str video.url)) = true
  urlLength : video.url.length ≤ URL_MAX_LENGTH
  title : video.title.length ≤ TITLE_MAX_LENGTH

/-! ### Ids -/

variable {cid p : Option JsString} {name pageUrl pathname s : JsString} {video : SharedVideo}

theorem isVideoId_iff : isVideoId (some (.str s)) = true ↔
    isVideoName (s.takeWhile (· ≠ char ':')) = true ∧
      match s.dropWhile (· ≠ char ':') with
      | [] => True
      | _ :: part => isPart part = true := by
  have part_eq (part : JsString) :
      (if part.head? = some (char 'p') then isCounter part.tail else isCounter part) =
        isPart part := by
    unfold isPart
    split
    · next lead =>
      cases part with
      | nil => cases lead
      | cons u rest =>
        obtain rfl : u = char 'p' := Option.some.inj lead
        have letter : within '1' '9' (char 'p') = false := by decide
        simp [isCounter, letter]
    · next lead => simp [lead]
  unfold isVideoId holds asString
  simp only [Option.any_some, Bool.and_eq_true]
  cases s.dropWhile (· ≠ char ':') with
  | nil => simp
  | cons _ part => simp only [part_eq]

theorem alphanumeric_of_name (name : isVideoName s = true) :
    ∀ u ∈ s, isAlphanumeric u = true := by
  have split : s = (s.splitAt 2).1 ++ (s.splitAt 2).2 := by simp [List.splitAt_eq]
  have kinds : ∀ u ∈ js "BV" ++ js "av" ++ js "ep" ++ js "ss", isAlphanumeric u = true :=
    List.all_eq_true.mp (by decide)
  unfold isVideoName at name
  generalize s.splitAt 2 = pieces at name split
  obtain ⟨kind, rest⟩ := pieces
  simp only [Bool.or_eq_true, Bool.and_eq_true, decide_eq_true_eq, List.mem_cons,
    List.not_mem_nil, or_false, isDigits] at name
  intro u mem
  rw [split] at mem
  rcases List.mem_append.mp mem with early | late
  · apply kinds u
    simp only [List.mem_append]
    rcases name with ⟨⟨rfl, -⟩, -⟩ | ⟨rfl | rfl | rfl, -⟩
    · exact .inl (.inl (.inl early))
    · exact .inl (.inl (.inr early))
    · exact .inl (.inr early)
    · exact .inr early
  · rcases name with ⟨-, all⟩ | ⟨-, -, all⟩
    · exact List.all_eq_true.mp all u late
    · have digit := List.all_eq_true.mp all u late
      simp [isAlphanumeric, digit]

theorem ne_colon_of_name (name : isVideoName s = true) :
    ∀ u ∈ s, (u ≠ char ':') := by
  intro u mem same
  have letter := alphanumeric_of_name name u mem
  rw [same] at letter
  exact absurd letter (by decide)

theorem isVideoId_joined {part : JsString} (named : isVideoName name = true)
    (parted : isPart part = true) : isVideoId (some (.str (name ++ js ":" ++ part))) = true := by
  have colon : js ":" = [char ':'] := by decide
  have apart : ∀ u ∈ name, decide (u ≠ char ':') = true :=
    fun u mem => decide_eq_true (ne_colon_of_name named u mem)
  rw [isVideoId_iff, colon, List.append_assoc, List.takeWhile_append_of_pos apart,
    List.dropWhile_append_of_pos apart]
  simp [named, parted]

theorem isVideoId_videoIdOf (names : NamesVideo name cid p) :
    isVideoId (some (.str (videoIdOf name cid p))) = true ∧
      (videoIdOf name cid p).length ≤ TITLE_MAX_LENGTH := by
  have colon : (js ":").length = 1 := by decide
  have page : js ":p" = js ":" ++ [char 'p'] := by decide
  cases cid with
  | some cid =>
    obtain ⟨named, parted, short⟩ := names
    refine ⟨isVideoId_joined named parted, ?_⟩
    simp only [videoIdOf, List.length_append, colon, TITLE_MAX_LENGTH]
    omega
  | none =>
    cases p with
    | some p =>
      obtain ⟨named, counted, short⟩ := names
      have parted : isPart (char 'p' :: p) = true := by simp [isPart, counted]
      constructor
      · have joined := isVideoId_joined named parted
        simpa [videoIdOf, page] using joined
      · simp only [videoIdOf, page, List.length_append, colon, List.length_singleton,
          TITLE_MAX_LENGTH]
        omega
    | none => exact names

/-! ### Addresses -/

def isIdUnit (u : CodeUnit) : Bool := isAlphanumeric u || decide (u = char ':')

theorem isIdUnit_of_part {part : JsString} (parted : isPart part = true) :
    ∀ u ∈ part, isIdUnit u = true := by
  have counted {s : JsString} (counter : isCounter s = true) : ∀ u ∈ s, isIdUnit u = true := by
    intro u mem
    cases s with
    | nil => cases counter
    | cons first rest =>
      simp only [isCounter, Bool.and_eq_true, List.all_eq_true] at counter
      have digit : isDigit u = true := by
        rcases List.mem_cons.mp mem with rfl | mem
        · have bounds := counter.1
          simp only [within, Bool.and_eq_true, decide_eq_true_eq] at bounds
          have low : char '0' ≤ char '1' := by decide
          simp [isDigit, within, UInt16.le_trans low bounds.1, bounds.2]
        · exact counter.2 u mem
      simp [isIdUnit, isAlphanumeric, digit]
  simp only [isPart, Bool.or_eq_true, Bool.and_eq_true, decide_eq_true_eq] at parted
  rcases parted with counter | ⟨lead, counter⟩
  · exact counted counter
  · cases part with
    | nil => cases lead
    | cons first rest =>
      obtain rfl : first = char 'p' := Option.some.inj lead
      intro u mem
      rcases List.mem_cons.mp mem with rfl | mem
      · decide
      · exact counted counter u mem

theorem isIdUnit_of_id (id : isVideoId (some (.str s)) = true) :
    s ≠ [] ∧ ∀ u ∈ s, isIdUnit u = true := by
  obtain ⟨name, part⟩ := isVideoId_iff.mp id
  have letters := alphanumeric_of_name name
  constructor
  · rintro rfl
    exact absurd name (by decide)
  · intro u mem
    rw [← List.takeWhile_append_dropWhile (p := (· ≠ char ':')) (l := s)] at mem
    rcases List.mem_append.mp mem with early | late
    · simp [isIdUnit, letters u early]
    · cases rest : s.dropWhile (· ≠ char ':') with
      | nil =>
        rw [rest] at late
        cases late
      | cons colon following =>
        rw [rest] at part late
        rcases List.mem_cons.mp late with rfl | late
        · have nonempty : s.dropWhile (· ≠ char ':') ≠ [] := by
            rw [rest]
            exact List.cons_ne_nil _ _
          have stop := List.head_dropWhile_not (· ≠ char ':') nonempty
          simp only [rest, List.head_cons, decide_eq_false_iff_not, not_not] at stop
          simp [isIdUnit, stop]
        · exact isIdUnit_of_part part u late

theorem segment_of_id {id : JsString} (filled : id ≠ []) (units : ∀ u ∈ id, isIdUnit u = true) :
    isSegment id = true ∧ ∀ lead : JsString, withoutTrailingSlashes (lead ++ id) = lead ++ id := by
  have apart : ∀ u ∈ id, u ∉ [char '/', char '?'] := by
    intro u mem other
    have unit := units u mem
    simp only [List.mem_cons, List.not_mem_nil, or_false] at other
    rcases other with rfl | rfl <;> exact absurd unit (by decide)
  constructor
  · simp only [isSegment, Bool.and_eq_true, Bool.not_eq_true', List.isEmpty_eq_false_iff,
      List.all_eq_true, decide_eq_true_eq]
    exact ⟨filled, apart⟩
  · intro lead
    rw [withoutTrailingSlashes, List.rdropWhile_eq_self_iff]
    intro nonempty
    rw [List.getLast_append_of_ne_nil _ filled]
    have last := apart _ (List.getLast_mem filled)
    simp only [List.mem_cons, not_or] at last
    simp [last.1]

theorem isBilibiliUrl_of_path {P : Platform} (documented : P.Documented) {url : JsString}
    {parsed : Url} {kind : PathKind} {id : JsString} (read : P.URL url = some parsed)
    (host : parsed.hostname = js "www.bilibili.com")
    (path : parseSupportedBilibiliPath parsed.pathname = some (kind, id))
    (named : kind ≠ .medialist) : isBilibiliUrl P.URL (some (.str url)) = true := by
  have filled : url ≠ [] := by
    rintro rfl
    cases documented.empty.symm.trans read
  simp only [isBilibiliUrl, holds, asString, Option.any_some, parseBilibiliVideoRef, if_neg filled,
    read, host, path, Option.bind_eq_bind, Option.bind_some, ne_eq, not_true_eq_false, ↓reduceIte]
  cases kind <;> cases parsed.get "bvid" <;> simp_all

/-- A lead whose paths are entries of a kind. -/
structure Entry (kind : PathKind) (lead : JsString) : Prop where
  start : lead.head? = some (char '/')
  plain : ∀ u ∈ lead, isPathUnit u = true
  short : lead.length ≤ 14
  named : kind ≠ .medialist
  path : ∀ {id : JsString}, id ≠ [] → (∀ u ∈ id, isIdUnit u = true) →
    parseSupportedBilibiliPath (lead ++ id) = some (kind, id)

theorem entry_video : Entry .video (js "/video/") where
  start := rfl
  plain := List.all_eq_true.mp (by decide)
  short := by decide
  named := by decide
  path {id} filled units := by
    obtain ⟨segment, kept⟩ := segment_of_id filled units
    have after : segmentAfter "/video/" (js "/video/" ++ id) = some id :=
      segmentAfter_eq_some_iff.mpr ⟨rfl, segment⟩
    simp only [parseSupportedBilibiliPath, kept, after]

theorem entry_bangumi : Entry .bangumi (js "/bangumi/play/") where
  start := rfl
  plain := List.all_eq_true.mp (by decide)
  short := by decide
  named := by decide
  path {id} filled units := by
    obtain ⟨segment, kept⟩ := segment_of_id filled units
    have other : segmentAfter "/video/" (js "/bangumi/play/" ++ id) = none := rfl
    have after : segmentAfter "/bangumi/play/" (js "/bangumi/play/" ++ id) = some id :=
      segmentAfter_eq_some_iff.mpr ⟨rfl, segment⟩
    simp only [parseSupportedBilibiliPath, kept, other, after]

theorem units_of_names (names : NamesVideo name cid p) :
    name ≠ [] ∧ (∀ u ∈ name, isIdUnit u = true) ∧
      name.length + ((cid.or p).map List.length).getD 0 ≤ 128 := by
  have of_name (named : isVideoName name = true) :
      name ≠ [] ∧ ∀ u ∈ name, isIdUnit u = true := by
    have letters := alphanumeric_of_name named
    constructor
    · rintro rfl
      exact absurd named (by decide)
    · intro u mem
      simp [isIdUnit, letters u mem]
  cases cid with
  | some cid =>
    obtain ⟨named, -, short⟩ := names
    obtain ⟨filled, units⟩ := of_name named
    refine ⟨filled, units, ?_⟩
    simp only [Option.some_or, Option.map_some, Option.getD_some]
    omega
  | none =>
    cases p with
    | some p =>
      obtain ⟨named, -, short⟩ := names
      obtain ⟨filled, units⟩ := of_name named
      refine ⟨filled, units, ?_⟩
      simp only [Option.none_or, Option.map_some, Option.getD_some]
      omega
    | none =>
      obtain ⟨id, short⟩ := names
      obtain ⟨filled, units⟩ := isIdUnit_of_id id
      exact ⟨filled, units, by simpa using short⟩

section
variable {P : Platform} (documented : P.Documented) {kind : PathKind} {lead : JsString}
  (entry : Entry kind lead)
include documented entry

theorem isBilibiliUrl_of_entry {id : JsString} (filled : id ≠ [])
    (units : ∀ u ∈ id, isIdUnit u = true) (query : JsString)
    (asked : query = [] ∨ query.head? = some (char '?')) :
    isBilibiliUrl P.URL (some (.str (site ++ (lead ++ id) ++ query))) = true := by
  have first : (lead ++ id).head? = some (char '/') := by simp [List.head?_append, entry.start]
  have all : ∀ u ∈ lead ++ id, isPathUnit u = true := by
    intro u mem
    rcases List.mem_append.mp mem with mem | mem
    · exact entry.plain u mem
    · have unit := units u mem
      simp only [isIdUnit, Bool.or_eq_true, decide_eq_true_eq] at unit
      rcases unit with letter | rfl
      · simp [isPathUnit, letter]
      · decide
  obtain ⟨parsed, read, host, named⟩ := documented.reads (lead ++ id) query first all asked
  exact isBilibiliUrl_of_path documented read host (named ▸ entry.path filled units) entry.named

theorem url_of_names (names : NamesVideo name cid p) :
    isBilibiliUrl P.URL (some (.str (normalizedUrlOf (site ++ (lead ++ name)) cid p))) = true ∧
      (normalizedUrlOf (site ++ (lead ++ name)) cid p).length ≤ URL_MAX_LENGTH := by
  obtain ⟨filled, units, short⟩ := units_of_names names
  have taken := isBilibiliUrl_of_entry documented entry filled units
  have cidLead : (js "?cid=").length = 5 := by decide
  have pageLead : (js "?p=").length = 3 := by decide
  have siteLength : site.length = 24 := by decide
  have leadLength := entry.short
  cases cid with
  | some cid =>
    constructor
    · have asked := taken (js "?cid=" ++ cid) (.inr rfl)
      rwa [← List.append_assoc] at asked
    · simp only [Option.some_or, Option.map_some, Option.getD_some] at short
      simp only [normalizedUrlOf, List.length_append, cidLead, siteLength, URL_MAX_LENGTH]
      omega
  | none =>
    cases p with
    | some p =>
      constructor
      · have asked := taken (js "?p=" ++ p) (.inr rfl)
        rwa [← List.append_assoc] at asked
      · simp only [Option.none_or, Option.map_some, Option.getD_some] at short
        simp only [normalizedUrlOf, List.length_append, pageLead, siteLength, URL_MAX_LENGTH]
        omega
    | none =>
      constructor
      · have asked := taken [] (.inl rfl)
        rwa [List.append_nil] at asked
      · simp only [Option.none_or, Option.map_none, Option.getD_none] at short
        simp only [normalizedUrlOf, List.length_append, siteLength, URL_MAX_LENGTH]
        omega

end

/-! ### Videos -/

theorem sound_of_names {P : Platform} (documented : P.Documented) {kind : PathKind}
    {lead : JsString} (entry : Entry kind lead) {title : JsString} (names : NamesVideo name cid p)
    (titled : title.length ≤ TITLE_MAX_LENGTH) :
    Sound P {
      videoId := videoIdOf name cid p
      url := normalizedUrlOf (site ++ (lead ++ name)) cid p
      title } := by
  obtain ⟨videoId, idLength⟩ := isVideoId_videoIdOf names
  obtain ⟨url, urlLength⟩ := url_of_names documented entry names
  exact { videoId, idLength, url, urlLength, title := titled }

theorem buildBangumiEpisodeShareUrl_eq (epId : JsString) : buildBangumiEpisodeShareUrl epId =
    normalizedUrlOf (site ++ (js "/bangumi/play/" ++ normalizedEpId epId)) none none := by
  have lead : js "https://www.bilibili.com/bangumi/play/" = site ++ js "/bangumi/play/" := by
    decide +kernel
  simp only [buildBangumiEpisodeShareUrl, lead, normalizedUrlOf, List.append_assoc]

theorem videoLead : js "https://www.bilibili.com/video/" = site ++ js "/video/" := by
  decide +kernel

theorem buildBvidCidShareUrl_eq (bvid cid : JsString) : buildBvidCidShareUrl bvid cid =
    normalizedUrlOf (site ++ (js "/video/" ++ bvid)) (some cid) none := by
  simp only [buildBvidCidShareUrl, videoLead, normalizedUrlOf, List.append_assoc]

/-- The festival page is one the protocol knows, and the parameters set on it change nothing. -/
theorem isBilibiliUrl_of_festival {P : Platform} (documented : P.Documented)
    (onSite : OnSite P pageUrl pathname)
    (segment : (segmentAfter "/festival/" (withoutTrailingSlashes pathname)).isSome = true)
    (bvid cid : JsString) :
    isBilibiliUrl P.URL (some (.str (P.withVideoParams pageUrl bvid cid))) = true := by
  obtain ⟨parsed, address, -, host, rfl⟩ := onSite
  obtain ⟨again, addressAgain, hostAgain, pathAgain⟩ :=
    documented.keepsRoute pageUrl bvid cid parsed address
  obtain ⟨id, after⟩ := Option.isSome_iff_exists.mp segment
  obtain ⟨spelt, -⟩ := segmentAfter_eq_some_iff.mp after
  have notVideo : segmentAfter "/video/" (withoutTrailingSlashes parsed.pathname) = none := by
    rw [spelt]
    rfl
  have notSeason : segmentAfter "/bangumi/play/" (withoutTrailingSlashes parsed.pathname) =
      none := by
    rw [spelt]
    rfl
  have path : parseSupportedBilibiliPath again.pathname =
      some (.festival, withoutTrailingSlashes parsed.pathname) := by
    simp only [pathAgain, parseSupportedBilibiliPath, notVideo, notSeason, segment, ↓reduceIte]
  exact isBilibiliUrl_of_path documented addressAgain (hostAgain.trans host) path (by decide)

theorem sound_readSnapshot {P : Platform} (documented : P.Documented)
    (onSite : OnSite P pageUrl pathname) {detail : Detail}
    (names : DetailNames P pathname pageUrl detail)
    (read : readSnapshot P pathname pageUrl detail = some video) : Sound P video := by
  unfold readSnapshot at read
  split at read
  · cases read
  · next title given =>
    have names := names title given
    split at read
    · next epId inSeason =>
      rw [inSeason] at names
      cases Option.some.inj read
      rw [buildBangumiEpisodeShareUrl_eq]
      exact sound_of_names documented entry_bangumi names.1 names.2
    · next outside =>
      rw [outside] at names
      split at read
      · next bvid cid bvidGiven cidGiven =>
        obtain ⟨named, titled, festival⟩ := names bvid cid bvidGiven cidGiven
        cases Option.some.inj read
        rw [buildBvidCidShareUrl_eq]
        have plain := sound_of_names documented entry_video named titled
        split
        · next onFestival =>
          obtain ⟨segment, urlLength⟩ := festival onFestival
          have url := isBilibiliUrl_of_festival documented onSite segment bvid cid
          exact { videoId := plain.videoId, idLength := plain.idLength, url, urlLength,
                  title := titled }
        · exact plain
      · cases read

/-- The video of an address, where no snapshot names one. -/
theorem sound_parseBilibiliVideoRef {P : Platform} (documented : P.Documented)
    (onSite : OnSite P pageUrl pathname)
    (names : ∀ parsed, P.URL pageUrl = some parsed → AddressNames parsed) {ref : BilibiliVideoRef}
    (read : parseBilibiliVideoRef P.URL pageUrl = some ref) {title : JsString}
    (titled : title.length ≤ TITLE_MAX_LENGTH) :
    Sound P { videoId := ref.videoId, url := ref.normalizedUrl, title } := by
  obtain ⟨parsed, address, origin, host, rfl⟩ := onSite
  have named := names parsed address
  have filled : pageUrl ≠ [] := by
    rintro rfl
    cases documented.empty.symm.trans address
  simp only [parseBilibiliVideoRef, if_neg filled, address, host, origin, videoLead, ne_eq,
    not_true_eq_false, ↓reduceIte, Option.bind_eq_bind, Option.bind_some,
    Option.bind_eq_some_iff] at read
  obtain ⟨⟨kind, id⟩, path, read⟩ := read
  have spelt := path_of_kind path
  rw [AddressNames, path] at named
  cases kind with
  | video =>
    have sound := sound_of_names documented entry_video named titled
    rw [spelt.1] at read
    cases Option.some.inj read
    exact sound
  | bangumi =>
    have sound := sound_of_names documented entry_bangumi named titled
    rw [spelt] at read
    cases Option.some.inj read
    exact sound
  | festival =>
    cases asked : parsed.get "bvid" with
    | none =>
      rw [asked] at named
      cases named
    | some bvid =>
      rw [asked] at named read
      cases Option.some.inj read
      exact sound_of_names documented entry_video named titled
  | medialist =>
    cases asked : parsed.get "bvid" with
    | none =>
      rw [asked] at read
      cases read
    | some bvid =>
      rw [asked] at named read
      cases Option.some.inj read
      exact sound_of_names documented entry_video named titled

theorem resolveSharedVideoTitle_eq (source : PageVideoSource) :
    resolveSharedVideoTitle source = ((titlesOf source).find? (· ≠ [])).getD [] := by
  simp only [resolveSharedVideoTitle, titlesOf, orElse, List.find?_cons, List.find?_nil]
  repeat' split
  all_goals simp_all

/-- A page that says what the guard takes of a video that only its address names. -/
theorem sound_resolvePageSharedVideo {P : Platform} (documented : P.Documented)
    {source : PageVideoSource} (onSite : OnSite P source.pageUrl source.pathname)
    (noPage : source.pageSnapshot = none)
    (noFestival : startsWith source.pathname "/festival/" = true → source.festivalSnapshot = none)
    (names : SourceNames P source) (resolved : resolvePageSharedVideo P source = some video) :
    Sound P video := by
  unfold resolvePageSharedVideo at resolved
  rw [noPage] at resolved
  dsimp only at resolved
  split at resolved
  · next snapshot given =>
    split at given
    · next onFestival => cases (noFestival onFestival).symm.trans given
    · cases given
  · split at resolved
    · cases resolved
    · next trusted =>
      obtain ⟨ref, read, rfl⟩ := Option.map_eq_some_iff.mp resolved
      have known : isBilibiliUrl P.URL (some (.str source.pageUrl)) = true := by
        simp [isBilibiliUrl, holds, asString, read]
      obtain ⟨address, titled⟩ := names noPage noFestival (by simpa using trusted) known
      have short (other : JsString) (brief : other.length ≤ TITLE_MAX_LENGTH) :
          (orElse (resolveSharedVideoTitle source) other).length ≤ TITLE_MAX_LENGTH := by
        rw [resolveSharedVideoTitle_eq, orElse]
        split
        · exact brief
        · cases first : (titlesOf source).find? (· ≠ []) with
          | none => exact Nat.zero_le _
          | some title => exact titled title first
      have plain : Sound P { videoId := ref.videoId, url := ref.normalizedUrl, title := [] } :=
        sound_parseBilibiliVideoRef documented onSite address read (Nat.zero_le _)
      exact { plain with title := short ref.videoId plain.idLength }

/-! ### Addresses that fit -/

theorem length_normalizedUrlOf (base : JsString) (cid p : Option JsString) :
    (normalizedUrlOf base cid p).length = base.length + queryLength cid p := by
  have cidLead : (js "?cid=").length = 5 := by decide
  have pageLead : (js "?p=").length = 3 := by decide
  unfold normalizedUrlOf queryLength
  cases cid with
  | some cid =>
    simp only [List.length_append, cidLead]
    omega
  | none =>
    cases p with
    | some p =>
      simp only [List.length_append, pageLead]
      omega
    | none => rfl

theorem length_site : site.length = 24 := by decide

theorem fits_readSnapshot {P : Platform} {detail : Detail}
    (fits : DetailFits P pathname pageUrl detail)
    (read : readSnapshot P pathname pageUrl detail = some video) :
    video.url.length ≤ URL_MAX_LENGTH := by
  have videos : (js "/video/").length = 7 := by decide
  have seasons : (js "/bangumi/play/").length = 14 := by decide
  unfold readSnapshot at read
  split at read
  · cases read
  · split at read
    · next epId inSeason =>
      rw [DetailFits, inSeason] at fits
      cases Option.some.inj read
      rw [buildBangumiEpisodeShareUrl_eq, length_normalizedUrlOf]
      simp only [List.length_append, length_site, seasons, queryLength]
      omega
    · next outside =>
      rw [DetailFits, outside] at fits
      split at read
      · next bvid cid bvidGiven cidGiven =>
        have fits := fits bvid cid bvidGiven cidGiven
        cases Option.some.inj read
        dsimp only
        split
        · next onFestival => rwa [if_pos onFestival] at fits
        · next elsewhere =>
          rw [if_neg elsewhere] at fits
          rw [buildBvidCidShareUrl_eq, length_normalizedUrlOf]
          simp only [List.length_append, length_site, videos, queryLength]
          omega
      · cases read

theorem fits_parseBilibiliVideoRef {P : Platform} (onSite : OnSite P pageUrl pathname)
    (fits : ∀ parsed, P.URL pageUrl = some parsed → AddressFits parsed) {ref : BilibiliVideoRef}
    (read : parseBilibiliVideoRef P.URL pageUrl = some ref) :
    ref.normalizedUrl.length ≤ URL_MAX_LENGTH := by
  have videos : (js "/video/").length = 7 := by decide
  obtain ⟨parsed, address, origin, host, rfl⟩ := onSite
  have fits := fits parsed address
  by_cases blank : pageUrl = []
  · simp [parseBilibiliVideoRef, blank] at read
  simp only [parseBilibiliVideoRef, if_neg blank, address, host, origin, videoLead, ne_eq,
    not_true_eq_false, ↓reduceIte, Option.bind_eq_bind, Option.bind_some,
    Option.bind_eq_some_iff] at read
  obtain ⟨⟨kind, id⟩, path, read⟩ := read
  rw [AddressFits, path] at fits
  -- The video pages of the site, which an address may name instead of its own.
  have named {bvid : JsString} {ref : BilibiliVideoRef}
      (fits : 31 + bvid.length + queryLength (parsed.get "cid") (parsed.get "p") ≤ URL_MAX_LENGTH)
      (same : ref.normalizedUrl =
        normalizedUrlOf (site ++ js "/video/" ++ bvid) (parsed.get "cid") (parsed.get "p")) :
      ref.normalizedUrl.length ≤ URL_MAX_LENGTH := by
    rw [same, length_normalizedUrlOf]
    simp only [List.length_append, length_site, videos]
    omega
  have plain {cid : Option JsString} {ref : BilibiliVideoRef}
      (fits : 24 + (withoutTrailingSlashes parsed.pathname).length +
        queryLength cid (parsed.get "p") ≤ URL_MAX_LENGTH)
      (same : ref.normalizedUrl = normalizedUrlOf
        (site ++ withoutTrailingSlashes parsed.pathname) cid (parsed.get "p")) :
      ref.normalizedUrl.length ≤ URL_MAX_LENGTH := by
    rwa [same, length_normalizedUrlOf, List.length_append, length_site]
  cases kind with
  | video | bangumi =>
    cases Option.some.inj read
    exact plain fits rfl
  | festival =>
    cases asked : parsed.get "bvid" with
    | none =>
      rw [asked] at fits read
      cases Option.some.inj read
      exact plain fits rfl
    | some bvid =>
      rw [asked] at fits read
      cases Option.some.inj read
      exact named fits rfl
  | medialist =>
    cases asked : parsed.get "bvid" with
    | none =>
      rw [asked] at read
      cases read
    | some bvid =>
      rw [asked] at fits read
      cases Option.some.inj read
      exact named fits rfl

/-- A page that only hands on what was read, or whose address fits, names a video that does. -/
theorem fits_resolvePageSharedVideo {P : Platform} {source : PageVideoSource}
    (onSite : OnSite P source.pageUrl source.pathname) (fits : SourceFits P source)
    (noPage : source.pageSnapshot = none)
    (noFestival : startsWith source.pathname "/festival/" = true → source.festivalSnapshot = none)
    (resolved : resolvePageSharedVideo P source = some video) :
    video.url.length ≤ URL_MAX_LENGTH := by
  unfold resolvePageSharedVideo at resolved
  rw [noPage] at resolved
  dsimp only at resolved
  split at resolved
  · next snapshot given =>
    split at given
    · next onFestival => cases (noFestival onFestival).symm.trans given
    · cases given
  · split at resolved
    · cases resolved
    · next trusted =>
      obtain ⟨ref, read, rfl⟩ := Option.map_eq_some_iff.mp resolved
      exact fits_parseBilibiliVideoRef onSite
        (fits noPage noFestival (by simpa using trusted)) read

end BiliSyncPlay.PageVideo
