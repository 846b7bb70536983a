import BiliSyncPlay.Extension.PageVideo
import BiliSyncPlay.Saturation
import Mathlib.Logic.Equiv.Defs
import Mathlib.Order.Bounds.Defs

/-!
# What a page has left behind

`content/page-record-staleness.ts`, the part of `content/video-identity.ts` it asks, and what
`share-controller.ts` answers a page with. `lower` is `toLowerCase`; a record the page does not have
is none. What the controller logs is left out.
-/

namespace BiliSyncPlay.PageVideo

open Json RedisRoomStore Protocol Saturation

structure PageVideoRecord where
  episodeId : Option JsString := none
  cid : Option JsString := none
  title : Option JsString := none
  deriving DecidableEq

/-- `title.split("_")[0]?.trim() || title.trim()`. -/
def titleRecordKey (title : JsString) : JsString :=
  orElse (trim (title.takeWhile (· ≠ char '_'))) (trim title)

/-- `^\/bangumi\/play\/(ep\d+)$`, whatever the case of the letters. -/
def matchEpisodePathname (path : JsString) : Option JsString :=
  let lead := js "/bangumi/play/"
  let id := path.drop lead.length
  if (path.take lead.length).map foldCase = lead ∧ (id.take 2).map foldCase = js "ep" ∧
      isDigits (id.drop 2) then some id
  else none

section
variable (lower : JsString → JsString) (pathname : JsString)

def readAddressBarEpisodeId : Option JsString :=
  (matchEpisodePathname (withoutTrailingSlashes pathname)).map lower

def lacksAddressBarEpisodeConfirmation (episodeId : Option JsString) : Bool :=
  match readAddressBarEpisodeId lower pathname with
  | none => false
  | some addressBarEpisodeId => decide (episodeId.map lower ≠ some addressBarEpisodeId)

def contradictsAddressBarEpisode (episodeId : Option JsString) : Bool :=
  episodeId.any (· ≠ []) && lacksAddressBarEpisodeConfirmation lower pathname episodeId

/-- The record is there and proven to be of another episode. -/
def contradicts (record : Option PageVideoRecord) : Bool :=
  record.any fun record => contradictsAddressBarEpisode lower pathname record.episodeId

/-- The record names the episode of the address bar. -/
def confirmed (record : Option PageVideoRecord) : Bool :=
  match readAddressBarEpisodeId lower pathname, record.bind PageVideoRecord.episodeId with
  | some addressBarEpisodeId, some episodeId => decide (lower episodeId = addressBarEpisodeId)
  | _, _ => false

end

def sharesValue (normalize : JsString → JsString) (left right : Option JsString) : Bool :=
  match left, right with
  | some left, some right =>
    decide (left ≠ []) && decide (right ≠ []) && decide (normalize left ≠ []) &&
      decide (normalize left = normalize right)
  | _, _ => false

section
variable (lower : JsString → JsString)

def describeSameRecord (left right : Option PageVideoRecord) : Bool :=
  match left, right with
  | some left, some right =>
    sharesValue lower left.episodeId right.episodeId || sharesValue id left.cid right.cid ||
      sharesValue titleRecordKey left.title right.title
  | _, _ => false

variable (pathname : JsString)

/-- Staleness comes over a link, but never to a record that is confirmed. -/
def inherits (left right : Option PageVideoRecord) : Bool :=
  !confirmed lower pathname right && describeSameRecord lower left right

def markStalePageRecords (records : List (Option PageVideoRecord)) : List Bool :=
  match readAddressBarEpisodeId lower pathname with
  | none => records.map (contradicts lower pathname)
  | some _ =>
    (saturate (inherits lower pathname) (seeded (contradicts lower pathname) records)).map Prod.snd

end

/-! ## The video of the page -/

/-- The highlighted item of the episode list. -/
structure ActiveItem where
  textContent : JsString
  dataEpId : Option JsString := none
  dataEpisodeId : Option JsString := none
  dataEpisodeid : Option JsString := none
  dataEpid : Option JsString := none
  dataCid : Option JsString := none

structure CurrentPartIdentity where
  title : Option JsString
  epId : Option JsString
  cid : Option JsString

def getCurrentPartIdentity (active : Option ActiveItem) : CurrentPartIdentity :=
  let rawEpId := active.bind fun item =>
    item.dataEpId.or (item.dataEpisodeId.or (item.dataEpisodeid.or item.dataEpid))
  { title := (active.map fun item => trim item.textContent).filter (· ≠ [])
    epId := (rawEpId.filter (· ≠ [])).map normalizedEpId
    cid := active.bind ActiveItem.dataCid }

/-- What the bridge read last. Where it stored an episode, that is the id of the video. -/
structure CachedPageSnapshot extends SharedVideo where
  epId : Option JsString
  cid : Option JsString
  pathname : Option JsString
  pageUrl : Option JsString
  named : epId = none ∨ epId = some videoId

def readSnapshotEpisodeId (snapshot : CachedPageSnapshot) : Option JsString :=
  snapshot.epId.or (if startsWith snapshot.videoId "ep" then some snapshot.videoId else none)

def readSnapshotCid (snapshot : CachedPageSnapshot) : Option JsString :=
  snapshot.cid.or (if char ':' ∈ snapshot.videoId then
    some (snapshot.videoId.rtakeWhile (· ≠ char ':')) else none)

/-- The page as a content script finds it. -/
structure PageState where
  pathname : JsString
  /-- `location.href` without its hash -/
  pageUrl : JsString
  active : Option ActiveItem
  /-- The text of the first `h1`. -/
  heading : Option JsString
  documentTitle : JsString
  snapshot : Option CachedPageSnapshot

section
variable (P : Platform) (lower : JsString → JsString) (normalizePageVisitUrl : JsString → JsString)

/-- What `festival-bridge.ts` stores of the bridge's answer. -/
def bridgeSnapshot (pathname pageUrl : JsString) (detail : Detail) : Option CachedPageSnapshot :=
  match read : readSnapshot P pathname pageUrl detail with
  | none => none
  | some video => some
    { video with
      epId := (if startsWith pathname "/bangumi/play/" then detail.epId else none).map
        normalizedEpId
      cid := detail.cid
      pathname := some pathname
      pageUrl := some pageUrl
      named := by
        unfold readSnapshot at read
        split at read
        · cases read
        · split at read
          next season =>
            cases read
            exact .inr (by rw [season]; rfl)
          next season => exact .inl (by rw [season]; rfl) }

def isAddressBarOpaqueVideoUrl (url : JsString) : Bool :=
  decide (url ≠ []) && (P.URL url).any fun parsed => startsWith parsed.pathname "/festival/"

def hasMatchingCachedPagePathname (pathname : JsString) (snapshot : CachedPageSnapshot) : Bool :=
  snapshot.pathname.any fun cached =>
    decide (withoutTrailingSlashes cached = withoutTrailingSlashes pathname)

def cachedPageSnapshotDescribesCurrentPart (page : PageState) (snapshot : CachedPageSnapshot) :
    Bool :=
  let currentPart := getCurrentPartIdentity page.active
  if startsWith page.pathname "/festival/" then
    snapshot.pathname.any (startsWith · "/festival/") &&
      hasMatchingCachedPagePathname page.pathname snapshot &&
      snapshot.pageUrl.any fun url =>
        decide (normalizePageVisitUrl url = normalizePageVisitUrl page.pageUrl)
  else
    let snapshotEpId := readSnapshotEpisodeId snapshot
    let snapshotCid := readSnapshotCid snapshot
    let titleMatches := decide (currentPart.title = some (trim snapshot.title))
    startsWith page.pathname "/bangumi/play/" &&
      hasMatchingCachedPagePathname page.pathname snapshot &&
      (snapshotEpId.isSome && decide (snapshotEpId = currentPart.epId) ||
        snapshotCid.isSome && decide (snapshotCid = currentPart.cid) || titleMatches)

def canUseMatchingCachedPageSnapshot (page : PageState) (snapshot : CachedPageSnapshot) : Bool :=
  cachedPageSnapshotDescribesCurrentPart normalizePageVisitUrl page snapshot &&
    !lacksAddressBarEpisodeConfirmation lower page.pathname (readSnapshotEpisodeId snapshot)

/-- The page visit whose video a snapshot has resolved once. -/
structure ShareController where
  snapshotResolvedPageUrl : Option JsString := none

namespace ShareController

def observePageVisit (controller : ShareController) (pageUrl : JsString) : ShareController :=
  { snapshotResolvedPageUrl := controller.snapshotResolvedPageUrl.filter fun resolved =>
      decide (resolved = normalizePageVisitUrl pageUrl) }

def rememberSnapshotResolved (controller : ShareController) (pageUrl : JsString) :
    ShareController :=
  let observed := controller.observePageVisit normalizePageVisitUrl pageUrl
  if isAddressBarOpaqueVideoUrl P pageUrl then
    { snapshotResolvedPageUrl := some (normalizePageVisitUrl pageUrl) }
  else observed

def hasRefutedAddressBarIdentity (controller : ShareController) (pageUrl : JsString) : Bool :=
  let observed := controller.observePageVisit normalizePageVisitUrl pageUrl
  isAddressBarOpaqueVideoUrl P pageUrl &&
    decide (observed.snapshotResolvedPageUrl = some (normalizePageVisitUrl pageUrl))

end ShareController

def headingTitle (page : PageState) : Option JsString := page.heading.map trim

/-- Everything the page says of the video it shows. -/
def pageRecords (page : PageState) : List (Option PageVideoRecord) :=
  let currentPart := getCurrentPartIdentity page.active
  [some { episodeId := currentPart.epId, cid := currentPart.cid, title := currentPart.title },
    page.snapshot.map fun snapshot =>
      { episodeId := readSnapshotEpisodeId snapshot
        cid := readSnapshotCid snapshot
        title := some snapshot.title },
    some { title := headingTitle page },
    some { title := some page.documentTitle }]

def staleAt (page : PageState) (i : Nat) : Bool :=
  ((markStalePageRecords lower page.pathname (pageRecords page))[i]?).getD false

def matchingSnapshot (page : PageState) : Option CachedPageSnapshot :=
  page.snapshot.filter (canUseMatchingCachedPageSnapshot lower normalizePageVisitUrl page)

namespace ShareController

def remembering (controller : ShareController) (page : PageState) : ShareController :=
  if (matchingSnapshot lower normalizePageVisitUrl page).isSome then
    controller.rememberSnapshotResolved P normalizePageVisitUrl page.pageUrl
  else controller

/-- What the page has not left behind, a stale source emptied whole. -/
def source (controller : ShareController) (page : PageState) : PageVideoSource :=
  let snapshot :=
    (matchingSnapshot lower normalizePageVisitUrl page).map CachedPageSnapshot.toSharedVideo
  { pageUrl := page.pageUrl
    pathname := page.pathname
    documentTitle := if staleAt lower page 3 then [] else page.documentTitle
    headingTitle := if staleAt lower page 2 then none else headingTitle page
    currentPartTitle :=
      if staleAt lower page 0 then none else (getCurrentPartIdentity page.active).title
    pageSnapshot := snapshot
    festivalSnapshot := snapshot
    addressBarIdentityRefuted := (controller.remembering P lower normalizePageVisitUrl
      page).hasRefutedAddressBarIdentity P normalizePageVisitUrl page.pageUrl }

def getSharedVideo (controller : ShareController) (page : PageState) :
    Option SharedVideo × ShareController :=
  (resolvePageSharedVideo P (controller.source P lower normalizePageVisitUrl page),
    (controller.remembering P lower normalizePageVisitUrl page).observePageVisit
      normalizePageVisitUrl page.pageUrl)

end ShareController

end

/-! ## The least stale set -/

section
variable (lower : JsString → JsString) (pathname : JsString)

/-- What the code takes for stale, of a number of records. -/
def Stale (records : List (Option PageVideoRecord)) : Option PageVideoRecord → Prop :=
  Reached (fun record => contradicts lower pathname record = true)
    (fun left right => inherits lower pathname left right = true) (· ∈ records)

variable {lower pathname} {records : List (Option PageVideoRecord)}

theorem contradicts_of_unnamed (unnamed : readAddressBarEpisodeId lower pathname = none)
    (record : Option PageVideoRecord) : contradicts lower pathname record = false := by
  cases record <;> simp [contradicts, contradictsAddressBarEpisode,
    lacksAddressBarEpisodeConfirmation, unnamed]

theorem not_stale_of_unnamed (unnamed : readAddressBarEpisodeId lower pathname = none)
    {record : Option PageVideoRecord} : ¬Stale lower pathname records record := by
  intro stale
  induction stale with
  | seed _ seeds => exact nomatch (contradicts_of_unnamed unnamed _).symm.trans seeds
  | link _ _ _ ih => exact ih

/-- The mask marks what is stale. -/
theorem mark_eq {marks : Option PageVideoRecord → Bool}
    (settles : ∀ record ∈ records, marks record = true ↔ Stale lower pathname records record) :
    markStalePageRecords lower pathname records = records.map marks := by
  unfold markStalePageRecords
  cases named : readAddressBarEpisodeId lower pathname with
  | some _ => exact saturate_eq settles
  | none =>
    apply List.map_congr_left
    intro record mem
    rw [contradicts_of_unnamed named]
    have unmarked := mt (settles record mem).mp (not_stale_of_unnamed named)
    exact (Bool.eq_false_iff.mpr unmarked).symm

variable (lower pathname records) in
theorem mark_map : ∃ marks : Option PageVideoRecord → Bool,
    (∀ record, marks record = true ↔ Stale lower pathname records record) ∧
      markStalePageRecords lower pathname records = records.map marks := by
  classical
  exact ⟨fun record => decide (Stale lower pathname records record),
    fun _ => decide_eq_true_iff, mark_eq fun _ _ => decide_eq_true_iff⟩

theorem mark_iff_stale {i : Nat} {record : Option PageVideoRecord}
    (here : records[i]? = some record) :
    (markStalePageRecords lower pathname records)[i]? = some true ↔
      Stale lower pathname records record := by
  obtain ⟨marks, settled, mask⟩ := mark_map lower pathname records
  rw [mask, List.getElem?_map, here, Option.map_some, Option.some.injEq, settled]

variable (lower pathname records)

/-- The rules: what contradicts the address bar is stale, and what is not confirmed is stale with
what it is linked to. -/
def StaleRules (stale : Set (Fin records.length)) : Prop :=
  (∀ i, contradicts lower pathname (records.get i) = true → i ∈ stale) ∧
    ∀ i ∈ stale, ∀ j, confirmed lower pathname (records.get j) = false →
      describeSameRecord lower (records.get i) (records.get j) = true → j ∈ stale

def markedSet : Set (Fin records.length) :=
  {i | (markStalePageRecords lower pathname records)[i.val]? = some true}

theorem markedSet_iff (i : Fin records.length) :
    i ∈ markedSet lower pathname records ↔ Stale lower pathname records (records.get i) :=
  mark_iff_stale (List.getElem?_eq_getElem i.isLt)

theorem markedSet_least :
    IsLeast {stale | StaleRules lower pathname records stale}
      (markedSet lower pathname records) := by
  constructor
  · constructor
    · intro i seeds
      rw [markedSet_iff]
      exact .seed (List.get_mem ..) seeds
    · intro i stale j unconfirmed linked
      rw [markedSet_iff] at stale ⊢
      apply stale.link (List.get_mem ..)
      rw [inherits, unconfirmed, linked]
      rfl
  · rintro stale ⟨seeds, links⟩ i marked
    have every : ∀ record, Stale lower pathname records record →
        ∀ j, records.get j = record → j ∈ stale := by
      intro record reached
      induction reached with
      | seed _ contradicted =>
        rintro j rfl
        exact seeds j contradicted
      | @link left right reached _ linked ih =>
        rintro j rfl
        rw [inherits, Bool.and_eq_true, Bool.not_eq_true'] at linked
        obtain ⟨k, rfl⟩ := List.get_of_mem reached.thing
        exact links k (ih k rfl) j linked.1 linked.2
    exact every _ ((markedSet_iff lower pathname records i).mp marked) i rfl

/-- The answer follows the records wherever they stand. -/
theorem mark_equivariant {n : Nat} (records : Fin n → Option PageVideoRecord)
    (σ : Equiv.Perm (Fin n)) (i : Fin n) :
    (markStalePageRecords lower pathname (List.ofFn (records ∘ σ)))[i.val]? =
      (markStalePageRecords lower pathname (List.ofFn records))[(σ i).val]? := by
  obtain ⟨marks, settled, mask⟩ := mark_map lower pathname (List.ofFn records)
  have same : ∀ record, record ∈ List.ofFn (records ∘ σ) ↔ record ∈ List.ofFn records := by
    intro record
    simp only [List.mem_ofFn, Function.comp_apply]
    constructor
    · rintro ⟨i, here⟩
      exact ⟨σ i, here⟩
    · rintro ⟨i, here⟩
      exact ⟨σ.symm i, by rw [σ.apply_symm_apply]; exact here⟩
  have permuted : markStalePageRecords lower pathname (List.ofFn (records ∘ σ)) =
      (List.ofFn (records ∘ σ)).map marks := by
    apply mark_eq
    intro record _
    rw [settled]
    exact ⟨.mono fun record => (same record).mpr, .mono fun record => (same record).mp⟩
  rw [permuted, mask, List.map_ofFn, List.map_ofFn]
  simp

end

/-! ## Titles -/

theorem mem_of_mem_trim {s : JsString} {u : CodeUnit} (mem : u ∈ trim s) : u ∈ s :=
  List.dropWhile_sublist isWhiteSpace |>.mem ((List.rdropWhile_prefix isWhiteSpace _).subset mem)

variable {title : JsString}

theorem titleRecordKey_of_blank (blank : trim (title.takeWhile (· ≠ char '_')) = []) :
    titleRecordKey title = trim title :=
  if_pos blank

theorem titleRecordKey_of_filled (filled : trim (title.takeWhile (· ≠ char '_')) ≠ []) :
    titleRecordKey title = trim (title.takeWhile (· ≠ char '_')) :=
  if_neg filled

/-- A text that is blank up to its first `_` starts with it once it is trimmed. -/
theorem takeWhile_trim_of_blank (blank : trim (title.takeWhile (· ≠ char '_')) = []) :
    (trim title).takeWhile (· ≠ char '_') = [] := by
  have white : ∀ u ∈ title.takeWhile (· ≠ char '_'), isWhiteSpace u = true := white_of_trim blank
  have parts : title.takeWhile (· ≠ char '_') ++ title.dropWhile (· ≠ char '_') = title :=
    List.takeWhile_append_dropWhile
  cases rest : title.dropWhile (· ≠ char '_') with
  | nil =>
    rw [rest, List.append_nil] at parts
    rw [parts] at blank
    rw [blank]
    rfl
  | cons first rest' =>
    have underscore : first = char '_' := by
      have head := List.head?_dropWhile_not (fun u => decide (u ≠ char '_')) title
      rw [rest] at head
      simpa using head
    have dropped : title.dropWhile isWhiteSpace = char '_' :: rest' := by
      rw [← parts, rest, underscore, List.dropWhile_append_of_pos white]
      rfl
    have start : trim title <+: char '_' :: rest' := by
      rw [trim, dropped]
      exact List.rdropWhile_prefix ..
    rcases List.prefix_cons_iff.mp start with none | ⟨kept, led, -⟩
    · rw [none]
      rfl
    · rw [led]
      rfl

/-- A key is its own key. -/
theorem titleRecordKey_idem (title : JsString) :
    titleRecordKey (titleRecordKey title) = titleRecordKey title := by
  by_cases blank : trim (title.takeWhile (· ≠ char '_')) = []
  · rw [titleRecordKey_of_blank blank, titleRecordKey_of_blank, trim_trim]
    rw [takeWhile_trim_of_blank blank]
    rfl
  · have plain : (trim (title.takeWhile (· ≠ char '_'))).takeWhile (· ≠ char '_') =
        trim (title.takeWhile (· ≠ char '_')) := by
      rw [List.takeWhile_eq_self_iff]
      intro u mem
      have early := mem_of_mem_trim mem
      exact List.mem_takeWhile_imp (p := fun u => decide (u ≠ char '_')) early
    rw [titleRecordKey_of_filled blank, titleRecordKey_of_filled, plain, trim_trim]
    rw [plain, trim_trim]
    exact blank

theorem titleRecordKey_filled (trimmed : trim title ≠ []) :
    titleRecordKey title ≠ [] := by
  unfold titleRecordKey orElse
  split
  · exact trimmed
  · assumption

/-- A stale title takes every other record of the title with it, unless that is confirmed. -/
theorem stale_of_title {lower : JsString → JsString} {pathname : JsString}
    {records : List (Option PageVideoRecord)} {record other : PageVideoRecord} {t u : JsString}
    (stale : Stale lower pathname records (some record)) (thing : some other ∈ records)
    (unconfirmed : confirmed lower pathname (some other) = false) (titled : record.title = some t)
    (named : other.title = some u) (same : titleRecordKey t = titleRecordKey u)
    (filled : titleRecordKey u ≠ []) : Stale lower pathname records (some other) := by
  have key_nil : titleRecordKey [] = [] := rfl
  have left : t ≠ [] := by
    rintro rfl
    exact filled (same.symm.trans key_nil)
  have right : u ≠ [] := by
    rintro rfl
    exact filled key_nil
  apply stale.link thing
  simp [inherits, unconfirmed, describeSameRecord, titled, named, sharesValue, left, right, same,
    filled]

/-- A title that is shown was said by the list, the heading or the document. -/
theorem title_of_source {source : PageVideoSource} (shown : resolveSharedVideoTitle source ≠ []) :
    source.currentPartTitle = some (resolveSharedVideoTitle source) ∨
      source.headingTitle = some (resolveSharedVideoTitle source) ∨
      resolveSharedVideoTitle source = titleRecordKey source.documentTitle := by
  change orElse (source.currentPartTitle.getD []) (orElse (source.headingTitle.getD [])
    (titleRecordKey source.documentTitle)) ≠ [] at shown
  change _ = some (orElse (source.currentPartTitle.getD []) (orElse (source.headingTitle.getD [])
    (titleRecordKey source.documentTitle))) ∨ _ = some (orElse (source.currentPartTitle.getD [])
      (orElse (source.headingTitle.getD []) (titleRecordKey source.documentTitle))) ∨
        orElse (source.currentPartTitle.getD []) (orElse (source.headingTitle.getD [])
          (titleRecordKey source.documentTitle)) = _
  unfold orElse
  split
  next noPart =>
    split
    next noHeading => exact .inr (.inr rfl)
    next heading =>
      cases said : source.headingTitle with
      | none => exact absurd (by rw [said]; rfl) heading
      | some title => exact .inr (.inl rfl)
  next part =>
    cases said : source.currentPartTitle with
    | none => exact absurd (by rw [said]; rfl) part
    | some title => exact .inl rfl

/-! ## The identity of an episode page -/

/-- The id is the one of the episode, up to the case of its letters and a page after it. -/
def NamesEpisode (lower : JsString → JsString) (episodeId videoId : JsString) : Prop :=
  ∃ id rest, videoId = id ++ rest ∧ lower id = episodeId ∧ (rest = [] ∨ js ":p" <+: rest)

section
variable {P : Platform} {lower : JsString → JsString} {pathname pageUrl id : JsString}

theorem episode_of_segment {path match_ : JsString}
    (segment : segmentAfter "/bangumi/play/" path = some id)
    (matched : matchEpisodePathname path = some match_) : match_ = id := by
  obtain ⟨rfl, -⟩ := segmentAfter_eq_some_iff.mp segment
  unfold matchEpisodePathname at matched
  dsimp only at matched
  split at matched
  · rw [List.drop_left] at matched
    exact (Option.some.inj matched).symm
  · cases matched

theorem lower_of_segment {episodeId : JsString}
    (segment : segmentAfter "/bangumi/play/" (withoutTrailingSlashes pathname) = some id)
    (named : readAddressBarEpisodeId lower pathname = some episodeId) : lower id = episodeId := by
  obtain ⟨match_, matched, rfl⟩ := Option.map_eq_some_iff.mp named
  rw [episode_of_segment segment matched]

theorem parse_of_segment (onSite : OnSite P pageUrl pathname) (filled : pageUrl ≠ [])
    (segment : segmentAfter "/bangumi/play/" (withoutTrailingSlashes pathname) = some id) :
    ∃ ref rest, parseBilibiliVideoRef P.URL pageUrl = some ref ∧ ref.videoId = id ++ rest ∧
      (rest = [] ∨ js ":p" <+: rest) := by
  obtain ⟨parsed, address, -, host, rfl⟩ := onSite
  obtain ⟨spelt, -⟩ := segmentAfter_eq_some_iff.mp segment
  have notVideo : segmentAfter "/video/" (withoutTrailingSlashes parsed.pathname) = none := by
    rw [spelt]
    rfl
  have path : parseSupportedBilibiliPath parsed.pathname = some (.bangumi, id) := by
    simp only [parseSupportedBilibiliPath, notVideo, segment]
  simp only [parseBilibiliVideoRef, if_neg filled, address, host, path, ne_eq,
    not_true_eq_false, ↓reduceIte, Option.bind_eq_bind, Option.bind_some]
  cases asked : parsed.get "p" with
  | none => exact ⟨_, [], rfl, by simp [videoIdOf], .inl rfl⟩
  | some p => exact ⟨_, js ":p" ++ p, rfl, by simp [videoIdOf], .inr ⟨p, rfl⟩⟩

theorem not_festival (segment :
    segmentAfter "/bangumi/play/" (withoutTrailingSlashes pathname) = some id) :
    startsWith pathname "/festival/" = false := by
  obtain ⟨spelt, -⟩ := segmentAfter_eq_some_iff.mp segment
  have start : js "/bangumi/play/" ++ id <+: pathname := spelt ▸ List.rdropWhile_prefix ..
  obtain ⟨rest, rfl⟩ := start
  rfl

theorem not_opaque (onSite : OnSite P pageUrl pathname)
    (segment : segmentAfter "/bangumi/play/" (withoutTrailingSlashes pathname) = some id) :
    isAddressBarOpaqueVideoUrl P pageUrl = false := by
  obtain ⟨parsed, address, -, -, rfl⟩ := onSite
  rw [isAddressBarOpaqueVideoUrl, address, Option.any_some, not_festival segment, Bool.and_false]

/-- A snapshot that may stand for the page names the episode. -/
theorem snapshot_named {episodeId : JsString}
    (named : readAddressBarEpisodeId lower pathname = some episodeId)
    {snapshot : CachedPageSnapshot} (confirms : lacksAddressBarEpisodeConfirmation lower pathname
      (readSnapshotEpisodeId snapshot) = false) :
    readSnapshotEpisodeId snapshot = some snapshot.videoId ∧
      lower snapshot.videoId = episodeId := by
  simp only [lacksAddressBarEpisodeConfirmation, named, ne_eq, decide_not, Bool.not_eq_false',
    decide_eq_true_iff] at confirms
  have own : readSnapshotEpisodeId snapshot = some snapshot.videoId := by
    unfold readSnapshotEpisodeId at confirms ⊢
    rcases snapshot.named with none | some
    · rw [none, Option.none_or] at confirms ⊢
      split at confirms
      next season => exact if_pos season
      · cases confirms
    · rw [some]
      rfl
  rw [own, Option.map_some] at confirms
  exact ⟨own, Option.some.inj confirms⟩

theorem resolve_of_address {source : PageVideoSource} {ref : BilibiliVideoRef}
    (noPage : source.pageSnapshot = none) (noFestival : source.festivalSnapshot = none)
    (trusted : source.addressBarIdentityRefuted = false)
    (read : parseBilibiliVideoRef P.URL source.pageUrl = some ref) :
    resolvePageSharedVideo P source = some
      { videoId := ref.videoId
        url := ref.normalizedUrl
        title := orElse (resolveSharedVideoTitle source) ref.videoId } := by
  simp [resolvePageSharedVideo, noPage, noFestival, trusted, read]

end

section
variable {lower : JsString → JsString} {page : PageState}

theorem staleAt_of_stale {i : Nat} {record : Option PageVideoRecord}
    (here : (pageRecords page)[i]? = some record)
    (stale : Stale lower page.pathname (pageRecords page) record) :
    staleAt lower page i = true := by
  rw [staleAt, (mark_iff_stale here).mpr stale]
  rfl

theorem unconfirmed_of_unnamed {record : PageVideoRecord} (unnamed : record.episodeId = none) :
    confirmed lower page.pathname (some record) = false := by
  simp [confirmed, unnamed]

variable (lower page)

/-- A stale record has another title, unless a confirmed record says the same or the page has no
title left. -/
def TitleHolds (video : SharedVideo) : Prop :=
  ∀ i ∈ markedSet lower page.pathname (pageRecords page), ∀ record title,
    (pageRecords page).get i = some record → record.title = some title →
    titleRecordKey title = titleRecordKey video.title →
    (∃ other, some other ∈ pageRecords page ∧ confirmed lower page.pathname (some other) = true ∧
      other.title = some video.title) ∨ video.title = video.videoId

variable {lower page}

/-- What the sources of a title leave of a stale record is another title. -/
theorem confirmed_of_title {P : Platform} {normalizePageVisitUrl : JsString → JsString}
    {controller : ShareController} {record : PageVideoRecord} {t : JsString}
    (resolved : resolveSharedVideoTitle (controller.source P lower normalizePageVisitUrl page) =
      title) (shown : title ≠ [])
    (stale : Stale lower page.pathname (pageRecords page) (some record))
    (titled : record.title = some t) (same : titleRecordKey t = titleRecordKey title) :
    ∃ other, some other ∈ pageRecords page ∧ confirmed lower page.pathname (some other) = true ∧
      other.title = some title := by
  have said := title_of_source (resolved ▸ shown)
  rw [resolved] at said
  simp only [ShareController.source] at said
  rcases said with said | said | said
  · split at said
    · cases said
    next fresh =>
      by_cases known : confirmed lower page.pathname (some
          { episodeId := (getCurrentPartIdentity page.active).epId
            cid := (getCurrentPartIdentity page.active).cid
            title := (getCurrentPartIdentity page.active).title }) = true
      · exact ⟨_, .head _, known, said⟩
      · have trimmed : trim title ≠ [] := by
          obtain ⟨item, -, rfl⟩ :=
            Option.map_eq_some_iff.mp (Option.filter_eq_some_iff.mp said).1
          rw [trim_trim]
          exact shown
        have linked := stale_of_title stale (.head _) (by simpa using known) titled said same
          (titleRecordKey_filled trimmed)
        exact absurd (staleAt_of_stale (i := 0) rfl linked) fresh
  · split at said
    · cases said
    next fresh =>
      have trimmed : trim title ≠ [] := by
        obtain ⟨text, -, rfl⟩ := Option.map_eq_some_iff.mp said
        rw [trim_trim]
        exact shown
      have linked : Stale lower page.pathname (pageRecords page)
          (some { title := headingTitle page }) :=
        stale_of_title stale (.tail _ (.tail _ (.head _))) (unconfirmed_of_unnamed rfl) titled said
          same (titleRecordKey_filled trimmed)
      exact absurd (staleAt_of_stale (i := 2) rfl linked) fresh
  · split at said
    · exact absurd said shown
    next fresh =>
      rw [said, titleRecordKey_idem] at same
      have linked : Stale lower page.pathname (pageRecords page)
          (some { title := some page.documentTitle }) :=
        stale_of_title stale (.tail _ (.tail _ (.tail _ (.head _)))) (unconfirmed_of_unnamed rfl)
          titled rfl same (said ▸ shown)
      exact absurd (staleAt_of_stale (i := 3) rfl linked) fresh

end

/-- What is stale is the least that the rules allow, wherever the records stand; and an episode page
answers with its own episode, under a title that no stale record has, unless a confirmed record says
the same or no title is left. -/
theorem episode_page_names_its_episode (P : Platform) (lower normalizePageVisitUrl : JsString →
      JsString) :
    (∀ pathname records, IsLeast {stale | StaleRules lower pathname records stale}
      (markedSet lower pathname records)) ∧
    (∀ pathname {n : Nat} (records : Fin n → Option PageVideoRecord) (σ : Equiv.Perm (Fin n))
      (i : Fin n), (markStalePageRecords lower pathname (List.ofFn (records ∘ σ)))[i.val]? =
        (markStalePageRecords lower pathname (List.ofFn records))[(σ i).val]?) ∧
    ∀ (controller : ShareController) page id episodeId, OnSite P page.pageUrl page.pathname →
      page.pageUrl ≠ [] →
      segmentAfter "/bangumi/play/" (withoutTrailingSlashes page.pathname) = some id →
      readAddressBarEpisodeId lower page.pathname = some episodeId →
      ∃ video, (controller.getSharedVideo P lower normalizePageVisitUrl page).1 = some video ∧
        NamesEpisode lower episodeId video.videoId ∧ TitleHolds lower page video := by
  refine ⟨fun pathname records => markedSet_least lower pathname records,
    fun pathname n records σ i => mark_equivariant lower pathname records σ i, ?_⟩
  intro controller page id episodeId onSite filled segment named
  cases matching : matchingSnapshot lower normalizePageVisitUrl page with
  | some snapshot =>
    obtain ⟨cached, usable⟩ := Option.filter_eq_some_iff.mp matching
    rw [canUseMatchingCachedPageSnapshot, Bool.and_eq_true, Bool.not_eq_true'] at usable
    obtain ⟨own, lowered⟩ := snapshot_named named usable.2
    refine ⟨snapshot.toSharedVideo, ?_, ⟨snapshot.videoId, [], by simp, lowered, .inl rfl⟩, ?_⟩
    · simp [ShareController.getSharedVideo, ShareController.source, resolvePageSharedVideo,
        matching]
    · intro i _ record title _ _ _
      left
      refine ⟨{ episodeId := readSnapshotEpisodeId snapshot, cid := readSnapshotCid snapshot
                title := some snapshot.title }, ?_, ?_, rfl⟩
      · rw [pageRecords, cached]
        exact .tail _ (.head _)
      · simp [confirmed, named, own, lowered]
  | none =>
    obtain ⟨ref, rest, read, spelt, paged⟩ := parse_of_segment onSite filled segment
    generalize resolved : resolveSharedVideoTitle
      (controller.source P lower normalizePageVisitUrl page) = shown
    refine ⟨{ videoId := ref.videoId, url := ref.normalizedUrl, title := orElse shown ref.videoId },
      ?_, ⟨id, rest, spelt, lower_of_segment segment named, paged⟩, ?_⟩
    · rw [← resolved]
      apply resolve_of_address _ _ _ read
      · simp [ShareController.source, matching]
      · simp [ShareController.source, matching]
      · simp [ShareController.source, ShareController.hasRefutedAddressBarIdentity,
          not_opaque onSite segment]
    · intro i stale record title here titled same
      rw [markedSet_iff, here] at stale
      by_cases blank : shown = []
      · exact .inr (if_pos blank)
      · have kept : orElse shown ref.videoId = shown := if_neg blank
        dsimp only at same ⊢
        rw [kept] at same ⊢
        exact .inl (confirmed_of_title resolved blank stale titled same)

def episodeAddress : JsString := js "https://www.bilibili.com/bangumi/play/ep2"

/-- A platform that knows one address. -/
def onePage : Platform where
  URL url := if url = episodeAddress then some
    { origin := site, hostname := js "www.bilibili.com", pathname := js "/bangumi/play/ep2"
      searchParams := [] } else none
  withVideoParams pageUrl _ _ := pageUrl
  toUpperCase := id

/-- The list has moved on to the second episode, the player has not; both are called `OVA`. -/
def switchingPage : PageState where
  pathname := js "/bangumi/play/ep2"
  pageUrl := episodeAddress
  active := some { textContent := js "OVA", dataEpId := some (js "2") }
  heading := none
  documentTitle := js "OVA_bilibili"
  snapshot := bridgeSnapshot onePage (js "/bangumi/play/ep1")
    (js "https://www.bilibili.com/bangumi/play/ep1")
    { epId := some (js "1"), title := some (js "OVA") }

theorem switching_page_names_its_episode :
    ∃ video, (ShareController.getSharedVideo onePage (List.map foldCase) id {} switchingPage).1 =
        some video ∧ NamesEpisode (List.map foldCase) (js "ep2") video.videoId ∧
      TitleHolds (List.map foldCase) switchingPage video := by
  apply (episode_page_names_its_episode onePage (List.map foldCase) id).2.2 {} switchingPage
    (js "ep2") (js "ep2")
  · exact ⟨_, rfl, rfl, rfl, rfl⟩
  · decide +kernel
  · decide +kernel
  · decide +kernel

/-- The episode's own title is the one of the snapshot that is left behind. -/
theorem stale_record_of_the_same_title :
    ∃ video record, (ShareController.getSharedVideo onePage (List.map foldCase) id {}
        switchingPage).1 = some video ∧
      (pageRecords switchingPage)[1]? = some (some record) ∧
      (markStalePageRecords (List.map foldCase) switchingPage.pathname
        (pageRecords switchingPage))[1]? = some true ∧ record.title = some video.title := by
  refine ⟨⟨js "ep2", episodeAddress, js "OVA"⟩, ⟨some (js "ep1"), none, some (js "OVA")⟩,
    ?_, ?_, ?_, rfl⟩
  · decide +kernel
  · decide +kernel
  · decide +kernel

end BiliSyncPlay.PageVideo
