import Catalog.Proofs.AnswerText
import Catalog.Proofs.ListRequest
import Catalog.Proofs.PageAddress

/-!
# Following the links of a listing

A client asks for a page of movies and then follows `next` from answer to answer. The links lead
through the pages of the whole collection in its default order: what was asked for in the first
request, except the size of the pages, is not carried on.

## Key results

- `Server.walk_pages`: the walk from any page of the whole collection
- `Server.walk_list`: the walk from a request with any filter and sort
-/

namespace Catalog

/-- A movie as a client reads it on a page, without configured links. -/
def Movie.item (m : Movie) : Json :=
  (Links.linked m.fields (Links.ofItem "/movies" m.id .empty)).finite

/-- The movies that a filter holds of, in the order of a sort. -/
def Store.listing (s : Store) (filter : CompiledFilter) (sort : SortSpec) : List Movie :=
  (s.matching filter sort).map (·.movie)

/-- A listing holds the stored movies that the filter holds of. -/
theorem Store.perm_listing (s : Store) (filter : CompiledFilter) (sort : SortSpec) :
    (s.listing filter sort).Perm
      ((s.filter fun e => filter.holds e.document).map (·.movie)) :=
  (s.perm_matching filter sort).map _

namespace Server

/-- A client follows `next` from the answer to a request until an answer has none; `answers` are
what it reads on its way. -/
inductive Walk (server : Server) : Request → List Json → Prop where
  /-- The answer has no next page. -/
  | last {request : Request} {answer : Json} (h : (server.respond request).answer? = some answer)
    (hnext : Answer.next? answer = none) : Walk server request [answer]
  /-- The client asks for the next page. -/
  | next {request following : Request} {answer : Json} {href : String} {answers : List Json}
    (h : (server.respond request).answer? = some answer)
    (hnext : Answer.next? answer = some href)
    (hrequest : Request.create "GET" href [] = .ok following)
    (rest : Walk server following answers) :
    Walk server request (answer :: answers)

/-- Each answer decides where the client goes on, so a request leads to one walk only. -/
theorem Walk.unique {server : Server} {request : Request} {answers others : List Json}
    (h : server.Walk request answers) (hothers : server.Walk request others) :
    answers = others := by
  induction h generalizing others with
  | last h hnext =>
    cases hothers with
    | last h' _ =>
      rw [Option.some.inj (h.symm.trans h')]
    | next h' hnext' _ _ =>
      -- the same answer has a next page or has none
      obtain rfl := Option.some.inj (h.symm.trans h')
      rw [hnext] at hnext'
      cases hnext'
  | next h hnext hrequest _ ih =>
    cases hothers with
    | last h' hnext' =>
      obtain rfl := Option.some.inj (h.symm.trans h')
      rw [hnext] at hnext'
      cases hnext'
    | next h' hnext' hrequest' rest' =>
      obtain rfl := Option.some.inj (h.symm.trans h')
      rw [hnext] at hnext'
      cases hnext'
      rw [hrequest] at hrequest'
      cases hrequest'
      rw [ih rest']

/-! ## Servers without configured links -/

/-- A server over a store: its settings are accepted, and they set neither links nor what addresses
start with. -/
structure Plain (server : Server) (s : Store) (settings : MovieSettings) : Prop where
  /-- It was made from the store and the settings. -/
  created : ∃ service, MovieService.create (.ofStore s) settings = .ok service ∧
    server = .create service settings
  /-- Addresses are paths. -/
  publicUrl : settings.publicUrl = ""
  /-- Collections have no configured links. -/
  collection : settings.links.collection = .empty
  /-- Resources have no configured links. -/
  resource : settings.links.resource = .empty

variable {server : Server} {s : Store} {settings : MovieSettings}

/-- What a plain server is made of. -/
theorem Plain.fields (h : server.Plain s settings) :
    server.publicUrl = "" ∧ server.links.collection = .empty ∧ server.links.resource = .empty ∧
    server.service.repository = .ofStore s ∧ server.service.maxPageSize = settings.maxPageSize ∧
    server.service.defaultSort = settings.defaultSortSpec ∧
    settings.defaultSortSpec.validate Movie.schema = .ok () := by
  obtain ⟨⟨service, hcreate, rfl⟩, hurl, hcollection, hresource⟩ := h
  obtain ⟨hvalid, rfl⟩ := MovieService.create_eq_ok_iff.1 hcreate
  refine ⟨?_, hcollection, hresource, rfl, rfl, rfl, hvalid⟩
  rw [create, hurl]
  rfl

/-- The answer of a plain server to a list request: a page of the store, with the links of a page
of the collection. -/
private theorem Plain.respond (h : server.Plain s settings) {request : Request}
    (hmethod : request.method = "GET") {absolute : Bool} {query : List Char}
    (htarget : request.target = .path absolute "/movies".toList (some query))
    {params : ListParams} (hparams : ListParams.ofQuery query = .ok params)
    {filter : CompiledFilter} {sort : SortSpec} {k size : UInt64}
    (hpage : server.service.list params = .ok (s.page filter sort ⟨k, size⟩)) :
    ∃ answer, (server.respond request).answer? = some answer ∧
      Answer.items answer = (s.page filter sort ⟨k, size⟩).items.map Movie.item ∧
      Answer.next? answer = PageLink.next? "/movies" k size
        (UInt64.ofNat (s.matching filter sort).length) := by
  obtain ⟨hurl, hcollection, hresource, -⟩ := h.fields
  have hrespond := respond_list hmethod (by rw [htarget]; rfl)
    (show ListParams.ofQuery (request.target.query?.getD []) = .ok params by
      rw [htarget]; exact hparams) hpage
  -- the address of the request is its path and query, of which the links keep the path
  have hfull : server.fullUrl request.target =
      String.ofList ("/movies".toList ++ '?' :: query) := by
    rw [fullUrl, hurl, htarget]
    exact String.empty_append
  have hstrip := Links.stripQuery_movies query
  rw [← hfull] at hstrip
  -- the fields of a movie are one container deep, and a page three more
  have hanswer := Response.answer?_json (Links.fits_envelope Movie.id (show 0 < 124 by decide)
    (fun m => m.fieldsFit_fields (by decide)) (s.page filter sort ⟨k, size⟩)
    (server.fullUrl request.target) server.links.collection server.links.resource)
  rw [← hrespond] at hanswer
  refine ⟨_, hanswer, ?_, ?_⟩
  · rw [Answer.items_finite, hresource]
    show ((s.page filter sort ⟨k, size⟩).items.map (fun m =>
      Links.linked m.fields (Links.ofItem (Links.stripQuery (server.fullUrl request.target)) m.id
        .empty))).map Json.finite = _
    rw [hstrip, List.map_map]
    rfl
  · rw [Answer.next?_finite, Answer.next?_envelope, hcollection, Links.get?_ofCollection,
      if_pos rfl, hstrip]
    rfl

/-! ## From page to page -/

/-- The request that the link to a page makes. -/
def pageRequest (k size : UInt64) : Request :=
  ⟨"GET", .path false "/movies".toList (some (PageLink.queryOf k size)), none⟩

/-- The whole collection in its default order. -/
def wholeListing (s : Store) (settings : MovieSettings) : List Movie :=
  s.listing [] settings.defaultSortSpec

/-- A plain server answers the request for a page with that page of the whole collection, and with
a next page if there is one. -/
private theorem Plain.respond_pageRequest (h : server.Plain s settings) (hs : s.length < 2 ^ 64)
    {k size : UInt64} (hk : k ≠ 0) (hsize : size ≠ 0) (hmax : size ≤ settings.maxPageSize) :
    ∃ answer, (server.respond (pageRequest k size)).answer? = some answer ∧
      Answer.items answer =
        (slice size.toNat (k.toNat - 1) (wholeListing s settings)).map Movie.item ∧
      Answer.next? answer =
        if k < lastPageNumber size (UInt64.ofNat (wholeListing s settings).length) then
          some (PageLink.ofPage "/movies" (k + 1) size)
        else none := by
  obtain ⟨-, -, -, hrepository, hmaximum, hsort, hvalid⟩ := h.fields
  have haccepts : server.service.Accepts s { page := some k, pageSize := some size } []
      settings.defaultSortSpec ⟨k, size⟩ := by
    refine ⟨hrepository, ⟨SortedMap.empty, rfl, rfl⟩, hsort, hvalid, ?_⟩
    exact PageRequest.resolve_eq hk hsize (by rwa [hmaximum])
  obtain ⟨answer, hrespond, hitems, hnext⟩ := h.respond
    (show (pageRequest k size).method = "GET" from rfl) rfl (ListParams.ofQuery_queryOf k size)
    (MovieService.list_eq haccepts)
  refine ⟨answer, hrespond, ?_, ?_⟩
  · rw [hitems, Store.page_eq_slice hs]
    rfl
  · rw [hnext, PageLink.next?, PageLink.nextNumber?_eq hsize, wholeListing, Store.listing,
      List.length_map]
    split <;> rfl

/-- A walk from page `k` of the whole collection ends at its last page and reads everything from
the first item of page `k` on. -/
theorem walk_pages (h : server.Plain s settings) (hs : s.length < 2 ^ 64) {size : UInt64}
    (hsize : size ≠ 0) (hmax : size ≤ settings.maxPageSize) {last : UInt64}
    (hlast : last = lastPageNumber size (UInt64.ofNat (wholeListing s settings).length))
    (remaining : Nat) {k : UInt64} (hk : k ≠ 0) (hremaining : k.toNat + remaining = last.toNat) :
    ∃ answers, server.Walk (pageRequest k size) answers ∧ answers.length = remaining + 1 ∧
      answers.flatMap Answer.items =
        ((wholeListing s settings).drop ((k.toNat - 1) * size.toNat)).map Movie.item := by
  have hpos := toNat_pos_of_ne_zero hk
  have htotal : (wholeListing s settings).length ≤ last.toNat * size.toNat := by
    have hle := total_le_lastPageNumber_mul hsize (UInt64.ofNat (wholeListing s settings).length)
    rw [← hlast] at hle
    simp only [wholeListing, Store.listing, List.length_map] at hle ⊢
    rwa [Store.toNat_length_matching hs] at hle
  obtain ⟨answer, hrespond, hitems, hnext⟩ := h.respond_pageRequest hs hk hsize hmax
  rw [← hlast] at hnext
  -- by induction on the pages that remain after page `k`
  induction remaining generalizing k answer with
  | zero =>
    have hend : ¬ k < last := by
      rw [UInt64.lt_iff_toNat_lt]
      omega
    rw [if_neg hend] at hnext
    refine ⟨[answer], .last hrespond hnext, rfl, ?_⟩
    -- the last page reaches the end of the listing
    have hall : (wholeListing s settings).length - (k.toNat - 1) * size.toNat ≤ size.toNat := by
      have hsucc : (k.toNat - 1) * size.toNat + size.toNat = last.toNat * size.toNat := by
        rw [← hremaining, Nat.add_zero, ← Nat.succ_mul]
        congr 1
        omega
      omega
    rw [List.flatMap_singleton, hitems, slice, List.take_of_length_le]
    rw [List.length_drop]
    exact hall
  | succ remaining ih =>
    have hbefore : k < last := by
      rw [UInt64.lt_iff_toNat_lt]
      omega
    have hsucc := PageLink.toNat_add_one_of_lt hbefore
    have hk' : k + 1 ≠ 0 := by
      intro hzero
      rw [hzero] at hsucc
      cases hsucc
    rw [if_pos hbefore] at hnext
    obtain ⟨answer', hrespond', hitems', hnext'⟩ := h.respond_pageRequest hs hk' hsize hmax
    rw [← hlast] at hnext'
    obtain ⟨answers, hwalk, hlength, hrest⟩ :=
      ih hk' (by omega) (toNat_pos_of_ne_zero hk') answer' hrespond' hitems' hnext'
    refine ⟨answer :: answers, .next hrespond hnext (Request.create_ofPage (k + 1) size) hwalk,
      by rw [List.length_cons, hlength], ?_⟩
    -- the pages behind start where page `k` ends
    have hdrop : (k + 1).toNat - 1 = (k.toNat - 1) + 1 := by omega
    rw [List.flatMap_cons, hitems, hrest, ← List.map_append, slice, hdrop, Nat.succ_mul,
      ← List.drop_drop, List.take_append_drop]

/-! ## From the first request -/

/-- Every movie is in the whole listing, as often as it is stored. -/
theorem perm_wholeListing (s : Store) (settings : MovieSettings) :
    (wholeListing s settings).Perm s.movies := by
  have hperm := s.perm_listing [] settings.defaultSortSpec
  have hall : (s.filter fun e => CompiledFilter.holds [] e.document) = s :=
    List.filter_eq_self.2 fun _ _ => rfl
  rwa [hall] at hperm

theorem length_wholeListing (s : Store) (settings : MovieSettings) :
    (wholeListing s settings).length = s.length := by
  rw [(perm_wholeListing s settings).length_eq, Store.movies, List.length_map]

/-- What a walk reads that starts with the listing `found`, in pages of `size` items, and goes on in
the listing `all`. -/
def walked (found all : List Movie) (size : Nat) : List Movie :=
  if found.length ≤ size then found else found.take size ++ all.drop size

/-- How many answers a walk reads. -/
def walkLength (found all : List Movie) (size : Nat) : Nat :=
  if found.length ≤ size then 1 else (all.length + (size - 1)) / size

/-- A walk that starts with the listing that it goes on in reads that listing. -/
theorem walked_self (all : List Movie) (size : Nat) : walked all all size = all := by
  rw [walked]
  split
  · rfl
  · exact List.take_append_drop size all

/-- A walk within one listing reads as many answers as there are pages, but at least one. -/
theorem walkLength_self (all : List Movie) {size : Nat} (hsize : 0 < size) :
    walkLength all all size = max 1 ((all.length + (size - 1)) / size) := by
  rw [walkLength]
  split
  · next h =>
    have : (all.length + (size - 1)) / size ≤ 1 := by
      rw [Nat.div_le_iff_le_mul_add_pred hsize]
      omega
    omega
  · next h =>
    have : 1 ≤ (all.length + (size - 1)) / size := by
      rw [Nat.le_div_iff_mul_le hsize]
      omega
    omega

/-- A walk from an accepted request reads the first page of its listing, and then the pages of the
whole collection from the second one on. -/
theorem walk_accepted (h : server.Plain s settings) (hs : s.length < 2 ^ 64) {request : Request}
    (hmethod : request.method = "GET") {absolute : Bool} {query : List Char}
    (htarget : request.target = .path absolute "/movies".toList (some query))
    {params : ListParams} (hparams : ListParams.ofQuery query = .ok params) {size : UInt64}
    (hsize : size ≠ 0) (hmax : size ≤ settings.maxPageSize) {filter : CompiledFilter}
    {sort : SortSpec} (haccepts : server.service.Accepts s params filter sort ⟨1, size⟩) :
    ∃ answers, server.Walk request answers ∧
      answers.flatMap Answer.items =
        (walked (s.listing filter sort) (wholeListing s settings) size.toNat).map Movie.item ∧
      answers.length = walkLength (s.listing filter sort) (wholeListing s settings) size.toNat := by
  obtain ⟨answer, hrespond, hitems, hnext⟩ :=
    h.respond hmethod htarget hparams (MovieService.list_eq haccepts)
  have hitems : Answer.items answer =
      ((s.listing filter sort).take size.toNat).map Movie.item := by
    rw [hitems, Store.page_eq_slice hs, slice, UInt64.toNat_one, Nat.sub_self, Nat.zero_mul,
      List.drop_zero]
    rfl
  have hlong : (1 : UInt64) < lastPageNumber size (UInt64.ofNat (s.matching filter sort).length) ↔
      ¬ (s.listing filter sort).length ≤ size.toNat := by
    rw [UInt64.lt_iff_toNat_lt, UInt64.toNat_one, lt_lastPageNumber_iff hsize, Nat.one_mul,
      Store.toNat_length_matching hs, Store.listing, List.length_map, Nat.not_le]
  rw [PageLink.next?, PageLink.nextNumber?_eq hsize] at hnext
  rw [walked, walkLength]
  -- the walk goes on only if the listing has more than one page
  by_cases hshort : (s.listing filter sort).length ≤ size.toNat
  · rw [if_neg (fun hlt => hlong.1 hlt hshort)] at hnext
    rw [if_pos hshort, if_pos hshort]
    refine ⟨[answer], .last hrespond hnext, ?_, rfl⟩
    rw [List.flatMap_singleton, hitems, List.take_of_length_le hshort]
  · rw [if_pos (hlong.2 hshort)] at hnext
    rw [if_neg hshort, if_neg hshort]
    have hle : (s.listing filter sort).length ≤ s.length := by
      rw [Store.listing, List.length_map]
      exact s.length_matching_le filter sort
    have htotal : (UInt64.ofNat (wholeListing s settings).length).toNat = s.length := by
      rw [length_wholeListing, UInt64.toNat_ofNat']
      exact Nat.mod_eq_of_lt hs
    generalize hlast : lastPageNumber size (UInt64.ofNat (wholeListing s settings).length) = last
    have htwo : 1 < last.toNat := by
      rw [← hlast, lt_lastPageNumber_iff hsize, htotal]
      omega
    have hsecond : ((1 : UInt64) + 1).toNat = 2 := by decide
    -- the walk goes on with the second page of the whole collection
    obtain ⟨answers, hwalk, hlength, hread⟩ := walk_pages h hs hsize hmax hlast.symm
      (last.toNat - 2) (k := 1 + 1) (by decide) (by omega)
    refine ⟨answer :: answers, .next hrespond hnext (Request.create_ofPage (1 + 1) size) hwalk,
      ?_, ?_⟩
    · rw [List.flatMap_cons, hitems, hread, ← List.map_append, hsecond, Nat.one_mul]
    · rw [List.length_cons, hlength, length_wholeListing, ← htotal, ← toNat_lastPageNumber, hlast]
      omega

/-- A client that asks for a listing and follows `next` reads the first page of it and then the
pages of the whole collection in its default order from the second one on: the links carry on the
size of the pages, but neither the filter nor the sort. Without filter and sort it reads the whole
collection. -/
theorem walk_list (server : Server) (s : Store) (settings : MovieSettings)
    (h : server.Plain s settings) (hs : s.length < 2 ^ 64) (request : Request)
    (hmethod : request.method = "GET") (absolute : Bool) (query : List Char)
    (htarget : request.target = .path absolute "/movies".toList (some query))
    (filter sort : Option String) (size : UInt64)
    (hparams : ListParams.ofQuery query = .ok ⟨filter, sort, none, some size⟩)
    (hsize : size ≠ 0) (hmax : size ≤ settings.maxPageSize) (p : Predicate)
    (hp : Filter.compile Movie.schema filter = .ok p)
    (hsort : (SortSpec.compile sort settings.defaultSortSpec).validate Movie.schema = .ok ()) :
    ∃ compiled answers, p.compile? = some compiled ∧
      server.Walk request answers ∧ (∀ others, server.Walk request others → others = answers) ∧
      (s.listing compiled (SortSpec.compile sort settings.defaultSortSpec)).Perm
        ((s.filter fun e => compiled.holds e.document).map (·.movie)) ∧
      (wholeListing s settings).Perm s.movies ∧
      answers.flatMap Answer.items =
        (walked (s.listing compiled (SortSpec.compile sort settings.defaultSortSpec))
          (wholeListing s settings) size.toNat).map Movie.item ∧
      answers.length = walkLength
        (s.listing compiled (SortSpec.compile sort settings.defaultSortSpec))
        (wholeListing s settings) size.toNat ∧
      (filter.getD "" = "" → sort.getD "" = "" →
        answers.flatMap Answer.items = (wholeListing s settings).map Movie.item ∧
        answers.length = max 1 ((s.length + (size.toNat - 1)) / size.toNat)) := by
  obtain ⟨compiled, hcompiled⟩ := Filter.exists_compile?_of_accepted hp
  obtain ⟨-, -, -, hstored, hmaximum, hdefault, -⟩ := h.fields
  generalize hspec : SortSpec.compile sort settings.defaultSortSpec = spec at hsort ⊢
  have haccepts : server.service.Accepts s ⟨filter, sort, none, some size⟩ compiled spec
      ⟨1, size⟩ := by
    refine ⟨hstored, ⟨p, hp, hcompiled⟩, by rw [hdefault]; exact hspec, hsort, ?_⟩
    exact PageRequest.resolve_eq (show (none : Option UInt64).getD 1 ≠ 0 by decide) hsize
      (by rwa [hmaximum])
  obtain ⟨answers, hwalk, hread, hlength⟩ :=
    walk_accepted h hs hmethod htarget hparams hsize hmax haccepts
  refine ⟨compiled, answers, hcompiled, hwalk, fun others hothers => hothers.unique hwalk,
    s.perm_listing compiled spec, perm_wholeListing s settings, hread, hlength,
    fun hfilter hplain => ?_⟩
  -- an absent or empty text is no filter, and no sort
  have hempty : p = SortedMap.empty := by
    cases filter with
    | none => cases hp; rfl
    | some text =>
      cases (show text = "" from hfilter)
      cases hp
      rfl
  obtain rfl : spec = settings.defaultSortSpec := by
    rw [← hspec]
    cases sort with
    | none => rfl
    | some text =>
      cases (show text = "" from hplain)
      rfl
  obtain rfl : compiled = [] := by
    rw [hempty] at hcompiled
    exact (Option.some.inj hcompiled).symm
  have hwhole : s.listing [] settings.defaultSortSpec = wholeListing s settings := rfl
  rw [hwhole] at hread hlength
  refine ⟨by rw [hread, walked_self], ?_⟩
  rw [hlength, walkLength_self _ (toNat_pos_of_ne_zero hsize), length_wholeListing]

/-- A server over three movies, with the settings that hold without configuration. -/
def sample : Server :=
  .create ⟨.ofStore Store.sample, 20, 100, MovieSettings.defaultSortSpec {}⟩ {}

/-- A request for the movies of 1979, one on a page. -/
def sampleRequest : Request :=
  ⟨"GET", .path false "/movies".toList (some "filter=year:1979&pageSize=1".toList), none⟩

theorem plain_sample : sample.Plain Store.sample {} :=
  ⟨⟨_, rfl, rfl⟩, rfl, rfl, rfl⟩

theorem ofQuery_sample : ListParams.ofQuery "filter=year:1979&pageSize=1".toList =
    .ok ⟨some "year:1979", none, none, some 1⟩ := by
  decide +kernel

/-- The movies of 1979, page by page. -/
theorem walk_list_sample :
    sample.Plain Store.sample {} ∧ Store.sample.length < 2 ^ 64 ∧
    ListParams.ofQuery "filter=year:1979&pageSize=1".toList =
      .ok ⟨some "year:1979", none, none, some 1⟩ ∧
    Filter.compile Movie.schema (some "year:1979") = .ok Store.sampleQuery ∧
    ∃ compiled answers, Store.sampleQuery.compile? = some compiled ∧
      sample.Walk sampleRequest answers ∧
      (∀ others, sample.Walk sampleRequest others → others = answers) ∧
      answers.flatMap Answer.items =
        (walked (Store.sample.listing compiled (MovieSettings.defaultSortSpec {}))
          (wholeListing Store.sample {}) 1).map Movie.item := by
  obtain ⟨compiled, answers, hcompiled, hwalk, hothers, -, -, hread, -⟩ :=
    walk_list sample Store.sample {} plain_sample (by decide) sampleRequest rfl false
      "filter=year:1979&pageSize=1".toList rfl (some "year:1979") none 1 ofQuery_sample (by decide)
      (by decide) Store.sampleQuery rfl rfl
  exact ⟨plain_sample, by decide, ofQuery_sample, rfl, compiled, answers, hcompiled, hwalk, hothers,
    hread⟩

/-- Following `next` does not continue a filtered listing: two movies came out in 1979, but the walk
from the first of them reads three items. -/
theorem exists_walk_off_listing :
    ∃ answers, sample.Walk sampleRequest answers ∧
      answers.flatMap Answer.items ≠ (Store.sample.listing Store.sampleFilter
        (MovieSettings.defaultSortSpec {})).map Movie.item := by
  have haccepts : sample.service.Accepts Store.sample ⟨some "year:1979", none, none, some 1⟩
      Store.sampleFilter (MovieSettings.defaultSortSpec {}) ⟨1, 1⟩ :=
    ⟨rfl, ⟨Store.sampleQuery, rfl, rfl⟩, rfl, rfl, rfl⟩
  obtain ⟨answers, hwalk, hread, -⟩ := walk_accepted plain_sample (by decide)
    (show sampleRequest.method = "GET" from rfl) rfl ofQuery_sample (by decide) (by decide) haccepts
  refine ⟨answers, hwalk, fun hsame => ?_⟩
  -- the numbers of items already differ
  have hlength := congrArg List.length (hread.symm.trans hsame)
  have htwo : (Store.sample.listing Store.sampleFilter (MovieSettings.defaultSortSpec {})).length =
      2 := by decide
  have hthree : (wholeListing Store.sample {}).length = 3 := length_wholeListing _ _
  rw [List.length_map, List.length_map, walked, if_neg (by rw [htwo]; decide), List.length_append,
    List.length_take, List.length_drop, htwo, hthree] at hlength
  exact absurd hlength (by decide)

end Server

end Catalog
