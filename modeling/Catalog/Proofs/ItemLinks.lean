import Catalog.Proofs.ClientAgreement
import Catalog.Proofs.SegmentAddress
import Catalog.Proofs.Upserts

/-!
# Fetching listed movies by their own links

A listing links each movie by the address of the collection and the identifier as it is. Whoever
follows the link gets the movie, under the same address, exactly if the identifier is a plain
segment: the link is not encoded, but the address of a request is decoded, and the link of the
answer is encoded.

## Key results

- `Server.answer?_movie_iff`: what a client reads that asks for a movie
- `Server.Plain.items`: the items of a listing are stored movies
- `Server.fetches_item_iff`: when the link of an item leads to the movie
- `Server.exists_item_lost`: an item whose link leads nowhere
-/

namespace Catalog

/-! ## Links in answers -/

/-- The address that an answer or an item gives for itself. -/
def Answer.self? (answer : Json) : Option String :=
  ((answer.get? "_links").bind fun links => links.get? "self").bind Json.string?

theorem Answer.self?_linked (m : Movie) (links : LinkSet) :
    Answer.self? (Links.linked m.fields links).finite = links.get? "self" := by
  have hlinks : (Links.linked m.fields links).get? "_links" = some links.toJson := rfl
  rw [self?, Json.get?_finite, hlinks]
  show (links.toJson.finite.get? "self").bind Json.string? = _
  rw [Json.get?_finite, LinkSet.get?_toJson, Option.map_map, Option.bind_map]
  cases links.get? "self" <;> rfl

/-- An item of a listing is linked by its identifier. -/
theorem Movie.self?_item (m : Movie) : Answer.self? m.item = some ("/movies/" ++ m.id) := by
  rw [Movie.item, Answer.self?_linked]
  rfl

theorem Answer.id_of_showsMovie {m shown : Movie} {links : LinkSet}
    (h : ShowsMovie (Links.linked m.fields links).finite shown) : m.id = shown.id := by
  have hread := showsMovie_linked m links ("id", .string m.id) List.mem_cons_self
  have hshown := h ("id", .string shown.id) List.mem_cons_self
  have hsame : Json.string m.id = .string shown.id := Option.some.inj (hread.symm.trans hshown)
  exact Json.string.inj hsame

/-- Only successful responses are read. -/
theorem Response.answer?_of_status {r : Response} (h : r.status ≠ 200) : r.answer? = none :=
  if_neg h

theorem ServiceError.status_ne (e : ServiceError) : e.status ≠ 200 := by
  cases e with
  | query cause =>
    have := cause.status_lt
    show cause.status ≠ 200
    omega
  | movieNotFound id => exact show 404 ≠ 200 by decide
  | storage message => exact show 500 ≠ 200 by decide

/-! ## Requests for movies -/

/-- The path of a movie names it, unless the segment is empty or goes on behind a slash. -/
theorem Route.ofPath?_segment (segment : List Char) :
    ofPath? ("/movies/".toList ++ segment) =
      if segment = [] ∨ '/' ∈ segment then none else some (.movie segment) := by
  by_cases h : segment = [] ∨ '/' ∈ segment
  · have hnone : (segment.isEmpty || segment.contains '/') = true := by simpa using h
    have hlead : Text.dropLead? "/movies/".toList ("/movies/".toList ++ segment) = some segment :=
      rfl
    have hhealth : "/movies/".toList ++ segment ≠ "/health".toList := nofun
    have hdescription : "/movies/".toList ++ segment ≠ "/openapi.json".toList := nofun
    have hmovies : "/movies/".toList ++ segment ≠ "/movies".toList := nofun
    rw [if_pos h]
    simp only [ofPath?, hhealth, hdescription, hmovies, if_false, hlead, hnone, if_true]
  · rw [if_neg h]
    rw [not_or] at h
    exact ofPath?_movie h.1 h.2

/-- A path is read up to the first character that no path holds. -/
theorem RequestTarget.exists_of_readPath {absolute : Bool} {cs : List Char} {target : RequestTarget}
    (h : readPath absolute cs = .ok target) :
    ∃ query, target = .path absolute (cs.takeWhile isPathChar) query := by
  unfold readPath at h
  simp only at h
  -- behind the path there is nothing, a fragment or a query, which may be refused
  split at h
  · exact ⟨none, (Except.ok.inj h).symm⟩
  · exact ⟨none, (Except.ok.inj h).symm⟩
  · split at h
    · exact ⟨_, (Except.ok.inj h).symm⟩
    · exact ⟨_, (Except.ok.inj h).symm⟩
    · cases h
  · cases h

/-- So is an address behind that of the collection. -/
theorem RequestTarget.exists_of_parse_item {id : String} {target : RequestTarget}
    (h : parse ("/movies/" ++ id) = .ok target) :
    ("/movies/" ++ id).utf8ByteSize ≤ maxLength ∧ ∃ query,
      target = .path false ("/movies/".toList ++ id.toList.takeWhile isPathChar) query := by
  have htext : ("/movies/" ++ id).toList = "/movies/".toList ++ id.toList := String.toList_append
  have hfront : ∀ c ∈ "/movies/".toList, isPathChar c = true := List.all_eq_true.1 (by decide)
  have htake : ("/movies/".toList ++ id.toList).takeWhile isPathChar =
      "/movies/".toList ++ id.toList.takeWhile isPathChar := List.takeWhile_append_of_pos hfront
  obtain ⟨hsize, hread⟩ := (parse_eq_ok_iff htext).1 h
  rw [htext] at hread
  rw [← htake]
  exact ⟨hsize, exists_of_readPath hread⟩

/-- An identifier without such characters is read to its end. -/
theorem RequestTarget.parse_item {id : String} (h : ∀ c ∈ id.toList, isPathChar c = true)
    (hsize : ("/movies/" ++ id).utf8ByteSize ≤ maxLength) :
    parse ("/movies/" ++ id) = .ok (.path false ("/movies/".toList ++ id.toList) none) := by
  have hread := parse_movie h
  rw [String.ofList_toList] at hread
  exact hread hsize

/-- The address of the collection takes up eight bytes of an address. -/
theorem RequestTarget.utf8ByteSize_item_le {id : String} :
    ("/movies/" ++ id).utf8ByteSize ≤ maxLength ↔ id.utf8ByteSize ≤ 65526 := by
  have hfront : "/movies/".utf8ByteSize = 8 := rfl
  rw [String.utf8ByteSize_append, hfront, maxLength]
  omega

/-- A target that can be read makes a request, and nothing else does. -/
theorem Request.create_eq_ok_iff {href : String} {request : Request} :
    create "GET" href [] = .ok request ↔
      ∃ target, RequestTarget.parse href = .ok target ∧ request = ⟨"GET", target, none⟩ := by
  have htoken : isToken "GET" = true := by decide
  rw [create, htoken]
  cases RequestTarget.parse href with
  | error e =>
    refine iff_of_false (fun h => ?_) fun h => ?_
    · cases h
    · obtain ⟨target, hparse, -⟩ := h
      cases hparse
  | ok target =>
    show Except.ok (⟨"GET", target, none⟩ : Request) = .ok request ↔ _
    simp [eq_comm]

theorem Store.find?_id {s : Store} {id : String} {m : Movie} (h : s.find? id = some m) :
    m.id = id := by
  obtain ⟨e, he, rfl⟩ := Option.map_eq_some_iff.1 h
  have hid := List.find?_some he
  exact beq_iff_eq.1 hid

/-- Without repeated identifiers, every movie is found. -/
theorem Store.find?_of_mem {s : Store} (h : s.ids.Nodup) {m : Movie} (hm : m ∈ s.movies) :
    s.find? m.id = some m := by
  have hids : s.ids = s.movies.map (·.id) := by
    rw [ids, movies, List.map_map]
    rfl
  have hfind := movies_eq_find? h
  rw [hids, List.map_map] at hfind
  exact (List.map_inj_left.1 hfind m hm).symm

/-- A page of the store holds stored movies. -/
theorem Store.mem_movies_of_findPage? {s : Store} {filter : Predicate} {sort : SortSpec}
    {r : PageRequest} {page : Page Movie} (h : s.findPage? filter sort r = some page) {m : Movie}
    (hm : m ∈ page.items) : m ∈ s.movies := by
  obtain ⟨compiled, -, rfl⟩ := Option.map_eq_some_iff.1 h
  obtain ⟨e, he, rfl⟩ := List.mem_map.1 hm
  have hmatching := List.mem_of_mem_drop (List.mem_of_mem_take he)
  have hstored := (s.perm_matching compiled sort).mem_iff.1 hmatching
  exact List.mem_map.2 ⟨e, (List.mem_filter.1 hstored).1, rfl⟩

theorem MovieService.mem_movies_of_list {service : MovieService} {s : Store}
    (hstored : service.repository = .ofStore s) {params : ListParams} {page : Page Movie}
    (h : service.list params = .ok page) {m : Movie} (hm : m ∈ page.items) : m ∈ s.movies := by
  cases hplan : service.plan params with
  | error cause =>
    rw [list_of_plan_error hplan] at h
    cases h
  | ok call =>
    rw [list_of_plan_ok hplan, hstored] at h
    simp only [Repository.ofStore] at h
    cases hfound : s.findPage? call.filter call.sort call.page with
    | none => rw [hfound] at h; cases h
    | some found =>
      rw [hfound] at h
      cases h
      exact Store.mem_movies_of_findPage? hfound hm

namespace Server

variable {server : Server} {s : Store} {settings : MovieSettings} {answer : Json}

/-- The movie is shown whose identifier the segment is decoded to, linked by the address that was
asked for. -/
theorem answer?_getMovie_iff (hstored : server.service.repository = .ofStore s)
    (target : RequestTarget) (segment : List Char) :
    (server.getMovie target segment).answer? = some answer ↔ ∃ m : Movie,
      Text.decodeUtf8? (Percent.decode segment) = some m.id.toList ∧ s.find? m.id = some m ∧
      answer = (Links.linked m.fields (Links.ofResource (server.fullUrl target)
        server.links.knownCollections server.links.resource)).finite := by
  have hget := MovieService.get_eq server.service
  simp only [hstored, Repository.ofStore] at hget
  rw [getMovie]
  cases hdecode : Text.decodeUtf8? (Percent.decode segment) with
  | none =>
    -- no identifier is read, so no movie is looked for
    refine iff_of_false (fun h => ?_) fun h => ?_
    · simp only [Response.answer?_of_status (show unreadableId.status ≠ 200 by decide)] at h
      cases h
    · obtain ⟨m, hm, -⟩ := h
      cases hm
  | some cs =>
    have hid : ∀ m : Movie, some cs = some m.id.toList ↔ m.id = String.ofList cs := by
      intro m
      rw [Option.some_inj, ← String.toList_inj, String.toList_ofList, eq_comm]
    simp only [hget, hid]
    cases hfound : s.find? (String.ofList cs) with
    | none =>
      refine iff_of_false (fun h => ?_) fun h => ?_
      · rw [Response.answer?_of_status] at h
        · cases h
        · rw [ServiceError.status_toResponse]
          exact ServiceError.status_ne _
      · obtain ⟨m, hm, hfind, -⟩ := h
        rw [hm, hfound] at hfind
        cases hfind
    | some m =>
      -- a movie with its links is not too deep to be read back
      have hfits := Links.fits_linked (show 0 < 126 by decide) (m.fieldsFit_fields (by decide))
        (Links.ofResource (server.fullUrl target) server.links.knownCollections
          server.links.resource)
      simp only [Response.answer?_json hfits, Option.some_inj]
      constructor
      · rintro rfl
        have hm := Store.find?_id hfound
        exact ⟨m, hm, hm ▸ hfound, rfl⟩
      · rintro ⟨m', hm', hfind, rfl⟩
        rw [hm', hfound] at hfind
        cases hfind
        rfl

/-- A client that asks for an address behind that of the collection reads a movie if the rest is one
segment. -/
theorem answer?_movie_iff (hstored : server.service.repository = .ofStore s) (segment : List Char)
    (query : Option (List Char)) (id : Option String) :
    (server.respond ⟨"GET", .path false ("/movies/".toList ++ segment) query, id⟩).answer? =
        some answer ↔
      (segment ≠ [] ∧ '/' ∉ segment) ∧ ∃ m : Movie,
        Text.decodeUtf8? (Percent.decode segment) = some m.id.toList ∧ s.find? m.id = some m ∧
        answer = (Links.linked m.fields (Links.ofResource
          (server.fullUrl (.path false ("/movies/".toList ++ segment) query))
          server.links.knownCollections server.links.resource)).finite := by
  generalize htarget : RequestTarget.path false ("/movies/".toList ++ segment) query = target
  have hpath : target.pathText = "/movies/".toList ++ segment := by
    rw [← htarget, RequestTarget.pathText_of_path]
  by_cases hsegment : segment = [] ∨ '/' ∈ segment
  · have hroute : Route.ofPath? target.pathText = none := by
      rw [hpath, Route.ofPath?_segment, if_pos hsegment]
    have hrespond : server.respond ⟨"GET", target, id⟩ = .empty 404 := by
      simp only [respond, hroute]
    refine iff_of_false (fun h => ?_) fun h => hsegment.elim h.1.1 h.1.2
    rw [hrespond, Response.answer?_of_status (by decide)] at h
    cases h
  · have hroute : Route.ofPath? target.pathText = some (.movie segment) := by
      rw [hpath, Route.ofPath?_segment, if_neg hsegment]
    rw [respond_get server ⟨"GET", target, id⟩ rfl hroute, and_iff_right (not_or.1 hsegment)]
    exact answer?_getMovie_iff hstored target segment

/-! ## Listed movies -/

/-- The address of a list request, without its query, is that of the collection. -/
theorem Plain.stripQuery_fullUrl (h : server.Plain s settings) {target : RequestTarget}
    (hpath : target.pathText = "/movies".toList) :
    Links.stripQuery (server.fullUrl target) = "/movies" := by
  obtain ⟨hurl, -⟩ := h.fields
  have hfull : server.fullUrl target = String.ofList target.pathAndQuery := by
    rw [fullUrl, hurl]
    exact String.empty_append
  rw [hfull]
  cases target with
  | host => cases hpath
  | path absolute text query =>
    obtain rfl : text = "/movies".toList := by
      rw [RequestTarget.pathText] at hpath
      split at hpath
      · cases hpath
      · exact hpath
    cases query with
    | none =>
      show Links.stripQuery (String.ofList "/movies".toList) = _
      rw [String.ofList_toList]
      rfl
    | some query => exact Links.stripQuery_movies query

/-- A client that asks for a list reads the items of the page that the service finds. -/
theorem Plain.answer_list (h : server.Plain s settings) {request : Request}
    (hmethod : request.method = "GET") (hpath : request.target.pathText = "/movies".toList)
    {params : ListParams}
    (hparams : ListParams.ofQuery (request.target.query?.getD []) = .ok params)
    {page : Page Movie} (hpage : server.service.list params = .ok page) :
    ∃ answer, (server.respond request).answer? = some answer ∧
      Answer.items answer = page.items.map Movie.item := by
  obtain ⟨-, -, hresource, -⟩ := h.fields
  have hfits := Links.fits_envelope Movie.id (show 0 < 124 by decide)
    (fun m => m.fieldsFit_fields (by decide)) page (server.fullUrl request.target)
    server.links.collection server.links.resource
  rw [respond_list hmethod hpath hparams hpage]
  refine ⟨_, Response.answer?_json hfits, ?_⟩
  rw [Answer.items_finite, hresource]
  show (page.items.map (fun m => Links.linked m.fields (Links.ofItem
    (Links.stripQuery (server.fullUrl request.target)) m.id .empty))).map Json.finite = _
  rw [h.stripQuery_fullUrl hpath, List.map_map]
  rfl

/-- Whatever list request is answered, its items are those of stored movies. -/
theorem Plain.items (h : server.Plain s settings) {request : Request}
    (hmethod : request.method = "GET") (hpath : request.target.pathText = "/movies".toList)
    (hanswer : (server.respond request).answer? = some answer) :
    ∃ shown : List Movie, Answer.items answer = shown.map Movie.item ∧
      ∀ m ∈ shown, m ∈ s.movies := by
  have hroute : Route.ofPath? request.target.pathText = some .movies := by
    rw [hpath]
    rfl
  have hlist : server.respond request = server.listMovies request.target :=
    respond_get server request hmethod hroute
  -- refused parameters and failed listings give no answer
  cases hparams : ListParams.ofQuery (request.target.query?.getD []) with
  | error e =>
    rw [hlist, listMovies_of_fault hparams,
      Response.answer?_of_status (by rw [e.status_toResponse]; decide)] at hanswer
    cases hanswer
  | ok params =>
    cases hpage : server.service.list params with
    | error e =>
      simp only [hlist, listMovies, hparams, hpage] at hanswer
      rw [Response.answer?_of_status (by rw [e.status_toResponse]; exact e.status_ne)] at hanswer
      cases hanswer
    | ok page =>
      obtain ⟨answer', hanswer', hitems⟩ := h.answer_list hmethod hpath hparams hpage
      obtain rfl := Option.some.inj (hanswer.symm.trans hanswer')
      obtain ⟨-, -, -, hstored, -⟩ := h.fields
      exact ⟨page.items, hitems, fun m hm => MovieService.mem_movies_of_list hstored hpage hm⟩

/-- Who asks for the address reads the movie, linked by the same address. -/
def Fetches (server : Server) (href : String) (m : Movie) : Prop :=
  ∃ request answer, Request.create "GET" href [] = .ok request ∧
    (server.respond request).status = 200 ∧ (server.respond request).answer? = some answer ∧
    Answer.ShowsMovie answer m ∧ Answer.self? answer = some href

/-- The address of a movie stands for itself: nothing is put in front of it. -/
theorem Plain.fullUrl_item (h : server.Plain s settings) (id : String) :
    server.fullUrl (.path false ("/movies/".toList ++ id.toList) none) = "/movies/" ++ id := by
  obtain ⟨hurl, -⟩ := h.fields
  rw [fullUrl, hurl]
  show "" ++ String.ofList ("/movies/".toList ++ id.toList) = _
  rw [String.empty_append, String.ofList_append, String.ofList_toList, String.ofList_toList]

/-- A link that leads to its movie is read up to its end, and then is the one of the answer. -/
theorem Plain.plain_of_fetches (h : server.Plain s settings) {m : Movie}
    (hfetches : server.Fetches ("/movies/" ++ m.id) m) :
    PathSegment.Plain m.id ∧ m.id.utf8ByteSize ≤ 65526 := by
  obtain ⟨-, -, -, hstored, -⟩ := h.fields
  obtain ⟨request, answer, hcreate, -, hanswer, hshows, hself⟩ := hfetches
  obtain ⟨target, htarget, rfl⟩ := Request.create_eq_ok_iff.1 hcreate
  obtain ⟨hsize, query, rfl⟩ := RequestTarget.exists_of_parse_item htarget
  obtain ⟨⟨hne, hslash⟩, m', hdecode, -, rfl⟩ := (answer?_movie_iff hstored _ _ _).1 hanswer
  -- the movie that was read is the one of the item, so the path was decoded to its identifier
  rw [Answer.id_of_showsMovie hshows] at hdecode
  obtain ⟨hfront, hescape⟩ := (Percent.decode_front_iff (List.takeWhile_prefix _)).1 hdecode
  have hpath : ∀ c ∈ m.id.toList, RequestTarget.isPathChar c = true := by
    rw [← hfront]
    exact fun c hc => List.mem_takeWhile_imp hc
  rw [hfront] at hne hslash hself htarget
  -- nothing is left behind it for a query
  obtain rfl : query = none := by
    rw [RequestTarget.parse_item hpath hsize] at htarget
    cases htarget
    rfl
  rw [Answer.self?_linked, h.fullUrl_item] at hself
  have hplain := (Links.get?_self_plain_iff (mt String.toList_eq_nil_iff.2 hne) hpath hslash
    hescape _ _).1 hself
  exact ⟨hplain, RequestTarget.utf8ByteSize_item_le.1 hsize⟩

/-- A plain segment is decoded to itself and encoded as itself. -/
theorem Plain.fetches_of_plain (h : server.Plain s settings) {m : Movie}
    (hfound : s.find? m.id = some m) (hplain : PathSegment.Plain m.id)
    (hsize : m.id.utf8ByteSize ≤ 65526) : server.Fetches ("/movies/" ++ m.id) m := by
  obtain ⟨-, -, -, hstored, -⟩ := h.fields
  have hne : m.id.toList ≠ [] := mt String.toList_eq_nil_iff.1 hplain.ne_empty
  have hchars := fun c hc => (PathSegment.isPlainChar_iff c).1 (hplain.chars c hc)
  have hpath : ∀ c ∈ m.id.toList, RequestTarget.isPathChar c = true := fun c hc => (hchars c hc).1
  have hslash : '/' ∉ m.id.toList := fun hc => (hchars _ hc).2.1 rfl
  have hdecode := (Percent.decode_front_iff (List.prefix_refl m.id.toList)).2 ⟨rfl, hplain.escapes⟩
  have hparse := RequestTarget.parse_item hpath (RequestTarget.utf8ByteSize_item_le.2 hsize)
  have hanswer := (answer?_movie_iff hstored m.id.toList none none).2
    ⟨⟨hne, hslash⟩, m, hdecode, hfound, rfl⟩
  refine ⟨_, _, Request.create_eq_ok_iff.2 ⟨_, hparse, rfl⟩, ?status, hanswer,
    Answer.showsMovie_linked m _, ?self⟩
  case status =>
    by_contra hstatus
    rw [Response.answer?_of_status hstatus] at hanswer
    cases hanswer
  case self =>
    rw [Answer.self?_linked, h.fullUrl_item]
    exact (Links.get?_self_plain_iff hplain.ne_empty hpath hslash hplain.escapes _ _).2 hplain

/-- A stored movie is fetched by the link of its item exactly if its identifier is a plain segment
that is not too long for an address. -/
theorem Plain.fetches_iff (h : server.Plain s settings) (hs : s.ids.Nodup) {m : Movie}
    (hm : m ∈ s.movies) : server.Fetches ("/movies/" ++ m.id) m ↔
      PathSegment.Plain m.id ∧ m.id.utf8ByteSize ≤ 65526 :=
  ⟨h.plain_of_fetches, fun ⟨hplain, hsize⟩ =>
    h.fetches_of_plain (Store.find?_of_mem hs hm) hplain hsize⟩

/-- Whatever is stored and whatever list request is answered, each item is that of a stored movie,
linked by the address of the collection and the identifier. The link leads to the movie, under the
same address, exactly if the identifier is a plain segment that is not too long for an address. -/
theorem fetches_item_iff (server : Server) (movies : List Movie) (settings : MovieSettings)
    (h : server.Plain (.ofMovies movies) settings) (request : Request)
    (hmethod : request.method = "GET") (hpath : request.target.pathText = "/movies".toList)
    (answer : Json) (hanswer : (server.respond request).answer? = some answer) :
    ∀ item ∈ Answer.items answer, ∃ m ∈ (Store.ofMovies movies).movies, item = m.item ∧
      Answer.self? item = some ("/movies/" ++ m.id) ∧
      (server.Fetches ("/movies/" ++ m.id) m ↔
        PathSegment.Plain m.id ∧ m.id.utf8ByteSize ≤ 65526) := by
  have hfollows : (Store.ofMovies movies).Follows movies := Store.follows_nil.upsertAll movies
  obtain ⟨shown, hitems, hstored⟩ := h.items hmethod hpath hanswer
  intro item hitem
  rw [hitems] at hitem
  obtain ⟨m, hm, rfl⟩ := List.mem_map.1 hitem
  exact ⟨m, hstored m hm, rfl, m.self?_item, h.fetches_iff hfollows.nodup (hstored m hm)⟩

/-- A request for the movies, without parameters. -/
def bareRequest : Request :=
  ⟨"GET", .path false "/movies".toList none, none⟩

/-- A plain server over a store, with the settings that hold without configuration. -/
def plainServer (s : Store) : Server :=
  .create ⟨.ofStore s, 20, 100, MovieSettings.defaultSortSpec {}⟩ {}

theorem plain_plainServer (s : Store) : (plainServer s).Plain s {} :=
  ⟨⟨_, rfl, rfl⟩, rfl, rfl, rfl⟩

/-- Without parameters, the first twenty movies are listed. -/
theorem answer_bareRequest (s : Store) :
    ∃ answer, ((plainServer s).respond bareRequest).answer? = some answer ∧
      Answer.items answer =
        (s.page [] (MovieSettings.defaultSortSpec {}) ⟨1, 20⟩).items.map Movie.item := by
  have haccepts : (plainServer s).service.Accepts s {} [] (MovieSettings.defaultSortSpec {})
      ⟨1, 20⟩ := ⟨rfl, ⟨SortedMap.empty, rfl, rfl⟩, rfl, rfl, rfl⟩
  exact (plain_plainServer s).answer_list rfl rfl rfl (MovieService.list_eq haccepts)

/-- Three movies with identifiers of one letter. -/
theorem fetches_item_iff_sample :
    (plainServer Store.sample).Plain Store.sample {} ∧
    ∃ answer, ((plainServer Store.sample).respond bareRequest).answer? = some answer ∧
      (Answer.items answer).length = 3 ∧
      ∀ item ∈ Answer.items answer, ∃ m ∈ Store.sample.movies, item = m.item ∧
        Answer.self? item = some ("/movies/" ++ m.id) ∧
        (plainServer Store.sample).Fetches ("/movies/" ++ m.id) m := by
  have hplain := plain_plainServer Store.sample
  obtain ⟨answer, hanswer, hitems⟩ := answer_bareRequest Store.sample
  have hids : ∀ m ∈ Store.sample.movies, PathSegment.Plain m.id ∧ m.id.utf8ByteSize ≤ 65526 := by
    decide
  refine ⟨hplain, answer, hanswer, ?_, fun item hitem => ?_⟩
  · rw [hitems, List.length_map]
    decide
  · obtain ⟨m, hm, hitem, hself, hfetches⟩ := fetches_item_iff _ _ _ hplain bareRequest rfl rfl
      answer hanswer item hitem
    exact ⟨m, hm, hitem, hself, hfetches.2 (hids m hm)⟩

/-- The link of a movie whose identifier has a slash is not found. -/
theorem exists_item_lost :
    let m := Store.sampleMovie "a/b" "Alien" 1979
    let server := plainServer (.ofMovies [m])
    server.Plain (.ofMovies [m]) {} ∧
    (∃ answer, (server.respond bareRequest).answer? = some answer ∧
      Answer.items answer = [m.item]) ∧
    Answer.self? m.item = some "/movies/a/b" ∧
    (∃ request, Request.create "GET" "/movies/a/b" [] = .ok request ∧
      (server.respond request).status = 404) ∧
    ¬ server.Fetches "/movies/a/b" m := by
  intro m server
  have hplain := plain_plainServer (.ofMovies [m])
  refine ⟨hplain, answer_bareRequest _, m.self?_item, ⟨_, rfl, rfl⟩, fun h => ?_⟩
  have hm : m ∈ (Store.ofMovies [m]).movies := List.mem_singleton.2 rfl
  exact absurd ((hplain.fetches_iff (List.nodup_singleton _) hm).1 h).1 (by decide)

end Server

end Catalog
