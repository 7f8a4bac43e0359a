import Catalog.Proofs.ItemLinks
import Catalog.Proofs.Traversal

/-!
# The query of a request for a movie

A movie is fetched by a path. What else stands in the request, in front of the path or behind it,
changes nothing in the answer: the reader of addresses stops at the query, and the links of the
movie are made from the path.

## Key results

- `RequestTarget.isPathChar_of_parse`: which characters the path of a request holds
- `RequestTarget.exists_of_parse_withQuery`: a query behind a path is not part of it
- `Server.ofResource_fullUrl`: nor are links made from it
- `Server.getMovie_eq_path`: what is answered to the path alone
- `Server.respond_eq_of_gets`: requests for one movie are answered alike
-/

namespace Catalog

/-! ## Paths of requests -/

/-- The path of a movie is that of the collection with a segment behind it. -/
theorem Route.eq_of_ofPath?_movie {path segment : List Char}
    (h : ofPath? path = some (.movie segment)) : path = "/movies/".toList ++ segment := by
  unfold ofPath? at h
  -- the fixed paths name no movie
  iterate 3
    split at h
    · cases h
  split at h
  next rest hlead =>
    obtain ⟨behind, rfl⟩ := Text.isSome_dropLead?_iff.1 (Option.isSome_of_eq_some hlead)
    rw [Text.dropLead?_append] at hlead
    cases hlead
    split at h
    · cases h
    · cases h
      rfl
  next => cases h

namespace RequestTarget

/-- A path that is read holds characters of paths only. -/
theorem isPathChar_of_readPath {absolute : Bool} {cs : List Char} {target : RequestTarget}
    (h : readPath absolute cs = .ok target) : ∀ c ∈ target.pathText, isPathChar c = true := by
  obtain ⟨query, rfl⟩ := exists_of_readPath h
  intro c hc
  rw [pathText] at hc
  split at hc
  · rw [List.mem_singleton.1 hc]
    rfl
  · exact List.all_eq_true.1 List.all_takeWhile c hc

/-- So does the path of every target, also behind a host. -/
theorem isPathChar_of_parse {text : String} {target : RequestTarget} (h : parse text = .ok target) :
    ∀ c ∈ target.pathText, isPathChar c = true := by
  rw [parse] at h
  split at h
  · cases h
  split at h
  · cases h
  · cases h
    exact List.all_eq_true.1 rfl
  · exact isPathChar_of_readPath h
  -- what starts otherwise is a scheme with a host, or a host alone
  obtain ⟨afterScheme?, -, h⟩ := exists_of_bind_eq_ok h
  cases afterScheme? with
  | none =>
    obtain ⟨rest, -, h⟩ := exists_of_bind_eq_ok h
    split at h
    · cases h
      exact fun c hc => absurd hc List.not_mem_nil
    split at h
    · cases h
    · cases h
  | some afterScheme =>
    cases afterScheme with
    | nil => cases h
    | cons c cs =>
      obtain ⟨rest, -, h⟩ := exists_of_bind_eq_ok h
      simp only at h
      split at h
      · cases h
      · exact isPathChar_of_readPath h

/-- A path of more than its slash is taken over as it is, with the query behind it. -/
theorem pathAndQuery_eq {target : RequestTarget} {c d : Char} {cs : List Char}
    (h : target.pathText = c :: d :: cs) :
    target.pathAndQuery = target.pathText ∨
      ∃ query, target.pathAndQuery = target.pathText ++ '?' :: query := by
  cases target with
  | host => cases h
  | path absolute text query =>
    -- only a missing path is filled in, and that with the slash alone
    cases text with
    | nil => cases absolute <;> cases h
    | cons e es =>
      cases query with
      | none => exact .inl rfl
      | some query => exact .inr ⟨query, rfl⟩

/-- A path with a query behind it, if there is one. -/
def withQuery (path : String) : Option String → String
  | none => path
  | some query => path ++ "?" ++ query

/-- What is read from a path with a query is the path, whatever the query. -/
theorem exists_of_parse_withQuery {path : String} {cs : List Char} (hpath : path.toList = '/' :: cs)
    (hchars : ∀ c ∈ path.toList, isPathChar c = true) {query : Option String}
    {target : RequestTarget} (h : parse (withQuery path query) = .ok target) :
    ∃ query, target = .path false path.toList query := by
  have htext : ∃ rest : List Char, (withQuery path query).toList = path.toList ++ rest ∧
      ∀ c ∈ rest.head?, isPathChar c = false := by
    cases query with
    | none => exact ⟨[], by simp [withQuery]⟩
    | some q => exact ⟨'?' :: q.toList, by simp [withQuery, isPathChar]⟩
  obtain ⟨rest, htext, hstop⟩ := htext
  have hslash : (withQuery path query).toList = '/' :: (cs ++ rest) := by rw [htext, hpath]; rfl
  obtain ⟨-, hread⟩ := (parse_eq_ok_iff hslash).1 h
  obtain ⟨read, rfl⟩ := exists_of_readPath hread
  rw [htext, Text.takeWhile_append_stop hchars hstop]
  exact ⟨read, rfl⟩

end RequestTarget

namespace Request

/-- A request that is made asks for the target that was read. -/
theorem parse_of_create {method text : String} {headers : List (String × String)}
    {request : Request} (h : create method text headers = .ok request) :
    request.method = method ∧ RequestTarget.parse text = .ok request.target := by
  rw [create] at h
  split at h
  · cases h
  obtain ⟨target, htarget, h⟩ := exists_of_bind_eq_ok h
  obtain ⟨-, -, h⟩ := exists_of_bind_eq_ok h
  cases h
  cases hparse : RequestTarget.parse text with
  | error e =>
    rw [hparse] at htarget
    cases htarget
  | ok read =>
    rw [hparse] at htarget
    cases htarget
    exact ⟨rfl, rfl⟩

/-- A request that is made with `GET` for a path, whatever else stands in its target and in its
headers. -/
def Gets (request : Request) (path : String) : Prop :=
  ∃ text headers, create "GET" text headers = .ok request ∧
    request.target.pathText = path.toList

theorem Gets.parts {request : Request} {path : String} (h : request.Gets path) :
    request.method = "GET" ∧ request.target.pathText = path.toList ∧
      ∀ c ∈ path.toList, RequestTarget.isPathChar c = true := by
  obtain ⟨text, headers, hcreate, hpath⟩ := h
  obtain ⟨hmethod, hparse⟩ := parse_of_create hcreate
  exact ⟨hmethod, hpath, hpath ▸ RequestTarget.isPathChar_of_parse hparse⟩

/-- Every query behind the path of a movie makes such a request, if it can be read at all. -/
theorem gets_of_create_withQuery {path : String} {segment : List Char}
    (hroute : Route.ofPath? path.toList = some (.movie segment))
    (hchars : ∀ c ∈ path.toList, RequestTarget.isPathChar c = true) {query : Option String}
    {headers : List (String × String)} {request : Request}
    (h : create "GET" (RequestTarget.withQuery path query) headers = .ok request) :
    request.Gets path := by
  have hpath : path.toList = '/' :: ("movies/".toList ++ segment) :=
    Route.eq_of_ofPath?_movie hroute
  obtain ⟨-, hparse⟩ := parse_of_create h
  obtain ⟨read, htarget⟩ := RequestTarget.exists_of_parse_withQuery hpath hchars hparse
  refine ⟨_, _, h, ?_⟩
  rw [htarget, RequestTarget.pathText_of_path]

end Request

/-! ## Links from the path -/

/-- The links of a resource are made from the address as it is read. -/
theorem Links.ofResource_congr {url url' : String} {address : RequestAddress}
    (h : RequestAddress.parse? url = some address) (h' : RequestAddress.parse? url' = some address)
    (known : List String) (extra : Templates) :
    ofResource url known extra = ofResource url' known extra := by
  rw [ofResource, ofResource, h, h']

/-! ## Answers -/

namespace Server

variable {server : Server} {target : RequestTarget} {segment : List Char}

/-- Without a public address, the links of a movie are made from the path that was asked for. -/
theorem ofResource_fullUrl (hpublic : server.publicUrl = "")
    (hchars : ∀ c ∈ target.pathText, RequestTarget.isPathChar c = true)
    (hroute : Route.ofPath? target.pathText = some (.movie segment)) (known : List String)
    (extra : Links.Templates) :
    Links.ofResource (server.fullUrl target) known extra =
      Links.ofResource (String.ofList target.pathText) known extra := by
  have hpath : target.pathText = '/' :: 'm' :: ("ovies/".toList ++ segment) :=
    Route.eq_of_ofPath?_movie hroute
  have hurl : server.fullUrl target = String.ofList target.pathAndQuery := by
    rw [fullUrl, hpublic, String.empty_append]
  rw [hurl]
  -- the address is the path, or the path with a query that its reader does not look at
  rcases RequestTarget.pathAndQuery_eq hpath with hbare | ⟨query, hquery⟩
  · rw [hbare]
  · have hrest : ∀ d ∈ 'm' :: ("ovies/".toList ++ segment),
        0x20 < d.toNat ∧ d ≠ '?' ∧ d ≠ '#' := by
      intro d hd
      apply RequestTarget.of_isPathChar
      exact hchars d (hpath ▸ List.mem_cons_of_mem _ hd)
    have hparse := RequestAddress.parse?_path (show Url.isSlash .special 'm' = false from rfl) hrest
    rw [hquery, hpath]
    exact Links.ofResource_congr ((RequestAddress.parse?_query rfl hrest query).trans hparse) hparse
      known extra

/-- Without a public address, a movie is answered as if the path alone had been asked for. -/
theorem getMovie_eq_path (hpublic : server.publicUrl = "")
    (hchars : ∀ c ∈ target.pathText, RequestTarget.isPathChar c = true)
    (hroute : Route.ofPath? target.pathText = some (.movie segment)) :
    server.getMovie target segment =
      server.getMovie (.path false target.pathText none) segment := by
  have hbare := RequestTarget.pathText_of_path target.pathText none
  have hplace : place (.path false target.pathText none) = place target := by
    rw [place, place, hbare]
  have hlinks : ∀ known extra, Links.ofResource (server.fullUrl target) known extra =
      Links.ofResource (server.fullUrl (.path false target.pathText none)) known extra := by
    intro known extra
    rw [ofResource_fullUrl hpublic hchars hroute, ofResource_fullUrl hpublic, hbare]
    · rwa [hbare]
    · rwa [hbare]
  simp only [getMovie, hplace, hlinks]

/-- Without a public address, all requests for the path of a movie are answered alike, with all
parts of the answer; so are those with any query behind the path. Where the movie is found, its
links are those of the path. -/
theorem respond_eq_of_gets (server : Server) (hpublic : server.publicUrl = "") (path : String)
    (segment : List Char) (hroute : Route.ofPath? path.toList = some (.movie segment))
    (r₁ r₂ : Request) (h₁ : r₁.Gets path) (h₂ : r₂.Gets path) :
    server.respond r₁ = server.respond r₂ ∧
    (∀ query headers r, Request.create "GET" (RequestTarget.withQuery path query) headers = .ok r →
      server.respond r = server.respond r₁) ∧
    ∀ id movie, Text.decodeUtf8? (Percent.decode segment) = some id →
      server.service.get (String.ofList id) = .ok movie →
      server.respond r₁ = .json (Links.linked movie.fields
        (Links.ofResource path server.links.knownCollections server.links.resource)) := by
  -- each of the requests is compared with the one for the bare path
  have hanswer : ∀ r : Request, r.Gets path →
      server.respond r = server.getMovie (.path false path.toList none) segment := by
    intro r hr
    obtain ⟨hmethod, hpath, hchars⟩ := hr.parts
    have hmovie : Route.ofPath? r.target.pathText = some (.movie segment) := by rw [hpath, hroute]
    rw [respond_get server r hmethod hmovie, ← hpath]
    exact getMovie_eq_path hpublic (hpath ▸ hchars) hmovie
  refine ⟨?same, ?query, ?found⟩
  case same => rw [hanswer r₁ h₁, hanswer r₂ h₂]
  case query =>
    intro query headers r hr
    rw [hanswer r (Request.gets_of_create_withQuery hroute h₁.parts.2.2 hr), hanswer r₁ h₁]
  case found =>
    intro id movie hid hfound
    have hurl : server.fullUrl (.path false path.toList none) = path := by
      have hne : path.toList.isEmpty = false := by rw [Route.eq_of_ofPath?_movie hroute]; rfl
      rw [fullUrl, hpublic, String.empty_append, RequestTarget.pathAndQuery, hne,
        if_neg Bool.false_ne_true, String.ofList_toList]
    rw [hanswer r₁ h₁]
    simp only [getMovie, hid, hfound, hurl]

/-- The sample store, with links of movies to their collection and to their cast. -/
def linkedServer : Server :=
  { plainServer Store.sample with
    links := { resource := .ofList [("cast", "\x7bcollection\x7d/\x7bresource\x7d/cast")] } }

/-- A movie is asked for behind a host, with a query that looks like an address, and without. -/
theorem respond_eq_of_gets_sample :
    linkedServer.publicUrl = "" ∧ Route.ofPath? "/movies/b".toList = some (.movie ['b']) ∧
    ∃ hosted queried bare : Request,
      Request.create "GET" "http://localhost/movies/b?q#top" [] = .ok hosted ∧
      Request.create "GET" "/movies/b?up=/people/c?&id=\x7bresource\x7d" [("Accept", "*/*")] =
        .ok queried ∧
      Request.create "GET" "/movies/b" [] = .ok bare ∧
      linkedServer.respond hosted = linkedServer.respond queried ∧
      linkedServer.respond bare = linkedServer.respond hosted ∧
      linkedServer.respond hosted = .json (Links.linked
        (Store.sampleMovie "b" "Aliens" 1986).fields
        (LinkSet.empty.insert "self" "/movies/b" |>.insert "collection" "/movies"
          |>.insert "cast" "/movies/b/cast")) := by
  have hhosted : Request.create "GET" "http://localhost/movies/b?q#top" [] =
      .ok ⟨"GET", .path true "/movies/b".toList (some ['q']), none⟩ := rfl
  have hqueried : Request.create "GET" "/movies/b?up=/people/c?&id=\x7bresource\x7d"
      [("Accept", "*/*")] = .ok ⟨"GET", .path false "/movies/b".toList
        (some "up=/people/c?&id=\x7bresource\x7d".toList), none⟩ := rfl
  have hbare : Request.create "GET" "/movies/b" [] =
      .ok ⟨"GET", .path false "/movies/b".toList none, none⟩ := rfl
  obtain ⟨hsame, hquery, hfound⟩ := respond_eq_of_gets linkedServer rfl "/movies/b" ['b'] rfl _ _
    ⟨_, _, hhosted, rfl⟩ ⟨_, _, hqueried, rfl⟩
  have hlinks : Links.ofResource "/movies/b" linkedServer.links.knownCollections
      linkedServer.links.resource = (LinkSet.empty.insert "self" "/movies/b"
        |>.insert "collection" "/movies" |>.insert "cast" "/movies/b/cast") := by
    decide +kernel
  refine ⟨rfl, rfl, _, _, _, hhosted, hqueried, hbare, hsame, hquery none [] _ hbare, ?_⟩
  rw [hfound ['b'] (Store.sampleMovie "b" "Aliens" 1986) (by decide +kernel) rfl, hlinks]

end Server

end Catalog
