import Catalog.Links.LinkSet
import Catalog.Links.Page
import Catalog.Links.Template
import Catalog.SortedMap
import Catalog.Url.Parser

/-!
# Links of collections and resources

Link sets of a page of a collection, of an item on it, and of a resource on its own. Generated
relations come first and configured ones never replace them. The envelope joins items, page data
and links.
-/

namespace Catalog

/-- The address of a request without query and fragment: whole, or a path alone. -/
structure RequestAddress where
  /-- The address. -/
  url : Url
  /-- Only the path is written. -/
  pathOnly : Bool

namespace RequestAddress

/-- Read an address. A text without a scheme is a path on some page. -/
def parse? (raw : String) : Option RequestAddress :=
  let cs := Url.clean raw
  match Url.parseClean cs with
  | .ok url => some ⟨url, false⟩
  | .error .relative =>
    match Url.parseReference cs with
    | .ok url => some ⟨url, true⟩
    | .error _ => none
  | .error .invalidHost => none

/-- The text of an address. -/
def render (a : RequestAddress) : String :=
  if a.pathOnly then String.ofList a.url.path else a.url.render

/-- The segments of the path that are not empty. -/
def segments (a : RequestAddress) : List (List Char) :=
  a.url.segments.filter fun segment => !segment.isEmpty

/-- The address with other segments. -/
def withSegments (a : RequestAddress) (segments : List (List Char)) : RequestAddress :=
  { a with url := a.url.withSegments segments }

end RequestAddress

namespace Links

/-- Drop query and fragment of an address; a text that is none stays as it is. -/
def stripQuery (raw : String) : String :=
  match RequestAddress.parse? raw with
  | some address => address.render
  | none => raw

/-- Templates of configured links by relation. -/
abbrev Templates := SortedMap String

/-- Add configured links, without replacing those there. -/
def addTemplates (templates : Templates) (collection resource : String) (links : LinkSet) :
    LinkSet :=
  templates.toList.foldl (fun links t =>
    links.insertAbsent t.1 (Template.expand t.2 collection resource)) links

/-- Links of a page of a collection: itself as asked for, the pages around it, and the configured
ones. -/
def ofCollection (d : PageDescriptor) (fullUrl : String) (extra : Templates) : LinkSet :=
  let base := stripQuery fullUrl
  let links := LinkSet.empty
    |>.insert "self" fullUrl
    |>.insert "first" (PageLink.first base d.pageSize)
    |>.insert "last" (PageLink.last base d.pageSize d.totalCount)
    |>.insertSome "prev" (PageLink.previous? base d.page d.pageSize)
    |>.insertSome "next" (PageLink.next? base d.page d.pageSize d.totalCount)
  addTemplates extra base "" links

/-- Links of an item of a collection. -/
def ofItem (collection id : String) (templates : Templates) : LinkSet :=
  let links := LinkSet.empty
    |>.insert "self" (collection ++ "/" ++ id)
    |>.insert "collection" collection
  addTemplates templates collection id links

/-- Links of a resource asked for by its own address. Its collection is linked only if its name is
among the known ones. -/
def ofResource (fullUrl : String) (known : List String) (extra : Templates) : LinkSet :=
  match RequestAddress.parse? fullUrl with
  | none => LinkSet.empty.insert "self" fullUrl
  | some address =>
    let segments := address.segments
    let resource := String.ofList (segments.getLast?.getD [])
    let parents := segments.dropLast
    let parent := (address.withSegments parents).render
    let isKnown := match parents.getLast? with
      | some name => known.contains (String.ofList name)
      | none => false
    let links := LinkSet.empty.insert "self" address.render
    let links := if isKnown then links.insert "collection" parent else links
    addTemplates extra parent resource links

/-- An item's own fields with its links. -/
def linked (fields : Json.Fields) (links : LinkSet) : Json :=
  .object (fields ++ [("_links", links.toJson)])

/-- The envelope of a page: its items with their links, page data and the links of the page. `idOf`
names an item and `fieldsOf` gives its fields. -/
def envelope {α : Type} (idOf : α → String) (fieldsOf : α → Json.Fields) (page : Page α)
    (fullUrl : String) (extra templates : Templates) : Json :=
  let d := page.descriptor
  let base := stripQuery fullUrl
  let item (x : α) : Json := linked (fieldsOf x) (ofItem base (idOf x) templates)
  .object
    [("items", .array (page.items.map item)),
      ("page", Json.nat d.page.toNat),
      ("pageSize", Json.nat d.pageSize.toNat),
      ("totalCount", Json.nat d.totalCount.toNat),
      ("totalPages", Json.nat d.totalPages.toNat),
      ("_links", (ofCollection d fullUrl extra).toJson)]

end Links

end Catalog
