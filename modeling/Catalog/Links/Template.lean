import Catalog.Text.Split

/-!
# Address templates

Templates of addresses with places for a collection and a resource. The places of the collection
are filled first, over the whole text, and then those of the resource, so that a resource's place
inside an inserted collection is filled as well.
-/

namespace Catalog.Template

/-- The place of the collection. -/
def collectionPlace : List Char := "\x7bcollection\x7d".toList

/-- The place of the resource. -/
def resourcePlace : List Char := "\x7bresource\x7d".toList

/-- Fill the places of a template. -/
def expand (template collection resource : String) : String :=
  let filled := Text.replaceAll collectionPlace collection.toList template.toList
  String.ofList (Text.replaceAll resourcePlace resource.toList filled)

end Catalog.Template
