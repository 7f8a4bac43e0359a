import Catalog.Http.Response
import Catalog.Links.Collection
import Catalog.Movie.Basic
import Catalog.Proofs.JsonText

/-!
# Reading answers

What a client finds in an answer. The client reads the text of a body; the text of a page of movies
reads as the page that it was written from.

## Key results

- `Links.fits_envelope`: a page is no deeper than a reader goes
- `Response.answer?_json`: the text of an answer reads as its value
- `Answer.next?_envelope`: the next page of an envelope is that of its links
-/

namespace Catalog

/-! ## Values that can be read -/

namespace Json

theorem itemsFit_iff (items : List Json) (depth : Nat) :
    ItemsFit items depth ↔ ∀ item ∈ items, Fits item depth := by
  induction items with
  | nil => exact ⟨fun _ _ h => absurd h List.not_mem_nil, fun _ => trivial⟩
  | cons item items ih =>
    rw [List.forall_mem_cons, ← ih]
    exact Iff.rfl

theorem fieldsFit_iff (fields : Fields) (depth : Nat) :
    FieldsFit fields depth ↔ ∀ field ∈ fields, Fits field.2 depth := by
  induction fields with
  | nil => exact ⟨fun _ _ h => absurd h List.not_mem_nil, fun _ => trivial⟩
  | cons field fields ih =>
    rw [List.forall_mem_cons, ← ih]
    exact Iff.rfl

theorem fits_nat {n : Nat} (h : n < 2 ^ 64) (depth : Nat) : Fits (nat n) depth :=
  show -2 ^ 63 ≤ (n : Int) ∧ (n : Int) < 2 ^ 64 by omega

theorem fits_texts (items : List String) {depth : Nat} (h : 0 < depth) :
    Fits (texts items) depth := by
  refine ⟨h, (itemsFit_iff _ _).2 fun item hitem => ?_⟩
  obtain ⟨s, -, rfl⟩ := List.mem_map.1 hitem
  trivial

end Json

open Json

theorem LinkSet.fits_toJson (s : LinkSet) {depth : Nat} (h : 0 < depth) : Fits s.toJson depth := by
  refine ⟨h, (fieldsFit_iff _ _).2 fun field hfield => ?_⟩
  obtain ⟨link, -, rfl⟩ := List.mem_map.1 hfield
  trivial

theorem Movie.fieldsFit_fields (m : Movie) {depth : Nat} (h : 0 < depth) :
    FieldsFit m.fields depth := by
  have hint : ∀ n : Int64, Fits (Json.int n.toInt) depth := by
    intro n
    have := n.le_toInt
    have := n.toInt_lt
    show -2 ^ 63 ≤ n.toInt ∧ n.toInt < 2 ^ 64
    omega
  -- awards are the only object among the fields
  have hawards : Fits m.awards.toJson depth := by
    have := m.awards.wins.toNat_lt
    have := m.awards.nominations.toNat_lt
    exact ⟨h, fits_nat (by omega) _, fits_nat (by omega) _, trivial, trivial⟩
  exact ⟨trivial, trivial, trivial, hint m.year, hint m.runtime, trivial, trivial,
    fits_texts _ h, fits_texts _ h, fits_texts _ h, fits_texts _ h, hawards, trivial⟩

theorem Links.fits_linked {fields : Fields} {depth : Nat} (h : 0 < depth)
    (hfields : FieldsFit fields depth) (links : LinkSet) :
    Fits (linked fields links) (depth + 1) := by
  refine ⟨Nat.succ_pos depth, (fieldsFit_iff _ _).2 fun field hfield => ?_⟩
  rcases List.mem_append.1 hfield with hfield | hfield
  · exact (fieldsFit_iff _ _).1 hfields field hfield
  · rw [List.mem_singleton.1 hfield]
    exact links.fits_toJson h

/-- A page is three containers deeper than the fields of its items. -/
theorem Links.fits_envelope_of_mem {α : Type} (idOf : α → String) {fieldsOf : α → Fields}
    {depth : Nat} (h : 0 < depth) {page : Page α}
    (hfields : ∀ x ∈ page.items, FieldsFit (fieldsOf x) depth) (fullUrl : String)
    (extra templates : Templates) :
    Fits (envelope idOf fieldsOf page fullUrl extra templates) (depth + 3) := by
  have hnumber : ∀ n : UInt64, Fits (Json.nat n.toNat) (depth + 2) :=
    fun n => fits_nat n.toNat_lt _
  refine ⟨Nat.succ_pos _, ?_, hnumber _, hnumber _, hnumber _, hnumber _,
    LinkSet.fits_toJson _ (Nat.succ_pos _), trivial⟩
  refine ⟨Nat.succ_pos _, (itemsFit_iff _ _).2 fun item hitem => ?_⟩
  obtain ⟨x, hx, rfl⟩ := List.mem_map.1 hitem
  exact fits_linked h (hfields x hx) _

theorem Links.fits_envelope {α : Type} (idOf : α → String) {fieldsOf : α → Fields} {depth : Nat}
    (h : 0 < depth) (hfields : ∀ x, FieldsFit (fieldsOf x) depth) (page : Page α)
    (fullUrl : String) (extra templates : Templates) :
    Fits (envelope idOf fieldsOf page fullUrl extra templates) (depth + 3) :=
  fits_envelope_of_mem idOf h (fun x _ => hfields x) fullUrl extra templates

/-! ## What a client reads -/

/-- What a client reads in a response: the value of the body, if the response is successful. -/
def Response.answer? (r : Response) : Option Json :=
  if r.status = 200 then Json.parse? r.body else none

theorem Response.answer?_json {value : Json} (h : Fits value maxDepth) :
    (Response.json value).answer? = some value.finite := by
  rw [answer?]
  exact (if_pos rfl).trans (parse?_render h)

/-- The items of an answer. -/
def Answer.items (answer : Json) : List Json :=
  ((answer.get? "items").bind Json.items?).getD []

/-- The address that an answer gives for the next page. -/
def Answer.next? (answer : Json) : Option String :=
  ((answer.get? "_links").bind fun links => links.get? "next").bind Json.string?

/-! ## Null in the place of what is no number -/

namespace Json

theorem finiteItems_eq_map (items : List Json) : finiteItems items = items.map finite := by
  induction items with
  | nil => rfl
  | cons item items ih => rw [finiteItems, List.map_cons, ih]

theorem items?_finite (j : Json) : j.finite.items? = j.items?.map (List.map finite) := by
  cases j with
  | array items =>
    show some (finiteItems items) = some (items.map finite)
    rw [finiteItems_eq_map]
  | number n =>
    -- no number has items, and neither has null in its place
    cases n with
    | int n => rfl
    | double x =>
      rw [finite]
      split <;> rfl
  | _ => rfl

theorem string?_finite (j : Json) : j.finite.string? = j.string? := by
  cases j with
  | number n =>
    cases n with
    | int n => rfl
    | double x =>
      rw [finite]
      split <;> rfl
  | _ => rfl

theorem get?_finite (j : Json) (key : String) : j.finite.get? key = (j.get? key).map finite := by
  cases j with
  | object fields =>
    show (finiteFields fields).lookup key = (fields.lookup key).map finite
    induction fields with
    | nil => rfl
    | cons field fields ih =>
      obtain ⟨name, value⟩ := field
      rw [finiteFields, List.lookup_cons, List.lookup_cons]
      cases key == name with
      | true => rfl
      | false => exact ih
  | number n =>
    cases n with
    | int n => rfl
    | double x =>
      rw [finite]
      split <;> rfl
  | _ => rfl

end Json

theorem Answer.items_finite (answer : Json) :
    Answer.items answer.finite = (Answer.items answer).map finite := by
  rw [items, items, get?_finite, Option.bind_map]
  cases answer.get? "items" with
  | none => rfl
  | some j =>
    show (j.finite.items?).getD [] = (j.items?.getD []).map finite
    rw [items?_finite]
    cases j.items? <;> rfl

theorem Answer.next?_finite (answer : Json) : Answer.next? answer.finite = Answer.next? answer := by
  rw [next?, next?, get?_finite]
  cases answer.get? "_links" with
  | none => rfl
  | some links =>
    show (links.finite.get? "next").bind Json.string? = (links.get? "next").bind Json.string?
    rw [get?_finite, Option.bind_map]
    congr 1
    funext j
    exact string?_finite j

/-! ## Links in answers -/

/-- The object of a set of links has the address of each relation. -/
theorem LinkSet.get?_toJson (s : LinkSet) (relation : String) :
    s.toJson.get? relation = (s.get? relation).map .string := by
  rw [toJson, Json.get?, get?]
  induction s.links with
  | nil => rfl
  | cons link rest ih =>
    obtain ⟨r, href⟩ := link
    rw [List.map_cons, List.lookup_cons, List.lookup_cons]
    cases relation == r with
    | true => rfl
    | false => exact ih

/-- The next page of an envelope is that of its links. -/
theorem Answer.next?_envelope {α : Type} (idOf : α → String) (fieldsOf : α → Json.Fields)
    (page : Page α) (fullUrl : String) (extra templates : Links.Templates) :
    Answer.next? (Links.envelope idOf fieldsOf page fullUrl extra templates) =
      (Links.ofCollection page.descriptor fullUrl extra).get? "next" := by
  have hlinks : (Links.envelope idOf fieldsOf page fullUrl extra templates).get? "_links" =
      some (Links.ofCollection page.descriptor fullUrl extra).toJson := rfl
  rw [next?, hlinks, Option.bind_some, LinkSet.get?_toJson, Option.bind_map]
  cases (Links.ofCollection page.descriptor fullUrl extra).get? "next" <;> rfl

end Catalog
