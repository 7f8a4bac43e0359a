import Catalog.Problem
import Catalog.Proofs.AnswerText

/-!
# Problem documents

A problem document reads back as the problem that it was written from, so a response that carries a
problem tells all of it.

## Key results

- `Problem.decode_toJson`: documents read back
- `Problem.carries_toResponse`: responses carry their problems
-/

namespace Catalog

/-! ## Records -/

/-- Fields of different names that pass their checks are taken. -/
theorem Json.RecordShape.checkFields_eq_ok {shape : RecordShape} {fields : Fields}
    (hpass : ∀ field ∈ fields, ∃ check, shape.fields.lookup field.1 = some check ∧
      check field.2 = .ok ())
    (hnames : (fields.map Prod.fst).Nodup) {seen : List String}
    (hseen : ∀ field ∈ fields, field.1 ∉ seen) : shape.checkFields seen fields = .ok () := by
  -- the names seen so far are those in front, which do not occur again
  induction fields generalizing seen with
  | nil => rfl
  | cons field rest ih =>
    obtain ⟨⟨check, hlookup, hcheck⟩, hrest⟩ := List.forall_mem_cons.1 hpass
    obtain ⟨hfresh, hunseen⟩ := List.forall_mem_cons.1 hseen
    rw [List.map_cons, List.nodup_cons] at hnames
    have htail : shape.checkFields (field.1 :: seen) rest = .ok () := by
      refine ih hrest hnames.2 fun later hlater => ?_
      rw [List.mem_cons, not_or]
      refine ⟨fun heq => hnames.1 ?_, hunseen later hlater⟩
      exact heq ▸ List.mem_map_of_mem hlater
    simp only [checkFields, hlookup, hfresh, if_false, hcheck]
    exact htail

/-- A number of 16 bits is read back. -/
theorem Json.Decoder.uint16_nat {n : Nat} (h : n < 2 ^ 16) :
    uint16 (nat n) = .ok (UInt16.ofNat n) := by
  have hrange : (0 : Int) ≤ n ∧ (n : Int) ≤ 0xFFFF := by omega
  simp [uint16, intBetween, nat, hrange, Except.map]

/-! ## Problems -/

namespace Problem

variable {p : Problem}

/-- The fields of the document. -/
def fields (p : Problem) : Json.Fields :=
  [("type", .string p.typeUrl), ("title", .string p.title), ("status", Json.nat p.status),
    ("detail", .string p.detail), ("instance", .string p.instancePath), ("code", .string p.code)]
    ++ match p.parameter with
      | some name => [("parameter", .string name)]
      | none => []

theorem toJson_eq (p : Problem) : p.toJson = .object p.fields :=
  rfl

/-- The names of the fields that hold texts. -/
def textNames : List String := ["type", "title", "detail", "instance", "code", "parameter"]

/-- All fields but the status hold texts. -/
theorem forall_mem_fields {P : String × Json → Prop}
    (htext : ∀ name ∈ textNames, ∀ s, P (name, .string s))
    (hstatus : P ("status", Json.nat p.status)) : ∀ field ∈ p.fields, P field := by
  intro field hfield
  rcases List.mem_append.1 hfield with hfield | hfield
  · simp only [List.mem_cons, List.not_mem_nil, or_false] at hfield
    rcases hfield with rfl | rfl | rfl | rfl | rfl | rfl
    case inr.inr.inl => exact hstatus
    all_goals exact htext _ (by decide) _
  · cases hparameter : p.parameter with
    | none => rw [hparameter] at hfield; cases hfield
    | some name =>
      rw [hparameter] at hfield
      rw [List.mem_singleton.1 hfield]
      exact htext _ (by decide) _

theorem fits_toJson (h : p.status < 2 ^ 64) : Json.Fits p.toJson Json.maxDepth :=
  ⟨by decide, (Json.fieldsFit_iff _ _).2
    (forall_mem_fields (fun _ _ _ => trivial) (Json.fits_nat h _))⟩

theorem finite_toJson (p : Problem) : p.toJson.finite = p.toJson := by
  obtain ⟨typeUrl, title, status, detail, place, code, parameter⟩ := p
  cases parameter <;> rfl

/-- Every field passes the check of its place. -/
theorem open_toJson (h : p.status < 2 ^ 16) : shape.open p.toJson = .ok (.named p.fields) := by
  have hpass : ∀ field ∈ p.fields, ∃ check, shape.fields.lookup field.1 = some check ∧
      check field.2 = .ok () := by
    refine forall_mem_fields (fun name hname s => ?_) ⟨_, rfl, ?_⟩
    · simp only [textNames, List.mem_cons, List.not_mem_nil, or_false] at hname
      rcases hname with rfl | rfl | rfl | rfl | rfl | rfl <;> exact ⟨_, rfl, rfl⟩
    · rw [Json.Decoder.check, Json.Decoder.uint16_nat h]
      rfl
  have hnames : (p.fields.map Prod.fst).Nodup := by
    rw [fields]
    cases p.parameter <;> simp
  rw [toJson_eq, Json.RecordShape.open,
    Json.RecordShape.checkFields_eq_ok hpass hnames fun _ _ => List.not_mem_nil]
  rfl

theorem decode_toJson (h : p.status < 2 ^ 16) : decode p.toJson = .ok p := by
  have hstatus : (Json.Record.named p.fields).required "status" .uint16 =
      .ok (UInt16.ofNat p.status) := Json.Decoder.uint16_nat h
  have hparameter : (Json.Record.named p.fields).nullable "parameter" .string =
      .ok p.parameter := by
    obtain ⟨typeUrl, title, status, detail, place, code, parameter⟩ := p
    cases parameter <;> rfl
  rw [decode, open_toJson h]
  -- the other fields are texts, which are read as they are
  show ((Json.Record.named p.fields).required "status" .uint16).bind (fun status =>
    ((Json.Record.named p.fields).nullable "parameter" .string).bind fun parameter =>
      .ok ⟨p.typeUrl, p.title, status.toNat, p.detail, p.instancePath, p.code, parameter⟩) = .ok p
  rw [hstatus, hparameter]
  show Except.ok { p with status := (UInt16.ofNat p.status).toNat } = .ok p
  rw [UInt16.toNat_ofNat_of_lt' h]

/-- A problem has a code, and the type of that code. -/
structure IsCoded (p : Problem) : Prop where
  code : p.code ≠ ""
  typeUrl : p.typeUrl = typeBase ++ "/" ++ p.code

theorem isCoded_withCode (p : Problem) {code : String} (h : code ≠ "") :
    (p.withCode code).IsCoded :=
  ⟨h, rfl⟩

theorem IsCoded.withInstance (h : p.IsCoded) (path : String) : (p.withInstance path).IsCoded :=
  ⟨h.code, h.typeUrl⟩

theorem IsCoded.withParameter (h : p.IsCoded) (name : String) : (p.withParameter name).IsCoded :=
  ⟨h.code, h.typeUrl⟩

end Problem

/-! ## Responses -/

/-- The problem that a client reads in the body of a response. -/
def Response.problem? (r : Response) : Option Problem :=
  (Json.parse? r.body).bind fun body => (Problem.decode body).toOption

/-- A response is of the kind of problems, and its body is the problem of its status. -/
structure Response.Carries (r : Response) (p : Problem) : Prop where
  contentType : r.contentType = some "application/problem+json"
  problem : r.problem? = some p
  status : p.status = r.status

theorem Problem.carries_toResponse {p : Problem} (h : isStatus p.status = true) :
    p.toResponse.Carries p := by
  have hrange : 100 ≤ p.status ∧ p.status ≤ 999 := by
    simpa [isStatus] using h
  have hstatus : p.toResponse.status = p.status := if_pos h
  have hparse : Json.parse? p.toResponse.body = some p.toJson :=
    (Json.parse?_render (fits_toJson (by omega))).trans (congrArg some p.finite_toJson)
  refine ⟨rfl, ?_, hstatus.symm⟩
  rw [Response.problem?, hparse, Option.bind_some, decode_toJson (by omega)]
  rfl

end Catalog
