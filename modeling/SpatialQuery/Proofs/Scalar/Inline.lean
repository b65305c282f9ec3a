import SpatialQuery.Proofs.Geometry.Payload
import SpatialQuery.Proofs.Scalar.Normalization

namespace SpatialQuery

open SpatialQuery.Geometry (Kind)
open SpatialQuery.Literal (Regular payloadMembers)

/-- Outcomes that are equal successes, or refusals of bad data for one type. -/
inductive Coerced.Alike {α : Type} : Coerced α → Coerced α → Prop where
  | ok (result : α) : Alike (.ok result) (.ok result)
  | data (typeName message message' : String) :
    Alike (.error (.data typeName message)) (.error (.data typeName message'))

namespace Coerced.Alike

variable {α β : Type} {x y : Coerced α}

theorem ok_iff (h : Alike x y) (result : α) : x = .ok result ↔ y = .ok result := by
  cases h with
  | ok => exact Iff.rfl
  | data => exact ⟨nofun, nofun⟩

theorem isConclusive_eq (h : Alike x y) : x.isConclusive = y.isConclusive := by
  cases h <;> rfl

theorem errors (h : Alike x y) {error error' : CoercionError} (hx : x = .error error)
    (hy : y = .error error') :
    error.isData = true ∧ error'.isData = true ∧ error.typeName = error'.typeName := by
  cases h with
  | ok => cases hx
  | data =>
    cases hx
    cases hy
    exact ⟨rfl, rfl, rfl⟩

end Coerced.Alike

namespace Primitive

variable {p : Primitive} {literal : Literal}

/-- Only an enum value has another normal form as a literal than as data, for the types with strings. -/
theorem ofJson?_payload (h : literal.Regular) (hn : literal.isNull = false)
    (he : literal.kind = .enum → p ≠ .string ∧ p ≠ .id) :
    p.ofJson? literal.payload = p.ofLiteral? literal := by
  cases h with
  | null => cases hn
  | int n =>
    have integer : (Json.Number.ofInt64 n).int64? = some n := Json.Number.int64?_ofInt64 n
    cases p with
    | int | id => simp only [ofJson?, ofLiteral?, Literal.payload, integer]; rfl
    | boolean | float | string => rfl
  | enum name =>
    obtain ⟨hs, hi⟩ := he rfl
    cases p with
    | string => cases hs rfl
    | id => cases hi rfl
    | boolean | int | float => rfl
  | float | string | boolean | list | object => cases p <;> rfl

theorem parseLiteral_payload (h : literal.Regular)
    (he : literal.kind = .enum → p ≠ .string ∧ p ≠ .id) :
    Coerced.Alike (p.scalar.parseLiteral literal)
      (p.scalar.deserialize (some (.json literal.payload))) := by
  cases hn : literal.isNull with
  | true =>
    rw [(Literal.isNull_iff literal).mp hn]
    exact .ok none
  | false =>
    have hj : (Value.json literal.payload).isNull = false := h.isNull_payload.trans hn
    have parsed : p.scalar.parseLiteral literal = p.parseLiteral literal := rfl
    have given : (Value.json literal.payload).json? >>= p.ofJson? = p.ofLiteral? literal :=
      ofJson?_payload h hn he
    rw [p.deserialize_present hj, parsed, normalize, given, parseLiteral, hn, if_neg Bool.false_ne_true]
    cases p.ofLiteral? literal with
    | none => exact .data _ _ _
    | some json => exact .ok _

end Primitive

namespace GeometryInput

/-- A literal that is no object, and not null, is refused, and so is its data. -/
theorem parseLiteral_payload_of_not_object {kind : Kind} {literal : Literal} (h : literal.Regular)
    (ho : literal.kind ≠ .object) (result : Option Value) :
    (scalar kind).parseLiteral literal = .ok result ↔
      (scalar kind).deserialize (some (.json literal.payload)) = .ok result := by
  cases h with
  | null => exact Iff.rfl
  | object => cases ho rfl
  | int | float | string | boolean | enum | list => exact ⟨nofun, nofun⟩

theorem parseLiteral_payload_of_object {kind : Kind} {fields : List (String × Literal)}
    (h : Regular (.object fields)) :
    Coerced.Alike ((scalar kind).parseLiteral (.object fields))
      ((scalar kind).deserialize (some (.json (.object (payloadMembers [] fields))))) := by
  rw [deserialize_present kind rfl, geometryOf]
  change Coerced.Alike (parseLiteral kind (.object fields)) _
  rw [parseLiteral_object]
  cases hl : geometryOfLiteral kind (.object fields) with
  | ok g =>
    rw [(geometryOfMembers_payload_eq_ok_iff h).mpr hl]
    exact .ok _
  | error flaw =>
    cases hm : geometryOfMembers kind (payloadMembers [] fields) with
    | ok g =>
      rw [geometryOfMembers_payload_eq_ok_iff h, hl] at hm
      cases hm
    | error flaw' => exact .data _ _ _

end GeometryInput

namespace Composite

theorem declaredKind_payload {fields : List (String × Literal)} (h : Regular (.object fields)) :
    declaredKind (.json (.object (payloadMembers [] fields))) =
      declaredKindOfLiteral (.object fields) := by
  rcases h.field_cases Geometry.typeField with ⟨hl, hm⟩ | ⟨value, regular, hl, hm⟩
  · simp only [declaredKind, declaredKindOfLiteral, Literal.field?, hl, hm]
    rfl
  · simp only [declaredKind, declaredKindOfLiteral, Literal.field?, hl, hm]
    cases regular <;> rfl

theorem standard_parseLiteral_payload_of_not_object {literal : Literal} (h : literal.Regular)
    (ho : literal.kind ≠ .object) (result : Option Value) :
    standard.scalar.parseLiteral literal = .ok result ↔
      standard.scalar.deserialize (some (.json literal.payload)) = .ok result := by
  cases h with
  | null => exact Iff.rfl
  | object => cases ho rfl
  | int | float | string | boolean | enum | list => exact ⟨nofun, nofun⟩

theorem standard_parseLiteral_payload_of_object {fields : List (String × Literal)}
    (h : Regular (.object fields)) :
    Coerced.Alike (standard.scalar.parseLiteral (.object fields))
      (standard.scalar.deserialize (some (.json (.object (payloadMembers [] fields))))) := by
  have parsed : standard.scalar.parseLiteral (.object fields) =
      firstAccepting (declaredKindOfLiteral (.object fields)) (·.parseLiteral (.object fields))
        (noMatch "object literal") standard.candidates := rfl
  rw [parsed, deserialize_present _ rfl, offer, declaredKind_payload h]
  apply firstAccepting_rel (r := Coerced.Alike)
  · intro x y
    exact Coerced.Alike.isConclusive_eq
  · intro candidate hm
    obtain ⟨kind, rfl⟩ := mem_standard_candidates.mp hm
    exact GeometryInput.parseLiteral_payload_of_object h
  · exact .data _ _ _

end Composite

namespace Registry

variable {name : String} {s : Scalar} {literal : Literal}

theorem parseLiteral_payload_of_object (h : standard.get? name = some s)
    {fields : List (String × Literal)} (regular : Regular (.object fields)) :
    Coerced.Alike (s.parseLiteral (.object fields))
      (s.deserialize (some (.json (.object (payloadMembers [] fields))))) := by
  rcases cases_of_get?_standard h with ⟨p, rfl⟩ | ⟨kind, rfl⟩ | rfl
  · exact Primitive.parseLiteral_payload regular nofun
  · exact GeometryInput.parseLiteral_payload_of_object regular
  · exact Composite.standard_parseLiteral_payload_of_object regular

/-- The types that take an enum value as data, namely as a string, but not as a literal. -/
def stringNames : List String := [Primitive.string.name, Primitive.id.name]

theorem parseLiteral_payload_eq_ok_iff (h : standard.get? name = some s) (regular : literal.Regular)
    (he : literal.kind = .enum → name ∉ stringNames) (result : Option Value) :
    s.parseLiteral literal = .ok result ↔
      s.deserialize (some (.json literal.payload)) = .ok result := by
  have named : s.name = name := (get?_standard_eq_some_iff.mp h).2
  by_cases ho : literal.kind = .object
  · obtain ⟨fields, rfl⟩ := Literal.eq_object_of_kind ho
    exact (parseLiteral_payload_of_object h regular).ok_iff result
  · rcases cases_of_get?_standard h with ⟨p, rfl⟩ | ⟨kind, rfl⟩ | rfl
    · apply (Primitive.parseLiteral_payload regular _).ok_iff
      intro hk
      have other : p.name ∉ stringNames := by
        rw [show p.name = name from named]
        exact he hk
      constructor
      · rintro rfl
        exact other (.head _)
      · rintro rfl
        exact other (.tail _ (.head _))
    · exact GeometryInput.parseLiteral_payload_of_not_object regular ho result
    · exact Composite.standard_parseLiteral_payload_of_not_object regular ho result

/-- A literal of finite floats and distinct field names becomes the same value as its data from outside,
or neither becomes one, but for an enum value, which is a string only as data. An object that neither
way takes is bad data for the same type on both. -/
theorem literal_coerces_as_payload (h : standard.get? name = some s) (regular : literal.Regular) :
    ((literal.kind = .enum → name ∉ stringNames) → ∀ result, s.parseLiteral literal = .ok result ↔
      s.deserialize (some (.json literal.payload)) = .ok result) ∧
    (∀ value, literal = .enum value → name ∈ stringNames →
      (∃ error, s.parseLiteral literal = .error error) ∧
        s.deserialize (some (.json literal.payload)) = .ok (some (.json (.string value)))) ∧
    (literal.kind = .object → ∀ error error', s.parseLiteral literal = .error error →
      s.deserialize (some (.json literal.payload)) = .error error' →
        error.isData = true ∧ error'.isData = true ∧ error.typeName = error'.typeName) := by
  refine ⟨parseLiteral_payload_eq_ok_iff h regular, ?_, ?_⟩
  · intro value hl hn
    subst hl
    simp only [stringNames, List.mem_cons, List.not_mem_nil, or_false] at hn
    rcases hn with rfl | rfl
    · cases h.symm.trans (get?_standard_primitive .string)
      exact ⟨⟨_, rfl⟩, rfl⟩
    · cases h.symm.trans (get?_standard_primitive .id)
      exact ⟨⟨_, rfl⟩, rfl⟩
  · intro ho error error' hp hd
    obtain ⟨fields, rfl⟩ := Literal.eq_object_of_kind ho
    exact (parseLiteral_payload_of_object h regular).errors hp hd

/-- A point with an integer and minus zero, an enum value for an identifier, and an object that is no
geometry at all. -/
theorem literal_coerces_as_payload_point :
    (∃ point : Literal, point.kind = .object ∧ ∃ g : Geometry, g.srid = some 4326 ∧
      (GeometryInput.scalar .point).parseLiteral point = .ok (some (.geometry g)) ∧
      (GeometryInput.scalar .point).deserialize (some (.json point.payload)) =
        .ok (some (.geometry g))) ∧
    ((∃ error, Primitive.id.scalar.parseLiteral (.enum "A") = .error error) ∧
      Primitive.id.scalar.deserialize (some (.json (.string "A"))) =
        .ok (some (.json (.string "A")))) ∧
    ∃ error error', Composite.standard.scalar.parseLiteral (.object []) = .error error ∧
      Composite.standard.scalar.deserialize (some (.json (.object []))) = .error error' ∧
      error.isData = true ∧ error'.isData = true ∧ error.typeName = error'.typeName := by
  refine ⟨?_, ?_, ?_⟩
  · let position : Literal := .list [.int 1, .float (.finite ⟨true, 0⟩)]
    let point : Literal := .object [("type", .enum "Point"), ("crs", .int 4326),
      ("coordinates", position)]
    have regular : point.Regular := by
      apply Regular.object (by decide)
      intro field hm
      simp only [List.mem_cons, List.not_mem_nil, or_false] at hm
      rcases hm with rfl | rfl | rfl
      · exact .enum _
      · exact .int _
      · apply Regular.list
        intro item hm
        simp only [List.mem_cons, List.not_mem_nil, or_false] at hm
        rcases hm with rfl | rfl
        · exact .int _
        · exact .float _
    have agree := (literal_coerces_as_payload (get?_standard_geometry .point) regular).1 nofun
    exact ⟨point, rfl, _, rfl, rfl, (agree _).mp rfl⟩
  · exact (literal_coerces_as_payload (get?_standard_primitive .id) (.enum "A")).2.1 _ rfl
      (.tail _ (.head _))
  · have regular : Regular (.object []) := .object .nil nofun
    have agree := (literal_coerces_as_payload get?_standard_composite regular).2.2 rfl
    exact ⟨_, _, rfl, rfl, agree _ _ rfl rfl⟩

end Registry
end SpatialQuery
