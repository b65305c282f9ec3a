import SpatialQuery.Proofs.Geometry.Written
import SpatialQuery.Proofs.Scalar.Search
import SpatialQuery.Proofs.Scalar.Standard

/-! Each known type either refuses a value as bad data or gives one of its normal forms, and a normal form
stays as it is, or is the value itself. -/
namespace SpatialQuery

open SpatialQuery.Geometry (Kind)

namespace Value

/-- The literal of a runtime value. -/
def literal : Value → Literal
  | .json (.bool b) => .boolean b
  | .json (.number (.float x)) => .float (.finite x)
  | .json (.number n) => .int (n.int64?.getD 0)
  | .json (.string s) => .string s
  | .geometry g => g.toLiteral
  | _ => .null

/-- The literal of what a conversion gives; null stands for absence. -/
def literalOf : Option Value → Literal
  | some w => w.literal
  | none => .null

/-- The serialized form of a runtime value. -/
def serialized : Value → Json
  | .json j => j
  | .geometry g => g.toJson
  | .list _ => .null

/-- The forms that conversions bring a value into, each by the type that has it. -/
inductive Normalizes : Value → Value → Prop where
  | boolean (b : Bool) : Normalizes (.json (.bool b)) (.json (.bool b))
  | int {j : Json.Number} {n : Int64} (h : j.int64? = some n) :
    Normalizes (.json (.number j)) (.json (.number j))
  | float {j : Json.Number} {x : Binary64.Finite} (h : j.toBinary64 = .finite x) :
    Normalizes (.json (.number j)) (.json (.number (.float x)))
  | string (s : String) : Normalizes (.json (.string s)) (.json (.string s))
  | id {j : Json.Number} {n : Int64} (h : j.int64? = some n) :
    Normalizes (.json (.number j)) (.json (.string (String.ofList (Decimal.ofInt n.toInt))))
  | geometry (g : Geometry) : Normalizes (.geometry g) (.geometry g)
  | object {members : List (String × Json)} {g : Geometry}
    (h : GeometryInput.geometryOfMembers g.kind members = .ok g) :
    Normalizes (.json (.object members)) (.geometry g)

/-- Only an integer that is its own normal form may have another one. -/
theorem Normalizes.again {v w r : Value} (h : Normalizes v w) (hr : Normalizes w r) :
    v = w ∨ r = w := by
  cases h with
  | boolean | string | id | geometry | object => cases hr; exact .inr rfl
  | int => exact .inl rfl
  | float =>
    cases hr with
    | int h => cases h
    | float h => cases h; exact .inr rfl
    | id h => cases h

theorem Normalizes.isNull_eq_false {v w : Value} (h : Normalizes v w) : w.isNull = false := by
  cases h <;> rfl

end Value

theorem Json.Number.eq_ofInt64 {j : Json.Number} {n : Int64} (h : j.int64? = some n) :
    j = .ofInt64 n := by
  cases j with
  | float x => cases h
  | integer value lower upper =>
    simp only [Json.Number.int64?, Option.ite_none_right_eq_some, Option.some.injEq] at h
    obtain ⟨fits, rfl⟩ := h
    simp [Json.Number.ofInt64, Int64.toInt_ofInt_of_le lower fits]

namespace Primitive

theorem int32?_eq_some {n : Int64} {j : Json} (h : int32? n = some j) :
    j = .number (.ofInt64 n) := by
  simp only [int32?, Option.ite_none_right_eq_some, Option.some.injEq] at h
  exact h.2.symm

theorem finite?_eq_some {x : Binary64} {j : Json} (h : finite? x = some j) :
    ∃ y, x = .finite y ∧ j = .number (.float y) := by
  cases x <;> simp [finite?, Binary64.finite?] at h
  exact ⟨_, rfl, h.symm⟩

/-- What each primitive type accepts, with the normal form that it brings it into. -/
inductive Forms : Primitive → Json → Json → Prop where
  | boolean (b : Bool) : Forms .boolean (.bool b) (.bool b)
  | int {n : Int64} (h : int32? n = some (.number (.ofInt64 n))) :
    Forms .int (.number (.ofInt64 n)) (.number (.ofInt64 n))
  | float {j : Json.Number} {x : Binary64.Finite} (h : j.toBinary64 = .finite x) :
    Forms .float (.number j) (.number (.float x))
  | string (s : String) : Forms .string (.string s) (.string s)
  | idString (s : String) : Forms .id (.string s) (.string s)
  | idInt (n : Int64) : Forms .id (.number (.ofInt64 n)) (idOfInt n)

theorem forms_of_ofJson? {p : Primitive} {j r : Json} (h : p.ofJson? j = some r) : Forms p j r := by
  -- What is left are the shapes that each type takes, in the order of the types.
  cases p <;> cases j <;> simp only [ofJson?, reduceCtorEq, Option.some.injEq] at h
  · subst h
    exact .boolean _
  · obtain ⟨n, hn, h⟩ := Option.bind_eq_some_iff.mp h
    have hr := int32?_eq_some h
    subst hr
    rw [Json.Number.eq_ofInt64 hn]
    exact .int h
  · obtain ⟨x, hx, rfl⟩ := finite?_eq_some h
    exact .float hx
  · subst h
    exact .string _
  · obtain ⟨n, hn, rfl⟩ := Option.map_eq_some_iff.mp h
    rw [Json.Number.eq_ofInt64 hn]
    exact .idInt n
  · subst h
    exact .idString _

variable {p : Primitive} {j r : Json}

/-- What a primitive type accepts it brings into a normal form. -/
theorem normalizes_of_ofJson? (h : p.ofJson? j = some r) : Value.Normalizes (.json j) (.json r) := by
  cases forms_of_ofJson? h with
  | boolean b => exact .boolean b
  | @int n => exact .int (Json.Number.int64?_ofInt64 n)
  | float hx => exact .float hx
  | string s | idString s => exact .string s
  | idInt n => exact .id (Json.Number.int64?_ofInt64 n)

/-- A primitive type keeps its own normal forms as they are. -/
theorem ofJson?_of_ofJson? (h : p.ofJson? j = some r) : p.ofJson? r = some r := by
  cases forms_of_ofJson? h with
  | int => exact h
  | boolean | float | string | idString | idInt => rfl

theorem toLiteral_of_ofJson? (h : p.ofJson? j = some r) : p.toLiteral r = (Value.json r).literal := by
  cases forms_of_ofJson? h <;> rfl

end Primitive

namespace Scalar

theorem present_eq_self {v : Value} (hv : v.isNull = false) : present (some v) = some v := by
  simp [present, hv]

theorem present_cases (v : Option Value) : present v = none ∨ ∃ x, v = some x ∧ x.isNull = false := by
  cases v with
  | none => exact .inl rfl
  | some x =>
    cases h : x.isNull with
    | true => exact .inl (by simp [present, h])
    | false => exact .inr ⟨x, rfl, h⟩

end Scalar

namespace Primitive

variable (p : Primitive) {v : Value}

theorem deserialize_present (hv : v.isNull = false) :
    p.scalar.deserialize (some v) = (p.normalize v).map fun j => some (.json j) := by
  simp only [scalar, coerce, Scalar.present_eq_self hv, Outcome.bind_pure_eq_map]

theorem parseValue_present (hv : v.isNull = false) :
    p.scalar.parseValue (some v) = (p.normalize v).map p.toLiteral := by
  simp only [scalar, literalOf, Scalar.present_eq_self hv, Outcome.bind_pure_eq_map]

theorem normalize_eq_ok_iff {j : Json} :
    p.normalize v = .ok j ↔ ∃ i, v = .json i ∧ p.ofJson? i = some j := by
  cases v with
  | json i =>
    simp only [normalize, Value.json?, Option.bind_eq_bind, Option.bind_some, Value.json.injEq]
    cases h : p.ofJson? i <;> simp [h]
  | geometry g => simp [normalize, Value.json?]
  | list items => simp [normalize, Value.json?]

/-- A value is brought into the normal form of its JSON, or refused as bad data. -/
theorem normalize_cases (v : Value) : Coerced.isConclusive (p.normalize v) = false ∨
    ∃ i j, v = .json i ∧ p.ofJson? i = some j ∧ p.normalize v = .ok j := by
  cases h : p.normalize v with
  | ok j =>
    obtain ⟨i, hv, hi⟩ := p.normalize_eq_ok_iff.mp h
    exact .inr ⟨i, j, hv, hi, rfl⟩
  | error error =>
    rw [normalize] at h
    split at h
    · cases h
    · cases h
      exact .inl rfl

theorem isConclusive_normalize : Coerced.isConclusive (p.normalize v) = (v.json? >>= p.ofJson?).isSome := by
  rw [normalize]
  cases v.json? >>= p.ofJson? <;> rfl

end Primitive

namespace GeometryInput

variable (kind : Kind) {v : Value}

/-- The geometry of the kind that a value is or describes. -/
def geometryOf (kind : Kind) : Value → Coerced Geometry
  | .geometry g =>
    if g.kind = kind then .ok g else .error (Scalar.cannotRepresent kind.inputTypeName (.geometry g))
  | .json (.object members) => (geometryOfMembers kind members).mapError (dataError kind)
  | other => .error (Scalar.cannotRepresent kind.inputTypeName other)

/-- A geometry is taken as it is or not at all, whatever is then made of it. -/
theorem map_geometryOf_geometry {α : Type} (kind : Kind) (g : Geometry) (f : Geometry → α) :
    (geometryOf kind (.geometry g)).map f = if g.kind = kind then .ok (f g)
      else .error (Scalar.cannotRepresent kind.inputTypeName (.geometry g)) := by
  rw [geometryOf]
  split <;> rfl

theorem deserialize_present (hv : v.isNull = false) :
    (scalar kind).deserialize (some v) = (geometryOf kind v).map fun g => some (.geometry g) := by
  simp only [scalar, deserialize, Scalar.present_eq_self hv]
  cases v with
  | geometry g => rw [map_geometryOf_geometry]
  | list items => rfl
  | json j =>
    cases j with
    | object members => exact Outcome.bind_pure_eq_map _ _
    | null | bool | number | string | array => rfl

theorem parseValue_present (hv : v.isNull = false) :
    (scalar kind).parseValue (some v) = (geometryOf kind v).map Geometry.toLiteral := by
  simp only [scalar, literalOf, Scalar.present_eq_self hv]
  cases v with
  | geometry g => rw [map_geometryOf_geometry]
  | list items => rfl
  | json j =>
    cases j with
    | object members => exact Outcome.bind_pure_eq_map _ _
    | null | bool | number | string | array => rfl

theorem isConclusive_mapError {α : Type} (x : Except Flaw α) :
    Coerced.isConclusive (x.mapError (dataError kind)) = x.isOk := by
  cases x <;> rfl

theorem parseLiteral_object (fields : List (String × Literal)) :
    parseLiteral kind (.object fields) =
      ((geometryOfLiteral kind (.object fields)).mapError (dataError kind)).map
        fun g => some (.geometry g) :=
  Outcome.bind_pure_eq_map _ _

/-- A value is read as a geometry of a kind, or refused as bad data. -/
theorem geometryOf_cases (v : Value) : Coerced.isConclusive (geometryOf kind v) = false ∨
    ∃ g, geometryOf kind v = .ok g ∧ g.kind = kind ∧ Value.Normalizes v (.geometry g) := by
  unfold geometryOf
  split
  · next g =>
    split
    · next same => exact .inr ⟨g, rfl, same, .geometry g⟩
    · exact .inl rfl
  · next members =>
    cases h : geometryOfMembers kind members with
    | error flaw => exact .inl rfl
    | ok g =>
      have same : g.kind = kind := kind_of_assemble h
      exact .inr ⟨g, rfl, same, .object (same ▸ h)⟩
  · exact .inl rfl

end GeometryInput

namespace Composite

variable (composite : Composite) {v : Value}

theorem deserialize_present (hv : v.isNull = false) :
    composite.scalar.deserialize (some v) = composite.offer Scalar.deserialize v := by
  simp only [scalar, deserialize, Scalar.present_eq_self hv]

theorem parseValue_present (hv : v.isNull = false) :
    composite.scalar.parseValue (some v) = composite.offer Scalar.parseValue v := by
  simp only [scalar, parseValue, Scalar.present_eq_self hv]

theorem parseResult_present (hv : v.isNull = false) :
    composite.scalar.parseResult (some v) = composite.offer Scalar.parseResult v := by
  simp only [scalar, parseResult, Scalar.present_eq_self hv]

/-- An offer is refused, or has the outcome of a candidate that is conclusive. -/
theorem offer_cases {α : Type} (attempt : Scalar → Option Value → Coerced α) (v : Value) :
    (composite.offer attempt v).isConclusive = false ∨
      ∃ candidate ∈ composite.candidates, (attempt candidate (some v)).isConclusive = true ∧
        composite.offer attempt v = attempt candidate (some v) :=
  firstAccepting_cases rfl

end Composite

namespace Scalar.Known

variable {s : Scalar} {v w : Value}

/-- A known type brings a value into a normal form, or refuses it as bad data. -/
theorem deserialize_cases (h : Known s) (hv : v.isNull = false) :
    (s.deserialize (some v)).isConclusive = false ∨
      ∃ w, s.deserialize (some v) = .ok (some w) ∧ Value.Normalizes v w := by
  induction h using induction with
  | primitive p =>
    rw [p.deserialize_present hv, Coerced.isConclusive_map]
    rcases p.normalize_cases v with hc | ⟨i, j, rfl, hi, hn⟩
    · exact .inl hc
    · exact .inr ⟨_, by rw [hn]; rfl, Primitive.normalizes_of_ofJson? hi⟩
  | geometry kind =>
    rw [GeometryInput.deserialize_present kind hv, Coerced.isConclusive_map]
    rcases GeometryInput.geometryOf_cases kind v with hc | ⟨g, hg, _, hn⟩
    · exact .inl hc
    · exact .inr ⟨_, by rw [hg]; rfl, hn⟩
  | composite composite known hk ih =>
    rw [composite.deserialize_present hv]
    rcases composite.offer_cases Scalar.deserialize v with hc | ⟨candidate, hm, hc, he⟩
    · exact .inl hc
    · exact .inr (he ▸ (ih candidate hm).resolve_left (by simp [hc]))

/-- A known type keeps the normal forms that it brings values into. -/
theorem deserialize_again (h : Known s) (hv : v.isNull = false)
    (hd : s.deserialize (some v) = .ok (some w)) : s.deserialize (some w) = .ok (some w) := by
  induction h using induction with
  | primitive p =>
    rw [p.deserialize_present hv] at hd
    obtain ⟨j, hn, hj⟩ := Outcome.map_eq_ok_iff.mp hd
    obtain ⟨i, rfl, hi⟩ := p.normalize_eq_ok_iff.mp hn
    cases hj
    have hr := Primitive.ofJson?_of_ofJson? hi
    rw [p.deserialize_present (Primitive.normalizes_of_ofJson? hi).isNull_eq_false,
      p.normalize_eq_ok_iff.mpr ⟨j, rfl, hr⟩]
    rfl
  | geometry kind =>
    rw [GeometryInput.deserialize_present kind hv] at hd
    obtain ⟨g, hg, hw⟩ := Outcome.map_eq_ok_iff.mp hd
    cases hw
    rcases GeometryInput.geometryOf_cases kind v with hc | ⟨g', hg', same, _⟩
    · simp [hg] at hc
    · rw [hg] at hg'
      cases hg'
      rw [GeometryInput.deserialize_present kind rfl, GeometryInput.geometryOf, if_pos same]
      rfl
  | composite composite known hk ih =>
    -- A candidate before the accepting one may take the normal form of what it refused, but then it
    -- leaves it as it is.
    by_cases changed : v = w
    · exact changed ▸ hd
    rcases deserialize_cases known hv with hc | ⟨_, hw', hn⟩
    · simp [hd] at hc
    · rw [hd] at hw'
      cases hw'
      have hw := hn.isNull_eq_false
      rw [composite.deserialize_present hv] at hd
      obtain ⟨accepting, hm, ha⟩ := Composite.exists_of_firstAccepting_eq_ok hd
      rw [composite.deserialize_present hw]
      refine Composite.firstAccepting_eq_ok (fun candidate hc => ?_) ⟨accepting, hm, ih _ hm ha⟩
      rcases deserialize_cases (hk candidate hc) hw with hr | ⟨r, hr, hwr⟩
      · exact .inr hr
      · exact .inl ((hn.again hwr).resolve_left changed ▸ hr)

/-- Absence in, absence out. -/
theorem conversions_of_absent (h : Known s) {v : Option Value} (hv : present v = none) :
    s.deserialize v = .ok none ∧ s.serialize v = .ok none ∧ s.parseValue v = .ok .null := by
  induction h using induction with
  | primitive p => simp [Primitive.scalar, Primitive.coerce, Primitive.literalOf, hv]
  | geometry kind =>
    simp [GeometryInput.scalar, GeometryInput.deserialize, GeometryInput.serialize,
      GeometryInput.literalOf, hv]
  | composite composite =>
    simp [Composite.scalar, Composite.deserialize, Composite.serialize, Composite.parseValue, hv]

/-- Whatever a known type deserializes to is a normal form. -/
theorem normalizes_of_deserialize (h : Known s) (hd : s.deserialize (some v) = .ok (some w)) :
    Value.Normalizes v w := by
  rcases present_cases (some v) with absent | ⟨_, ⟨⟩, present⟩
  · rw [(h.conversions_of_absent absent).1] at hd
    cases hd
  · rcases h.deserialize_cases present with refused | ⟨normal, hn, normalizes⟩
    · rw [hd] at refused
      cases refused
    · rw [hd] at hn
      cases hn
      exact normalizes

theorem parseResult_eq_parseValue (h : Known s) (v : Option Value) :
    s.parseResult v = s.parseValue v := by
  induction h using induction with
  | primitive p => rfl
  | geometry kind => rfl
  | composite composite known hk ih =>
    rcases present_cases v with hv | ⟨x, rfl, hv⟩
    · simp [Composite.scalar, Composite.parseValue, Composite.parseResult, hv]
    · rw [composite.parseResult_present hv, composite.parseValue_present hv]
      exact Composite.firstAccepting_rel (r := Eq) (fun _ _ => congrArg _) ih rfl

/-- The literal of a value is that of its normal form, and it is refused with it. -/
theorem parseValue_eq_map (h : Known s) (v : Option Value) :
    s.parseValue v = (s.deserialize v).map Value.literalOf := by
  rcases present_cases v with hv | ⟨x, rfl, hv⟩
  · obtain ⟨hd, _, hp⟩ := h.conversions_of_absent hv
    rw [hd, hp]
    rfl
  · induction h using induction with
    | primitive p =>
      rw [p.parseValue_present hv, p.deserialize_present hv]
      cases hn : p.normalize x with
      | error error => rfl
      | ok j =>
        obtain ⟨i, rfl, hi⟩ := p.normalize_eq_ok_iff.mp hn
        exact congrArg Except.ok (Primitive.toLiteral_of_ofJson? hi)
    | geometry kind =>
      rw [GeometryInput.parseValue_present kind hv, GeometryInput.deserialize_present kind hv]
      cases GeometryInput.geometryOf kind x <;> rfl
    | composite composite known hk ih =>
      rw [composite.parseValue_present hv, composite.deserialize_present hv]
      exact Composite.firstAccepting_map Value.literalOf ih

end Scalar.Known
end SpatialQuery
