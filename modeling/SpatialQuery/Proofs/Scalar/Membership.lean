import SpatialQuery.Proofs.Scalar.Failures

namespace SpatialQuery

/-- Whether a literal is an object. -/
def Literal.isObject : Literal → Bool
  | .object _ => true
  | _ => false

theorem Value.isNull_eq_true {v : Value} (h : v.isNull = true) : v = .json .null := by
  unfold isNull at h
  split at h
  · next j =>
    cases j with
    | null => rfl
    | bool | number | string | array | object => cases h
  · cases h

namespace Scalar

variable {s : Scalar} {v : Value}

/-- A type whose instances are exactly what its conversions take. -/
structure TestsExactly (s : Scalar) : Prop where
  literal : ∀ literal, s.isInstance (some (.literal literal)) = .ok true ↔
    ∃ result, s.parseLiteral literal = .ok result
  serialize : ∀ v, s.isInstance (some (.value v)) = .ok true ↔ ∃ result, s.serialize (some v) = .ok result
  deserialize : ∀ v, s.isInstance (some (.value v)) = .ok true ↔
    ∃ result, s.deserialize (some v) = .ok result

/-- A type to which a literal is no instance exactly if reading it breaks the contract, and a value is
one exactly if it is serialized other than by being left as the object that it is. -/
structure TestsShape (s : Scalar) : Prop where
  literal : ∀ literal, s.isInstance (some (.literal literal)) = .ok false ↔
    ∃ typeName message, s.parseLiteral literal = .error (.contractViolation typeName message)
  parsed : ∀ literal result, s.parseLiteral literal = .ok result →
    s.isInstance (some (.literal literal)) = .ok true
  serialize : ∀ v, (∃ result, s.serialize (some v) = .ok result) ↔
    s.isInstance (some (.value v)) = .ok true ∨ v.isObject = true
  converted : ∀ v, s.isInstance (some (.value v)) = .ok true →
    (∃ result, s.deserialize (some v) = .ok result) ∧ (∃ result, s.parseValue (some v) = .ok result) ∧
      ∃ result, s.serialize (some v) = .ok result

namespace Known

/-- What a known type does not refuse it deserializes. -/
theorem isConclusive_deserialize_iff (h : Known s) (v : Option Value) :
    (s.deserialize v).isConclusive = true ↔ ∃ result, s.deserialize v = .ok result := by
  constructor
  · intro hc
    rcases present_cases v with absent | ⟨x, rfl, present⟩
    · exact ⟨none, (h.conversions_of_absent absent).1⟩
    · rcases h.deserialize_cases present with refused | ⟨w, hw, _⟩
      · rw [hc] at refused
        cases refused
      · exact ⟨_, hw⟩
  · rintro ⟨result, hr⟩
    rw [hr, Coerced.isConclusive_ok]

/-- Apart from null and objects, the instances of a known type are what it deserializes. -/
theorem isInstance_iff_deserialize (h : Known s) (hv : v.isNull = false) (ho : v.isObject = false) :
    s.isInstance (some (.value v)) = .ok true ↔ ∃ result, s.deserialize (some v) = .ok result := by
  rw [h.isInstance_eq hv ho, Except.ok.injEq, h.isConclusive_deserialize_iff]

/-- Apart from null and objects, a known type serializes what it deserializes. -/
theorem serialize_iff_deserialize (h : Known s) (hv : v.isNull = false) (ho : v.isObject = false) :
    (∃ result, s.serialize (some v) = .ok result) ↔ ∃ result, s.deserialize (some v) = .ok result := by
  rcases h.serialize_cases hv ho with ⟨refused, error, failed⟩ | ⟨w, hd, hs⟩
  · rw [← h.isConclusive_deserialize_iff, refused, failed]
    simp
  · rw [hd, hs]
    simp

end Known

/-- To read a literal breaks the contract of a geometry type if its shape is none that the type has. -/
theorem breaksContract_iff {name : String} (hg : NamesGeometry name) {literal : Literal} :
    Call.BreaksContract name (.parseLiteral literal) ↔ (literal.isNull || literal.isObject) = false := by
  constructor
  · rintro (_ | ⟨_, hn, ho⟩)
    cases literal with
    | null => exact absurd rfl hn
    | object fields => exact absurd rfl (ho fields)
    | int | float | string | boolean | enum | list => rfl
  · intro other
    refine .literal hg ?_ ?_
    · rintro rfl
      cases other
    · rintro fields rfl
      cases other

/-- How a geometry type tells its instances: literals by their shape, and of JSON null but no object,
which it leaves as it is when it serializes one. -/
structure LooksAtShape (s : Scalar) : Prop where
  literal : ∀ literal, s.isInstance (some (.literal literal)) = .ok (literal.isNull || literal.isObject)
  null : s.isInstance (some (.value (.json .null))) = .ok true
  object : ∀ members, s.isInstance (some (.value (.json (.object members)))) = .ok false
  passes : ∀ members, s.serialize (some (.json (.object members))) = .ok (some (.json (.object members)))

/-- Apart from the two shapes that the test has a case of its own for, it is the one of all known types. -/
theorem LooksAtShape.testsShape (look : LooksAtShape s) (h : Known s) (hg : NamesGeometry s.name)
    (blames : ∀ call, s.Blames call) : s.TestsShape := by
  have literal (literal : Literal) : s.isInstance (some (.literal literal)) = .ok false ↔
      ∃ typeName message, s.parseLiteral literal = .error (.contractViolation typeName message) := by
    have broken := (blames (.parseLiteral literal)).violation_iff
    simp only [failure?, Coerced.failure?_eq_some_iff, breaksContract_iff hg] at broken
    rw [broken, look.literal, Except.ok.injEq]
  have converted (v : Value) (hi : s.isInstance (some (.value v)) = .ok true) :
      (∃ result, s.deserialize (some v) = .ok result) ∧
        ∃ result, s.serialize (some v) = .ok result := by
    cases hv : v.isNull with
    | true =>
      obtain ⟨hd, hs, _⟩ := h.conversions_of_absent (v := some v) (by simp [present, hv])
      exact ⟨⟨_, hd⟩, _, hs⟩
    | false =>
      cases ho : v.isObject with
      | true =>
        obtain ⟨members, rfl⟩ := Value.isObject_eq_true ho
        rw [look.object] at hi
        cases hi
      | false =>
        have hd := (h.isInstance_iff_deserialize hv ho).mp hi
        exact ⟨hd, (h.serialize_iff_deserialize hv ho).mpr hd⟩
  refine ⟨literal, ?_, ?_, ?_⟩
  case refine_1 =>
    intro l result parsed
    rw [look.literal, Except.ok.injEq, ← Bool.not_eq_false]
    intro other
    obtain ⟨_, _, failed⟩ := (literal l).mp (by rw [look.literal, other])
    rw [parsed] at failed
    cases failed
  case refine_2 =>
    intro v
    constructor
    · intro serialized
      cases hv : v.isNull with
      | true =>
        rw [Value.isNull_eq_true hv]
        exact .inl look.null
      | false =>
        cases ho : v.isObject with
        | true => exact .inr rfl
        | false =>
          have hd := (h.serialize_iff_deserialize hv ho).mp serialized
          exact .inl ((h.isInstance_iff_deserialize hv ho).mpr hd)
    · rintro (hi | ho)
      · exact (converted v hi).2
      · obtain ⟨members, rfl⟩ := Value.isObject_eq_true ho
        exact ⟨_, look.passes members⟩
  case refine_3 =>
    intro v hi
    obtain ⟨hd, hs⟩ := converted v hi
    refine ⟨hd, ?_, hs⟩
    obtain ⟨w, hw⟩ := hd
    rw [h.parseValue_eq_map, hw]
    exact ⟨_, rfl⟩

end Scalar

namespace Primitive

variable (p : Primitive)

theorem testsExactly : p.scalar.TestsExactly := by
  have literal (literal : Literal) : p.scalar.isInstance (some (.literal literal)) = .ok true ↔
      ∃ result, p.scalar.parseLiteral literal = .ok result := by
    change Except.ok (literal.isNull || (p.ofLiteral? literal).isSome) = _ ↔
      ∃ result, p.parseLiteral literal = .ok result
    rw [parseLiteral]
    cases literal.isNull <;> cases p.ofLiteral? literal <;> simp
  have deserialize (v : Value) : p.scalar.isInstance (some (.value v)) = .ok true ↔
      ∃ result, p.scalar.deserialize (some v) = .ok result := by
    rw [← (Scalar.Known.primitive p).isConclusive_deserialize_iff]
    change Except.ok (v.isNull || (v.json? >>= p.ofJson?).isSome) = _ ↔ _
    cases hv : v.isNull with
    | true =>
      rw [((Scalar.Known.primitive p).conversions_of_absent (v := some v)
        (by simp [Scalar.present, hv])).1]
      simp
    | false =>
      rw [p.deserialize_present hv, Coerced.isConclusive_map, p.isConclusive_normalize,
        Except.ok.injEq, Bool.false_or]
  exact ⟨literal, p.serialize_eq_deserialize ▸ deserialize, deserialize⟩

end Primitive

theorem GeometryInput.testsShape (kind : Geometry.Kind) : (scalar kind).TestsShape := by
  have look : (scalar kind).LooksAtShape := by
    refine ⟨?_, rfl, fun _ => rfl, fun _ => rfl⟩
    intro literal
    cases literal <;> rfl
  exact look.testsShape (.geometry kind) (.inr ⟨kind, rfl⟩) (blames kind)

theorem Composite.standard_testsShape : standard.scalar.TestsShape := by
  have look : standard.scalar.LooksAtShape := by
    refine ⟨?_, rfl, fun _ => rfl, fun _ => rfl⟩
    intro literal
    cases literal <;> rfl
  exact look.testsShape (known_ofKinds Geometry.Kind.all) (.inl rfl) (blames Geometry.Kind.all)

namespace Registry

/-- The test for instances goes with the conversions of each standard type. To a primitive type a
literal is an instance exactly if it is parsed, and a value exactly if it is serialized and exactly if
it is deserialized. To a geometry type a literal is none exactly if parsing it breaks the contract, so
that all that is parsed is an instance, a value is serialized exactly if it is an instance or a JSON
object, and an instance goes through all conversions. -/
theorem instances_convert {name : String} {s : Scalar} (h : standard.get? name = some s) :
    (∃ p : Primitive, name = p.name) ∧ s.TestsExactly ∨ Scalar.NamesGeometry name ∧ s.TestsShape := by
  obtain rfl : s.name = name := (get?_standard_eq_some_iff.mp h).2
  rcases cases_of_get?_standard h with ⟨p, rfl⟩ | ⟨kind, rfl⟩ | rfl
  · exact .inl ⟨⟨p, rfl⟩, p.testsExactly⟩
  · exact .inr ⟨.inr ⟨kind, rfl⟩, GeometryInput.testsShape kind⟩
  · exact .inr ⟨.inl rfl, Composite.standard_testsShape⟩

/-- A text that is no number, a list where an object is expected, a polygon that claims to be a point
and a point. -/
theorem instances_convert_point :
    let points : Scalar := GeometryInput.scalar .point
    (standard.get? "Int" = some Primitive.int.scalar ∧
      ¬ ∃ result, Primitive.int.scalar.serialize (some (.json (.string "1"))) = .ok result) ∧
    standard.get? "PointInput" = some points ∧
    (∃ typeName message, points.parseLiteral (.list []) =
      .error (.contractViolation typeName message)) ∧
    (¬ ∃ typeName message, points.parseLiteral (.object [("type", .enum "Polygon")]) =
      .error (.contractViolation typeName message)) ∧
    ∃ g : Geometry, g.srid = some 4326 ∧ points.isInstance (some (.value (.geometry g))) = .ok true ∧
      ∃ result, points.parseValue (some (.geometry g)) = .ok result := by
  intro points
  have int := get?_standard_primitive .int
  have point := get?_standard_geometry .point
  have exactly : Primitive.int.scalar.TestsExactly :=
    ((instances_convert int).resolve_right fun h => Primitive.not_namesGeometry .int h.1).2
  have shape : points.TestsShape :=
    ((instances_convert point).resolve_left fun ⟨⟨p, hp⟩, _⟩ =>
      p.not_namesGeometry (hp ▸ .inr ⟨.point, rfl⟩)).2
  have valid : Geometry.Valid .point (.position ⟨.ofInt 1, .ofInt 2⟩) :=
    Geometry.flaw?_eq_none_iff.mp (by decide)
  refine ⟨⟨int, (exactly.serialize _).not.mp ?text⟩, point, (shape.literal _).mp rfl,
    (shape.literal _).not.mp ?polygon, ⟨.point, _, some 4326, valid⟩, rfl, rfl,
    (shape.converted _ rfl).2.1⟩
  case text => exact nofun
  case polygon => exact nofun

end Registry
end SpatialQuery
