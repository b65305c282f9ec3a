import SpatialQuery.Proofs.Scalar.Normalization

namespace SpatialQuery

open SpatialQuery.Geometry (Kind)

namespace Value

/-- The serialized form of what a conversion gives. -/
def serializedOf (w : Option Value) : Option Value := w.map fun w => .json w.serialized

/-- Whether a value is a JSON object, which passes for serialized already. -/
def isObject : Value → Bool
  | .json (.object _) => true
  | _ => false

theorem isObject_eq_true {v : Value} (h : v.isObject = true) : ∃ members, v = .json (.object members) := by
  unfold isObject at h
  split at h
  · exact ⟨_, rfl⟩
  · cases h

/-- A normal form is a geometry, or its own serialized form. -/
theorem Normalizes.serialized_cases {v w : Value} (h : Normalizes v w) :
    (∃ g, w = .geometry g) ∨ (w.isObject = false ∧ w = .json w.serialized) := by
  cases h with
  | geometry g => exact .inl ⟨g, rfl⟩
  | object => exact .inl ⟨_, rfl⟩
  | boolean | int | float | string | id => exact .inr ⟨rfl, rfl⟩

/-- The serialized form of a geometry has no other normal form than the geometry. -/
theorem Normalizes.eq_geometry {g : Geometry} {w : Value} (h : Normalizes (.json g.toJson) w) :
    w = .geometry g := by
  rw [Geometry.toJson_eq_object] at h
  cases h with
  | @object _ g' h =>
    have same : g.kind = g'.kind := Kind.name_injective
      (GeometryInput.kind_eq_of_geometryOfMembers (GeometryInput.typeOfMembers_members g) h)
    rw [← same, GeometryInput.geometryOfMembers_members] at h
    cases h
    rfl

end Value

namespace Scalar.Known

variable {s : Scalar} {v w : Value}

/-- Apart from objects, the instances of a known type are the values that it deserializes. -/
theorem isInstance_eq (h : Known s) (hv : v.isNull = false) (ho : v.isObject = false) :
    s.isInstance (some (.value v)) = .ok (s.deserialize (some v)).isConclusive := by
  induction h using induction with
  | primitive p =>
    rw [p.deserialize_present hv, Coerced.isConclusive_map, p.isConclusive_normalize]
    change Except.ok (v.isNull || _) = _
    rw [hv, Bool.false_or]
  | geometry kind =>
    rw [GeometryInput.deserialize_present kind hv, Coerced.isConclusive_map]
    cases v with
    | json j =>
      cases j with
      | null => cases hv
      | object members => cases ho
      | bool | number | string | array => rfl
    | list items => rfl
    | geometry g =>
      by_cases same : g.kind = kind <;> simp [GeometryInput.scalar, GeometryInput.isInstance,
        requireInstance, GeometryInput.geometryOf, same, cannotRepresent, bind, Except.bind, pure,
        Except.pure]
  | composite composite known hk ih =>
    rw [composite.deserialize_present hv, Composite.offer, Composite.isConclusive_firstAccepting rfl]
    exact Outcome.anyM_eq_ok ih

end Scalar.Known

namespace Primitive

theorem serialize_eq_deserialize (p : Primitive) : p.scalar.serialize = p.scalar.deserialize := rfl

end Primitive

namespace GeometryInput

theorem serialize_present (kind : Kind) {v : Value} (hv : v.isNull = false) (ho : v.isObject = false) :
    (scalar kind).serialize (some v) = (geometryOf kind v).map fun g => some (.json g.toJson) := by
  simp only [scalar, serialize, Scalar.present_eq_self hv]
  cases v with
  | geometry g => rw [map_geometryOf_geometry]
  | list items => rfl
  | json j =>
    cases j with
    | object members => cases ho
    | null | bool | number | string | array => rfl

end GeometryInput

namespace Composite

theorem serialize_present (composite : Composite) {v : Value} (hv : v.isNull = false)
    (ho : v.isObject = false) :
    composite.scalar.serialize (some v) =
      composite.candidates.findM? (·.isInstance (some (.value v))) >>= fun
        | some candidate => candidate.serialize (some v)
        | none => .error (noMatch v.describe) := by
  simp only [scalar, serialize, Scalar.present_eq_self hv]
  split
  · contradiction
  · next h => cases h; cases ho
  · next h => cases h; rfl

end Composite

namespace Scalar.Known

variable {s : Scalar} {v w : Value}

/-- Apart from objects, what a known type serializes is what it deserializes, each in its own form. -/
theorem serialize_cases (h : Known s) (hv : v.isNull = false) (ho : v.isObject = false) :
    ((s.deserialize (some v)).isConclusive = false ∧ ∃ error, s.serialize (some v) = .error error) ∨
      ∃ w, s.deserialize (some v) = .ok (some w) ∧
        s.serialize (some v) = .ok (some (.json w.serialized)) := by
  induction h using induction with
  | primitive p =>
    rw [p.serialize_eq_deserialize, p.deserialize_present hv, Coerced.isConclusive_map]
    rcases p.normalize_cases v with hc | ⟨i, j, _, _, hn⟩
    · obtain ⟨error, he⟩ := Coerced.exists_error hc
      exact .inl ⟨hc, error, by rw [he]; rfl⟩
    · exact .inr ⟨_, by rw [hn]; rfl, by rw [hn]; rfl⟩
  | geometry kind =>
    rw [GeometryInput.serialize_present kind hv ho, GeometryInput.deserialize_present kind hv,
      Coerced.isConclusive_map]
    rcases GeometryInput.geometryOf_cases kind v with hc | ⟨g, hg, _⟩
    · obtain ⟨error, he⟩ := Coerced.exists_error hc
      exact .inl ⟨hc, error, by rw [he]; rfl⟩
    · exact .inr ⟨_, by rw [hg]; rfl, by rw [hg]; rfl⟩
  | composite composite known hk ih =>
    have asked : composite.candidates.findM? (·.isInstance (some (.value v))) =
        .ok (composite.candidates.find? fun c => (c.deserialize (some v)).isConclusive) :=
      Outcome.findM?_eq_ok fun candidate hm => (hk candidate hm).isInstance_eq hv ho
    rw [composite.serialize_present hv ho, asked, composite.deserialize_present hv]
    cases hf : composite.candidates.find? fun c => (c.deserialize (some v)).isConclusive with
    | none =>
      refine .inl ⟨?_, _, rfl⟩
      rw [Composite.offer, Composite.isConclusive_firstAccepting rfl]
      simpa using hf
    | some candidate =>
      have accepts : (candidate.deserialize (some v)).isConclusive = true := by
        simpa using List.find?_some hf
      rcases ih candidate (List.mem_of_find?_eq_some hf) with ⟨hc, _⟩ | ⟨w, hd, hs⟩
      · simp [hc] at accepts
      · exact .inr ⟨w, Composite.firstAccepting_eq_ok_iff.mpr ⟨candidate, hf, hd⟩, hs⟩

/-- A type that takes a geometry reads it again from its serialized form. -/
theorem deserialize_toJson (h : Known s) {g : Geometry}
    (hd : s.deserialize (some (.geometry g)) = .ok (some (.geometry g))) :
    s.deserialize (some (.json g.toJson)) = .ok (some (.geometry g)) := by
  have notNull : (Value.json g.toJson).isNull = false := rfl
  induction h using induction with
  | primitive p =>
    rw [p.deserialize_present rfl] at hd
    obtain ⟨j, hn, _⟩ := Outcome.map_eq_ok_iff.mp hd
    obtain ⟨i, hv, _⟩ := p.normalize_eq_ok_iff.mp hn
    cases hv
  | geometry kind =>
    rcases GeometryInput.geometryOf_cases kind (.geometry g) with hc | ⟨g', _, same, hn⟩
    · rw [GeometryInput.deserialize_present kind rfl] at hd
      rw [← Coerced.isConclusive_map fun g => some (Value.geometry g), hd] at hc
      cases hc
    · cases hn
      rw [GeometryInput.deserialize_present kind notNull, Geometry.toJson_eq_object,
        GeometryInput.geometryOf, ← same, GeometryInput.geometryOfMembers_members]
      rfl
  | composite composite known hk ih =>
    rw [composite.deserialize_present rfl] at hd
    obtain ⟨accepting, hm, ha⟩ := Composite.exists_of_firstAccepting_eq_ok hd
    rw [composite.deserialize_present notNull]
    refine Composite.firstAccepting_eq_ok (fun candidate hc => ?_) ⟨accepting, hm, ih _ hm ha⟩
    rcases deserialize_cases (hk candidate hc) notNull with hr | ⟨w, hw, hn⟩
    · exact .inr hr
    · exact .inl (hn.eq_geometry ▸ hw)

/-- An object passes, or is refused by a type that has no geometries. -/
theorem serialize_object (h : Known s) (members : List (String × Json)) :
    s.serialize (some (.json (.object members))) = .ok (some (.json (.object members))) ∨
      ((∃ error, s.serialize (some (.json (.object members))) = .error error) ∧
        ∀ g, (s.deserialize (some (.geometry g))).isConclusive = false) := by
  induction h using induction with
  | primitive p =>
    exact .inr ⟨Coerced.exists_error (by cases p <;> rfl), fun g => by cases p <;> rfl⟩
  | geometry kind => exact .inl rfl
  | composite composite => exact .inl rfl

/-- What is serialized is JSON, whatever it was. -/
theorem json_of_serialize (h : Known s) (hs : s.serialize (some v) = .ok (some w)) :
    ∃ j, w = .json j := by
  rcases present_cases (some v) with absent | ⟨_, ⟨⟩, present⟩
  · rw [(h.conversions_of_absent absent).2.1] at hs
    cases hs
  · cases ho : v.isObject with
    | true =>
      obtain ⟨members, rfl⟩ := Value.isObject_eq_true ho
      rcases h.serialize_object members with passed | ⟨⟨_, refused⟩, _⟩
      · rw [hs] at passed
        cases passed
        exact ⟨_, rfl⟩
      · rw [hs] at refused
        cases refused
    | false =>
      rcases h.serialize_cases present ho with ⟨_, _, refused⟩ | ⟨normal, _, serialized⟩
      · rw [hs] at refused
        cases refused
      · rw [hs] at serialized
        cases serialized
        exact ⟨_, rfl⟩

/-- What a known type deserializes it serializes to data that stands for the same value, and that is
left as it is when it is serialized again. -/
theorem serialize_of_deserialize (h : Known s) {v w : Option Value} (hd : s.deserialize v = .ok w) :
    s.deserialize w = .ok w ∧ s.serialize w = .ok (Value.serializedOf w) ∧
      s.deserialize (Value.serializedOf w) = .ok w ∧
      s.serialize (Value.serializedOf w) = .ok (Value.serializedOf w) := by
  rcases present_cases v with hv | ⟨x, rfl, hv⟩
  · rw [(h.conversions_of_absent hv).1] at hd
    cases hd
    obtain ⟨hn, hs, _⟩ := h.conversions_of_absent (show present none = none from rfl)
    exact ⟨hn, hs, hn, hs⟩
  · rcases h.deserialize_cases hv with hc | ⟨w, hd', hn⟩
    · simp [hd] at hc
    · rw [hd] at hd'
      cases hd'
      have again := h.deserialize_again hv hd
      have serialized (ho : w.isObject = false) :
          s.serialize (some w) = .ok (Value.serializedOf (some w)) := by
        rcases h.serialize_cases hn.isNull_eq_false ho with ⟨hc, _⟩ | ⟨r, hr, hs⟩
        · simp [again] at hc
        · rw [again] at hr
          cases hr
          exact hs
      rcases hn.serialized_cases with ⟨g, rfl⟩ | ⟨ho, he⟩
      · refine ⟨again, serialized rfl, h.deserialize_toJson again, ?_⟩
        rcases h.serialize_object g.members with hs | ⟨_, hc⟩
        · exact hs
        · simpa [again] using hc g
      · have same : Value.serializedOf (some w) = some w := congrArg some he.symm
        rw [same] at serialized ⊢
        exact ⟨again, serialized ho, again, serialized ho⟩

/-- What was serialized is left as it is when it is serialized again. -/
theorem serialize_again (h : Known s) {v u : Option Value} (hs : s.serialize v = .ok u) :
    s.serialize u = .ok u := by
  rcases present_cases v with hv | ⟨x, rfl, hv⟩
  · rw [(h.conversions_of_absent hv).2.1] at hs
    cases hs
    exact (h.conversions_of_absent (show present none = none from rfl)).2.1
  · cases ho : x.isObject with
    | true =>
      obtain ⟨members, rfl⟩ := Value.isObject_eq_true ho
      rcases h.serialize_object members with hp | ⟨⟨error, he⟩, _⟩
      · rw [hs] at hp
        cases hp
        exact hs
      · rw [hs] at he
        cases he
    | false =>
      rcases h.serialize_cases hv ho with ⟨_, error, he⟩ | ⟨w, hd, hw⟩
      · rw [hs] at he
        cases he
      · rw [hs] at hw
        cases hw
        exact (h.serialize_of_deserialize hd).2.2.2

theorem parseResult_serializedOf (h : Known s) {v w : Option Value} (hd : s.deserialize v = .ok w) :
    s.parseResult (Value.serializedOf w) = s.parseResult v := by
  rw [h.parseResult_eq_parseValue, h.parseResult_eq_parseValue, h.parseValue_eq_map,
    h.parseValue_eq_map, (h.serialize_of_deserialize hd).2.2.1, hd]

end Scalar.Known
end SpatialQuery
