import SpatialQuery.Proofs.Scalar.Normalization

namespace SpatialQuery

open SpatialQuery.Geometry (Kind)

namespace Primitive

/-- The literal of a normal form is parsed to it by the type that has it. -/
theorem parseLiteral_literal {p : Primitive} {j r : Json} (h : p.ofJson? j = some r) :
    p.parseLiteral (Value.json r).literal = .ok (some (.json r)) := by
  cases forms_of_ofJson? h with
  | @int n fits =>
    have literal : (Value.json (.number (.ofInt64 n))).literal = .int n :=
      congrArg (fun m : Option Int64 => Literal.int (m.getD 0)) (Json.Number.int64?_ofInt64 n)
    rw [literal]
    simp only [parseLiteral, ofLiteral?, fits]
    rfl
  | boolean | float | string | idString | idInt => rfl

end Primitive

namespace GeometryInput

/-- The literal of a geometry is parsed to it by the type of its kind, and refused by those of others. -/
theorem parseLiteral_toLiteral (kind : Kind) (g : Geometry) :
    (g.kind = kind ∧ parseLiteral kind g.toLiteral = .ok (some (.geometry g))) ∨
      Coerced.isConclusive (parseLiteral kind g.toLiteral) = false := by
  rw [Geometry.toLiteral_eq_object, parseLiteral_object, ← Geometry.toLiteral_eq_object,
    Coerced.isConclusive_map, isConclusive_mapError]
  cases h : geometryOfLiteral kind g.toLiteral with
  | error flaw => exact .inr rfl
  | ok g' =>
    have same : g.kind = kind :=
      Kind.name_injective (kind_eq_of_geometryOfLiteral (typeOfLiteral_toLiteral g) h)
    subst same
    rw [geometryOfLiteral_toLiteral] at h
    cases h
    exact .inl ⟨rfl, rfl⟩

theorem parseLiteral_own (g : Geometry) :
    parseLiteral g.kind g.toLiteral = .ok (some (.geometry g)) := by
  rw [Geometry.toLiteral_eq_object, parseLiteral_object, ← Geometry.toLiteral_eq_object,
    geometryOfLiteral_toLiteral]
  rfl

end GeometryInput

namespace Composite

theorem standard_parseLiteral_toLiteral (g : Geometry) :
    standard.parseLiteral g.toLiteral = .ok (some (.geometry g)) := by
  refine firstAccepting_eq_ok (fun candidate hm => ?_)
    ⟨_, mem_standard_candidates.mpr ⟨g.kind, rfl⟩, GeometryInput.parseLiteral_own g⟩
  obtain ⟨kind, rfl⟩ := mem_standard_candidates.mp hm
  exact (GeometryInput.parseLiteral_toLiteral kind g).imp_left And.right

/-- The standard composite gives geometries only. -/
theorem geometry_of_standard_deserialize {v w : Value} (hv : v.isNull = false)
    (h : standard.scalar.deserialize (some v) = .ok (some w)) : ∃ g, w = .geometry g := by
  rw [deserialize_present _ hv] at h
  obtain ⟨candidate, hm, hc⟩ := exists_of_firstAccepting_eq_ok h
  obtain ⟨kind, rfl⟩ := mem_standard_candidates.mp hm
  rw [GeometryInput.deserialize_present kind hv] at hc
  obtain ⟨g, _, hg⟩ := Outcome.map_eq_ok_iff.mp hc
  exact ⟨g, (Option.some.inj hg).symm⟩

end Composite

namespace Registry

/-- What a registered type deserializes, it also parses from the literal. -/
theorem parseLiteral_literalOf {name : String} {s : Scalar} (h : standard.get? name = some s)
    {v runtime : Option Value} (hd : s.deserialize v = .ok runtime) :
    s.parseLiteral (Value.literalOf runtime) = .ok runtime := by
  rcases Scalar.present_cases v with hv | ⟨x, rfl, hv⟩
  · have absent := (Scalar.Known.registered h).conversions_of_absent hv
    rw [absent.1] at hd
    cases hd
    rcases cases_of_get?_standard h with ⟨p, rfl⟩ | ⟨kind, rfl⟩ | rfl <;> rfl
  · rcases cases_of_get?_standard h with ⟨p, rfl⟩ | ⟨kind, rfl⟩ | rfl
    · rw [p.deserialize_present hv] at hd
      obtain ⟨j, hn, rfl⟩ := Outcome.map_eq_ok_iff.mp hd
      obtain ⟨i, rfl, hi⟩ := p.normalize_eq_ok_iff.mp hn
      exact Primitive.parseLiteral_literal hi
    · rw [GeometryInput.deserialize_present kind hv] at hd
      obtain ⟨g, hg, rfl⟩ := Outcome.map_eq_ok_iff.mp hd
      rcases GeometryInput.geometryOf_cases kind x with hc | ⟨g', hg', rfl, _⟩
      · simp [hg] at hc
      · rw [hg] at hg'
        cases hg'
        exact GeometryInput.parseLiteral_own g
    · rcases Scalar.Known.deserialize_cases (.registered h) hv with hc | ⟨w, hw, _⟩
      · simp [hd] at hc
      · rw [hd] at hw
        cases hw
        obtain ⟨g, rfl⟩ := Composite.geometry_of_standard_deserialize hv hd
        exact Composite.standard_parseLiteral_toLiteral g

theorem deserialize_geometry (g : Geometry) {name : String}
    (h : name ∈ [g.kind.inputTypeName, Composite.name]) :
    ∃ s, standard.get? name = some s ∧
      s.deserialize (some (.geometry g)) = .ok (some (.geometry g)) := by
  have own : (GeometryInput.scalar g.kind).deserialize (some (.geometry g)) =
      .ok (some (.geometry g)) := by
    rw [GeometryInput.deserialize_present g.kind rfl, GeometryInput.geometryOf, if_pos rfl]
    rfl
  simp only [List.mem_cons, List.not_mem_nil, or_false] at h
  rcases h with rfl | rfl
  · exact ⟨_, get?_standard_geometry g.kind, own⟩
  · refine ⟨_, get?_standard_composite, ?_⟩
    rw [Composite.deserialize_present _ rfl]
    refine Composite.firstAccepting_eq_ok (fun candidate hm => ?_)
      ⟨_, Composite.mem_standard_candidates.mpr ⟨g.kind, rfl⟩, own⟩
    obtain ⟨kind, rfl⟩ := Composite.mem_standard_candidates.mp hm
    rw [GeometryInput.deserialize_present kind rfl, GeometryInput.geometryOf]
    split
    · exact .inl rfl
    · exact .inr rfl

/-- The conversions of each standard type commute. A value becomes the same literal as outside data and
as a result; this fails exactly if deserializing fails, and with the same error; and the literal is
parsed to what deserializing gives. A geometry comes back whole from its literal, through the type of
its kind and through the composite. -/
theorem conversions_commute :
    (∀ (name : String) (s : Scalar), standard.get? name = some s → ∀ v : Option Value,
      s.parseValue v = s.parseResult v ∧
      (∀ error, s.parseValue v = .error error ↔ s.deserialize v = .error error) ∧
      ∀ literal, s.parseValue v = .ok literal →
        ∃ runtime, s.deserialize v = .ok runtime ∧ s.parseLiteral literal = .ok runtime) ∧
    ∀ (g : Geometry), ∀ name ∈ [g.kind.inputTypeName, Composite.name],
      ∃ s, standard.get? name = some s ∧
        (s.parseResult (some (.geometry g)) >>= s.parseLiteral) = .ok (some (.geometry g)) := by
  constructor
  · intro name s h v
    have known : Scalar.Known s := .registered h
    refine ⟨(known.parseResult_eq_parseValue v).symm, fun error => ?_, fun literal hl => ?_⟩
    · rw [known.parseValue_eq_map v]
      cases s.deserialize v <;> simp [Except.map]
    · rw [known.parseValue_eq_map v] at hl
      obtain ⟨runtime, hd, rfl⟩ := Outcome.map_eq_ok_iff.mp hl
      exact ⟨runtime, hd, parseLiteral_literalOf h hd⟩
  · intro g name hn
    obtain ⟨s, h, hd⟩ := deserialize_geometry g hn
    have known : Scalar.Known s := .registered h
    refine ⟨s, h, Outcome.bind_eq_ok_iff.mpr ⟨_, ?_, parseLiteral_literalOf h hd⟩⟩
    rw [known.parseResult_eq_parseValue, known.parseValue_eq_map, hd]
    rfl

/-- The square for a point, as it comes from outside and as a result. -/
theorem conversions_commute_point :
    ∃ g : Geometry, g.kind = .point ∧ g.srid = some 4326 ∧
      (Composite.standard.scalar.parseValue (some (.json g.toJson)) = .ok g.toLiteral ∧
        ∃ runtime, Composite.standard.scalar.deserialize (some (.json g.toJson)) = .ok runtime ∧
          Composite.standard.scalar.parseLiteral g.toLiteral = .ok runtime) ∧
      ∃ s, standard.get? g.kind.inputTypeName = some s ∧
        (s.parseResult (some (.geometry g)) >>= s.parseLiteral) = .ok (some (.geometry g)) := by
  have valid : Geometry.Valid .point (.position ⟨.ofInt 1, .ofInt 2⟩) :=
    Geometry.flaw?_eq_none_iff.mp (by decide)
  let g : Geometry := ⟨.point, _, some 4326, valid⟩
  have written : Composite.standard.scalar.parseValue (some (.json g.toJson)) = .ok g.toLiteral := rfl
  exact ⟨g, rfl, rfl,
    ⟨written, (conversions_commute.1 _ _ get?_standard_composite _).2.2 _ written⟩,
    conversions_commute.2 g _ (.head _)⟩

end Registry
end SpatialQuery
