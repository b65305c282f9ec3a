import SpatialQuery.Proofs.Scalar.Stability

namespace SpatialQuery

open SpatialQuery.Geometry (Kind)

/-- The kind that a value says it is of: that of a geometry, or the one that an object names. -/
inductive Value.Declares : Value → Kind → Prop where
  | geometry (g : Geometry) : Declares (.geometry g) g.kind
  | object {members : List (String × Json)} {kind : Kind}
    (h : members.lookup "type" = some (.string kind.name)) : Declares (.json (.object members)) kind

/-- The kind that the fields of an object literal name, by a string or by an enum value. -/
inductive Literal.Declares : List (String × Literal) → Geometry.Kind → Prop where
  | string {fields : List (String × Literal)} {kind : Geometry.Kind}
    (h : fields.lookup "type" = some (.string kind.name)) : Declares fields kind
  | enum {fields : List (String × Literal)} {kind : Geometry.Kind}
    (h : fields.lookup "type" = some (.enum kind.name)) : Declares fields kind

namespace GeometryInput

theorem typeOfMembers_eq_ok_some_iff {members : List (String × Json)} {name : String} :
    typeOfMembers members = .ok (some name) ↔ members.lookup "type" = some (.string name) := by
  rw [typeOfMembers, Geometry.typeField]
  cases hl : members.lookup "type" with
  | none => simp
  | some j => cases j <;> simp

theorem typeOfLiteral_eq_ok_some_iff {fields : List (String × Literal)} {name : String} :
    typeOfLiteral (.object fields) = .ok (some name) ↔
      fields.lookup "type" = some (.string name) ∨ fields.lookup "type" = some (.enum name) := by
  rw [typeOfLiteral, Geometry.typeField, Literal.field?]
  cases hl : fields.lookup "type" with
  | none => simp
  | some literal => cases literal <;> simp

/-- A kind accepts only literals that declare it. -/
theorem declares_of_parseLiteral {kind : Kind} {fields : List (String × Literal)}
    (h : Coerced.isConclusive ((scalar kind).parseLiteral (.object fields)) = true) :
    Literal.Declares fields kind := by
  change Coerced.isConclusive (parseLiteral kind (.object fields)) = true at h
  rw [parseLiteral_object, Coerced.isConclusive_map, isConclusive_mapError] at h
  cases hg : geometryOfLiteral kind (.object fields) with
  | error flaw => rw [hg] at h; cases h
  | ok g =>
    have named := (assemble_eq_ok_iff.mp hg).1
    rcases typeOfLiteral_eq_ok_some_iff.mp named with hs | he
    · exact .string hs
    · exact .enum he

/-- A kind accepts only values that declare it. -/
theorem declares_of_geometryOf {kind : Kind} {v : Value}
    (h : Coerced.isConclusive (geometryOf kind v) = true) : v.Declares kind := by
  rcases geometryOf_cases kind v with hc | ⟨g, hg, rfl, hn⟩
  · rw [h] at hc
    cases hc
  · cases hn with
    | geometry => exact .geometry g
    | object hm => exact .object (typeOfMembers_eq_ok_some_iff.mp (assemble_eq_ok_iff.mp hm).1)

theorem parseResult_eq_parseValue (kind : Kind) (v : Option Value) :
    (scalar kind).parseResult v = (scalar kind).parseValue v := rfl

end GeometryInput

namespace Composite

theorem declaredKind_eq_some_iff {v : Value} {kind : Kind} :
    declaredKind v = some kind ↔ v.Declares kind := by
  constructor
  · intro h
    unfold declaredKind at h
    split at h
    · cases h
      exact .geometry _
    · obtain ⟨name, hn, hk⟩ := Option.bind_eq_some_iff.mp h
      obtain ⟨j, hl, hj⟩ := Option.bind_eq_some_iff.mp hn
      cases j with
      | string s =>
        cases hj
        exact .object (hl.trans (by rw [Kind.ofName?_eq_some_iff.mp hk]))
      | null | bool | number | array | object => cases hj
    · cases h
  · rintro (g | hl)
    · rfl
    · simp only [declaredKind, Geometry.typeField, hl]
      exact Kind.ofName?_eq_some_iff.mpr rfl

theorem declaredKindOfLiteral_eq_some_iff {fields : List (String × Literal)} {kind : Kind} :
    declaredKindOfLiteral (.object fields) = some kind ↔ Literal.Declares fields kind := by
  simp only [declaredKindOfLiteral, Literal.field?, Geometry.typeField]
  constructor
  · intro h
    split at h
    · next hl => exact .string (hl.trans (by rw [Kind.ofName?_eq_some_iff.mp h]))
    · next hl => exact .enum (hl.trans (by rw [Kind.ofName?_eq_some_iff.mp h]))
    · cases h
  · rintro (hl | hl) <;> simp only [hl] <;> exact Kind.ofName?_eq_some_iff.mpr rfl

/-- The composite of the types of single kinds. -/
def ofKinds (kinds : List Kind) : Composite := ⟨kinds.map GeometryInput.scalar⟩

theorem known_ofKinds (kinds : List Kind) : Scalar.Known (ofKinds kinds).scalar := by
  apply Scalar.Known.composite
  intro candidate hm
  obtain ⟨kind, _, rfl⟩ := List.mem_map.mp hm
  exact .geometry kind

variable {α : Type} {kinds : List Kind} {declared : Option Kind}

/-- A question that only the type of the declared kind answers with yes finds that type. -/
theorem find?_scalar {p : Scalar → Bool}
    (h : ∀ kind, p (GeometryInput.scalar kind) = true ↔ declared = some kind) (kinds : List Kind) :
    (kinds.map GeometryInput.scalar).find? p =
      (declared.filter (· ∈ kinds)).map GeometryInput.scalar := by
  induction kinds with
  | nil => cases declared <;> rfl
  | cons kind rest ih =>
    rw [List.map_cons, List.find?_cons]
    cases hp : p (GeometryInput.scalar kind) with
    | true =>
      rw [(h kind).mp hp]
      simp [Option.filter]
    | false =>
      have other : declared ≠ some kind := by
        intro same
        rw [(h kind).mpr same] at hp
        cases hp
      rw [ih]
      cases declared with
      | none => rfl
      | some k =>
        have differs : k ≠ kind := fun same => other (congrArg some same)
        simp [Option.filter, differs]

/-- The outcome of the declared kind, if it is one of the kinds. -/
def dispatch (kinds : List Kind) (declared : Option Kind) (own : Scalar → Coerced α)
    (otherwise : CoercionError) : Coerced α :=
  match declared.filter (· ∈ kinds) with
  | some kind => own (GeometryInput.scalar kind)
  | none => .error otherwise

/-- Where only the declared kind may accept, the search ends as that kind does. Its own refusal is the
one that is remembered, wherever it stands and however often. -/
theorem firstAccepting_eq_dispatch {attempt : Scalar → Coerced α}
    (h : ∀ kind, (attempt (GeometryInput.scalar kind)).isConclusive = true → declared = some kind)
    (otherwise : CoercionError) (kinds : List Kind) :
    firstAccepting declared attempt otherwise (kinds.map GeometryInput.scalar) =
      dispatch kinds declared attempt otherwise := by
  have named : (kinds.map GeometryInput.scalar).find? (fun c =>
      declared.map Kind.inputTypeName = some c.name) =
        (declared.filter (· ∈ kinds)).map GeometryInput.scalar := by
    apply find?_scalar
    intro kind
    rw [decide_eq_true_iff, Option.map_eq_some_iff]
    constructor
    · rintro ⟨k, rfl, hk⟩
      exact congrArg some (Kind.inputTypeName_injective hk)
    · rintro rfl
      exact ⟨kind, rfl, rfl⟩
  have decisive : decisive? declared attempt (kinds.map GeometryInput.scalar) =
      (declared.filter (· ∈ kinds)).map GeometryInput.scalar := by
    rw [decisive?, named]
    cases hf : (kinds.map GeometryInput.scalar).find? fun c => (attempt c).isConclusive with
    | none => rfl
    | some found =>
      obtain ⟨kind, hm, rfl⟩ := List.mem_map.mp (List.mem_of_find?_eq_some hf)
      have accepts : (attempt (GeometryInput.scalar kind)).isConclusive = true := by
        simpa using List.find?_some hf
      rw [h kind accepts]
      simp [Option.filter, hm]
  rw [firstAccepting_eq_decisive?, decisive, dispatch]
  cases declared.filter (· ∈ kinds) <;> rfl

theorem ofKinds_parseLiteral (kinds : List Kind) (fields : List (String × Literal)) :
    (ofKinds kinds).scalar.parseLiteral (.object fields) =
      dispatch kinds (declaredKindOfLiteral (.object fields)) (·.parseLiteral (.object fields))
        (noMatch "object literal") := by
  apply firstAccepting_eq_dispatch
  intro kind accepts
  exact declaredKindOfLiteral_eq_some_iff.mpr (GeometryInput.declares_of_parseLiteral accepts)

theorem ofKinds_offer {attempt : Scalar → Option Value → Coerced α} {v : Value}
    (h : ∀ kind, (attempt (GeometryInput.scalar kind) (some v)).isConclusive =
      Coerced.isConclusive (GeometryInput.geometryOf kind v)) (kinds : List Kind) :
    (ofKinds kinds).offer attempt v =
      dispatch kinds (declaredKind v) (attempt · (some v)) (noMatch v.describe) := by
  apply firstAccepting_eq_dispatch
  intro kind accepts
  rw [h kind] at accepts
  exact declaredKind_eq_some_iff.mpr (GeometryInput.declares_of_geometryOf accepts)

theorem ofKinds_deserialize (kinds : List Kind) {v : Value} (hv : v.isNull = false) :
    (ofKinds kinds).scalar.deserialize (some v) =
      dispatch kinds (declaredKind v) (·.deserialize (some v)) (noMatch v.describe) := by
  rw [deserialize_present _ hv]
  apply ofKinds_offer
  intro kind
  rw [GeometryInput.deserialize_present kind hv, Coerced.isConclusive_map]

theorem ofKinds_parseValue (kinds : List Kind) {v : Value} (hv : v.isNull = false) :
    (ofKinds kinds).scalar.parseValue (some v) =
      dispatch kinds (declaredKind v) (·.parseValue (some v)) (noMatch v.describe) := by
  rw [parseValue_present _ hv]
  apply ofKinds_offer
  intro kind
  rw [GeometryInput.parseValue_present kind hv, Coerced.isConclusive_map]

theorem ofKinds_parseResult (kinds : List Kind) {v : Value} (hv : v.isNull = false) :
    (ofKinds kinds).scalar.parseResult (some v) =
      dispatch kinds (declaredKind v) (·.parseResult (some v)) (noMatch v.describe) := by
  rw [parseResult_present _ hv]
  apply ofKinds_offer
  intro kind
  rw [GeometryInput.parseResult_eq_parseValue, GeometryInput.parseValue_present kind hv,
    Coerced.isConclusive_map]

theorem serialize_object (composite : Composite) (members : List (String × Json)) :
    composite.scalar.serialize (some (.json (.object members))) =
      .ok (some (.json (.object members))) := rfl

/-- Apart from objects, the first instance is of the declared kind: only geometries have instances. -/
theorem ofKinds_serialize (kinds : List Kind) {v : Value} (hv : v.isNull = false)
    (ho : v.isObject = false) :
    (ofKinds kinds).scalar.serialize (some v) =
      dispatch kinds (declaredKind v) (·.serialize (some v)) (noMatch v.describe) := by
  have asked : (ofKinds kinds).candidates.findM? (·.isInstance (some (.value v))) =
      .ok ((ofKinds kinds).candidates.find? fun c => (c.deserialize (some v)).isConclusive) := by
    apply Outcome.findM?_eq_ok
    intro candidate hm
    obtain ⟨kind, _, rfl⟩ := List.mem_map.mp hm
    exact (Scalar.Known.geometry kind).isInstance_eq hv ho
  have accepts : ∀ kind, ((GeometryInput.scalar kind).deserialize (some v)).isConclusive = true ↔
      declaredKind v = some kind := by
    intro kind
    rw [GeometryInput.deserialize_present kind hv, Coerced.isConclusive_map, declaredKind_eq_some_iff]
    constructor
    · exact GeometryInput.declares_of_geometryOf
    · rintro (g | _)
      · rw [GeometryInput.geometryOf, if_pos rfl, Coerced.isConclusive_ok]
      · cases ho
  rw [serialize_present _ hv ho, asked, ofKinds, find?_scalar accepts, dispatch]
  cases (declaredKind v).filter (· ∈ kinds) <;> rfl

theorem ofKinds_isInstance (kinds : List Kind) (inst : Instance) :
    (ofKinds kinds).scalar.isInstance (some inst) = .ok (kinds.any fun kind =>
      ((GeometryInput.scalar kind).isInstance (some inst)).toOption.getD false) := by
  have answered : ∀ candidate ∈ (ofKinds kinds).candidates, candidate.isInstance (some inst) =
      .ok ((candidate.isInstance (some inst)).toOption.getD false) := by
    intro candidate hm
    obtain ⟨kind, _, rfl⟩ := List.mem_map.mp hm
    rcases inst with literal | value
    · cases literal <;> rfl
    · cases value <;> rfl
  refine (Outcome.anyM_eq_ok answered).trans ?_
  rw [ofKinds, List.any_map]
  rfl

theorem dispatch_congr {kinds' : List Kind} (same : ∀ kind, kind ∈ kinds ↔ kind ∈ kinds')
    (declared : Option Kind) (own : Scalar → Coerced α) (otherwise : CoercionError) :
    dispatch kinds declared own otherwise = dispatch kinds' declared own otherwise := by
  simp only [dispatch, same]

/-- Only the set of its kinds counts for a composite. -/
theorem scalar_ofKinds_congr {kinds' : List Kind} (same : ∀ kind, kind ∈ kinds ↔ kind ∈ kinds') :
    (ofKinds kinds).scalar = (ofKinds kinds').scalar := by
  have isInstance : ∀ inst, (ofKinds kinds).scalar.isInstance inst =
      (ofKinds kinds').scalar.isInstance inst := by
    rintro (_ | inst)
    · rfl
    · rw [ofKinds_isInstance, ofKinds_isInstance]
      congr 1
      rw [Bool.eq_iff_iff, List.any_eq_true, List.any_eq_true]
      simp only [same]
  have parseLiteral : ∀ literal, (ofKinds kinds).scalar.parseLiteral literal =
      (ofKinds kinds').scalar.parseLiteral literal := by
    intro literal
    cases literal with
    | object fields => rw [ofKinds_parseLiteral, ofKinds_parseLiteral, dispatch_congr same]
    | null | int | float | string | boolean | enum | list => rfl
  have parseValue : ∀ v, (ofKinds kinds).scalar.parseValue v = (ofKinds kinds').scalar.parseValue v := by
    intro v
    rcases Scalar.present_cases v with hv | ⟨x, rfl, hv⟩
    · rw [((known_ofKinds kinds).conversions_of_absent hv).2.2,
        ((known_ofKinds kinds').conversions_of_absent hv).2.2]
    · rw [ofKinds_parseValue kinds hv, ofKinds_parseValue kinds' hv, dispatch_congr same]
  have parseResult : ∀ v, (ofKinds kinds).scalar.parseResult v =
      (ofKinds kinds').scalar.parseResult v := by
    intro v
    rw [(known_ofKinds kinds).parseResult_eq_parseValue,
      (known_ofKinds kinds').parseResult_eq_parseValue, parseValue]
  have serialize : ∀ v, (ofKinds kinds).scalar.serialize v = (ofKinds kinds').scalar.serialize v := by
    intro v
    rcases Scalar.present_cases v with hv | ⟨x, rfl, hv⟩
    · rw [((known_ofKinds kinds).conversions_of_absent hv).2.1,
        ((known_ofKinds kinds').conversions_of_absent hv).2.1]
    · cases ho : x.isObject with
      | true =>
        obtain ⟨members, rfl⟩ := Value.isObject_eq_true ho
        rfl
      | false => rw [ofKinds_serialize kinds hv ho, ofKinds_serialize kinds' hv ho, dispatch_congr same]
  have deserialize : ∀ v, (ofKinds kinds).scalar.deserialize v =
      (ofKinds kinds').scalar.deserialize v := by
    intro v
    rcases Scalar.present_cases v with hv | ⟨x, rfl, hv⟩
    · rw [((known_ofKinds kinds).conversions_of_absent hv).1,
        ((known_ofKinds kinds').conversions_of_absent hv).1]
    · rw [ofKinds_deserialize kinds hv, ofKinds_deserialize kinds' hv, dispatch_congr same]
  rw [scalar, scalar, Scalar.mk.injEq]
  exact ⟨rfl, funext isInstance, funext parseLiteral, funext parseValue, funext parseResult,
    funext serialize, funext deserialize⟩

/-- An outcome for something that declares kinds: that of the type of a declared kind which is among the
kinds, and a refusal by the composite if there is none. -/
structure Dispatched (kinds : List Kind) (declares : Kind → Prop) (what : String)
    (own : Scalar → Coerced α) (outcome : Coerced α) : Prop where
  own : ∀ kind ∈ kinds, declares kind → outcome = own (GeometryInput.scalar kind)
  noMatch : (∀ kind ∈ kinds, ¬ declares kind) → outcome =
    .error (.data "Geometry" s!"{what} does not match any supported geometry kind")

theorem dispatched_dispatch {declares : Kind → Prop}
    (h : ∀ kind, declared = some kind ↔ declares kind) (kinds : List Kind) (what : String)
    (own : Scalar → Coerced α) :
    Dispatched kinds declares what own (dispatch kinds declared own (noMatch what)) := by
  constructor
  · intro kind hm hd
    rw [(h kind).mpr hd, dispatch]
    simp [Option.filter, hm]
  · intro none
    rw [dispatch]
    cases hd : declared with
    | none => rfl
    | some kind =>
      have out : kind ∉ kinds := fun hm => none kind hm ((h kind).mp hd)
      simp [Option.filter, out, Composite.noMatch, name]

/-- A composite of single kinds is dispatch on the declared kind. An object literal and a present value
come to what the type of their kind makes of them, be it a refusal, where the composite has that kind,
and match nothing otherwise. Serializing lets objects pass and dispatches the rest. Order and
repetition of the candidates do not matter. -/
theorem ofKinds_dispatches (kinds : List Kind) :
    (∀ fields, Dispatched kinds (Literal.Declares fields) "object literal"
      (·.parseLiteral (.object fields)) ((ofKinds kinds).scalar.parseLiteral (.object fields))) ∧
    (∀ v : Value, v.isNull = false →
      Dispatched kinds v.Declares v.describe (·.parseValue (some v))
        ((ofKinds kinds).scalar.parseValue (some v)) ∧
      Dispatched kinds v.Declares v.describe (·.parseResult (some v))
        ((ofKinds kinds).scalar.parseResult (some v)) ∧
      Dispatched kinds v.Declares v.describe (·.deserialize (some v))
        ((ofKinds kinds).scalar.deserialize (some v))) ∧
    (∀ members, (ofKinds kinds).scalar.serialize (some (.json (.object members))) =
      .ok (some (.json (.object members)))) ∧
    (∀ v : Value, v.isNull = false → v.isObject = false →
      Dispatched kinds v.Declares v.describe (·.serialize (some v))
        ((ofKinds kinds).scalar.serialize (some v))) ∧
    ∀ kinds' : List Kind, (∀ kind, kind ∈ kinds ↔ kind ∈ kinds') →
      (ofKinds kinds).scalar = (ofKinds kinds').scalar := by
  refine ⟨?_, ?_, serialize_object _, ?_, fun kinds' => scalar_ofKinds_congr⟩
  · intro fields
    rw [ofKinds_parseLiteral]
    exact dispatched_dispatch (fun kind => declaredKindOfLiteral_eq_some_iff) kinds _ _
  · intro v hv
    rw [ofKinds_parseValue kinds hv, ofKinds_parseResult kinds hv, ofKinds_deserialize kinds hv]
    have declares : ∀ kind, declaredKind v = some kind ↔ v.Declares kind :=
      fun kind => declaredKind_eq_some_iff
    exact ⟨dispatched_dispatch declares kinds _ _, dispatched_dispatch declares kinds _ _,
      dispatched_dispatch declares kinds _ _⟩
  · intro v hv ho
    rw [ofKinds_serialize kinds hv ho]
    exact dispatched_dispatch (fun kind => declaredKind_eq_some_iff) kinds _ _

/-- A point without coordinates after another candidate and before itself, a kind that is no candidate,
data that declares nothing, and the candidates in another order. -/
theorem ofKinds_dispatches_point :
    (ofKinds [.polygon, .point, .point]).scalar.parseLiteral (.object [("type", .enum "Point")]) =
      .error (.data "PointInput" "The `coordinates` field is missing.") ∧
    (ofKinds [.polygon, .point, .point]).scalar.deserialize
      (some (.json (.object [("type", .string "MultiPoint")]))) =
        .error (.data "Geometry" "object does not match any supported geometry kind") ∧
    (ofKinds [.polygon, .point, .point]).scalar.serialize (some (.json (.bool true))) =
      .error (.data "Geometry" "boolean does not match any supported geometry kind") ∧
    (ofKinds [.polygon, .point, .point]).scalar = (ofKinds [.point, .polygon]).scalar := by
  obtain ⟨literals, values, _, serialized, reordered⟩ := ofKinds_dispatches [.polygon, .point, .point]
  refine ⟨?_, ?_, ?_, reordered [.point, .polygon] fun kind => by cases kind <;> decide⟩
  · exact (literals _).own .point (by simp) (.enum rfl)
  · apply (values _ rfl).2.2.noMatch
    rintro kind hm (_ | hl)
    have same : "MultiPoint" = kind.name := Json.string.inj (Option.some.inj hl)
    simp only [List.mem_cons, List.not_mem_nil, or_false] at hm
    rcases hm with rfl | rfl | rfl <;> exact absurd same (by decide)
  · apply (serialized _ rfl rfl).noMatch
    rintro kind _ ⟨⟩

end Composite
end SpatialQuery
