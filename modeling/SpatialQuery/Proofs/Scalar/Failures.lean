import SpatialQuery.Proofs.Scalar.Dispatch

namespace SpatialQuery

open SpatialQuery.Geometry (Kind)

namespace Coerced

variable {α β : Type}

/-- The error that an outcome is. -/
def failure? : Coerced α → Option CoercionError
  | .ok _ => none
  | .error error => some error

theorem failure?_eq_some_iff {x : Coerced α} {error : CoercionError} :
    x.failure? = some error ↔ x = .error error := by
  cases x <;> simp [failure?]

theorem failure?_map (f : α → β) (x : Coerced α) : failure? (x.map f) = x.failure? := by
  cases x <;> rfl

theorem failure?_bind (x : Coerced α) (f : α → Coerced β) :
    failure? (x >>= f) =
      match x with
      | .ok result => (f result).failure?
      | .error error => some error := by
  cases x <;> rfl

theorem failure?_mapM (f : α → Coerced β) (as : List α) :
    failure? (as.mapM f) = as.findSome? fun a => (f a).failure? := by
  induction as with
  | nil => rfl
  | cons a as ih =>
    rw [List.mapM_cons, failure?_bind, List.findSome?_cons, ← ih]
    cases f a with
    | error error => rfl
    | ok b => cases as.mapM f <;> rfl

end Coerced

namespace Scalar

/-- The four ways from one value to another. -/
inductive Conversion where
  | parseValue
  | parseResult
  | serialize
  | deserialize

/-- A call of an operation of a scalar type. -/
inductive Call where
  | isInstance (inst : Option Instance)
  | parseLiteral (literal : Literal)
  | convert (conversion : Conversion) (value : Option Value)

/-- The error that a call ends with, if it fails. -/
def failure? (s : Scalar) : Call → Option CoercionError
  | .isInstance inst => (s.isInstance inst).failure?
  | .parseLiteral literal => (s.parseLiteral literal).failure?
  | .convert .parseValue value => (s.parseValue value).failure?
  | .convert .parseResult value => (s.parseResult value).failure?
  | .convert .serialize value => (s.serialize value).failure?
  | .convert .deserialize value => (s.deserialize value).failure?

/-- The kind that what is handed over in a call says it is of. -/
inductive Call.Declares : Call → Kind → Prop where
  | literal {fields : List (String × Literal)} {kind : Kind} (h : Literal.Declares fields kind) :
    Declares (.parseLiteral (.object fields)) kind
  | value {conversion : Conversion} {v : Value} {kind : Kind} (h : v.Declares kind) :
    Declares (.convert conversion (some v)) kind

/-- The names of the geometry types: those of single kinds, and that of the composite. -/
def NamesGeometry (name : String) : Prop := name = "Geometry" ∨ ∃ kind : Kind, name = kind.inputTypeName

/-- The calls that break the contract of a type: to ask about nothing, and, of a geometry type, to read
a literal that is neither null nor an object. -/
inductive Call.BreaksContract (name : String) : Call → Prop where
  | nothing : BreaksContract name (.isInstance none)
  | literal {literal : Literal} (hg : NamesGeometry name) (hn : literal ≠ .null)
    (ho : ∀ fields, literal ≠ .object fields) : BreaksContract name (.parseLiteral literal)

/-- A call is answered as it should be: a broken contract is reported in the name of the type, and all
other failures are refusals in its name or, by the composite, in that of the declared kind. -/
structure Blames (s : Scalar) (call : Call) : Prop where
  violation : call.BreaksContract s.name → ∃ message,
    s.failure? call = some (.contractViolation s.name message)
  refusal : ¬ call.BreaksContract s.name → ∀ error, s.failure? call = some error →
    ∃ typeName message, error = .data typeName message ∧
      (typeName = s.name ∨ s.name = "Geometry" ∧ ∃ kind, call.Declares kind ∧
        typeName = kind.inputTypeName)

namespace Blames

variable {s : Scalar} {call : Call} {typeName message : String}

theorem breaksContract (h : s.Blames call)
    (failed : s.failure? call = some (.contractViolation typeName message)) :
    call.BreaksContract s.name := by
  by_contra kept
  obtain ⟨_, _, ⟨⟩, _⟩ := h.refusal kept _ failed

theorem violation_iff (h : s.Blames call) :
    (∃ typeName message, s.failure? call = some (.contractViolation typeName message)) ↔
      call.BreaksContract s.name := by
  constructor
  · rintro ⟨typeName, message, failed⟩
    exact h.breaksContract failed
  · intro breaks
    obtain ⟨message, failed⟩ := h.violation breaks
    exact ⟨s.name, message, failed⟩

theorem name_of_violation (h : s.Blames call)
    (failed : s.failure? call = some (.contractViolation typeName message)) : typeName = s.name := by
  obtain ⟨_, reported⟩ := h.violation (h.breaksContract failed)
  rw [failed] at reported
  cases reported
  rfl

theorem not_breaksContract (h : s.Blames call)
    (failed : s.failure? call = some (.data typeName message)) : ¬ call.BreaksContract s.name := by
  intro breaks
  obtain ⟨_, reported⟩ := h.violation breaks
  rw [failed] at reported
  cases reported

theorem name_of_data (h : s.Blames call) (failed : s.failure? call = some (.data typeName message)) :
    typeName = s.name ∨ s.name = "Geometry" ∧ ∃ kind, call.Declares kind ∧
      typeName = kind.inputTypeName := by
  obtain ⟨_, _, ⟨⟩, named⟩ := h.refusal (h.not_breaksContract failed) _ failed
  exact named

end Blames

/-- Bad data is reported and a broken contract is not. -/
theorem report?_failure? (s : Scalar) (call : Call) (location : Option Location) :
    ((s.failure? call).bind fun error => error.report? location) =
      match s.failure? call with
      | some (.data typeName message) =>
        some ⟨message, location.toList, [("type", .string typeName)]⟩
      | _ => none := by
  cases s.failure? call with
  | none => rfl
  | some error => cases error <;> rfl

theorem Known.failure?_absent {s : Scalar} (h : Known s) {v : Option Value} (hv : present v = none)
    (conversion : Conversion) : s.failure? (.convert conversion v) = none := by
  obtain ⟨deserialize, serialize, parseValue⟩ := h.conversions_of_absent hv
  cases conversion with
  | parseValue => rw [failure?, parseValue, Coerced.failure?]
  | parseResult => rw [failure?, h.parseResult_eq_parseValue, parseValue, Coerced.failure?]
  | serialize => rw [failure?, serialize, Coerced.failure?]
  | deserialize => rw [failure?, deserialize, Coerced.failure?]

/-- A literal that geometry types have no quarrel with is null or an object. -/
theorem null_or_object {name : String} (hg : NamesGeometry name) {literal : Literal}
    (h : ¬ Call.BreaksContract name (.parseLiteral literal)) :
    literal = .null ∨ ∃ fields, literal = .object fields := by
  by_contra! other
  exact h (.literal hg other.1 other.2)

end Scalar

namespace Primitive

variable (p : Primitive)

theorem not_namesGeometry : ¬ Scalar.NamesGeometry p.name := by
  rintro (same | ⟨kind, same⟩)
  · cases p <;> simp [name] at same
  · cases p <;> cases kind <;> simp [name, Kind.inputTypeName] at same

theorem failure?_convert {v : Value} (hv : v.isNull = false) (conversion : Scalar.Conversion) :
    p.scalar.failure? (.convert conversion (some v)) = (p.normalize v).failure? := by
  cases conversion with
  | parseValue | parseResult =>
    exact (congrArg Coerced.failure? (p.parseValue_present hv)).trans (Coerced.failure?_map _ _)
  | serialize | deserialize =>
    exact (congrArg Coerced.failure? (p.deserialize_present hv)).trans (Coerced.failure?_map _ _)

theorem failure?_isInstance (inst : Instance) :
    p.scalar.failure? (.isInstance (some inst)) = none := by
  cases inst <;> rfl

theorem blames (call : Scalar.Call) : p.scalar.Blames call := by
  refine ⟨fun broken => ?_, fun kept error failed => ?_⟩
  · cases broken with
    | nothing => exact ⟨_, rfl⟩
    | literal hg => exact absurd hg p.not_namesGeometry
  · cases call with
    | isInstance inst =>
      cases inst with
      | none => exact absurd .nothing kept
      | some inst =>
        rw [p.failure?_isInstance inst] at failed
        cases failed
    | parseLiteral literal =>
      change Coerced.failure? (p.parseLiteral literal) = some error at failed
      unfold parseLiteral at failed
      split at failed
      · cases failed
      · split at failed
        · cases failed
        · cases failed
          exact ⟨_, _, rfl, .inl rfl⟩
    | convert conversion v =>
      rcases Scalar.present_cases v with absent | ⟨x, rfl, hx⟩
      · rw [(Scalar.Known.primitive p).failure?_absent absent] at failed
        cases failed
      · rw [p.failure?_convert hx, normalize] at failed
        split at failed
        · cases failed
        · cases failed
          exact ⟨_, _, rfl, .inl rfl⟩

end Primitive

namespace GeometryInput

variable (kind : Kind)

theorem failure?_mapError {α : Type} {x : Except Flaw α} {error : CoercionError}
    (h : Coerced.failure? (x.mapError (dataError kind)) = some error) :
    ∃ message, error = .data kind.inputTypeName message := by
  cases x with
  | ok a => cases h
  | error flaw =>
    cases h
    exact ⟨_, rfl⟩

theorem failure?_geometryOf {v : Value} {error : CoercionError}
    (h : Coerced.failure? (geometryOf kind v) = some error) :
    ∃ message, error = .data kind.inputTypeName message := by
  unfold geometryOf at h
  split at h
  · split at h
    · cases h
    · cases h
      exact ⟨_, rfl⟩
  · exact failure?_mapError kind h
  · cases h
    exact ⟨_, rfl⟩

/-- Serializing an object does not fail, and all other conversions fail as the value is read. -/
theorem failure?_convert {v : Value} (hv : v.isNull = false) {conversion : Scalar.Conversion}
    {error : CoercionError} (h : (scalar kind).failure? (.convert conversion (some v)) = some error) :
    Coerced.failure? (geometryOf kind v) = some error := by
  cases conversion with
  | parseValue =>
    rwa [Scalar.failure?, parseValue_present kind hv, Coerced.failure?_map] at h
  | parseResult =>
    rwa [Scalar.failure?, parseResult_eq_parseValue, parseValue_present kind hv,
      Coerced.failure?_map] at h
  | deserialize => rwa [Scalar.failure?, deserialize_present kind hv, Coerced.failure?_map] at h
  | serialize =>
    cases ho : v.isObject with
    | true =>
      obtain ⟨members, rfl⟩ := Value.isObject_eq_true ho
      cases h
    | false => rwa [Scalar.failure?, serialize_present kind hv ho, Coerced.failure?_map] at h

theorem failure?_parseLiteral {fields : List (String × Literal)} {error : CoercionError}
    (h : (scalar kind).failure? (.parseLiteral (.object fields)) = some error) :
    ∃ message, error = .data kind.inputTypeName message := by
  change Coerced.failure? (parseLiteral kind (.object fields)) = some error at h
  rw [parseLiteral_object, Coerced.failure?_map] at h
  exact failure?_mapError kind h

theorem failure?_isInstance (inst : Instance) :
    (scalar kind).failure? (.isInstance (some inst)) = none := by
  rcases inst with literal | value
  · cases literal <;> rfl
  · cases value <;> rfl

theorem blames (call : Scalar.Call) : (scalar kind).Blames call := by
  refine ⟨fun broken => ?_, fun kept error failed => ?_⟩
  · cases broken with
    | nothing => exact ⟨_, rfl⟩
    | @literal literal _ hn ho =>
      cases literal with
      | null => exact absurd rfl hn
      | object fields => exact absurd rfl (ho fields)
      | int | float | string | boolean | enum | list => exact ⟨_, rfl⟩
  · have own : ∃ message, error = .data kind.inputTypeName message := by
      cases call with
      | isInstance inst =>
        cases inst with
        | none => exact absurd .nothing kept
        | some inst =>
          rw [failure?_isInstance kind inst] at failed
          cases failed
      | parseLiteral literal =>
        rcases Scalar.null_or_object (.inr ⟨kind, rfl⟩) kept with rfl | ⟨fields, rfl⟩
        · cases failed
        · exact failure?_parseLiteral kind failed
      | convert conversion v =>
        rcases Scalar.present_cases v with absent | ⟨x, rfl, hx⟩
        · rw [(Scalar.Known.geometry kind).failure?_absent absent] at failed
          cases failed
        · exact failure?_geometryOf kind (failure?_convert kind hx failed)
    obtain ⟨message, rfl⟩ := own
    exact ⟨_, message, rfl, .inl rfl⟩

end GeometryInput

namespace Composite

variable {α : Type} {kinds : List Kind}

theorem failure?_dispatch {declared : Option Kind} {own : Scalar → Coerced α}
    {otherwise error : CoercionError}
    (h : Coerced.failure? (dispatch kinds declared own otherwise) = some error) :
    error = otherwise ∨
      ∃ kind, declared = some kind ∧ (own (GeometryInput.scalar kind)).failure? = some error := by
  rw [dispatch] at h
  cases hd : declared.filter (· ∈ kinds) with
  | none =>
    rw [hd] at h
    cases h
    exact .inl rfl
  | some kind =>
    rw [hd] at h
    exact .inr ⟨kind, (Option.filter_eq_some_iff.mp hd).1, h⟩

/-- A conversion by a composite of single kinds fails for want of a match, or as it does by the type of
the declared kind. -/
theorem failure?_convert {v : Value} (hv : v.isNull = false) {conversion : Scalar.Conversion}
    {error : CoercionError}
    (h : (ofKinds kinds).scalar.failure? (.convert conversion (some v)) = some error) :
    error = noMatch v.describe ∨ ∃ kind, declaredKind v = some kind ∧
      (GeometryInput.scalar kind).failure? (.convert conversion (some v)) = some error := by
  cases conversion with
  | parseValue =>
    rw [Scalar.failure?, ofKinds_parseValue kinds hv] at h
    exact failure?_dispatch h
  | parseResult =>
    rw [Scalar.failure?, ofKinds_parseResult kinds hv] at h
    exact failure?_dispatch h
  | deserialize =>
    rw [Scalar.failure?, ofKinds_deserialize kinds hv] at h
    exact failure?_dispatch h
  | serialize =>
    cases ho : v.isObject with
    | true =>
      obtain ⟨members, rfl⟩ := Value.isObject_eq_true ho
      cases h
    | false =>
      rw [Scalar.failure?, ofKinds_serialize kinds hv ho] at h
      exact failure?_dispatch h

theorem failure?_parseLiteral {fields : List (String × Literal)} {error : CoercionError}
    (h : (ofKinds kinds).scalar.failure? (.parseLiteral (.object fields)) = some error) :
    error = noMatch "object literal" ∨ ∃ kind, Literal.Declares fields kind ∧
      (GeometryInput.scalar kind).failure? (.parseLiteral (.object fields)) = some error := by
  rw [Scalar.failure?, ofKinds_parseLiteral] at h
  rcases failure?_dispatch h with unmatched | ⟨kind, declared, failed⟩
  · exact .inl unmatched
  · exact .inr ⟨kind, declaredKindOfLiteral_eq_some_iff.mp declared, failed⟩

theorem failure?_isInstance (kinds : List Kind) (inst : Instance) :
    (ofKinds kinds).scalar.failure? (.isInstance (some inst)) = none := by
  rw [Scalar.failure?, ofKinds_isInstance, Coerced.failure?]

theorem blames (kinds : List Kind) (call : Scalar.Call) : (ofKinds kinds).scalar.Blames call := by
  refine ⟨fun broken => ?_, fun kept error failed => ?_⟩
  · cases broken with
    | nothing => exact ⟨_, rfl⟩
    | @literal literal _ hn ho =>
      cases literal with
      | null => exact absurd rfl hn
      | object fields => exact absurd rfl (ho fields)
      | int | float | string | boolean | enum | list => exact ⟨_, rfl⟩
  · cases call with
    | isInstance inst =>
      cases inst with
      | none => exact absurd .nothing kept
      | some inst =>
        rw [failure?_isInstance kinds inst] at failed
        cases failed
    | parseLiteral literal =>
      rcases Scalar.null_or_object (.inl rfl) kept with rfl | ⟨fields, rfl⟩
      · cases failed
      · rcases failure?_parseLiteral failed with rfl | ⟨kind, declared, failed⟩
        · exact ⟨_, _, rfl, .inl rfl⟩
        · obtain ⟨message, rfl⟩ := GeometryInput.failure?_parseLiteral kind failed
          exact ⟨_, _, rfl, .inr ⟨rfl, kind, .literal declared, rfl⟩⟩
    | convert conversion v =>
      rcases Scalar.present_cases v with absent | ⟨x, rfl, hx⟩
      · rw [(known_ofKinds kinds).failure?_absent absent] at failed
        cases failed
      · rcases failure?_convert hx failed with rfl | ⟨kind, declared, failed⟩
        · exact ⟨_, _, rfl, .inl rfl⟩
        · obtain ⟨message, rfl⟩ :=
            GeometryInput.failure?_geometryOf kind (GeometryInput.failure?_convert kind hx failed)
          exact ⟨_, _, rfl, .inr ⟨rfl, kind, .value (declaredKind_eq_some_iff.mp declared), rfl⟩⟩

end Composite

namespace Registry

theorem blames_of_get?_standard {name : String} {s : Scalar} (h : standard.get? name = some s)
    (call : Scalar.Call) : s.Blames call := by
  rcases cases_of_get?_standard h with ⟨p, rfl⟩ | ⟨kind, rfl⟩ | rfl
  · exact p.blames call
  · exact GeometryInput.blames kind call
  · exact Composite.blames Kind.all call

/-- There is always an answer to whether something is an instance. -/
theorem failure?_isInstance {name : String} {s : Scalar} (h : standard.get? name = some s)
    (inst : Instance) : s.failure? (.isInstance (some inst)) = none := by
  rcases cases_of_get?_standard h with ⟨p, rfl⟩ | ⟨kind, rfl⟩ | rfl
  · exact p.failure?_isInstance inst
  · exact GeometryInput.failure?_isInstance kind inst
  · exact Composite.failure?_isInstance Kind.all inst

/-- Broken contracts and bad data are kept apart. A call of a standard type reports a broken contract
exactly if it breaks the contract, and to ask for an instance is never answered with bad data. A broken
contract is reported in the name of the type, bad data in that name or by the composite in the name of
the type of the declared kind. What a reader gets to see is the bad data, with its message, its place if
that is known, and the name. -/
theorem standard_failures {name : String} {s : Scalar} (h : standard.get? name = some s)
    (call : Scalar.Call) :
    ((∃ typeName message, s.failure? call = some (.contractViolation typeName message)) ↔
      call.BreaksContract name) ∧
    (∀ inst typeName message, s.failure? (.isInstance inst) ≠ some (.data typeName message)) ∧
    (∀ typeName message, s.failure? call = some (.contractViolation typeName message) →
      typeName = name) ∧
    (∀ typeName message, s.failure? call = some (.data typeName message) →
      typeName = name ∨ name = "Geometry" ∧ ∃ kind, call.Declares kind ∧
        typeName = kind.inputTypeName) ∧
    ∀ location, ((s.failure? call).bind fun error => error.report? location) =
      match s.failure? call with
      | some (.data typeName message) =>
        some ⟨message, location.toList, [("type", .string typeName)]⟩
      | _ => none := by
  obtain rfl : s.name = name := (get?_standard_eq_some_iff.mp h).2
  have blames := blames_of_get?_standard h call
  refine ⟨blames.violation_iff, ?_, fun _ _ => blames.name_of_violation, fun _ _ => blames.name_of_data,
    s.report?_failure? call⟩
  intro inst typeName message failed
  cases inst with
  | none =>
    exact (blames_of_get?_standard h (.isInstance none)).not_breaksContract failed .nothing
  | some inst =>
    rw [failure?_isInstance h inst] at failed
    cases failed

/-- A number where an object is expected, and an object that claims to be a point. -/
theorem standard_failures_composite :
    let point : Scalar.Call := .parseLiteral (.object [("type", .enum "Point")])
    standard.get? "Geometry" = some Composite.standard.scalar ∧
    (∃ typeName message, Composite.standard.scalar.failure? (.parseLiteral (.int 1)) =
      some (.contractViolation typeName message)) ∧
    ((Composite.standard.scalar.failure? point).bind fun error => error.report? (some ⟨3, 7⟩)) =
      some ⟨"The `coordinates` field is missing.", [⟨3, 7⟩], [("type", .string "PointInput")]⟩ := by
  intro point
  have registered := get?_standard_composite
  refine ⟨registered, ?_, (standard_failures registered point).2.2.2.2 _⟩
  exact (standard_failures registered _).1.mpr (.literal (.inl rfl) nofun nofun)

end Registry
end SpatialQuery
