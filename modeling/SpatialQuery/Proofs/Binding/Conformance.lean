import SpatialQuery.Proofs.Binding.Coercing
import SpatialQuery.Proofs.Scalar.Parsing

namespace SpatialQuery

/-- The values that the names of the standard registry stand for. -/
inductive Registry.Inhabits : String → Value → Prop where
  | boolean (b : Bool) : Inhabits "Boolean" (.json (.bool b))
  | int {n : Int} {lower : -0x8000000000000000 ≤ n} {upper : n < 0x10000000000000000}
    (least : -2147483648 ≤ n) (greatest : n ≤ 2147483647) :
    Inhabits "Int" (.json (.number (.integer n lower upper)))
  | float (x : Binary64.Finite) : Inhabits "Float" (.json (.number (.float x)))
  | string (s : String) : Inhabits "String" (.json (.string s))
  | id (s : String) : Inhabits "ID" (.json (.string s))
  | geometry {kind : Geometry.Kind} {g : Geometry} (same : g.kind = kind)
    (sound : Geometry.WellFormed kind g.coordinates) : Inhabits kind.inputTypeName (.geometry g)
  | anyGeometry {g : Geometry} (sound : Geometry.WellFormed g.kind g.coordinates) :
    Inhabits "Geometry" (.geometry g)

open Registry (standard Inhabits)

theorem Primitive.inhabits_of_ofLiteral? {p : Primitive} {literal : Literal} {j : Json}
    (h : p.ofLiteral? literal = some j) : Inhabits p.name (.json j) := by
  have ofFinite {x : Binary64} (h : finite? x = some j) : Inhabits "Float" (.json j) := by
    cases x with
    | finite x =>
      cases h
      exact .float x
    | nan | infinity => cases h
  unfold ofLiteral? at h
  split at h
  case h_1 b =>
    cases h
    exact .boolean b
  case h_2 n =>
    unfold int32? at h
    split at h
    · next range =>
      cases h
      exact .int range.1 (by omega)
    · cases h
  case h_3 => exact ofFinite h
  case h_4 => exact ofFinite h
  case h_5 s =>
    cases h
    exact .string s
  case h_6 s =>
    cases h
    exact .id s
  case h_7 n =>
    cases h
    exact .id _
  case h_8 => cases h

/-- What a literal is read as by the type of a kind is a geometry of the kind. -/
theorem GeometryInput.geometry_of_parseLiteral {kind : Geometry.Kind} {literal : Literal} {v : Value}
    (h : (scalar kind).parseLiteral literal = .ok (some v)) :
    ∃ g, v = .geometry g ∧ g.kind = kind ∧ Geometry.WellFormed g.kind g.coordinates := by
  rcases parseLiteral_eq_ok_iff.mp h with ⟨_, ⟨⟩⟩ | ⟨_, g, _, hg, hv⟩
  cases hv
  exact ⟨g, rfl, kind_of_assemble hg, wellFormed_of_assemble hg⟩

theorem Registry.inhabits_of_parseLiteral {name : String} {scalar : Scalar} {literal : Literal}
    {v : Value} (hs : standard.get? name = some scalar)
    (h : scalar.parseLiteral literal = .ok (some v)) : Inhabits name v := by
  obtain ⟨_, rfl⟩ := get?_standard_eq_some_iff.mp hs
  rcases cases_of_get?_standard hs with ⟨p, rfl⟩ | ⟨kind, rfl⟩ | rfl
  · rcases Primitive.parseLiteral_eq_ok_iff.mp h with ⟨_, ⟨⟩⟩ | ⟨_, j, hj, hv⟩
    cases hv
    exact Primitive.inhabits_of_ofLiteral? hj
  · obtain ⟨g, rfl, rfl, sound⟩ := GeometryInput.geometry_of_parseLiteral h
    exact .geometry rfl sound
  · rcases Composite.parseLiteral_eq_ok h with ⟨_, ⟨⟩⟩ | ⟨_, _, candidate, hm, hc⟩
    obtain ⟨kind, rfl⟩ := Composite.mem_standard_candidates.mp hm
    obtain ⟨g, rfl, rfl, sound⟩ := GeometryInput.geometry_of_parseLiteral hc
    exact .anyGeometry sound

namespace Binding

/-- What an argument of a type may be bound to. Only without non-null may it be absent. -/
def Conforms (type : TypeRef) : Option Value → Prop
  | none => type.isNonNull = false
  | some v => Fits Inhabits type v

theorem conforms_of_bind {supplied : List Argument} {definition : ArgumentDefinition}
    {entry : String × Option Value} (h : bind standard supplied definition = .ok entry) :
    entry.1 = definition.name ∧ Conforms definition.type entry.2 := by
  obtain ⟨_, hn, required⟩ := bind_eq_ok_iff.mp h
  refine ⟨hn, ?_⟩
  cases hv : entry.2 with
  | none => exact required hv
  | some v =>
    refine fits_of_bind ?_ h hv
    intro name scalar found literal v parsed
    exact Registry.inhabits_of_parseLiteral found parsed

/-- Arguments that are bound in the standard registry are bound one for one, in order and by name, each
to what conforms to its type. -/
theorem coerceArguments_conform {definitions : List ArgumentDefinition} {supplied : List Argument}
    {values : List (String × Option Value)}
    (h : coerceArguments standard definitions supplied = .ok values) :
    values.length = definitions.length ∧
      ∀ (i : Nat) (definition : ArgumentDefinition), definitions[i]? = some definition →
        ∃ value, values[i]? = some (definition.name, value) ∧ Conforms definition.type value := by
  obtain ⟨length, each⟩ := Outcome.getElem?_of_mapM h
  refine ⟨length, fun i definition hd => ?_⟩
  obtain ⟨⟨name, value⟩, hv, hb⟩ := each i definition hd
  obtain ⟨rfl, conforms⟩ := conforms_of_bind hb
  exact ⟨value, hv, conforms⟩

/-- A null and a single number among lists of numbers, next to an argument that is left out. -/
theorem coerceArguments_conform_bands :
    let bands : ArgumentDefinition :=
      { name := "bands", type := .nonNull (.list (.list (.nonNull (.named "Int")))) }
    let area : ArgumentDefinition := { name := "area", type := .named "Geometry" }
    let supplied : List Argument := [{ name := "bands", value := .list [.list [.int 1], .null, .int 2] }]
    ∃ values, coerceArguments standard [bands, area] supplied = .ok values ∧ values.length = 2 ∧
      (∃ value, values[0]? = some ("bands", value) ∧ Conforms bands.type value) ∧
      ∃ value, values[1]? = some ("area", value) ∧ Conforms area.type value := by
  intro bands area supplied
  let one : Value := .json (.number (.ofInt64 1))
  let two : Value := .json (.number (.ofInt64 2))
  let values := [("bands", some (Value.list [.list [one], .json .null, .list [two]])), ("area", none)]
  have bound : coerceArguments standard [bands, area] supplied = .ok values := rfl
  obtain ⟨length, each⟩ := coerceArguments_conform bound
  exact ⟨values, bound, length, each 0 bands rfl, each 1 area rfl⟩

end Binding
end SpatialQuery
