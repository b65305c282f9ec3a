import SpatialQuery.Proofs.Scalar.Normalization

namespace SpatialQuery

/-- Texts that do not open as the report of a missing argument does. Texts about the fields of an
object share four characters with it, so it takes five to tell. -/
def OpensOtherwise (text : String) : Prop := ¬ text.toList.take 5 <+: "The a".toList

instance (text : String) : Decidable (OpensOtherwise text) := inferInstanceAs (Decidable (¬ _))

theorem OpensOtherwise.append {text : String} (h : OpensOtherwise text) (rest : String) :
    OpensOtherwise (text ++ rest) := by
  intro same
  apply h
  rw [String.toList_append, List.take_append] at same
  exact (List.prefix_append _ _).trans same

theorem not_opensOtherwise_missing (name : String) :
    ¬ OpensOtherwise s!"The argument `{name}` is required." := by
  intro other
  apply other
  rw [String.toList_append, String.toList_append]
  exact List.prefix_rfl

namespace Geometry

theorem Nested.Flaw.opensOtherwise (flaw : Nested.Flaw) : OpensOtherwise flaw.message := by
  cases flaw with
  | literal found =>
    have opening : OpensOtherwise "coordinates may only contain numbers and lists, found " := by decide
    exact opening.append _
  | positionLength found =>
    have opening : OpensOtherwise "a position needs exactly 2 numbers, found " := by decide
    exact opening.append _
  | json | notFinite | notList | tooDeep => decide

theorem Kind.opensOtherwise (kind : Kind) : OpensOtherwise kind.name := by cases kind <;> decide

theorem Flaw.opensOtherwise (flaw : Flaw) : OpensOtherwise flaw.message := by
  cases flaw with
  | depth kind found => exact .append (.append (.append (.append kind.opensOtherwise _) _) _) _
  | notFinite kind => exact kind.opensOtherwise.append _
  | shortLine length =>
    have opening : OpensOtherwise "a line string needs at least 2 positions, found " := by decide
    exact opening.append _
  | shortRing length =>
    have opening : OpensOtherwise "a linear ring needs at least 4 positions, found " := by decide
    exact opening.append _
  | openRing => decide

end Geometry

namespace GeometryInput

open SpatialQuery.Geometry (typeField coordinatesField sridField)

theorem Flaw.opensOtherwise (flaw : Flaw) : OpensOtherwise flaw.message := by
  have ofType : OpensOtherwise ("The `" ++ typeField) := by decide
  cases flaw with
  | typeMissing expected => exact .append (.append (.append ofType _) _) _
  | typeDiffers found expected => exact .append (.append (.append (.append (.append ofType _) _) _) _) _
  | typeNoString found =>
    cases found with
    | none => exact ofType.append _
    | some found => exact .append (.append (.append ofType _) _) _
  | coordinatesMissing =>
    have opening : OpensOtherwise ("The `" ++ coordinatesField) := by decide
    exact opening.append _
  | srid =>
    have opening : OpensOtherwise ("The `" ++ sridField) := by decide
    exact opening.append _
  | nested flaw => exact flaw.opensOtherwise
  | geometry flaw => exact flaw.opensOtherwise

end GeometryInput

/-- Bad data is never reported by a known type in the words of a missing argument. -/
theorem Scalar.Known.opensOtherwise {s : Scalar} {literal : Literal} {typeName message : String}
    (h : Known s) (hp : s.parseLiteral literal = .error (.data typeName message)) :
    OpensOtherwise message := by
  induction h using induction with
  | primitive p =>
    change p.parseLiteral literal = .error _ at hp
    unfold Primitive.parseLiteral at hp
    split at hp
    · cases hp
    · split at hp
      · cases hp
      · have opening : OpensOtherwise (p.name ++ " cannot parse ") := by cases p <;> decide
        cases hp
        exact .append (.append opening _) _
  | geometry kind =>
    cases literal with
    | object fields =>
      change GeometryInput.parseLiteral kind (.object fields) = .error _ at hp
      rw [GeometryInput.parseLiteral_object, Outcome.map_eq_error_iff] at hp
      cases hg : GeometryInput.geometryOfLiteral kind (.object fields) with
      | ok g =>
        rw [hg] at hp
        cases hp
      | error flaw =>
        rw [hg] at hp
        cases hp
        exact flaw.opensOtherwise
    | null | int | float | string | boolean | enum | list => cases hp
  | composite composite known hk ih =>
    cases literal with
    | object fields =>
      rcases Composite.firstAccepting_eq_error hp with unmatched | ⟨candidate, hm, hc⟩
      · have opening : OpensOtherwise "object literal" := by decide
        cases unmatched
        exact opening.append _
      · exact ih candidate hm hc
    | null | int | float | string | boolean | enum | list => cases hp

end SpatialQuery
