import SpatialQuery.Proofs.Scalar.Search
import SpatialQuery.Scalar.Primitive

namespace SpatialQuery

namespace Coerced

variable {α : Type} {x : Coerced α}

/-- A refusal of bad data. -/
def Refuses (x : Coerced α) : Prop := ∃ typeName message, x = .error (.data typeName message)

theorem refuses_iff : x.Refuses ↔ x.isConclusive = false := by
  constructor
  · rintro ⟨typeName, message, rfl⟩
    rfl
  · exact exists_data

theorem not_refuses_iff : ¬ x.Refuses ↔ x.isConclusive = true := by
  rw [refuses_iff, Bool.not_eq_false]

end Coerced

namespace Composite

open SpatialQuery.Geometry (Kind)

variable {α : Type} {declared : Option Kind} {what : String} {attempt : Scalar → Coerced α}
  {candidates : List Scalar} {outcome : Coerced α}

/-- The three ways in which a search among candidates may end, whatever their names are. -/
inductive Ends (declared : Option Kind) (what : String) (attempt : Scalar → Coerced α) :
    List Scalar → Coerced α → Prop where
  /-- The first candidate that does not refuse has succeeded, or its contract is broken. -/
  | decided {before after : List Scalar} {candidate : Scalar}
    (refused : ∀ c ∈ before, (attempt c).Refuses) (decides : ¬ (attempt candidate).Refuses) :
    Ends declared what attempt (before ++ candidate :: after) (attempt candidate)
  /-- All have refused, and one of them has the name for the declared kind. -/
  | claimed {kind : Kind} {before after : List Scalar} {candidate : Scalar}
    (refused : ∀ c ∈ before ++ candidate :: after, (attempt c).Refuses)
    (declares : declared = some kind) (first : ∀ c ∈ before, c.name ≠ kind.inputTypeName)
    (named : candidate.name = kind.inputTypeName) :
    Ends declared what attempt (before ++ candidate :: after) (attempt candidate)
  /-- All have refused, and none has such a name. -/
  | unmatched {candidates : List Scalar} (refused : ∀ c ∈ candidates, (attempt c).Refuses)
    (unnamed : ∀ kind, declared = some kind → ∀ c ∈ candidates, c.name ≠ kind.inputTypeName) :
    Ends declared what attempt candidates
      (.error (.data "Geometry" s!"{what} does not match any supported geometry kind"))

theorem find?_conclusive_eq_none_iff :
    candidates.find? (fun c => (attempt c).isConclusive) = none ↔
      ∀ c ∈ candidates, (attempt c).Refuses := by
  simp only [List.find?_eq_none, Coerced.refuses_iff, Bool.not_eq_true]

theorem find?_conclusive_append {before after : List Scalar} {candidate : Scalar}
    (refused : ∀ c ∈ before, (attempt c).Refuses) (decides : ¬ (attempt candidate).Refuses) :
    (before ++ candidate :: after).find? (fun c => (attempt c).isConclusive) = some candidate := by
  rw [List.find?_append, find?_conclusive_eq_none_iff.mpr refused, Option.none_or]
  exact List.find?_cons_of_pos (Coerced.not_refuses_iff.mp decides)

theorem find?_named_eq_none_iff :
    candidates.find? (fun c => declared.map Kind.inputTypeName = some c.name) = none ↔
      ∀ kind, declared = some kind → ∀ c ∈ candidates, c.name ≠ kind.inputTypeName := by
  rw [List.find?_eq_none]
  constructor
  · rintro unnamed kind rfl c hm same
    exact unnamed c hm (by simp [same])
  · intro unnamed c hm named
    obtain ⟨kind, hd, same⟩ := Option.map_eq_some_iff.mp (of_decide_eq_true named)
    exact unnamed kind hd c hm same.symm

theorem ends_firstAccepting : Ends declared what attempt candidates
    (firstAccepting declared attempt (noMatch what) candidates) := by
  rw [firstAccepting_eq_decisive?, decisive?]
  cases conclusive : candidates.find? fun c => (attempt c).isConclusive with
  | some candidate =>
    obtain ⟨decides, before, after, rfl, refused⟩ := List.find?_eq_some_iff_append.mp conclusive
    refine .decided (fun c hm => ?_) (Coerced.not_refuses_iff.mpr decides)
    exact Coerced.refuses_iff.mpr (by simpa using refused c hm)
  | none =>
    -- All have refused, so a candidate is heard for its name alone.
    have refused := find?_conclusive_eq_none_iff.mp conclusive
    rw [Option.none_or]
    cases claimed : candidates.find? fun c => declared.map Kind.inputTypeName = some c.name with
    | none => exact .unmatched refused (find?_named_eq_none_iff.mp claimed)
    | some candidate =>
      obtain ⟨named, before, after, rfl, first⟩ := List.find?_eq_some_iff_append.mp claimed
      obtain ⟨kind, hd, same⟩ := Option.map_eq_some_iff.mp (of_decide_eq_true named)
      refine .claimed refused hd (fun c hm other => ?_) same.symm
      simpa [hd, other] using first c hm

theorem Ends.firstAccepting_eq (h : Ends declared what attempt candidates outcome) :
    firstAccepting declared attempt (noMatch what) candidates = outcome := by
  rw [firstAccepting_eq_decisive?, decisive?]
  cases h with
  | decided refused decides => rw [find?_conclusive_append refused decides, Option.some_or]
  | @claimed kind before after candidate refused declares first named =>
    have unnamed : before.find? (fun c => declared.map Kind.inputTypeName = some c.name) = none := by
      apply find?_named_eq_none_iff.mpr
      rintro other hd
      cases declares.symm.trans hd
      exact first
    have claimed : (before ++ candidate :: after).find?
        (fun c => declared.map Kind.inputTypeName = some c.name) = some candidate := by
      rw [List.find?_append, unnamed, Option.none_or]
      exact List.find?_cons_of_pos (by simp [declares, named])
    rw [find?_conclusive_eq_none_iff.mpr refused, claimed, Option.none_or]
  | unmatched refused unnamed =>
    rw [find?_conclusive_eq_none_iff.mpr refused, find?_named_eq_none_iff.mpr unnamed]
    rfl

/-- A search ends in one of the three ways, with the outcome that goes with it and no other. What stands
after the first candidate that does not refuse has no part in it. -/
theorem firstAccepting_decides (declared : Option Kind) (what : String)
    (attempt : Scalar → Coerced α) :
    (∀ candidates outcome, firstAccepting declared attempt (noMatch what) candidates = outcome ↔
      Ends declared what attempt candidates outcome) ∧
    ∀ before candidate after after', (∀ c ∈ before, (attempt c).Refuses) →
      ¬ (attempt candidate).Refuses →
        firstAccepting declared attempt (noMatch what) (before ++ candidate :: after) =
          firstAccepting declared attempt (noMatch what) (before ++ candidate :: after') := by
  constructor
  · intro candidates outcome
    constructor
    · rintro rfl
      exact ends_firstAccepting
    · exact Ends.firstAccepting_eq
  · intro before candidate after after' refused decides
    have decided (after : List Scalar) :
        firstAccepting declared attempt (noMatch what) (before ++ candidate :: after) =
          attempt candidate :=
      (Ends.decided refused decides).firstAccepting_eq
    rw [decided after, decided after']

/-- A text as a literal is refused as an integer and breaks the contract of points, and strings, which
would take it, are not asked. A point without coordinates is refused by all, and of the two candidates
with the name for points the first is heard. -/
theorem firstAccepting_decides_points :
    let integers : Scalar := Primitive.int.scalar
    let points : Scalar := GeometryInput.scalar .point
    let strings : Scalar := Primitive.string.scalar
    let named : Scalar := { integers with name := "PointInput" }
    let text : Scalar → Coerced (Option Value) := (·.parseLiteral (.string "POINT (1 2)"))
    let point : Scalar → Coerced (Option Value) := (·.parseLiteral (.object [("type", .enum "Point")]))
    firstAccepting (some .point) text (noMatch "object literal") [integers, points, strings] =
      .error (.contractViolation "PointInput" "parse_literal expects an object literal, got string") ∧
    firstAccepting (some .point) text (noMatch "object literal") [integers, points, strings] =
      firstAccepting (some .point) text (noMatch "object literal") [integers, points] ∧
    firstAccepting (some .point) point (noMatch "object literal") [strings, named, points] =
      .error (.data "Int" "Int cannot parse object literal") := by
  intro integers points strings named text point
  have refused : ∀ c ∈ [integers], (text c).Refuses := by
    intro c hm
    rw [List.mem_singleton.mp hm]
    exact ⟨_, _, rfl⟩
  have decides : ¬ (text points).Refuses := by
    rintro ⟨typeName, message, ⟨⟩⟩
  have claimed : Ends (some .point) "object literal" point ([strings] ++ named :: [points])
      (point named) := by
    refine .claimed ?_ rfl ?_ rfl
    · intro c hm
      simp only [List.cons_append, List.nil_append, List.mem_cons, List.not_mem_nil, or_false] at hm
      rcases hm with rfl | rfl | rfl <;> exact ⟨_, _, rfl⟩
    · intro c hm
      rw [List.mem_singleton.mp hm]
      decide
  obtain ⟨textEnds, textCut⟩ := firstAccepting_decides (some .point) "object literal" text
  obtain ⟨pointEnds, _⟩ := firstAccepting_decides (some .point) "object literal" point
  exact ⟨(textEnds _ _).mpr (.decided refused decides), textCut _ _ _ _ refused decides,
    (pointEnds _ _).mpr claimed⟩

end Composite
end SpatialQuery
