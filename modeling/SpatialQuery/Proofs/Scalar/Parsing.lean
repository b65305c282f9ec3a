import SpatialQuery.Proofs.Geometry.WellFormed
import SpatialQuery.Proofs.Scalar.Normalization

namespace SpatialQuery

/-- The values that literals are parsed to, each by the type that has it. -/
inductive Literal.Parses : Literal → Option Value → Prop where
  | null : Parses .null none
  | primitive {p : Primitive} {literal : Literal} {j : Json} (h : p.ofLiteral? literal = some j) :
    Parses literal (some (.json j))
  | geometry {kind : Geometry.Kind} {literal : Literal} {g : Geometry}
    (h : GeometryInput.geometryOfLiteral kind literal = .ok g) : Parses literal (some (.geometry g))

namespace Primitive

theorem parseLiteral_eq_ok_iff {p : Primitive} {literal : Literal} {runtime : Option Value} :
    p.scalar.parseLiteral literal = .ok runtime ↔
      literal = .null ∧ runtime = none ∨
        literal ≠ .null ∧ ∃ j, p.ofLiteral? literal = some j ∧ runtime = some (.json j) := by
  change p.parseLiteral literal = .ok runtime ↔ _
  by_cases hn : literal = .null
  · subst hn
    simp [parseLiteral, Literal.isNull, eq_comm]
  · have present : literal.isNull = false := by
      rw [Bool.eq_false_iff, ne_eq, Literal.isNull_iff]
      exact hn
    rw [parseLiteral, present, if_neg Bool.false_ne_true]
    cases p.ofLiteral? literal <;> simp [hn, eq_comm]

end Primitive

namespace GeometryInput

theorem parseLiteral_eq_ok_iff {kind : Geometry.Kind} {literal : Literal} {runtime : Option Value} :
    (scalar kind).parseLiteral literal = .ok runtime ↔
      literal = .null ∧ runtime = none ∨
        ∃ fields g, literal = .object fields ∧ geometryOfLiteral kind literal = .ok g ∧
          runtime = some (.geometry g) := by
  change parseLiteral kind literal = .ok runtime ↔ _
  cases literal with
  | null => simp [parseLiteral, eq_comm]
  | object fields =>
    rw [parseLiteral_object, Outcome.map_eq_ok_iff]
    simp only [Outcome.mapError_eq_ok_iff]
    constructor
    · rintro ⟨g, hg, rfl⟩
      exact .inr ⟨fields, g, rfl, hg, rfl⟩
    · rintro (⟨⟨⟩, _⟩ | ⟨_, g, _, hg, rfl⟩)
      exact ⟨g, hg, rfl⟩
  | int | float | string | boolean | enum | list => simp [parseLiteral]

end GeometryInput

namespace Composite

theorem parseLiteral_eq_ok {composite : Composite} {literal : Literal} {runtime : Option Value}
    (h : composite.scalar.parseLiteral literal = .ok runtime) :
    literal = .null ∧ runtime = none ∨
      ∃ fields, literal = .object fields ∧
        ∃ candidate ∈ composite.candidates, candidate.parseLiteral literal = .ok runtime := by
  cases literal with
  | null => exact .inl ⟨rfl, (Except.ok.inj h).symm⟩
  | object fields => exact .inr ⟨fields, rfl, exists_of_firstAccepting_eq_ok h⟩
  | int | float | string | boolean | enum | list => cases h

end Composite

namespace Scalar.Known

variable {s : Scalar} {literal : Literal} {runtime : Option Value}

theorem parses (h : Known s) (hp : s.parseLiteral literal = .ok runtime) :
    literal.Parses runtime := by
  induction h using induction with
  | primitive p =>
    rcases Primitive.parseLiteral_eq_ok_iff.mp hp with ⟨rfl, rfl⟩ | ⟨_, j, hj, rfl⟩
    · exact .null
    · exact .primitive hj
  | geometry kind =>
    rcases GeometryInput.parseLiteral_eq_ok_iff.mp hp with ⟨rfl, rfl⟩ | ⟨fields, g, rfl, hg, rfl⟩
    · exact .null
    · exact .geometry hg
  | composite composite known hk ih =>
    rcases Composite.parseLiteral_eq_ok hp with ⟨rfl, rfl⟩ | ⟨fields, rfl, candidate, hm, hc⟩
    · exact .null
    · exact ih candidate hm hc

/-- Only null is parsed to nothing. -/
theorem eq_null_of_parseLiteral (h : Known s) (hp : s.parseLiteral literal = .ok none) :
    literal = .null := by
  cases h.parses hp
  rfl

end Scalar.Known
end SpatialQuery
