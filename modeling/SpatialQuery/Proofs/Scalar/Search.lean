import SpatialQuery.Scalar.Composite

/-! The outcome of a composite is that of one candidate: the first that is conclusive, or else the first
that the input claims to be for. -/
namespace SpatialQuery

/-- Whether an outcome ends a search, as all do but refusals of bad data. -/
def Coerced.isConclusive {α : Type} : Coerced α → Bool
  | .error (.data _ _) => false
  | _ => true

namespace Coerced

variable {α β : Type}

@[simp] theorem isConclusive_ok (result : α) : isConclusive (.ok result) = true := rfl

@[simp] theorem isConclusive_violation (typeName message : String) :
    isConclusive (.error (.contractViolation typeName message) : Coerced α) = true := rfl

@[simp] theorem isConclusive_data (typeName message : String) :
    isConclusive (.error (.data typeName message) : Coerced α) = false := rfl

/-- What does not end a search is an error. -/
theorem exists_error {x : Coerced α} (h : x.isConclusive = false) : ∃ error, x = .error error := by
  cases x with
  | ok result => cases h
  | error error => exact ⟨error, rfl⟩

theorem exists_data {x : Coerced α} (h : x.isConclusive = false) :
    ∃ typeName message, x = .error (.data typeName message) := by
  rcases x with (_ | ⟨typeName, message⟩) | result
  · cases h
  · exact ⟨typeName, message, rfl⟩
  · cases h

@[simp] theorem isConclusive_map (f : α → β) (x : Coerced α) :
    isConclusive (x.map f) = x.isConclusive := by
  cases x with
  | ok result => rfl
  | error error => cases error <;> rfl

end Coerced

namespace Composite

open SpatialQuery.Geometry (Kind)

variable {α β : Type} {declared : Option Kind} {attempt : Scalar → Coerced α}
  {otherwise : CoercionError} {candidates : List Scalar}

/-- The candidate whose outcome is that of the search. -/
def decisive? (declared : Option Kind) (attempt : Scalar → Coerced α) (candidates : List Scalar) :
    Option Scalar :=
  (candidates.find? fun candidate => (attempt candidate).isConclusive).or
    (candidates.find? fun candidate => declared.map Kind.inputTypeName = some candidate.name)

theorem firstAccepting_eq_decisive? (declared : Option Kind) (attempt : Scalar → Coerced α)
    (otherwise : CoercionError) (candidates : List Scalar) :
    firstAccepting declared attempt otherwise candidates =
      match decisive? declared attempt candidates with
      | some candidate => attempt candidate
      | none => .error otherwise := by
  induction candidates generalizing declared otherwise with
  | nil => rfl
  | cons candidate rest ih =>
    rw [firstAccepting, decisive?, List.find?_cons, List.find?_cons]
    cases h : attempt candidate with
    | ok result => exact h.symm
    | error error =>
      cases error with
      | contractViolation typeName message => exact h.symm
      | data typeName message =>
        simp only [Coerced.isConclusive_data]
        split
        · next same =>
          -- From here on the refusal is what the search falls back to.
          have undeclared : rest.find? (fun c => (none : Option Kind).map Kind.inputTypeName =
              some c.name) = none := by simp
          rw [ih, decisive?, undeclared, same]
          cases rest.find? fun candidate => (attempt candidate).isConclusive with
          | some found => rfl
          | none => simp [h]
        · next other => simp only [ih, decisive?, decide_eq_false other]

theorem mem_of_decisive? {candidate : Scalar}
    (h : decisive? declared attempt candidates = some candidate) : candidate ∈ candidates := by
  rcases Option.or_eq_some_iff.mp h with h | ⟨_, h⟩ <;> exact List.mem_of_find?_eq_some h

/-- Searches whose attempts correspond candidate by candidate end in corresponding outcomes. -/
theorem firstAccepting_rel {r : Coerced α → Coerced β → Prop} {attempt' : Scalar → Coerced β}
    {otherwise' : CoercionError} (hr : ∀ x y, r x y → x.isConclusive = y.isConclusive)
    (ha : ∀ candidate ∈ candidates, r (attempt candidate) (attempt' candidate))
    (ho : r (.error otherwise) (.error otherwise')) :
    r (firstAccepting declared attempt otherwise candidates)
      (firstAccepting declared attempt' otherwise' candidates) := by
  have same : decisive? declared attempt candidates = decisive? declared attempt' candidates := by
    have hc : ∀ candidate ∈ candidates,
        (attempt candidate).isConclusive = (attempt' candidate).isConclusive :=
      fun candidate hm => hr _ _ (ha candidate hm)
    rw [decisive?, decisive?]
    congr 1
    clear ha
    induction candidates with
    | nil => rfl
    | cons candidate rest ih =>
      rw [List.find?_cons, List.find?_cons, hc candidate (by simp),
        ih fun c hm => hc c (by simp [hm])]
  rw [firstAccepting_eq_decisive?, firstAccepting_eq_decisive?, ← same]
  cases h : decisive? declared attempt candidates with
  | none => exact ho
  | some candidate => exact ha candidate (mem_of_decisive? h)

/-- A search that fails does so as a candidate fails, or as was given for no match. -/
theorem firstAccepting_eq_error {error : CoercionError}
    (h : firstAccepting declared attempt otherwise candidates = .error error) :
    error = otherwise ∨ ∃ candidate ∈ candidates, attempt candidate = .error error := by
  rw [firstAccepting_eq_decisive?] at h
  cases hd : decisive? declared attempt candidates with
  | none =>
    rw [hd] at h
    cases h
    exact .inl rfl
  | some candidate =>
    rw [hd] at h
    exact .inr ⟨candidate, mem_of_decisive? hd, h⟩

/-- A search succeeds exactly as the first conclusive candidate does. -/
theorem firstAccepting_eq_ok_iff {result : α} :
    firstAccepting declared attempt otherwise candidates = .ok result ↔
      ∃ candidate, candidates.find? (fun c => (attempt c).isConclusive) = some candidate ∧
        attempt candidate = .ok result := by
  rw [firstAccepting_eq_decisive?, decisive?]
  cases h : candidates.find? fun candidate => (attempt candidate).isConclusive with
  | some candidate => simp
  | none =>
    simp only [Option.none_or, reduceCtorEq, false_and, exists_false, iff_false]
    cases hd : candidates.find? fun c => declared.map Kind.inputTypeName = some c.name with
    | none => exact nofun
    | some candidate =>
      -- The claimed candidate has refused as all have, so it has no success to give.
      have hc := List.find?_eq_none.mp h candidate (List.mem_of_find?_eq_some hd)
      intro ok
      exact hc (by rw [show attempt candidate = .ok result from ok]; rfl)

theorem isConclusive_firstAccepting (ho : otherwise.isData = true) :
    (firstAccepting declared attempt otherwise candidates).isConclusive =
      candidates.any fun candidate => (attempt candidate).isConclusive := by
  induction candidates generalizing declared otherwise with
  | nil => cases otherwise <;> simp_all [firstAccepting, Coerced.isConclusive, CoercionError.isData]
  | cons candidate rest ih =>
    rw [firstAccepting, List.any_cons]
    cases attempt candidate with
    | ok result => rfl
    | error error =>
      cases error with
      | contractViolation typeName message => rfl
      | data typeName message =>
        simp only [Coerced.isConclusive_data, Bool.false_or]
        split
        · exact ih rfl
        · exact ih ho

/-- A search is refused, or has the outcome of a candidate that is conclusive. -/
theorem firstAccepting_cases (ho : otherwise.isData = true) :
    (firstAccepting declared attempt otherwise candidates).isConclusive = false ∨
      ∃ candidate ∈ candidates, (attempt candidate).isConclusive = true ∧
        firstAccepting declared attempt otherwise candidates = attempt candidate := by
  cases h : candidates.find? fun candidate => (attempt candidate).isConclusive with
  | none =>
    left
    rw [isConclusive_firstAccepting ho]
    simpa using h
  | some candidate =>
    right
    refine ⟨candidate, List.mem_of_find?_eq_some h, by simpa using List.find?_some h, ?_⟩
    rw [firstAccepting_eq_decisive?, decisive?, h]
    rfl

/-- Where each candidate refuses or gives one and the same result, and some candidate gives it, the
search gives it. -/
theorem firstAccepting_eq_ok {result : α}
    (ha : ∀ candidate ∈ candidates,
      attempt candidate = .ok result ∨ (attempt candidate).isConclusive = false)
    (he : ∃ candidate ∈ candidates, attempt candidate = .ok result) :
    firstAccepting declared attempt otherwise candidates = .ok result := by
  obtain ⟨accepting, hm, hok⟩ := he
  obtain ⟨candidate, hf⟩ : ∃ candidate,
      candidates.find? (fun c => (attempt c).isConclusive) = some candidate :=
    Option.isSome_iff_exists.mp (List.find?_isSome.mpr ⟨accepting, hm, by simp [hok]⟩)
  refine firstAccepting_eq_ok_iff.mpr ⟨candidate, hf, ?_⟩
  exact (ha candidate (List.mem_of_find?_eq_some hf)).resolve_right (by simp [List.find?_some hf])

theorem exists_of_firstAccepting_eq_ok {result : α}
    (h : firstAccepting declared attempt otherwise candidates = .ok result) :
    ∃ candidate ∈ candidates, attempt candidate = .ok result := by
  obtain ⟨candidate, hf, hok⟩ := firstAccepting_eq_ok_iff.mp h
  exact ⟨candidate, List.mem_of_find?_eq_some hf, hok⟩

/-- Attempts that differ by a function of their results make searches that differ by it. -/
theorem firstAccepting_map {attempt' : Scalar → Coerced β} (f : α → β)
    (h : ∀ candidate ∈ candidates, attempt' candidate = (attempt candidate).map f) :
    firstAccepting declared attempt' otherwise candidates =
      (firstAccepting declared attempt otherwise candidates).map f := by
  refine firstAccepting_rel (r := fun x y => x = y.map f) ?_ h rfl
  rintro _ x rfl
  exact Coerced.isConclusive_map f x

end Composite
end SpatialQuery
