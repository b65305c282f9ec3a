import SpatialQuery.Proofs.Validation.Invocations

namespace SpatialQuery

/-- A rule that leaves in front what was found before it, and adds what it finds by itself. -/
def ValidationRule.AddsOnly (rule : ValidationRule) : Prop :=
  ∀ (system : TypeSystem) (document : Document) (errors : Array ValidationError),
    rule.check system document errors = errors ++ rule.check system document #[]

namespace Validator

/-- Rules that only add do not see one another. -/
theorem validate_toList_of_addsOnly {validator : Validator}
    (h : ∀ rule ∈ validator.rules, rule.AddsOnly) (system : TypeSystem) (document : Document) :
    (validator.validate system document).toList =
      validator.rules.flatMap fun rule => (rule.check system document #[]).toList := by
  refine RequiredArguments.foldl_toList ?_ #[]
  intro rule hm errors
  rw [h rule hm, Array.toList_append]

end Validator

namespace RequiredArguments

theorem rule_addsOnly : rule.AddsOnly := by
  intro system document errors
  apply Array.toList_inj.mp
  rw [Array.toList_append]
  exact (check_toList system document errors).trans
    (congrArg (errors.toList ++ ·) (check_toList system document #[]).symm)

/-- Whatever parent type is in force, there are ancestors that would put it in force. -/
theorem exists_parentType (system : TypeSystem) (type : Option String) :
    ∃ ancestors, parentType system ancestors = type := by
  cases type with
  | none => exact ⟨[], rfl⟩
  | some name => exact ⟨[.inlineFragment (some name)], rfl⟩

theorem checkSelections_eq_append (system : TypeSystem) (type : Option String)
    (errors : Array ValidationError) (selections : List Selection) :
    checkSelections system type errors selections =
      errors ++ checkSelections system type #[] selections := by
  obtain ⟨ancestors, rfl⟩ := exists_parentType system type
  apply Array.toList_inj.mp
  rw [Array.toList_append, checkSelections_toList, checkSelections_toList, List.nil_append]

/-- Selections are walked one after another. -/
theorem checkSelections_append {system : TypeSystem} (type : Option String)
    (errors : Array ValidationError) (selections others : List Selection) :
    checkSelections system type errors (selections ++ others) =
      checkSelections system type (checkSelections system type errors selections) others := by
  induction selections generalizing errors with
  | nil => rw [List.nil_append, checkSelections]
  | cons selection rest ih => rw [List.cons_append, checkSelections, ih, checkSelections]

/-- Operations are walked one after another, too. -/
theorem check_append (system : TypeSystem) (operations others : List Operation)
    (errors : Array ValidationError) :
    check system ⟨operations ++ others⟩ errors =
      check system ⟨others⟩ (check system ⟨operations⟩ errors) :=
  List.foldl_append

theorem replicate_rule_toList (system : TypeSystem) (document : Document) (n : Nat) :
    ((Validator.mk (List.replicate n rule)).validate system document).toList =
      (List.replicate n (document.validate system).toList).flatten := by
  have addsOnly : ∀ other ∈ List.replicate n rule, other.AddsOnly := by
    intro other hm
    rw [List.eq_of_mem_replicate hm]
    exact rule_addsOnly
  rw [Validator.validate_toList_of_addsOnly addsOnly]
  exact List.flatMap_replicate

theorem replicate_rule_isEmpty (system : TypeSystem) (document : Document) (n : Nat) :
    ((Validator.mk (List.replicate n rule)).validate system document).isEmpty = true ↔
      n = 0 ∨ (document.validate system).isEmpty = true := by
  rw [Array.isEmpty_iff, Array.isEmpty_iff, ← Array.toList_eq_nil_iff, replicate_rule_toList,
    List.flatten_eq_nil_iff, ← Array.toList_eq_nil_iff]
  cases n with
  | zero => simp
  | succ n => simp

end RequiredArguments

/-- Validation is additive. The rule leaves in front what was found before it, and adds the errors of the
document. So `n` of these rules report its errors `n` times; they let it pass exactly if there are no
rules or no errors, and else give all that they found. The errors of operations, or of selections under
one parent type, that follow others are added to the errors of these. -/
theorem validate_additive (system : TypeSystem) :
    (∀ (document : Document) (errors : Array ValidationError),
      RequiredArguments.rule.check system document errors = errors ++ document.validate system) ∧
    (∀ (document : Document) (n : Nat),
      let errors := (Validator.mk (List.replicate n RequiredArguments.rule)).validate system document
      errors.toList = (List.replicate n (document.validate system).toList).flatten ∧
      (errors.isEmpty = true ↔ n = 0 ∨ (document.validate system).isEmpty = true) ∧
      Validator.gate errors =
        if n = 0 ∨ (document.validate system).isEmpty = true then .ok () else .error errors) ∧
    (∀ operations others : List Operation,
      (Document.mk (operations ++ others)).validate system =
        (Document.mk operations).validate system ++ (Document.mk others).validate system) ∧
    ∀ (parentType : Option String) (errors : Array ValidationError)
      (selections others : List Selection),
      RequiredArguments.checkSelections system parentType errors (selections ++ others) =
        errors ++ (RequiredArguments.checkSelections system parentType #[] selections ++
          RequiredArguments.checkSelections system parentType #[] others) := by
  refine ⟨fun document errors => RequiredArguments.rule_addsOnly system document errors, ?_, ?_, ?_⟩
  · intro document n errors
    have empty := RequiredArguments.replicate_rule_isEmpty system document n
    refine ⟨RequiredArguments.replicate_rule_toList system document n, empty, ?_⟩
    rw [Validator.gate]
    exact ite_congr (propext empty) (fun _ => rfl) fun _ => rfl
  · intro operations others
    exact (RequiredArguments.check_append system operations others #[]).trans
      (RequiredArguments.rule_addsOnly system ⟨others⟩ _)
  · intro parentType errors selections others
    rw [RequiredArguments.checkSelections_append, RequiredArguments.checkSelections_eq_append system
      parentType (RequiredArguments.checkSelections system parentType errors selections),
      RequiredArguments.checkSelections_eq_append system parentType errors, Array.append_assoc]

end SpatialQuery
