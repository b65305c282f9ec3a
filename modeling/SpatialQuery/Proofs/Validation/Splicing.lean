import Mathlib.Data.List.Forall2
import SpatialQuery.Proofs.Validation.Appending

namespace SpatialQuery

open RequiredArguments (typeInside)

/-- Whether the parent type inside a fragment of a condition is the one around it. -/
def KeepsParentType (parentType condition : Option String) : Prop :=
  condition = none ∨ condition = parentType

section

variable (system : TypeSystem)

mutual

/-- A selection becomes selections: inside it, and in its own place, fragments that change nothing may
be replaced by what they hold. -/
inductive Selection.Splices : Option String → Selection → List Selection → Prop where
  | field {parentType : Option String} {name : String} {arguments : List Argument}
    {directives : List Directive} {selections spliced : List Selection} {location : Location}
    (h : Selection.AllSplices (typeInside system parentType name) selections spliced) :
    Selection.Splices parentType (.field name arguments directives selections location)
      [.field name arguments directives spliced location]
  | inlineFragment {parentType condition : Option String} {directives : List Directive}
    {selections spliced : List Selection} {location : Location}
    (h : Selection.AllSplices (condition.or parentType) selections spliced) :
    Selection.Splices parentType (.inlineFragment condition directives selections location)
      [.inlineFragment condition directives spliced location]
  | splice {parentType condition : Option String} {selections spliced : List Selection}
    {location : Location} (keeps : KeepsParentType parentType condition)
    (h : Selection.AllSplices parentType selections spliced) :
    Selection.Splices parentType (.inlineFragment condition [] selections location) spliced

inductive Selection.AllSplices : Option String → List Selection → List Selection → Prop where
  | nil {parentType : Option String} : Selection.AllSplices parentType [] []
  | cons {parentType : Option String} {selection : Selection} {spliced rest others : List Selection}
    (h : Selection.Splices parentType selection spliced)
    (hr : Selection.AllSplices parentType rest others) :
    Selection.AllSplices parentType (selection :: rest) (spliced ++ others)

end

/-- One run of selections, at any depth, is put into a fragment that changes nothing there. -/
inductive Selection.Wraps : Option String → List Selection → List Selection → Prop where
  | run {parentType condition : Option String} {before run after : List Selection}
    {location : Location} (keeps : KeepsParentType parentType condition) :
    Selection.Wraps parentType (before ++ (run ++ after))
      (before ++ .inlineFragment condition [] run location :: after)
  | field {parentType : Option String} {name : String} {arguments : List Argument}
    {directives : List Directive} {before selections wrapped after : List Selection}
    {location : Location} (h : Selection.Wraps (typeInside system parentType name) selections wrapped) :
    Selection.Wraps parentType (before ++ .field name arguments directives selections location :: after)
      (before ++ .field name arguments directives wrapped location :: after)
  | inlineFragment {parentType condition : Option String} {directives : List Directive}
    {before selections wrapped after : List Selection} {location : Location}
    (h : Selection.Wraps (condition.or parentType) selections wrapped) :
    Selection.Wraps parentType
      (before ++ .inlineFragment condition directives selections location :: after)
      (before ++ .inlineFragment condition directives wrapped location :: after)

/-- Operations that differ in their selections only, in which fragments are replaced. -/
structure Operation.Splices (operation spliced : Operation) : Prop where
  selections : Selection.AllSplices system (system.rootType operation.kind) operation.selections
    spliced.selections
  others : spliced = { operation with selections := spliced.selections }

def Document.Splices (document spliced : Document) : Prop :=
  List.Forall₂ (Operation.Splices system) document.operations spliced.operations

/-- A document in which one run of selections is put into a fragment. -/
inductive Document.Wraps : Document → Document → Prop where
  | intro {before after : List Operation} {operation : Operation} {wrapped : List Selection}
    (h : Selection.Wraps system (system.rootType operation.kind) operation.selections wrapped) :
    Document.Wraps ⟨before ++ operation :: after⟩
      ⟨before ++ { operation with selections := wrapped } :: after⟩

end

variable {system : TypeSystem}

namespace RequiredArguments

theorem or_of_keeps {parentType condition : Option String} (h : KeepsParentType parentType condition) :
    condition.or parentType = parentType := by
  rcases h with rfl | rfl
  · rfl
  · exact Option.or_self

mutual

theorem checkSelection_splices (parentType : Option String) (selection : Selection)
    (spliced : List Selection) (h : selection.Splices system parentType spliced)
    (errors : Array ValidationError) :
    checkSelections system parentType errors spliced =
      checkSelection system parentType errors selection := by
  cases h with
  | field h =>
    rw [checkSelections, checkSelections, checkSelection, checkSelection]
    exact checkSelections_splices _ _ _ h _
  | inlineFragment h =>
    rw [checkSelections, checkSelections, checkSelection, checkSelection]
    exact checkSelections_splices _ _ _ h _
  | splice keeps h =>
    rw [checkSelection, or_of_keeps keeps]
    exact checkSelections_splices _ _ _ h _

theorem checkSelections_splices (parentType : Option String) (selections spliced : List Selection)
    (h : Selection.AllSplices system parentType selections spliced)
    (errors : Array ValidationError) :
    checkSelections system parentType errors spliced =
      checkSelections system parentType errors selections := by
  cases h with
  | nil => rfl
  | cons h hr =>
    rw [checkSelections_append, checkSelections, checkSelection_splices _ _ _ h]
    exact checkSelections_splices _ _ _ hr _

end

theorem checkOperation_splices {operation spliced : Operation} (h : operation.Splices system spliced)
    (errors : Array ValidationError) :
    checkOperation system errors spliced = checkOperation system errors operation := by
  rw [h.others, checkOperation, checkOperation, checkSelections_splices _ _ _ h.selections]

theorem check_splices {document spliced : Document} (h : document.Splices system spliced)
    (errors : Array ValidationError) : check system spliced errors = check system document errors := by
  obtain ⟨operations⟩ := document
  obtain ⟨others⟩ := spliced
  rw [check, check]
  change List.Forall₂ (Operation.Splices system) operations others at h
  induction h generalizing errors with
  | nil => rfl
  | cons h _ ih => rw [List.foldl_cons, List.foldl_cons, checkOperation_splices h, ih]

end RequiredArguments

mutual

theorem Selection.Splices.refl (parentType : Option String) (selection : Selection) :
    selection.Splices system parentType [selection] := by
  cases selection with
  | field name arguments directives selections location => exact .field (refl_all _ selections)
  | inlineFragment condition directives selections location =>
    exact .inlineFragment (refl_all _ selections)

theorem Selection.Splices.refl_all (parentType : Option String) (selections : List Selection) :
    Selection.AllSplices system parentType selections selections := by
  cases selections with
  | nil => exact .nil
  | cons selection rest => exact .cons (refl parentType selection) (refl_all parentType rest)

end

namespace Selection

theorem AllSplices.append {parentType : Option String} {selections spliced : List Selection}
    (h : AllSplices system parentType selections spliced) {others splicedOthers : List Selection}
    (ho : AllSplices system parentType others splicedOthers) :
    AllSplices system parentType (selections ++ others) (spliced ++ splicedOthers) := by
  induction selections generalizing spliced with
  | nil =>
    cases h
    exact ho
  | cons selection rest ih =>
    cases h with
    | cons h hr =>
      rw [List.append_assoc]
      exact .cons h (ih hr)

/-- A selection may be spliced where others stand around it. -/
theorem Splices.among {parentType : Option String} {selection : Selection} {spliced : List Selection}
    (h : selection.Splices system parentType spliced) (before after : List Selection) :
    AllSplices system parentType (before ++ selection :: after) (before ++ (spliced ++ after)) :=
  (Splices.refl_all parentType before).append (.cons h (Splices.refl_all parentType after))

theorem Wraps.splices {parentType : Option String} {selections wrapped : List Selection}
    (h : Wraps system parentType selections wrapped) :
    AllSplices system parentType wrapped selections := by
  induction h with
  | run keeps => exact (Splices.splice keeps (Splices.refl_all _ _)).among _ _
  | field _ ih => exact (Splices.field ih).among _ _
  | inlineFragment _ ih => exact (Splices.inlineFragment ih).among _ _

end Selection

theorem Operation.Splices.refl (operation : Operation) : operation.Splices system operation :=
  ⟨Selection.Splices.refl_all _ _, rfl⟩

theorem Document.Wraps.splices {document wrapped : Document} (h : document.Wraps system wrapped) :
    wrapped.Splices system document := by
  have same (operations : List Operation) :
      List.Forall₂ (Operation.Splices system) operations operations :=
    List.forall₂_same.mpr fun operation _ => .refl operation
  cases h with
  | intro h => exact List.rel_append (same _) (.cons ⟨h.splices, rfl⟩ (same _))

/-- Fragments that change nothing may come and go. Where any of them, at any depth and inside one
another, are replaced by what they hold, the errors of the document and their order stay; and so they do
where a run of selections is put into such a fragment. -/
theorem validate_splices (system : TypeSystem) :
    (∀ document spliced : Document, document.Splices system spliced →
      spliced.validate system = document.validate system) ∧
    ∀ document wrapped : Document, document.Wraps system wrapped →
      wrapped.validate system = document.validate system := by
  constructor
  · intro document spliced h
    exact RequiredArguments.check_splices h #[]
  · intro document wrapped h
    exact (RequiredArguments.check_splices h.splices #[]).symm

/-- A fragment inside another, of which one repeats the root type and one has no condition, and an
argument that is missing three times. -/
theorem validate_splices_nested :
    let system : TypeSystem :=
      { arguments
          | .field "Query" "near" =>
            some [{ name := "point", type := .nonNull (.named "PointInput") }]
          | _ => none
        fieldType _ _ := some (.named "Query")
        rootType _ := some "Query" }
    let near (selections : List Selection) : Selection := .field "near" [] [] selections .unknown
    let group (condition : Option String) (selections : List Selection) : Selection :=
      .inlineFragment condition [] selections .unknown
    let grouped : Document := .query
      [group (some "Query") [near [group none [near []]], group none [near []]]]
    let plain : Document := .query [near [near []], near []]
    let wrapped : Document := .query [near [group (some "Query") [near []]], near []]
    (grouped.Splices system plain ∧ plain.validate system = grouped.validate system) ∧
    plain.Wraps system wrapped ∧ wrapped.validate system = plain.validate system := by
  intro system near group grouped plain wrapped
  have leaf : (near []).Splices system (some "Query") [near []] := .refl _ _
  have inner : Selection.AllSplices system (some "Query") [group none [near []]] [near []] :=
    .cons (.splice (.inl rfl) (.cons leaf .nil)) .nil
  have outer : (group (some "Query") [near [group none [near []]], group none [near []]]).Splices
      system (some "Query") [near [near []], near []] :=
    .splice (.inr rfl) (.cons (.field inner) inner)
  have spliced : grouped.Splices system plain := .cons ⟨.cons outer .nil, rfl⟩ .nil
  have run : Selection.Wraps system (some "Query") [near []] [group (some "Query") [near []]] :=
    @Selection.Wraps.run system _ _ [] [near []] [] _ (.inr rfl)
  have field : Selection.Wraps system (some "Query") [near [near []], near []]
      [near [group (some "Query") [near []]], near []] :=
    @Selection.Wraps.field system _ "near" [] [] [] _ _ [near []] _ run
  have wraps : plain.Wraps system wrapped := @Document.Wraps.intro system [] [] _ _ field
  obtain ⟨replaced, put⟩ := validate_splices system
  exact ⟨⟨spliced, replaced _ _ spliced⟩, wraps, put _ _ wraps⟩

end SpatialQuery
