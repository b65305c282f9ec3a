import Mathlib.Data.List.Forall2
import Mathlib.Logic.Relation
import SpatialQuery.Validation.Validator

namespace SpatialQuery

namespace RequiredArguments

/-- How an argument of some name is there. -/
inductive Presence where
  | missing
  | null
  | given
  deriving DecidableEq, Repr

/-- How the first argument of a name is there. -/
def presence (name : String) (supplied : List Argument) : Presence :=
  match supplied.find? (·.name == name) with
  | none => .missing
  | some argument => if argument.value.isNull then .null else .given

/-- Whether a required definition of a site has a name. -/
def Requires (system : TypeSystem) (site : Site) (name : String) : Prop :=
  ∃ definitions, system.arguments site = some definitions ∧
    ∃ definition ∈ definitions, definition.isRequired = true ∧ definition.name = name

/-- Arguments among which all that a site requires is there in the same way. -/
def SamePresence (system : TypeSystem) (site : Site) (supplied other : List Argument) : Prop :=
  ∀ name, Requires system site name → presence name supplied = presence name other

/-- A change of arguments that leaves the presence of required names as it is. -/
inductive Edit (required : String → Prop) : List Argument → List Argument → Prop where
  /-- A literal for another, neither of which is null. -/
  | value {before after : List Argument} {argument : Argument} {value : Literal}
    (h : argument.value.isNull = false) (hv : value.isNull = false) :
    Edit required (before ++ argument :: after) (before ++ { argument with value } :: after)
  | location {before after : List Argument} {argument : Argument} {location : Location} :
    Edit required (before ++ argument :: after) (before ++ { argument with location } :: after)
  /-- Arguments of distinct names that stand together, in another order. -/
  | order {before group permuted after : List Argument} (h : group.Perm permuted)
    (distinct : (group.map Argument.name).Nodup) :
    Edit required (before ++ (group ++ after)) (before ++ (permuted ++ after))
  /-- Others or none for an argument whose name, which they have too, has occurred before. -/
  | repeated {before others after : List Argument} {argument : Argument}
    (h : argument.name ∈ before.map Argument.name)
    (ho : ∀ name ∈ others.map Argument.name, name = argument.name) :
    Edit required (before ++ argument :: after) (before ++ (others ++ after))
  /-- One argument less, which is not required. -/
  | unused {before after : List Argument} {argument : Argument} (h : ¬ required argument.name) :
    Edit required (before ++ argument :: after) (before ++ after)

end RequiredArguments

section Alike

variable (system : TypeSystem) (related : Site → List Argument → List Argument → Prop)

open RequiredArguments (typeInside)

structure Directive.Alike (directive other : Directive) : Prop where
  name : directive.name = other.name
  arguments : related (.directive directive.name) directive.arguments other.arguments
  location : directive.location = other.location

mutual

inductive Selection.Alike : Option String → Selection → Selection → Prop where
  -- A field without a parent type is no site.
  | field {parentType : Option String} {name : String} {arguments otherArguments : List Argument}
    {directives otherDirectives : List Directive} {selections otherSelections : List Selection}
    {location : Location}
    (ha : ∀ parent ∈ parentType, related (.field parent name) arguments otherArguments)
    (hd : List.Forall₂ (Directive.Alike related) directives otherDirectives)
    (hs : Selection.AllAlike (typeInside system parentType name) selections otherSelections) :
    Selection.Alike parentType (.field name arguments directives selections location)
      (.field name otherArguments otherDirectives otherSelections location)
  | inlineFragment {parentType condition : Option String}
    {directives otherDirectives : List Directive} {selections otherSelections : List Selection}
    {location otherLocation : Location}
    (hd : List.Forall₂ (Directive.Alike related) directives otherDirectives)
    (hs : Selection.AllAlike (condition.or parentType) selections otherSelections) :
    Selection.Alike parentType (.inlineFragment condition directives selections location)
      (.inlineFragment condition otherDirectives otherSelections otherLocation)

inductive Selection.AllAlike : Option String → List Selection → List Selection → Prop where
  | nil {parentType : Option String} : Selection.AllAlike parentType [] []
  | cons {parentType : Option String} {selection other : Selection} {rest others : List Selection}
    (h : Selection.Alike parentType selection other) (hr : Selection.AllAlike parentType rest others) :
    Selection.AllAlike parentType (selection :: rest) (other :: others)

end

/-- Operations may differ in name and place, which are no part of the shape. -/
structure Operation.Alike (operation other : Operation) : Prop where
  kind : operation.kind = other.kind
  directives : List.Forall₂ (Directive.Alike related) operation.directives other.directives
  selections : Selection.AllAlike system related (system.rootType operation.kind) operation.selections
    other.selections

def Document.Alike (document other : Document) : Prop :=
  List.Forall₂ (Operation.Alike system related) document.operations other.operations

end Alike

namespace RequiredArguments

theorem presence_cons (name : String) (argument : Argument) (rest : List Argument) :
    presence name (argument :: rest) =
      if argument.name = name then if argument.value.isNull then .null else .given
      else presence name rest := by
  rw [presence, List.find?_cons]
  by_cases h : argument.name = name
  · rw [if_pos h, beq_iff_eq.mpr h]
  · rw [if_neg h, beq_eq_false_iff_ne.mpr h]
    rfl

/-- A name that has occurred is not looked for further. -/
theorem presence_append (name : String) (before after : List Argument) :
    presence name (before ++ after) =
      if name ∈ before.map Argument.name then presence name before else presence name after := by
  induction before with
  | nil => rfl
  | cons argument rest ih =>
    rw [List.cons_append, presence_cons, presence_cons, ih]
    by_cases h : argument.name = name
    · simp [h]
    · simp [h, Ne.symm h]

/-- Among distinct names the first argument of a name is the only one. -/
theorem presence_perm (name : String) {group permuted : List Argument} (h : group.Perm permuted)
    (distinct : (group.map Argument.name).Nodup) : presence name group = presence name permuted := by
  induction h with
  | nil => rfl
  | cons argument _ ih =>
    rw [presence_cons, presence_cons, ih (List.nodup_cons.mp distinct).2]
  | swap first second rest =>
    have different : second.name ≠ first.name := by
      intro same
      simp [same] at distinct
    rw [presence_cons, presence_cons, presence_cons, presence_cons]
    by_cases same : second.name = name
    · have other : first.name ≠ name := fun h => different (same.trans h.symm)
      rw [if_pos same, if_pos same, if_neg other]
    · rw [if_neg same, if_neg same]
  | trans h _ ih ih' => exact (ih distinct).trans (ih' ((h.map Argument.name).nodup_iff.mp distinct))

theorem Edit.presence_eq {required : String → Prop} {supplied edited : List Argument}
    (h : Edit required supplied edited) {name : String} (hn : required name) :
    presence name supplied = presence name edited := by
  cases h with
  | value h hv => simp only [presence_append, presence_cons, h, hv]
  | location => simp only [presence_append, presence_cons]
  | order h distinct =>
    simp only [presence_append, presence_perm name h distinct, (h.map Argument.name).mem_iff]
  | @repeated before others after argument h ho =>
    rw [presence_append, presence_append, presence_append, presence_cons]
    by_cases occurs : name ∈ before.map Argument.name
    · rw [if_pos occurs, if_pos occurs]
    · have other : argument.name ≠ name := by
        rintro rfl
        exact occurs h
      rw [if_neg other, if_neg fun hm => other (ho name hm).symm]
  | @unused before after argument h =>
    have other : argument.name ≠ name := by
      rintro rfl
      exact h hn
    rw [presence_append, presence_append, presence_cons, if_neg other]

theorem samePresence_of_edits {system : TypeSystem} {site : Site} {supplied edited : List Argument}
    (h : Relation.EqvGen (Edit (Requires system site)) supplied edited) :
    SamePresence system site supplied edited := by
  intro name required
  induction h with
  | rel _ _ h => exact h.presence_eq required
  | refl => rfl
  | symm _ _ _ ih => exact ih.symm
  | trans _ _ _ _ _ ih ih' => exact ih.trans ih'

theorem isSupplied_eq (supplied : List Argument) (name : String) :
    isSupplied supplied name = decide (presence name supplied = .given) := by
  rw [isSupplied_eq_find?, presence]
  cases supplied.find? (·.name == name) with
  | none => rfl
  | some argument => cases h : argument.value.isNull <;> simp [h]

variable {system : TypeSystem}

theorem checkSite_congr {site : Site} {supplied other : List Argument}
    (h : SamePresence system site supplied other) (location : Location)
    (errors : Array ValidationError) :
    checkSite system site location supplied errors = checkSite system site location other errors := by
  cases known : system.arguments site with
  | none => simp only [checkSite, known]
  | some definitions =>
    simp only [checkSite, known, checkArguments]
    apply List.foldl_ext
    intro errors definition hm
    cases required : definition.isRequired with
    | false => simp
    | true =>
      have same := h definition.name ⟨definitions, known, definition, hm, required, rfl⟩
      simp only [isSupplied_eq, same]

variable {related : Site → List Argument → List Argument → Prop}

/-- What the relation of arguments has to keep of them. -/
def Keeps (system : TypeSystem) (related : Site → List Argument → List Argument → Prop) : Prop :=
  ∀ site supplied other, related site supplied other → SamePresence system site supplied other

theorem checkDirectives_congr (keeps : Keeps system related) {directives others : List Directive}
    (h : List.Forall₂ (Directive.Alike related) directives others) (errors : Array ValidationError) :
    checkDirectives system directives errors = checkDirectives system others errors := by
  induction h generalizing errors with
  | nil => rfl
  | @cons directive other rest others h _ ih =>
    have first : checkSite system (.directive directive.name) directive.location directive.arguments
        errors = checkSite system (.directive other.name) other.location other.arguments errors := by
      rw [checkSite_congr (keeps _ _ _ h.arguments), h.name, h.location]
    calc checkDirectives system (directive :: rest) errors
      _ = checkDirectives system rest (checkSite system (.directive directive.name)
            directive.location directive.arguments errors) := rfl
      _ = checkDirectives system others (checkSite system (.directive other.name)
            other.location other.arguments errors) := by rw [first, ih]

theorem checkField_congr (keeps : Keeps system related) {parentType : Option String} {name : String}
    {supplied other : List Argument}
    (h : ∀ parent ∈ parentType, related (.field parent name) supplied other) (location : Location)
    (errors : Array ValidationError) :
    checkField system parentType name location supplied errors =
      checkField system parentType name location other errors := by
  cases parentType with
  | none => rfl
  | some parent => exact checkSite_congr (keeps _ _ _ (h parent rfl)) location errors

mutual

theorem checkSelection_congr (keeps : Keeps system related) (parentType : Option String)
    (selection other : Selection) (h : selection.Alike system related parentType other)
    (errors : Array ValidationError) :
    checkSelection system parentType errors selection = checkSelection system parentType errors other := by
  cases h with
  | field ha hd hs =>
    rw [checkSelection, checkSelection, checkField_congr keeps ha, checkDirectives_congr keeps hd]
    exact checkSelections_congr keeps _ _ _ hs _
  | inlineFragment hd hs =>
    rw [checkSelection, checkSelection, checkDirectives_congr keeps hd]
    exact checkSelections_congr keeps _ _ _ hs _

theorem checkSelections_congr (keeps : Keeps system related) (parentType : Option String)
    (selections others : List Selection)
    (h : Selection.AllAlike system related parentType selections others)
    (errors : Array ValidationError) :
    checkSelections system parentType errors selections =
      checkSelections system parentType errors others := by
  cases h with
  | nil => rfl
  | cons h hr =>
    rw [checkSelections, checkSelections, checkSelection_congr keeps _ _ _ h]
    exact checkSelections_congr keeps _ _ _ hr _

end

theorem check_congr (keeps : Keeps system related) {document other : Document}
    (h : document.Alike system related other) (errors : Array ValidationError) :
    check system document errors = check system other errors := by
  obtain ⟨operations⟩ := document
  obtain ⟨others⟩ := other
  rw [check, check]
  change List.Forall₂ (Operation.Alike system related) operations others at h
  induction h generalizing errors with
  | nil => rfl
  | cons h _ ih =>
    rw [List.foldl_cons, List.foldl_cons, checkOperation, checkOperation,
      checkDirectives_congr keeps h.directives, checkSelections_congr keeps _ _ _ h.selections, h.kind]
    exact ih _

/-- The errors of a document depend on its shape and on how required arguments are there. Documents of
one shape have the same errors if at each site the first argument of each required name is missing in
both, null in both or something else in both. So have documents of one shape whose arguments can be
changed into each other by literals that are not null for others, by other places, by another order of
distinct names, and by changing what repeats a name and adding or leaving out what is not required. -/
theorem validate_sees_presence (system : TypeSystem) :
    (∀ document other : Document, document.Alike system (SamePresence system) other →
      document.validate system = other.validate system) ∧
    ∀ document other : Document,
      document.Alike system (fun site => Relation.EqvGen (Edit (Requires system site))) other →
        document.validate system = other.validate system := by
  constructor
  · intro document other h
    exact check_congr (fun _ _ _ => id) h #[]
  · intro document other h
    exact check_congr (fun _ _ _ => samePresence_of_edits) h #[]

/-- A literal for another, without an argument that may be left out and without a second one of a name;
a required argument is missing before and after. -/
theorem validate_sees_presence_near :
    let system : TypeSystem :=
      { arguments
          | .field "Query" "near" => some
              [{ name := "point", type := .nonNull (.named "PointInput") },
                { name := "radius", type := .named "Float" },
                { name := "unit", type := .nonNull (.named "String") }]
          | _ => none
        fieldType _ _ := none
        rootType _ := some "Query" }
    let near (supplied : List Argument) : Document :=
      .query [.field "near" supplied [] [] .unknown]
    let supplied : List Argument :=
      [⟨"point", .int 1, .unknown⟩, ⟨"radius", .null, .unknown⟩, ⟨"point", .null, ⟨1, 2⟩⟩]
    let edited : List Argument := [⟨"point", .boolean true, .unknown⟩]
    ((near supplied).Alike system (SamePresence system) (near edited) ∧
      (near supplied).validate system = (near edited).validate system) ∧
    (near supplied).Alike system (fun site => Relation.EqvGen (Edit (Requires system site)))
      (near edited) ∧ (near supplied).validate system = (near edited).validate system := by
  intro system near supplied edited
  let required := Requires system (.field "Query" "near")
  let radius : Argument := ⟨"radius", .null, .unknown⟩
  have optional : ¬ required "radius" := by
    rintro ⟨definitions, known, definition, hm, needed, name⟩
    cases known
    simp only [List.mem_cons, List.not_mem_nil, or_false] at hm
    rcases hm with rfl | rfl | rfl
    · simp at name
    · cases needed
    · simp at name
  have literal : Edit required supplied (edited ++ supplied.tail) :=
    @Edit.value required [] supplied.tail ⟨"point", .int 1, .unknown⟩ (.boolean true) rfl rfl
  have repeated : Edit required (edited ++ supplied.tail) (edited ++ [radius]) :=
    @Edit.repeated required (edited ++ [radius]) [] [] ⟨"point", .null, ⟨1, 2⟩⟩ (by simp [edited])
      nofun
  have unused : Edit required (edited ++ [radius]) edited :=
    @Edit.unused required edited [] radius optional
  have edits : Relation.EqvGen (Edit required) supplied edited :=
    .trans _ _ _ (.rel _ _ literal) (.trans _ _ _ (.rel _ _ repeated) (.rel _ _ unused))
  have alike {related : Site → List Argument → List Argument → Prop}
      (h : related (.field "Query" "near") supplied edited) :
      (near supplied).Alike system related (near edited) := by
    refine .cons ⟨rfl, .nil, .cons (.field ?_ .nil .nil) .nil⟩ .nil
    intro parent hp
    cases hp
    exact h
  obtain ⟨same, changed⟩ := validate_sees_presence system
  exact ⟨⟨alike (samePresence_of_edits edits), same _ _ (alike (samePresence_of_edits edits))⟩,
    alike edits, changed _ _ (alike edits)⟩

end RequiredArguments
end SpatialQuery
