import Mathlib.Data.List.Forall2
import Mathlib.Logic.Relation
import SpatialQuery.Proofs.Validation.Invocations
import SpatialQuery.Schema.Basic

namespace SpatialQuery

open List (SublistForall₂)
open Std (ExtTreeMap)

namespace ArgumentDefinition

/-- A definition that demands no more than another of its name: it is non-null, or without a default,
only where that is. -/
structure Relaxes (relaxed definition : ArgumentDefinition) : Prop where
  name : relaxed.name = definition.name
  nonNull : relaxed.type.isNonNull = true → definition.type.isNonNull = true
  undefaulted : relaxed.defaultValue.isNone = true → definition.defaultValue.isNone = true

instance : Std.Refl Relaxes := ⟨fun _ => ⟨rfl, id, id⟩⟩

theorem Relaxes.isRequired {relaxed definition : ArgumentDefinition} (h : relaxed.Relaxes definition)
    (hr : relaxed.isRequired = true) : definition.isRequired = true := by
  rw [ArgumentDefinition.isRequired, Bool.and_eq_true] at hr ⊢
  exact ⟨h.nonNull hr.1, h.undefaulted hr.2⟩

/-- Arguments of which some are gone and others are relaxed. -/
abbrev RelaxAll : List ArgumentDefinition → List ArgumentDefinition → Prop := SublistForall₂ Relaxes

end ArgumentDefinition

/-- A type system that knows less, and demands no more of what it knows. A field that it still knows has
a type of the same name. -/
structure TypeSystem.Weakens (weaker system : TypeSystem) : Prop where
  arguments : ∀ site relaxed, weaker.arguments site = some relaxed →
    ∃ definitions, system.arguments site = some definitions ∧
      ArgumentDefinition.RelaxAll relaxed definitions
  fieldType : ∀ parent name type, weaker.fieldType parent name = some type →
    ∃ known, system.fieldType parent name = some known ∧ type.namedType = known.namedType
  rootType : ∀ kind name, weaker.rootType kind = some name → system.rootType kind = some name

/-- A field that may have other arguments, but no other demands, and a type of the same name. -/
structure FieldDefinition.Relaxes (relaxed definition : FieldDefinition) : Prop where
  type : relaxed.type.namedType = definition.type.namedType
  arguments : ArgumentDefinition.RelaxAll relaxed.arguments definition.arguments

/-- One change by which a schema demands less: something is deleted, or the arguments of a field or of a
directive are relaxed. -/
inductive Schema.Weakening (schema : Schema) : Schema → Prop where
  | mutation : Weakening schema { schema with mutation := none }
  | subscription : Weakening schema { schema with subscription := none }
  | type (name : String) : Weakening schema { schema with types := schema.types.erase name }
  | field {parent : String} {fields : ExtTreeMap String FieldDefinition}
    (h : schema.types[parent]? = some fields) (name : String) :
    Weakening schema { schema with types := schema.types.insert parent (fields.erase name) }
  | fieldArguments {parent name : String} {fields : ExtTreeMap String FieldDefinition}
    {definition relaxed : FieldDefinition} (h : schema.types[parent]? = some fields)
    (hf : fields[name]? = some definition) (hr : relaxed.Relaxes definition) :
    Weakening schema { schema with types := schema.types.insert parent (fields.insert name relaxed) }
  | directive (name : String) :
    Weakening schema { schema with directives := schema.directives.erase name }
  | directiveArguments {name : String} {definitions relaxed : List ArgumentDefinition}
    (h : schema.directives[name]? = some definitions)
    (hr : ArgumentDefinition.RelaxAll relaxed definitions) :
    Weakening schema { schema with directives := schema.directives.insert name relaxed }

/-- A directive with arguments appended. -/
structure Directive.Extends (more directive : Directive) : Prop where
  name : more.name = directive.name
  arguments : directive.arguments <+: more.arguments
  location : more.location = directive.location

/-- A selection in which, at any depth, selections and directives may be left out and arguments may be
appended to those that there are. -/
inductive Selection.Lightens : Selection → Selection → Prop where
  | field {name : String} {arguments more : List Argument} {directives fewer : List Directive}
    {selections lighter : List Selection} {location : Location} (ha : arguments <+: more)
    (hd : SublistForall₂ Directive.Extends fewer directives)
    (hs : SublistForall₂ Lightens lighter selections) :
    Lightens (.field name more fewer lighter location)
      (.field name arguments directives selections location)
  | inlineFragment {condition : Option String} {directives fewer : List Directive}
    {selections lighter : List Selection} {location other : Location}
    (hd : SublistForall₂ Directive.Extends fewer directives)
    (hs : SublistForall₂ Lightens lighter selections) :
    Lightens (.inlineFragment condition fewer lighter other)
      (.inlineFragment condition directives selections location)

structure Operation.Lightens (lighter operation : Operation) : Prop where
  kind : lighter.kind = operation.kind
  directives : SublistForall₂ Directive.Extends lighter.directives operation.directives
  selections : SublistForall₂ Selection.Lightens lighter.selections operation.selections

/-- A document in which operations, selections and directives may be left out, and arguments may be
appended to those that there are. -/
def Document.Lightens (lighter document : Document) : Prop :=
  SublistForall₂ Operation.Lightens lighter.operations document.operations

/-- Items that find less than their counterparts find less together, in the same order. -/
theorem flatMap_sublist_flatMap {α β γ : Type} {r : α → β → Prop} {f : α → List γ}
    {g : β → List γ} {as : List α} {bs : List β} (h : SublistForall₂ r as bs)
    (hr : ∀ a b, r a b → (f a).Sublist (g b)) : (as.flatMap f).Sublist (bs.flatMap g) := by
  induction h with
  | nil => exact List.nil_sublist _
  | cons hab _ ih => exact (hr _ _ hab).append ih
  | cons_right _ ih => exact ih.trans (List.sublist_append_right _ _)

namespace RequiredArguments

variable {weaker system : TypeSystem}

/-- A place with arguments appended. -/
structure Invocation.Extends (more invocation : Invocation) : Prop where
  ancestors : more.ancestors = invocation.ancestors
  callee : more.callee = invocation.callee
  arguments : invocation.arguments <+: more.arguments
  location : more.location = invocation.location

/-- A parent type that is still known has not changed, whatever fields above it are gone. -/
theorem parentType_weakens (h : weaker.Weakens system) {ancestors : List Ancestor} {parent : String}
    (hp : parentType weaker ancestors = some parent) : parentType system ancestors = some parent := by
  induction ancestors generalizing parent with
  | nil => cases hp
  | cons ancestor outer ih =>
    cases ancestor with
    | operation kind => exact h.rootType kind parent hp
    | field name =>
      rw [parentType] at hp ⊢
      cases ho : parentType weaker outer with
      | none => simp [ho] at hp
      | some enclosing =>
        rw [ho] at hp
        obtain ⟨type, ht, rfl⟩ := Option.map_eq_some_iff.mp hp
        obtain ⟨known, hk, same⟩ := h.fieldType enclosing name type ht
        simp [ih ho, hk, same]
    | inlineFragment condition =>
      cases condition with
      | some condition => exact hp
      | none => exact ih hp

theorem Invocation.site?_weakens (h : weaker.Weakens system) {more invocation : Invocation}
    (he : more.Extends invocation) {site : Site} (hs : more.site? weaker = some site) :
    invocation.site? system = some site := by
  rw [Invocation.site?, he.callee, he.ancestors] at hs
  rw [Invocation.site?]
  cases hc : invocation.callee with
  | directive name => simpa [hc] using hs
  | field name =>
    rw [hc] at hs
    obtain ⟨parent, hp, rfl⟩ := Option.map_eq_some_iff.mp hs
    rw [parentType_weakens h hp]
    rfl

/-- What is appended comes after the first argument of a name, if there is one. -/
theorem Invocation.lacks_of_extends {more invocation : Invocation} (he : more.Extends invocation)
    {name : String} (hl : more.lacks name = true) : invocation.lacks name = true := by
  obtain ⟨appended, ha⟩ := he.arguments
  rw [Invocation.lacks, ← ha, List.find?_append] at hl
  rw [Invocation.lacks]
  cases hf : invocation.arguments.find? (·.name == name) with
  | none => rfl
  | some argument => simpa [hf] using hl

/-- The errors of a place, definition by definition. -/
theorem Invocation.lackErrors_eq_flatMap (invocation : Invocation) (site : Site)
    (definitions : List ArgumentDefinition) :
    invocation.lackErrors site definitions = definitions.flatMap fun definition =>
      if definition.isRequired && invocation.lacks definition.name then
        [invocation.report site definition.name] else [] := by
  rw [Invocation.lackErrors]
  induction definitions with
  | nil => rfl
  | cons definition rest ih =>
    rw [List.filter_cons, List.flatMap_cons, ← ih, ArgumentDefinition.isRequired]
    split <;> rfl

theorem Invocation.lackErrors_sublist {more invocation : Invocation} (he : more.Extends invocation)
    (site : Site) {relaxed definitions : List ArgumentDefinition}
    (hr : ArgumentDefinition.RelaxAll relaxed definitions) :
    (more.lackErrors site relaxed).Sublist (invocation.lackErrors site definitions) := by
  rw [lackErrors_eq_flatMap, lackErrors_eq_flatMap]
  refine flatMap_sublist_flatMap hr fun relaxed definition h => ?_
  split
  · next required =>
    obtain ⟨required, lacking⟩ := Bool.and_eq_true_iff.mp required
    have lacks := lacks_of_extends he lacking
    rw [h.name] at lacks
    have same : more.report site relaxed.name = invocation.report site definition.name := by
      rw [report, report, he.location, h.name]
    rw [h.isRequired required, lacks, same]
    exact .refl _
  · exact List.nil_sublist _

/-- The errors of one place under a weaker type system, with more arguments. -/
theorem Invocation.errors_sublist (h : weaker.Weakens system) {more invocation : Invocation}
    (he : more.Extends invocation) : (more.errors weaker).Sublist (invocation.errors system) := by
  rw [Invocation.errors]
  cases hs : more.site? weaker with
  | none => exact List.nil_sublist _
  | some site =>
    cases ha : weaker.arguments site with
    | none => simp [ha]
    | some relaxed =>
      obtain ⟨definitions, hd, hr⟩ := h.arguments site relaxed ha
      simp only [Invocation.errors, site?_weakens h he hs, ha, hd]
      exact lackErrors_sublist he site hr

theorem directives_sublist (h : weaker.Weakens system) (ancestors : List Ancestor)
    {fewer directives : List Directive} (hd : SublistForall₂ Directive.Extends fewer directives) :
    ((directiveInvocations ancestors fewer).flatMap (·.errors weaker)).Sublist
      ((directiveInvocations ancestors directives).flatMap (·.errors system)) := by
  rw [directiveInvocations, directiveInvocations, List.flatMap_map, List.flatMap_map]
  refine flatMap_sublist_flatMap hd fun more directive he => ?_
  exact Invocation.errors_sublist h ⟨rfl, congrArg Callee.directive he.name, he.arguments, he.location⟩

mutual

theorem selection_sublist (h : weaker.Weakens system) (ancestors : List Ancestor)
    (lighter selection : Selection) (hl : lighter.Lightens selection) :
    ((selectionInvocations ancestors lighter).flatMap (·.errors weaker)).Sublist
      ((selectionInvocations ancestors selection).flatMap (·.errors system)) := by
  cases hl with
  | @field name arguments more _ _ _ _ location ha hd hs =>
    simp only [selectionInvocations, List.flatMap_cons, List.flatMap_append]
    have appended : Invocation.Extends ⟨ancestors, .field name, more, location⟩
        ⟨ancestors, .field name, arguments, location⟩ := ⟨rfl, rfl, ha, rfl⟩
    have own := Invocation.errors_sublist h appended
    exact own.append ((directives_sublist h ancestors hd).append (selections_sublist h _ _ _ hs))
  | inlineFragment hd hs =>
    simp only [selectionInvocations, List.flatMap_append]
    exact (directives_sublist h ancestors hd).append (selections_sublist h _ _ _ hs)

theorem selections_sublist (h : weaker.Weakens system) (ancestors : List Ancestor)
    (lighter selections : List Selection) (hl : SublistForall₂ Selection.Lightens lighter selections) :
    ((selectionsInvocations ancestors lighter).flatMap (·.errors weaker)).Sublist
      ((selectionsInvocations ancestors selections).flatMap (·.errors system)) := by
  cases hl with
  | nil => exact List.nil_sublist _
  | cons hs hl =>
    simp only [selectionsInvocations, List.flatMap_append]
    exact (selection_sublist h ancestors _ _ hs).append (selections_sublist h ancestors _ _ hl)
  | cons_right hl =>
    simp only [selectionsInvocations, List.flatMap_append]
    exact (selections_sublist h ancestors _ _ hl).trans (List.sublist_append_right _ _)

end

theorem operation_sublist (h : weaker.Weakens system) {lighter operation : Operation}
    (hl : lighter.Lightens operation) :
    ((operationInvocations lighter).flatMap (·.errors weaker)).Sublist
      ((operationInvocations operation).flatMap (·.errors system)) := by
  rw [operationInvocations, operationInvocations, hl.kind, List.flatMap_append, List.flatMap_append]
  exact (directives_sublist h [] hl.directives).append (selections_sublist h _ _ _ hl.selections)

/-- Both kinds of change together: what is left of the errors stands in the old order. -/
theorem check_sublist (h : weaker.Weakens system) {lighter document : Document}
    (hl : lighter.Lightens document) :
    (check weaker lighter #[]).toList.Sublist (check system document #[]).toList := by
  rw [check_toList, check_toList, List.nil_append, List.nil_append, invocations, invocations,
    List.flatMap_assoc, List.flatMap_assoc]
  exact flatMap_sublist_flatMap hl fun _ _ => operation_sublist h

end RequiredArguments

theorem TypeSystem.Weakens.refl (system : TypeSystem) : system.Weakens system where
  arguments _ definitions h := ⟨definitions, h, List.Sublist.sublistForall₂ (.refl _)⟩
  fieldType _ _ type h := ⟨type, h, rfl⟩
  rootType _ _ h := h

instance : Std.Refl Directive.Extends := ⟨fun _ => ⟨rfl, List.prefix_rfl, rfl⟩⟩

mutual

theorem Selection.Lightens.refl (selection : Selection) : selection.Lightens selection := by
  cases selection with
  | field name arguments directives selections location =>
    exact .field List.prefix_rfl (List.Sublist.sublistForall₂ (.refl _)) (refl_all selections)
  | inlineFragment condition directives selections location =>
    exact .inlineFragment (List.Sublist.sublistForall₂ (.refl _)) (refl_all selections)

theorem Selection.Lightens.refl_all (selections : List Selection) :
    SublistForall₂ Selection.Lightens selections selections := by
  cases selections with
  | nil => exact .nil
  | cons selection rest => exact .cons (refl selection) (refl_all rest)

end

instance : Std.Refl Operation.Lightens :=
  ⟨fun operation => ⟨rfl, List.Sublist.sublistForall₂ (.refl _),
    Selection.Lightens.refl_all operation.selections⟩⟩

theorem Document.Lightens.refl (document : Document) : document.Lightens document :=
  List.Sublist.sublistForall₂ (.refl _)

instance : Std.Refl FieldDefinition.Relaxes :=
  ⟨fun _ => ⟨rfl, List.Sublist.sublistForall₂ (.refl _)⟩⟩

/-- A table without some entries of another, and with related values in the others. -/
def TableLess {α : Type} (r : α → α → Prop) (less table : ExtTreeMap String α) : Prop :=
  ∀ (name : String) (value : α), less[name]? = some value →
    ∃ known, table[name]? = some known ∧ r value known

namespace TableLess

variable {α : Type} {r : α → α → Prop} [Std.Refl r] {table : ExtTreeMap String α}

theorem refl (table : ExtTreeMap String α) : TableLess r table table :=
  fun _ value h => ⟨value, h, Std.Refl.refl value⟩

instance : Std.Refl (TableLess r) := ⟨refl⟩

theorem erase (name : String) : TableLess r (table.erase name) table := by
  intro other value h
  rw [ExtTreeMap.getElem?_erase] at h
  split at h
  · cases h
  · exact ⟨value, h, Std.Refl.refl value⟩

theorem insert {name : String} {known value : α} (h : table[name]? = some known) (hr : r value known) :
    TableLess r (table.insert name value) table := by
  intro other found hf
  rw [ExtTreeMap.getElem?_insert] at hf
  split at hf
  · next same =>
    cases hf
    rw [← Std.LawfulEqCmp.eq_of_compare same]
    exact ⟨known, h, hr⟩
  · exact ⟨found, hf, Std.Refl.refl found⟩

end TableLess

namespace Schema

variable {schema weaker : Schema}

theorem weakens_of_tables (types : TableLess (TableLess FieldDefinition.Relaxes) weaker.types schema.types)
    (directives : TableLess ArgumentDefinition.RelaxAll weaker.directives schema.directives)
    (roots : ∀ kind name, weaker.typeSystem.rootType kind = some name →
      schema.typeSystem.rootType kind = some name) :
    weaker.typeSystem.Weakens schema.typeSystem := by
  have known {parent name : String} {relaxed : FieldDefinition}
      (h : weaker.field? parent name = some relaxed) :
      ∃ definition, schema.field? parent name = some definition ∧ relaxed.Relaxes definition := by
    obtain ⟨fewer, ht, hf⟩ := Option.bind_eq_some_iff.mp h
    obtain ⟨fields, hp, less⟩ := types parent fewer ht
    obtain ⟨definition, hd, hr⟩ := less name relaxed hf
    exact ⟨definition, Option.bind_eq_some_iff.mpr ⟨fields, hp, hd⟩, hr⟩
  refine ⟨fun site relaxed h => ?_, fun parent name type h => ?_, roots⟩
  · cases site with
    | directive name => exact directives name relaxed h
    | field parent name =>
      obtain ⟨field, hf, rfl⟩ := Option.map_eq_some_iff.mp h
      obtain ⟨definition, hd, hr⟩ := known hf
      exact ⟨_, Option.map_eq_some_iff.mpr ⟨definition, hd, rfl⟩, hr.arguments⟩
  · obtain ⟨field, hf, rfl⟩ := Option.map_eq_some_iff.mp h
    obtain ⟨definition, hd, hr⟩ := known hf
    exact ⟨_, Option.map_eq_some_iff.mpr ⟨definition, hd, rfl⟩, hr.type⟩

theorem Weakening.weakens (h : Weakening schema weaker) :
    weaker.typeSystem.Weakens schema.typeSystem := by
  cases h with
  | mutation =>
    refine weakens_of_tables (.refl _) (.refl _) fun kind name hk => ?_
    cases kind with
    | mutation => cases hk
    | query | subscription => exact hk
  | subscription =>
    refine weakens_of_tables (.refl _) (.refl _) fun kind name hk => ?_
    cases kind with
    | subscription => cases hk
    | query | mutation => exact hk
  | type name => exact weakens_of_tables (.erase name) (.refl _) fun kind _ => by cases kind <;> exact id
  | field h name =>
    exact weakens_of_tables (.insert h (.erase name)) (.refl _) fun kind _ => by cases kind <;> exact id
  | fieldArguments h hf hr =>
    exact weakens_of_tables (.insert h (.insert hf hr)) (.refl _) fun kind _ => by cases kind <;> exact id
  | directive name =>
    exact weakens_of_tables (.refl _) (.erase name) fun kind _ => by cases kind <;> exact id
  | directiveArguments h hr =>
    exact weakens_of_tables (.refl _) (.insert h hr) fun kind _ => by cases kind <;> exact id

end Schema

/-- Demanding less, or supplying more, brings no new error, and what is left of the errors keeps its
order. So it is for schemas from which things are deleted and in which arguments are relaxed, step by
step, and for any type system that knows and demands less. So it is also for a document with arguments
appended; and where operations, selections and directives have been inserted into a document, the
errors that it had are among those that it has. -/
theorem validate_sublist :
    (∀ schema weaker : Schema, Relation.ReflTransGen Schema.Weakening schema weaker →
      ∀ document : Document, (document.validate weaker.typeSystem).toList.Sublist
        (document.validate schema.typeSystem).toList) ∧
    (∀ weaker system : TypeSystem, weaker.Weakens system → ∀ document : Document,
      (document.validate weaker).toList.Sublist (document.validate system).toList) ∧
    ∀ (system : TypeSystem) (lighter document : Document), lighter.Lightens document →
      (lighter.validate system).toList.Sublist (document.validate system).toList := by
  refine ⟨?_, ?_, ?_⟩
  · intro schema weaker steps document
    induction steps with
    | refl => exact .refl _
    | tail _ step ih => exact (RequiredArguments.check_sublist step.weakens (.refl document)).trans ih
  · intro weaker system h document
    exact RequiredArguments.check_sublist h (.refl document)
  · intro system lighter document h
    exact RequiredArguments.check_sublist (.refl system) h

/-- A condition that gets a default while another directive goes, all knowledge that is lost, and a
condition that is supplied next to a selection that is left out. -/
theorem validate_sublist_skip :
    let defaulted : List ArgumentDefinition :=
      [{ name := "if", type := .nonNull (.named "Boolean"), defaultValue := some (.boolean true) }]
    let schema : Schema :=
      { Schema.empty with directives := Schema.empty.directives.insert "skip" defaulted }
    let weaker : Schema := { schema with directives := schema.directives.erase "include" }
    let ignorant : TypeSystem := ⟨fun _ => none, fun _ _ => none, fun _ => none⟩
    let group : Selection := .inlineFragment none [{ name := "include" }] [] .unknown
    let site (arguments : List Argument) : Selection :=
      .field "site" [] [{ name := "skip", arguments }] [] .unknown
    let bare : Document := .query [group, site []]
    let supplied : Document := .query [site [{ name := "if", value := .boolean true }]]
    (Relation.ReflTransGen Schema.Weakening Schema.empty weaker ∧
      (bare.validate weaker.typeSystem).toList.Sublist
        (bare.validate Schema.empty.typeSystem).toList) ∧
    (ignorant.Weakens weaker.typeSystem ∧
      (bare.validate ignorant).toList.Sublist (bare.validate weaker.typeSystem).toList) ∧
    supplied.Lightens bare ∧
      (supplied.validate Schema.empty.typeSystem).toList.Sublist
        (bare.validate Schema.empty.typeSystem).toList := by
  intro defaulted schema weaker ignorant group site bare supplied
  have declared : Schema.empty.directives["skip"]? = some Schema.condition := by
    rw [Schema.empty, Schema.builtinDirectives, Schema.insertAll, List.foldl_cons, List.foldl_cons,
      List.foldl_nil, ExtTreeMap.getElem?_insert, if_neg (by decide), ExtTreeMap.getElem?_insert_self]
  have relaxes : ArgumentDefinition.RelaxAll defaulted Schema.condition :=
    .cons ⟨rfl, id, nofun⟩ .nil
  have steps : Relation.ReflTransGen Schema.Weakening Schema.empty weaker :=
    .tail (.single (.directiveArguments declared relaxes)) (.directive "include")
  have knowsLess : ignorant.Weakens weaker.typeSystem := ⟨nofun, nofun, nofun⟩
  have extended : Directive.Extends
      { name := "skip", arguments := [{ name := "if", value := .boolean true }] }
      { name := "skip" } := ⟨rfl, List.nil_prefix, rfl⟩
  have lightens : supplied.Lightens bare :=
    .cons ⟨rfl, .nil, .cons_right (.cons (.field List.prefix_rfl (.cons extended .nil) .nil) .nil)⟩ .nil
  exact ⟨⟨steps, validate_sublist.1 _ _ steps bare⟩,
    ⟨knowsLess, validate_sublist.2.1 _ _ knowsLess bare⟩,
    lightens, validate_sublist.2.2 _ _ _ lightens⟩

end SpatialQuery
