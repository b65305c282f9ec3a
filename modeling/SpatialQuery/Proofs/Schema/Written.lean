import SpatialQuery.Proofs.Literal.Written
import SpatialQuery.Proofs.Schema.Table
import SpatialQuery.Proofs.TypeRef.Written
import SpatialQuery.Validation.Validator

namespace SpatialQuery

open Std (ExtTreeMap)
open Json (Tree)

namespace TypeRef

theorem ofTree?_toString {type : TypeRef} (h : type.WellFormed) :
    ofTree? (.ofJson (.string type.toString)) = some type := by
  rw [Tree.ofJson, ofTree?, Tree.string?_string, Option.bind_eq_bind, Option.bind_some, toString,
    String.toList_ofList, parse?_write h]

theorem wellFormed_of_ofTree? (tree : Tree) (type : TypeRef) (h : ofTree? tree = some type) :
    type.WellFormed := by
  obtain ⟨text, _, h⟩ := Option.bind_eq_some_iff.mp h
  exact wellFormed_of_parse? h

end TypeRef

namespace ArgumentDefinition

/-- Whether what is written for a definition can be read: its type is one that can be written, and its
default value has no float that JSON cannot hold. -/
structure Writable (definition : ArgumentDefinition) : Prop where
  type : definition.type.WellFormed
  defaultValue (literal : Literal) (h : definition.defaultValue = some literal) :
    literal.isWritable = true

/-- No literal is written as null, so that none as a default differs from no default. -/
theorem nullable?_literal {literal : Literal} (h : literal.isWritable = true) :
    Tree.nullable? (Literal.ofTree? .direct) (.ofJson literal.toJson) = some (some literal) := by
  have tagged : Tree.nullable? (Literal.ofTree? .direct) (.ofJson literal.toJson) =
      (Literal.ofTree? .direct (.ofJson literal.toJson)).map some := by cases literal <;> rfl
  rw [tagged, Literal.ofTree?_toJson, if_pos h]
  rfl

theorem ofTree?_toJson {definition : ArgumentDefinition} (h : definition.Writable) :
    ofTree? (.ofJson definition.toJson) = some definition := by
  obtain ⟨name, type, defaultValue⟩ := definition
  cases defaultValue with
  | none =>
    have written : Tree.ofJson (toJson ⟨name, type, none⟩) =
      .object (["name", "type", "default_value"].zip
        [.string name, .ofJson (.string type.toString)]) := rfl
    rw [written, ofTree?, Tree.fields?_zip _ _ (by decide) (Nat.le_succ _)]
    simp [TypeRef.ofTree?_toString h.type]
  | some literal =>
    have written : Tree.ofJson (toJson ⟨name, type, some literal⟩) =
      .object (["name", "type", "default_value"].zip
        [.string name, .ofJson (.string type.toString), .ofJson literal.toJson]) := rfl
    rw [written, ofTree?, Tree.fields?_zip_all _ _ (by decide) rfl]
    simp [TypeRef.ofTree?_toString h.type, nullable?_literal (h.defaultValue literal rfl)]

theorem listOfTree?_toJson {definitions : List ArgumentDefinition}
    (h : ∀ d ∈ definitions, d.Writable) :
    listOfTree? (.ofJson (.array (definitions.map toJson))) = some definitions :=
  Tree.list?_ofJson_of_forall fun d hm => ofTree?_toJson (h d hm)

theorem writable_of_ofTree? (tree : Tree) (definition : ArgumentDefinition)
    (h : ofTree? tree = some definition) : definition.Writable := by
  obtain ⟨fields, _, h⟩ := Option.bind_eq_some_iff.mp h
  split at h
  · obtain ⟨name, _, h⟩ := Option.bind_eq_some_iff.mp h
    obtain ⟨type, ht, h⟩ := Option.bind_eq_some_iff.mp h
    obtain ⟨defaultValue, hd, h⟩ := Option.bind_eq_some_iff.mp h
    cases h
    refine ⟨Tree.of_required TypeRef.wellFormed_of_ofTree? ht, ?_⟩
    refine Tree.of_optional
      (p := fun value => ∀ literal, value = some literal → literal.isWritable = true)
      nofun (fun tree value hv literal same => ?_) hd
    rw [same] at hv
    exact Literal.isWritable_of_ofTree? tree (Tree.eq_some_of_nullable? hv)
  · cases h

end ArgumentDefinition

namespace FieldDefinition

structure Writable (definition : FieldDefinition) : Prop where
  type : definition.type.WellFormed
  arguments : ∀ argument ∈ definition.arguments, argument.Writable

theorem ofTree?_toJson {definition : FieldDefinition} (h : definition.Writable) :
    ofTree? (.ofJson definition.toJson) = some definition := by
  have written : Tree.ofJson definition.toJson = .object (["type", "arguments"].zip
      [.ofJson (.string definition.type.toString),
        .ofJson (.array (definition.arguments.map ArgumentDefinition.toJson))]) := rfl
  rw [written, ofTree?, Tree.fields?_zip_all _ _ (by decide) rfl]
  simp [TypeRef.ofTree?_toString h.type, ArgumentDefinition.listOfTree?_toJson h.arguments]

theorem writable_of_ofTree? (tree : Tree) (definition : FieldDefinition)
    (h : ofTree? tree = some definition) : definition.Writable := by
  obtain ⟨fields, _, h⟩ := Option.bind_eq_some_iff.mp h
  split at h
  · obtain ⟨type, ht, h⟩ := Option.bind_eq_some_iff.mp h
    obtain ⟨arguments, ha, h⟩ := Option.bind_eq_some_iff.mp h
    cases h
    exact ⟨Tree.of_required TypeRef.wellFormed_of_ofTree? ht, Tree.of_optional nofun
      (fun _ _ => Tree.forall_of_list? ArgumentDefinition.writable_of_ofTree?) ha⟩
  · cases h

end FieldDefinition

namespace Schema

structure Declarations.Writable (declarations : Declarations) : Prop where
  types : ForAll (ForAll FieldDefinition.Writable) declarations.types
  directives : ForAll (fun arguments => ∀ argument ∈ arguments, argument.Writable)
    declarations.directives

structure Writable (schema : Schema) : Prop where
  types : ForAll (ForAll FieldDefinition.Writable) schema.types
  directives : ForAll (fun arguments => ∀ argument ∈ arguments, argument.Writable) schema.directives
  builtin : ∀ name ∈ builtinDirectives, name ∈ schema.directives

theorem condition_writable : ∀ argument ∈ condition, argument.Writable := by
  intro argument hm
  rw [condition, List.mem_singleton] at hm
  subst hm
  exact ⟨.nonNull (.named (by decide)) rfl, nofun⟩

theorem builtinDirectives_writable :
    ForAll (fun arguments => ∀ argument ∈ arguments, argument.Writable) builtinDirectives :=
  (forAll_empty _).insertAll (List.forall_mem_cons.mpr
    ⟨condition_writable, List.forall_mem_cons.mpr ⟨condition_writable, nofun⟩⟩)

theorem Declarations.Writable.schema {declarations : Declarations} (h : declarations.Writable) :
    declarations.schema.Writable where
  types := h.types
  directives := builtinDirectives_writable.insertAll fun entry hm =>
    h.directives _ _ (ExtTreeMap.mem_toList_iff_getElem?_eq_some.mp hm)
  builtin name hm := by
    rw [ExtTreeMap.mem_iff_isSome_getElem?, Declarations.schema, getElem?_insertAll_toList]
    rw [ExtTreeMap.mem_iff_isSome_getElem?] at hm
    cases declarations.directives[name]? with
    | none => exact hm
    | some arguments => rfl

theorem Writable.insertAll_builtinDirectives {schema : Schema} (h : schema.Writable) :
    insertAll builtinDirectives schema.directives.toList = schema.directives :=
  insertAll_toList_of_forall_mem h.builtin

theorem ofTree?_toJson {schema : Schema} (h : schema.Writable) :
    ofTree? (.ofJson schema.toJson) = some schema := by
  have types : tableOfTree? (tableOfTree? FieldDefinition.ofTree?)
      (.ofJson (tableToJson (tableToJson FieldDefinition.toJson) schema.types)) = some schema.types :=
    tableOfTree?_tableToJson fun parentType fields found =>
      tableOfTree?_tableToJson fun name definition held =>
        FieldDefinition.ofTree?_toJson (h.types parentType fields found name definition held)
  have directives : tableOfTree? ArgumentDefinition.listOfTree? (.ofJson (tableToJson
      (fun arguments => .array (arguments.map ArgumentDefinition.toJson)) schema.directives)) =
        some schema.directives :=
    tableOfTree?_tableToJson fun name arguments found =>
      ArgumentDefinition.listOfTree?_toJson (h.directives name arguments found)
  have written : Tree.ofJson schema.toJson = .object (
      ["query", "mutation", "subscription", "types", "directives"].zip
      [.string schema.query, .ofJson ((schema.mutation.map Json.string).getD .null),
        .ofJson ((schema.subscription.map Json.string).getD .null),
        .ofJson (tableToJson (tableToJson FieldDefinition.toJson) schema.types),
        .ofJson (tableToJson (fun arguments => .array (arguments.map ArgumentDefinition.toJson))
          schema.directives)]) := rfl
  rw [ofTree?, written, Declarations.ofTree?, Tree.fields?_zip_all _ _ (by decide) rfl]
  simp [Tree.nullable?_string, types, directives, Declarations.schema, h.insertAll_builtinDirectives]

theorem Declarations.writable_of_ofTree? {tree : Tree} {declarations : Declarations}
    (h : ofTree? tree = some declarations) : declarations.Writable := by
  obtain ⟨fields, _, h⟩ := Option.bind_eq_some_iff.mp h
  split at h
  · obtain ⟨query, _, h⟩ := Option.bind_eq_some_iff.mp h
    obtain ⟨mutation, _, h⟩ := Option.bind_eq_some_iff.mp h
    obtain ⟨subscription, _, h⟩ := Option.bind_eq_some_iff.mp h
    obtain ⟨types, ht, h⟩ := Option.bind_eq_some_iff.mp h
    obtain ⟨directives, hd, h⟩ := Option.bind_eq_some_iff.mp h
    cases h
    exact ⟨Tree.of_optional (forAll_empty _) (fun _ _ => forAll_of_tableOfTree?
        fun _ _ => forAll_of_tableOfTree? FieldDefinition.writable_of_ofTree?) ht,
      Tree.of_optional (forAll_empty _) (fun _ _ => forAll_of_tableOfTree?
        fun _ _ => Tree.forall_of_list? ArgumentDefinition.writable_of_ofTree?) hd⟩
  · cases h

/-- The arguments that a step declares. -/
def Step.arguments : Step → List ArgumentDefinition
  | .root _ _ => []
  | .field _ _ definition => definition.arguments
  | .directive _ arguments => arguments

/-- The types that a step refers to. -/
def Step.types : Step → List TypeRef
  | .root _ _ => []
  | .field _ _ definition => definition.type :: definition.arguments.map (·.type)
  | .directive _ arguments => arguments.map (·.type)

/-- A step whose types were read from texts and whose default values have finite floats. -/
structure Step.FromTexts (step : Step) : Prop where
  types : ∀ type ∈ step.types, ∃ text, TypeRef.ofString text = .ok type
  defaults : ∀ argument ∈ step.arguments, ∀ literal, argument.defaultValue = some literal →
    ∀ x ∈ literal.floats, x.isFinite = true

theorem Step.type_mem_types {step : Step} {argument : ArgumentDefinition}
    (h : argument ∈ step.arguments) : argument.type ∈ step.types := by
  cases step with
  | root => cases h
  | field => exact List.mem_cons_of_mem _ (List.mem_map_of_mem h)
  | directive => exact List.mem_map_of_mem h

theorem Step.FromTexts.arguments {step : Step} (h : step.FromTexts) :
    ∀ argument ∈ step.arguments, argument.Writable := by
  intro argument hm
  obtain ⟨text, ht⟩ := h.types argument.type (type_mem_types hm)
  exact ⟨TypeRef.wellFormed_of_ofString ht, fun literal same =>
    List.all_eq_true.mpr (h.defaults argument hm literal same)⟩

theorem Declarations.Writable.step {declarations : Declarations} (h : declarations.Writable)
    {step : Step} (hs : step.FromTexts) : (declarations.step step).Writable := by
  cases step with
  | root kind => cases kind <;> exact ⟨h.types, h.directives⟩
  | directive name arguments => exact ⟨h.types, h.directives.insert name hs.arguments⟩
  | field parentType name definition =>
    obtain ⟨text, ht⟩ := hs.types definition.type List.mem_cons_self
    have writable : definition.Writable := ⟨TypeRef.wellFormed_of_ofString ht, hs.arguments⟩
    have before : ForAll FieldDefinition.Writable (declarations.types.getD parentType ∅) := by
      rw [ExtTreeMap.getD_eq_getD_getElem?]
      cases found : declarations.types[parentType]? with
      | none => exact forAll_empty _
      | some fields => exact h.types parentType fields found
    exact ⟨h.types.insert parentType (before.insert name writable), h.directives⟩

theorem Declarations.Writable.foldl {declarations : Declarations} (h : declarations.Writable)
    {steps : List Step} (hs : ∀ step ∈ steps, step.FromTexts) :
    (steps.foldl Declarations.step declarations).Writable := by
  induction steps generalizing declarations with
  | nil => exact h
  | cons step steps ih =>
    obtain ⟨first, later⟩ := List.forall_mem_cons.mp hs
    exact ih (h.step first) later

/-- How a schema comes about. -/
inductive Obtained : Schema → Prop where
  | read {tree : Tree} {schema : Schema} (h : ofTree? tree = some schema) : Obtained schema
  | built {steps : List Step} (h : ∀ step ∈ steps, step.FromTexts) : Obtained (build steps)

theorem Obtained.writable {schema : Schema} (h : schema.Obtained) : schema.Writable := by
  cases h with
  | read h =>
    obtain ⟨declarations, hd, rfl⟩ := Option.map_eq_some_iff.mp h
    exact (Declarations.writable_of_ofTree? hd).schema
  | built h =>
    have nothing : ({} : Declarations).Writable := ⟨forAll_empty _, forAll_empty _⟩
    exact (nothing.foldl h).schema

/-- A schema that was read or built is read back from what is written for it. Its own directives are
added again without effect, and documents have the same errors before and after. -/
theorem obtained_survives {schema : Schema} (h : schema.Obtained) :
    ofTree? (.ofJson schema.toJson) = some schema ∧
    insertAll builtinDirectives schema.directives.toList = schema.directives ∧
    ∀ reread, ofTree? (.ofJson schema.toJson) = some reread → ∀ (validator : Validator) document,
      validator.validate reread.typeSystem document = validator.validate schema.typeSystem document := by
  have back := ofTree?_toJson h.writable
  refine ⟨back, h.writable.insertAll_builtinDirectives, fun reread again validator document => ?_⟩
  rw [Option.some.inj (again.symm.trans back)]

/-- Steps that define `skip` anew, with null as the default of its condition. -/
def nullDefault : List Step :=
  [.directive "skip"
    [{ name := "if", type := .list (.nonNull (.named "Boolean")), defaultValue := some .null }]]

theorem obtained_survives_nullDefault :
    (build nullDefault).Obtained ∧
    ofTree? (.ofJson (build nullDefault).toJson) = some (build nullDefault) := by
  have obtained : (build nullDefault).Obtained := by
    refine .built fun step hm => ?_
    rw [nullDefault, List.mem_singleton] at hm
    subst hm
    refine ⟨fun type hm => ?_, fun argument hm literal same => ?_⟩
    · rw [Step.types, List.map_singleton, List.mem_singleton] at hm
      subst hm
      exact ⟨_, TypeRef.ofString_toString (.list (.nonNull (.named (by decide)) rfl))⟩
    · rw [Step.arguments, List.mem_singleton] at hm
      subst hm
      cases same
      exact nofun
  exact ⟨obtained, (obtained_survives obtained).1⟩

end Schema
end SpatialQuery
