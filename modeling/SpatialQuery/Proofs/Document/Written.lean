import SpatialQuery.Document.Codec
import SpatialQuery.Proofs.Literal.Written

namespace SpatialQuery

open Json (Tree Passage)

namespace Argument

def floats (argument : Argument) : List Binary64 := argument.value.floats

def isWritable (argument : Argument) : Bool := argument.floats.all Binary64.isFinite

end Argument

namespace Directive

def floats (directive : Directive) : List Binary64 := directive.arguments.flatMap Argument.floats

def isWritable (directive : Directive) : Bool := directive.floats.all Binary64.isFinite

theorem isWritable_eq (directive : Directive) :
    directive.isWritable = directive.arguments.all Argument.isWritable := List.all_flatMap

end Directive

namespace Selection

mutual

/-- The floats in a selection, in order. -/
def floats : Selection → List Binary64
  | .field _ arguments directives selections _ =>
    arguments.flatMap Argument.floats ++ directives.flatMap Directive.floats ++
      floatsOfAll selections
  | .inlineFragment _ directives selections _ =>
    directives.flatMap Directive.floats ++ floatsOfAll selections

def floatsOfAll : List Selection → List Binary64
  | [] => []
  | selection :: rest => floats selection ++ floatsOfAll rest

end

def isWritable (selection : Selection) : Bool := selection.floats.all Binary64.isFinite

theorem floatsOfAll_eq_flatMap (selections : List Selection) :
    floatsOfAll selections = selections.flatMap floats := by
  induction selections with
  | nil => rfl
  | cons selection rest ih => rw [floatsOfAll, ih, List.flatMap_cons]

/-- The selections nested in a selection. -/
def selections : Selection → List Selection
  | .field _ _ _ selections _ => selections
  | .inlineFragment _ _ selections _ => selections

theorem sizeOf_selections_lt (selection : Selection) :
    sizeOf selection.selections < sizeOf selection := by
  cases selection <;> simp [selections] <;> omega

/-- Whether all floats outside nested selections are finite. -/
def isOwnWritable : Selection → Bool
  | .field _ arguments directives _ _ =>
    arguments.all Argument.isWritable && directives.all Directive.isWritable
  | .inlineFragment _ directives _ _ => directives.all Directive.isWritable

theorem isWritable_eq (selection : Selection) :
    selection.isWritable = (selection.isOwnWritable && selection.selections.all isWritable) := by
  cases selection with
  | field name arguments directives selections location =>
    rw [isWritable, floats, floatsOfAll_eq_flatMap, List.all_append, List.all_append,
      List.all_flatMap, List.all_flatMap, List.all_flatMap]
    rfl
  | inlineFragment typeCondition directives selections location =>
    rw [isWritable, floats, floatsOfAll_eq_flatMap, List.all_append, List.all_flatMap,
      List.all_flatMap]
    rfl

theorem allToJson_eq_map (selections : List Selection) :
    allToJson selections = selections.map toJson := by
  induction selections with
  | nil => rfl
  | cons selection rest ih => rw [allToJson, ih, List.map_cons]

theorem toJson_eq_object (selection : Selection) :
    selection.toJson = .object (("kind", .string selection.shape.tag) ::
      selection.shape.fieldNames.zip selection.fieldValues) := by
  cases selection <;> rw [toJson, allToJson_eq_map] <;> rfl

end Selection

namespace Operation

def floats (operation : Operation) : List Binary64 :=
  operation.directives.flatMap Directive.floats ++ operation.selections.flatMap Selection.floats

def isWritable (operation : Operation) : Bool := operation.floats.all Binary64.isFinite

theorem isWritable_eq (operation : Operation) :
    operation.isWritable = (operation.directives.all Directive.isWritable &&
      operation.selections.all Selection.isWritable) := by
  rw [isWritable, floats, List.all_append, List.all_flatMap, List.all_flatMap]
  rfl

end Operation

namespace Document

def floats (document : Document) : List Binary64 := document.operations.flatMap Operation.floats

def isWritable (document : Document) : Bool := document.floats.all Binary64.isFinite

theorem isWritable_eq (document : Document) :
    document.isWritable = document.operations.all Operation.isWritable := List.all_flatMap

end Document

private theorem Location.ofTree?_zip (line column : Tree) :
    ofTree? (.object (["line", "column"].zip [line, column])) =
      line.uint32?.bind fun line => column.uint32?.bind fun column => some ⟨line, column⟩ := by
  rw [ofTree?, Tree.fields?_zip_all _ _ (by decide) rfl]
  simp only [List.map_cons, List.map_nil, Option.bind_eq_bind, Option.bind_some, Tree.required_some,
    Option.pure_def]

theorem Location.ofTree?_toJson (location : Location) :
    ofTree? (.ofJson location.toJson) = some location := by
  have written : Tree.ofJson location.toJson = .object (["line", "column"].zip
      [.number (.ofUInt32 location.line), .number (.ofUInt32 location.column)]) := rfl
  rw [written, ofTree?_zip, Tree.uint32?_ofUInt32, Tree.uint32?_ofUInt32]
  rfl

theorem Argument.ofTree?_toJson (passage : Passage) (argument : Argument) :
    ofTree? passage (.ofJson argument.toJson) = if argument.isWritable then some argument else none := by
  have written : Tree.ofJson argument.toJson = .object (["name", "value", "location"].zip
      [.string argument.name, .ofJson argument.value.toJson, .ofJson argument.location.toJson]) := rfl
  have fit : argument.isWritable = argument.value.isWritable := rfl
  rw [written, ofTree?, Tree.fields?_zip_all _ _ (by decide) rfl, fit]
  simp only [List.map_cons, List.map_nil, Option.bind_eq_bind, Option.bind_some, Tree.required_some,
    Tree.optional_some, Tree.string?_string, Literal.ofTree?_toJson, Location.ofTree?_toJson]
  cases argument.value.isWritable <;> rfl

theorem Directive.ofTree?_toJson (passage : Passage) (directive : Directive) :
    ofTree? passage (.ofJson directive.toJson) =
      if directive.isWritable then some directive else none := by
  have written : Tree.ofJson directive.toJson = .object (["name", "arguments", "location"].zip
      [.string directive.name, .ofJson (.array (directive.arguments.map Argument.toJson)),
        .ofJson directive.location.toJson]) := rfl
  rw [written, ofTree?, Tree.fields?_zip_all _ _ (by decide) rfl, isWritable_eq]
  simp only [List.map_cons, List.map_nil, Option.bind_eq_bind, Option.bind_some, Tree.required_some,
    Tree.optional_some, Tree.string?_string, Tree.list?_ofJson (Argument.ofTree?_toJson passage),
    Location.ofTree?_toJson]
  cases directive.arguments.all Argument.isWritable <;> rfl

namespace Selection

private theorem length_fieldValues (selection : Selection) :
    (selection.fieldValues.map Tree.ofJson).length = selection.shape.fieldNames.length := by
  cases selection <;> rfl

private theorem fieldNames_nodup (shape : Shape) : ("kind" :: shape.fieldNames).Nodup := by
  cases shape <;> decide

/-- A selection is read back from its fields and the selections nested in it. -/
theorem ofFields?_fieldValues (passage : Passage) (selection : Selection) :
    ofFields? passage (some selection.selections) selection.shape
        ((selection.fieldValues.map Tree.ofJson).map some) =
      if selection.isOwnWritable then some selection else none := by
  cases selection with
  | field name arguments directives selections location =>
    rw [shape, fieldValues, isOwnWritable]
    simp only [List.map_cons, List.map_nil, ofFields?, Tree.ofJson_string, Tree.required_some,
      Tree.optional_some, Tree.string?_string, Tree.list?_ofJson (Argument.ofTree?_toJson passage),
      Tree.list?_ofJson (Directive.ofTree?_toJson passage), Location.ofTree?_toJson]
    cases arguments.all Argument.isWritable <;> cases directives.all Directive.isWritable <;> rfl
  | inlineFragment typeCondition directives selections location =>
    rw [shape, fieldValues, isOwnWritable]
    simp only [List.map_cons, List.map_nil, ofFields?, Tree.optional_some, Tree.nullable?_string,
      Tree.list?_ofJson (Directive.ofTree?_toJson passage), Location.ofTree?_toJson]
    cases directives.all Directive.isWritable <;> rfl

theorem nestedIn?_toJson (selection : Selection) (kind : Tree) :
    nestedIn? (("kind", kind) :: selection.shape.fieldNames.zip
        (selection.fieldValues.map Tree.ofJson)) =
      (eachHeld? (Tree.ofItems (selection.selections.map toJson))).map some := by
  cases selection <;> rfl

mutual

theorem ofHeld?_toJson (passage : Passage) (selection : Selection) :
    ofHeld? passage (.ofJson selection.toJson) =
      if selection.isWritable then some selection else none := by
  have distinct : Tree.distinct ["kind"] (("kind", .string selection.shape.tag) ::
      selection.shape.fieldNames.zip (selection.fieldValues.map Tree.ofJson)) = true :=
    Tree.distinct_zip _ (.string selection.shape.tag :: _) (fieldNames_nodup selection.shape)
  have shape : Shape.ofTree? passage (.string selection.shape.tag) = some selection.shape := by
    cases selection <;> rfl
  have nested := eachHeld?_toJson selection.selections
  have fields := Tree.fields?_cons_zip "kind" (.string selection.shape.tag) selection.shape.fieldNames
    (selection.fieldValues.map Tree.ofJson) (fieldNames_nodup _) (length_fieldValues selection)
  rw [toJson_eq_object, Tree.ofJson, Tree.ofMembers, Tree.ofMembers_zip, Tree.ofJson, ofHeld?, distinct,
    List.lookup_cons_self, nestedIn?_toJson, nested, isWritable_eq]
  simp only [shape, fields, Option.bind_eq_bind, Option.bind_some]
  cases selection.selections.all isWritable
  · rw [Bool.and_false]
    rfl
  · rw [Bool.and_true]
    exact ofFields?_fieldValues .held selection
termination_by sizeOf selection
decreasing_by exact selection.sizeOf_selections_lt

theorem eachHeld?_toJson (selections : List Selection) :
    eachHeld? (Tree.ofItems (selections.map toJson)) =
      if selections.all isWritable then some selections else none := by
  cases selections with
  | nil => rfl
  | cons selection rest =>
    rw [List.map_cons, Tree.ofItems, eachHeld?, ofHeld?_toJson .held selection, eachHeld?_toJson rest,
      List.all_cons]
    cases selection.isWritable <;> cases rest.all isWritable <;> rfl
termination_by sizeOf selections

end

theorem ofTree?_toJson (selection : Selection) :
    ofTree? (.ofJson selection.toJson) = if selection.isWritable then some selection else none := by
  rw [ofTree?, if_pos (Tree.isReadable_ofJson _), ofHeld?_toJson]

theorem ofRecord?_toRecord (selection : Selection) :
    ofRecord? selection.shape (.ofJson selection.toRecord) =
      if selection.isWritable then some selection else none := by
  have fields := Tree.fields?_zip_all selection.shape.fieldNames (selection.fieldValues.map Tree.ofJson)
    (List.nodup_cons.mp (fieldNames_nodup _)).2 (length_fieldValues selection)
  have nested : ((selection.fieldValues.map Tree.ofJson).map some).getD
      (selection.shape.fieldNames.idxOf "selection_set") none =
        some (.ofJson (.array (selection.selections.map toJson))) := by
    cases selection <;> rfl
  rw [toRecord, Tree.ofJson, Tree.ofMembers_zip, ofRecord?, fields, isWritable_eq]
  simp only [Option.bind_eq_bind, Option.bind_some, nested, Option.mapM_some,
    Tree.list?_ofJson ofTree?_toJson]
  cases selection.selections.all isWritable
  · rw [Bool.and_false]
    rfl
  · rw [Bool.and_true]
    exact ofFields?_fieldValues .direct selection

end Selection

theorem Operation.ofTree?_toJson (operation : Operation) :
    ofTree? (.ofJson operation.toJson) = if operation.isWritable then some operation else none := by
  have written : Tree.ofJson operation.toJson = .object
      (["kind", "name", "directives", "selection_set", "location"].zip
        [.string operation.kind.name, .ofJson ((operation.name.map Json.string).getD .null),
          .ofJson (.array (operation.directives.map Directive.toJson)),
          .ofJson (.array (operation.selections.map Selection.toJson)),
          .ofJson operation.location.toJson]) := rfl
  have kind : ((Tree.string operation.kind.name).choice? .direct).bind OperationKind.ofName? =
      some operation.kind := OperationKind.ofName?_name _
  rw [written, ofTree?, Tree.fields?_zip_all _ _ (by decide) rfl, isWritable_eq]
  simp only [List.map_cons, List.map_nil, Option.bind_eq_bind, Option.bind_some, Tree.required_some,
    Tree.optional_some, Tree.nullable?_string, kind, Tree.list?_ofJson Selection.ofTree?_toJson,
    Tree.list?_ofJson (Directive.ofTree?_toJson .direct), Location.ofTree?_toJson]
  cases operation.directives.all Directive.isWritable <;>
    cases operation.selections.all Selection.isWritable <;> rfl

theorem Document.ofTree?_toJson (document : Document) :
    ofTree? (.ofJson document.toJson) = if document.isWritable then some document else none := by
  have written : Tree.ofJson document.toJson = .object
      (["operations"].zip [.ofJson (.array (document.operations.map Operation.toJson))]) := rfl
  rw [written, ofTree?, Tree.fields?_zip_all _ _ (by decide) rfl, isWritable_eq]
  simp only [List.map_cons, List.map_nil, Option.bind_eq_bind, Option.bind_some, Tree.required_some,
    Tree.list?_ofJson Operation.ofTree?_toJson]
  cases document.operations.all Operation.isWritable <;> rfl

theorem Argument.isWritable_of_ofTree? {passage : Passage} (tree : Tree) (argument : Argument)
    (h : ofTree? passage tree = some argument) : argument.isWritable = true := by
  rw [ofTree?] at h
  obtain ⟨fields, _, h⟩ := Option.bind_eq_some_iff.mp h
  split at h
  · obtain ⟨name, _, h⟩ := Option.bind_eq_some_iff.mp h
    obtain ⟨value, hv, h⟩ := Option.bind_eq_some_iff.mp h
    obtain ⟨location, _, h⟩ := Option.bind_eq_some_iff.mp h
    cases h
    exact Tree.of_required (p := fun literal => literal.isWritable = true)
      (fun tree _ => Literal.isWritable_of_ofTree? tree) hv
  · cases h

theorem Directive.isWritable_of_ofTree? {passage : Passage} (tree : Tree) (directive : Directive)
    (h : ofTree? passage tree = some directive) : directive.isWritable = true := by
  rw [ofTree?] at h
  obtain ⟨fields, _, h⟩ := Option.bind_eq_some_iff.mp h
  split at h
  · obtain ⟨name, _, h⟩ := Option.bind_eq_some_iff.mp h
    obtain ⟨arguments, ha, h⟩ := Option.bind_eq_some_iff.mp h
    obtain ⟨location, _, h⟩ := Option.bind_eq_some_iff.mp h
    cases h
    rw [isWritable_eq, List.all_eq_true]
    exact Tree.of_optional nofun (fun _ _ => Tree.forall_of_list? Argument.isWritable_of_ofTree?) ha
  · cases h

namespace Selection

theorem isWritable_of_ofFields? {passage : Passage} {nested : Option (List Selection)}
    (hn : ∀ selections, nested = some selections → selections.all isWritable = true) {shape : Shape}
    {fields : List (Option Tree)} {selection : Selection}
    (h : ofFields? passage nested shape fields = some selection) : selection.isWritable = true := by
  have all_directives {field : Option Tree} {directives : List Directive} (hd : Tree.optional []
      (Tree.list? (Directive.ofTree? passage)) field = some directives) :
      directives.all Directive.isWritable = true :=
    List.all_eq_true.mpr (Tree.of_optional nofun
      (fun _ _ => Tree.forall_of_list? Directive.isWritable_of_ofTree?) hd)
  rw [isWritable_eq, Bool.and_eq_true]
  unfold ofFields? at h
  split at h
  · obtain ⟨name, _, h⟩ := Option.bind_eq_some_iff.mp h
    obtain ⟨arguments, ha, h⟩ := Option.bind_eq_some_iff.mp h
    obtain ⟨directives, hd, h⟩ := Option.bind_eq_some_iff.mp h
    obtain ⟨location, _, h⟩ := Option.bind_eq_some_iff.mp h
    cases h
    have all_arguments : arguments.all Argument.isWritable = true :=
      List.all_eq_true.mpr (Tree.of_optional nofun
        (fun _ _ => Tree.forall_of_list? Argument.isWritable_of_ofTree?) ha)
    refine ⟨by rw [isOwnWritable, all_arguments, all_directives hd]; rfl, ?_⟩
    cases nested with
    | none => rfl
    | some selections => exact hn selections rfl
  · obtain ⟨condition, _, h⟩ := Option.bind_eq_some_iff.mp h
    obtain ⟨directives, hd, h⟩ := Option.bind_eq_some_iff.mp h
    obtain ⟨selections, hs, h⟩ := Option.bind_eq_some_iff.mp h
    obtain ⟨location, _, h⟩ := Option.bind_eq_some_iff.mp h
    cases h
    exact ⟨all_directives hd, hn selections hs⟩
  · cases h

mutual

theorem isWritable_of_ofHeld? {passage : Passage} {selection : Selection} :
    ∀ tree : Tree, ofHeld? passage tree = some selection → selection.isWritable = true
  | .object members, h => by
    rw [ofHeld?] at h
    split at h
    · cases h
    · obtain ⟨shape, _, h⟩ := Option.bind_eq_some_iff.mp h
      obtain ⟨nested, hn, h⟩ := Option.bind_eq_some_iff.mp h
      obtain ⟨fields, _, h⟩ := Option.bind_eq_some_iff.mp h
      refine isWritable_of_ofFields? (fun selections same => ?_) h
      exact isWritable_of_nestedIn? members (same ▸ hn)
  | .array (kind :: items), h => by
    rw [ofHeld?] at h
    obtain ⟨shape, _, h⟩ := Option.bind_eq_some_iff.mp h
    obtain ⟨nested, hn, h⟩ := Option.bind_eq_some_iff.mp h
    obtain ⟨fields, _, h⟩ := Option.bind_eq_some_iff.mp h
    refine isWritable_of_ofFields? (fun selections same => ?_) h
    exact isWritable_of_nestedAt? _ items (same ▸ hn)
  | .array [], h | .null, h | .bool _, h | .number _, h | .string _, h | .unreadable, h => nomatch h

theorem isWritable_of_nestedIn? {selections : List Selection} :
    ∀ members : List (String × Tree), nestedIn? members = some (some selections) →
      selections.all isWritable = true
  | (name, value) :: rest, h => by
    rw [nestedIn?] at h
    split at h
    · obtain ⟨_, hs, ⟨⟩⟩ := Option.map_eq_some_iff.mp h
      exact isWritable_of_allHeld? value hs
    · exact isWritable_of_nestedIn? rest h

theorem isWritable_of_nestedAt? {selections : List Selection} :
    ∀ (place : Nat) (items : List Tree), nestedAt? place items = some (some selections) →
      selections.all isWritable = true
  | 0, value :: _, h => by
    obtain ⟨_, hs, ⟨⟩⟩ := Option.map_eq_some_iff.mp h
    exact isWritable_of_allHeld? value hs
  | place + 1, _ :: rest, h => isWritable_of_nestedAt? place rest h
  | _, [], h => by
    rw [nestedAt?] at h
    cases h

theorem isWritable_of_allHeld? {selections : List Selection} :
    ∀ tree : Tree, allHeld? tree = some selections → selections.all isWritable = true
  | .array items, h => isWritable_of_eachHeld? items h
  | .object _, h | .null, h | .bool _, h | .number _, h | .string _, h | .unreadable, h => nomatch h

theorem isWritable_of_eachHeld? {selections : List Selection} :
    ∀ items : List Tree, eachHeld? items = some selections → selections.all isWritable = true
  | [], h => by
    cases h
    rfl
  | item :: rest, h => by
    rw [eachHeld?] at h
    obtain ⟨selection, hs, h⟩ := Option.bind_eq_some_iff.mp h
    obtain ⟨others, ho, h⟩ := Option.bind_eq_some_iff.mp h
    cases h
    rw [List.all_cons, isWritable_of_ofHeld? item hs, isWritable_of_eachHeld? rest ho]
    rfl

end

theorem isWritable_of_ofTree? (tree : Tree) (selection : Selection)
    (h : ofTree? tree = some selection) : selection.isWritable = true := by
  rw [ofTree?] at h
  split at h
  · exact isWritable_of_ofHeld? tree h
  · cases h

theorem isWritable_of_ofRecord? {shape : Shape} (tree : Tree) (selection : Selection)
    (h : ofRecord? shape tree = some selection) : selection.isWritable = true := by
  rw [ofRecord?] at h
  obtain ⟨fields, _, h⟩ := Option.bind_eq_some_iff.mp h
  obtain ⟨nested, hn, h⟩ := Option.bind_eq_some_iff.mp h
  refine isWritable_of_ofFields? (fun selections same => ?_) h
  cases hf : fields.getD (shape.fieldNames.idxOf "selection_set") none with
  | none =>
    rw [hf] at hn
    cases same.symm.trans (Option.some.inj hn).symm
  | some value =>
    rw [hf, same] at hn
    obtain ⟨_, hs, ⟨⟩⟩ := Option.map_eq_some_iff.mp hn
    exact List.all_eq_true.mpr (Tree.forall_of_list? isWritable_of_ofTree? hs)

end Selection

theorem Operation.isWritable_of_ofTree? (tree : Tree) (operation : Operation)
    (h : ofTree? tree = some operation) : operation.isWritable = true := by
  rw [ofTree?] at h
  obtain ⟨fields, _, h⟩ := Option.bind_eq_some_iff.mp h
  split at h
  · obtain ⟨kind, _, h⟩ := Option.bind_eq_some_iff.mp h
    obtain ⟨name, _, h⟩ := Option.bind_eq_some_iff.mp h
    obtain ⟨directives, hd, h⟩ := Option.bind_eq_some_iff.mp h
    obtain ⟨selections, hs, h⟩ := Option.bind_eq_some_iff.mp h
    obtain ⟨location, _, h⟩ := Option.bind_eq_some_iff.mp h
    cases h
    rw [isWritable_eq, Bool.and_eq_true, List.all_eq_true, List.all_eq_true]
    exact ⟨Tree.of_optional nofun
      (fun _ _ => Tree.forall_of_list? Directive.isWritable_of_ofTree?) hd,
      Tree.of_required (fun _ _ => Tree.forall_of_list? Selection.isWritable_of_ofTree?) hs⟩
  · cases h

theorem Document.isWritable_of_ofTree? (tree : Tree) (document : Document)
    (h : ofTree? tree = some document) : document.isWritable = true := by
  rw [ofTree?] at h
  obtain ⟨fields, _, h⟩ := Option.bind_eq_some_iff.mp h
  split at h
  · obtain ⟨operations, ho, h⟩ := Option.bind_eq_some_iff.mp h
    cases h
    rw [isWritable_eq, List.all_eq_true]
    exact Tree.of_required (fun _ _ => Tree.forall_of_list? Operation.isWritable_of_ofTree?) ho
  · cases h

/-- A value survives being written and read: it is read back if all its floats are finite, and refused
if one is not; and what has been read once is read again from what is written for it. -/
structure Survives {α : Type} (write : α → Json) (read : Tree → Option α)
    (floats : α → List Binary64) (a : α) : Prop where
  readBack (h : ∀ x ∈ floats a, x.isFinite = true) : read (.ofJson (write a)) = some a
  refused (h : ∃ x ∈ floats a, x.isFinite = false) : read (.ofJson (write a)) = none
  settled (tree : Tree) (h : read tree = some a) : read (.ofJson (write a)) = some a

theorem survives_of {α : Type} {write : α → Json} {read : Tree → Option α}
    {floats : α → List Binary64} {a : α}
    (back : read (.ofJson (write a)) = if (floats a).all Binary64.isFinite then some a else none)
    (fit : ∀ tree, read tree = some a → (floats a).all Binary64.isFinite = true) :
    Survives write read floats a where
  readBack h := by rw [back, if_pos (List.all_eq_true.mpr h)]
  refused h := by
    obtain ⟨x, hx, infinite⟩ := h
    have unfit : (floats a).all Binary64.isFinite = false :=
      List.all_eq_false.mpr ⟨x, hx, by simp [infinite]⟩
    rw [back, unfit]
    rfl
  settled tree h := by rw [back, if_pos (fit tree h)]

/-- Documents and all their parts survive, selections with their shape and, as records of a field or a
fragment, without it. -/
theorem parts_survive (passage : Passage) :
    (∀ literal, Survives Literal.toJson (Literal.ofTree? passage) Literal.floats literal) ∧
    (∀ argument, Survives Argument.toJson (Argument.ofTree? passage) Argument.floats argument) ∧
    (∀ directive, Survives Directive.toJson (Directive.ofTree? passage) Directive.floats directive) ∧
    (∀ selection, Survives Selection.toJson Selection.ofTree? Selection.floats selection) ∧
    (∀ selection : Selection, Survives Selection.toRecord (Selection.ofRecord? selection.shape)
      Selection.floats selection) ∧
    (∀ operation, Survives Operation.toJson Operation.ofTree? Operation.floats operation) ∧
    (∀ document, Survives Document.toJson Document.ofTree? Document.floats document) := by
  refine ⟨fun literal => ?_, fun argument => ?_, fun directive => ?_, fun selection => ?_,
    fun selection => ?_, fun operation => ?_, fun document => ?_⟩
  · exact survives_of (literal.ofTree?_toJson passage) fun tree => Literal.isWritable_of_ofTree? tree
  · exact survives_of (argument.ofTree?_toJson passage) fun tree => argument.isWritable_of_ofTree? tree
  · exact survives_of (directive.ofTree?_toJson passage) fun tree => directive.isWritable_of_ofTree? tree
  · exact survives_of selection.ofTree?_toJson fun tree => selection.isWritable_of_ofTree? tree
  · exact survives_of selection.ofRecord?_toRecord fun tree => selection.isWritable_of_ofRecord? tree
  · exact survives_of operation.ofTree?_toJson fun tree => operation.isWritable_of_ofTree? tree
  · exact survives_of document.ofTree?_toJson fun tree => document.isWritable_of_ofTree? tree

end SpatialQuery
