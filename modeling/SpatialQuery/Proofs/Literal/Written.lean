import SpatialQuery.Literal.Codec
import SpatialQuery.Proofs.Binary64.Range
import SpatialQuery.Proofs.Json.Record

namespace SpatialQuery.Literal

open Json (Tree Passage)

mutual

/-- The floats in a literal, in order. -/
def floats : Literal → List Binary64
  | .float x => [x]
  | .list items => floatsOfItems items
  | .object fields => floatsOfFields fields
  | _ => []

def floatsOfItems : List Literal → List Binary64
  | [] => []
  | item :: rest => floats item ++ floatsOfItems rest

def floatsOfFields : List (String × Literal) → List Binary64
  | [] => []
  | (_, value) :: rest => floats value ++ floatsOfFields rest

end

/-- Whether all floats are finite, so that JSON can hold them. -/
def isWritable (literal : Literal) : Bool := literal.floats.all Binary64.isFinite

theorem isWritable_list_cons (item : Literal) (rest : List Literal) :
    isWritable (.list (item :: rest)) = (item.isWritable && isWritable (.list rest)) :=
  List.all_append

theorem isWritable_object_cons (name : String) (value : Literal) (rest : List (String × Literal)) :
    isWritable (.object ((name, value) :: rest)) = (value.isWritable && isWritable (.object rest)) :=
  List.all_append

/-- With the kind in front nothing is held back. -/
theorem ofTree?_tagged (passage : Passage) (kind : Kind) (value : Json) :
    ofTree? passage (.ofJson (tagged kind value)) = content? passage kind (.ofJson value) := by
  have found : ([("kind", Tree.string kind.tag), ("value", .ofJson value)].lookup "kind" >>=
      kind? passage) = some kind := Kind.ofTag?_tag kind
  have distinct : Tree.distinct ["kind", "value"]
      [("kind", Tree.string kind.tag), ("value", .ofJson value)] = true :=
    Tree.distinct_of_nodup _ (by simp)
  rw [tagged, Tree.ofJson, Tree.ofMembers, Tree.ofMembers, Tree.ofMembers, Tree.ofJson, ofTree?,
    distinct, found]
  rfl

mutual

theorem ofTree?_toJson (passage : Passage) : ∀ literal : Literal,
    ofTree? passage (.ofJson literal.toJson) = if literal.isWritable then some literal else none
  | .null => rfl
  | .int n => by
    rw [toJson, ofTree?_tagged, Tree.ofJson, content?, Json.Number.int64?_ofInt64]
    rfl
  | .float x => by
    rw [toJson, ofTree?_tagged]
    cases x <;> rfl
  | .string s => by rw [toJson, ofTree?_tagged]; rfl
  | .boolean b => by rw [toJson, ofTree?_tagged]; rfl
  | .enum name => by rw [toJson, ofTree?_tagged]; rfl
  | .list items => by
    rw [toJson, ofTree?_tagged, Tree.ofJson, content?, items?_toJson]
    cases isWritable (.list items) <;> rfl
  | .object fields => by
    rw [toJson, ofTree?_tagged, Tree.ofJson, content?, pairs?_toJson]
    cases isWritable (.object fields) <;> rfl

theorem items?_toJson (passage : Passage) : ∀ items : List Literal,
    items? passage (Tree.ofItems (itemsToJson items)) =
      if isWritable (.list items) then some items else none
  | [] => rfl
  | item :: rest => by
    rw [itemsToJson, Tree.ofItems, items?, ofTree?_toJson passage item, items?_toJson passage rest,
      isWritable_list_cons]
    cases item.isWritable <;> cases isWritable (.list rest) <;> rfl

theorem pairs?_toJson (passage : Passage) : ∀ fields : List (String × Literal),
    pairs? passage (Tree.ofItems (fieldsToJson fields)) =
      if isWritable (.object fields) then some fields else none
  | [] => rfl
  | (name, value) :: rest => by
    rw [fieldsToJson, Tree.ofItems, Tree.ofJson, Tree.ofItems, Tree.ofItems, Tree.ofItems, Tree.ofJson,
      pairs?, ofTree?_toJson passage value, pairs?_toJson passage rest, isWritable_object_cons]
    cases value.isWritable <;> cases isWritable (.object rest) <;> rfl

end

private theorem pairs?_cons_eq_some {passage : Passage} {tree : Tree} {rest : List Tree}
    {fields : List (String × Literal)} (h : pairs? passage (tree :: rest) = some fields) :
    ∃ name value literal others, sizeOf value < sizeOf tree ∧
      ofTree? passage value = some literal ∧ pairs? passage rest = some others ∧
      fields = (name, literal) :: others := by
  unfold pairs? at h
  split at h
  · cases ‹_ :: _ = []›
  · rename_i name value rest' same
    cases same
    obtain ⟨literal, hl, h⟩ := Option.bind_eq_some_iff.mp h
    obtain ⟨others, ho, h⟩ := Option.bind_eq_some_iff.mp h
    cases h
    exact ⟨name, value, literal, others, by simp; omega, hl, ho, rfl⟩
  · cases h

mutual

theorem isWritable_of_ofTree? {passage : Passage} {literal : Literal} :
    ∀ tree : Tree, ofTree? passage tree = some literal → literal.isWritable = true
  | .object members, h => by
    rw [ofTree?] at h
    split at h
    · cases h
    · obtain ⟨kind, _, h⟩ := Option.bind_eq_some_iff.mp h
      obtain ⟨passage, _, h⟩ := Option.bind_eq_some_iff.mp h
      exact isWritable_of_valueIn? members h
  | .array [kind, value], h => by
    rw [ofTree?] at h
    obtain ⟨kind, _, h⟩ := Option.bind_eq_some_iff.mp h
    exact isWritable_of_content? value h
  | .array [], h | .array [_], h | .array (_ :: _ :: _ :: _), h => nomatch h
  | .null, h | .bool _, h | .number _, h | .string _, h | .unreadable, h => nomatch h
termination_by tree => sizeOf tree

theorem isWritable_of_valueIn? {passage : Passage} {kind : Kind} {literal : Literal} :
    ∀ members : List (String × Tree), valueIn? passage kind members = some literal →
      literal.isWritable = true
  | [], h => by
    rw [valueIn?] at h
    split at h
    · cases h
      rfl
    · cases h
  | (_, value) :: rest, h => by
    rw [valueIn?] at h
    split at h
    · exact isWritable_of_content? value h
    · exact isWritable_of_valueIn? rest h
termination_by members => sizeOf members

theorem isWritable_of_content? {passage : Passage} {kind : Kind} {literal : Literal} :
    ∀ tree : Tree, content? passage kind tree = some literal → literal.isWritable = true
  | .null, h => by cases kind <;> cases h; rfl
  | .bool _, h => by cases kind <;> cases h; rfl
  | .string _, h => by cases kind <;> cases h <;> rfl
  | .number n, h => by
    cases kind with
    | int =>
      obtain ⟨_, _, rfl⟩ := Option.map_eq_some_iff.mp h
      rfl
    | float =>
      cases h
      rw [isWritable, floats, List.all_cons, n.toBinary64_isFinite]
      rfl
    | null | string | boolean | enum | list | object => cases h
  | .array items, h => by
    cases kind with
    | list =>
      obtain ⟨items', hi, rfl⟩ := Option.map_eq_some_iff.mp h
      exact isWritable_of_items? items hi
    | object =>
      obtain ⟨fields, hf, rfl⟩ := Option.map_eq_some_iff.mp h
      exact isWritable_of_pairs? items hf
    | null | int | float | string | boolean | enum => cases h
  | .object _, h | .unreadable, h => by cases kind <;> cases h
termination_by tree => sizeOf tree

theorem isWritable_of_items? {passage : Passage} {items : List Literal} :
    ∀ trees : List Tree, items? passage trees = some items → isWritable (.list items) = true
  | [], h => by
    cases h
    rfl
  | tree :: rest, h => by
    rw [items?] at h
    obtain ⟨item, hi, h⟩ := Option.bind_eq_some_iff.mp h
    obtain ⟨others, ho, h⟩ := Option.bind_eq_some_iff.mp h
    cases h
    rw [isWritable_list_cons, isWritable_of_ofTree? tree hi, isWritable_of_items? rest ho]
    rfl
termination_by trees => sizeOf trees

theorem isWritable_of_pairs? {passage : Passage} {fields : List (String × Literal)} :
    ∀ trees : List Tree, pairs? passage trees = some fields → isWritable (.object fields) = true
  | [], h => by
    cases h
    rfl
  | tree :: rest, h => by
    obtain ⟨name, value, literal, others, inside, hl, ho, rfl⟩ := pairs?_cons_eq_some h
    rw [isWritable_object_cons, isWritable_of_ofTree? value hl, isWritable_of_pairs? rest ho]
    rfl
termination_by trees => sizeOf trees

end

end SpatialQuery.Literal
