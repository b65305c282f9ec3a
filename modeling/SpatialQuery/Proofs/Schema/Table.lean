import SpatialQuery.Proofs.Json.Record
import SpatialQuery.Proofs.LastWrite
import SpatialQuery.Schema.Codec

namespace SpatialQuery.Schema

open Std (ExtTreeMap)
open Json (Tree)

variable {α : Type}

theorem getElem?_insert (table : ExtTreeMap String α) (name other : String) (value : α) :
    (table.insert name value)[other]? = if name = other then some value else table[other]? := by
  simp only [ExtTreeMap.getElem?_insert, Std.LawfulEqCmp.compare_eq_iff_eq]

theorem getElem?_insertAll (map : ExtTreeMap String α) (entries : List (String × α)) (name : String) :
    (insertAll map entries)[name]? =
      ((entries.findRev? fun entry => entry.1 = name).map Prod.snd).or map[name]? :=
  LastWrite.view_foldl_ite (fun map : ExtTreeMap String α => map[name]?)
    (p := fun entry => entry.1 = name) (fun map entry => getElem?_insert map entry.1 name entry.2)
    map entries

/-- The one entry of a name is also the last. -/
theorem findRev?_toList (table : ExtTreeMap String α) (name : String) :
    (table.toList.findRev? fun entry => entry.1 = name).map Prod.snd = table[name]? := by
  rw [List.findRev?_eq_find?_reverse]
  cases found : table.toList.reverse.find? fun entry => decide (entry.1 = name) with
  | some entry =>
    have named : entry.1 = name := by simpa using List.find?_some found
    have hm := List.mem_reverse.mp (List.mem_of_find?_eq_some found)
    rw [← named, ExtTreeMap.mem_toList_iff_getElem?_eq_some.mp hm]
    rfl
  | none =>
    cases present : table[name]? with
    | none => rfl
    | some value =>
      have hm := ExtTreeMap.mem_toList_iff_getElem?_eq_some.mpr present
      exact absurd (decide_eq_true rfl) (List.find?_eq_none.mp found _ (List.mem_reverse.mpr hm))

theorem getElem?_insertAll_toList (map table : ExtTreeMap String α) (name : String) :
    (insertAll map table.toList)[name]? = table[name]?.or map[name]? := by
  rw [getElem?_insertAll, findRev?_toList]

/-- What is there under the same names already has no effect. -/
theorem insertAll_toList_of_forall_mem {map table : ExtTreeMap String α}
    (h : ∀ name ∈ map, name ∈ table) : insertAll map table.toList = table := by
  refine ExtTreeMap.ext_getElem? fun name => ?_
  rw [getElem?_insertAll_toList]
  cases present : table[name]? with
  | some value => rfl
  | none =>
    have absent : name ∉ map := fun hm => by
      have := ExtTreeMap.mem_iff_isSome_getElem?.mp (h name hm)
      rw [present] at this
      cases this
    exact ExtTreeMap.getElem?_eq_none absent

theorem insertAll_empty_toList (table : ExtTreeMap String α) : insertAll ∅ table.toList = table :=
  insertAll_toList_of_forall_mem fun _ hm => absurd hm ExtTreeMap.not_mem_empty

/-- Whether all values in a table have a property. -/
def ForAll (p : α → Prop) (table : ExtTreeMap String α) : Prop :=
  ∀ (name : String) (value : α), table[name]? = some value → p value

theorem forAll_empty (p : α → Prop) : ForAll p ∅ := by
  intro name value h
  rw [ExtTreeMap.getElem?_empty] at h
  cases h

theorem ForAll.insert {p : α → Prop} {table : ExtTreeMap String α} (h : ForAll p table) (name : String)
    {value : α} (hv : p value) : ForAll p (table.insert name value) := by
  intro other found hf
  rw [getElem?_insert] at hf
  split at hf
  · cases hf
    exact hv
  · exact h other found hf

theorem ForAll.insertAll {p : α → Prop} {map : ExtTreeMap String α} (h : ForAll p map)
    {entries : List (String × α)} (he : ∀ entry ∈ entries, p entry.2) :
    ForAll p (insertAll map entries) := by
  induction entries generalizing map with
  | nil => exact h
  | cons entry entries ih =>
    obtain ⟨hv, he⟩ := List.forall_mem_cons.mp he
    exact ih (h.insert entry.1 hv) he

theorem eq_empty_of_getElem? {table : ExtTreeMap String α} (h : ∀ name : String, table[name]? = none) :
    table = ∅ := by
  refine ExtTreeMap.ext_getElem? fun name => ?_
  rw [h, ExtTreeMap.getElem?_empty]

/-- Tables of tables are the same if they have the same entries and none holds an empty one. -/
theorem ext_entries {tables others : ExtTreeMap String (ExtTreeMap String α)}
    (ht : ForAll (· ≠ ∅) tables) (ho : ForAll (· ≠ ∅) others)
    (same : ∀ outer inner : String,
      (tables[outer]? >>= (·[inner]?)) = (others[outer]? >>= (·[inner]?))) : tables = others := by
  refine ExtTreeMap.ext_getElem? fun outer => ?_
  have entries (inner : String) := same outer inner
  -- A table on one side only would have no entries, and there is none without.
  cases found : tables[outer]? with
  | none =>
    cases other : others[outer]? with
    | none => rfl
    | some table =>
      rw [found, other] at entries
      exact absurd (eq_empty_of_getElem? fun inner => (entries inner).symm) (ho outer table other)
  | some table =>
    rw [found] at entries
    cases other : others[outer]? with
    | none =>
      rw [other] at entries
      exact absurd (eq_empty_of_getElem? entries) (ht outer table found)
    | some table' =>
      rw [other] at entries
      exact congrArg some (ExtTreeMap.ext_getElem? entries)

theorem entries?_ofJson {write : α → Json} {read : Tree → Option α} {entries : List (String × α)}
    (h : ∀ entry ∈ entries, read (.ofJson (write entry.2)) = some entry.2) :
    Tree.entries? read (.ofJson (.object (entries.map fun (name, value) => (name, write value)))) =
      some entries := by
  rw [Tree.ofJson, Tree.ofMembers_eq_map, Tree.entries?]
  induction entries with
  | nil => rfl
  | cons entry entries ih =>
    obtain ⟨hv, h⟩ := List.forall_mem_cons.mp h
    rw [List.map_cons, List.map_cons, List.mapM_cons, ih h]
    dsimp only
    rw [hv]
    rfl

theorem tableOfTree?_tableToJson {write : α → Json} {read : Tree → Option α}
    {table : ExtTreeMap String α}
    (h : ForAll (fun value => read (.ofJson (write value)) = some value) table) :
    tableOfTree? read (.ofJson (tableToJson write table)) = some table := by
  have each (entry : String × α) (hm : entry ∈ table.toList) :
      read (.ofJson (write entry.2)) = some entry.2 :=
    h _ _ (ExtTreeMap.mem_toList_iff_getElem?_eq_some.mp hm)
  rw [tableToJson, tableOfTree?, entries?_ofJson each, Option.map_some, insertAll_empty_toList]

/-- What holds of each value that can be read holds of all values of a table that is read. -/
theorem forAll_of_tableOfTree? {read : Tree → Option α} {p : α → Prop}
    (h : ∀ tree a, read tree = some a → p a) {tree : Tree} {table : ExtTreeMap String α}
    (hr : tableOfTree? read tree = some table) : ForAll p table := by
  obtain ⟨entries, he, rfl⟩ := Option.map_eq_some_iff.mp hr
  refine (forAll_empty p).insertAll ?_
  cases tree with
  | object members =>
    refine Tree.forall_of_mapM (p := fun entry => p entry.2) (fun member entry hm => ?_) he
    obtain ⟨value, hv, rfl⟩ := Option.map_eq_some_iff.mp hm
    exact h member.2 value hv
  | null | bool | number | string | array | unreadable => cases he

end SpatialQuery.Schema
