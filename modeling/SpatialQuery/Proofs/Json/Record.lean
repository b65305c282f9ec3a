import Mathlib.Data.List.Nodup
import SpatialQuery.Json.Record

namespace SpatialQuery.Json.Tree

theorem ofItems_eq_map (items : List Json) : ofItems items = items.map ofJson := by
  induction items with
  | nil => rfl
  | cons item rest ih => rw [ofItems, ih, List.map_cons]

theorem ofMembers_eq_map (members : List (String × Json)) :
    ofMembers members = members.map fun member => (member.1, ofJson member.2) := by
  induction members with
  | nil => rfl
  | cons member rest ih => rw [ofMembers, ih, List.map_cons]

theorem ofMembers_zip (names : List String) (values : List Json) :
    ofMembers (names.zip values) = names.zip (values.map ofJson) := by
  rw [ofMembers_eq_map, List.zip_map_right]
  rfl

theorem ofJson_string (s : String) : ofJson (.string s) = .string s := rfl

private theorem map_fst_zip_sublist (names : List String) (trees : List Tree) :
    ((names.zip trees).map Prod.fst).Sublist names := by
  induction names generalizing trees with
  | nil => exact .slnil
  | cons name names ih =>
    cases trees with
    | nil => exact List.nil_sublist _
    | cons tree trees => exact (ih trees).cons_cons name

/-- Among members of different names no name stands twice. -/
theorem distinct_of_nodup (names : List String) {members : List (String × Tree)}
    (h : (members.map Prod.fst).Nodup) : distinct names members = true := by
  rw [distinct, List.all_eq_true]
  intro name _
  have once := List.nodup_iff_count_le_one.mp h name
  rw [List.count, List.countP_map] at once
  exact decide_eq_true once

theorem distinct_zip (fields : List String) {names : List String} (trees : List Tree)
    (h : names.Nodup) : distinct fields (names.zip trees) = true :=
  distinct_of_nodup fields (h.sublist (map_fst_zip_sublist names trees))

private theorem map_lookup_zip {names : List String} {trees : List Tree} (h : names.Nodup)
    (hl : trees.length ≤ names.length) :
    names.map (fun name => (names.zip trees).lookup name) =
      trees.map some ++ List.replicate (names.length - trees.length) none := by
  induction names generalizing trees with
  | nil =>
    rw [List.length_nil, Nat.le_zero, List.length_eq_zero_iff] at hl
    rw [hl]
    rfl
  | cons name names ih =>
    cases trees with
    | nil => simp [List.replicate_succ]
    | cons tree trees =>
      obtain ⟨fresh, h⟩ := List.nodup_cons.mp h
      have later : names.map (fun other => ((name, tree) :: names.zip trees).lookup other) =
          names.map fun other => (names.zip trees).lookup other := by
        refine List.map_congr_left fun other hm => ?_
        have differs : (other == name) = false :=
          beq_eq_false_iff_ne.mpr fun same => fresh (same ▸ hm)
        rw [List.lookup_cons, differs]
      rw [List.zip_cons_cons, List.map_cons, later, ih h (by simpa using hl)]
      simp

/-- A record of its first fields in order has these and no others. -/
theorem fields?_zip (names : List String) (trees : List Tree) (h : names.Nodup)
    (hl : trees.length ≤ names.length) :
    fields? names (.object (names.zip trees)) =
      some (trees.map some ++ List.replicate (names.length - trees.length) none) := by
  rw [fields?, if_pos (distinct_zip names trees h), map_lookup_zip h hl]

theorem fields?_zip_all (names : List String) (trees : List Tree) (h : names.Nodup)
    (hl : trees.length = names.length) :
    fields? names (.object (names.zip trees)) = some (trees.map some) := by
  rw [fields?_zip names trees h (Nat.le_of_eq hl), hl, Nat.sub_self, List.replicate_zero,
    List.append_nil]

/-- A member in front that is no field does not count. -/
theorem fields?_cons_zip (tag : String) (tree : Tree) (names : List String) (trees : List Tree)
    (h : (tag :: names).Nodup) (hl : trees.length = names.length) :
    fields? names (.object ((tag, tree) :: names.zip trees)) = some (trees.map some) := by
  have within : (tree :: trees).length ≤ (tag :: names).length := Nat.succ_le_succ (Nat.le_of_eq hl)
  have all := map_lookup_zip h within
  rw [List.map_cons, List.map_cons, List.cons_append, List.cons.injEq, List.length_cons,
    List.length_cons, hl, Nat.sub_self, List.replicate_zero, List.append_nil] at all
  rw [← List.zip_cons_cons, fields?, if_pos (distinct_zip names _ h), all.2]

variable {α : Type}

-- The proofs go through equations, since a field's reader is not to be unfolded when a record's proof is
-- checked.
@[simp] theorem required_some (read : Tree → Option α) (tree : Tree) :
    required read (some tree) = read tree := by
  rw [required, Option.bind_eq_bind, Option.bind_some]

@[simp] theorem optional_some (default : α) (read : Tree → Option α) (tree : Tree) :
    optional default read (some tree) = read tree := by
  rw [optional]

@[simp] theorem optional_none (default : α) (read : Tree → Option α) :
    optional default read none = some default := by
  rw [optional]

@[simp] theorem string?_string (s : String) : string? (.string s) = some s := rfl

/-- Text that may be absent is null where it is. -/
theorem nullable?_string (s : Option String) :
    nullable? string? (ofJson ((s.map Json.string).getD .null)) = some s := by
  cases s <;> rfl

/-- What is not absent was read. -/
theorem eq_some_of_nullable? {read : Tree → Option α} {tree : Tree} {a : α}
    (h : nullable? read tree = some (some a)) : read tree = some a := by
  cases tree with
  | null => cases h
  | bool | number | string | array | object | unreadable =>
    obtain ⟨_, hr, ⟨⟩⟩ := Option.map_eq_some_iff.mp h
    exact hr

private theorem list?_ofJson_of_mem {write : α → Json} {read : Tree → Option α} (fit : α → Bool)
    {as : List α} (h : ∀ a ∈ as, read (ofJson (write a)) = if fit a then some a else none) :
    list? read (ofJson (.array (as.map write))) = if as.all fit then some as else none := by
  rw [ofJson, ofItems_eq_map, list?]
  induction as with
  | nil => rfl
  | cons a as ih =>
    obtain ⟨ha, h⟩ := List.forall_mem_cons.mp h
    rw [List.map_cons, List.map_cons, List.mapM_cons, ha, ih h, List.all_cons]
    cases fit a <;> cases as.all fit <;> rfl

/-- A list is read back exactly if each of its items is. -/
theorem list?_ofJson {write : α → Json} {read : Tree → Option α} {fit : α → Bool}
    (h : ∀ a, read (ofJson (write a)) = if fit a then some a else none) (as : List α) :
    list? read (ofJson (.array (as.map write))) = if as.all fit then some as else none :=
  list?_ofJson_of_mem fit fun a _ => h a

theorem list?_ofJson_of_forall {write : α → Json} {read : Tree → Option α} {as : List α}
    (h : ∀ a ∈ as, read (ofJson (write a)) = some a) :
    list? read (ofJson (.array (as.map write))) = some as := by
  rw [list?_ofJson_of_mem (fun _ => true) h, if_pos (List.all_eq_true.mpr fun _ _ => rfl)]

theorem forall_of_mapM {β : Type} {f : β → Option α} {p : α → Prop} (h : ∀ b a, f b = some a → p a)
    {bs : List β} {as : List α} (hm : bs.mapM f = some as) : ∀ a ∈ as, p a := by
  induction bs generalizing as with
  | nil =>
    cases hm
    exact nofun
  | cons b bs ih =>
    rw [List.mapM_cons] at hm
    obtain ⟨a, ha, hm⟩ := Option.bind_eq_some_iff.mp hm
    obtain ⟨rest, hr, hm⟩ := Option.bind_eq_some_iff.mp hm
    cases hm
    exact List.forall_mem_cons.mpr ⟨h b a ha, ih hr⟩

/-- What holds of each item that can be read holds of all items of a list that is read. -/
theorem forall_of_list? {read : Tree → Option α} {p : α → Prop}
    (h : ∀ tree a, read tree = some a → p a) {tree : Tree} {as : List α}
    (hr : list? read tree = some as) : ∀ a ∈ as, p a := by
  cases tree with
  | array items => exact forall_of_mapM h hr
  | null | bool | number | string | object | unreadable => cases hr

/-- What holds of whatever can be read holds of what a field is read to. -/
theorem of_required {read : Tree → Option α} {p : α → Prop} (h : ∀ tree a, read tree = some a → p a)
    {field : Option Tree} {a : α} (hr : required read field = some a) : p a := by
  obtain ⟨tree, _, hr⟩ := Option.bind_eq_some_iff.mp hr
  exact h tree a hr

theorem of_optional {read : Tree → Option α} {p : α → Prop} {default : α} (hd : p default)
    (h : ∀ tree a, read tree = some a → p a) {field : Option Tree} {a : α}
    (hr : optional default read field = some a) : p a := by
  cases field with
  | none =>
    cases hr
    exact hd
  | some tree => exact h tree a hr

end SpatialQuery.Json.Tree
