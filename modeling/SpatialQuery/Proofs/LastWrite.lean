import Std.Data.ExtTreeMap

/-! Runs in which a later write replaces an earlier one: what is seen at the end is what was written last,
and what was there before if nothing was. -/
namespace SpatialQuery.LastWrite

open Std (ExtTreeMap)

variable {σ ι α : Type}

/-- If one step leaves its own write to be seen, and else what was seen, a run leaves the last write. -/
theorem view_foldl (view : σ → Option α) {step : σ → ι → σ} {write : ι → Option α}
    (h : ∀ state item, view (step state item) = (write item).or (view state)) (state : σ)
    (items : List ι) :
    view (items.foldl step state) = (items.findSomeRev? write).or (view state) := by
  induction items generalizing state with
  | nil => rfl
  | cons item items ih =>
    rw [List.foldl_cons, ih, h, ← Option.or_assoc, List.findSomeRev?]
    cases items.findSomeRev? write <;> rfl

theorem findSomeRev?_ite (p : ι → Prop) [DecidablePred p] (f : ι → α) (items : List ι) :
    items.findSomeRev? (fun item => if p item then some (f item) else none) =
      (items.findRev? fun item => p item).map f := by
  induction items with
  | nil => rfl
  | cons item items ih =>
    rw [List.findSomeRev?, List.findRev?, ih]
    cases items.findRev? fun item => p item with
    | some last => rfl
    | none => by_cases hp : p item <;> simp [hp]

/-- A run in which each item either takes effect or does not. -/
theorem view_foldl_ite (view : σ → Option α) {step : σ → ι → σ} {p : ι → Prop} [DecidablePred p]
    {f : ι → α}
    (h : ∀ state item, view (step state item) = if p item then some (f item) else view state)
    (state : σ) (items : List ι) :
    view (items.foldl step state) =
      ((items.findRev? fun item => p item).map f).or (view state) := by
  rw [← findSomeRev?_ite]
  refine view_foldl view (fun state item => ?_) state items
  rw [h]
  split <;> rfl

variable (table : ExtTreeMap String α)

theorem values_eq_map_snd_toList : table.values = table.toList.map Prod.snd := by
  have folded : table.values = table.foldr (fun _ value values => value :: values) [] := by
    obtain ⟨⟨table⟩⟩ := table
    induction table using Quotient.ind with
    | _ table => rfl
  rw [folded, ExtTreeMap.foldr_eq_foldr_toList, List.map_eq_foldr]

/-- The values stand in the order of the names. -/
theorem map_some_values : table.values.map some = table.keys.map fun name => table[name]? := by
  rw [values_eq_map_snd_toList, ← ExtTreeMap.map_fst_toList_eq_keys, List.map_map, List.map_map]
  refine List.map_congr_left fun entry hm => ?_
  exact (ExtTreeMap.mem_toList_iff_getElem?_eq_some.mp hm).symm

theorem pairwise_lt_keys : table.keys.Pairwise (· < ·) := by
  refine (ExtTreeMap.ordered_keys (t := table)).imp fun h => ?_
  exact compareOfLessAndEq_eq_lt.mp h

end SpatialQuery.LastWrite
