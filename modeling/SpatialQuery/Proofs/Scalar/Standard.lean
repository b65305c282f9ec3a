import SpatialQuery.Proofs.LastWrite
import SpatialQuery.Scalar.Registry

namespace SpatialQuery

namespace Registry

@[simp] theorem get?_empty (name : String) : empty.get? name = none := by simp [get?, empty]

/-- Of types with one name the last prevails. -/
theorem get?_registerAll (registry : Registry) (scalars : List Scalar) (name : String) :
    (registry.registerAll scalars).get? name =
      (scalars.findRev? fun scalar => scalar.name = name).or (registry.get? name) := by
  have last := LastWrite.view_foldl_ite (·.get? name) (f := id)
    (fun registry scalar => get?_register registry scalar name) registry scalars
  rwa [Option.map_id, id] at last

theorem get?_registerAll_of_notMem {registry : Registry} {scalars : List Scalar} {name : String}
    (h : name ∉ scalars.map Scalar.name) :
    (registry.registerAll scalars).get? name = registry.get? name := by
  have nothing : (scalars.findRev? fun scalar => scalar.name = name) = none := by
    rw [List.findRev?_eq_find?_reverse, List.find?_eq_none]
    intro scalar hm same
    exact h (of_decide_eq_true same ▸ List.mem_map_of_mem (List.mem_reverse.mp hm))
  rw [get?_registerAll, nothing, Option.none_or]

theorem mem_of_get?_registerAll {registry : Registry} {scalars : List Scalar} {name : String}
    {scalar : Scalar} (h : (registry.registerAll scalars).get? name = some scalar) :
    scalar ∈ scalars ∨ registry.get? name = some scalar := by
  rw [get?_registerAll, List.findRev?_eq_find?_reverse, Option.or_eq_some_iff] at h
  rcases h with found | ⟨_, before⟩
  · exact .inl (List.mem_reverse.mp (List.mem_of_find?_eq_some found))
  · exact .inr before

/-- Among types of different names none replaces another. -/
theorem get?_registerAll_of_mem {registry : Registry} {scalars : List Scalar} {scalar : Scalar}
    (hn : (scalars.map Scalar.name).Nodup) (hm : scalar ∈ scalars) :
    (registry.registerAll scalars).get? scalar.name = some scalar := by
  induction scalars generalizing registry with
  | nil => cases hm
  | cons first rest ih =>
    rw [List.map_cons, List.nodup_cons] at hn
    rw [registerAll, List.foldl_cons, ← registerAll]
    rcases List.mem_cons.mp hm with rfl | hm
    · rw [get?_registerAll_of_notMem hn.1, get?_register, if_pos rfl]
    · exact ih hn.2 hm

theorem registerAll_append (registry : Registry) (scalars more : List Scalar) :
    registry.registerAll (scalars ++ more) = (registry.registerAll scalars).registerAll more :=
  List.foldl_append

theorem standard_eq_registerAll : standard = empty.registerAll (primitives ++ geometries) :=
  (registerAll_append empty primitives geometries).symm

theorem standard_names_nodup : ((primitives ++ geometries).map Scalar.name).Nodup := by decide

theorem get?_standard_eq_some_iff {name : String} {scalar : Scalar} :
    standard.get? name = some scalar ↔ scalar ∈ primitives ++ geometries ∧ scalar.name = name := by
  rw [standard_eq_registerAll]
  constructor
  · intro h
    refine ⟨?_, named _ name scalar h⟩
    simpa using mem_of_get?_registerAll h
  · rintro ⟨hm, rfl⟩
    exact get?_registerAll_of_mem standard_names_nodup hm

theorem get?_standard_primitive (p : Primitive) : standard.get? p.name = some p.scalar :=
  get?_standard_eq_some_iff.mpr ⟨by cases p <;> simp [primitives, Primitive.all], rfl⟩

theorem get?_standard_geometry (kind : Geometry.Kind) :
    standard.get? kind.inputTypeName = some (GeometryInput.scalar kind) :=
  get?_standard_eq_some_iff.mpr ⟨by simp [geometries, Geometry.Kind.mem_all], rfl⟩

theorem get?_standard_composite : standard.get? Composite.name = some Composite.standard.scalar :=
  get?_standard_eq_some_iff.mpr ⟨by simp [geometries], rfl⟩

theorem cases_of_get?_standard {name : String} {scalar : Scalar}
    (h : standard.get? name = some scalar) :
    (∃ p : Primitive, scalar = p.scalar) ∨ (∃ kind, scalar = GeometryInput.scalar kind) ∨
      scalar = Composite.standard.scalar := by
  have hm := (get?_standard_eq_some_iff.mp h).1
  simp only [primitives, geometries, List.mem_append, List.mem_map, List.mem_singleton] at hm
  rcases hm with ⟨p, _, rfl⟩ | ⟨kind, _, rfl⟩ | rfl
  · exact .inl ⟨p, rfl⟩
  · exact .inr (.inl ⟨kind, rfl⟩)
  · exact .inr (.inr rfl)

end Registry

/-- The candidates of the standard composite are the types of single geometry kinds. -/
theorem Composite.mem_standard_candidates {candidate : Scalar} :
    candidate ∈ Composite.standard.candidates ↔ ∃ kind, candidate = GeometryInput.scalar kind := by
  constructor
  · intro hm
    obtain ⟨kind, _, rfl⟩ := List.mem_map.mp hm
    exact ⟨kind, rfl⟩
  · rintro ⟨kind, rfl⟩
    exact List.mem_map.mpr ⟨kind, kind.mem_all, rfl⟩

/-- The scalar types of the standard registry, and composites of such types to any depth. -/
inductive Scalar.Known : Scalar → Prop where
  | registered {name : String} {scalar : Scalar} (h : Registry.standard.get? name = some scalar) :
    Known scalar
  | composite {composite : Composite} (h : ∀ candidate ∈ composite.candidates, Known candidate) :
    Known composite.scalar

namespace Scalar.Known

theorem primitive (p : Primitive) : Known p.scalar := .registered (Registry.get?_standard_primitive p)

theorem geometry (kind : Geometry.Kind) : Known (GeometryInput.scalar kind) :=
  .registered (Registry.get?_standard_geometry kind)

/-- What holds of the primitive types and of single geometry kinds, and of a composite if it holds of
its candidates, holds of each known type: the standard composite is one more composite. -/
theorem induction {motive : (scalar : Scalar) → Known scalar → Prop}
    (primitive : ∀ (p : Primitive) (h : Known p.scalar), motive _ h)
    (geometry : ∀ (kind : Geometry.Kind) (h : Known (GeometryInput.scalar kind)), motive _ h)
    (composite : ∀ (composite : Composite) (h : Known composite.scalar)
      (hk : ∀ candidate ∈ composite.candidates, Known candidate),
      (∀ candidate (hm : candidate ∈ composite.candidates), motive candidate (hk candidate hm)) →
      motive _ h)
    {scalar : Scalar} (h : Known scalar) : motive scalar h := by
  induction h with
  | registered h =>
    rcases Registry.cases_of_get?_standard h with ⟨p, rfl⟩ | ⟨kind, rfl⟩ | rfl
    · exact primitive p _
    · exact geometry kind _
    · refine composite _ _ (fun candidate hm => ?_) (fun candidate hm => ?_)
      · obtain ⟨kind, rfl⟩ := Composite.mem_standard_candidates.mp hm
        exact .geometry kind
      · obtain ⟨kind, rfl⟩ := Composite.mem_standard_candidates.mp hm
        exact geometry kind _
  | composite h ih => exact composite _ _ h ih

end Scalar.Known
end SpatialQuery
