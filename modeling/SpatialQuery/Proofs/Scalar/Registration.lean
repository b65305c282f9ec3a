import Mathlib.Data.List.Nodup
import SpatialQuery.Proofs.Scalar.Standard
import SpatialQuery.Proofs.Text.ByteOrder

namespace SpatialQuery.Registry

open Std (ExtTreeMap)

inductive Step where
  | new
  | standard
  | withPrimitives
  | withGeometries
  | register (scalar : Scalar)

def step (registry : Registry) : Step → Registry
  | .new => empty
  | .standard => Registry.standard
  | .withPrimitives => registry.withPrimitives
  | .withGeometries => registry.withGeometries
  | .register scalar => (registry.exchange scalar).2

def run (steps : List Step) : Registry := steps.foldl step empty

namespace Step

/-- Whether the registry is replaced by one that is made anew. -/
def replaces : Step → Bool
  | .new | .standard => true
  | .withPrimitives | .withGeometries | .register _ => false

def scalars : Step → List Scalar
  | .new => []
  | .standard => primitives ++ geometries
  | .withPrimitives => primitives
  | .withGeometries => geometries
  | .register scalar => [scalar]

end Step

/-- What is registered in turn, less all that is gone because a later step replaces the registry. -/
def registered : List Step → List Scalar
  | [] => []
  | step :: later => (if later.any Step.replaces then [] else step.scalars) ++ registered later

theorem ext_get? {registry other : Registry} (h : ∀ name, registry.get? name = other.get? name) :
    registry = other := by
  have same : registry.scalars = other.scalars := ExtTreeMap.ext_getElem? fun name => h name
  cases registry
  cases other
  cases same
  rfl

theorem step_eq_registerAll (registry : Registry) (s : Step) :
    registry.step s = (if s.replaces then empty else registry).registerAll s.scalars := by
  cases s with
  | standard => exact standard_eq_registerAll
  | new | withPrimitives | withGeometries | register => rfl

theorem foldl_step (registry : Registry) (steps : List Step) :
    steps.foldl step registry =
      (if steps.any Step.replaces then empty else registry).registerAll (registered steps) := by
  induction steps generalizing registry with
  | nil => rfl
  | cons first later ih =>
    -- If a later step replaces the registry, neither what the first finds nor what it leaves matters.
    rw [List.foldl_cons, ih, step_eq_registerAll, registered, registerAll_append, List.any_cons]
    cases later.any Step.replaces <;> cases first.replaces <;> rfl

theorem run_eq_registerAll (steps : List Step) : run steps = empty.registerAll (registered steps) := by
  rw [run, foldl_step, ite_self]

theorem registerAll_self (registry : Registry) (scalars : List Scalar) :
    (registry.registerAll scalars).registerAll scalars = registry.registerAll scalars := by
  refine ext_get? fun name => ?_
  rw [get?_registerAll, get?_registerAll, ← Option.or_assoc, Option.or_self]

theorem registerAll_comm (registry : Registry) {scalars others : List Scalar}
    (h : List.Disjoint (scalars.map Scalar.name) (others.map Scalar.name)) :
    (registry.registerAll scalars).registerAll others =
      (registry.registerAll others).registerAll scalars := by
  refine ext_get? fun name => ?_
  by_cases hm : name ∈ scalars.map Scalar.name
  · rw [get?_registerAll_of_notMem (h hm), get?_registerAll (registry.registerAll others),
      get?_registerAll_of_notMem (h hm), get?_registerAll]
  · rw [get?_registerAll_of_notMem hm, get?_registerAll (registry.registerAll scalars),
      get?_registerAll_of_notMem hm, get?_registerAll]

/-- To register a group again changes nothing, and it prevails under its names and no others. -/
structure Overrides (extend : Registry → Registry) (scalars : List Scalar) : Prop where
  idempotent (registry : Registry) : extend (extend registry) = extend registry
  own (registry : Registry) (scalar : Scalar) (h : scalar ∈ scalars) :
    (extend registry).get? scalar.name = some scalar
  others (registry : Registry) (name : String) (h : name ∉ scalars.map Scalar.name) :
    (extend registry).get? name = registry.get? name

theorem registerAll_overrides {scalars : List Scalar} (h : (scalars.map Scalar.name).Nodup) :
    Overrides (registerAll · scalars) scalars where
  idempotent registry := registerAll_self registry scalars
  own _ _ hm := get?_registerAll_of_mem h hm
  others _ _ hm := get?_registerAll_of_notMem hm

/-- What a registry answers and lists once scalar types were registered in turn from nothing. -/
structure Answers (registry : Registry) (registered : List Scalar) : Prop where
  named {name : String} {scalar : Scalar} (h : registry.get? name = some scalar) : scalar.name = name
  last (name : String) : registry.get? name = registered.findRev? fun scalar => scalar.name = name
  exchanged (scalar : Scalar) : (registry.exchange scalar).1 = registry.get? scalar.name ∧
    (registry.exchange scalar).2.get? scalar.name = some scalar
  kept (scalar : Scalar) (name : String) (h : name ≠ scalar.name) :
    (registry.exchange scalar).2.get? name = registry.get? name
  contains (name : String) :
    registry.contains name = true ↔ ∃ scalar, registry.get? name = some scalar
  names (name : String) : name ∈ registry.names ↔ registry.contains name = true
  sorted : (registry.names.map Text.utf8Bytes).Pairwise (· < ·)
  distinct : registry.names.Nodup
  listed : registry.toList.map some = registry.names.map registry.get?

theorem registerAll_answers (scalars : List Scalar) : Answers (empty.registerAll scalars) scalars where
  named h := Registry.named _ _ _ h
  last name := by rw [get?_registerAll, get?_empty, Option.or_none]
  exchanged scalar := ⟨rfl, by rw [exchange, get?_register, if_pos rfl]⟩
  kept scalar name h := by rw [exchange, get?_register, if_neg h.symm]
  contains name := by
    rw [Registry.contains, ExtTreeMap.contains_eq_isSome_getElem?, Option.isSome_iff_exists]
    rfl
  names name := ExtTreeMap.mem_keys
  sorted := (LastWrite.pairwise_lt_keys _).map Text.utf8Bytes fun _ _ h => Text.utf8Bytes_lt h
  distinct := ExtTreeMap.nodup_keys
  listed := LastWrite.map_some_values _

/-- A registry answers with what was registered last since it was replaced. The two groups of types
that are known from the outset may come in either order and any number of times, and prevail over
what stood under their names. -/
theorem answers_registered :
    (∀ steps, Answers (run steps) (registered steps)) ∧
    Overrides withPrimitives primitives ∧ Overrides withGeometries geometries ∧
    ∀ registry : Registry,
      registry.withPrimitives.withGeometries = registry.withGeometries.withPrimitives := by
  have distinct := standard_names_nodup
  rw [List.map_append] at distinct
  obtain ⟨primitives, geometries, apart⟩ := List.nodup_append'.mp distinct
  refine ⟨fun steps => ?_, registerAll_overrides primitives, registerAll_overrides geometries,
    fun registry => registerAll_comm registry apart⟩
  rw [run_eq_registerAll]
  exact registerAll_answers (registered steps)

end SpatialQuery.Registry
