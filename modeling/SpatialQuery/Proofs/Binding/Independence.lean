import Mathlib.Logic.Relation
import SpatialQuery.Proofs.Binding.Places

namespace SpatialQuery

/-- A run over a list that does what the runs over its items do. It gives their results one after
another, or fails as the first of them that fails. -/
structure Piecewise {α β : Type} (run : List α → Coerced (List β)) : Prop where
  ok_iff : ∀ as bs, run as = .ok bs ↔
    ∃ parts, List.Forall₂ (fun a part => run [a] = .ok part) as parts ∧ bs = parts.flatten
  error_iff : ∀ as error, run as = .error error ↔
    ∃ before a after, as = before ++ a :: after ∧ (∀ b ∈ before, ∃ part, run [b] = .ok part) ∧
      run [a] = .error error

/-- A run that only collects what it does for each item is piecewise. -/
theorem piecewise_mapM {α β : Type} (f : α → Coerced β) : Piecewise fun as => as.mapM f := by
  have alone {a : α} {part : List β} :
      [a].mapM f = .ok part ↔ ∃ b, f a = .ok b ∧ [b] = part := by
    rw [Outcome.mapM_singleton, Outcome.map_eq_ok_iff]
  have succeeds {x : Coerced β} : (∃ part, x.map (fun b => [b]) = .ok part) ↔ ∃ b, x = .ok b := by
    cases x <;> simp
  constructor
  case ok_iff =>
    intro as bs
    simp only [alone, Outcome.mapM_eq_ok_iff]
    constructor
    · intro h
      refine ⟨bs.map fun b => [b], ?_, (List.flatMap_singleton' bs).symm⟩
      rw [List.forall₂_map_right_iff]
      exact h.imp fun a b hb => ⟨b, hb, rfl⟩
    · rintro ⟨parts, h, rfl⟩
      induction h with
      | nil => exact .nil
      | cons h _ ih =>
        obtain ⟨b, hb, rfl⟩ := h
        exact .cons hb ih
  case error_iff =>
    intro as error
    refine Outcome.mapM_eq_error_iff.trans ?_
    simp only [Outcome.mapM_singleton, succeeds, Outcome.map_eq_error_iff]

namespace Binding

variable {registry : Registry} {definitions : List ArgumentDefinition}
  {supplied edited : List Argument} {name : String}

/-- The literal of the first argument of a name. -/
def given? (name : String) (supplied : List Argument) : Option Literal :=
  (supplied.find? (·.name == name)).map (·.value)

theorem given?_cons (name : String) (argument : Argument) (rest : List Argument) :
    given? name (argument :: rest) =
      if argument.name = name then some argument.value else given? name rest := by
  rw [given?, List.find?_cons]
  by_cases h : argument.name = name
  · rw [if_pos h, beq_iff_eq.mpr h]
    rfl
  · rw [if_neg h, beq_eq_false_iff_ne.mpr h]
    rfl

theorem given?_append (name : String) (before after : List Argument) :
    given? name (before ++ after) = (given? name before).or (given? name after) := by
  rw [given?, List.find?_append, Option.map_or]
  rfl

/-- A name that has occurred is given. -/
theorem isSome_given? {earlier : Argument} (h : earlier ∈ supplied) :
    (given? earlier.name supplied).isSome = true := by
  rw [given?, Option.isSome_map, List.find?_isSome]
  exact ⟨earlier, h, beq_self_eq_true _⟩

/-- A change of what is supplied that is of no concern to arguments of declared names. -/
inductive Edit (declared : String → Prop) : List Argument → List Argument → Prop where
  /-- One argument less, which is not declared. -/
  | undeclared {before after : List Argument} {argument : Argument} (h : ¬ declared argument.name) :
    Edit declared (before ++ argument :: after) (before ++ after)
  /-- One argument less, whose name has occurred before. -/
  | repeated {before after : List Argument} {earlier later : Argument} (hm : earlier ∈ before)
    (h : earlier.name = later.name) : Edit declared (before ++ later :: after) (before ++ after)
  | location {before after : List Argument} {argument : Argument} {location : Location} :
    Edit declared (before ++ argument :: after) (before ++ { argument with location } :: after)
  /-- Neighbours of distinct names, the other way round. -/
  | order {before after : List Argument} {first second : Argument} (h : first.name ≠ second.name) :
    Edit declared (before ++ first :: second :: after) (before ++ second :: first :: after)

theorem Edit.given?_eq {declared : String → Prop} (h : Edit declared supplied edited)
    (hn : declared name) : given? name supplied = given? name edited := by
  cases h with
  | @undeclared before after argument h =>
    have other : argument.name ≠ name := by
      rintro rfl
      exact h hn
    rw [given?_append, given?_append, given?_cons, if_neg other]
  | @repeated before after earlier later hm h =>
    rw [given?_append, given?_append, given?_cons]
    by_cases same : later.name = name
    · obtain ⟨literal, hl⟩ := Option.isSome_iff_exists.mp (isSome_given? hm)
      rw [h, same] at hl
      rw [hl, Option.some_or, Option.some_or]
    · rw [if_neg same]
  | location => rw [given?_append, given?_append, given?_cons, given?_cons]
  | @order before after first second h =>
    simp only [given?_append, given?_cons]
    by_cases same : first.name = name
    · have other : second.name ≠ name := fun hs => h (same.trans hs.symm)
      rw [if_pos same, if_neg other, if_pos same]
    · rw [if_neg same, if_neg same]

/-- The names that are declared. -/
def Declares (definitions : List ArgumentDefinition) (name : String) : Prop :=
  ∃ definition ∈ definitions, definition.name = name

/-- Supplied arguments of which the first of each declared name has the same literal. -/
def SameGiven (definitions : List ArgumentDefinition) (supplied other : List Argument) : Prop :=
  ∀ name, Declares definitions name → given? name supplied = given? name other

theorem sameGiven_of_edits (h : Relation.EqvGen (Edit (Declares definitions)) supplied edited) :
    SameGiven definitions supplied edited := by
  intro name declared
  induction h with
  | rel _ _ h => exact h.given?_eq declared
  | refl => rfl
  | symm _ _ _ ih => exact ih.symm
  | trans _ _ _ _ _ ih ih' => exact ih.trans ih'

/-- Binding looks at nothing else that is supplied. -/
theorem coerceArguments_congr (registry : Registry) (h : SameGiven definitions supplied edited) :
    coerceArguments registry definitions supplied = coerceArguments registry definitions edited := by
  have each : ∀ definition ∈ definitions,
      bind registry supplied definition = bind registry edited definition := by
    intro definition hd
    have same : select? definition supplied = select? definition edited :=
      congrArg (·.or definition.defaultValue) (h definition.name ⟨definition, hd, rfl⟩)
    rw [bind_eq, bind_eq, selected, selected, same]
  exact Outcome.mapM_congr each

/-- The values of the elements of a list. -/
def coerceElements (registry : Registry) (item : TypeRef) (literals : List Literal) :
    Coerced (List Value) :=
  literals.mapM (coerceElement registry item)

/-- Arguments are bound independently. Binding succeeds exactly if it does for each definition alone,
with their results in the order of the definitions, and fails as the first definition that fails alone.
Of what is supplied only the first argument of each declared name counts, and of that only the literal;
so arguments that are not declared, repetitions of a name, places and the order of distinct names do
not. A list's elements are read as independently, to any depth: what comes first of all places in the
arguments, elements from left to right and depth first, decides the error. -/
theorem coerceArguments_independent (registry : Registry) (definitions : List ArgumentDefinition)
    (supplied : List Argument) :
    Piecewise (coerceArguments registry · supplied) ∧
    (∀ other, SameGiven definitions supplied other →
      coerceArguments registry definitions supplied = coerceArguments registry definitions other) ∧
    (∀ edited, Relation.EqvGen (Edit (Declares definitions)) supplied edited →
      coerceArguments registry definitions supplied = coerceArguments registry definitions edited) ∧
    (∀ item, Piecewise (coerceElements registry item) ∧ ∀ literals,
      coerceLiteral registry (.list item) (.list literals) =
        (coerceElements registry item literals).map fun values => some (.list values)) ∧
    (coerceArguments registry definitions supplied).failure? =
      (definitions.flatMap (argumentPlaces supplied)).findSome? (Place.failure? registry) := by
  refine ⟨piecewise_mapM _, fun other => coerceArguments_congr registry,
    fun edited h => coerceArguments_congr registry (sameGiven_of_edits h),
    fun item => ⟨piecewise_mapM _, fun literals => ?_⟩,
    failure?_coerceArguments registry definitions supplied⟩
  exact coerceLiteral_list registry item nofun

/-- Without an argument that is not declared and without a second one of a name, in another order and
from another place. Of what fails, the limit that is missing comes after the null among identifiers. -/
theorem coerceArguments_independent_ids :
    let ids : ArgumentDefinition := { name := "ids", type := .list (.nonNull (.named "ID")) }
    let limit : ArgumentDefinition := { name := "limit", type := .nonNull (.named "Int") }
    let identified (location : Location) : Argument :=
      ⟨"ids", .list [.int 4, .null, .boolean true], location⟩
    let unlimited : Argument := ⟨"limit", .null, .unknown⟩
    let supplied : List Argument :=
      [identified ⟨1, 9⟩, ⟨"trace", .int 1, .unknown⟩, unlimited, ⟨"limit", .int 5, .unknown⟩]
    let edited : List Argument := [unlimited, identified .unknown]
    SameGiven [ids, limit] supplied edited ∧
    Relation.EqvGen (Edit (Declares [ids, limit])) supplied edited ∧
    coerceArguments Registry.standard [ids, limit] supplied =
      .error (.data "ID" "list elements of a non-null type must not be null") := by
  intro ids limit identified unlimited supplied edited
  let declared := Declares [ids, limit]
  let limited : Argument := ⟨"limit", .int 5, .unknown⟩
  have trace : ¬ declared "trace" := by
    rintro ⟨definition, hd, named⟩
    simp only [List.mem_cons, List.not_mem_nil, or_false] at hd
    rcases hd with rfl | rfl <;> simp [ids, limit] at named
  have undeclared : Edit declared supplied [identified ⟨1, 9⟩, unlimited, limited] :=
    @Edit.undeclared declared [identified ⟨1, 9⟩] [unlimited, limited] ⟨"trace", .int 1, .unknown⟩ trace
  have repeated : Edit declared [identified ⟨1, 9⟩, unlimited, limited]
      [identified ⟨1, 9⟩, unlimited] :=
    @Edit.repeated declared [identified ⟨1, 9⟩, unlimited] [] unlimited limited (by simp) rfl
  have order : Edit declared [identified ⟨1, 9⟩, unlimited] [unlimited, identified ⟨1, 9⟩] :=
    @Edit.order declared [] [] (identified ⟨1, 9⟩) unlimited (by simp [identified, unlimited])
  have location : Edit declared [unlimited, identified ⟨1, 9⟩] edited :=
    @Edit.location declared [unlimited] [] (identified ⟨1, 9⟩) .unknown
  have edits : Relation.EqvGen (Edit declared) supplied edited :=
    .trans _ _ _ (.rel _ _ undeclared) (.trans _ _ _ (.rel _ _ repeated)
      (.trans _ _ _ (.rel _ _ order) (.rel _ _ location)))
  have failed : coerceArguments Registry.standard [ids, limit] edited =
      .error (.data "ID" "list elements of a non-null type must not be null") := by rfl
  have independent := coerceArguments_independent Registry.standard [ids, limit] supplied
  exact ⟨sameGiven_of_edits edits, edits, (independent.2.2.1 edited edits).trans failed⟩

end Binding
end SpatialQuery
