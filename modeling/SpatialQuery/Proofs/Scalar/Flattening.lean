import SpatialQuery.Proofs.Scalar.Stability

namespace SpatialQuery

namespace Coerced

variable {α : Type} {x y : Coerced α}

/-- Outcomes that are the same, unless both refuse bad data. -/
structure AgreesUpToRefusal (x y : Coerced α) : Prop where
  ok : ∀ result, x = .ok result ↔ y = .ok result
  violation : ∀ typeName message, x = .error (.contractViolation typeName message) ↔
    y = .error (.contractViolation typeName message)
  data : (∃ typeName message, x = .error (.data typeName message)) ↔
    ∃ typeName message, y = .error (.data typeName message)

theorem AgreesUpToRefusal.refl (x : Coerced α) : AgreesUpToRefusal x x :=
  ⟨fun _ => .rfl, fun _ _ => .rfl, .rfl⟩

/-- The outcome if it ends a search. -/
def conclusion? (x : Coerced α) : Option (Coerced α) := if x.isConclusive then some x else none

theorem agreesUpToRefusal_of_conclusion? (h : x.conclusion? = y.conclusion?) :
    AgreesUpToRefusal x y := by
  cases hx : x.isConclusive with
  | true =>
    cases hy : y.isConclusive with
    | true =>
      have same : x = y := by simpa [conclusion?, hx, hy] using h
      exact same ▸ .refl x
    | false => simp [conclusion?, hx, hy] at h
  | false =>
    cases hy : y.isConclusive with
    | true => simp [conclusion?, hx, hy] at h
    | false =>
      obtain ⟨typeName, message, rfl⟩ := exists_data hx
      obtain ⟨typeName', message', rfl⟩ := exists_data hy
      exact ⟨fun _ => ⟨nofun, nofun⟩, fun _ _ => ⟨nofun, nofun⟩,
        fun _ => ⟨_, _, rfl⟩, fun _ => ⟨_, _, rfl⟩⟩

end Coerced

namespace Composite

open SpatialQuery.Geometry (Kind)

/-- Composites within composites, down to types of any other making. -/
inductive Tree where
  | leaf (scalar : Scalar)
  | node (children : List Tree)

namespace Tree

def scalar : Tree → Scalar
  | leaf scalar => scalar
  | node children => (Composite.mk (children.map scalar)).scalar

/-- The types that are no composites of the tree, from left to right. -/
def leaves : Tree → List Scalar
  | leaf scalar => [scalar]
  | node children => children.flatMap leaves

end Tree

variable {α β : Type}

/-- A view of candidates, taken part by part, to which a composite is no more than its candidates. -/
structure SeesThrough (view : List Scalar → β) : Prop where
  append : ∀ {as as' bs bs' : List Scalar}, view as = view as' → view bs = view bs' →
    view (as ++ bs) = view (as' ++ bs')
  composite : ∀ composite : Composite, view [composite.scalar] = view composite.candidates

theorem SeesThrough.flatMap_leaves {view : List Scalar → β} (h : SeesThrough view)
    {trees : List Tree} (ht : ∀ tree ∈ trees, view [tree.scalar] = view tree.leaves) :
    view (trees.map Tree.scalar) = view (trees.flatMap Tree.leaves) := by
  induction trees with
  | nil => rfl
  | cons tree rest ih =>
    have one := ht tree (by simp)
    exact h.append one (ih fun other hm => ht other (by simp [hm]))

theorem SeesThrough.leaves {view : List Scalar → β} (h : SeesThrough view) (tree : Tree) :
    view [tree.scalar] = view tree.leaves := by
  -- The induction is on the tree; the children of a node are a list, gone through in the lemma above.
  induction tree using Tree.leaves.induct with
  | case1 scalar => rw [Tree.scalar, Tree.leaves]
  | case2 children ih =>
    rw [Tree.scalar, Tree.leaves, h.composite]
    exact h.flatMap_leaves ih

theorem SeesThrough.children {view : List Scalar → β} (h : SeesThrough view) (children : List Tree) :
    view (children.map Tree.scalar) = view (Tree.node children).leaves := by
  rw [Tree.leaves]
  exact h.flatMap_leaves fun tree _ => h.leaves tree

/-- Candidates in turn: the first that says yes acts. What comes if none does is left open, so that the
parts of a list of candidates compose as functions. -/
def handOver (asked : Scalar → Coerced Bool) (act : Scalar → Coerced α) (candidates : List Scalar)
    (otherwise : Coerced α) : Coerced α :=
  candidates.findM? asked >>= fun
    | some candidate => act candidate
    | none => otherwise

theorem handOver_append (asked : Scalar → Coerced Bool) (act : Scalar → Coerced α)
    (as bs : List Scalar) :
    handOver asked act (as ++ bs) = handOver asked act as ∘ handOver asked act bs := by
  funext otherwise
  rw [handOver, Outcome.findM?_append, Function.comp_apply, handOver]
  rcases as.findM? asked with e | (_ | candidate) <;> rfl

/-- A composite that says yes if a candidate does, and then acts as that one, can be seen through. -/
theorem seesThrough_handOver {asked : Scalar → Coerced Bool} {act : Scalar → Coerced α}
    (ha : ∀ composite : Composite, asked composite.scalar = composite.candidates.anyM asked)
    (hc : ∀ (composite : Composite) (candidate : Scalar),
      composite.candidates.findM? asked = .ok (some candidate) → act composite.scalar = act candidate) :
    SeesThrough (handOver asked act) where
  append left right := by rw [handOver_append, handOver_append, left, right]
  composite composite := by
    funext otherwise
    have alone : [composite.scalar].findM? asked = asked composite.scalar >>= fun
        | true => .ok (some composite.scalar)
        | false => .ok none := rfl
    rw [handOver, handOver, alone, ha, Outcome.anyM_eq_map_findM?]
    rcases h : composite.candidates.findM? asked with e | (_ | candidate)
    · rfl
    · rfl
    · exact hc composite candidate h

/-- What is absent stays so in a composite of any candidates. -/
theorem conversions_of_absent (composite : Composite) {v : Option Value}
    (hv : Scalar.present v = none) :
    composite.scalar.serialize v = .ok none ∧ composite.scalar.parseValue v = .ok .null ∧
      composite.scalar.parseResult v = .ok .null ∧ composite.scalar.deserialize v = .ok none := by
  simp only [scalar, serialize, parseValue, parseResult, deserialize, hv, and_self]

theorem anyM_eq_handOver (asked : Scalar → Coerced Bool) (candidates : List Scalar) :
    candidates.anyM asked = handOver asked (fun _ => .ok true) candidates (.ok false) := by
  rw [Outcome.anyM_eq_map_findM?, handOver]
  rcases candidates.findM? asked with e | (_ | candidate) <;> rfl

theorem isInstance_eq_handOver (composite : Composite) (inst : Instance) :
    composite.scalar.isInstance (some inst) =
      handOver (·.isInstance (some inst)) (fun _ => .ok true) composite.candidates (.ok false) :=
  anyM_eq_handOver _ _

theorem serialize_eq_handOver (composite : Composite) {v : Value} (hv : v.isNull = false)
    (ho : v.isObject = false) :
    composite.scalar.serialize (some v) =
      handOver (·.isInstance (some (.value v))) (·.serialize (some v)) composite.candidates
        (.error (noMatch v.describe)) :=
  serialize_present composite hv ho

theorem conclusion?_firstAccepting {declared : Option Kind} {attempt : Scalar → Coerced α}
    {otherwise : CoercionError} {candidates : List Scalar} (ho : otherwise.isData = true) :
    Coerced.conclusion? (firstAccepting declared attempt otherwise candidates) =
      candidates.findSome? fun candidate => (attempt candidate).conclusion? := by
  induction candidates generalizing declared otherwise with
  | nil =>
    cases otherwise with
    | contractViolation => cases ho
    | data => rfl
  | cons candidate rest ih =>
    rw [firstAccepting, List.findSome?_cons]
    cases attempt candidate with
    | ok result => rfl
    | error error =>
      cases error with
      | contractViolation typeName message => rfl
      | data typeName message =>
        simp only [Coerced.conclusion?, Coerced.isConclusive_data]
        split
        · exact ih rfl
        · exact ih ho

namespace Tree

variable (children : List Tree)

/-- Whatever composites offer to their candidates, nesting changes at most the refusal. -/
theorem agrees_of_offered (attempt : Scalar → Coerced α)
    (h : ∀ composite : Composite, ∃ declared what, attempt composite.scalar =
      firstAccepting declared attempt (noMatch what) composite.candidates) :
    Coerced.AgreesUpToRefusal (attempt (node children).scalar)
      (attempt (Composite.mk (node children).leaves).scalar) := by
  have found (composite : Composite) : (attempt composite.scalar).conclusion? =
      composite.candidates.findSome? fun candidate => (attempt candidate).conclusion? := by
    obtain ⟨declared, what, search⟩ := h composite
    rw [search]
    exact conclusion?_firstAccepting rfl
  have view : SeesThrough fun candidates : List Scalar =>
      candidates.findSome? fun candidate => (attempt candidate).conclusion? :=
    ⟨fun left right => by rw [List.findSome?_append, List.findSome?_append, left, right],
      fun composite => List.findSome?_singleton.trans (found composite)⟩
  apply Coerced.agreesUpToRefusal_of_conclusion?
  rw [scalar, found, found]
  exact view.children children

theorem isInstance_leaves (inst : Option Instance) : (node children).scalar.isInstance inst =
    (Composite.mk (node children).leaves).scalar.isInstance inst := by
  rw [scalar]
  cases inst with
  | none => rfl
  | some inst =>
    have view : SeesThrough (handOver (·.isInstance (some inst)) fun _ => .ok true) :=
      seesThrough_handOver (fun _ => rfl) fun _ _ _ => rfl
    rw [isInstance_eq_handOver, isInstance_eq_handOver, view.children]

theorem serialize_leaves (v : Option Value) : (node children).scalar.serialize v =
    (Composite.mk (node children).leaves).scalar.serialize v := by
  rw [scalar]
  rcases Scalar.present_cases v with absent | ⟨x, rfl, hv⟩
  · rw [(conversions_of_absent _ absent).1, (conversions_of_absent _ absent).1]
  · cases ho : x.isObject with
    | true =>
      obtain ⟨members, rfl⟩ := Value.isObject_eq_true ho
      rfl
    | false =>
      -- An inner composite asks its candidates again, and comes to the one it was chosen for.
      have view : SeesThrough (handOver (·.isInstance (some (.value x))) (·.serialize (some x))) := by
        refine seesThrough_handOver (fun _ => rfl) fun composite candidate found => ?_
        rw [serialize_present composite hv ho, found]
        rfl
      rw [serialize_eq_handOver _ hv ho, serialize_eq_handOver _ hv ho, view.children]

theorem parseLiteral_agrees (literal : Literal) :
    Coerced.AgreesUpToRefusal ((node children).scalar.parseLiteral literal)
      ((Composite.mk (node children).leaves).scalar.parseLiteral literal) := by
  cases literal with
  | object fields =>
    exact agrees_of_offered children (·.parseLiteral (.object fields)) fun composite => ⟨_, _, rfl⟩
  | null | int | float | string | boolean | enum | list =>
    rw [scalar]
    exact .refl _

/-- A conversion by which absence becomes one thing and all else is offered to the candidates. -/
theorem conversion_agrees {convert : Scalar → Option Value → Coerced α} {absence : α}
    (ha : ∀ (composite : Composite) (v : Option Value), Scalar.present v = none →
      convert composite.scalar v = .ok absence)
    (ho : ∀ (composite : Composite) (v : Value), v.isNull = false →
      convert composite.scalar (some v) = composite.offer convert v) (v : Option Value) :
    Coerced.AgreesUpToRefusal (convert (node children).scalar v)
      (convert (Composite.mk (node children).leaves).scalar v) := by
  rcases Scalar.present_cases v with absent | ⟨x, rfl, hv⟩
  · rw [scalar, ha _ v absent, ha _ v absent]
    exact .refl _
  · exact agrees_of_offered children (convert · (some x)) fun composite => ⟨_, _, ho composite x hv⟩

end Tree

/-- A tree of composites is flat but for its refusals: it has the instances that the composite of its
leaves has and serializes alike, failures included. The other conversions give the same results and
break the contract in the same way, and one refuses where the other does. -/
theorem tree_agrees_with_leaves (children : List Tree) :
    let nested := (Tree.node children).scalar
    let flat := (Composite.mk (Tree.node children).leaves).scalar
    (∀ inst, nested.isInstance inst = flat.isInstance inst) ∧
    (∀ v, nested.serialize v = flat.serialize v) ∧
    (∀ literal, Coerced.AgreesUpToRefusal (nested.parseLiteral literal) (flat.parseLiteral literal)) ∧
    ∀ v, Coerced.AgreesUpToRefusal (nested.parseValue v) (flat.parseValue v) ∧
      Coerced.AgreesUpToRefusal (nested.parseResult v) (flat.parseResult v) ∧
      Coerced.AgreesUpToRefusal (nested.deserialize v) (flat.deserialize v) := by
  intro nested flat
  refine ⟨Tree.isInstance_leaves children, Tree.serialize_leaves children,
    Tree.parseLiteral_agrees children, fun v => ⟨?_, ?_, ?_⟩⟩
  · exact Tree.conversion_agrees children (fun composite _ h => (composite.conversions_of_absent h).2.1)
      (fun composite _ => composite.parseValue_present) v
  · exact Tree.conversion_agrees children (fun composite _ h => (composite.conversions_of_absent h).2.2.1)
      (fun composite _ => composite.parseResult_present) v
  · exact Tree.conversion_agrees children (fun composite _ h => (composite.conversions_of_absent h).2.2.2)
      (fun composite _ => composite.deserialize_present) v

end Composite
end SpatialQuery
