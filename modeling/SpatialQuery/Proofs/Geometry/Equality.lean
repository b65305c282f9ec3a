import Mathlib.Data.List.Forall2
import SpatialQuery.Proofs.Binary64.Range
import SpatialQuery.Proofs.Geometry.Written

namespace SpatialQuery

namespace Binary64

theorem valueEq_symm {x y : Binary64} (h : x.valueEq y = true) : y.valueEq x = true := by
  cases x <;> cases y <;> simp only [valueEq, Bool.false_eq_true] at h ⊢
  · exact beq_iff_eq.mpr (beq_iff_eq.mp h).symm
  · exact Finite.valueEq_symm h

theorem valueEq_trans {x y z : Binary64} (hxy : x.valueEq y = true) (hyz : y.valueEq z = true) :
    x.valueEq z = true := by
  cases x <;> cases y <;> simp only [valueEq, Bool.false_eq_true] at hxy <;>
    cases z <;> simp only [valueEq, Bool.false_eq_true] at hyz ⊢
  · exact beq_iff_eq.mpr ((beq_iff_eq.mp hxy).trans (beq_iff_eq.mp hyz))
  · exact Finite.valueEq_trans hxy hyz

end Binary64

namespace Geometry

namespace Coordinates

section

variable {α β : Type} {eq : α → α → Bool}

theorem listEq_iff {as bs : List α} :
    listEq eq as bs = true ↔ List.Forall₂ (fun a b => eq a b = true) as bs := by
  induction as generalizing bs with
  | nil => cases bs <;> simp [listEq]
  | cons a as ih => cases bs <;> simp [listEq, ih]

theorem listEq_refl {as : List α} (h : ∀ a ∈ as, eq a a = true) : listEq eq as as = true :=
  listEq_iff.mpr (List.forall₂_same.mpr h)

theorem listEq_symm (h : ∀ a b, eq a b = true → eq b a = true) (as bs : List α)
    (hl : listEq eq as bs = true) : listEq eq bs as = true := by
  rw [listEq_iff] at hl ⊢
  exact (hl.imp h).flip

theorem listEq_trans (h : ∀ a b c, eq a b = true → eq b c = true → eq a c = true)
    (as bs cs : List α) (hl : listEq eq as bs = true) (hr : listEq eq bs cs = true) :
    listEq eq as cs = true := by
  induction as generalizing bs cs with
  | nil =>
    cases bs
    · exact hr
    · cases hl
  | cons a as ih =>
    cases bs with
    | nil => cases hl
    | cons b bs =>
      cases cs with
      | nil => cases hr
      | cons c cs =>
        simp only [listEq, Bool.and_eq_true] at hl hr ⊢
        exact ⟨h a b c hl.1 hr.1, ih bs cs hl.2 hr.2⟩

/-- Lists of what is written for items are compared as the items are. -/
theorem listEq_map {eq' : β → β → Bool} {write : β → α} {as bs : List β}
    (h : ∀ a ∈ as, ∀ b ∈ bs, eq (write a) (write b) = eq' a b) :
    listEq eq (as.map write) (bs.map write) = listEq eq' as bs := by
  induction as generalizing bs with
  | nil => cases bs <;> rfl
  | cons a as ih =>
    cases bs with
    | nil => rfl
    | cons b bs =>
      rw [List.map_cons, List.map_cons, listEq, listEq, h a (by simp) b (by simp),
        ih fun a ha b hb => h a (by simp [ha]) b (by simp [hb])]

end

end Coordinates

namespace Position

theorem valueEq_refl {p : Position} (h : p.isFinite = true) : p.valueEq p = true := by
  obtain ⟨x, y⟩ := p
  obtain ⟨hx, hy⟩ := Bool.and_eq_true_iff.mp h
  obtain ⟨x, rfl⟩ := Binary64.exists_finite hx
  obtain ⟨y, rfl⟩ := Binary64.exists_finite hy
  exact Bool.and_eq_true_iff.mpr ⟨Binary64.Finite.valueEq_refl x, Binary64.Finite.valueEq_refl y⟩

theorem valueEq_symm (p q : Position) (h : p.valueEq q = true) : q.valueEq p = true := by
  obtain ⟨hx, hy⟩ := Bool.and_eq_true_iff.mp h
  exact Bool.and_eq_true_iff.mpr ⟨Binary64.valueEq_symm hx, Binary64.valueEq_symm hy⟩

theorem valueEq_trans (p q r : Position) (hl : p.valueEq q = true) (hr : q.valueEq r = true) :
    p.valueEq r = true := by
  obtain ⟨hx, hy⟩ := Bool.and_eq_true_iff.mp hl
  obtain ⟨hx', hy'⟩ := Bool.and_eq_true_iff.mp hr
  exact Bool.and_eq_true_iff.mpr ⟨Binary64.valueEq_trans hx hx', Binary64.valueEq_trans hy hy'⟩

end Position

namespace Coordinates

theorem valueEq_refl {coordinates : Coordinates}
    (h : ∀ p ∈ coordinates.positions, p.isFinite = true) :
    coordinates.valueEq coordinates = true := by
  have path {ps : List Position} (h : ∀ p ∈ ps, p.isFinite = true) :
      listEq Position.valueEq ps ps = true := listEq_refl fun p hp => Position.valueEq_refl (h p hp)
  cases coordinates with
  | position p => exact Position.valueEq_refl (h p (.head _))
  | path ps => exact path h
  | paths pss =>
    exact listEq_refl fun ps hps => path fun p hp => h p (List.mem_flatten.mpr ⟨ps, hps, hp⟩)
  | groups psss =>
    refine listEq_refl fun pss hpss => listEq_refl fun ps hps => path fun p hp => h p ?_
    exact List.mem_flatten.mpr ⟨ps, List.mem_flatten.mpr ⟨pss, hpss, hps⟩, hp⟩

theorem valueEq_symm (a b : Coordinates) (h : a.valueEq b = true) : b.valueEq a = true := by
  have path := listEq_symm Position.valueEq_symm
  cases a <;> cases b <;> simp only [valueEq, Bool.false_eq_true] at h ⊢
  · exact Position.valueEq_symm _ _ h
  · exact path _ _ h
  · exact listEq_symm path _ _ h
  · exact listEq_symm (listEq_symm path) _ _ h

theorem valueEq_trans (a b c : Coordinates) (hl : a.valueEq b = true) (hr : b.valueEq c = true) :
    a.valueEq c = true := by
  have path := listEq_trans Position.valueEq_trans
  cases a <;> cases b <;> simp only [valueEq, Bool.false_eq_true] at hl <;>
    cases c <;> simp only [valueEq, Bool.false_eq_true] at hr ⊢
  · exact Position.valueEq_trans _ _ _ hl hr
  · exact path _ _ _ hl hr
  · exact listEq_trans path _ _ _ hl hr
  · exact listEq_trans (listEq_trans path) _ _ _ hl hr

/-- A position with a coordinate that is no number differs from itself. -/
theorem not_equivalence_valueEq : ¬Equivalence fun a b : Coordinates => a.valueEq b = true := by
  intro h
  exact absurd (h.refl (.position ⟨.nan, .nan⟩)) (by decide)

end Coordinates

/-- A comparison of trees that compares numbers by value and lists item by item. -/
structure Compares {α : Type} (eq : α → α → Bool) (number : Binary64 → α) (list : List α → α) :
    Prop where
  number (x y : Binary64.Finite) : eq (number (.finite x)) (number (.finite y)) = x.valueEq y
  list (as bs : List α) : eq (list as) (list bs) = Coordinates.listEq eq as bs

theorem compares_json : Compares Json.valueEq .ofBinary64 .array where
  number _ _ := rfl
  list as bs := by
    rw [Json.valueEq]
    induction as generalizing bs with
    | nil => cases bs <;> rfl
    | cons a as ih => cases bs <;> simp only [Json.itemsEq, Coordinates.listEq, ih]

theorem compares_literal : Compares Literal.valueEq .float .list where
  number _ _ := by rw [Literal.valueEq]; rfl
  list as bs := by
    rw [Literal.valueEq]
    induction as generalizing bs with
    | nil => cases bs <;> rfl
    | cons a as ih => cases bs <;> simp only [Literal.itemsEq, Coordinates.listEq, ih]

namespace Compares

variable {α : Type} {eq : α → α → Bool} {number : Binary64 → α} {list : List α → α}

open Coordinates (listEq listEq_map)

theorem position (hc : Compares eq number list) {p q : Position} (hp : p.isFinite = true)
    (hq : q.isFinite = true) :
    eq (Coordinates.nest.ofPosition number list p) (Coordinates.nest.ofPosition number list q) =
      p.valueEq q := by
  obtain ⟨x, y⟩ := p
  obtain ⟨x', y'⟩ := q
  simp only [Position.isFinite, Bool.and_eq_true] at hp hq
  obtain ⟨x, rfl⟩ := Binary64.exists_finite hp.1
  obtain ⟨y, rfl⟩ := Binary64.exists_finite hp.2
  obtain ⟨x', rfl⟩ := Binary64.exists_finite hq.1
  obtain ⟨y', rfl⟩ := Binary64.exists_finite hq.2
  rw [Coordinates.nest.ofPosition, Coordinates.nest.ofPosition, hc.list, listEq, listEq, listEq,
    hc.number, hc.number, Bool.and_true]
  rfl

theorem path (hc : Compares eq number list) {ps qs : List Position}
    (hp : ∀ p ∈ ps, p.isFinite = true) (hq : ∀ q ∈ qs, q.isFinite = true) :
    eq (Coordinates.nest.ofPath number list ps) (Coordinates.nest.ofPath number list qs) =
      listEq Position.valueEq ps qs := by
  rw [Coordinates.nest.ofPath, Coordinates.nest.ofPath, hc.list]
  exact listEq_map fun p hm q hn => hc.position (hp p hm) (hq q hn)

/-- At equal depths, coordinates are equal exactly if what is written for them is. At different ones
what is written may be equal, as no positions and no paths are. -/
theorem nest (hc : Compares eq number list) {a b : Coordinates} (hd : a.depth = b.depth)
    (ha : ∀ p ∈ a.positions, p.isFinite = true) (hb : ∀ p ∈ b.positions, p.isFinite = true) :
    eq (a.nest number list) (b.nest number list) = a.valueEq b := by
  have paths {pss qss : List (List Position)} (hp : ∀ ps ∈ pss, ∀ p ∈ ps, p.isFinite = true)
      (hq : ∀ qs ∈ qss, ∀ q ∈ qs, q.isFinite = true) :
      eq (list (pss.map (Coordinates.nest.ofPath number list)))
        (list (qss.map (Coordinates.nest.ofPath number list))) =
          listEq (listEq Position.valueEq) pss qss := by
    rw [hc.list]
    exact listEq_map fun ps hm qs hn => hc.path (hp ps hm) (hq qs hn)
  cases a with
  | position p =>
    cases b with
    | position q => exact hc.position (ha p (.head _)) (hb q (.head _))
    | path | paths | groups => cases hd
  | path ps =>
    cases b with
    | path qs => exact hc.path ha hb
    | position | paths | groups => cases hd
  | paths pss =>
    cases b with
    | paths qss =>
      exact paths (fun ps hm p hp => ha p (List.mem_flatten.mpr ⟨ps, hm, hp⟩))
        fun qs hm q hq => hb q (List.mem_flatten.mpr ⟨qs, hm, hq⟩)
    | position | path | groups => cases hd
  | groups psss =>
    cases b with
    | groups qsss =>
      rw [Coordinates.nest, Coordinates.nest, hc.list]
      refine listEq_map fun pss hpss qss hqss =>
        paths (fun ps hps p hp => ha p ?_) fun qs hqs q hq => hb q ?_
      · exact List.mem_flatten.mpr ⟨ps, List.mem_flatten.mpr ⟨pss, hpss, hps⟩, hp⟩
      · exact List.mem_flatten.mpr ⟨qs, List.mem_flatten.mpr ⟨qss, hqss, hqs⟩, hq⟩
    | position | path | paths => cases hd

/-- The name of the kind tells the depth. -/
theorem name_and_nest (hc : Compares eq number list) (g h : Geometry) :
    (g.kind.name == h.kind.name &&
        eq (g.coordinates.nest number list) (h.coordinates.nest number list)) =
      (g.kind == h.kind && g.coordinates.valueEq h.coordinates) := by
  by_cases hk : g.kind = h.kind
  · have hd : g.coordinates.depth = h.coordinates.depth := by
      rw [g.valid.depth, h.valid.depth, hk]
    rw [hc.nest hd g.valid.finite h.valid.finite, hk, beq_self_eq_true, beq_self_eq_true]
  · have hn : g.kind.name ≠ h.kind.name := fun same => hk (Kind.name_injective same)
    rw [beq_eq_false_iff_ne.mpr hn, beq_eq_false_iff_ne.mpr hk, Bool.false_and, Bool.false_and]

end Compares

theorem srid_beq (s t : Int32) : (s.toInt64 == t.toInt64) = (s == t) := by
  rw [Bool.eq_iff_iff, beq_iff_eq, beq_iff_eq]
  refine ⟨fun h => ?_, congrArg Int32.toInt64⟩
  have narrowed := congrArg Int64.toInt32 h
  rwa [Int32.toInt32_toInt64, Int32.toInt32_toInt64] at narrowed

theorem valueEq_toJson (g h : Geometry) : g.toJson.valueEq h.toJson = g.valueEq h := by
  have hn := compares_json.name_and_nest g h
  have number (m n : Int64) : (Json.Number.ofInt64 m).valueEq (.ofInt64 n) = (m == n) := by
    rw [Bool.eq_iff_iff, Json.Number.ofInt64, Json.Number.ofInt64, Json.Number.valueEq, beq_iff_eq,
      beq_iff_eq, Int64.toInt_inj]
  cases hs : g.srid <;> cases ht : h.srid <;>
    simp [toJson, valueEq, Json.valueEq, Json.membersIn, typeField, coordinatesField, sridField,
      List.lookup_cons, hs, ht, ← Bool.and_assoc, hn, number, srid_beq]

theorem valueEq_toLiteral (g h : Geometry) : g.toLiteral.valueEq h.toLiteral = g.valueEq h := by
  have hn := compares_literal.name_and_nest g h
  cases hs : g.srid <;> cases ht : h.srid <;>
    simp [toLiteral, valueEq, Literal.valueEq, Literal.fieldsEq, hs, ht, ← Bool.and_assoc, hn,
      srid_beq]

theorem valueEq_iff {g h : Geometry} : g.valueEq h = true ↔
    (g.kind = h.kind ∧ g.coordinates.valueEq h.coordinates = true) ∧ g.srid = h.srid := by
  rw [valueEq, Bool.and_eq_true, Bool.and_eq_true, beq_iff_eq, beq_iff_eq]

theorem equivalence_valueEq : Equivalence fun g h : Geometry => g.valueEq h = true := by
  refine ⟨fun g => ?_, fun h => ?_, fun h h' => ?_⟩
  · exact valueEq_iff.mpr ⟨⟨rfl, Coordinates.valueEq_refl g.valid.finite⟩, rfl⟩
  · obtain ⟨⟨hk, hc⟩, hs⟩ := valueEq_iff.mp h
    exact valueEq_iff.mpr ⟨⟨hk.symm, Coordinates.valueEq_symm _ _ hc⟩, hs.symm⟩
  · obtain ⟨⟨hk, hc⟩, hs⟩ := valueEq_iff.mp h
    obtain ⟨⟨hk', hc'⟩, hs'⟩ := valueEq_iff.mp h'
    exact valueEq_iff.mpr ⟨⟨hk.trans hk', Coordinates.valueEq_trans _ _ _ hc hc'⟩, hs.trans hs'⟩

/-- Geometries are equal exactly if their serialized forms are, and exactly if their literals are. This
is an equivalence of geometries, but not of coordinates that may break the rules of their kind. -/
theorem equality_coincides :
    (∀ g h : Geometry, (g.valueEq h = true ↔ g.toJson.valueEq h.toJson = true) ∧
      (g.toJson.valueEq h.toJson = true ↔ g.toLiteral.valueEq h.toLiteral = true)) ∧
    Equivalence (fun g h : Geometry => g.valueEq h = true) ∧
    ¬Equivalence fun a b : Coordinates => a.valueEq b = true := by
  refine ⟨fun g h => ?_, equivalence_valueEq, Coordinates.not_equivalence_valueEq⟩
  rw [valueEq_toJson, valueEq_toLiteral]
  exact ⟨Iff.rfl, Iff.rfl⟩

end Geometry
end SpatialQuery
