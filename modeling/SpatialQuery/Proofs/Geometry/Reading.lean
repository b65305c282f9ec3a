import SpatialQuery.Geometry.Nested

namespace SpatialQuery.Geometry

namespace Nested

theorem ofLiterals_eq_mapM (items : List Literal) : ofLiterals items = items.mapM ofLiteral := by
  induction items with
  | nil => rfl
  | cons item rest ih => rw [ofLiterals, ih, List.mapM_cons]

theorem ofJsons_eq_mapM (items : List Json) : ofJsons items = items.mapM ofJson := by
  induction items with
  | nil => rfl
  | cons item rest ih => rw [ofJsons, ih, List.mapM_cons]

/-- A reader of nested lists, with the ways of writing that it undoes. -/
structure Reads {α : Type} (read : α → Except Flaw Nested) (number : Binary64 → α)
    (list : List α → α) : Prop where
  number (x : Binary64.Finite) : read (number (.finite x)) = .ok (.number x)
  list (items : List α) : read (list items) = (items.mapM read).map .list

theorem reads_literal : Reads ofLiteral .float .list where
  number _ := rfl
  list items := by rw [ofLiteral, ofLiterals_eq_mapM]

theorem reads_json : Reads ofJson .ofBinary64 .array where
  number _ := rfl
  list items := by rw [ofJson, ofJsons_eq_mapM]

/-- What is written is read as a tree that has the shape of what it was written for. -/
def ReadsBack {α β : Type} (read : α → Except Flaw Nested) (shape : Nested → Except Flaw β)
    (written : α) (meant : β) : Prop :=
  ∃ nested, read written = .ok nested ∧ shape nested = .ok meant

variable {α β : Type} {read : α → Except Flaw Nested} {number : Binary64 → α} {list : List α → α}

private theorem exists_mapM {shape : Nested → Except Flaw β} {write : β → α} {bs : List β}
    (h : ∀ b ∈ bs, ReadsBack read shape (write b) b) :
    ∃ nested, (bs.map write).mapM read = .ok nested ∧ nested.mapM shape = .ok bs := by
  induction bs with
  | nil => exact ⟨[], rfl, rfl⟩
  | cons b bs ih =>
    obtain ⟨first, hr, hs⟩ := h b (by simp)
    obtain ⟨rest, hrs, hss⟩ := ih fun c hc => h c (by simp [hc])
    refine ⟨first :: rest, ?_, ?_⟩
    · rw [List.map_cons, List.mapM_cons, hr, hrs]
      rfl
    · rw [List.mapM_cons, hs, hss]
      rfl

/-- A list is read back if each of its items is. -/
theorem Reads.readsBack_list (hr : Reads read number list) {shape : Nested → Except Flaw β}
    {write : β → α} {bs : List β} (h : ∀ b ∈ bs, ReadsBack read shape (write b) b) :
    ReadsBack read (fun nested => nested.items >>= (·.mapM shape)) (list (bs.map write)) bs := by
  obtain ⟨nested, hread, hshape⟩ := exists_mapM h
  refine ⟨.list nested, ?_, hshape⟩
  rw [hr.list, hread]
  rfl

theorem Reads.readsBack_position (hr : Reads read number list) {p : Position}
    (hp : p.isFinite = true) :
    ReadsBack read position (Coordinates.nest.ofPosition number list p) p := by
  obtain ⟨x, y⟩ := p
  cases x <;> cases y <;> simp only [Position.isFinite, Binary64.isFinite, Bool.and_true,
    Bool.and_false, Bool.false_eq_true] at hp
  rename_i x y
  refine ⟨.list [.number x, .number y], ?_, rfl⟩
  rw [Coordinates.nest.ofPosition, hr.list, List.mapM_cons, List.mapM_cons, hr.number, hr.number]
  rfl

theorem Reads.readsBack_path (hr : Reads read number list) {ps : List Position}
    (hp : ∀ p ∈ ps, p.isFinite = true) :
    ReadsBack read path (Coordinates.nest.ofPath number list ps) ps :=
  hr.readsBack_list fun p hm => hr.readsBack_position (hp p hm)

theorem Reads.readsBack_paths (hr : Reads read number list) {pss : List (List Position)}
    (hp : ∀ ps ∈ pss, ∀ p ∈ ps, p.isFinite = true) :
    ReadsBack read paths (list (pss.map (Coordinates.nest.ofPath number list))) pss :=
  hr.readsBack_list fun ps hm => hr.readsBack_path (hp ps hm)

theorem Reads.readsBack_groups (hr : Reads read number list) {psss : List (List (List Position))}
    (hp : ∀ pss ∈ psss, ∀ ps ∈ pss, ∀ p ∈ ps, p.isFinite = true) :
    ReadsBack read groups
      (list (psss.map fun pss => list (pss.map (Coordinates.nest.ofPath number list)))) psss :=
  hr.readsBack_list fun pss hm => hr.readsBack_paths (hp pss hm)

/-- Coordinates of finite numbers are read back, for a kind of their depth, from what is written for
them. -/
theorem Reads.readsBack_nest (hr : Reads read number list) {kind : Kind} {coordinates : Coordinates}
    (hd : coordinates.depth = kind.depth) (hf : ∀ p ∈ coordinates.positions, p.isFinite = true) :
    ReadsBack read (Nested.coordinates kind) (coordinates.nest number list) coordinates := by
  unfold Nested.coordinates
  rw [← hd]
  cases coordinates with
  | position p =>
    obtain ⟨nested, h, hs⟩ := hr.readsBack_position (hf p (by simp [Coordinates.positions]))
    exact ⟨nested, h, congrArg (Except.map Coordinates.position) hs⟩
  | path ps =>
    obtain ⟨nested, h, hs⟩ := hr.readsBack_path (show ∀ p ∈ ps, _ from hf)
    exact ⟨nested, h, congrArg (Except.map Coordinates.path) hs⟩
  | paths pss =>
    have finite : ∀ ps ∈ pss, ∀ p ∈ ps, p.isFinite = true := fun ps hps p hp =>
      hf p (List.mem_flatten.mpr ⟨ps, hps, hp⟩)
    obtain ⟨nested, h, hs⟩ := hr.readsBack_paths finite
    exact ⟨nested, h, congrArg (Except.map Coordinates.paths) hs⟩
  | groups psss =>
    have finite : ∀ pss ∈ psss, ∀ ps ∈ pss, ∀ p ∈ ps, p.isFinite = true := fun pss hpss ps hps p hp =>
      hf p (List.mem_flatten.mpr ⟨ps, List.mem_flatten.mpr ⟨pss, hpss, hps⟩, hp⟩)
    obtain ⟨nested, h, hs⟩ := hr.readsBack_groups finite
    exact ⟨nested, h, congrArg (Except.map Coordinates.groups) hs⟩

end Nested
end SpatialQuery.Geometry
