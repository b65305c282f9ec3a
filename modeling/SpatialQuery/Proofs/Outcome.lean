import Mathlib.Data.List.Forall2

namespace SpatialQuery.Outcome

variable {ε ε' α β : Type}

@[simp] theorem ok_bind (a : α) (f : α → Except ε β) : (Except.ok a >>= f) = f a := rfl

@[simp] theorem error_bind (e : ε) (f : α → Except ε β) :
    (Except.error e >>= f) = Except.error e := rfl

@[simp] theorem mapError_ok (f : ε → ε') (a : α) : (Except.ok a).mapError f = .ok a := rfl

@[simp] theorem mapError_error (f : ε → ε') (e : ε) :
    (Except.error e : Except ε α).mapError f = .error (f e) := rfl

@[simp] theorem map_ok (f : α → β) (a : α) : (Except.ok a : Except ε α).map f = .ok (f a) := rfl

@[simp] theorem map_error (f : α → β) (e : ε) : (Except.error e : Except ε α).map f = .error e := rfl

theorem bind_eq_ok_iff {x : Except ε α} {f : α → Except ε β} {b : β} :
    x >>= f = .ok b ↔ ∃ a, x = .ok a ∧ f a = .ok b := by
  cases x <;> simp

theorem bind_eq_error_iff {x : Except ε α} {f : α → Except ε β} {e : ε} :
    x >>= f = .error e ↔ x = .error e ∨ ∃ a, x = .ok a ∧ f a = .error e := by
  cases x <;> simp

/-- A last stage that cannot fail only changes the result. -/
theorem bind_pure_eq_map (x : Except ε α) (f : α → β) : (x >>= fun a => pure (f a)) = x.map f := by
  cases x <;> rfl

theorem map_eq_ok_iff {x : Except ε α} {f : α → β} {b : β} :
    x.map f = .ok b ↔ ∃ a, x = .ok a ∧ f a = b := by
  cases x <;> simp

theorem map_eq_error_iff {x : Except ε α} {f : α → β} {e : ε} :
    x.map f = .error e ↔ x = .error e := by
  cases x <;> simp

theorem mapError_eq_ok_iff {x : Except ε α} {f : ε → ε'} {a : α} :
    x.mapError f = .ok a ↔ x = .ok a := by
  cases x <;> simp

theorem mapError_eq_error_iff {x : Except ε α} {f : ε → ε'} {e : ε'} :
    x.mapError f = .error e ↔ ∃ d, x = .error d ∧ f d = e := by
  cases x <;> simp

/-- A search whose questions are all answered finds what the answers tell. -/
theorem findM?_eq_ok {p : α → Except ε Bool} {q : α → Bool} {as : List α}
    (h : ∀ a ∈ as, p a = .ok (q a)) : as.findM? p = .ok (as.find? q) := by
  induction as with
  | nil => rfl
  | cons a as ih =>
    rw [List.findM?, h a (by simp), ih fun b hb => h b (by simp [hb]), List.find?_cons]
    cases q a <;> rfl

theorem anyM_eq_ok {p : α → Except ε Bool} {q : α → Bool} {as : List α}
    (h : ∀ a ∈ as, p a = .ok (q a)) : as.anyM p = .ok (as.any q) := by
  induction as with
  | nil => rfl
  | cons a as ih =>
    rw [List.anyM, h a (by simp), ih fun b hb => h b (by simp [hb]), List.any_cons]
    cases q a <;> rfl

/-- Whether there is something is the same question as what there is. -/
theorem anyM_eq_map_findM? (p : α → Except ε Bool) (as : List α) :
    as.anyM p = (as.findM? p).map Option.isSome := by
  induction as with
  | nil => rfl
  | cons a as ih =>
    rw [List.anyM, List.findM?, ih]
    rcases p a with e | (_ | _) <;> rfl

/-- A search goes on where the one before has found nothing. -/
theorem findM?_append (p : α → Except ε Bool) (as bs : List α) :
    (as ++ bs).findM? p = as.findM? p >>= fun
      | some a => .ok (some a)
      | none => bs.findM? p := by
  induction as with
  | nil => rfl
  | cons a as ih =>
    rw [List.cons_append, List.findM?, List.findM?, ih]
    rcases p a with e | (_ | _) <;> rfl

/-- Whether a list can be mapped, and to what, depends on the successes alone. -/
theorem mapM_eq_ok_congr {f g : α → Except ε β} {as : List α} {bs : List β}
    (h : ∀ a ∈ as, ∀ b, f a = .ok b ↔ g a = .ok b) : as.mapM f = .ok bs ↔ as.mapM g = .ok bs := by
  induction as generalizing bs with
  | nil => rfl
  | cons a as ih =>
    have rest : ∀ bs, as.mapM f = .ok bs ↔ as.mapM g = .ok bs :=
      fun bs => ih fun a hm => h a (by simp [hm])
    simp only [List.mapM_cons, bind_eq_ok_iff, h a (by simp), rest]

theorem mapM_congr {f g : α → Except ε β} {as : List α} (h : ∀ a ∈ as, f a = g a) :
    as.mapM f = as.mapM g := by
  induction as with
  | nil => rfl
  | cons a as ih => rw [List.mapM_cons, List.mapM_cons, h a (by simp), ih fun a hm => h a (by simp [hm])]

theorem mapM_singleton (f : α → Except ε β) (a : α) : [a].mapM f = (f a).map fun b => [b] := by
  rw [List.mapM_cons]
  cases f a <;> rfl

/-- A list is mapped to the results of its items, one by one. -/
theorem mapM_eq_ok_iff {f : α → Except ε β} {as : List α} {bs : List β} :
    as.mapM f = .ok bs ↔ List.Forall₂ (fun a b => f a = .ok b) as bs := by
  induction as generalizing bs with
  | nil =>
    rw [List.mapM_nil, List.forall₂_nil_left_iff]
    exact ⟨fun h => (Except.ok.inj h).symm, fun h => h ▸ rfl⟩
  | cons a as ih =>
    simp only [List.mapM_cons, bind_eq_ok_iff, ih, List.forall₂_cons_left_iff]
    constructor
    · rintro ⟨b, hb, rest, hr, h⟩
      cases h
      exact ⟨b, rest, hb, hr, rfl⟩
    · rintro ⟨b, rest, hb, hr, rfl⟩
      exact ⟨b, hb, rest, hr, rfl⟩

/-- A list that is mapped has as many results as items, each that of the item in its place. -/
theorem getElem?_of_mapM {f : α → Except ε β} {as : List α} {bs : List β} (h : as.mapM f = .ok bs) :
    bs.length = as.length ∧
      ∀ (i : Nat) (a : α), as[i]? = some a → ∃ b, bs[i]? = some b ∧ f a = .ok b := by
  induction as generalizing bs with
  | nil =>
    cases h
    exact ⟨rfl, nofun⟩
  | cons first as ih =>
    rw [List.mapM_cons] at h
    obtain ⟨b, hb, h⟩ := bind_eq_ok_iff.mp h
    obtain ⟨rest, hr, h⟩ := bind_eq_ok_iff.mp h
    cases h
    obtain ⟨length, each⟩ := ih hr
    refine ⟨congrArg (· + 1) length, fun i a ha => ?_⟩
    cases i with
    | zero =>
      cases ha
      exact ⟨b, rfl, hb⟩
    | succ i => exact each i a ha

theorem exists_of_mem_mapM {f : α → Except ε β} {as : List α} {bs : List β} (h : as.mapM f = .ok bs)
    {b : β} (hb : b ∈ bs) : ∃ a ∈ as, f a = .ok b := by
  obtain ⟨length, each⟩ := getElem?_of_mapM h
  obtain ⟨i, hi, rfl⟩ := List.getElem_of_mem hb
  have inside : i < as.length := length ▸ hi
  obtain ⟨b, hb, ha⟩ := each i as[i] (List.getElem?_eq_getElem inside)
  rw [List.getElem?_eq_getElem hi] at hb
  cases hb
  exact ⟨as[i], List.getElem_mem inside, ha⟩

theorem exists_mapM_eq_ok_iff {f : α → Except ε β} {as : List α} :
    (∃ bs, as.mapM f = .ok bs) ↔ ∀ a ∈ as, ∃ b, f a = .ok b := by
  constructor
  · rintro ⟨bs, h⟩ a ha
    obtain ⟨i, hi⟩ := List.mem_iff_getElem?.mp ha
    obtain ⟨b, _, hb⟩ := (getElem?_of_mapM h).2 i a hi
    exact ⟨b, hb⟩
  · intro h
    induction as with
    | nil => exact ⟨[], rfl⟩
    | cons a as ih =>
      obtain ⟨b, hb⟩ := h a (by simp)
      obtain ⟨bs, hbs⟩ := ih fun a hm => h a (by simp [hm])
      refine ⟨b :: bs, ?_⟩
      rw [List.mapM_cons, hb, hbs]
      rfl

/-- A list fails to be mapped at its first item that fails, and as that item does. -/
theorem mapM_eq_error_iff {f : α → Except ε β} {as : List α} {e : ε} :
    as.mapM f = .error e ↔
      ∃ before a after, as = before ++ a :: after ∧ (∀ b ∈ before, ∃ c, f b = .ok c) ∧
        f a = .error e := by
  constructor
  · intro h
    induction as with
    | nil => cases h
    | cons first as ih =>
      rw [List.mapM_cons] at h
      rcases bind_eq_error_iff.mp h with hf | ⟨b, hb, h⟩
      · exact ⟨[], first, as, rfl, nofun, hf⟩
      · rcases bind_eq_error_iff.mp h with hr | ⟨_, _, ⟨⟩⟩
        obtain ⟨before, a, after, rfl, hm, ha⟩ := ih hr
        exact ⟨first :: before, a, after, rfl, List.forall_mem_cons.mpr ⟨⟨b, hb⟩, hm⟩, ha⟩
  · rintro ⟨before, a, after, rfl, hm, ha⟩
    obtain ⟨bs, hbs⟩ := exists_mapM_eq_ok_iff.mpr hm
    rw [List.mapM_append, hbs, List.mapM_cons, ha]
    rfl

end SpatialQuery.Outcome
