import SpatialQuery.TypeRef.Parser

namespace SpatialQuery

namespace Text

/-- Text whose first and last characters are not blank stays as it is. -/
theorem trim_eq_self {text : List Char} {first last : Char} (head : text.head? = some first)
    (hf : isBlank first = false) (tail : text.getLast? = some last) (hl : isBlank last = false) :
    trim text = text := by
  have front : text.dropWhile isBlank = text := by
    cases text with
    | nil => rfl
    | cons c rest =>
      cases head
      exact List.dropWhile_cons_of_neg (by simp [hf])
  have back : text.reverse.dropWhile isBlank = text.reverse := by
    cases hr : text.reverse with
    | nil => rfl
    | cons c rest =>
      rw [List.getLast?_eq_head?_reverse, hr] at tail
      cases tail
      exact List.dropWhile_cons_of_neg (by simp [hl])
  rw [trim, front, back, List.reverse_reverse]

end Text

namespace TypeRef

/-- References with proper names, in which a non-null form is one of a type that may be null. -/
inductive WellFormed : TypeRef → Prop where
  | named {name : String} (h : isName name.toList = true) : WellFormed (.named name)
  | list {item : TypeRef} (h : WellFormed item) : WellFormed (.list item)
  | nonNull {inner : TypeRef} (h : WellFormed inner) (nullable : inner.isNonNull = false) :
    WellFormed (.nonNull inner)

/-- Characters of names are no blanks, brackets or exclamation marks, which they lie between or above. -/
theorem toNat_of_isNameChar {c : Char} (h : isNameChar c = true) :
    48 ≤ c.toNat ∧ c.toNat ≤ 122 ∧ c.toNat ≠ 91 ∧ c.toNat ≠ 93 := by
  have ranges : isNameChar c = ((decide (65 ≤ c.val ∧ c.val ≤ 90) || 97 ≤ c.val && c.val ≤ 122 ||
      48 ≤ c.val && c.val ≤ 57) || c = '_') := rfl
  simp only [ranges, Bool.or_eq_true, Bool.and_eq_true, decide_eq_true_eq,
    UInt32.le_iff_toNat_le] at h
  change (((65 ≤ c.toNat ∧ c.toNat ≤ 90) ∨ (97 ≤ c.toNat ∧ c.toNat ≤ 122)) ∨
    (48 ≤ c.toNat ∧ c.toNat ≤ 57)) ∨ c = '_' at h
  rcases h with ((h | h) | h) | rfl
  · omega
  · omega
  · omega
  · decide

theorem isNameChar_of_isNameStart {c : Char} (h : isNameStart c = true) : isNameChar c = true := by
  simp only [isNameStart, isNameChar, Char.isAlphanum, Bool.or_eq_true] at h ⊢
  exact h.imp_left .inl

theorem not_isBlank_of_isNameChar {c : Char} (h : isNameChar c = true) : Text.isBlank c = false := by
  have range := toNat_of_isNameChar h
  simp only [Text.isBlank, List.any_cons, List.any_nil, Bool.or_false, Bool.or_eq_false_iff,
    Bool.and_eq_false_iff, decide_eq_false_iff_not]
  omega

theorem isNameChar_of_mem {name : List Char} (h : isName name = true) {c : Char} (hm : c ∈ name) :
    isNameChar c = true := by
  cases name with
  | nil => cases hm
  | cons first rest =>
    obtain ⟨hf, hr⟩ := Bool.and_eq_true_iff.mp h
    rcases List.mem_cons.mp hm with rfl | hm
    · exact isNameChar_of_isNameStart hf
    · exact List.all_eq_true.mp hr c hm

theorem parse?_nonNull {text : List Char} (h : (Text.trim text).getLast? = some '!') :
    parse? text = (parse? (Text.trim text).dropLast).bind fun inner =>
      if inner.isNonNull then none else some (.nonNull inner) := by
  rw [parse?, dif_pos h]
  rfl

theorem parse?_list {text rest : List Char} (h : (Text.trim text).getLast? ≠ some '!')
    (shape : Text.trim text = '[' :: rest) :
    parse? text = if rest.getLast? = some ']' then (parse? rest.dropLast).map .list else none := by
  rw [parse?, dif_neg h]
  split
  · rename_i same
    cases shape.symm.trans same
    rfl
  · rename_i other
    exact absurd shape (other rest)

theorem parse?_named {text : List Char} (h : (Text.trim text).getLast? ≠ some '!')
    (shape : (Text.trim text).head? ≠ some '[') :
    parse? text =
      if isName (Text.trim text) then some (.named (String.ofList (Text.trim text))) else none := by
  rw [parse?, dif_neg h]
  split
  · rename_i same
    exact absurd (congrArg List.head? same) shape
  · rfl

private theorem head_write {type : TypeRef} (h : type.WellFormed) :
    ∃ first, type.write.head? = some first ∧ Text.isBlank first = false := by
  induction h with
  | @named name h =>
    rw [write]
    cases cs : name.toList with
    | nil =>
      rw [cs] at h
      cases h
    | cons first rest =>
      rw [cs] at h
      exact ⟨first, rfl, not_isBlank_of_isNameChar (isNameChar_of_mem h (by simp))⟩
  | list => exact ⟨'[', rfl, by decide⟩
  | nonNull _ _ ih =>
    obtain ⟨first, hf, blank⟩ := ih
    exact ⟨first, by rw [write, List.head?_append, hf]; rfl, blank⟩

private theorem getLast_write {type : TypeRef} (h : type.WellFormed) :
    ∃ last, type.write.getLast? = some last ∧ Text.isBlank last = false := by
  cases h with
  | @named name h =>
    rw [write]
    cases hl : name.toList.getLast? with
    | none =>
      rw [List.getLast?_eq_none_iff.mp hl] at h
      cases h
    | some last =>
      exact ⟨last, rfl, not_isBlank_of_isNameChar (isNameChar_of_mem h (List.mem_of_getLast? hl))⟩
  | list h => exact ⟨']', by rw [write, ← List.cons_append, List.getLast?_concat], by decide⟩
  | nonNull h => exact ⟨'!', by rw [write, List.getLast?_concat], by decide⟩

theorem trim_write {type : TypeRef} (h : type.WellFormed) : Text.trim type.write = type.write := by
  obtain ⟨first, head, hf⟩ := head_write h
  obtain ⟨last, tail, hl⟩ := getLast_write h
  exact Text.trim_eq_self head hf tail hl

theorem parse?_write {type : TypeRef} (h : type.WellFormed) : parse? type.write = some type := by
  have trimmed := trim_write h
  induction h with
  | @named name h =>
    have last : (Text.trim (write (.named name))).getLast? ≠ some '!' := by
      rw [trimmed]
      intro hl
      exact absurd (isNameChar_of_mem h (List.mem_of_getLast? hl)) (by decide)
    have head : (Text.trim (write (.named name))).head? ≠ some '[' := by
      rw [trimmed]
      intro hh
      exact absurd (isNameChar_of_mem h (List.mem_of_head? hh)) (by decide)
    rw [parse?_named last head, trimmed, write, if_pos h, String.ofList_toList]
  | @list item h ih =>
    have last : (Text.trim (write (.list item))).getLast? ≠ some '!' := by
      rw [trimmed, write, ← List.cons_append, List.getLast?_concat]
      decide
    rw [parse?_list last trimmed, List.getLast?_concat, if_pos rfl, List.dropLast_concat,
      ih (trim_write h)]
    rfl
  | @nonNull inner h nullable ih =>
    have last : (Text.trim (write (.nonNull inner))).getLast? = some '!' := by
      rw [trimmed, write, List.getLast?_concat]
    rw [parse?_nonNull last, trimmed, write, List.dropLast_concat, ih (trim_write h), Option.bind_some,
      nullable]
    rfl

theorem wellFormed_of_parse? {text : List Char} {type : TypeRef} (h : parse? text = some type) :
    type.WellFormed := by
  fun_induction parse? text generalizing type with
  | case1 text last ih =>
    obtain ⟨inner, hi, h⟩ := Option.bind_eq_some_iff.mp h
    split at h
    · cases h
    · rename_i nullable
      cases h
      exact .nonNull (ih hi) (by simpa using nullable)
  | case2 text _ rest _ _ ih =>
    obtain ⟨item, hi, rfl⟩ := Option.map_eq_some_iff.mp h
    exact .list (ih hi)
  | case3 => cases h
  | case4 text _ _ proper =>
    cases h
    exact .named (by rwa [String.toList_ofList])
  | case5 => cases h

theorem ofString_toString {type : TypeRef} (h : type.WellFormed) :
    ofString type.toString = .ok type := by
  rw [ofString, toString, String.toList_ofList, parse?_write h]

theorem wellFormed_of_ofString {text : String} {type : TypeRef} (h : ofString text = .ok type) :
    type.WellFormed := by
  rw [ofString] at h
  split at h
  · cases h
    exact wellFormed_of_parse? ‹_›
  · cases h

end TypeRef
end SpatialQuery
