import Mathlib.Data.List.DropRight
import SpatialQuery.Proofs.TypeRef.Written

namespace SpatialQuery

namespace Text

/-- A run of blanks, which may be empty. -/
def Blanks (text : List Char) : Prop := ∀ c ∈ text, isBlank c = true

instance (text : List Char) : Decidable (Blanks text) := List.decidableBAll (isBlank · = true) text

theorem trim_eq_rdropWhile (text : List Char) :
    trim text = (text.dropWhile isBlank).rdropWhile isBlank := rfl

/-- What is trimmed off a text is blank. -/
theorem exists_blanks_trim (text : List Char) :
    ∃ before after, Blanks before ∧ Blanks after ∧ text = before ++ trim text ++ after := by
  refine ⟨text.takeWhile isBlank, (text.dropWhile isBlank).rtakeWhile isBlank, ?_, ?_, ?_⟩
  · intro c hc
    exact List.mem_takeWhile_imp hc
  · intro c hc
    exact List.mem_rtakeWhile_imp hc
  · rw [trim_eq_rdropWhile, List.append_assoc, List.rdropWhile_append_rtakeWhile,
      List.takeWhile_append_dropWhile]

/-- Blanks around a text are trimmed off. -/
theorem trim_blanks {before text after : List Char} (hb : Blanks before) (ha : Blanks after) :
    trim (before ++ text ++ after) = trim text := by
  have back (front : List Char) : (front ++ after).rdropWhile isBlank = front.rdropWhile isBlank := by
    rw [List.rdropWhile, List.reverse_append,
      List.dropWhile_append_of_pos fun c hc => ha c (List.mem_reverse.mp hc), List.rdropWhile]
  rw [trim_eq_rdropWhile, trim_eq_rdropWhile, List.append_assoc, List.dropWhile_append_of_pos hb,
    List.dropWhile_append]
  split
  · next empty => rw [List.isEmpty_iff.mp empty, List.dropWhile_eq_nil_iff.mpr ha]
  · exact back _

theorem trim_dropWhile (text : List Char) : trim (text.dropWhile isBlank) = trim text := by
  rw [trim_eq_rdropWhile, List.dropWhile_idempotent, trim_eq_rdropWhile]

/-- Before a last character that is not blank, only leading blanks are trimmed off. -/
theorem trim_concat (text : List Char) {last : Char} (h : isBlank last = false) :
    trim (text ++ [last]) = text.dropWhile isBlank ++ [last] := by
  have stays : [last].dropWhile isBlank = [last] := List.dropWhile_cons_of_neg (by simp [h])
  have front : (text ++ [last]).dropWhile isBlank = text.dropWhile isBlank ++ [last] := by
    rw [List.dropWhile_append]
    split
    · next empty => rw [List.isEmpty_iff.mp empty, stays, List.nil_append]
    · rfl
  rw [trim_eq_rdropWhile, front, List.rdropWhile_concat_neg _ _ _ (by simp [h])]

end Text

namespace TypeRef

open Text (Blanks)

/-- A letter without accents, or an underscore. -/
def StartsName (c : Char) : Prop := ('A' ≤ c ∧ c ≤ 'Z') ∨ ('a' ≤ c ∧ c ≤ 'z') ∨ c = '_'

/-- A letter or an underscore, and then letters, underscores and digits. -/
inductive Name : List Char → Prop where
  | intro {first : Char} {rest : List Char} (hf : StartsName first)
    (hr : ∀ c ∈ rest, StartsName c ∨ ('0' ≤ c ∧ c ≤ '9')) : Name (first :: rest)

/-- What texts denote. Blanks may stand around every part but not inside a name, and a non-null form is
one of a type that may be null. -/
inductive Denotes : List Char → TypeRef → Prop where
  | named {before name after : List Char} (hb : Blanks before) (ha : Blanks after) (h : Name name) :
    Denotes (before ++ name ++ after) (.named (String.ofList name))
  | list {before text after : List Char} {item : TypeRef} (hb : Blanks before) (ha : Blanks after)
    (h : Denotes text item) : Denotes (before ++ ('[' :: text ++ [']']) ++ after) (.list item)
  | nonNull {before text after : List Char} {inner : TypeRef} (hb : Blanks before) (ha : Blanks after)
    (h : Denotes text inner) (nullable : inner.isNonNull = false) :
    Denotes (before ++ (text ++ ['!']) ++ after) (.nonNull inner)

theorem isNameStart_iff {c : Char} : isNameStart c = true ↔ StartsName c := by
  have upper : c.isUpper = true ↔ 'A' ≤ c ∧ c ≤ 'Z' := decide_eq_true_iff
  have lower : c.isLower = true ↔ 'a' ≤ c ∧ c ≤ 'z' :=
    Bool.and_eq_true_iff.trans (and_congr decide_eq_true_iff decide_eq_true_iff)
  have letter : c.isAlpha = true ↔ ('A' ≤ c ∧ c ≤ 'Z') ∨ ('a' ≤ c ∧ c ≤ 'z') :=
    Bool.or_eq_true_iff.trans (or_congr upper lower)
  rw [isNameStart, Bool.or_eq_true, letter, decide_eq_true_eq, StartsName, or_assoc]

theorem isNameChar_iff {c : Char} :
    isNameChar c = true ↔ StartsName c ∨ ('0' ≤ c ∧ c ≤ '9') := by
  rw [← isNameStart_iff]
  simp only [isNameChar, isNameStart, Char.isAlphanum, Char.isDigit, Bool.or_eq_true,
    Bool.and_eq_true, decide_eq_true_eq, Char.le_def, ge_iff_le]
  exact or_right_comm

theorem isName_iff {text : List Char} : isName text = true ↔ Name text := by
  constructor
  · intro h
    cases text with
    | nil => cases h
    | cons first rest =>
      obtain ⟨hf, hr⟩ := Bool.and_eq_true_iff.mp h
      exact .intro (isNameStart_iff.mp hf) fun c hc =>
        isNameChar_iff.mp (List.all_eq_true.mp hr c hc)
  · rintro ⟨hf, hr⟩
    rw [isName, isNameStart_iff.mpr hf, Bool.true_and, List.all_eq_true]
    exact fun c hc => isNameChar_iff.mpr (hr c hc)

/-- Reading looks only at what is left of a text when it is trimmed. -/
theorem parse?_congr {text other : List Char} (same : Text.trim text = Text.trim other) :
    parse? text = parse? other := by
  by_cases last : (Text.trim text).getLast? = some '!'
  · rw [parse?_nonNull last, same]
    exact (parse?_nonNull (same ▸ last)).symm
  by_cases head : (Text.trim text).head? = some '['
  · obtain ⟨rest, shape⟩ := List.head?_eq_some_iff.mp head
    rw [parse?_list last shape]
    exact (parse?_list (same ▸ last) (same ▸ shape)).symm
  · rw [parse?_named last head, same]
    exact (parse?_named (same ▸ last) (same ▸ head)).symm

theorem denotes_of_parse? {text : List Char} {type : TypeRef} (h : parse? text = some type) :
    Denotes text type := by
  fun_induction parse? text generalizing type with
  | case1 text last ih =>
    obtain ⟨inner, hi, h⟩ := Option.bind_eq_some_iff.mp h
    split at h
    · cases h
    · next nullable =>
      cases h
      obtain ⟨before, after, hb, ha, around⟩ := Text.exists_blanks_trim text
      rw [← List.dropLast_append_getLast? '!' last] at around
      rw [around]
      exact .nonNull hb ha (ih hi) (by simpa using nullable)
  | case2 text _ rest shape last ih =>
    obtain ⟨item, hi, rfl⟩ := Option.map_eq_some_iff.mp h
    obtain ⟨before, after, hb, ha, around⟩ := Text.exists_blanks_trim text
    rw [shape, ← List.dropLast_append_getLast? ']' last] at around
    rw [around]
    exact .list hb ha (ih hi)
  | case3 => cases h
  | case4 text _ proper _ =>
    cases h
    obtain ⟨before, after, hb, ha, around⟩ := Text.exists_blanks_trim text
    have denotes := Denotes.named hb ha (isName_iff.mp proper)
    rwa [← around] at denotes
  | case5 => cases h

theorem parse?_of_denotes {text : List Char} {type : TypeRef} (h : Denotes text type) :
    parse? text = some type := by
  induction h with
  | @named before name after hb ha h =>
    have proper : WellFormed (.named (String.ofList name)) :=
      .named (by rw [String.toList_ofList]; exact isName_iff.mpr h)
    have read := parse?_write proper
    rw [write, String.toList_ofList] at read
    rw [parse?_congr (Text.trim_blanks hb ha), read]
  | @list before text after item hb ha _ ih =>
    have last : ('[' :: (text ++ [']'])).getLast? = some ']' := by
      rw [← List.cons_append, List.getLast?_concat]
    have trimmed : Text.trim ('[' :: (text ++ [']'])) = '[' :: (text ++ [']']) :=
      Text.trim_eq_self rfl (by decide) last (by decide)
    have nullable : (Text.trim ('[' :: (text ++ [']']))).getLast? ≠ some '!' := by
      rw [trimmed, last]
      decide
    rw [parse?_congr (Text.trim_blanks hb ha), List.cons_append, parse?_list nullable trimmed,
      List.getLast?_concat, if_pos rfl, List.dropLast_concat, ih, Option.map_some]
  | @nonNull before text after inner hb ha _ nullable ih =>
    have trimmed : Text.trim (text ++ ['!']) = text.dropWhile Text.isBlank ++ ['!'] :=
      Text.trim_concat text (by decide)
    have last : (Text.trim (text ++ ['!'])).getLast? = some '!' := by
      rw [trimmed, List.getLast?_concat]
    rw [parse?_congr (Text.trim_blanks hb ha), parse?_nonNull last, trimmed, List.dropLast_concat,
      parse?_congr (Text.trim_dropWhile text), ih, Option.bind_some, nullable]
    rfl

theorem parse?_eq_some_iff {text : List Char} {type : TypeRef} :
    parse? text = some type ↔ Denotes text type := ⟨denotes_of_parse?, parse?_of_denotes⟩

theorem ofString_eq_ok_iff {text : String} {type : TypeRef} :
    ofString text = .ok type ↔ Denotes text.toList type := by
  rw [← parse?_eq_some_iff, ofString]
  cases parse? text.toList <;> simp

theorem ofString_eq_error_iff {text : String} {error : ParseError} :
    ofString text = .error error ↔ (¬ ∃ type, Denotes text.toList type) ∧ error.text = text := by
  simp only [← parse?_eq_some_iff, ofString]
  cases parse? text.toList with
  | some type => simp
  | none =>
    cases error
    simp [eq_comm]

/-- Reading follows the grammar. It accepts the texts that denote a reference, of which each denotes one,
and refuses every other text as it was given, with the blanks around it. What is read has proper names
and no non-null form of a non-null form, and every reference like that is read back from what is written
for it. -/
theorem ofString_denotes :
    (∀ (text : String) (type : TypeRef), ofString text = .ok type ↔ Denotes text.toList type) ∧
    (∀ (text : String) (error : ParseError), ofString text = .error error ↔
      (¬ ∃ type, Denotes text.toList type) ∧ error.text = text) ∧
    (∀ (text : List Char) (type other : TypeRef), Denotes text type → Denotes text other →
      type = other) ∧
    (∀ (text : String) (type : TypeRef), ofString text = .ok type → type.WellFormed) ∧
    ∀ type : TypeRef, type.WellFormed → ofString type.toString = .ok type := by
  refine ⟨fun _ _ => ofString_eq_ok_iff, fun _ _ => ofString_eq_error_iff, ?_,
    fun _ _ => wellFormed_of_ofString, fun _ => ofString_toString⟩
  intro text type other h ho
  exact Option.some.inj ((parse?_of_denotes h).symm.trans (parse?_of_denotes ho))

/-- Blanks around a list and before an exclamation mark, and a second mark after a blank. -/
theorem ofString_denotes_blanks :
    let text := " [ Int ! ]\u00a0"
    let type : TypeRef := .list (.nonNull (.named "Int"))
    (Denotes text.toList type ∧ ofString text = .ok type ∧
      ∀ other, Denotes text.toList other → other = type) ∧
    (type.WellFormed ∧ ofString "[Int!]" = .ok type) ∧
    ofString "Int! !" = .error ⟨"Int! !"⟩ := by
  intro text type
  obtain ⟨accepts, _, determines, proper, written⟩ := ofString_denotes
  have spelled : text.toList = [' '] ++ ('[' :: ([] ++ (([' '] ++ ['I', 'n', 't'] ++ [' ']) ++ ['!']) ++
      [' ']) ++ [']']) ++ ['\u00a0'] := by decide
  have name : Denotes ([' '] ++ ['I', 'n', 't'] ++ [' ']) (.named "Int") :=
    .named (by decide) (by decide) (isName_iff.mp (by decide))
  have denotes : Denotes text.toList type := by
    rw [spelled]
    exact .list (by decide) (by decide) (.nonNull (by decide) (by decide) name rfl)
  have read : ofString text = .ok type := (accepts text type).mpr denotes
  have shape : type.WellFormed := proper text type read
  have unique (other : TypeRef) (h : Denotes text.toList other) : other = type :=
    determines text.toList other type h denotes
  have refused : ofString "Int! !" = .error ⟨"Int! !"⟩ := by
    have outer : (Text.trim "Int! !".toList).dropLast = "Int! ".toList := by decide
    have inner : (Text.trim "Int! ".toList).dropLast = "Int".toList := by decide
    rw [ofString, parse?_nonNull (by decide), outer, parse?_nonNull (by decide), inner,
      parse?_named (by decide) (by decide)]
    rfl
  exact ⟨⟨denotes, read, unique⟩, ⟨shape, written type shape⟩, refused⟩

end TypeRef
end SpatialQuery
