import SpatialQuery.Proofs.Decimal.Written
import SpatialQuery.Proofs.Literal.Quoted
import SpatialQuery.Proofs.TypeRef.Written

namespace SpatialQuery

namespace Text

/-- A run of characters that what follows does not continue can be told from it. -/
theorem run_append_inj {p : Char → Bool} {run other rest tail : List Char}
    (all : ∀ c ∈ run, p c = true) (stop : ∀ c, rest.head? = some c → p c = false)
    (all' : ∀ c ∈ other, p c = true) (stop' : ∀ c, tail.head? = some c → p c = false)
    (same : run ++ rest = other ++ tail) : run = other ∧ rest = tail := by
  constructor
  · rw [← takeWhile_append all stop, same, takeWhile_append all' stop']
  · rw [← dropWhile_append all stop, same, dropWhile_append all' stop']

end Text

namespace Literal

open Decimal (Numeral)

/-- Literals of the query language: floats are finite, fields and enum values have names of the right
characters, and no enum value has the name of another literal. -/
inductive WellFormed : Literal → Prop where
  | null : WellFormed .null
  | int (n : Int64) : WellFormed (.int n)
  | float (x : Binary64.Finite) : WellFormed (.float (.finite x))
  | string (s : String) : WellFormed (.string s)
  | boolean (b : Bool) : WellFormed (.boolean b)
  | enum {name : String} (h : TypeRef.isName name.toList = true)
    (free : name ∉ ["true", "false", "null"]) : WellFormed (.enum name)
  | list {items : List Literal} (h : ∀ item ∈ items, WellFormed item) : WellFormed (.list items)
  | object {fields : List (String × Literal)}
    (names : ∀ field ∈ fields, TypeRef.isName field.1.toList = true)
    (h : ∀ field ∈ fields, WellFormed field.2) : WellFormed (.object fields)

def isWordChar (c : Char) : Bool := TypeRef.isNameChar c || c ∈ ['-', '.', '+']

/-- Text before which a word ends. -/
def Ends (text : List Char) : Prop := ∀ c, text.head? = some c → isWordChar c = false

def ofNumeral (numeral : Numeral) : Literal :=
  let magnitude := Decimal.valueOf numeral.whole
  if numeral.isInteger then .int (.ofInt (if numeral.negative then -(magnitude : Int) else magnitude))
  else .float numeral.toDecimal.toBinary64

/-- The literal that a word stands for. -/
def ofWord (word : List Char) : Literal :=
  match Numeral.read? word with
  | some numeral => ofNumeral numeral
  | none =>
    if word = "null".toList then .null
    else if word = "true".toList then .boolean true
    else if word = "false".toList then .boolean false
    else .enum (String.ofList word)

theorem ends_nil : Ends [] := by
  intro c hc
  cases hc

theorem isWordChar_of_isNameChar {c : Char} (h : TypeRef.isNameChar c = true) :
    isWordChar c = true := by
  rw [isWordChar, h, Bool.true_or]

theorem isWordChar_of_mem_write {numeral : Numeral} (h : numeral.Proper) (plus : Bool) :
    ∀ c ∈ numeral.write plus, isWordChar c = true := by
  intro c hc
  have signs : ['-', '.', 'e', '+'].all isWordChar = true := by decide
  rcases Numeral.mem_write h hc with digit | sign
  · exact isWordChar_of_isNameChar (by simp [TypeRef.isNameChar, Char.isAlphanum, digit])
  · exact List.all_eq_true.mp signs c sign

theorem ofWord_write {numeral : Numeral} (h : numeral.Proper) (plus : Bool) :
    ofWord (numeral.write plus) = ofNumeral numeral := by
  rw [ofWord, Numeral.read?_write plus h]

theorem not_isDigit_of_isNameStart {c : Char} (h : TypeRef.isNameStart c = true) :
    c.isDigit = false := by
  have ranges : TypeRef.isNameStart c =
      ((decide (65 ≤ c.val ∧ c.val ≤ 90) || 97 ≤ c.val && c.val ≤ 122) || c = '_') := rfl
  simp only [ranges, Bool.or_eq_true, Bool.and_eq_true, decide_eq_true_eq,
    UInt32.le_iff_toNat_le] at h
  change ((65 ≤ c.toNat ∧ c.toNat ≤ 90) ∨ (97 ≤ c.toNat ∧ c.toNat ≤ 122)) ∨ c = '_' at h
  rw [← Bool.not_eq_true, isDigit_iff]
  rcases h with (h | h) | rfl
  · omega
  · omega
  · decide

/-- No number starts like a name. -/
theorem read?_of_isName {name : List Char} (h : TypeRef.isName name = true) :
    Numeral.read? name = none := by
  cases name with
  | nil => cases h
  | cons first rest =>
    have start : TypeRef.isNameStart first = true := (Bool.and_eq_true_iff.mp h).1
    have unsigned (tail : List Char) : first :: rest ≠ '-' :: tail := by
      rintro ⟨⟩
      revert start
      decide
    have digits : Decimal.digits? (first :: rest) = none := by
      rw [Decimal.digits?, List.takeWhile_cons_of_neg (by simp [not_isDigit_of_isNameStart start])]
      rfl
    have read := Numeral.read?_eq_readUnsigned? false unsigned
    rw [Numeral.readUnsigned?, digits] at read
    exact read

theorem ofWord_name {name : String} (h : TypeRef.isName name.toList = true)
    (free : name ∉ ["true", "false", "null"]) : ofWord name.toList = .enum name := by
  simp only [List.mem_cons, List.not_mem_nil, or_false, not_or] at free
  rw [ofWord, read?_of_isName h]
  simp only [String.toList_inj, free, if_false, String.ofList_toList]

inductive Form where
  | word
  | string
  | list
  | object

def form : Literal → Form
  | .null | .int _ | .float _ | .boolean _ | .enum _ => .word
  | .string _ => .string
  | .list _ => .list
  | .object _ => .object

/-- The form of the literals that start with a character. -/
def formOf? (c : Char) : Option Form :=
  if isWordChar c then some .word
  else match c with
    | '"' => some .string
    | '[' => some .list
    | '\x7b' => some .object
    | _ => none

/-- What is written for null, a number, a truth value or an enum value is one word, which stands for
nothing else. -/
structure Word (literal : Literal) : Prop where
  nonempty : literal.write ≠ []
  all : ∀ c ∈ literal.write, isWordChar c = true
  value : ofWord literal.write = literal

theorem WellFormed.word {literal : Literal} (h : literal.WellFormed) (bare : literal.form = .word) :
    literal.Word := by
  cases h with
  | null => exact ⟨List.cons_ne_nil _ _, List.all_eq_true.mp rfl, rfl⟩
  | int n =>
    obtain ⟨numeral, proper, text, integer, value⟩ := Decimal.exists_numeral_ofInt n.toInt
    refine ⟨?_, ?_, ?_⟩ <;> rw [write, text]
    · exact Numeral.write_ne_nil _ proper
    · exact isWordChar_of_mem_write proper _
    · rw [ofWord_write proper, ofNumeral, if_pos integer, value, Int64.ofInt_toInt]
  | float x =>
    obtain ⟨numeral, proper, text, fractional, value⟩ := floatFormat.exists_numeral x
    refine ⟨?_, ?_, ?_⟩ <;> rw [write, writeFloat, text]
    · exact Numeral.write_ne_nil _ proper
    · exact isWordChar_of_mem_write proper _
    · rw [ofWord_write proper, ofNumeral, if_neg (Bool.eq_false_iff.mp fractional), value]
  | boolean b => cases b <;> exact ⟨List.cons_ne_nil _ _, List.all_eq_true.mp rfl, rfl⟩
  | @enum name h free =>
    refine ⟨?_, fun c hc => ?_, ofWord_name h free⟩
    · rw [write]
      intro empty
      rw [empty] at h
      cases h
    · exact isWordChar_of_isNameChar (TypeRef.isNameChar_of_mem h hc)
  | string | list | object => cases bare

/-- The first character of a literal tells its form. -/
theorem WellFormed.head?_write {literal : Literal} (h : literal.WellFormed) (rest : List Char) :
    (literal.write ++ rest).head?.bind formOf? = some literal.form := by
  cases hf : literal.form with
  | word =>
    obtain ⟨nonempty, all, _⟩ := h.word hf
    obtain ⟨c, cs, text⟩ := List.exists_cons_of_ne_nil nonempty
    have first : isWordChar c = true := all c (by simp [text])
    rw [text]
    exact if_pos first
  | string =>
    cases h with
    | string => rfl
    | null | int | float | boolean | enum | list | object => cases hf
  | list =>
    cases h with
    | @list items => cases items <;> rfl
    | null | int | float | string | boolean | enum | object => cases hf
  | object =>
    cases h with
    | @object fields => cases fields <;> rfl
    | null | int | float | string | boolean | enum | list => cases hf

theorem form_eq {a b : Literal} {r t : List Char} (ha : a.WellFormed) (hb : b.WellFormed)
    (same : a.write ++ r = b.write ++ t) : a.form = b.form := by
  apply Option.some.inj
  rw [← ha.head?_write r, same, hb.head?_write t]

/-- What is written for a literal is written for no other, and it shows where the literal ends. -/
def Legible (a : Literal) : Prop := ∀ {b : Literal} {r t : List Char}, b.WellFormed → Ends r → Ends t →
  a.write ++ r = b.write ++ t → a = b ∧ r = t

theorem WellFormed.legible_word {a : Literal} (ha : a.WellFormed) (bare : a.form = .word) :
    a.Legible := by
  intro b r t hb hr ht same
  obtain ⟨_, all, value⟩ := ha.word bare
  obtain ⟨_, all', value'⟩ := hb.word (form_eq ha hb same ▸ bare)
  obtain ⟨text, rest⟩ := Text.run_append_inj all hr all' ht same
  rw [← value, ← value', text]
  exact ⟨rfl, rest⟩

theorem legible_string (s : String) : (string s).Legible := by
  intro b r t hb _ _ same
  have form := form_eq (.string s) hb same
  cases hb with
  | string s' =>
    have read := readsString_write s r
    rw [same] at read
    obtain ⟨rfl, rest⟩ := read.unique (readsString_write s' t)
    exact ⟨rfl, rest⟩
  | null | int | float | boolean | enum | list | object => cases form

theorem ends_writeItems (items : List Literal) (r : List Char) : Ends (writeItems items ++ ']' :: r) := by
  intro c hc
  cases items <;> cases hc <;> rfl

theorem writeItems_append_inj {as bs : List Literal} {r t : List Char} (ha : ∀ a ∈ as, a.Legible)
    (hb : ∀ b ∈ bs, b.WellFormed) (same : writeItems as ++ ']' :: r = writeItems bs ++ ']' :: t) :
    as = bs ∧ r = t := by
  induction as generalizing bs with
  | nil =>
    cases bs with
    | nil => exact ⟨rfl, (List.cons.inj same).2⟩
    | cons => exact absurd (List.cons.inj same).1 (by decide)
  | cons a as ih =>
    cases bs with
    | nil => exact absurd (List.cons.inj same).1 (by decide)
    | cons b bs =>
      rw [List.forall_mem_cons] at ha hb
      simp only [writeItems, List.cons_append, List.append_assoc, List.cons.injEq, true_and] at same
      obtain ⟨rfl, others⟩ := ha.1 hb.1 (ends_writeItems as r) (ends_writeItems bs t) same
      obtain ⟨rfl, rest⟩ := ih ha.2 hb.2 others
      exact ⟨rfl, rest⟩

theorem write_list_cons (a : Literal) (as : List Literal) (r : List Char) :
    (list (a :: as)).write ++ r = '[' :: (a.write ++ (writeItems as ++ ']' :: r)) := by
  simp [write]

theorem WellFormed.ne_bracket {a : Literal} (h : a.WellFormed) (r t : List Char) :
    ']' :: t ≠ a.write ++ r := by
  intro same
  have head := h.head?_write r
  rw [← same] at head
  cases head

theorem legible_list {as : List Literal} (h : ∀ a ∈ as, a.WellFormed) (ih : ∀ a ∈ as, a.Legible) :
    (list as).Legible := by
  intro b r t hb _ _ same
  have form := form_eq (.list h) hb same
  cases hb with
  | @list bs hb =>
    cases as with
    | nil =>
      cases bs with
      | nil => exact ⟨rfl, List.append_cancel_left same⟩
      | cons b bs =>
        rw [write_list_cons] at same
        exact absurd (List.cons.inj same).2 ((hb b (by simp)).ne_bracket _ _)
    | cons a as =>
      cases bs with
      | nil =>
        rw [write_list_cons] at same
        exact absurd (List.cons.inj same).2.symm ((h a (by simp)).ne_bracket _ _)
      | cons b bs =>
        rw [write_list_cons, write_list_cons] at same
        -- With a separator in front the first item is like those that follow it.
        have items : writeItems (a :: as) ++ ']' :: r = writeItems (b :: bs) ++ ']' :: t := by
          simp only [writeItems, List.cons_append, List.append_assoc, (List.cons.inj same).2]
        obtain ⟨same, rest⟩ := writeItems_append_inj ih hb items
        exact ⟨congrArg list same, rest⟩
  | null | int | float | string | boolean | enum | object => cases form

theorem ends_writeFields (fields : List (String × Literal)) (r : List Char) :
    Ends (writeFields fields ++ ' ' :: '\x7d' :: r) := by
  intro c hc
  cases fields <;> cases hc <;> rfl

theorem name_append_inj {name other : String} {r t : List Char}
    (h : TypeRef.isName name.toList = true) (h' : TypeRef.isName other.toList = true)
    (same : name.toList ++ ':' :: r = other.toList ++ ':' :: t) : name = other ∧ r = t := by
  have colon (text : List Char) (c : Char) (hc : (':' :: text).head? = some c) :
      TypeRef.isNameChar c = false := by
    cases hc
    rfl
  obtain ⟨names, rest⟩ := Text.run_append_inj (fun c hc => TypeRef.isNameChar_of_mem h hc) (colon r)
    (fun c hc => TypeRef.isNameChar_of_mem h' hc) (colon t) same
  exact ⟨String.toList_inj.mp names, (List.cons.inj rest).2⟩

theorem writeFields_append_inj {as bs : List (String × Literal)} {r t : List Char}
    (names : ∀ a ∈ as, TypeRef.isName a.1.toList = true) (ha : ∀ a ∈ as, a.2.Legible)
    (names' : ∀ b ∈ bs, TypeRef.isName b.1.toList = true) (hb : ∀ b ∈ bs, b.2.WellFormed)
    (same : writeFields as ++ ' ' :: '\x7d' :: r = writeFields bs ++ ' ' :: '\x7d' :: t) :
    as = bs ∧ r = t := by
  induction as generalizing bs with
  | nil =>
    cases bs with
    | nil => exact ⟨rfl, (List.cons.inj (List.cons.inj same).2).2⟩
    | cons => exact absurd (List.cons.inj same).1 (by decide)
  | cons a as ih =>
    cases bs with
    | nil => exact absurd (List.cons.inj same).1 (by decide)
    | cons b bs =>
      obtain ⟨name, a⟩ := a
      obtain ⟨other, b⟩ := b
      rw [List.forall_mem_cons] at names ha names' hb
      simp only [writeFields, List.cons_append, List.append_assoc, List.cons.injEq, true_and] at same
      obtain ⟨rfl, values⟩ := name_append_inj names.1 names'.1 same
      obtain ⟨rfl, others⟩ := ha.1 hb.1 (ends_writeFields as r) (ends_writeFields bs t)
        (List.cons.inj values).2
      obtain ⟨rfl, rest⟩ := ih names.2 ha.2 names'.2 hb.2 others
      exact ⟨rfl, rest⟩

theorem write_object_cons (name : String) (a : Literal) (as : List (String × Literal)) (r : List Char) :
    (object ((name, a) :: as)).write ++ r = '\x7b' :: ' ' ::
      (name.toList ++ ':' :: ' ' :: (a.write ++ (writeFields as ++ ' ' :: '\x7d' :: r))) := by
  simp [write]

theorem legible_object {as : List (String × Literal)}
    (names : ∀ a ∈ as, TypeRef.isName a.1.toList = true) (h : ∀ a ∈ as, a.2.WellFormed)
    (ih : ∀ a ∈ as, a.2.Legible) : (object as).Legible := by
  intro b r t hb _ _ same
  have form := form_eq (.object names h) hb same
  cases hb with
  | @object bs names' hb =>
    cases as with
    | nil =>
      cases bs with
      | nil => exact ⟨rfl, List.append_cancel_left same⟩
      | cons b bs =>
        rw [write_object_cons] at same
        exact absurd (List.cons.inj (List.cons.inj same).2).1 (by decide)
    | cons a as =>
      cases bs with
      | nil =>
        rw [write_object_cons] at same
        exact absurd (List.cons.inj (List.cons.inj same).2).1 (by decide)
      | cons b bs =>
        rw [write_object_cons, write_object_cons] at same
        have fields : writeFields (a :: as) ++ ' ' :: '\x7d' :: r =
            writeFields (b :: bs) ++ ' ' :: '\x7d' :: t := by
          simp only [writeFields, List.cons_append, List.append_assoc,
            (List.cons.inj (List.cons.inj same).2).2]
        obtain ⟨same, rest⟩ := writeFields_append_inj names ih names' hb fields
        exact ⟨congrArg object same, rest⟩
  | null | int | float | string | boolean | enum | list => cases form

theorem WellFormed.legible {a : Literal} (h : a.WellFormed) : a.Legible := by
  induction h with
  | null => exact WellFormed.null.legible_word rfl
  | int n => exact (WellFormed.int n).legible_word rfl
  | float x => exact (WellFormed.float x).legible_word rfl
  | string s => exact legible_string s
  | boolean b => exact (WellFormed.boolean b).legible_word rfl
  | enum h free => exact (WellFormed.enum h free).legible_word rfl
  | list h ih => exact legible_list h ih
  | object names h ih => exact legible_object names h ih

/-- Well-formed literals are the same if what is written for them is: in their constructors, the order
of their fields, their strings and the signs of their zeros. -/
theorem toString_inj {a b : Literal} (ha : a.WellFormed) (hb : b.WellFormed) :
    a.toString = b.toString ↔ a = b := by
  constructor
  · intro same
    have text : a.write ++ [] = b.write ++ [] := by
      rw [List.append_nil, List.append_nil]
      exact String.ofList_injective same
    exact (ha.legible hb ends_nil ends_nil text).1
  · exact congrArg toString

/-- A string with all that would end it and begin another field is not taken for two fields. -/
theorem toString_field_ne_fields :
    let field := object [("a", string "1\", b: \"2")]
    let fields := object [("a", string "1"), ("b", string "2")]
    field.WellFormed ∧ fields.WellFormed ∧ field.toString ≠ fields.toString := by
  intro field fields
  have one : field.WellFormed := by
    refine .object ?_ ?_ <;> simp only [List.forall_mem_singleton]
    · decide
    · exact .string _
  have two : fields.WellFormed := by
    refine .object ?_ ?_ <;> simp only [List.forall_mem_cons]
    · decide
    · exact ⟨.string _, .string _, nofun⟩
  refine ⟨one, two, fun same => ?_⟩
  have equal : field = fields := (toString_inj one two).mp same
  simp [field, fields] at equal

end Literal
end SpatialQuery
