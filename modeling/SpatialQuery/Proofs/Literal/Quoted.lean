import Mathlib.Data.List.Forall2
import SpatialQuery.Json.Token
import SpatialQuery.Literal.Printer

namespace SpatialQuery.Literal

open SpatialQuery.Json.Token (hexValue?)

/-- Unicode category `Cc`: two blocks of control codes. -/
def IsControlCode (c : Char) : Prop := c.toNat ≤ 0x1F ∨ 0x7F ≤ c.toNat ∧ c.toNat ≤ 0x9F

instance (c : Char) : Decidable (IsControlCode c) :=
  inferInstanceAs (Decidable (c.toNat ≤ 0x1F ∨ 0x7F ≤ c.toNat ∧ c.toNat ≤ 0x9F))

/-- The character that a letter stands for behind a backslash. -/
def escaped? : Char → Option Char
  | '"' => some '"'
  | '\\' => some '\\'
  | 'n' => some '\n'
  | 'r' => some '\r'
  | 't' => some '\t'
  | _ => none

/-- What may stand for a character between quotation marks. A number has four digits, no more and no
less. -/
inductive Spelling : Char → List Char → Prop where
  | raw {c : Char} (quote : c ≠ '"') (backslash : c ≠ '\\') (control : ¬IsControlCode c) :
    Spelling c [c]
  | letter {c letter : Char} (h : escaped? letter = some c) : Spelling c ['\\', letter]
  | number {c i j k l : Char} {m n p q : Nat} (hi : hexValue? i = some m) (hj : hexValue? j = some n)
    (hk : hexValue? k = some p) (hl : hexValue? l = some q)
    (value : c.toNat = ((m * 16 + n) * 16 + p) * 16 + q) : Spelling c ['\\', 'u', i, j, k, l]

/-- Text behind a quotation mark, with the characters that are spelled before the next one and what
follows it. -/
inductive Quoted : List Char → List Char → List Char → Prop where
  | close (rest : List Char) : Quoted ('"' :: rest) [] rest
  | char {c : Char} {spelling text cs rest : List Char} (hc : Spelling c spelling)
    (h : Quoted text cs rest) : Quoted (spelling ++ text) (c :: cs) rest

/-- Text that starts with a string of the language. -/
inductive ReadsString : List Char → String → List Char → Prop where
  | quoted {text : List Char} {s : String} {rest : List Char} (h : Quoted text s.toList rest) :
    ReadsString ('"' :: text) s rest

theorem Spelling.ne_quote {c : Char} {spelling : List Char} (h : Spelling c spelling)
    (text rest : List Char) : spelling ++ text ≠ '"' :: rest := by
  cases h with
  | raw quote => exact fun same => quote (List.cons.inj same).1
  | letter | number => exact fun same => absurd (List.cons.inj same).1 (by decide)

/-- Where two spellings start alike, they are the same. -/
theorem Spelling.append_inj {c d : Char} {spelling other text rest : List Char}
    (hc : Spelling c spelling) (hd : Spelling d other) (same : spelling ++ text = other ++ rest) :
    c = d ∧ text = rest := by
  cases hc with
  | raw _ backslash =>
    cases hd with
    | raw => exact List.cons.inj same
    | letter | number => exact absurd (List.cons.inj same).1 backslash
  | letter h =>
    cases hd with
    | raw _ backslash => exact absurd (List.cons.inj same).1.symm backslash
    | letter h' =>
      obtain ⟨rfl, rest⟩ := List.cons.inj (List.cons.inj same).2
      exact ⟨Option.some.inj (h.symm.trans h'), rest⟩
    | number =>
      obtain ⟨rfl, _⟩ := List.cons.inj (List.cons.inj same).2
      cases h
  | number hi hj hk hl value =>
    cases hd with
    | raw _ backslash => exact absurd (List.cons.inj same).1.symm backslash
    | letter h =>
      obtain ⟨rfl, _⟩ := List.cons.inj (List.cons.inj same).2
      cases h
    | number hi' hj' hk' hl' value' =>
      simp only [List.cons_append, List.nil_append, List.cons.injEq, true_and] at same
      obtain ⟨rfl, rfl, rfl, rfl, rest⟩ := same
      refine ⟨Char.toNat_inj.mp ?_, rest⟩
      cases hi.symm.trans hi'
      cases hj.symm.trans hj'
      cases hk.symm.trans hk'
      cases hl.symm.trans hl'
      exact value.trans value'.symm

theorem Quoted.unique {text cs ds rest other : List Char} (h : Quoted text cs rest)
    (h' : Quoted text ds other) : cs = ds ∧ rest = other := by
  induction h generalizing ds with
  | close rest =>
    generalize same : '"' :: rest = text at h'
    cases h' with
    | close => exact ⟨rfl, (List.cons.inj same).2⟩
    | char hc => exact absurd same.symm (hc.ne_quote _ _)
  | @char c spelling text cs rest hc _ ih =>
    generalize same : spelling ++ text = whole at h'
    cases h' with
    | close => exact absurd same (hc.ne_quote _ _)
    | char hd h' =>
      obtain ⟨rfl, rfl⟩ := hc.append_inj hd same
      obtain ⟨rfl, rest⟩ := ih h'
      exact ⟨rfl, rest⟩

theorem ReadsString.unique {text rest other : List Char} {s t : String} (h : ReadsString text s rest)
    (h' : ReadsString text t other) : s = t ∧ rest = other := by
  cases h with
  | quoted h =>
    cases h' with
    | quoted h' =>
      obtain ⟨same, rest⟩ := h.unique h'
      exact ⟨String.toList_inj.mp same, rest⟩

theorem isControl_iff {c : Char} : isControl c = true ↔ IsControlCode c := by
  rw [isControl, IsControlCode, Bool.or_eq_true, Bool.and_eq_true, decide_eq_true_iff,
    decide_eq_true_iff, decide_eq_true_iff]
  omega

theorem hexValue?_digit : ∀ n < 16, hexValue? (quoting.digit n) = some n := by decide

theorem escaped?_of_letter {c letter : Char} (h : quoting.letter c = some letter) :
    escaped? letter = some c := by
  simp only [quoting] at h
  split at h <;> cases h <;> rfl

theorem spelling_char (c : Char) : Spelling c (quoting.char c) := by
  rw [Text.Quoting.char]
  split
  · next letter h =>
    exact .letter (escaped?_of_letter h)
  · next h =>
    split
    · next control =>
      have low : c.toNat ≤ 0x9F := by
        rcases isControl_iff.mp control with low | ⟨_, low⟩ <;> omega
      refine .number (hexValue?_digit _ (Nat.mod_lt _ (by decide)))
        (hexValue?_digit _ (Nat.mod_lt _ (by decide))) (hexValue?_digit _ (Nat.mod_lt _ (by decide)))
        (hexValue?_digit _ (Nat.mod_lt _ (by decide))) ?_
      omega
    · next plain =>
      refine .raw ?_ ?_ fun control => plain (isControl_iff.mpr control)
      · rintro rfl
        cases h
      · rintro rfl
        cases h

theorem isDigit_iff {c : Char} : c.isDigit = true ↔ 48 ≤ c.toNat ∧ c.toNat ≤ 57 := by
  rw [Char.isDigit, Bool.and_eq_true, decide_eq_true_iff, decide_eq_true_iff, ge_iff_le,
    UInt32.le_iff_toNat_le, UInt32.le_iff_toNat_le]
  exact Iff.rfl

theorem not_isControlCode_of_hexValue? {c : Char} {n : Nat} (h : hexValue? c = some n) :
    ¬IsControlCode c := by
  have range : 48 ≤ c.toNat ∧ c.toNat ≤ 102 := by
    rw [hexValue?] at h
    split at h
    · next digit =>
      have bounds := isDigit_iff.mp digit
      omega
    · split at h
      · next lower =>
        rw [Char.le_def, Char.le_def, UInt32.le_iff_toNat_le, UInt32.le_iff_toNat_le] at lower
        change 97 ≤ c.toNat ∧ c.toNat ≤ 102 at lower
        omega
      · split at h
        · next upper =>
          rw [Char.le_def, Char.le_def, UInt32.le_iff_toNat_le, UInt32.le_iff_toNat_le] at upper
          change 65 ≤ c.toNat ∧ c.toNat ≤ 70 at upper
          omega
        · cases h
  rw [IsControlCode]
  omega

theorem not_isControlCode_of_escaped? {c letter : Char} (h : escaped? letter = some c) :
    ¬IsControlCode letter := by
  unfold escaped? at h
  split at h
  case h_6 => cases h
  all_goals decide

/-- No spelling of a character has a control code in it. -/
theorem Spelling.not_isControlCode {c : Char} {spelling : List Char} (h : Spelling c spelling) :
    ∀ d ∈ spelling, ¬IsControlCode d := by
  cases h with
  | raw _ _ control => exact List.forall_mem_singleton.mpr control
  | letter h =>
    have letter := not_isControlCode_of_escaped? h
    exact List.forall_mem_cons.mpr ⟨by decide, List.forall_mem_singleton.mpr letter⟩
  | number hi hj hk hl =>
    simp only [List.forall_mem_cons, not_isControlCode_of_hexValue? hi,
      not_isControlCode_of_hexValue? hj, not_isControlCode_of_hexValue? hk,
      not_isControlCode_of_hexValue? hl, not_false_eq_true, true_and]
    exact ⟨by decide, by decide, nofun⟩

theorem not_isControlCode_of_mem_write {s : String} {c : Char} (hc : c ∈ (Literal.string s).write) :
    ¬IsControlCode c := by
  rw [write, Text.Quoting.quote, List.mem_cons, List.mem_append, List.mem_singleton,
    List.mem_flatMap] at hc
  rcases hc with rfl | ⟨d, _, hc⟩ | rfl
  · decide
  · exact (spelling_char d).not_isControlCode c hc
  · decide

theorem quoted_flatMap (cs rest : List Char) :
    Quoted (cs.flatMap quoting.char ++ '"' :: rest) cs rest := by
  induction cs with
  | nil => exact .close rest
  | cons c cs ih =>
    rw [List.flatMap_cons, List.append_assoc]
    exact .char (spelling_char c) ih

theorem readsString_write (s : String) (rest : List Char) :
    ReadsString ((Literal.string s).write ++ rest) s rest := by
  have h := quoted_flatMap s.toList rest
  rw [write, Text.Quoting.quote, List.cons_append, List.append_assoc]
  exact .quoted h

/-- What is written for a string, whatever follows it, is read back by the rules of the language: as the
string, up to the quotation mark that was written last, and in no other way. No control code stands in
it, and each character is spelled raw, by a letter or by exactly four digits. -/
theorem write_string_reads_back (s : String) (rest : List Char) :
    (∀ (t : String) (other : List Char),
      ReadsString ((Literal.string s).write ++ rest) t other ↔ t = s ∧ other = rest) ∧
    (¬∃ c ∈ (Literal.string s).write, IsControlCode c) ∧
    ∃ spellings, (Literal.string s).write = '"' :: (spellings.flatten ++ ['"']) ∧
      List.Forall₂ Spelling s.toList spellings := by
  have spelled : List.Forall₂ Spelling s.toList (s.toList.map quoting.char) := by
    rw [List.forall₂_map_right_iff, List.forall₂_same]
    exact fun c _ => spelling_char c
  refine ⟨fun t other => ⟨fun h => ?_, ?_⟩, ?_, s.toList.map quoting.char, ?_, spelled⟩
  · exact h.unique (readsString_write s rest)
  · rintro ⟨rfl, rfl⟩
    exact readsString_write t other
  · rintro ⟨c, hc, control⟩
    exact not_isControlCode_of_mem_write hc control
  · rw [write, Text.Quoting.quote, List.flatMap_def]

end SpatialQuery.Literal
