import Mathlib.Algebra.Group.Nat.Defs
import Mathlib.Data.List.Basic
import SpatialQuery.Decimal.Format
import SpatialQuery.Decimal.Numeral

namespace SpatialQuery

namespace Text

section

variable {p : Char → Bool} {run rest : List Char} (all : ∀ c ∈ run, p c = true)
  (stop : ∀ c, rest.head? = some c → p c = false)

include all stop

theorem takeWhile_append : (run ++ rest).takeWhile p = run := by
  have front : rest.takeWhile p = [] := by
    cases rest with
    | nil => rfl
    | cons c rest => exact List.takeWhile_cons_of_neg (by simp [stop c rfl])
  rw [List.takeWhile_append_of_pos all, front, List.append_nil]

theorem dropWhile_append : (run ++ rest).dropWhile p = rest := by
  rw [List.dropWhile_append_of_pos all]
  cases rest with
  | nil => rfl
  | cons c rest => exact List.dropWhile_cons_of_neg (by simp [stop c rfl])

end

end Text

namespace Decimal

theorem valueOf_eq_ofDigitChars (digits : List Char) : valueOf digits = Nat.ofDigitChars 10 digits 0 :=
  Nat.ofDigitChars_eq_foldl.symm

theorem valueOf_digitsOf (n : Nat) : valueOf (digitsOf n) = n := by
  rw [valueOf_eq_ofDigitChars, digitsOf, Nat.ofDigitChars_ten_toDigits]

theorem valueOf_zeros_append (count : Nat) (digits : List Char) :
    valueOf (List.replicate count '0' ++ digits) = valueOf digits := by
  rw [valueOf_eq_ofDigitChars, valueOf_eq_ofDigitChars, Nat.ofDigitChars_append,
    Nat.ofDigitChars_replicate_zero, Nat.mul_zero]

theorem valueOf_append_zeros (digits : List Char) (count : Nat) :
    valueOf (digits ++ List.replicate count '0') = valueOf digits * 10 ^ count := by
  rw [valueOf_eq_ofDigitChars, valueOf_eq_ofDigitChars, Nat.ofDigitChars_append,
    Nat.ofDigitChars_replicate_zero, Nat.mul_comm]

theorem isDigit_of_mem_digitsOf {n : Nat} {c : Char} (h : c ∈ digitsOf n) : c.isDigit = true :=
  Nat.isDigit_of_mem_toDigits (by decide) (by decide) h

theorem digitsOf_ne_nil (n : Nat) : digitsOf n ≠ [] := Nat.toDigits_ne_nil

theorem digitsOf_ne_cons (n : Nat) {c : Char} (h : c.isDigit = false) (rest : List Char) :
    digitsOf n ≠ c :: rest := by
  intro same
  have digit : c.isDigit = true := isDigit_of_mem_digitsOf (n := n) (by simp [same])
  rw [h] at digit
  cases digit

/-- Only zero starts with a zero. -/
theorem head?_digitsOf {n : Nat} (h : n ≠ 0) : (digitsOf n).head? ≠ some '0' := by
  induction n using Nat.strongRecOn with
  | ind n ih =>
    by_cases small : n < 10
    · rw [digitsOf, Nat.toDigits_of_lt_base small]
      simpa using h
    · rw [digitsOf, Nat.toDigits_of_base_le (by decide) (by omega),
        List.head?_append_of_ne_nil _ Nat.toDigits_ne_nil]
      exact ih (n / 10) (by omega) (by omega)

theorem digits?_append {digits rest : List Char} (nonempty : digits ≠ [])
    (all : ∀ c ∈ digits, c.isDigit = true) (stop : ∀ c, rest.head? = some c → c.isDigit = false) :
    digits? (digits ++ rest) = some (digits, rest) := by
  rw [digits?, Text.takeWhile_append all stop, Text.dropWhile_append all stop]
  exact if_neg (by simpa using nonempty)

namespace Numeral

def writeFraction (fraction : List Char) : List Char :=
  if fraction.isEmpty then [] else '.' :: fraction

/-- An exponent behind its letter, with a sign also where it is not negative, or without. -/
def writeExponent (plus : Bool) : Option Int → List Char
  | none => []
  | some e => 'e' :: ((if plus && decide (0 ≤ e) then ['+'] else []) ++ ofInt e)

def write (plus : Bool) (numeral : Numeral) : List Char :=
  (if numeral.negative then ['-'] else []) ++ numeral.whole ++ writeFraction numeral.fraction ++
    writeExponent plus numeral.exponent

/-- Parts that can be told apart where they are written. -/
structure Proper (numeral : Numeral) : Prop where
  whole : numeral.whole ≠ []
  zero : numeral.whole.head? = some '0' → numeral.whole = ['0']
  digits : ∀ c ∈ numeral.whole ++ numeral.fraction, c.isDigit = true

theorem exponent?_ofInt (plus : Bool) (e : Int) :
    exponent? ((if plus && decide (0 ≤ e) then ['+'] else []) ++ ofInt e) = some e := by
  have all : digits? (digitsOf e.natAbs ++ []) = some (digitsOf e.natAbs, []) :=
    digits?_append (digitsOf_ne_nil _) (fun c hc => isDigit_of_mem_digitsOf hc) nofun
  rw [List.append_nil] at all
  rw [ofInt]
  by_cases negative : e < 0
  · have sign : (plus && decide (0 ≤ e)) = false := by simp; omega
    rw [sign, if_pos negative, if_neg Bool.false_ne_true, List.nil_append, exponent?, all]
    change some (-1 * (valueOf (digitsOf e.natAbs) : Int)) = some e
    rw [valueOf_digitsOf, Option.some.injEq]
    omega
  · have magnitude : 1 * (valueOf (digitsOf e.natAbs) : Int) = e := by
      rw [valueOf_digitsOf]
      omega
    rw [if_neg negative]
    cases plus with
    | false =>
      rw [Bool.false_and, if_neg Bool.false_ne_true, List.nil_append, exponent?, all]
      · exact congrArg some magnitude
      · exact digitsOf_ne_cons _ rfl
      · exact digitsOf_ne_cons _ rfl
    | true =>
      rw [Bool.true_and, if_pos (by simpa using negative), List.singleton_append, exponent?, all]
      exact congrArg some magnitude

/-- What is read behind a sign, or where there is none. -/
def readUnsigned? (negative : Bool) (text : List Char) : Option Numeral := do
  let (whole, text) ← digits? text
  if whole.head? = some '0' ∧ whole ≠ ['0'] then none
  let (fraction, text) ← match text with
    | '.' :: rest => digits? rest
    | _ => some ([], text)
  match text with
  | [] => return ⟨negative, whole, fraction, none⟩
  | c :: rest =>
    if c = 'e' ∨ c = 'E' then return ⟨negative, whole, fraction, some (← exponent? rest)⟩ else none

theorem read?_eq_readUnsigned? (negative : Bool) {text : List Char}
    (h : ∀ rest, text ≠ '-' :: rest) :
    read? ((if negative then ['-'] else []) ++ text) = readUnsigned? negative text := by
  cases negative with
  | true => rfl
  | false =>
    rw [if_neg Bool.false_ne_true, List.nil_append, read?]
    · rfl
    · exact h

theorem head?_writeExponent (plus : Bool) (exponent : Option Int) (c : Char)
    (h : (writeExponent plus exponent).head? = some c) : c.isDigit = false := by
  cases exponent with
  | none => cases h
  | some e =>
    cases h
    rfl

theorem head?_writeFraction (fraction : List Char) {rest : List Char}
    (stop : ∀ c, rest.head? = some c → c.isDigit = false) (c : Char)
    (h : (writeFraction fraction ++ rest).head? = some c) : c.isDigit = false := by
  cases fraction with
  | nil => exact stop c h
  | cons d ds =>
    cases h
    rfl

theorem read?_write (plus : Bool) {numeral : Numeral} (h : numeral.Proper) :
    read? (numeral.write plus) = some numeral := by
  obtain ⟨negative, whole, fraction, exponent⟩ := numeral
  obtain ⟨nonempty, zero, digits⟩ := h
  simp only [List.mem_append] at nonempty zero digits
  have needless : ¬(whole.head? = some '0' ∧ whole ≠ ['0']) := fun h => h.2 (zero h.1)
  have unsigned (tail rest : List Char) : whole ++ tail ≠ '-' :: rest := by
    obtain ⟨c, cs, rfl⟩ := List.exists_cons_of_ne_nil nonempty
    intro same
    cases same
    exact absurd (digits '-' (.inl (by simp))) (by decide)
  have readWhole := digits?_append nonempty (fun c hc => digits c (.inl hc))
    (head?_writeFraction fraction (head?_writeExponent plus exponent))
  rw [write, List.append_assoc, List.append_assoc, read?_eq_readUnsigned? negative (unsigned _),
    readUnsigned?, readWhole]
  simp only [Option.bind_eq_bind, Option.bind_some, if_neg needless]
  cases fraction with
  | nil =>
    cases exponent with
    | none => rfl
    | some e =>
      simp only [writeFraction, writeExponent, List.isEmpty_nil, if_true, List.nil_append,
        exponent?_ofInt, true_or, Option.bind_some, Option.pure_def]
      rfl
  | cons d ds =>
    have readFraction := digits?_append (List.cons_ne_nil d ds) (fun c hc => digits c (.inr hc))
      (head?_writeExponent plus exponent)
    rw [List.cons_append] at readFraction
    simp only [writeFraction, List.isEmpty_cons, Bool.false_eq_true, if_false, List.cons_append,
      readFraction]
    cases exponent with
    | none => rfl
    | some e =>
      simp only [writeExponent, exponent?_ofInt, true_or, if_true, Option.bind_some,
        Option.pure_def]

theorem mem_ofInt {e : Int} {c : Char} (h : c ∈ ofInt e) : c.isDigit = true ∨ c = '-' := by
  rw [ofInt] at h
  split at h
  · rcases List.mem_cons.mp h with rfl | h
    · exact .inr rfl
    · exact .inl (isDigit_of_mem_digitsOf h)
  · exact .inl (isDigit_of_mem_digitsOf h)

theorem write_ne_nil (plus : Bool) {numeral : Numeral} (h : numeral.Proper) :
    numeral.write plus ≠ [] := by
  have nonempty := h.whole
  simp [write, nonempty]

/-- The characters of numerals. -/
theorem mem_write {plus : Bool} {numeral : Numeral} (h : numeral.Proper) {c : Char}
    (hc : c ∈ numeral.write plus) : c.isDigit = true ∨ c ∈ ['-', '.', 'e', '+'] := by
  obtain ⟨negative, whole, fraction, exponent⟩ := numeral
  have digits := h.digits
  simp only [write, List.mem_append] at hc digits
  rcases hc with ((hc | hc) | hc) | hc
  · split at hc
    · exact .inr (by simp [List.mem_singleton.mp hc])
    · cases hc
  · exact .inl (digits c (.inl hc))
  · rw [writeFraction] at hc
    split at hc
    · cases hc
    · rcases List.mem_cons.mp hc with rfl | hc
      · exact .inr (by simp)
      · exact .inl (digits c (.inr hc))
  · cases exponent with
    | none => cases hc
    | some e =>
      rw [writeExponent, List.mem_cons, List.mem_append] at hc
      rcases hc with rfl | hc | hc
      · exact .inr (by simp)
      · split at hc
        · exact .inr (by simp [List.mem_singleton.mp hc])
        · cases hc
      · exact (mem_ofInt hc).imp_right (by rintro rfl; simp)

end Numeral
end Decimal
end SpatialQuery
