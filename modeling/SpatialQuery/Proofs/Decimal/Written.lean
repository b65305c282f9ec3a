import SpatialQuery.Proofs.Decimal.Numeral
import SpatialQuery.Proofs.Decimal.Shortest

namespace SpatialQuery.Decimal

open SpatialQuery.Binary64 (Finite)

/-- The parts of digits with a point, the first of them standing at a power of ten. -/
def pointed (negative : Bool) (digits : List Char) (exponent : Int) : Numeral :=
  if exponent < 0 then ⟨negative, ['0'], List.replicate (-exponent - 1).toNat '0' ++ digits, none⟩
  else
    let whole := exponent.toNat + 1
    let fraction := digits.drop whole
    ⟨negative, digits.take whole ++ List.replicate (whole - digits.length) '0',
      if fraction.isEmpty then ['0'] else fraction, none⟩

/-- The parts of digits behind the first of which a point stands, with a power of ten. -/
def powered (negative : Bool) (digits : List Char) (exponent : Int) : Numeral :=
  ⟨negative, digits.take 1, digits.drop 1, some exponent⟩

/-- The numeral that a format writes for a decimal. -/
def Format.numeral (format : Format) (d : Decimal) : Numeral :=
  let digits := digitsOf d.digits
  let exponent := d.exponent + digits.length - 1
  if format.lowest ≤ exponent ∧ exponent ≤ format.highest then pointed d.negative digits exponent
  else powered d.negative digits exponent

section

variable (plus negative : Bool) {digits : List Char} (exponent : Int)

theorem write_pointed (h : digits ≠ []) : (pointed negative digits exponent).write plus =
    (if negative then ['-'] else []) ++ positional digits exponent := by
  rw [pointed, positional]
  split
  · simp [Numeral.write, Numeral.writeFraction, Numeral.writeExponent, h]
  · simp only [Numeral.write, Numeral.writeFraction, Numeral.writeExponent, List.append_nil,
      List.append_assoc]
    by_cases fraction : (digits.drop (exponent.toNat + 1)).isEmpty = true
    · simp only [if_pos fraction]
      rfl
    · simp only [if_neg fraction]

theorem write_powered : (powered negative digits exponent).write plus =
    (if negative then ['-'] else []) ++ scientific plus digits exponent := by
  simp [powered, scientific, Numeral.write, Numeral.writeFraction, Numeral.writeExponent]

theorem proper_pointed (h : digits ≠ []) (hd : ∀ c ∈ digits, c.isDigit = true)
    (hz : digits.head? = some '0' → digits = ['0'] ∧ exponent ≤ 0) :
    (pointed negative digits exponent).Proper := by
  rw [pointed]
  split
  · refine ⟨List.cons_ne_nil _ _, fun _ => rfl, fun c hc => ?_⟩
    rw [List.singleton_append, List.mem_cons, List.mem_append] at hc
    rcases hc with rfl | hc | hc
    · rfl
    · rw [List.eq_of_mem_replicate hc]
      rfl
    · exact hd c hc
  · next above =>
    obtain ⟨first, rest, rfl⟩ := List.exists_cons_of_ne_nil h
    refine ⟨nofun, fun zero => ?_, fun c hc => ?_⟩
    · cases zero
      obtain ⟨same, below⟩ := hz rfl
      have ones : exponent.toNat = 0 := by omega
      cases same
      rw [ones]
      rfl
    · simp only [List.mem_append] at hc
      rcases hc with (hc | hc) | hc
      · exact hd c (List.mem_of_mem_take hc)
      · rw [List.eq_of_mem_replicate hc]
        rfl
      · split at hc
        · rw [List.mem_singleton.mp hc]
          rfl
        · exact hd c (List.mem_of_mem_drop hc)

theorem proper_powered (h : digits ≠ []) (hd : ∀ c ∈ digits, c.isDigit = true) :
    (powered negative digits exponent).Proper := by
  obtain ⟨c, cs, rfl⟩ := List.exists_cons_of_ne_nil h
  refine ⟨by simp [powered], ?_, hd⟩
  simp [powered]

theorem toDecimal_pointed (digits : List Char) : (pointed negative digits exponent).toDecimal =
      ⟨negative, valueOf digits, exponent + 1 - digits.length⟩ ∨
    0 ≤ exponent + 1 - digits.length ∧ (pointed negative digits exponent).toDecimal =
      ⟨negative, valueOf digits * 10 ^ ((exponent + 1 - digits.length).toNat + 1), -1⟩ := by
  rw [pointed]
  split
  · have zeros := valueOf_zeros_append ((-exponent - 1).toNat + 1) digits
    rw [List.replicate_succ, List.cons_append] at zeros
    simp only [Numeral.toDecimal, Option.getD_none, List.singleton_append, zeros, List.length_append,
      List.length_replicate, mk.injEq, true_and]
    omega
  · by_cases whole : digits.length ≤ exponent.toNat + 1
    · have shift : exponent.toNat + 1 - digits.length = (exponent + 1 - digits.length).toNat := by
        omega
      have zeros := valueOf_append_zeros digits ((exponent + 1 - digits.length).toNat + 1)
      rw [List.replicate_succ'] at zeros
      simp only [Numeral.toDecimal, List.drop_eq_nil_of_le whole, List.take_of_length_le whole,
        List.isEmpty_nil, if_true, shift, List.append_assoc]
      refine .inr ⟨by omega, ?_⟩
      rw [zeros]
      rfl
    · have unpadded : exponent.toNat + 1 - digits.length = 0 := by omega
      have fraction : (digits.drop (exponent.toNat + 1)).isEmpty = false := by
        simpa using whole
      simp only [Numeral.toDecimal, unpadded, fraction, List.replicate_zero, List.append_nil,
        Bool.false_eq_true, if_false, List.take_append_drop, Option.getD_none, List.length_drop,
        mk.injEq, true_and]
      omega

theorem toDecimal_powered (h : digits ≠ []) : (powered negative digits exponent).toDecimal =
    ⟨negative, valueOf digits, exponent + 1 - digits.length⟩ := by
  have nonempty : 0 < digits.length := List.length_pos_of_ne_nil h
  simp only [powered, Numeral.toDecimal, List.take_append_drop, Option.getD_some, List.length_drop,
    mk.injEq, true_and]
  omega

end

namespace Format

variable (format : Format) {d : Decimal}

theorem decimal_eq_write (d : Decimal) : format.decimal d = (format.numeral d).write format.plus := by
  rw [decimal, numeral]
  by_cases h : format.lowest ≤ d.exponent + (digitsOf d.digits).length - 1 ∧
      d.exponent + (digitsOf d.digits).length - 1 ≤ format.highest
  · simp only [if_pos h, write_pointed _ _ _ (digitsOf_ne_nil d.digits)]
  · simp only [if_neg h, write_powered]

theorem numeral_proper (h : d.digits = 0 → d.exponent = 0) : (format.numeral d).Proper := by
  have digits : ∀ c ∈ digitsOf d.digits, c.isDigit = true := fun c hc => isDigit_of_mem_digitsOf hc
  simp only [numeral]
  split
  · apply proper_pointed _ _ (digitsOf_ne_nil d.digits) digits
    intro first
    have zero : d.digits = 0 := by
      by_contra nonzero
      exact head?_digitsOf nonzero first
    rw [h zero, zero]
    exact ⟨rfl, by decide⟩
  · exact proper_powered _ _ (digitsOf_ne_nil d.digits) digits

theorem isInteger_numeral (d : Decimal) : (format.numeral d).isInteger = false := by
  simp only [numeral]
  split
  · rw [pointed]
    split
    · simp [Numeral.isInteger, digitsOf_ne_nil]
    · simp only [Numeral.isInteger]
      split <;> simp_all
  · simp [powered, Numeral.isInteger]

/-- The numeral stands for the decimal, or has zeros up to the point and one behind it. -/
theorem toDecimal_numeral (d : Decimal) : (format.numeral d).toDecimal = d ∨ 0 ≤ d.exponent ∧
    (format.numeral d).toDecimal = ⟨d.negative, d.digits * 10 ^ (d.exponent.toNat + 1), -1⟩ := by
  obtain ⟨negative, n, e⟩ := d
  have last : e + (digitsOf n).length - 1 + 1 - (digitsOf n).length = e := by omega
  simp only [numeral]
  split
  · have h := toDecimal_pointed negative (e + (digitsOf n).length - 1) (digitsOf n)
    rwa [last, valueOf_digitsOf] at h
  · rw [toDecimal_powered _ _ (digitsOf_ne_nil n), last, valueOf_digitsOf]
    exact .inl rfl

/-- A finite number is written as a numeral that is no integer and stands for it. -/
theorem exists_numeral (x : Finite) : ∃ numeral : Numeral, numeral.Proper ∧
    format.write x = numeral.write format.plus ∧ numeral.isInteger = false ∧
      numeral.toDecimal.toBinary64 = .finite x := by
  have value := Finite.toBinary64_shortest format.half x
  refine ⟨format.numeral (x.shortest format.half), format.numeral_proper Finite.exponent_shortest,
    format.decimal_eq_write _, format.isInteger_numeral _, ?_⟩
  rcases format.toDecimal_numeral (x.shortest format.half) with same | ⟨above, same⟩
  · rw [same, value]
  · rw [same, toBinary64_point value above]

end Format

/-- An integer is written as a numeral without a point or an exponent. -/
theorem exists_numeral_ofInt (n : Int) : ∃ numeral : Numeral, numeral.Proper ∧
    ofInt n = numeral.write false ∧ numeral.isInteger = true ∧
      (if numeral.negative then -(valueOf numeral.whole : Int) else valueOf numeral.whole) = n := by
  refine ⟨⟨decide (n < 0), digitsOf n.natAbs, [], none⟩, ⟨digitsOf_ne_nil _, fun first => ?_, ?_⟩, ?_,
    rfl, ?_⟩
  · have zero : n.natAbs = 0 := by
      by_contra nonzero
      exact head?_digitsOf nonzero first
    simp only [zero]
    rfl
  · rw [List.append_nil]
    exact fun c hc => isDigit_of_mem_digitsOf hc
  · by_cases negative : n < 0 <;>
      simp [ofInt, Numeral.write, Numeral.writeFraction, Numeral.writeExponent, negative]
  · simp only [valueOf_digitsOf, decide_eq_true_eq]
    omega

end SpatialQuery.Decimal
