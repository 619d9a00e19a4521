import FuelDuel.Proofs.TokenClass

/-!
Integers written in decimal are numerals, and a numeral denotes the integer it was written for.
Numerals have no leading zeros, no plus sign and no negative zero, so the converse holds as well:
an integer is written as the numeral that denotes it (`ofInt_numeralValue`).
-/

namespace FuelDuel.Language

open FuelDuel.Text

theorem isPositiveNumeral_append_digit {chars : List Char} {c : Char}
    (positive : isPositiveNumeral chars = true) (digit : c.isDigit = true) :
    isPositiveNumeral (chars ++ [c]) = true := by
  cases chars with
  | nil => cases positive
  | cons d digits =>
      simp only [isPositiveNumeral, Bool.and_eq_true] at positive
      simp [isPositiveNumeral, positive, digit]

theorem isPositiveNumeral_toDigits {n : Nat} (positive : 0 < n) :
    isPositiveNumeral (Nat.toDigits 10 n) = true := by
  induction n using Nat.strongRecOn with
  | ind n ih =>
      by_cases small : n < 10
      · have nonzero : n ≠ 0 := Nat.ne_of_gt positive
        rw [Nat.toDigits_of_lt_base small]
        simp [isPositiveNumeral, small, nonzero]
      · have shorter : n / 10 < n := Nat.div_lt_self positive (by decide)
        have left : 0 < n / 10 := Nat.div_pos (Nat.le_of_not_lt small) (by decide)
        have digit : (n % 10).digitChar.isDigit = true := by simp [Nat.mod_lt n]
        rw [Nat.toDigits_of_base_le (by decide) (Nat.le_of_not_lt small)]
        exact isPositiveNumeral_append_digit (ih (n / 10) shorter left) digit

/-- A positive numeral has no sign. -/
theorem head_of_isPositiveNumeral {c : Char} {chars : List Char}
    (positive : isPositiveNumeral (c :: chars) = true) : c ≠ '-' := by
  rintro rfl
  have digit := all_isDigit_of_isPositiveNumeral positive '-' List.mem_cons_self
  exact absurd digit (by decide)

theorem isNumeral_of_isPositiveNumeral {chars : List Char}
    (positive : isPositiveNumeral chars = true) : isNumeral chars = true := by
  unfold isNumeral
  split
  · rfl
  · exact absurd rfl (head_of_isPositiveNumeral positive)
  · exact positive

theorem numeralValue_of_isPositiveNumeral {chars : List Char}
    (positive : isPositiveNumeral chars = true) : numeralValue chars = digitsValue chars := by
  unfold numeralValue
  split
  · exact absurd rfl (head_of_isPositiveNumeral positive)
  · rfl

theorem digitsValue_toDigits (n : Nat) : digitsValue (Nat.toDigits 10 n) = n :=
  Nat.ofDigitChars_ten_toDigits

theorem isNumeral_ofInt (n : Int) : isNumeral (ofInt n).toList = true := by
  cases n with
  | ofNat n =>
      cases n with
      | zero => decide
      | succ n =>
          have positive := isPositiveNumeral_toDigits (Nat.succ_pos n)
          simpa [ofInt, ofNat] using isNumeral_of_isPositiveNumeral positive
  | negSucc n =>
      have positive := isPositiveNumeral_toDigits (Nat.succ_pos n)
      simpa [ofInt, ofNat, isNumeral] using positive

theorem numeralValue_ofInt (n : Int) : numeralValue (ofInt n).toList = n := by
  cases n with
  | ofNat n =>
      cases n with
      | zero => decide
      | succ n =>
          have positive := isPositiveNumeral_toDigits (Nat.succ_pos n)
          have value := numeralValue_of_isPositiveNumeral positive
          rw [digitsValue_toDigits] at value
          simpa [ofInt, ofNat] using value
  | negSucc n =>
      have value := digitsValue_toDigits (n + 1)
      simp [ofInt, ofNat, numeralValue, value, Int.negSucc_eq]

/-! ### Numerals written back -/

/-- A decimal digit is the character of its own value. -/
theorem digitChar_of_isDigit {c : Char} (digit : c.isDigit = true) :
    c.toNat - '0'.toNat < 10 ∧ (c.toNat - '0'.toNat).digitChar = c := by
  have range : 48 ≤ c.toNat ∧ c.toNat ≤ 57 := by
    simpa [Char.isDigit, UInt32.le_iff_toNat_le] using digit
  have small : c.toNat - '0'.toNat < 10 := by
    show c.toNat - 48 < 10
    omega
  refine ⟨small, Char.toNat_inj.mp ?_⟩
  rw [Nat.toNat_digitChar_of_lt_ten small]
  show 48 + (c.toNat - 48) = c.toNat
  omega

/-- Digits that continue a positive number are the last digits of the number they lead to. -/
theorem toDigits_continued {digits : List Char} (all : ∀ c ∈ digits, c.isDigit = true) {n : Nat}
    (positive : 0 < n) :
    Nat.toDigits 10 (digits.foldl (fun n c => 10 * n + (c.toNat - '0'.toNat)) n) =
      Nat.toDigits 10 n ++ digits := by
  induction digits generalizing n with
  | nil => simp
  | cons c digits ih =>
      obtain ⟨small, same⟩ := digitChar_of_isDigit (all c List.mem_cons_self)
      have others : ∀ d ∈ digits, d.isDigit = true := fun d member =>
        all d (List.mem_cons_of_mem c member)
      have grown : 0 < 10 * n + (c.toNat - '0'.toNat) := by omega
      rw [List.foldl_cons, ih others grown,
        ← Nat.toDigits_append_toDigits (by decide) positive small, Nat.toDigits_of_lt_base small,
        same, List.append_assoc, List.singleton_append]

theorem toDigits_digitsValue {chars : List Char} (positive : isPositiveNumeral chars = true) :
    Nat.toDigits 10 (digitsValue chars) = chars := by
  cases chars with
  | nil => cases positive
  | cons d digits =>
      simp only [isPositiveNumeral, Bool.and_eq_true, bne_iff_ne, List.all_eq_true] at positive
      obtain ⟨⟨digit, nonzero⟩, others⟩ := positive
      obtain ⟨small, same⟩ := digitChar_of_isDigit digit
      have leading : 0 < d.toNat - '0'.toNat := by
        refine Nat.pos_of_ne_zero fun zero => nonzero ?_
        rw [← same, zero]
        rfl
      have first : 10 * 0 + (d.toNat - '0'.toNat) = d.toNat - '0'.toNat := by omega
      rw [digitsValue, List.foldl_cons, first, toDigits_continued others leading,
        Nat.toDigits_of_lt_base small, same, List.singleton_append]

/-- A numeral is the decimal form of the integer it denotes. -/
theorem ofInt_numeralValue {text : String} (numeral : isNumeral text.toList = true) :
    ofInt (numeralValue text.toList) = text := by
  apply String.toList_injective
  generalize text.toList = chars at numeral
  unfold isNumeral at numeral
  split at numeral
  · rfl
  · rename_i digits
    have back := toDigits_digitsValue numeral
    obtain ⟨m, value⟩ : ∃ m, digitsValue digits = m + 1 := by
      refine Nat.exists_eq_succ_of_ne_zero fun zero => ?_
      rw [← back, zero] at numeral
      exact absurd numeral (by decide)
    have negative : numeralValue ('-' :: digits) = Int.negSucc m := by
      rw [numeralValue, value, Int.negSucc_eq, Int.natCast_add_one]
    rw [value] at back
    simp [negative, ofInt, ofNat, back]
  · have back := toDigits_digitsValue numeral
    rw [numeralValue_of_isPositiveNumeral numeral]
    show (ofNat (digitsValue chars)).toList = chars
    rw [ofNat, String.toList_ofList, back]

end FuelDuel.Language
