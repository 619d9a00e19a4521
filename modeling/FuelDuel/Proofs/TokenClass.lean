import FuelDuel.Language.Parse

/-!
Classes of tokens. The class that a token is put into is decided by a chain of tests; the facts
here say of each class, without the chain, which texts are in it, and likewise which word each
operator and sensor is recognised by and which numeral a number is read from.
-/

namespace FuelDuel.Language

open FuelDuel.Text

theorem isPunct_of_isAlphanum {c : Char} (alphanum : c.isAlphanum = true) :
    isPunct c = false := by
  rw [Bool.eq_false_iff]
  intro punct
  simp only [isPunct, punctuation, List.contains_eq_mem, List.mem_cons, List.not_mem_nil,
    or_false, decide_eq_true_eq] at punct
  rcases punct with rfl | rfl | rfl | rfl | rfl | rfl <;> exact absurd alphanum (by decide)

theorem isBlank_of_isAlphanum {c : Char} (alphanum : c.isAlphanum = true) : isBlank c = false := by
  have tested : (decide (65 ≤ c.val ∧ c.val ≤ 90) ||
      (decide (97 ≤ c.val) && decide (c.val ≤ 122)) ||
      (decide (48 ≤ c.val) && decide (c.val ≤ 57))) = true := alphanum
  simp only [Bool.or_eq_true, Bool.and_eq_true, decide_eq_true_eq, UInt32.le_iff_toNat_le] at tested
  have codes : ((65 ≤ c.toNat ∧ c.toNat ≤ 90) ∨ (97 ≤ c.toNat ∧ c.toNat ≤ 122)) ∨
      (48 ≤ c.toNat ∧ c.toNat ≤ 57) := tested
  simp only [isBlank, blankRanges, List.any_cons, List.any_nil, Bool.or_false,
    Bool.or_eq_false_iff, Bool.and_eq_false_iff, decide_eq_false_iff_not]
  omega

theorem isAlphanum_of_isDigit {c : Char} (digit : c.isDigit = true) : c.isAlphanum = true := by
  simp [Char.isAlphanum, digit]

theorem isAlphanum_of_isAlpha {c : Char} (letter : c.isAlpha = true) : c.isAlphanum = true := by
  simp [Char.isAlphanum, letter]

/-! ### Numerals and names -/

theorem all_isDigit_of_isPositiveNumeral {chars : List Char}
    (positive : isPositiveNumeral chars = true) : ∀ c ∈ chars, c.isDigit = true := by
  cases chars with
  | nil => simp
  | cons d digits =>
      simp only [isPositiveNumeral, Bool.and_eq_true, List.all_eq_true] at positive
      intro c member
      rcases List.mem_cons.mp member with rfl | later
      · exact positive.1.1
      · exact positive.2 c later

/-- A numeral is made of digits, after a minus sign if it has one. -/
theorem mem_numeral {chars : List Char} (numeral : isNumeral chars = true) :
    ∀ c ∈ chars, c = '-' ∨ c.isDigit = true := by
  intro c member
  unfold isNumeral at numeral
  split at numeral
  · have zero : c = '0' := by simpa using member
    exact .inr (by rw [zero]; decide)
  · rcases List.mem_cons.mp member with rfl | later
    · exact .inl rfl
    · exact .inr (all_isDigit_of_isPositiveNumeral numeral c later)
  · exact .inr (all_isDigit_of_isPositiveNumeral numeral c member)

theorem mem_name {chars : List Char} (name : isName chars = true) :
    ∀ c ∈ chars, c.isAlphanum = true := by
  cases chars with
  | nil => simp
  | cons first rest =>
      simp only [isName, Bool.and_eq_true, List.all_eq_true] at name
      intro c member
      rcases List.mem_cons.mp member with rfl | later
      · exact isAlphanum_of_isAlpha name.1
      · exact name.2 c later

theorem isVariable_eq_true_iff {chars : List Char} :
    isVariable chars = true ↔ ∃ name, chars = '$' :: name ∧ isName name = true := by
  constructor
  · intro dollar
    unfold isVariable at dollar
    split at dollar
    · exact ⟨_, rfl, dollar⟩
    · cases dollar
  · rintro ⟨name, rfl, writable⟩
    exact writable

theorem mem_variable {chars : List Char} (dollar : isVariable chars = true) :
    ∀ c ∈ chars, c = '$' ∨ c.isAlphanum = true := by
  obtain ⟨name, rfl, writable⟩ := isVariable_eq_true_iff.mp dollar
  intro c member
  rcases List.mem_cons.mp member with rfl | later
  · exact .inl rfl
  · exact .inr (mem_name writable c later)

/-! ### The class of a text -/

theorem any_isPunct_of_isNumeral {chars : List Char} (numeral : isNumeral chars = true) :
    chars.any isPunct = false := by
  rw [List.any_eq_false]
  intro c member
  rcases mem_numeral numeral c member with rfl | digit
  · decide
  · simp [isPunct_of_isAlphanum (isAlphanum_of_isDigit digit)]

theorem any_isPunct_of_isVariable {chars : List Char} (dollar : isVariable chars = true) :
    chars.any isPunct = false := by
  rw [List.any_eq_false]
  intro c member
  rcases mem_variable dollar c member with rfl | alphanum
  · decide
  · simp [isPunct_of_isAlphanum alphanum]

theorem isNumeral_of_isVariable {chars : List Char} (dollar : isVariable chars = true) :
    isNumeral chars = false := by
  obtain ⟨name, rfl, -⟩ := isVariable_eq_true_iff.mp dollar
  rw [Bool.eq_false_iff]
  intro numeral
  rcases mem_numeral numeral '$' List.mem_cons_self with minus | digit
  · exact absurd minus (by decide)
  · exact absurd digit (by decide)

theorem ofChars_eq_number_iff {chars : List Char} :
    TokenKind.ofChars chars = .number ↔ isNumeral chars = true := by
  constructor
  · intro number
    unfold TokenKind.ofChars at number
    split at number
    · cases number
    · split at number
      · assumption
      · split at number <;> cases number
  · intro numeral
    simp [TokenKind.ofChars, any_isPunct_of_isNumeral numeral, numeral]

theorem ofChars_eq_variableName_iff {chars : List Char} :
    TokenKind.ofChars chars = .variableName ↔ isVariable chars = true := by
  constructor
  · intro named
    unfold TokenKind.ofChars at named
    split at named
    · cases named
    · split at named
      · cases named
      · split at named
        · assumption
        · cases named
  · intro dollar
    simp [TokenKind.ofChars, any_isPunct_of_isVariable dollar, isNumeral_of_isVariable dollar,
      dollar]

namespace Token

theorem kind_eq_number_iff {token : Token} :
    token.kind = .number ↔ isNumeral token.text.toList = true :=
  ofChars_eq_number_iff

/-- A token is a variable if its text is a dollar sign and the name that the token gives. -/
theorem kind_eq_variableName_iff {token : Token} :
    token.kind = .variableName ↔
      token.text = "$" ++ token.name ∧ isName token.name.toList = true := by
  rw [kind, ofChars_eq_variableName_iff, isVariable_eq_true_iff]
  constructor
  · rintro ⟨name, spelled, writable⟩
    have named : token.name = String.ofList name := by simp [Token.name, spelled]
    refine ⟨?_, by simpa [named] using writable⟩
    apply String.toList_injective
    simp [named, spelled]
  · rintro ⟨spelled, writable⟩
    exact ⟨token.name.toList, by rw [spelled]; simp, writable⟩

theorem name_of_text {token : Token} {name : String} (spelled : token.text = "$" ++ name) :
    token.name = name := by
  simp [Token.name, spelled]

end Token

theorem dollar_ne {name word : String} (other : word.toList.head? ≠ some '$') :
    "$" ++ name ≠ word := by
  rintro rfl
  simp at other

/-! ### Recognising words and numbers -/

/-- In a table of words in which every entry is found by its own word, no other word finds it. -/
theorem find?_word_eq_some_iff {α : Type} {table : List α} {spelling : α → String} {word : String}
    {entry : α}
    (recognised : ∀ entry, table.find? (spelling · == spelling entry) = some entry) :
    table.find? (spelling · == word) = some entry ↔ word = spelling entry := by
  constructor
  · intro found
    have same := List.find?_some found
    exact (beq_iff_eq.mp same).symm
  · rintro rfl
    exact recognised entry

theorem BinaryOp.ofKeyword?_eq_some_iff {word : String} {op : BinaryOp} :
    ofKeyword? word = some op ↔ word = op.keyword :=
  find?_word_eq_some_iff BinaryOp.ofKeyword?_keyword

theorem CompareOp.ofKeyword?_eq_some_iff {word : String} {op : CompareOp} :
    ofKeyword? word = some op ↔ word = op.keyword :=
  find?_word_eq_some_iff CompareOp.ofKeyword?_keyword

theorem Connective.ofKeyword?_eq_some_iff {word : String} {op : Connective} :
    ofKeyword? word = some op ↔ word = op.keyword :=
  find?_word_eq_some_iff Connective.ofKeyword?_keyword

theorem Sensor.ofKeyword?_eq_some_iff {word : String} {sensor : Sensor} :
    ofKeyword? word = some sensor ↔ word = sensor.keyword :=
  find?_word_eq_some_iff Sensor.ofKeyword?_keyword

theorem literalValue?_eq_some_iff {text : String} {value : Int32} :
    literalValue? text = some value ↔ numeralValue text.toList = value.toInt := by
  simp only [literalValue?]
  constructor
  · intro found
    split at found
    · rename_i range
      have below : numeralValue text.toList < 2 ^ 31 := Int.lt_of_le_sub_one range.2
      cases found
      exact (Int32.toInt_ofInt_of_le range.1 below).symm
    · cases found
  · intro denotes
    rw [denotes, if_pos ⟨value.minValue_le_toInt, value.toInt_le⟩, Int32.ofInt_toInt]

end FuelDuel.Language
