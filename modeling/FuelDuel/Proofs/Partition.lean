import Mathlib.Computability.RegularExpressions
import FuelDuel.Proofs.Tiling
import FuelDuel.Proofs.TokenClass

/-!
Scanning as a partition of the text. The tokens of a text are in order and do not overlap, each
spells the part of the text that it covers, and what none of them covers is white space. A token is
a punctuation character, or a longest run of characters that are neither white space nor
punctuation; what it is classified as is said by two regular expressions
(`Token.scan_partitions`).

The regular expressions are those of the language: `-?[1-9][0-9]*|0` for numerals (`numberPattern`)
and `$[A-Za-z][A-Za-z0-9]*` for variables (`variablePattern`).
-/

namespace FuelDuel.Language

open FuelDuel.Text

/-! ### Patterns -/

section Patterns

open RegularExpression

/-- The characters from `first` to `last`, both included. -/
def charsBetween (first last : Char) : List Char :=
  (List.range' first.toNat (last.toNat + 1 - first.toNat)).map Char.ofNat

/-- One of the characters. -/
def oneOf (chars : List Char) : RegularExpression Char := (chars.map char).sum

/-- The ASCII letters. -/
def letters : List Char := charsBetween 'A' 'Z' ++ charsBetween 'a' 'z'

/-- How numerals are written. -/
def numberPattern : RegularExpression Char :=
  (1 + char '-') * (oneOf (charsBetween '1' '9') * (oneOf (charsBetween '0' '9')).star) + char '0'

/-- How variables are written. -/
def variablePattern : RegularExpression Char :=
  char '$' * (oneOf letters * (oneOf (letters ++ charsBetween '0' '9')).star)

/-- Below the surrogates, the characters between two are those with a code point between theirs. -/
theorem mem_charsBetween {first last c : Char} (below : last.toNat < 0xD800) :
    c ∈ charsBetween first last ↔ first.toNat ≤ c.toNat ∧ c.toNat ≤ last.toNat := by
  simp only [charsBetween, List.mem_map, List.mem_range'_1]
  constructor
  · rintro ⟨n, range, rfl⟩
    have valid : n.isValidChar := .inl (by omega)
    have code : (Char.ofNat n).toNat = n := congrArg Char.toNat (dif_pos valid)
    omega
  · intro range
    exact ⟨c.toNat, by omega, c.ofNat_toNat⟩

theorem mem_digits {c : Char} : c ∈ charsBetween '0' '9' ↔ c.isDigit = true := by
  rw [mem_charsBetween (by decide)]
  simp only [Char.isDigit, Bool.and_eq_true, decide_eq_true_eq]
  rfl

theorem mem_nonzero {c : Char} : c ∈ charsBetween '1' '9' ↔ c.isDigit = true ∧ c ≠ '0' := by
  rw [mem_charsBetween (by decide), ← mem_digits, mem_charsBetween (by decide), ne_eq,
    ← Char.toNat_inj]
  have zero : '0'.toNat = 48 := rfl
  have one : '1'.toNat = 49 := rfl
  omega

theorem mem_letters {c : Char} : c ∈ letters ↔ c.isAlpha = true := by
  rw [letters, List.mem_append, mem_charsBetween (by decide), mem_charsBetween (by decide)]
  change _ ↔ (decide (65 ≤ c.val ∧ c.val ≤ 90) ||
    (decide (97 ≤ c.val) && decide (c.val ≤ 122))) = true
  simp only [Bool.or_eq_true, Bool.and_eq_true, decide_eq_true_eq]
  rfl

theorem mem_char {c : Char} {word : List Char} : word ∈ (char c).matches' ↔ word = [c] := Iff.rfl

theorem mem_oneOf {chars word : List Char} :
    word ∈ (oneOf chars).matches' ↔ ∃ c ∈ chars, word = [c] := by
  induction chars with
  | nil => simp [oneOf]
  | cons c chars ih =>
      have split : oneOf (c :: chars) = char c + oneOf chars := rfl
      rw [split, matches'_add, Language.mem_add, mem_char, ih]
      simp

theorem mem_oneOf_star {chars word : List Char} :
    word ∈ (oneOf chars).star.matches' ↔ ∀ c ∈ word, c ∈ chars := by
  rw [matches'_star, Language.mem_kstar]
  constructor
  · rintro ⟨parts, rfl, ofParts⟩ c member
    obtain ⟨part, among, within⟩ := List.mem_flatten.mp member
    obtain ⟨d, allowed, rfl⟩ := mem_oneOf.mp (ofParts part among)
    rwa [List.mem_singleton.mp within]
  · intro allowed
    refine ⟨word.map fun c => [c], (List.flatMap_singleton' word).symm, fun part among => ?_⟩
    obtain ⟨c, member, rfl⟩ := List.mem_map.mp among
    exact mem_oneOf.mpr ⟨c, allowed c member, rfl⟩

/-- One character out of a list and then any number of characters out of another. -/
theorem mem_oneOf_mul_star {heads tails word : List Char} :
    word ∈ (oneOf heads * (oneOf tails).star).matches' ↔
      ∃ c rest, word = c :: rest ∧ c ∈ heads ∧ ∀ d ∈ rest, d ∈ tails := by
  rw [matches'_mul, Language.mem_mul]
  constructor
  · rintro ⟨_, first, rest, later, rfl⟩
    obtain ⟨c, allowed, rfl⟩ := mem_oneOf.mp first
    exact ⟨c, rest, rfl, allowed, mem_oneOf_star.mp later⟩
  · rintro ⟨c, rest, rfl, first, later⟩
    exact ⟨[c], mem_oneOf.mpr ⟨c, first, rfl⟩, rest, mem_oneOf_star.mpr later, rfl⟩

theorem isPositiveNumeral_iff_matches {word : List Char} : isPositiveNumeral word = true ↔
    word ∈ (oneOf (charsBetween '1' '9') * (oneOf (charsBetween '0' '9')).star).matches' := by
  rw [mem_oneOf_mul_star]
  cases word with
  | nil => simp [isPositiveNumeral]
  | cons c rest =>
      simp only [isPositiveNumeral, mem_nonzero, mem_digits, Bool.and_eq_true, List.all_eq_true,
        bne_iff_ne, List.cons.injEq, existsAndEq, and_true, true_and]

theorem isNumeral_eq_true_iff {word : List Char} : isNumeral word = true ↔
    (isPositiveNumeral word = true ∨
      ∃ digits, word = '-' :: digits ∧ isPositiveNumeral digits = true) ∨ word = ['0'] := by
  unfold isNumeral
  split
  · simp
  · simp [isPositiveNumeral]
  · rename_i notZero notMinus
    constructor
    · exact fun positive => .inl (.inl positive)
    · rintro ((positive | ⟨digits, rfl, -⟩) | rfl)
      · exact positive
      · exact absurd rfl (notMinus digits)
      · exact absurd rfl notZero

/-- Numerals are written as their pattern says. -/
theorem isNumeral_iff_matches {word : List Char} :
    isNumeral word = true ↔ word ∈ numberPattern.matches' := by
  rw [isNumeral_eq_true_iff, numberPattern, matches'_add, Language.mem_add, mem_char,
    matches'_mul, Language.mem_mul]
  refine or_congr_left ⟨?_, ?_⟩
  · rintro (positive | ⟨digits, rfl, positive⟩)
    · exact ⟨[], .inl rfl, word, isPositiveNumeral_iff_matches.mp positive, rfl⟩
    · exact ⟨['-'], .inr rfl, digits, isPositiveNumeral_iff_matches.mp positive, rfl⟩
  · rintro ⟨_, rfl | rfl, digits, positive, rfl⟩
    · exact .inl (isPositiveNumeral_iff_matches.mpr positive)
    · exact .inr ⟨digits, rfl, isPositiveNumeral_iff_matches.mpr positive⟩

theorem isName_iff_matches {word : List Char} : isName word = true ↔
    word ∈ (oneOf letters * (oneOf (letters ++ charsBetween '0' '9')).star).matches' := by
  rw [mem_oneOf_mul_star]
  cases word with
  | nil => simp [isName]
  | cons c rest =>
      simp only [isName, Char.isAlphanum, mem_letters, mem_digits, List.mem_append,
        Bool.and_eq_true, Bool.or_eq_true, List.all_eq_true, List.cons.injEq, existsAndEq,
        and_true, true_and]

/-- Variables are written as their pattern says. -/
theorem isVariable_iff_matches {word : List Char} :
    isVariable word = true ↔ word ∈ variablePattern.matches' := by
  rw [isVariable_eq_true_iff, variablePattern, matches'_mul, Language.mem_mul]
  constructor
  · rintro ⟨name, rfl, named⟩
    exact ⟨['$'], rfl, name, isName_iff_matches.mp named, rfl⟩
  · rintro ⟨_, rfl, name, named, rfl⟩
    exact ⟨name, rfl, isName_iff_matches.mpr named⟩

end Patterns

/-! ### The partition -/

theorem byteLength_toList (text : String) : byteLength text.toList = text.utf8ByteSize := by
  have sizes (chars : List Char) : byteLength chars = (String.ofList chars).utf8ByteSize := by
    induction chars with
    | nil => rfl
    | cons c chars ih => simp [byteLength, ih, String.ofList_cons]
  rw [sizes, String.ofList_toList]

/-- The token is a part of the source, cut out and classified as the language has it. -/
structure Token.PartOf (source : String) (token : Token) : Prop where
  /-- The token covers just its own text. -/
  spelled : ∃ before after : String,
    source = before ++ token.text ++ after ∧ token.offset = before.utf8ByteSize
  punct : token.kind = .punct → ∃ c ∈ punctuation, token.text = String.singleton c
  plain : token.kind ≠ .punct → Plain token.text
  /-- Every part of the source that covers the token and is as plain as it is the token. -/
  maximal : token.kind ≠ .punct → ∀ before longer after : String,
    source = before ++ longer ++ after → Plain longer →
    before.utf8ByteSize ≤ token.offset →
    token.offset + token.text.utf8ByteSize ≤ before.utf8ByteSize + longer.utf8ByteSize →
    longer = token.text
  number : token.kind = .number ↔ token.text.toList ∈ numberPattern.matches'
  variableName : token.kind = .variableName ↔ token.text.toList ∈ variablePattern.matches'
  word : token.kind ≠ .punct → (token.kind = .word ↔
    token.text.toList ∉ numberPattern.matches' ∧ token.text.toList ∉ variablePattern.matches')

/-- The tokens are parts of the source, one after the other, and the rest of it is white space. -/
structure Partitions (source : String) (tokens : List Token) : Prop where
  part : ∀ token ∈ tokens, token.PartOf source
  ordered : tokens.Pairwise fun earlier later =>
    earlier.offset < later.offset ∧ earlier.offset + earlier.text.utf8ByteSize ≤ later.offset
  /-- A character that no token covers is white space. -/
  outside : ∀ (before : String) (c : Char) (after : String),
    source = before ++ String.singleton c ++ after →
    (∀ token ∈ tokens, before.utf8ByteSize < token.offset ∨
      token.offset + token.text.utf8ByteSize ≤ before.utf8ByteSize) → isBlank c = true

theorem TokenKind.ofChars_eq_punct_iff {chars : List Char} :
    ofChars chars = .punct ↔ chars.any isPunct = true := by
  unfold ofChars
  split
  · simp [*]
  · split
    · simp [*]
    · split <;> simp [*]

theorem Plain.any_isPunct {word : String} (plain : Plain word) :
    word.toList.any isPunct = false := by
  rw [List.any_eq_false]
  exact fun c member => Bool.eq_false_iff.mp (plain.2 c member).2

namespace Token

theorem stop_eq (token : Token) : token.stop = token.offset + token.text.utf8ByteSize := by
  rw [stop, byteLength_toList]

theorem kind_eq_word_iff {token : Token} (notPunct : token.kind ≠ .punct) :
    token.kind = .word ↔ token.kind ≠ .number ∧ token.kind ≠ .variableName := by
  cases same : token.kind with
  | punct => exact absurd same notPunct
  | number | variableName | word => simp

/-- Every token of a source is a part of it. -/
theorem partOf_of_mem_scan {source : String} {token : Token} (member : token ∈ scan source) :
    token.PartOf source := by
  have tiling := scan_tiling source
  have number : token.kind = .number ↔ token.text.toList ∈ numberPattern.matches' :=
    ofChars_eq_number_iff.trans isNumeral_iff_matches
  have variableName : token.kind = .variableName ↔ token.text.toList ∈ variablePattern.matches' :=
    ofChars_eq_variableName_iff.trans isVariable_iff_matches
  have plain (notPunct : token.kind ≠ .punct) : Plain token.text := by
    rcases tiling.cases_text member with ⟨c, mark, spelled⟩ | plain
    · exact absurd (TokenKind.ofChars_eq_punct_iff.mpr (by simp [spelled, mark])) notPunct
    · exact plain
  refine ⟨?_, ?_, plain, ?_, number, variableName, ?_⟩
  · obtain ⟨before, after, whole, place, -⟩ := tiling.spelled member
    refine ⟨String.ofList before, String.ofList after, ?_, ?_⟩
    · apply String.toList_injective
      simp [whole]
    · rw [← byteLength_toList, String.toList_ofList, place, Nat.zero_add]
  · intro punct
    rcases tiling.cases_text member with ⟨c, mark, spelled⟩ | plain
    · exact ⟨c, List.contains_iff_mem.mp mark, spelled⟩
    · have marked := TokenKind.ofChars_eq_punct_iff.mp punct
      cases plain.any_isPunct.symm.trans marked
  · intro notPunct before longer after whole unbroken starts stops
    apply String.toList_injective
    refine @Tiling.maximal 0 _ _ tiling token member (plain notPunct) before.toList _ after.toList
      (by simp [whole]) unbroken.2 ?_ ?_
    · simpa [byteLength_toList] using starts
    · simpa [byteLength_toList, stop_eq] using stops
  · intro notPunct
    rw [kind_eq_word_iff notPunct, ne_eq, ne_eq, number, variableName]

/-- Scanning partitions every text into its tokens and white space. -/
theorem scan_partitions (source : String) : Partitions source (scan source) := by
  have tiling := scan_tiling source
  refine ⟨fun _ member => partOf_of_mem_scan member, ?_, ?_⟩
  · refine tiling.ordered.imp_of_mem fun {earlier later} member _ apart => ?_
    have filled := byteLength_pos (tiling.text_ne_nil member)
    rw [byteLength_toList] at filled
    rw [stop_eq] at apart
    omega
  · intro before c after whole uncovered
    refine @Tiling.outside 0 _ _ tiling before.toList after.toList c (by simp [whole]) ?_
    simpa [byteLength_toList, stop_eq] using uncovered

end Token

end FuelDuel.Language
