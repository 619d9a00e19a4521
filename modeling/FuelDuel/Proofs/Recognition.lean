import FuelDuel.Proofs.Computation
import FuelDuel.Proofs.Grammar

/-!
What it means that a reader recognises a construct, and why the readers that are shared by all
constructs do. A reader recognises a construct if it gives only trees that derive from the tokens
it consumes (`Recognizes.sound`), and gives every tree that derives from a run of tokens when the
reading starts there (`Recognizes.complete`). The second part depends on what follows: a token that
would extend the construct is read as part of it.
-/

namespace FuelDuel.Language

open Reader

/-- The tokens start with tokens that have the given texts, and then `rest` follows. -/
def Spells (tokens : List Token) (words : List String) (rest : List Token) : Prop :=
  ∃ front, tokens = front ++ rest ∧ front.map Token.text = words

@[simp] theorem spells_nil_iff {tokens rest : List Token} :
    Spells tokens [] rest ↔ tokens = rest := by
  constructor
  · rintro ⟨front, rfl, spelled⟩
    simp [List.map_eq_nil_iff.mp spelled]
  · rintro rfl
    exact ⟨[], rfl, rfl⟩

theorem spells_append_iff {tokens rest : List Token} {first second : List String} :
    Spells tokens (first ++ second) rest ↔
      ∃ middle, Spells tokens first middle ∧ Spells middle second rest := by
  constructor
  · rintro ⟨front, rfl, spelled⟩
    obtain ⟨left, right, rfl, ofLeft, ofRight⟩ := List.map_eq_append_iff.mp spelled
    exact ⟨right ++ rest, ⟨left, by simp, ofLeft⟩, ⟨right, rfl, ofRight⟩⟩
  · rintro ⟨_, ⟨left, rfl, ofLeft⟩, ⟨right, rfl, ofRight⟩⟩
    exact ⟨left ++ right, by simp, by simp [ofLeft, ofRight]⟩

theorem spells_singleton_iff {tokens rest : List Token} {word : String} :
    Spells tokens [word] rest ↔ ∃ token, tokens = token :: rest ∧ token.text = word := by
  constructor
  · rintro ⟨front, rfl, spelled⟩
    obtain ⟨token, later, rfl, spelled, nothing⟩ := List.map_eq_cons_iff.mp spelled
    rw [List.map_eq_nil_iff.mp nothing]
    exact ⟨token, rfl, spelled⟩
  · rintro ⟨token, rfl, spelled⟩
    exact ⟨[token], rfl, by simp [spelled]⟩

theorem spells_cons_iff {tokens rest : List Token} {word : String} {words : List String} :
    Spells tokens (word :: words) rest ↔
      ∃ token later, tokens = token :: later ∧ token.text = word ∧ Spells later words rest := by
  rw [← List.singleton_append, spells_append_iff]
  constructor
  · rintro ⟨later, first, others⟩
    obtain ⟨token, rfl, spelled⟩ := spells_singleton_iff.mp first
    exact ⟨token, later, rfl, spelled, others⟩
  · rintro ⟨token, later, rfl, spelled, others⟩
    exact ⟨later, spells_singleton_iff.mpr ⟨token, rfl, spelled⟩, others⟩

theorem spells_enclosed_iff {tokens rest : List Token} {opening closing : String}
    {words : List String} :
    Spells tokens (opening :: (words ++ [closing])) rest ↔
      ∃ inside after, Spells tokens [opening] inside ∧ Spells inside words after ∧
        Spells after [closing] rest := by
  rw [← List.singleton_append, spells_append_iff]
  simp only [spells_append_iff]
  constructor
  · rintro ⟨inside, opened, after, spelled, closed⟩
    exact ⟨inside, after, opened, spelled, closed⟩
  · rintro ⟨inside, after, opened, spelled, closed⟩
    exact ⟨inside, opened, after, spelled, closed⟩

theorem spells_parens_iff {tokens rest : List Token} {words : List String} :
    Spells tokens (parens words) rest ↔
      ∃ inside after, Spells tokens ["("] inside ∧ Spells inside words after ∧
        Spells after [")"] rest :=
  spells_enclosed_iff

theorem spells_braces_iff {tokens rest : List Token} {words : List String} :
    Spells tokens (braces words) rest ↔
      ∃ inside after, Spells tokens ["\x7b"] inside ∧ Spells inside words after ∧
        Spells after ["\x7d"] rest :=
  spells_enclosed_iff

theorem spells_pairOf_iff {tokens rest : List Token} {first second : List String} :
    Spells tokens (pairOf first second) rest ↔
      ∃ inside comma later after, Spells tokens ["("] inside ∧ Spells inside first comma ∧
        Spells comma [","] later ∧ Spells later second after ∧ Spells after [")"] rest := by
  show Spells tokens (parens (first ++ ([","] ++ second))) rest ↔ _
  simp only [spells_parens_iff, spells_append_iff]
  constructor
  · rintro ⟨inside, after, opened, ⟨comma, ofFirst, later, parted, ofSecond⟩, closed⟩
    exact ⟨inside, comma, later, after, opened, ofFirst, parted, ofSecond, closed⟩
  · rintro ⟨inside, comma, later, after, opened, ofFirst, parted, ofSecond, closed⟩
    exact ⟨inside, after, opened, ⟨comma, ofFirst, later, parted, ofSecond⟩, closed⟩

theorem spells_all_iff {tokens : List Token} {words : List String} :
    Spells tokens words [] ↔ tokens.map Token.text = words := by
  constructor
  · rintro ⟨front, rfl, spelled⟩
    simpa using spelled
  · intro spelled
    exact ⟨tokens, by simp, spelled⟩

theorem Spells.length_le {tokens rest : List Token} {words : List String}
    (spelled : Spells tokens words rest) : words.length ≤ tokens.length := by
  obtain ⟨front, rfl, rfl⟩ := spelled
  simp

theorem nextIs_of_spells {tokens rest : List Token} {word : String} {words : List String}
    (spelled : Spells tokens (word :: words) rest) : nextIs word tokens = true := by
  obtain ⟨token, later, rfl, same, -⟩ := spells_cons_iff.mp spelled
  simp [nextIs, same]

/-- The next token cannot have two texts. -/
theorem nextIs_unique {tokens : List Token} {word other : String}
    (next : nextIs word tokens = true) (different : word ≠ other) :
    nextIs other tokens = false := by
  cases tokens with
  | nil => rfl
  | cons token later =>
      have same : token.text = word := by simpa [nextIs] using next
      simpa [nextIs, same] using different

/-! ### Single tokens -/

@[simp] theorem peek_cons (expected : String) (token : Token) (later : List Token) :
    peek expected (token :: later) = .ok token (token :: later) := rfl

@[simp] theorem skip_cons (token : Token) (later : List Token) :
    skip (token :: later) = .ok () later := rfl

theorem expect_eq_ok_iff {text : String} {token : Token} {tokens rest : List Token} :
    expect text tokens = .ok token rest ↔ tokens = token :: rest ∧ token.text = text := by
  cases tokens with
  | nil =>
      constructor
      · intro read
        cases read
      · rintro ⟨same, -⟩
        cases same
  | cons first later =>
      rw [expect, expectThat, bind_of_ok (peek_cons text first later)]
      by_cases same : first.text = text
      · simp only [same, beq_self_eq_true, if_true, bind_of_ok (skip_cons first later), pure_apply]
        constructor
        · intro read
          cases read
          exact ⟨rfl, same⟩
        · rintro ⟨taken, -⟩
          cases taken
          rfl
      · simp only [beq_eq_false_iff_ne.mpr same, Bool.false_eq_true, if_false, throw_apply]
        constructor
        · intro read
          cases read
        · rintro ⟨taken, other⟩
          cases taken
          exact absurd other same

theorem expect_of_ne {word : String} {token : Token} (other : token.text ≠ word)
    (later : List Token) :
    expect word (token :: later) =
      .error (.unexpectedToken token word) (token :: later) := by
  rw [expect, expectThat, bind_of_ok (peek_cons word token later)]
  simp only [beq_eq_false_iff_ne.mpr other, Bool.false_eq_true, if_false, throw_apply]

theorem expect_bind_eq_ok_iff {α : Type} {text : String} {next : Reader α} {value : α}
    {tokens rest : List Token} :
    (do let _ ← expect text; next) tokens = .ok value rest ↔
      ∃ later, Spells tokens [text] later ∧ next later = .ok value rest := by
  rw [bind_eq_ok_iff]
  constructor
  · rintro ⟨token, later, read, onward⟩
    exact ⟨later, spells_singleton_iff.mpr ⟨token, expect_eq_ok_iff.mp read⟩, onward⟩
  · rintro ⟨later, spelled, onward⟩
    obtain ⟨token, same⟩ := spells_singleton_iff.mp spelled
    exact ⟨token, later, expect_eq_ok_iff.mpr same, onward⟩

/-! ### Recognising a construct -/

/-- The reader gives exactly the trees that derive from the tokens at which it starts, as long as
they are at most `limit` tokens and the tokens after them do not extend the construct, which is
what `ends` says of its words and the later tokens. -/
structure Recognizes {α : Type} (limit : Nat) (reader : Reader α)
    (derives : List String → α → Prop) (ends : List String → List Token → Prop) : Prop where
  sound : ∀ {tokens value rest}, reader tokens = .ok value rest →
    ∃ words, Spells tokens words rest ∧ derives words value
  complete : ∀ {tokens words value rest}, derives words value → Spells tokens words rest →
    ends words rest → words.length ≤ limit → reader tokens = .ok value rest

/-- A construct that no token extends. -/
def AlwaysEnds (_words : List String) (_rest : List Token) : Prop := True

section Shared

variable {α : Type} {limit : Nat} {item : Reader α} {derives : List String → α → Prop}
  {ends : List String → List Token → Prop}

/-- A reader that always fails reads no construct, and none is of length zero. -/
theorem Recognizes.zero (fails : ∀ tokens value rest, item tokens ≠ .ok value rest)
    (nonempty : ∀ words value, derives words value → words ≠ []) :
    Recognizes 0 item derives ends where
  sound := fun read => absurd read (fails _ _ _)
  complete := fun derived _ _ short =>
    absurd (List.eq_nil_of_length_eq_zero (Nat.le_zero.mp short)) (nonempty _ _ derived)

theorem Recognizes.of_le {fewer : Nat} (recognized : Recognizes limit item derives ends)
    (less : fewer ≤ limit) : Recognizes fewer item derives ends where
  sound := recognized.sound
  complete := fun derived spelled ended short =>
    recognized.complete derived spelled ended (Nat.le_trans short less)

/-- A reader whose limit grows with the tokens it is given reads constructs of any length. -/
theorem Recognizes.of_limits {within : Nat → Reader α}
    (limited : ∀ tokens, item tokens = within (tokens.length + 1) tokens)
    (recognized : ∀ limit, Recognizes limit (within limit) derives ends) :
    Recognizes limit item derives ends where
  sound := by
    intro tokens value rest read
    rw [limited] at read
    exact (recognized _).sound read
  complete := by
    intro tokens words value rest derived spelled ended _
    have enough := Nat.le_succ_of_le spelled.length_le
    rw [limited]
    exact (recognized _).complete derived spelled ended enough

/-- Tokens with the given texts. Where they stand does not matter to what is read. -/
def asTokens (words : List String) : List Token := words.map fun word => ⟨word, 0⟩

theorem spells_asTokens (words rest : List String) :
    Spells (asTokens (words ++ rest)) words (asTokens rest) :=
  ⟨asTokens words, List.map_append, by simp [asTokens, Function.comp_def]⟩

/-- Of two constructs that start at the same place and are not extended by what follows, none is
longer than the other, and they have the same tree. -/
theorem Recognizes.same_start {within : Nat → Reader α}
    (recognized : ∀ limit, Recognizes limit (within limit) derives ends)
    {words other rest later : List String} {first second : α} (ofFirst : derives words first)
    (ofSecond : derives other second) (same : words ++ rest = other ++ later)
    (ended : ends words (asTokens rest)) (endedToo : ends other (asTokens later)) :
    words = other ∧ rest = later ∧ first = second := by
  have read := (recognized (words.length + other.length)).complete ofFirst
    (spells_asTokens words rest) ended (Nat.le_add_right _ _)
  rw [same] at read
  rw [(recognized (words.length + other.length)).complete ofSecond (spells_asTokens other later)
    endedToo (Nat.le_add_left _ _)] at read
  have sameRest : later = rest := by
    have tokens : asTokens later = asTokens rest := (EStateM.Result.ok.inj read).2
    simpa [asTokens, Function.comp_def] using congrArg (List.map Token.text) tokens
  subst sameRest
  exact ⟨List.append_cancel_right same, rfl, (EStateM.Result.ok.inj read).1.symm⟩

/-- No run of words derives two trees. -/
def Unambiguous (derives : List String → α → Prop) : Prop :=
  ∀ words first second, derives words first → derives words second → first = second

/-- A reader cannot give two trees, so no construct that it recognises has two. -/
theorem Recognizes.unambiguous {within : Nat → Reader α}
    (recognized : ∀ limit, Recognizes limit (within limit) derives ends)
    (alone : ∀ words, ends words []) : Unambiguous derives := by
  intro words first second ofFirst ofSecond
  have toTheEnd : words ++ [] = words ++ [] := rfl
  exact (Recognizes.same_start recognized ofFirst ofSecond toTheEnd (alone words) (alone words)).2.2

theorem parenthesized_eq_ok_iff {value : α} {tokens rest : List Token} :
    parenthesized item tokens = .ok value rest ↔
      ∃ inside after, Spells tokens ["("] inside ∧ item inside = .ok value after ∧
        Spells after [")"] rest := by
  rw [parenthesized, expect_bind_eq_ok_iff]
  constructor
  · rintro ⟨inside, opened, read⟩
    obtain ⟨_, after, readItem, read⟩ := bind_eq_ok_iff.mp read
    obtain ⟨_, closed, read⟩ := expect_bind_eq_ok_iff.mp read
    cases read
    exact ⟨inside, after, opened, readItem, closed⟩
  · rintro ⟨inside, after, opened, readItem, closed⟩
    refine ⟨inside, opened, bind_eq_ok_iff.mpr ⟨value, after, readItem, ?_⟩⟩
    exact expect_bind_eq_ok_iff.mpr ⟨rest, closed, rfl⟩

theorem Recognizes.parenthesized (recognized : Recognizes limit item derives ends)
    (ended : ∀ {words rest}, nextIs ")" rest = true → ends words rest) :
    Recognizes limit (parenthesized item)
      (fun words value => ∃ inner, words = parens inner ∧ derives inner value) AlwaysEnds where
  sound := by
    intro tokens value rest read
    obtain ⟨inside, after, opened, readItem, closed⟩ := parenthesized_eq_ok_iff.mp read
    obtain ⟨inner, spelled, derived⟩ := recognized.sound readItem
    exact ⟨parens inner, spells_parens_iff.mpr ⟨inside, after, opened, spelled, closed⟩,
      inner, rfl, derived⟩
  complete := by
    rintro tokens words value rest ⟨inner, rfl, derived⟩ spelled - short
    obtain ⟨inside, after, opened, spelledItem, closed⟩ := spells_parens_iff.mp spelled
    have fits : inner.length ≤ limit := by simp only [length_parens] at short; omega
    have readItem : item inside = .ok value after :=
      recognized.complete derived spelledItem (ended (nextIs_of_spells closed)) fits
    exact parenthesized_eq_ok_iff.mpr ⟨inside, after, opened, readItem, closed⟩

theorem pair_eq_ok_iff {left right : α} {tokens rest : List Token} :
    pair item tokens = .ok (left, right) rest ↔
      ∃ inside comma later after, Spells tokens ["("] inside ∧ item inside = .ok left comma ∧
        Spells comma [","] later ∧ item later = .ok right after ∧ Spells after [")"] rest := by
  rw [pair, expect_bind_eq_ok_iff]
  constructor
  · rintro ⟨inside, opened, read⟩
    obtain ⟨_, comma, readLeft, read⟩ := bind_eq_ok_iff.mp read
    obtain ⟨later, parted, read⟩ := expect_bind_eq_ok_iff.mp read
    obtain ⟨_, after, readRight, read⟩ := bind_eq_ok_iff.mp read
    obtain ⟨_, closed, read⟩ := expect_bind_eq_ok_iff.mp read
    cases read
    exact ⟨inside, comma, later, after, opened, readLeft, parted, readRight, closed⟩
  · rintro ⟨inside, comma, later, after, opened, readLeft, parted, readRight, closed⟩
    refine ⟨inside, opened, bind_eq_ok_iff.mpr ⟨left, comma, readLeft, ?_⟩⟩
    refine expect_bind_eq_ok_iff.mpr ⟨later, parted, ?_⟩
    refine bind_eq_ok_iff.mpr ⟨right, after, readRight, ?_⟩
    exact expect_bind_eq_ok_iff.mpr ⟨rest, closed, rfl⟩

/-- The tree `make left right` and the words of its two operands. -/
def OperandsDerive {β : Type} (make : α → α → β) (derives : List String → α → Prop)
    (words : List String) (value : β) : Prop :=
  ∃ first second left right, words = pairOf first second ∧ value = make left right ∧
    derives first left ∧ derives second right

theorem Recognizes.operands {β : Type} {make : α → α → β}
    (recognized : Recognizes limit item derives ends)
    (endedByComma : ∀ {words rest}, nextIs "," rest = true → ends words rest)
    (endedByParen : ∀ {words rest}, nextIs ")" rest = true → ends words rest) :
    Recognizes limit
      (do
        let (left, right) ← Reader.pair item
        return make left right)
      (OperandsDerive make derives) AlwaysEnds where
  sound := by
    intro tokens value rest read
    obtain ⟨⟨left, right⟩, _, readPair, done⟩ := bind_eq_ok_iff.mp read
    cases done
    obtain ⟨inside, comma, later, after, opened, readLeft, parted, readRight, closed⟩ :=
      pair_eq_ok_iff.mp readPair
    obtain ⟨first, spelledFirst, ofLeft⟩ := recognized.sound readLeft
    obtain ⟨second, spelledSecond, ofRight⟩ := recognized.sound readRight
    refine ⟨pairOf first second, spells_pairOf_iff.mpr ?_, first, second, left, right, rfl, rfl,
      ofLeft, ofRight⟩
    exact ⟨inside, comma, later, after, opened, spelledFirst, parted, spelledSecond, closed⟩
  complete := by
    rintro tokens _ _ rest ⟨first, second, left, right, rfl, rfl, ofLeft, ofRight⟩ spelled - short
    obtain ⟨inside, comma, later, after, opened, spelledFirst, parted, spelledSecond, closed⟩ :=
      spells_pairOf_iff.mp spelled
    simp only [length_pairOf] at short
    have readLeft : item inside = .ok left comma :=
      recognized.complete ofLeft spelledFirst (endedByComma (nextIs_of_spells parted)) (by omega)
    have readRight : item later = .ok right after :=
      recognized.complete ofRight spelledSecond (endedByParen (nextIs_of_spells closed)) (by omega)
    have readPair := pair_eq_ok_iff.mpr
      ⟨inside, comma, later, after, opened, readLeft, parted, readRight, closed⟩
    rw [bind_of_ok readPair]
    rfl

end Shared

end FuelDuel.Language
