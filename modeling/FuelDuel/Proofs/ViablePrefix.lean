import FuelDuel.Proofs.Recognition

/-!
What reading says about texts that were not read. A reader looks one token ahead and never goes
back, so what it has made of some tokens it would make of any others that start with the same words.
If it gives a tree, it gives the same tree wherever these words and the same next word stand; if it
gives up at a token, no text that starts with the words up to that token is of any use to it. And
what it had read by then was no mistake: it can be continued to a whole construct.

`Foreseen` says all of this about one reading. Readers that are put together from others keep it
(`Foreseen.bind`, `Foreseen.cons`, `Foreseen.expect`).
-/

namespace FuelDuel.Language

open Reader

/-- Some words can be continued to words from which a tree derives. -/
def Viable {α : Type} (derives : List String → α → Prop) (words : List String) : Prop :=
  ∃ later value, derives (words ++ later) value

/-- The word that comes next, if any. -/
def nextWord (tokens : List Token) : Option String := tokens.head?.map Token.text

/-- The tokens from the site of an error on, given those that were left: a numeral is consumed
before it is found to be out of range. -/
def SyntaxError.unread (rest : List Token) : SyntaxError → List Token
  | .invalidNumber literal => literal :: rest
  | _ => rest

/-- What a reading of `tokens` says about `again`, the same reader with other limits, on any tokens
that are fewer than `bound`. -/
inductive Foreseen {α : Type} (bound : Nat) (again : Reader α)
    (derives : List String → α → Prop) (tokens : List Token) :
    EStateM.Result SyntaxError (List Token) α → Prop where
  /-- A tree derives from the words that were read, and is read from them again. -/
  | value {words : List String} {value : α} {rest : List Token}
      (spelled : Spells tokens words rest) (derived : derives words value)
      (closed : words.getLast? ≠ some "\x7b")
      (steady : ∀ {other left}, other.length < bound → Spells other words left →
        nextWord left = nextWord rest → again other = .ok value left) :
      Foreseen bound again derives tokens (.ok value rest)
  /-- The tokens have ended too early, and could go on. -/
  | ended {expected : String} {rest : List Token}
      (viable : Viable derives (tokens.map Token.text)) :
      Foreseen bound again derives tokens (.error (.unexpectedEnd expected) rest)
  /-- A token is wrong: the words before it could go on, but not with this one. -/
  | wrong {error : SyntaxError} {token : Token} {front : List String} {later rest : List Token}
      (site : error.site = some token) (unread : error.unread rest = token :: later)
      (spelled : Spells tokens front (token :: later)) (viable : Viable derives front)
      (refused : ∀ {other left}, other.length < bound →
        Spells other (front ++ [token.text]) left → ∃ reason unread,
          again other = .error reason unread)
      (emptyBlock : error = .emptyBlock token ↔
        token.text = "\x7d" ∧ front.getLast? = some "\x7b") :
      Foreseen bound again derives tokens (.error error rest)

/-! ### Words -/

section Words

variable {tokens other rest left : List Token} {words : List String}

theorem Spells.map_text (spelled : Spells tokens words rest) :
    tokens.map Token.text = words ++ rest.map Token.text := by
  obtain ⟨front, rfl, rfl⟩ := spelled
  simp

theorem Spells.length_eq (spelled : Spells tokens words rest) :
    tokens.length = words.length + rest.length := by
  obtain ⟨front, rfl, rfl⟩ := spelled
  simp

/-- The words before given tokens are determined. -/
theorem Spells.words_unique {more : List String} (spelled : Spells tokens words rest)
    (again : Spells tokens more rest) : words = more :=
  List.append_cancel_right (spelled.map_text.symm.trans again.map_text)

theorem nextWord_eq_head? (tokens : List Token) :
    nextWord tokens = (tokens.map Token.text).head? := by
  cases tokens <;> rfl

/-- The same words and then the same next word start with the same word. -/
theorem nextWord_of_spells (spelled : Spells tokens words rest) (again : Spells other words left)
    (same : nextWord left = nextWord rest) : nextWord other = nextWord tokens := by
  rw [nextWord_eq_head?, nextWord_eq_head?] at same ⊢
  rw [spelled.map_text, again.map_text]
  cases words with
  | nil => exact same
  | cons word words => rfl

/-- Tokens that go on to a wrong one start with the same word as any others that do. -/
theorem nextWord_of_refused {token : Token} {later : List Token} {front : List String}
    (spelled : Spells tokens front (token :: later))
    (again : Spells other (front ++ [token.text]) left) : nextWord other = nextWord tokens := by
  obtain ⟨middle, ofFront, ofToken⟩ := spells_append_iff.mp again
  obtain ⟨found, rfl, text⟩ := spells_singleton_iff.mp ofToken
  refine nextWord_of_spells spelled ofFront ?_
  simp [nextWord, text]

theorem nextIs_eq_nextWord (word : String) (tokens : List Token) :
    nextIs word tokens = (nextWord tokens == some word) := by
  cases tokens <;> simp [nextIs, nextWord]

theorem nextIs_congr (same : nextWord other = nextWord tokens) (word : String) :
    nextIs word other = nextIs word tokens := by
  rw [nextIs_eq_nextWord, nextIs_eq_nextWord, same]

end Words

/-! ### Derivations of parts -/

section Parts

variable {α β : Type}

/-- A word and then a construct. -/
def Preceded (word : String) (derives : List String → α → Prop) (words : List String)
    (value : α) : Prop :=
  ∃ inner, words = word :: inner ∧ derives inner value

/-- A construct and then one that may depend on it. -/
def Joined (first : List String → α → Prop) (second : α → List String → β → Prop)
    (words : List String) (value : β) : Prop :=
  ∃ front back middle, words = front ++ back ∧ first front middle ∧ second middle back value

/-- No words, and a given tree. -/
def Done (made : α) (words : List String) (value : α) : Prop := words = [] ∧ value = made

theorem viable_preceded {word : String} {derives : List String → α → Prop} {words : List String}
    (viable : Viable derives words) : Viable (Preceded word derives) (word :: words) := by
  obtain ⟨later, value, derived⟩ := viable
  exact ⟨later, value, words ++ later, rfl, derived⟩

theorem viable_preceded_nil {word : String} {derives : List String → α → Prop}
    (viable : Viable derives []) : Viable (Preceded word derives) [] := by
  obtain ⟨later, value, derived⟩ := viable
  exact ⟨word :: later, value, later, rfl, derived⟩

theorem viable_done (made : α) : Viable (Done made) [] := ⟨[], made, rfl, rfl⟩

/-- A tree that is made from the tree of a construct. -/
def Made (make : α → β) (derives : List String → α → Prop) (words : List String)
    (value : β) : Prop :=
  ∃ part, derives words part ∧ value = make part

theorem viable_made {make : α → β} {derives : List String → α → Prop} {words : List String}
    (viable : Viable derives words) : Viable (Made make derives) words := by
  obtain ⟨later, part, derived⟩ := viable
  exact ⟨later, make part, part, derived, rfl⟩

theorem viable_joined_first {first : List String → α → Prop}
    {second : α → List String → β → Prop} {words : List String} (viable : Viable first words)
    (inhabited : ∀ middle, Viable (second middle) []) : Viable (Joined first second) words := by
  obtain ⟨later, middle, derived⟩ := viable
  obtain ⟨back, value, derivedBack⟩ := inhabited middle
  refine ⟨later ++ back, value, words ++ later, back, middle, ?_, derived, derivedBack⟩
  rw [List.append_assoc]

theorem viable_joined_second {first : List String → α → Prop}
    {second : α → List String → β → Prop} {front words : List String} {middle : α}
    (derived : first front middle) (viable : Viable (second middle) words) :
    Viable (Joined first second) (front ++ words) := by
  obtain ⟨later, value, derivedBack⟩ := viable
  refine ⟨later, value, front, words ++ later, middle, ?_, derived, derivedBack⟩
  rw [List.append_assoc]

end Parts

/-! ### Readings that are put together -/

namespace Foreseen

variable {α β : Type} {bound : Nat} {again : Reader α} {derives : List String → α → Prop}
  {tokens : List Token} {result : EStateM.Result SyntaxError (List Token) α}

theorem imp {more : List String → α → Prop} (read : Foreseen bound again derives tokens result)
    (implies : ∀ {words value}, derives words value → more words value) :
    Foreseen bound again more tokens result := by
  have viable {words : List String} : Viable derives words → Viable more words := by
    rintro ⟨later, value, derived⟩
    exact ⟨later, value, implies derived⟩
  cases read with
  | value spelled derived closed steady => exact .value spelled (implies derived) closed steady
  | ended goesOn => exact .ended (viable goesOn)
  | wrong site unread spelled goesOn refused emptyBlock =>
      exact .wrong site unread spelled (viable goesOn) refused emptyBlock

/-- It is enough that the reader agrees with another one on tokens that start with the same word. -/
theorem congr {fewer : Nat} {like : Reader α} (read : Foreseen bound again derives tokens result)
    (less : fewer ≤ bound)
    (agrees : ∀ {other}, other.length < fewer → nextWord other = nextWord tokens →
      like other = again other) : Foreseen fewer like derives tokens result := by
  cases read with
  | value spelled derived closed steady =>
      refine .value spelled derived closed ?_
      intro other left few ofWords same
      rw [agrees few (nextWord_of_spells spelled ofWords same)]
      exact steady (Nat.lt_of_lt_of_le few less) ofWords same
  | ended goesOn => exact .ended goesOn
  | wrong site unread spelled goesOn refused emptyBlock =>
      refine .wrong site unread spelled goesOn ?_ emptyBlock
      intro other left few ofWords
      rw [agrees few (nextWord_of_refused spelled ofWords)]
      exact refused (Nat.lt_of_lt_of_le few less) ofWords

theorem mono {fewer : Nat} (read : Foreseen bound again derives tokens result)
    (less : fewer ≤ bound) : Foreseen fewer again derives tokens result :=
  read.congr less fun _ _ => rfl

/-- No tokens are fewer than none. -/
theorem of_zero {any : Reader α} (read : Foreseen bound again derives tokens result) :
    Foreseen 0 any derives tokens result :=
  read.congr (Nat.zero_le bound) fun few _ => absurd few (Nat.not_lt_zero _)

/-- A bound of zero asks for nothing, so it is enough to look at limits above zero. -/
theorem of_succ {within : Nat → Reader α}
    (step : ∀ bound, Foreseen (bound + 1) (within (bound + 1)) derives tokens result) :
    Foreseen bound (within bound) derives tokens result := by
  cases bound with
  | zero => exact (step 0).of_zero
  | succ bound => exact step bound

theorem pure (made : α) : Foreseen bound (pure made) (Done made) tokens (.ok made tokens) := by
  refine .value (spells_nil_iff.mpr rfl) ⟨rfl, rfl⟩ (by simp) ?_
  intro other left _ ofWords _
  rw [spells_nil_iff.mp ofWords]
  rfl

/-- A token that opens the construct, and then the rest of the construct. -/
theorem cons {fewer : Nat} {token : Token} {later : List Token} {next : Reader α}
    (read : Foreseen fewer next derives later result) (enough : bound ≤ fewer + 1)
    (opens : ∀ {other left}, other.text = token.text → again (other :: left) = next left)
    (closed : token.text = "\x7b" → ∀ value, ¬derives [] value)
    (filled : token.text = "\x7b" → nextWord later ≠ some "\x7d") :
    Foreseen bound again (Preceded token.text derives) (token :: later) result := by
  cases read with
  | @value words value rest spelled derived ended steady =>
      refine .value (spells_cons_iff.mpr ⟨token, later, rfl, rfl, spelled⟩) ⟨words, rfl, derived⟩
        ?_ ?_
      · cases words with
        | nil =>
            intro last
            exact closed (by simpa using last) value derived
        | cons word words => simpa [List.getLast?_cons_cons] using ended
      · intro other left few ofWords same
        obtain ⟨first, others, rfl, text, ofInner⟩ := spells_cons_iff.mp ofWords
        rw [opens text]
        simp only [List.length_cons] at few
        exact steady (by omega) ofInner same
  | ended viable => exact .ended (viable_preceded viable)
  | @wrong error wrongToken front wrongLater rest site unread spelled viable refused emptyBlock =>
      refine .wrong site unread (spells_cons_iff.mpr ⟨token, later, rfl, rfl, spelled⟩)
        (viable_preceded viable) ?_ ?_
      · intro other left few ofWords
        obtain ⟨first, others, rfl, text, ofInner⟩ := spells_cons_iff.mp ofWords
        rw [opens text]
        simp only [List.length_cons] at few
        exact refused (by omega) ofInner
      · cases front with
        | nil =>
            obtain rfl := spells_nil_iff.mp spelled
            rw [emptyBlock]
            constructor
            · rintro ⟨-, none⟩
              cases none
            · rintro ⟨closing, opening⟩
              refine absurd ?_ (filled (by simpa using opening))
              simp [nextWord, closing]
        | cons word front => simpa [List.getLast?_cons_cons] using emptyBlock

/-- A word that opens the construct and is no brace. -/
theorem lead {fewer : Nat} {token : Token} {later : List Token} {next : Reader α}
    (read : Foreseen fewer next derives later result) (enough : bound ≤ fewer + 1)
    (opens : ∀ {other left}, other.text = token.text → again (other :: left) = next left)
    (notBrace : token.text ≠ "\x7b") :
    Foreseen bound again (Preceded token.text derives) (token :: later) result :=
  read.cons enough opens (fun brace => absurd brace notBrace) fun brace => absurd brace notBrace

/-- A first token with which no construct starts. -/
theorem unfit {error : SyntaxError} {token : Token} {later rest : List Token}
    (site : error.site = some token) (unread : error.unread rest = token :: later)
    (notBlock : error ≠ .emptyBlock token) (inhabited : Viable derives [])
    (refused : ∀ {other left}, other.text = token.text →
      ∃ reason unread, again (other :: left) = .error reason unread) :
    Foreseen bound again derives (token :: later) (.error error rest) := by
  refine .wrong site unread (spells_nil_iff.mpr rfl) inhabited ?_ ?_
  · intro other left _ ofToken
    obtain ⟨found, rfl, text⟩ := spells_singleton_iff.mp ofToken
    exact refused text
  · constructor
    · exact fun same => absurd same notBlock
    · rintro ⟨-, none⟩
      cases none

/-- A construct that was read, and then the reading of what follows it. -/
theorem join {nextAgain : α → Reader β} {second : α → List String → β → Prop}
    {words : List String} {middle : α} {between : List Token}
    {result : EStateM.Result SyntaxError (List Token) β}
    (spelled : Spells tokens words between) (derived : derives words middle)
    (closed : words.getLast? ≠ some "\x7b")
    (steady : ∀ {other left}, other.length < bound → Spells other words left →
      nextWord left = nextWord between → again other = .ok middle left)
    (readOn : Foreseen (bound - words.length) (nextAgain middle) (second middle) between result) :
    Foreseen bound (again >>= nextAgain) (Joined derives second) tokens result := by
  cases readOn with
  | @value back value rest spelledBack derivedBack closedBack steadyBack =>
      refine .value (spells_append_iff.mpr ⟨between, spelled, spelledBack⟩)
        ⟨words, back, middle, rfl, derived, derivedBack⟩ ?_ ?_
      · cases back with
        | nil => simpa using closed
        | cons word back => simpa using closedBack
      · intro other left few ofWords same
        obtain ⟨ahead, ofFront, ofBack⟩ := spells_append_iff.mp ofWords
        have aheadFew : ahead.length < bound - words.length := by
          have total := ofFront.length_eq
          omega
        rw [bind_of_ok (steady few ofFront (nextWord_of_spells spelledBack ofBack same))]
        exact steadyBack aheadFew ofBack same
  | ended viable =>
      refine .ended ?_
      rw [spelled.map_text]
      exact viable_joined_second derived viable
  | @wrong error token front later rest site unread spelledFront viable refused emptyBlock =>
      refine .wrong site unread (spells_append_iff.mpr ⟨between, spelled, spelledFront⟩)
        (viable_joined_second derived viable) ?_ ?_
      · intro other left few ofWords
        rw [List.append_assoc] at ofWords
        obtain ⟨ahead, ofFront, ofBack⟩ := spells_append_iff.mp ofWords
        have aheadFew : ahead.length < bound - words.length := by
          have total := ofFront.length_eq
          omega
        rw [bind_of_ok (steady few ofFront (nextWord_of_refused spelledFront ofBack))]
        exact refused aheadFew ofBack
      · cases front with
        | nil =>
            rw [emptyBlock, List.append_nil]
            constructor
            · rintro ⟨-, none⟩
              cases none
            · rintro ⟨-, opening⟩
              exact absurd opening closed
        | cons word front => simpa using emptyBlock

/-- One reading after the other. The second may depend on what the first has given. -/
theorem bind {next nextAgain : α → Reader β} {first : Reader α}
    {second : α → List String → β → Prop}
    (read : Foreseen bound again derives tokens (first tokens))
    (inhabited : ∀ middle, Viable (second middle) [])
    (onward : ∀ {words middle rest}, Spells tokens words rest → derives words middle →
      Foreseen (bound - words.length) (nextAgain middle) (second middle) rest
        (next middle rest)) :
    Foreseen bound (again >>= nextAgain) (Joined derives second) tokens
      ((first >>= next) tokens) := by
  rw [bind_apply]
  cases found : first tokens with
  | ok middle between =>
      rw [found] at read
      cases read with
      | value spelled derived closed steady =>
          exact join spelled derived closed steady (onward spelled derived)
  | error error rest =>
      rw [found] at read
      cases read with
      | ended viable => exact .ended (viable_joined_first viable inhabited)
      | wrong site unread spelled viable refused emptyBlock =>
          refine .wrong site unread spelled (viable_joined_first viable inhabited) ?_ emptyBlock
          intro other left few ofWords
          obtain ⟨reason, rest, fails⟩ := refused few ofWords
          exact ⟨reason, rest, bind_of_error fails⟩

/-- A reading whose tree becomes part of another one. -/
theorem map {reader : Reader α} (read : Foreseen bound again derives tokens (reader tokens))
    (make : α → β) :
    Foreseen bound (do return make (← again)) (Made make derives) tokens
      ((do return make (← reader)) tokens) := by
  refine (read.bind (fun part => viable_done (make part)) fun _ _ => .pure _).imp ?_
  rintro _ _ ⟨front, _, part, rfl, derived, rfl, rfl⟩
  exact ⟨part, by rwa [List.append_nil], rfl⟩

end Foreseen

/-! ### Shared readers -/

namespace Foreseen

variable {α : Type} {bound : Nat} {item again : Reader α} {derives : List String → α → Prop}
  {tokens : List Token}

/-- A word that has to stand here and is no opening brace, and then the rest. -/
theorem expect {word : String} (notBrace : word ≠ "\x7b") (inhabited : Viable derives [])
    (onward : ∀ later, later.length < tokens.length →
      Foreseen (bound - 1) again derives later (item later)) :
    Foreseen bound (do let _ ← Reader.expect word; again) (Preceded word derives) tokens
      ((do let _ ← Reader.expect word; item) tokens) := by
  cases tokens with
  | nil => exact .ended (viable_preceded_nil inhabited)
  | cons token later =>
      by_cases same : token.text = word
      · subst same
        have opens {reader : Reader α} {other : Token} {left : List Token}
            (text : other.text = token.text) :
            (do let _ ← Reader.expect token.text; reader) (other :: left) = reader left :=
          bind_of_ok (expect_eq_ok_iff.mpr ⟨rfl, text⟩)
        rw [opens rfl]
        exact (onward later (Nat.lt_succ_self _)).lead (by omega) opens notBrace
      · rw [bind_of_error (expect_of_ne same later)]
        refine .unfit rfl rfl nofun (viable_preceded_nil inhabited) ?_
        intro other left text
        exact ⟨_, _, bind_of_error (expect_of_ne (text ▸ same) left)⟩

/-- A word that has to stand here, after which a tree is complete. -/
theorem expectLast {word : String} (notBrace : word ≠ "\x7b") (made : α) :
    Foreseen bound (do let _ ← Reader.expect word; return made) (Preceded word (Done made)) tokens
      ((do let _ ← Reader.expect word; return made) tokens) :=
  .expect notBrace (viable_done made) fun _ _ => .pure made

theorem parenthesized (inhabited : Viable derives [])
    (read : ∀ later, later.length < tokens.length →
      Foreseen bound again derives later (item later)) :
    Foreseen bound (Reader.parenthesized again)
      (fun words value => ∃ inner, words = parens inner ∧ derives inner value) tokens
      (Reader.parenthesized item tokens) := by
  have closing (value : α) : Viable (Preceded ")" (Done value)) [] :=
    viable_preceded_nil (viable_done value)
  refine (expect (by decide) (viable_joined_first inhabited closing) fun later shorter =>
    ((read later shorter).mono (Nat.sub_le bound 1)).bind closing fun _ _ =>
      expectLast (by decide) _).imp ?_
  rintro _ value ⟨_, rfl, inner, _, _, rfl, derived, _, rfl, rfl, rfl⟩
  exact ⟨inner, rfl, derived⟩

theorem pair (inhabited : Viable derives [])
    (read : ∀ later, later.length < tokens.length →
      Foreseen bound again derives later (item later)) :
    Foreseen bound (Reader.pair again)
      (fun words value => ∃ first second, words = pairOf first second ∧ derives first value.1 ∧
        derives second value.2) tokens
      (Reader.pair item tokens) := by
  have closing (value : α × α) : Viable (Preceded ")" (Done value)) [] :=
    viable_preceded_nil (viable_done value)
  have second (left : α) : Viable (Preceded ","
      (Joined derives fun right => Preceded ")" (Done (left, right)))) [] :=
    viable_preceded_nil (viable_joined_first inhabited fun right => closing (left, right))
  refine (expect (by decide) (viable_joined_first inhabited second) fun later shorter =>
    ((read later shorter).mono (Nat.sub_le bound 1)).bind second fun spelled _ =>
      expect (by decide) (viable_joined_first inhabited fun right => closing _)
        fun last evenShorter => ((read last ?_).mono ?_).bind (fun right => closing _) fun _ _ =>
          expectLast (by decide) _).imp ?_
  · have total := spelled.length_eq
    omega
  · omega
  · rintro _ value ⟨_, rfl, first, _, left, rfl, ofLeft, _, rfl, second, _, right, rfl, ofRight, _,
      rfl, rfl, rfl⟩
    exact ⟨first, second, by simp [pairOf, parens], ofLeft, ofRight⟩

theorem operands {β : Type} (make : α → α → β) (inhabited : Viable derives [])
    (read : ∀ later, later.length < tokens.length →
      Foreseen bound again derives later (item later)) :
    Foreseen bound
      (do
        let (left, right) ← Reader.pair again
        return make left right)
      (OperandsDerive make derives) tokens
      ((do
        let (left, right) ← Reader.pair item
        return make left right) tokens) := by
  refine ((pair inhabited read).map fun parts => make parts.1 parts.2).imp ?_
  rintro words value ⟨⟨left, right⟩, ⟨first, second, rfl, ofLeft, ofRight⟩, rfl⟩
  exact ⟨first, second, left, right, rfl, rfl, ofLeft, ofRight⟩

end Foreseen

end FuelDuel.Language
