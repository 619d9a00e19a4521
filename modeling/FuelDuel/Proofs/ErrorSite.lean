import FuelDuel.Proofs.Acceptance
import FuelDuel.Proofs.Spelling
import FuelDuel.Proofs.Tiling
import FuelDuel.Proofs.ViableStatements

/-!
Where syntax errors are. Reading a text is foreseen (`Program.readWithin_foreseen`), which is about
words; here it is told about texts. Every word that derives is one token, so what can be continued
as words can be continued as a text (`exists_text_of_viable`), and the offset of a token is where it
starts in its source (`Token.startsAt_atOffset`). So a syntax error is at the first token that no
text with the same beginning could have, or at the end of a text that could go on
(`errors_name_first_wrong_token`).
-/

namespace FuelDuel.Language

open FuelDuel.Text

/-! ### Words that can be scanned -/

/-- The words of a text. -/
def textWords (source : String) : List String := (Token.scan source).map Token.text

/-- Every one of the words is one token: a plain word or a punctuation character. -/
def Scannable (words : List String) : Prop :=
  ∀ word ∈ words, Plain word ∨ ∃ c, isPunct c = true ∧ word = String.ofList [c]

theorem scannable_nil : Scannable [] := fun _ member => nomatch member

theorem scannable_append {first second : List String} (ofFirst : Scannable first)
    (ofSecond : Scannable second) : Scannable (first ++ second) :=
  List.forall_mem_append.mpr ⟨ofFirst, ofSecond⟩

theorem Plain.scannable_cons {word : String} {words : List String} (plain : Plain word)
    (others : Scannable words) : Scannable (word :: words) :=
  List.forall_mem_cons.mpr ⟨.inl plain, others⟩

theorem scannable_punct {c : Char} {words : List String} (mark : isPunct c = true)
    (others : Scannable words) : Scannable (String.ofList [c] :: words) :=
  List.forall_mem_cons.mpr ⟨.inr ⟨c, mark, rfl⟩, others⟩

theorem Scannable.parens {words : List String} (inner : Scannable words) :
    Scannable (parens words) :=
  @scannable_punct '(' _ rfl (scannable_append inner (@scannable_punct ')' _ rfl scannable_nil))

theorem Scannable.braces {words : List String} (inner : Scannable words) :
    Scannable (braces words) :=
  @scannable_punct '\x7b' _ rfl
    (scannable_append inner (@scannable_punct '\x7d' _ rfl scannable_nil))

theorem scannable_pairOf {first second : List String} (ofFirst : Scannable first)
    (ofSecond : Scannable second) : Scannable (pairOf first second) :=
  (scannable_append ofFirst (@scannable_punct ',' _ rfl ofSecond)).parens

theorem Expr.Derives.scannable {words : List String} {expr : Expr}
    (derived : Expr.Derives words expr) : Scannable words := by
  induction derived with
  | num numeral => exact (plain_numeral numeral).scannable_cons scannable_nil
  | var writable => exact (plain_variable writable).scannable_cons scannable_nil
  | @binary op _ _ _ _ _ _ left right =>
      exact op.plain_keyword.scannable_cons (scannable_pairOf left right)
  | @sensor gauge => exact gauge.plain_keyword.scannable_cons scannable_nil
  | @barrelAt axis _ _ _ inner =>
      exact (Sensor.barrel axis).plain_keyword.scannable_cons inner.parens

theorem Cond.Derives.scannable {words : List String} {cond : Cond}
    (derived : Cond.Derives words cond) : Scannable words := by
  induction derived with
  | @compare op _ _ _ _ ofLeft ofRight =>
      exact op.plain_keyword.scannable_cons (scannable_pairOf ofLeft.scannable ofRight.scannable)
  | @connect op _ _ _ _ _ _ left right =>
      exact op.plain_keyword.scannable_cons (scannable_pairOf left right)
  | not _ inner => exact Plain.scannable_cons (by decide) inner.parens

theorem ArgumentDerives.scannable {words : List String} {count : Option Expr}
    (derived : ArgumentDerives words count) : Scannable words := by
  cases derived with
  | absent => exact scannable_nil
  | present ofCount => exact ofCount.scannable.parens

theorem ActionDerives.scannable {words : List String} {stmt : Stmt}
    (derived : ActionDerives words stmt) : Scannable words := by
  cases derived with
  | @turn way =>
      have plain : Plain way.keyword := by cases way <;> decide
      exact plain.scannable_cons scannable_nil
  | takeFuel | shieldOn | shieldOff => exact Plain.scannable_cons (by decide) scannable_nil
  | move ofCount | wait ofCount => exact Plain.scannable_cons (by decide) ofCount.scannable
  | assign writable ofValue =>
      exact (plain_variable writable).scannable_cons
        (Plain.scannable_cons (by decide) ofValue.scannable)

/-- Every word of a program is one token. -/
theorem Derives.scannable {words : List String} {phrase : Phrase}
    (derived : Derives words phrase) : Scannable words := by
  induction derived with
  | action ofAction =>
      exact scannable_append ofAction.scannable (@scannable_punct ';' _ rfl scannable_nil)
  | nested _ body => exact body
  | loop _ body => exact Plain.scannable_cons (by decide) body
  | whileLoop ofCond _ body =>
      exact Plain.scannable_cons (by decide) (scannable_append ofCond.scannable.parens body)
  | conditional ofCond _ _ body tail | elifBranch ofCond _ _ body tail =>
      exact Plain.scannable_cons (by decide)
        (scannable_append ofCond.scannable.parens (scannable_append body tail))
  | noTail | done => exact scannable_nil
  | elseBlock _ body => exact Plain.scannable_cons (by decide) body
  | block _ inside => exact inside.braces
  | next _ _ first later => exact scannable_append first later

/-- Words that can be scanned are the words of a text: one with a space after each. -/
theorem Scannable.exists_text {words : List String} (scannable : Scannable words) :
    ∃ text, textWords text = words := by
  have written : ∃ chars, Writes chars words := by
    induction words with
    | nil => exact ⟨[], .done⟩
    | cons word words ih =>
        obtain ⟨first, others⟩ := List.forall_mem_cons.mp scannable
        obtain ⟨chars, later⟩ := ih others
        have spaced : Writes (' ' :: chars) words := .blank (by decide) later
        rcases first with plain | ⟨c, mark, rfl⟩
        · exact ⟨word.toList ++ ' ' :: chars, .word plain spaced (.inl (by decide))⟩
        · exact ⟨c :: ' ' :: chars, .punct mark spaced⟩
  obtain ⟨chars, written⟩ := written
  refine ⟨String.ofList chars, Token.scan_of_writes ?_⟩
  rwa [String.toList_ofList]

/-! ### Where tokens are -/

theorem takeBytes_byteLength (front back : List Char) :
    takeBytes (byteLength front) (front ++ back) = front := by
  induction front with
  | nil =>
      cases back with
      | nil => rfl
      | cons c back =>
          have positive := c.utf8Size_pos
          simp [takeBytes, byteLength, Nat.not_le.mpr positive]
  | cons c front ih => simp [takeBytes, byteLength, ih]

namespace Token

/-- The location is where the token starts in the source: in front of it are as many bytes as the
token's offset says, and just the words of the tokens before it. -/
def StartsAt (source : String) (before : List Token) (token : Token) (loc : Location) : Prop :=
  ∃ front back, source.toList = front ++ (token.text.toList ++ back) ∧
    byteLength front = token.offset ∧
    textWords (String.ofList front) = before.map Token.text ∧
    loc = Location.after front

/-- The offset of a token of a text is that of the location where it starts. -/
theorem startsAt_atOffset {source : String} {before later : List Token} {token : Token}
    (cut : scan source = before ++ token :: later) :
    token.StartsAt source before (Location.atOffset source token.offset) := by
  obtain ⟨front, back, whole, place, tiled, -⟩ := (scan_tiling source).at_token cut
  rw [Nat.zero_add] at place
  refine ⟨front, back, whole, place.symm, ?_, ?_⟩
  · refine scan_of_writes ?_
    rw [String.toList_ofList]
    exact tiled.writes
  · rw [Location.atOffset, place, whole, takeBytes_byteLength]

end Token

/-! ### Errors -/

/-- Words that can be continued can be continued as a text. -/
theorem exists_text_of_viable {words : List String} (viable : Viable Program.Derives words) :
    ∃ text program later, Program.parse text = .ok program ∧ textWords text = words ++ later := by
  obtain ⟨later, program, derived⟩ := viable
  obtain ⟨text, written⟩ := derived.scannable.exists_text
  rw [← written] at derived
  exact ⟨text, program, later, Program.parse_eq_ok_iff.mpr derived, written⟩

/-- How a message quotes the text of a token. -/
def Quotes (message text : String) : Prop :=
  message = "Invalid number format: " ++ text ∨
    ∃ expected, message = "Unexpected token [" ++ text ++ ("] Expected " ++ expected)

/-- Every error at a token quotes it, but for an empty block. -/
theorem SyntaxError.message_quotes {error : SyntaxError} {token : Token}
    (site : error.site = some token) (notBlock : error ≠ .emptyBlock token) :
    Quotes error.message token.text := by
  cases error with
  | unexpectedToken found expected =>
      cases site
      change _ ∨ ∃ ending,
        "Unexpected token [" ++ token.text ++ ("] Expected " ++ "[") ++ expected ++ "]" = _
      simp only [String.append_assoc]
      exact .inr ⟨_, rfl⟩
  | unrecognized found construct =>
      cases site
      change _ ∨ ∃ ending, "Unexpected token [" ++ token.text ++ "] Expected " ++
        construct.name ++ ", one of [" ++ commaList construct.starts ++ "]" = _
      simp only [String.append_assoc]
      exact .inr ⟨_, rfl⟩
  | unexpectedEnd expected => cases site
  | emptyBlock brace =>
      cases site
      exact absurd rfl notBlock
  | invalidNumber literal =>
      cases site
      exact .inl rfl

theorem spells_of_map_text {tokens : List Token} {words more : List String}
    (texts : tokens.map Token.text = words ++ more) : ∃ left, Spells tokens words left := by
  obtain ⟨front, left, rfl, ofFront, -⟩ := List.map_eq_append_iff.mp texts
  exact ⟨left, front, rfl, ofFront⟩

section Parse

variable {source : String} {error : SyntaxError} (failed : Program.parse source = .error error)

include failed

theorem foreseen_of_failed : ∃ rest, ∀ bound,
    Foreseen bound (Program.readWithin bound) Program.Derives (Token.scan source)
      (.error error rest) := by
  rw [Program.parse, Reader.result] at failed
  cases read : Program.read (Token.scan source) with
  | ok program rest =>
      rw [read] at failed
      cases failed
  | error reason rest =>
      rw [read] at failed
      cases failed
      refine ⟨rest, fun bound => ?_⟩
      rw [← read, Program.read_eq_readWithin]
      exact Program.readWithin_foreseen (Nat.lt_succ_self _)

/-- A text that ends too early can go on. -/
theorem viable_of_ended (ended : error.site = none) :
    Viable Program.Derives (textWords source) := by
  obtain ⟨rest, foreseen⟩ := foreseen_of_failed failed
  cases foreseen 0 with
  | ended viable => exact viable
  | wrong site => cases ended.symm.trans site

/-- A token that is wrong is so in all texts that start with the same words. -/
theorem refused_of_wrong {token : Token} (site : error.site = some token) :
    ∃ before later, Token.scan source = before ++ token :: later ∧
      Viable Program.Derives (before.map Token.text) ∧
      (∀ other more, other.map Token.text = before.map Token.text ++ token.text :: more →
        ∃ reason rest, Program.read other = .error reason rest) ∧
      (error = .emptyBlock token ↔
        token.text = "\x7d" ∧ (before.map Token.text).getLast? = some "\x7b") := by
  obtain ⟨rest, foreseen⟩ := foreseen_of_failed failed
  cases foreseen 0 with
  | ended => cases site
  | @wrong _ found _ later _ siteFound unread spelled viable _ emptyBlock =>
      cases siteFound.symm.trans site
      obtain ⟨before, split, rfl⟩ := spelled
      refine ⟨before, later, split, viable, ?_, emptyBlock⟩
      intro other more words
      obtain ⟨left, ofWords⟩ := spells_of_map_text (words.trans (List.append_cons _ _ _))
      -- The site is the same for every bound, since the tokens that are left after it are.
      cases foreseen (other.length + 1) with
      | ended => cases site
      | @wrong _ again front laterAgain _ siteAgain unreadAgain spelledAgain _ refused _ =>
          cases siteAgain.symm.trans site
          cases unread.symm.trans unreadAgain
          have same := spelledAgain.words_unique ⟨before, split, rfl⟩
          rw [← same] at ofWords
          exact refused (Nat.lt_succ_self _) ofWords

end Parse

/-- A syntax error at a token of a source, given the tokens before it. -/
structure FirstWrong (source : String) (error : SyntaxError) (before : List Token)
    (token : Token) : Prop where
  site : error.site = some token
  /-- The error is located where the token starts. -/
  located : token.StartsAt source before (error.location source)
  quoted : error ≠ .emptyBlock token → Quotes error.message token.text
  /-- Some program starts with the words before the token. -/
  goesOn : ∃ text program later, Program.parse text = .ok program ∧
    textWords text = before.map Token.text ++ later
  /-- No program starts with these words and then the token. -/
  refused : ∀ text program later,
    textWords text = before.map Token.text ++ token.text :: later →
      Program.parse text ≠ .ok program
  emptyBlock : error = .emptyBlock token ↔
    token.text = "\x7d" ∧ (before.map Token.text).getLast? = some "\x7b"

/-- A syntax error is at the first wrong token. An unexpected end is at the end of a text that could
go on. Every other error is at the start of a token up to which the text could go on, but not with
this token; it quotes the token, or the token closes an empty block. -/
theorem errors_name_first_wrong_token {source : String} {error : SyntaxError}
    (failed : Program.parse source = .error error) :
    (∀ expected, error = .unexpectedEnd expected →
      error.location source = Location.after source.toList ∧
      ∃ text program later, Program.parse text = .ok program ∧ later ≠ [] ∧
        textWords text = textWords source ++ later) ∧
    ((∀ expected, error ≠ .unexpectedEnd expected) →
      ∃ before token later, Token.scan source = before ++ token :: later ∧
        FirstWrong source error before token) := by
  constructor
  · rintro expected rfl
    obtain ⟨text, program, later, parsed, words⟩ :=
      exists_text_of_viable (viable_of_ended failed rfl)
    refine ⟨rfl, text, program, later, parsed, ?_, words⟩
    rintro rfl
    rw [List.append_nil] at words
    have derived : Program.Derives (textWords text) program := Program.parse_eq_ok_iff.mp parsed
    rw [words] at derived
    have parsedToo := Program.parse_eq_ok_iff.mpr derived
    cases failed.symm.trans parsedToo
  · intro notEnd
    have atToken : ∃ token, error.site = some token := by
      cases error with
      | unexpectedEnd expected => exact absurd rfl (notEnd expected)
      | unexpectedToken found | unrecognized found | emptyBlock found | invalidNumber found =>
          exact ⟨found, rfl⟩
    obtain ⟨token, site⟩ := atToken
    obtain ⟨before, later, split, viable, refused, emptyBlock⟩ := refused_of_wrong failed site
    refine ⟨before, token, later, split, site, ?_, SyntaxError.message_quotes site,
      exists_text_of_viable viable, ?_, emptyBlock⟩
    · rw [SyntaxError.location, site]
      exact Token.startsAt_atOffset split
    · intro text program more words parsed
      obtain ⟨reason, rest, fails⟩ := refused _ _ words
      rw [Program.parse, Reader.result, fails] at parsed
      cases parsed

/-- The last `move` of three is the wrong one: a semicolon is missing before it. -/
def unseparatedMoves : String := "move; move move;"

theorem errors_name_first_wrong_token_of_unseparatedMoves :
    Program.parse unseparatedMoves = .error (.unexpectedToken ⟨"move", 11⟩ ";") ∧
      SyntaxError.location (.unexpectedToken ⟨"move", 11⟩ ";") unseparatedMoves = ⟨1, 12⟩ ∧
      ∃ before token later, Token.scan unseparatedMoves = before ++ token :: later ∧
        FirstWrong unseparatedMoves (.unexpectedToken ⟨"move", 11⟩ ";") before token := by
  have scanned : Token.scan unseparatedMoves =
      [⟨"move", 0⟩, ⟨";", 4⟩, ⟨"move", 6⟩, ⟨"move", 11⟩, ⟨";", 15⟩] := by decide +kernel
  have failed : Program.parse unseparatedMoves =
      .error (.unexpectedToken ⟨"move", 11⟩ ";") := by
    rw [Program.parse, scanned]
    rfl
  have notEnd (expected : String) :
      SyntaxError.unexpectedToken ⟨"move", 11⟩ ";" ≠ .unexpectedEnd expected := by
    intro same
    cases same
  exact ⟨failed, by decide, (errors_name_first_wrong_token failed).2 notEnd⟩

end FuelDuel.Language
