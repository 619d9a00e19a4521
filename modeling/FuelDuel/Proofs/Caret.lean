import FuelDuel.Proofs.ErrorSite
import FuelDuel.Proofs.Expectations
import FuelDuel.Proofs.SourceLines
import FuelDuel.Proofs.Spelling

/-!
What the report of a syntax error shows. If the error is at a token, the report has three lines:
what is wrong, the line of the source that holds the token, and a caret. Both of the last two start
after a gutter, so the caret stands under a character of the quoted line, and this is the first
character of the token (`caret_points_at_offending_token`).
-/

namespace FuelDuel.Language

open FuelDuel.Text

/-- The text in a source that an error is about: what its message quotes, or the brace that closes
an empty block. Where the input ends too early there is no such text. -/
def SyntaxError.offending : SyntaxError → Option String
  | unexpectedToken found _ => some found.text
  | unrecognized found _ => some found.text
  | unexpectedEnd _ => none
  | emptyBlock _ => some "\x7d"
  | invalidNumber literal => some literal.text

/-! ### Texts of one line -/

/-- There is no line feed in the text. -/
def OneLine (text : String) : Prop := '\n' ∉ text.toList

instance (text : String) : Decidable (OneLine text) := inferInstanceAs (Decidable (_ ∉ _))

theorem OneLine.append {first second : String} (ofFirst : OneLine first)
    (ofSecond : OneLine second) : OneLine (first ++ second) := by
  simp only [OneLine, String.toList_append, List.mem_append, not_or]
  exact ⟨ofFirst, ofSecond⟩

theorem oneLine_spaces (n : Nat) : OneLine (spaces n) := by
  simp [OneLine, spaces]

theorem oneLine_of_unblank {text : String} (unblank : ∀ c ∈ text.toList, isBlank c = false) :
    OneLine text := by
  intro member
  cases unblank _ member

theorem oneLine_ofNat (n : Nat) : OneLine (ofNat n) :=
  oneLine_of_unblank fun c member => ((plain_numeral (isNumeral_ofInt n)).2 c member).1

theorem oneLine_location (loc : Location) : OneLine loc.text :=
  ((oneLine_ofNat _).append (by decide)).append (oneLine_ofNat _)

theorem oneLine_commaList {items : List String} (each : ∀ item ∈ items, OneLine item) :
    OneLine (commaList items) := by
  have comma : OneLine ", " := by decide
  rw [commaList]
  induction items with
  | nil => exact List.not_mem_nil
  | cons item items ih =>
      obtain ⟨first, others⟩ := List.forall_mem_cons.mp each
      cases items with
      | nil => exact first
      | cons second items => exact (first.append comma).append (ih others)

theorem Token.unblank {source : String} {token : Token} (member : token ∈ scan source) :
    ∀ c ∈ token.text.toList, isBlank c = false := by
  rcases (scan_tiling source).cases_text member with ⟨mark, isMark, spelled⟩ | plain
  · simpa [spelled] using isBlank_of_isPunct isMark
  · exact fun c inside => (plain.2 c inside).1

/-! ### The parts of a report -/

section Failed

variable {source word : String} {error : SyntaxError}
  (failed : Program.parse source = .error error) (offends : error.offending = some word)
include failed offends

/-- An error is at the token that it is about. -/
theorem exists_site_of_offending :
    ∃ token ∈ Token.scan source, error.site = some token ∧ token.text = word := by
  have atToken : ∃ token, error.site = some token := by
    cases error with
    | unexpectedEnd expected => cases offends
    | unexpectedToken found | unrecognized found | emptyBlock found | invalidNumber found =>
        exact ⟨found, rfl⟩
  obtain ⟨token, site⟩ := atToken
  obtain ⟨before, later, split, -, -, emptyBlock⟩ := refused_of_wrong failed site
  refine ⟨token, by simp [split], site, ?_⟩
  cases error with
  | unexpectedEnd expected => cases offends
  | emptyBlock found =>
      cases site
      cases offends
      exact (emptyBlock.mp rfl).1
  | unexpectedToken found | unrecognized found | invalidNumber found =>
      cases site
      exact Option.some.inj offends

/-- No message breaks a line: what it says to be needed is a mark or one of a few words. -/
theorem oneLine_message (ofWord : OneLine word) : OneLine error.message := by
  cases error with
  | unexpectedToken found expected =>
      cases offends
      have marksOneLine : ∀ mark ∈ marks, OneLine mark := by decide
      have needed := marksOneLine expected (Program.expected_mem_marks failed)
      have opening : OneLine "Unexpected token [" := by decide
      have middle : OneLine "] Expected [" := by decide
      exact (((opening.append ofWord).append middle).append needed).append (by decide)
  | unrecognized found construct =>
      cases offends
      have name : OneLine construct.name := by cases construct <;> decide
      have starts : OneLine (commaList construct.starts) :=
        oneLine_commaList (by cases construct <;> decide)
      have opening : OneLine "Unexpected token [" := by decide
      have middle : OneLine "] Expected " := by decide
      have oneOf : OneLine ", one of [" := by decide
      exact (((((opening.append ofWord).append middle).append name).append oneOf).append
        starts).append (by decide)
  | unexpectedEnd expected => cases offends
  | emptyBlock brace =>
      have constant : OneLine "Block needs a non empty list of statements" := by decide
      exact constant
  | invalidNumber literal =>
      cases offends
      have opening : OneLine "Invalid number format: " := by decide
      exact opening.append ofWord

end Failed

/-! ### Three lines -/

/-- The report is a heading, a line of the source after a gutter, and a caret under the character
of that line that has the location, which is the first one of the word. -/
structure PointsAt (report source heading : String) (loc : Location)
    (gutter line under word : String) : Prop where
  printed : report = heading ++ "\n" ++ (gutter ++ line) ++ "\n" ++ (under ++ "^")
  oneLine : OneLine heading ∧ OneLine (gutter ++ line) ∧ OneLine (under ++ "^")
  quoted : IsLine source.toList loc.line line.toList
  /-- The caret has as many characters before it as the character with the location. -/
  below : under.length + 1 = gutter.length + loc.column
  alone : '^' ∉ under.toList
  inside : 1 ≤ loc.column ∧ loc.column ≤ line.length
  starts : word.toList <+: line.toList.drop (loc.column - 1)

/-- What stands before the quoted line. -/
def gutterOf (loc : Location) : String := " " ++ ofNat loc.line ++ " | "

/-- What stands before the caret. -/
def underOf (loc : Location) : String :=
  " " ++ spaces (ofNat loc.line).length ++ " | " ++ spaces (loc.column - 1)

theorem SyntaxError.excerpt_eq (loc : Location) (line : String) :
    excerpt loc line = "\n" ++ (gutterOf loc ++ line) ++ "\n" ++ (underOf loc ++ "^") := by
  have feed : "\n " = "\n" ++ " " := rfl
  simp only [excerpt, gutterOf, underOf, feed, String.append_assoc]

theorem oneLine_gutterOf (loc : Location) : OneLine (gutterOf loc) := by
  have opening : OneLine " " := by decide
  exact (opening.append (oneLine_ofNat _)).append (by decide)

theorem oneLine_underOf (loc : Location) : OneLine (underOf loc) := by
  have opening : OneLine " " := by decide
  have bar : OneLine " | " := by decide
  exact ((opening.append (oneLine_spaces _)).append bar).append (oneLine_spaces _)

theorem length_underOf (loc : Location) :
    (underOf loc).length = (gutterOf loc).length + (loc.column - 1) := by
  simp only [underOf, gutterOf, spaces, String.length_append, String.length_ofList,
    List.length_replicate]

theorem caret_not_mem_underOf (loc : Location) : '^' ∉ (underOf loc).toList := by
  simp [underOf, spaces]

/-- If a text is not a program because of one of its tokens, the report quotes the line of the text
with the token, and its caret stands under the first character of the token. -/
theorem caret_points_at_offending_token {source word : String} {error : SyntaxError}
    (failed : Program.parse source = .error error) (offends : error.offending = some word) :
    ∃ gutter line under,
      PointsAt (error.report source) source
        ("Syntax error at " ++ (error.location source).text ++ ": " ++ error.message)
        (error.location source) gutter line under word := by
  obtain ⟨token, member, site, rfl⟩ := exists_site_of_offending failed offends
  obtain ⟨before, later, cut⟩ := List.append_of_mem member
  obtain ⟨front, back, whole, -, -, located⟩ := Token.startsAt_atOffset cut
  have filled : token.text.toList ≠ [] := (Token.scan_tiling source).text_ne_nil member
  have unblank := Token.unblank member
  have unbroken : ∀ c ∈ token.text.toList, c ≠ '\n' ∧ c ≠ '\r' := by
    intro c inside
    constructor <;> (rintro rfl; cases unblank _ inside)
  obtain ⟨begun, tail, place, isLine⟩ := isLine_around filled unbroken back
  have here : error.location source = Location.after front := by
    rw [SyntaxError.location, site]
    exact located
  rw [← whole, ← here] at isLine
  rw [← here] at place
  have column : (error.location source).column = begun.length + 1 := congrArg Location.column place
  have found := lines_of_isLine isLine (by simp [filled])
  have ofText := oneLine_of_unblank unblank
  have ofHeading : OneLine
      ("Syntax error at " ++ (error.location source).text ++ ": " ++ error.message) := by
    have opening : OneLine "Syntax error at " := by decide
    have colon : OneLine ": " := by decide
    exact ((opening.append (oneLine_location _)).append colon).append
      (oneLine_message failed offends ofText)
  have ofLine : OneLine (String.ofList (begun ++ (token.text.toList ++ tail))) := by
    simpa [OneLine] using isLine.noFeed
  have ofCaret : OneLine (underOf (error.location source) ++ "^") :=
    (oneLine_underOf _).append (by decide)
  refine ⟨gutterOf (error.location source), _, underOf (error.location source), {
    printed := ?_
    oneLine := ⟨ofHeading, (oneLine_gutterOf _).append ofLine, ofCaret⟩
    quoted := by simpa using isLine
    below := ?_
    alone := caret_not_mem_underOf _
    inside := ?_
    starts := ?_ }⟩
  · simp only [SyntaxError.report, found, SyntaxError.excerpt_eq, String.append_assoc]
  · rw [length_underOf, column]
    omega
  · have longer := List.length_pos_iff.mpr filled
    rw [String.length_ofList, column]
    simp only [List.length_append]
    omega
  · rw [column]
    simp

/-- Two lines that end in a carriage return and a line feed, the second of which is indented by an
ideographic space: three bytes for one character. -/
def unfinishedTurn : String := "wait;\r\n\u3000turnR move;\r\n"

theorem caret_points_at_offending_token_of_unfinishedTurn :
    Program.parse unfinishedTurn = .error (.unexpectedToken ⟨"move", 16⟩ ";") ∧
      ∃ gutter line under,
        PointsAt (SyntaxError.report (.unexpectedToken ⟨"move", 16⟩ ";") unfinishedTurn)
          unfinishedTurn "Syntax error at 2:8: Unexpected token [move] Expected [;]" ⟨2, 8⟩ gutter
          line under "move" := by
  have scanned : Token.scan unfinishedTurn =
      [⟨"wait", 0⟩, ⟨";", 4⟩, ⟨"turnR", 10⟩, ⟨"move", 16⟩, ⟨";", 20⟩] := by decide +kernel
  have failed : Program.parse unfinishedTurn = .error (.unexpectedToken ⟨"move", 16⟩ ";") := by
    rw [Program.parse, scanned]
    rfl
  have located :
      SyntaxError.location (.unexpectedToken ⟨"move", 16⟩ ";") unfinishedTurn = ⟨2, 8⟩ := by
    decide +kernel
  have heading : "Syntax error at " ++ Location.text ⟨2, 8⟩ ++ ": " ++
      SyntaxError.message (.unexpectedToken ⟨"move", 16⟩ ";") =
        "Syntax error at 2:8: Unexpected token [move] Expected [;]" := by
    decide +kernel
  have shown := caret_points_at_offending_token failed rfl
  rw [located, heading] at shown
  exact ⟨failed, shown⟩

end FuelDuel.Language
