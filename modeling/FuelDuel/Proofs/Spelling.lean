import FuelDuel.Language.Layout
import FuelDuel.Proofs.Grammar
import FuelDuel.Proofs.Numerals
import FuelDuel.Proofs.Scanning

/-!
The words of trees, and the texts that write them. The source text of a tree writes the words of
the tree (`Program.scan_source`) as long as its variable names are ones that can be written
(`Writable`): a name with a space in it, for one, would be read as two tokens.
-/

namespace FuelDuel.Language

open FuelDuel.Text

/-! ### Words and names of trees -/

/-- The words that spell an expression. -/
def Expr.words : Expr → List String
  | num value => [ofInt value.toInt]
  | var name => ["$" ++ name]
  | binary op left right => op.keyword :: pairOf left.words right.words
  | sensor gauge => [gauge.keyword]
  | barrelAt axis index => (Sensor.barrel axis).keyword :: parens index.words

/-- The words that spell a condition. -/
def Cond.words : Cond → List String
  | compare op left right => op.keyword :: pairOf left.words right.words
  | connect op left right => op.keyword :: pairOf left.words right.words
  | not inner => "not" :: parens inner.words

/-- The words that spell the count of an action. -/
def countWords : Option Expr → List String
  | none => []
  | some count => parens count.words

mutual

/-- The words that spell a statement, without an `elif`. -/
def Stmt.words : Stmt → List String
  | .turn way => [way.keyword, ";"]
  | .takeFuel => ["takeFuel", ";"]
  | .shield true => ["shieldOn", ";"]
  | .shield false => ["shieldOff", ";"]
  | .move count => "move" :: countWords count ++ [";"]
  | .wait count => "wait" :: countWords count ++ [";"]
  | .assign name value => ("$" ++ name) :: "=" :: value.words ++ [";"]
  | .loop body => "loop" :: braces body.words
  | .ifThen cond body => "if" :: (parens cond.words ++ braces body.words)
  | .ifElse cond body otherwise =>
      "if" :: (parens cond.words ++ (braces body.words ++ "else" :: braces otherwise.words))
  | .while cond body => "while" :: (parens cond.words ++ braces body.words)
  | .block body => braces body.words

/-- The words that spell the statements of a block. -/
def Block.words : Block → List String
  | .single stmt => stmt.words
  | .cons stmt rest => stmt.words ++ rest.words

end

/-- The words that spell a program. -/
def Program.words (program : Program) : List String := program.stmts.flatMap Stmt.words

/-- The variable names that occur in an expression. -/
def Expr.names : Expr → List String
  | num _ => []
  | var name => [name]
  | binary _ left right => left.names ++ right.names
  | sensor _ => []
  | barrelAt _ index => index.names

/-- The variable names that occur in a condition. -/
def Cond.names : Cond → List String
  | compare _ left right => left.names ++ right.names
  | connect _ left right => left.names ++ right.names
  | not inner => inner.names

/-- The variable names that occur in the count of an action. -/
def countNames : Option Expr → List String
  | none => []
  | some count => count.names

mutual

/-- The variable names that occur in a statement, those that it assigns to included. -/
def Stmt.names : Stmt → List String
  | .turn _ => []
  | .takeFuel => []
  | .shield _ => []
  | .move count => countNames count
  | .wait count => countNames count
  | .assign name value => name :: value.names
  | .loop body => body.names
  | .ifThen cond body => cond.names ++ body.names
  | .ifElse cond body otherwise => cond.names ++ (body.names ++ otherwise.names)
  | .while cond body => cond.names ++ body.names
  | .block body => body.names

/-- The variable names that occur in the statements of a block. -/
def Block.names : Block → List String
  | .single stmt => stmt.names
  | .cons stmt rest => stmt.names ++ rest.names

end

/-- The variable names that occur in a program. -/
def Program.names (program : Program) : List String := program.stmts.flatMap Stmt.names

/-- All the names can be written: a letter and then letters or digits, all ASCII. -/
def Writable (names : List String) : Prop := ∀ name ∈ names, isName name.toList = true

instance (names : List String) : Decidable (Writable names) := List.decidableBAll _ names

theorem writable_append_iff {first second : List String} :
    Writable (first ++ second) ↔ Writable first ∧ Writable second :=
  List.forall_mem_append

theorem writable_cons_iff {name : String} {names : List String} :
    Writable (name :: names) ↔ isName name.toList = true ∧ Writable names :=
  List.forall_mem_cons

/-! ### Words that are one token -/

theorem plain_numeral {text : String} (numeral : isNumeral text.toList = true) : Plain text := by
  constructor
  · rintro rfl
    exact absurd numeral (by decide)
  · intro c member
    rcases mem_numeral numeral c member with rfl | digit
    · decide
    · have alphanum := isAlphanum_of_isDigit digit
      exact ⟨isBlank_of_isAlphanum alphanum, isPunct_of_isAlphanum alphanum⟩

theorem plain_variable {name : String} (writable : isName name.toList = true) :
    Plain ("$" ++ name) := by
  constructor
  · exact dollar_ne (by decide)
  · intro c member
    have inside : c = '$' ∨ c ∈ name.toList := by simpa using member
    rcases inside with rfl | inside
    · decide
    · have alphanum := mem_name writable c inside
      exact ⟨isBlank_of_isAlphanum alphanum, isPunct_of_isAlphanum alphanum⟩

/-! ### Expressions and conditions -/

/-- Wherever the text stands before the end of a word, it writes the given words there. -/
def TextWrites (text : String) (spelled : List String) : Prop :=
  ∀ chars words, Writes chars words → Delimited chars →
    Writes (text.toList ++ chars) (spelled ++ words)

theorem textWrites_plain {word : String} (plain : Plain word) : TextWrites word [word] :=
  fun _ _ later apart => .word plain later apart

theorem textWrites_call {word argument : String} {spelled : List String} (plain : Plain word)
    (written : TextWrites argument spelled) :
    TextWrites (call word [argument]) (word :: parens spelled) := by
  intro chars words later apart
  have laidOut : (call word [argument]).toList ++ chars =
      word.toList ++ '(' :: (argument.toList ++ ')' :: chars) := by
    simp [call, commaList, joinWith]
  have listed : word :: parens spelled ++ words = word :: "(" :: (spelled ++ ")" :: words) := by
    simp [parens]
  rw [laidOut, listed]
  have closed : Writes (argument.toList ++ ')' :: chars) (spelled ++ ")" :: words) :=
    written _ _ (.punct rfl later) (.inr rfl)
  exact .word plain (.punct rfl closed) (.inr rfl)

theorem textWrites_callPair {word left right : String} {first second : List String}
    (plain : Plain word) (ofLeft : TextWrites left first) (ofRight : TextWrites right second) :
    TextWrites (call word [left, right]) (word :: pairOf first second) := by
  intro chars words later apart
  have laidOut : (call word [left, right]).toList ++ chars =
      word.toList ++ '(' :: (left.toList ++ ',' :: ' ' :: (right.toList ++ ')' :: chars)) := by
    simp [call, commaList, joinWith]
  have listed : word :: pairOf first second ++ words =
      word :: "(" :: (first ++ "," :: (second ++ ")" :: words)) := by
    simp [pairOf, parens]
  rw [laidOut, listed]
  have closed : Writes (right.toList ++ ')' :: chars) (second ++ ")" :: words) :=
    ofRight _ _ (.punct rfl later) (.inr rfl)
  have parted : Writes (left.toList ++ ',' :: ' ' :: (right.toList ++ ')' :: chars))
      (first ++ "," :: (second ++ ")" :: words)) :=
    ofLeft _ _ (.punct rfl (.blank rfl closed)) (.inr rfl)
  exact .word plain (.punct rfl parted) (.inr rfl)

theorem BinaryOp.plain_keyword (op : BinaryOp) : Plain op.keyword := by
  cases op <;> decide

theorem CompareOp.plain_keyword (op : CompareOp) : Plain op.keyword := by
  cases op <;> decide

theorem Connective.plain_keyword (op : Connective) : Plain op.keyword := by
  cases op <;> decide

theorem Sensor.plain_keyword (gauge : Sensor) : Plain gauge.keyword := by
  rcases gauge with _ | ⟨_ | _⟩ | _ | ⟨_ | _⟩ | _ <;> decide

theorem Expr.textWrites {expr : Expr} (writable : Writable expr.names) :
    TextWrites expr.source expr.words := by
  induction expr with
  | num value => exact textWrites_plain (plain_numeral (isNumeral_ofInt value.toInt))
  | var name => exact textWrites_plain (plain_variable (writable name List.mem_cons_self))
  | binary op left right ihLeft ihRight =>
      obtain ⟨ofLeft, ofRight⟩ := writable_append_iff.mp writable
      exact textWrites_callPair op.plain_keyword (ihLeft ofLeft) (ihRight ofRight)
  | sensor gauge => exact textWrites_plain gauge.plain_keyword
  | barrelAt axis index ih => exact textWrites_call (Sensor.barrel axis).plain_keyword (ih writable)

theorem Cond.textWrites {cond : Cond} (writable : Writable cond.names) :
    TextWrites cond.source cond.words := by
  induction cond with
  | compare op left right =>
      obtain ⟨ofLeft, ofRight⟩ := writable_append_iff.mp writable
      exact textWrites_callPair op.plain_keyword (Expr.textWrites ofLeft) (Expr.textWrites ofRight)
  | connect op left right ihLeft ihRight =>
      obtain ⟨ofLeft, ofRight⟩ := writable_append_iff.mp writable
      exact textWrites_callPair op.plain_keyword (ihLeft ofLeft) (ihRight ofRight)
  | not inner ih => exact textWrites_call (by decide) (ih writable)

theorem countedSource_textWrites {word : String} {count : Option Expr} (plain : Plain word)
    (writable : Writable (countNames count)) :
    TextWrites (countedSource word count) (word :: countWords count) := by
  cases count with
  | none => exact textWrites_plain plain
  | some count => exact textWrites_call plain (Expr.textWrites writable)

/-! ### Statements -/

/-- The text writes the given words wherever it stands. -/
def LinesWrite (text : String) (spelled : List String) : Prop :=
  ∀ chars words, Writes chars words → Writes (text.toList ++ chars) (spelled ++ words)

theorem linesWrite_append {first second : String} {ofFirst ofSecond : List String}
    (writtenFirst : LinesWrite first ofFirst) (writtenSecond : LinesWrite second ofSecond) :
    LinesWrite (first ++ second) (ofFirst ++ ofSecond) := by
  intro chars words later
  rw [String.toList_append, List.append_assoc, List.append_assoc]
  exact writtenFirst _ _ (writtenSecond _ _ later)

/-- A text that needs the end of a word after it, between two texts that do not. -/
theorem linesWrite_around {before text after : String} {ofBefore ofText ofAfter : List String}
    (writtenBefore : LinesWrite before ofBefore) (writtenText : TextWrites text ofText)
    (writtenAfter : LinesWrite after ofAfter)
    (apart : ∀ chars, Delimited (after.toList ++ chars)) :
    LinesWrite (before ++ text ++ after) (ofBefore ++ (ofText ++ ofAfter)) := by
  intro chars words later
  simp only [String.toList_append, List.append_assoc]
  exact writtenBefore _ _ (writtenText _ _ (writtenAfter _ _ later) (apart chars))

theorem linesWrite_indent (depth : Nat) : LinesWrite (indent depth) [] := by
  intro chars words later
  rw [indent, spaces, String.toList_ofList]
  exact writes_spaces later _

theorem linesWrite_newline {text : String} {spelled : List String}
    (written : LinesWrite text spelled) : LinesWrite (text ++ "\n") spelled := by
  intro chars words later
  rw [String.toList_append, List.append_assoc]
  exact written _ _ (.blank rfl later)

theorem linesWrite_simpleLine {text : String} {spelled : List String} (depth : Nat)
    (written : TextWrites text spelled) :
    LinesWrite (simpleLine depth text) (spelled ++ [";"]) := by
  have ended : LinesWrite ";\n" [";"] :=
    fun _ _ later => .punct rfl (.blank rfl later)
  exact linesWrite_around (linesWrite_indent depth) written ended fun _ => .inr rfl

theorem linesWrite_braced {statements : String} {spelled : List String} (depth : Nat)
    (written : LinesWrite statements spelled) :
    LinesWrite (braced depth statements) (braces spelled) := by
  have opened : LinesWrite "\x7b\n" ["\x7b"] :=
    fun _ _ later => .punct rfl (.blank rfl later)
  have closed : LinesWrite "\x7d" ["\x7d"] := fun _ _ later => .punct rfl later
  have inside := linesWrite_append (linesWrite_append opened written) (linesWrite_indent depth)
  simpa [braced, braces] using linesWrite_append inside closed

/-- A word and the space after it. -/
theorem writes_word_space {word : String} {chars : List Char} {words : List String}
    (plain : Plain word) (later : Writes chars words) :
    Writes (word.toList ++ ' ' :: chars) (word :: words) :=
  .word plain (.blank rfl later) (.inl rfl)

/-- A guard, from the indentation to where its block starts. -/
theorem linesWrite_guard {opening word : String} {cond : Cond} (depth : Nat) (plain : Plain word)
    (spelled : opening = word ++ " (") (writable : Writable cond.names) :
    LinesWrite (indent depth ++ opening ++ cond.source ++ ") ") (word :: parens cond.words) := by
  have opened : LinesWrite opening [word, "("] := by
    intro chars words later
    rw [spelled, String.toList_append, List.append_assoc]
    exact writes_word_space plain (.punct rfl later)
  have closed : LinesWrite ") " [")"] :=
    fun _ _ later => .punct rfl (.blank rfl later)
  exact linesWrite_around (linesWrite_append (linesWrite_indent depth) opened)
    (Cond.textWrites writable) closed fun _ => .inr rfl

theorem assign_textWrites {name : String} {value : Expr}
    (writable : Writable (name :: value.names)) :
    TextWrites ("$" ++ name ++ " = " ++ value.source) (("$" ++ name) :: "=" :: value.words) := by
  obtain ⟨ofName, ofValue⟩ := writable_cons_iff.mp writable
  intro chars words later apart
  have laidOut : ("$" ++ name ++ " = " ++ value.source).toList ++ chars =
      ("$" ++ name).toList ++ ' ' :: ("=".toList ++ ' ' :: (value.source.toList ++ chars)) := by
    simp
  rw [laidOut]
  have right := Expr.textWrites ofValue _ _ later apart
  exact writes_word_space (plain_variable ofName) (writes_word_space (by decide) right)

mutual

theorem Stmt.linesWrite {stmt : Stmt} (writable : Writable stmt.names) (depth : Nat) :
    LinesWrite (stmt.sourceAt depth) stmt.words := by
  match stmt with
  | .turn way =>
      have plain : Plain way.keyword := by cases way <;> decide
      exact linesWrite_simpleLine depth (textWrites_plain plain)
  | .takeFuel => exact linesWrite_simpleLine depth (textWrites_plain (by decide))
  | .shield true => exact linesWrite_simpleLine depth (textWrites_plain (by decide))
  | .shield false => exact linesWrite_simpleLine depth (textWrites_plain (by decide))
  | .move count =>
      exact linesWrite_simpleLine depth (countedSource_textWrites (by decide) writable)
  | .wait count =>
      exact linesWrite_simpleLine depth (countedSource_textWrites (by decide) writable)
  | .assign name value => exact linesWrite_simpleLine depth (assign_textWrites writable)
  | .loop body =>
      have opened : LinesWrite "loop " ["loop"] := by
        intro chars words later
        show Writes ("loop".toList ++ ' ' :: chars) ("loop" :: words)
        exact writes_word_space (by decide) later
      have inside := linesWrite_braced depth (body.linesWrite writable (depth + 1))
      exact linesWrite_newline
        (linesWrite_append (linesWrite_append (linesWrite_indent depth) opened) inside)
  | .ifThen cond body =>
      obtain ⟨ofCond, ofBody⟩ := writable_append_iff.mp writable
      have guard : LinesWrite (indent depth ++ "if (" ++ cond.source ++ ") ") ("if" :: _) :=
        linesWrite_guard depth (by decide) (by decide) ofCond
      have inside := linesWrite_braced depth (body.linesWrite ofBody (depth + 1))
      exact linesWrite_newline (linesWrite_append guard inside)
  | .ifElse cond body otherwise =>
      obtain ⟨ofCond, ofBlocks⟩ := writable_append_iff.mp writable
      obtain ⟨ofBody, ofOtherwise⟩ := writable_append_iff.mp ofBlocks
      have guard : LinesWrite (indent depth ++ "if (" ++ cond.source ++ ") ") ("if" :: _) :=
        linesWrite_guard depth (by decide) (by decide) ofCond
      have between : LinesWrite " else " ["else"] := by
        intro chars words later
        show Writes (' ' :: ("else".toList ++ ' ' :: chars)) ("else" :: words)
        exact .blank rfl (writes_word_space (by decide) later)
      have first := linesWrite_braced depth (body.linesWrite ofBody (depth + 1))
      have second := linesWrite_braced depth (otherwise.linesWrite ofOtherwise (depth + 1))
      have guarded := linesWrite_append guard first
      have written := linesWrite_append (linesWrite_append guarded between) second
      simpa [Stmt.sourceAt, Stmt.words] using linesWrite_newline written
  | .while cond body =>
      obtain ⟨ofCond, ofBody⟩ := writable_append_iff.mp writable
      have guard : LinesWrite (indent depth ++ "while (" ++ cond.source ++ ") ") ("while" :: _) :=
        linesWrite_guard depth (by decide) (by decide) ofCond
      have inside := linesWrite_braced depth (body.linesWrite ofBody (depth + 1))
      exact linesWrite_newline (linesWrite_append guard inside)
  | .block body =>
      have inside := linesWrite_braced depth (body.linesWrite writable (depth + 1))
      exact linesWrite_newline (linesWrite_append (linesWrite_indent depth) inside)

theorem Block.linesWrite {block : Block} (writable : Writable block.names) (depth : Nat) :
    LinesWrite (block.sourceAt depth) block.words := by
  match block with
  | .single stmt => exact stmt.linesWrite writable depth
  | .cons stmt rest =>
      obtain ⟨ofStmt, ofRest⟩ := writable_append_iff.mp writable
      exact linesWrite_append (stmt.linesWrite ofStmt depth) (rest.linesWrite ofRest depth)

end

theorem Program.linesWrite {program : Program} (writable : Writable program.names) :
    LinesWrite program.source program.words := by
  obtain ⟨stmts⟩ := program
  induction stmts with
  | nil => exact fun _ _ later => later
  | cons stmt later ih =>
      obtain ⟨ofStmt, ofLater⟩ := writable_append_iff.mp writable
      exact linesWrite_append (stmt.linesWrite ofStmt 0) (ih ofLater)

theorem Program.scan_source {program : Program} (writable : Writable program.names) :
    (Token.scan program.source).map Token.text = program.words := by
  apply Token.scan_of_writes
  simpa using Program.linesWrite writable [] [] .done

end FuelDuel.Language
