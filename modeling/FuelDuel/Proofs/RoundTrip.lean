import FuelDuel.Proofs.Acceptance
import FuelDuel.Proofs.Spelling

/-!
Source text reads back as the program it was written for, exactly if the variable names of the
program can be written. One half of this follows the source text through its words
(`Program.scan_source`) to a derivation of the program (`Program.derives_words`); the other half is
that the grammar lets no other names through (`Derives.writable`).
-/

namespace FuelDuel.Language

open FuelDuel.Text

/-! ### Trees derive from their words -/

theorem Expr.derives_words {expr : Expr} (writable : Writable expr.names) :
    Expr.Derives expr.words expr := by
  induction expr with
  | num value => exact .num (isNumeral_ofInt value.toInt) (numeralValue_ofInt value.toInt)
  | var name => exact .var (writable name List.mem_cons_self)
  | binary op left right ihLeft ihRight =>
      obtain ⟨ofLeft, ofRight⟩ := writable_append_iff.mp writable
      exact .binary (ihLeft ofLeft) (ihRight ofRight)
  | sensor gauge => exact .sensor
  | barrelAt axis index ih => exact .barrelAt (ih writable)

theorem Cond.derives_words {cond : Cond} (writable : Writable cond.names) :
    Cond.Derives cond.words cond := by
  induction cond with
  | compare op left right =>
      obtain ⟨ofLeft, ofRight⟩ := writable_append_iff.mp writable
      exact .compare (Expr.derives_words ofLeft) (Expr.derives_words ofRight)
  | connect op left right ihLeft ihRight =>
      obtain ⟨ofLeft, ofRight⟩ := writable_append_iff.mp writable
      exact .connect (ihLeft ofLeft) (ihRight ofRight)
  | not inner ih => exact .not (ih writable)

theorem argumentDerives_countWords {count : Option Expr} (writable : Writable (countNames count)) :
    ArgumentDerives (countWords count) count := by
  cases count with
  | none => exact .absent
  | some count => exact .present (Expr.derives_words writable)

mutual

theorem Stmt.derives_words {stmt : Stmt} (writable : Writable stmt.names) :
    Derives stmt.words (.stmt stmt) := by
  match stmt with
  | .turn way => exact .action .turn
  | .takeFuel => exact .action .takeFuel
  | .shield true => exact .action .shieldOn
  | .shield false => exact .action .shieldOff
  | .move count => exact .action (.move (argumentDerives_countWords writable))
  | .wait count => exact .action (.wait (argumentDerives_countWords writable))
  | .assign name value =>
      obtain ⟨ofName, ofValue⟩ := writable_cons_iff.mp writable
      exact .action (.assign ofName (Expr.derives_words ofValue))
  | .loop body => exact .loop (.block (body.derives_words writable))
  | .ifThen cond body =>
      obtain ⟨ofCond, ofBody⟩ := writable_append_iff.mp writable
      have derived := Derives.conditional (Cond.derives_words ofCond)
        (.block (body.derives_words ofBody)) .noTail
      simpa [Stmt.words, Stmt.branch] using derived
  | .ifElse cond body otherwise =>
      obtain ⟨ofCond, ofBlocks⟩ := writable_append_iff.mp writable
      obtain ⟨ofBody, ofOtherwise⟩ := writable_append_iff.mp ofBlocks
      exact .conditional (Cond.derives_words ofCond) (.block (body.derives_words ofBody))
        (.elseBlock (.block (otherwise.derives_words ofOtherwise)))
  | .while cond body =>
      obtain ⟨ofCond, ofBody⟩ := writable_append_iff.mp writable
      exact .whileLoop (Cond.derives_words ofCond) (.block (body.derives_words ofBody))
  | .block body => exact .nested (.block (body.derives_words writable))

theorem Block.derives_words {block : Block} (writable : Writable block.names) :
    Derives block.words (.stmts block.toList) := by
  match block with
  | .single stmt =>
      have derived := Derives.next (stmt.derives_words writable) .done
      simpa [Block.words, Block.toList] using derived
  | .cons stmt rest =>
      obtain ⟨ofStmt, ofRest⟩ := writable_append_iff.mp writable
      exact .next (stmt.derives_words ofStmt) (rest.derives_words ofRest)

end

theorem Program.derives_words {program : Program} (writable : Writable program.names) :
    Program.Derives program.words program := by
  obtain ⟨stmts⟩ := program
  induction stmts with
  | nil => exact .done
  | cons stmt later ih =>
      obtain ⟨ofStmt, ofLater⟩ := writable_append_iff.mp writable
      exact .next (stmt.derives_words ofStmt) (ih ofLater)

/-! ### Derived trees have writable names -/

theorem writable_nil : Writable [] := fun _ member => nomatch member

theorem Expr.Derives.writable {words : List String} {expr : Expr}
    (derived : Expr.Derives words expr) : Writable expr.names := by
  induction derived with
  | num => exact writable_nil
  | var writable => exact writable_cons_iff.mpr ⟨writable, writable_nil⟩
  | binary ofLeft ofRight ihLeft ihRight => exact writable_append_iff.mpr ⟨ihLeft, ihRight⟩
  | sensor => exact writable_nil
  | barrelAt ofIndex ih => exact ih

theorem Cond.Derives.writable {words : List String} {cond : Cond}
    (derived : Cond.Derives words cond) : Writable cond.names := by
  induction derived with
  | compare ofLeft ofRight => exact writable_append_iff.mpr ⟨ofLeft.writable, ofRight.writable⟩
  | connect ofLeft ofRight ihLeft ihRight => exact writable_append_iff.mpr ⟨ihLeft, ihRight⟩
  | not ofInner ih => exact ih

theorem ArgumentDerives.writable {words : List String} {count : Option Expr}
    (derived : ArgumentDerives words count) : Writable (countNames count) := by
  cases derived with
  | absent => exact writable_nil
  | present ofCount => exact ofCount.writable

theorem ActionDerives.writable {words : List String} {stmt : Stmt}
    (derived : ActionDerives words stmt) : Writable stmt.names := by
  cases derived with
  | turn | takeFuel | shieldOn | shieldOff => exact writable_nil
  | move ofCount => exact ofCount.writable
  | wait ofCount => exact ofCount.writable
  | assign writable ofValue => exact writable_cons_iff.mpr ⟨writable, ofValue.writable⟩

/-- The variable names that occur in a phrase. -/
def Phrase.names : Phrase → List String
  | .stmt value => value.names
  | .stmts values => values.flatMap Stmt.names
  | .block body => body.names
  | .tail none => []
  | .tail (some otherwise) => otherwise.names

theorem Block.flatMap_names (block : Block) :
    block.toList.flatMap Stmt.names = block.names := by
  cases block with
  | single stmt => simp [Block.toList, Block.names]
  | cons stmt rest => simp [Block.toList, Block.names, rest.flatMap_names]

theorem Stmt.names_branch (cond : Cond) (body : Block) (otherwise : Option Block) :
    (Stmt.branch cond body otherwise).names =
      cond.names ++ (body.names ++ (Phrase.tail otherwise).names) := by
  cases otherwise <;> simp [Stmt.branch, Stmt.names, Phrase.names]

theorem Derives.writable {words : List String} {phrase : Phrase}
    (derived : Derives words phrase) : Writable phrase.names := by
  induction derived with
  | action ofAction => exact ofAction.writable
  | nested ofBody ih => exact ih
  | loop ofBody ih => exact ih
  | whileLoop ofCond ofBody ih => exact writable_append_iff.mpr ⟨ofCond.writable, ih⟩
  | conditional ofCond ofBody ofTail ihBody ihTail =>
      rw [Phrase.names, Stmt.names_branch]
      exact writable_append_iff.mpr ⟨ofCond.writable, writable_append_iff.mpr ⟨ihBody, ihTail⟩⟩
  | noTail => exact writable_nil
  | elseBlock ofBody ih => exact ih
  | elifBranch ofCond ofBody ofTail ihBody ihTail =>
      rw [Phrase.names, Block.names, Stmt.names_branch]
      exact writable_append_iff.mpr ⟨ofCond.writable, writable_append_iff.mpr ⟨ihBody, ihTail⟩⟩
  | @block words body ofStmts ih =>
      rw [Phrase.names, ← body.flatMap_names]
      exact ih
  | done => exact writable_nil
  | next ofStmt ofStmts ihStmt ihStmts => exact writable_append_iff.mpr ⟨ihStmt, ihStmts⟩

/-! ### The round trip -/

namespace Program

/-- Any text with the words of a program reads as the program, however it is laid out. -/
theorem parse_of_words {source : String} {program : Program} (writable : Writable program.names)
    (spelled : (Token.scan source).map Token.text = program.words) :
    Program.parse source = .ok program := by
  rw [parse_eq_ok_iff, spelled]
  exact derives_words writable

theorem parse_source {program : Program} (writable : Writable program.names) :
    Program.parse program.source = .ok program :=
  parse_of_words writable (scan_source writable)

theorem writable_of_parse {source : String} {program : Program}
    (parsed : Program.parse source = .ok program) : Writable program.names :=
  (parse_eq_ok_iff.mp parsed).writable

end Program

/-- A program is what its source text reads back as exactly if its variable names can be written.
The programs that are read from a text are of this kind, so formatting one a second time changes
nothing. -/
theorem source_round_trip :
    (∀ program, Program.parse (Program.source program) = .ok program ↔
      ∀ name ∈ program.names, isName name.toList = true) ∧
    (∀ source program, Program.parse source = .ok program →
      ∀ name ∈ program.names, isName name.toList = true) ∧
    (∀ source program, Program.parse source = .ok program →
      ∃ again, Program.parse program.source = .ok again ∧ again.source = program.source) := by
  refine ⟨fun program => ⟨Program.writable_of_parse, Program.parse_source⟩,
    fun source program => Program.writable_of_parse, ?_⟩
  intro source program parsed
  exact ⟨program, Program.parse_source (Program.writable_of_parse parsed), rfl⟩

end FuelDuel.Language
