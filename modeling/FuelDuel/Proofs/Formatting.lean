import FuelDuel.Proofs.RoundTrip

/-!
Formatting changes nothing but the layout. A tree has one spelling, apart from `elif`: whatever
derives a tree without that word is the words of the tree (`Derives.words_eq`), down to the digits
of its numerals. The source text of a tree writes just these words, and `elif` is not among them
(`Program.elif_not_mem_words`), so the words of a text survive formatting exactly if `elif` is none
of them.
-/

namespace FuelDuel.Language

open FuelDuel.Text

/-! ### A tree has one spelling -/

theorem Expr.Derives.words_eq {words : List String} {expr : Expr}
    (derived : Expr.Derives words expr) : expr.words = words := by
  induction derived with
  | num numeral denotes => rw [Expr.words, ← denotes, ofInt_numeralValue numeral]
  | var => rfl
  | binary ofLeft ofRight ihLeft ihRight => rw [Expr.words, ihLeft, ihRight]
  | sensor => rfl
  | barrelAt ofIndex ih => rw [Expr.words, ih]

theorem Cond.Derives.words_eq {words : List String} {cond : Cond}
    (derived : Cond.Derives words cond) : cond.words = words := by
  induction derived with
  | compare ofLeft ofRight => rw [Cond.words, ofLeft.words_eq, ofRight.words_eq]
  | connect ofLeft ofRight ihLeft ihRight => rw [Cond.words, ihLeft, ihRight]
  | not ofInner ih => rw [Cond.words, ih]

theorem ArgumentDerives.words_eq {words : List String} {count : Option Expr}
    (derived : ArgumentDerives words count) : countWords count = words := by
  cases derived with
  | absent => rfl
  | present ofCount => rw [countWords, ofCount.words_eq]

theorem ActionDerives.words_eq {words : List String} {stmt : Stmt}
    (derived : ActionDerives words stmt) : stmt.words = words ++ [";"] := by
  cases derived with
  | turn | takeFuel | shieldOn | shieldOff => rfl
  | move ofCount => rw [Stmt.words, ofCount.words_eq]
  | wait ofCount => rw [Stmt.words, ofCount.words_eq]
  | assign writable ofValue => rw [Stmt.words, ofValue.words_eq]

/-- The words that spell a phrase, without an `elif`. -/
def Phrase.words : Phrase → List String
  | .stmt value => value.words
  | .stmts values => values.flatMap Stmt.words
  | .block body => braces body.words
  | .tail none => []
  | .tail (some otherwise) => "else" :: braces otherwise.words

theorem Block.flatMap_words (block : Block) :
    block.toList.flatMap Stmt.words = block.words := by
  cases block with
  | single stmt => simp [Block.toList, Block.words]
  | cons stmt rest => simp [Block.toList, Block.words, rest.flatMap_words]

theorem Stmt.words_branch (cond : Cond) (body : Block) (otherwise : Option Block) :
    (Stmt.branch cond body otherwise).words =
      "if" :: (parens cond.words ++ (braces body.words ++ (Phrase.tail otherwise).words)) := by
  cases otherwise <;> simp [Stmt.branch, Stmt.words, Phrase.words]

/-- Without an `elif`, a phrase derives from no other words than its own. -/
theorem Derives.words_eq {words : List String} {phrase : Phrase} (derived : Derives words phrase)
    (unchained : "elif" ∉ words) : phrase.words = words := by
  induction derived with
  | action ofAction => exact ofAction.words_eq
  | nested ofBody ih => exact ih unchained
  | loop ofBody ih =>
      simp only [List.mem_cons, not_or] at unchained
      exact congrArg ("loop" :: ·) (ih unchained.2)
  | @whileLoop _ _ cond body ofCond ofBody ih =>
      simp only [List.mem_cons, List.mem_append, not_or] at unchained
      have inBody : braces body.words = _ := ih unchained.2.2
      rw [Phrase.words, Stmt.words, ofCond.words_eq, inBody]
  | @conditional _ _ _ cond body otherwise ofCond ofBody ofTail ihBody ihTail =>
      simp only [List.mem_cons, List.mem_append, not_or] at unchained
      have inBody : braces body.words = _ := ihBody unchained.2.2.1
      have inTail := ihTail unchained.2.2.2
      rw [Phrase.words, Stmt.words_branch, ofCond.words_eq, inBody, inTail]
  | noTail => rfl
  | elseBlock ofBody ih =>
      simp only [List.mem_cons, not_or] at unchained
      exact congrArg ("else" :: ·) (ih unchained.2)
  | elifBranch => exact absurd List.mem_cons_self unchained
  | @block words body ofStmts ih =>
      simp only [braces, List.mem_cons, List.mem_append, not_or] at unchained
      rw [Phrase.words, ← body.flatMap_words]
      exact congrArg braces (ih unchained.2.1)
  | done => rfl
  | @next _ _ stmt stmts ofStmt ofStmts ihStmt ihStmts =>
      simp only [List.mem_append, not_or] at unchained
      have first : stmt.words = _ := ihStmt unchained.1
      have later : stmts.flatMap Stmt.words = _ := ihStmts unchained.2
      rw [Phrase.words, List.flatMap_cons, first, later]

/-! ### No tree is spelled with `elif` -/

/-- A word that only conditionals are spelled with. -/
def Branching (word : String) : Prop := word = "if" ∨ word = "elif" ∨ word = "else"

section Branching

variable {word : String} (branching : Branching word)
include branching

theorem Branching.not_mem_parens {words : List String} (inside : word ∉ words) :
    word ∉ parens words := by
  rcases branching with rfl | rfl | rfl <;> simp [parens, inside]

theorem Branching.not_mem_braces {words : List String} (inside : word ∉ words) :
    word ∉ braces words := by
  rcases branching with rfl | rfl | rfl <;> simp [braces, inside]

theorem Branching.not_mem_pairOf {first second : List String} (inFirst : word ∉ first)
    (inSecond : word ∉ second) : word ∉ pairOf first second := by
  apply branching.not_mem_parens
  rcases branching with rfl | rfl | rfl <;> simp [inFirst, inSecond]

theorem Branching.ne_variable (name : String) : word ≠ "$" ++ name := by
  rcases branching with rfl | rfl | rfl <;> exact (dollar_ne (by decide)).symm

theorem Branching.not_mem_expr (expr : Expr) : word ∉ expr.words := by
  induction expr with
  | num value =>
      intro member
      have numeral := isNumeral_ofInt value.toInt
      rw [← List.mem_singleton.mp member] at numeral
      rcases branching with rfl | rfl | rfl <;> exact absurd numeral (by decide)
  | var name =>
      exact List.not_mem_cons_of_ne_of_not_mem (branching.ne_variable name) List.not_mem_nil
  | binary op left right ihLeft ihRight =>
      have other : word ≠ op.keyword := by
        rcases branching with rfl | rfl | rfl <;> cases op <;> decide
      exact List.not_mem_cons_of_ne_of_not_mem other (branching.not_mem_pairOf ihLeft ihRight)
  | sensor gauge =>
      have other : word ≠ gauge.keyword := by
        rcases branching with rfl | rfl | rfl <;>
          rcases gauge with _ | ⟨_ | _⟩ | _ | ⟨_ | _⟩ | _ <;> decide
      exact List.not_mem_cons_of_ne_of_not_mem other List.not_mem_nil
  | barrelAt axis index ih =>
      have other : word ≠ (Sensor.barrel axis).keyword := by
        rcases branching with rfl | rfl | rfl <;> cases axis <;> decide
      exact List.not_mem_cons_of_ne_of_not_mem other (branching.not_mem_parens ih)

theorem Branching.not_mem_cond (cond : Cond) : word ∉ cond.words := by
  induction cond with
  | compare op left right =>
      have other : word ≠ op.keyword := by
        rcases branching with rfl | rfl | rfl <;> cases op <;> decide
      exact List.not_mem_cons_of_ne_of_not_mem other
        (branching.not_mem_pairOf (branching.not_mem_expr left) (branching.not_mem_expr right))
  | connect op left right ihLeft ihRight =>
      have other : word ≠ op.keyword := by
        rcases branching with rfl | rfl | rfl <;> cases op <;> decide
      exact List.not_mem_cons_of_ne_of_not_mem other (branching.not_mem_pairOf ihLeft ihRight)
  | not inner ih =>
      have other : word ≠ "not" := by rcases branching with rfl | rfl | rfl <;> decide
      exact List.not_mem_cons_of_ne_of_not_mem other (branching.not_mem_parens ih)

theorem Branching.not_mem_countWords (count : Option Expr) : word ∉ countWords count := by
  cases count with
  | none => exact List.not_mem_nil
  | some count => exact branching.not_mem_parens (branching.not_mem_expr count)

end Branching

theorem branching_elif : Branching "elif" := .inr (.inl rfl)

mutual

theorem Stmt.elif_not_mem_words (stmt : Stmt) : "elif" ∉ stmt.words := by
  have branching := branching_elif
  match stmt with
  | .turn way => cases way <;> decide
  | .takeFuel => decide
  | .shield true => decide
  | .shield false => decide
  | .move count => simp [Stmt.words, branching.not_mem_countWords count]
  | .wait count => simp [Stmt.words, branching.not_mem_countWords count]
  | .assign name value =>
      simp [Stmt.words, branching.ne_variable name, branching.not_mem_expr value]
  | .loop body => simp [Stmt.words, branching.not_mem_braces body.elif_not_mem_words]
  | .ifThen cond body =>
      simp [Stmt.words, branching.not_mem_parens (branching.not_mem_cond cond),
        branching.not_mem_braces body.elif_not_mem_words]
  | .ifElse cond body otherwise =>
      simp [Stmt.words, branching.not_mem_parens (branching.not_mem_cond cond),
        branching.not_mem_braces body.elif_not_mem_words,
        branching.not_mem_braces otherwise.elif_not_mem_words]
  | .while cond body =>
      simp [Stmt.words, branching.not_mem_parens (branching.not_mem_cond cond),
        branching.not_mem_braces body.elif_not_mem_words]
  | .block body => exact branching.not_mem_braces body.elif_not_mem_words

theorem Block.elif_not_mem_words (block : Block) : "elif" ∉ block.words := by
  match block with
  | .single stmt => exact stmt.elif_not_mem_words
  | .cons stmt rest => simp [Block.words, stmt.elif_not_mem_words, rest.elif_not_mem_words]

end

theorem Program.elif_not_mem_words (program : Program) : "elif" ∉ program.words := by
  intro member
  obtain ⟨stmt, -, inside⟩ := List.mem_flatMap.mp member
  exact stmt.elif_not_mem_words inside

/-! ### Formatting -/

/-- Formatting a text that is a program keeps all its words, in order and as they are spelled,
exactly if none of them is `elif`. -/
theorem formatting_keeps_words {source : String} {program : Program}
    (parsed : Program.parse source = .ok program) :
    (Token.scan program.source).map Token.text = (Token.scan source).map Token.text ↔
      "elif" ∉ (Token.scan source).map Token.text := by
  rw [Program.scan_source (Program.writable_of_parse parsed)]
  constructor
  · intro same
    rw [← same]
    exact program.elif_not_mem_words
  · exact (Program.parse_eq_ok_iff.mp parsed).words_eq

/-- Written without more layout than needed, with a count and an index that say what goes without
saying. -/
def crowdedText : String := "move;move(1);$a = sub(barrelLR(0),-10);"

/-- What the crowded text reads as. -/
def crowdedProgram : Program :=
  ⟨[.move none, .move (some (.num 1)),
    .assign "a" (.binary .sub (.barrelAt .leftRight (.num 0)) (.num (-10)))]⟩

/-- The words of the crowded text. -/
def crowdedWords : List String :=
  ["move", ";", "move", "(", "1", ")", ";", "$a", "=", "sub", "(", "barrelLR", "(", "0", ")", ",",
    "-10", ")", ";"]

theorem formatting_keeps_words_of_crowdedText :
    Program.parse crowdedText = .ok crowdedProgram ∧
      (Token.scan crowdedText).map Token.text = crowdedWords ∧ "elif" ∉ crowdedWords ∧
      (Token.scan crowdedProgram.source).map Token.text = crowdedWords := by
  have words : (Token.scan crowdedText).map Token.text = crowdedWords := by decide +kernel
  have spelled : crowdedProgram.words = crowdedWords := by decide +kernel
  have writable : Writable crowdedProgram.names := by unfold Writable; decide
  have parsed : Program.parse crowdedText = .ok crowdedProgram := by
    rw [Program.parse_eq_ok_iff, words, ← spelled]
    exact Program.derives_words writable
  have unchained : "elif" ∉ crowdedWords := by decide
  have kept := (formatting_keeps_words parsed).mpr (words ▸ unchained)
  exact ⟨parsed, words, unchained, kept.trans words⟩

end FuelDuel.Language
