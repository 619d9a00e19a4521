import FuelDuel.Language.Parse

/-!
The grammar of the language. A construct derives from a run of words, the texts of the tokens that
spell it, and every derivation carries the tree of the construct. No reader is mentioned here: the
rules are those that a writer of programs has to follow.

Statements, blocks and the tails of conditionals contain each other, so they share one relation
over phrases (`Derives`); expressions and conditions have relations of their own.
-/

namespace FuelDuel.Language

/-- Words between parentheses. -/
def parens (words : List String) : List String := "(" :: (words ++ [")"])

/-- Words between braces. -/
def braces (words : List String) : List String := "\x7b" :: (words ++ ["\x7d"])

/-- Two runs of words in parentheses with a comma between them. -/
def pairOf (first second : List String) : List String := parens (first ++ "," :: second)

@[simp] theorem length_parens (words : List String) :
    (parens words).length = words.length + 2 := by
  simp [parens]

@[simp] theorem length_braces (words : List String) :
    (braces words).length = words.length + 2 := by
  simp [braces]

@[simp] theorem length_pairOf (first second : List String) :
    (pairOf first second).length = first.length + second.length + 3 := by
  simp [pairOf]
  omega

/-- An expression and the words it derives from. -/
inductive Expr.Derives : List String → Expr → Prop where
  /-- A numeral stands for a number of 32 bits; no expression derives from any other numeral. -/
  | num {text : String} {value : Int32} (numeral : isNumeral text.toList = true)
      (denotes : numeralValue text.toList = value.toInt) : Derives [text] (.num value)
  | var {name : String} (writable : isName name.toList = true) : Derives ["$" ++ name] (.var name)
  | binary {op : BinaryOp} {first second : List String} {left right : Expr}
      (ofLeft : Derives first left) (ofRight : Derives second right) :
      Derives (op.keyword :: pairOf first second) (.binary op left right)
  | sensor {gauge : Sensor} : Derives [gauge.keyword] (.sensor gauge)
  | barrelAt {axis : Axis} {words : List String} {index : Expr} (ofIndex : Derives words index) :
      Derives ((Sensor.barrel axis).keyword :: parens words) (.barrelAt axis index)

/-- A condition and the words it derives from. -/
inductive Cond.Derives : List String → Cond → Prop where
  | compare {op : CompareOp} {first second : List String} {left right : Expr}
      (ofLeft : Expr.Derives first left) (ofRight : Expr.Derives second right) :
      Derives (op.keyword :: pairOf first second) (.compare op left right)
  | connect {op : Connective} {first second : List String} {left right : Cond}
      (ofLeft : Derives first left) (ofRight : Derives second right) :
      Derives (op.keyword :: pairOf first second) (.connect op left right)
  | not {words : List String} {inner : Cond} (ofInner : Derives words inner) :
      Derives ("not" :: parens words) (.not inner)

/-- The optional argument of a counted action and the words it derives from. -/
inductive ArgumentDerives : List String → Option Expr → Prop where
  | absent : ArgumentDerives [] none
  | present {words : List String} {count : Expr} (ofCount : Expr.Derives words count) :
      ArgumentDerives (parens words) (some count)

/-- A simple statement and the words it derives from, without the semicolon that ends it. -/
inductive ActionDerives : List String → Stmt → Prop where
  | turn {way : Turn} : ActionDerives [way.keyword] (.turn way)
  | takeFuel : ActionDerives ["takeFuel"] .takeFuel
  | shieldOn : ActionDerives ["shieldOn"] (.shield true)
  | shieldOff : ActionDerives ["shieldOff"] (.shield false)
  | move {words : List String} {count : Option Expr} (ofCount : ArgumentDerives words count) :
      ActionDerives ("move" :: words) (.move count)
  | wait {words : List String} {count : Option Expr} (ofCount : ArgumentDerives words count) :
      ActionDerives ("wait" :: words) (.wait count)
  | assign {name : String} {words : List String} {value : Expr}
      (writable : isName name.toList = true) (ofValue : Expr.Derives words value) :
      ActionDerives (("$" ++ name) :: "=" :: words) (.assign name value)

/-- What the rules for statements derive. -/
inductive Phrase where
  | stmt (stmt : Stmt)
  /-- Any number of statements. -/
  | stmts (stmts : List Stmt)
  | block (block : Block)
  /-- What follows the first block of a conditional, if anything does. -/
  | tail (otherwise : Option Block)

/-- A phrase and the words it derives from. -/
inductive Derives : List String → Phrase → Prop where
  | action {words : List String} {stmt : Stmt} (ofAction : ActionDerives words stmt) :
      Derives (words ++ [";"]) (.stmt stmt)
  | nested {words : List String} {body : Block} (ofBody : Derives words (.block body)) :
      Derives words (.stmt (.block body))
  | loop {words : List String} {body : Block} (ofBody : Derives words (.block body)) :
      Derives ("loop" :: words) (.stmt (.loop body))
  | whileLoop {condWords bodyWords : List String} {cond : Cond} {body : Block}
      (ofCond : Cond.Derives condWords cond) (ofBody : Derives bodyWords (.block body)) :
      Derives ("while" :: (parens condWords ++ bodyWords)) (.stmt (.while cond body))
  | conditional {condWords bodyWords tailWords : List String} {cond : Cond} {body : Block}
      {otherwise : Option Block} (ofCond : Cond.Derives condWords cond)
      (ofBody : Derives bodyWords (.block body)) (ofTail : Derives tailWords (.tail otherwise)) :
      Derives ("if" :: (parens condWords ++ (bodyWords ++ tailWords)))
        (.stmt (.branch cond body otherwise))
  | noTail : Derives [] (.tail none)
  | elseBlock {words : List String} {body : Block} (ofBody : Derives words (.block body)) :
      Derives ("else" :: words) (.tail (some body))
  /-- A further condition is an `else` block that holds one conditional. -/
  | elifBranch {condWords bodyWords tailWords : List String} {cond : Cond} {body : Block}
      {otherwise : Option Block} (ofCond : Cond.Derives condWords cond)
      (ofBody : Derives bodyWords (.block body)) (ofTail : Derives tailWords (.tail otherwise)) :
      Derives ("elif" :: (parens condWords ++ (bodyWords ++ tailWords)))
        (.tail (some (.single (.branch cond body otherwise))))
  | block {words : List String} {body : Block} (ofStmts : Derives words (.stmts body.toList)) :
      Derives (braces words) (.block body)
  | done : Derives [] (.stmts [])
  | next {first later : List String} {stmt : Stmt} {stmts : List Stmt}
      (ofStmt : Derives first (.stmt stmt)) (ofStmts : Derives later (.stmts stmts)) :
      Derives (first ++ later) (.stmts (stmt :: stmts))

/-- A program and the words it derives from. -/
def Program.Derives (words : List String) (program : Program) : Prop :=
  Language.Derives words (.stmts program.stmts)

/-- The words of further branches of a conditional, none of which is an `else`. -/
inductive OpenTail : List String → Prop where
  | noTail : OpenTail []
  | elifBranch {condWords bodyWords tailWords : List String} {cond : Cond} {body : Block}
      (ofCond : Cond.Derives condWords cond) (ofBody : Derives bodyWords (.block body))
      (ofTail : OpenTail tailWords) :
      OpenTail ("elif" :: (parens condWords ++ (bodyWords ++ tailWords)))

/-- The words of a conditional without an `else`, which a further branch would extend. -/
inductive OpenIf : List String → Prop where
  | conditional {condWords bodyWords tailWords : List String} {cond : Cond} {body : Block}
      (ofCond : Cond.Derives condWords cond) (ofBody : Derives bodyWords (.block body))
      (ofTail : OpenTail tailWords) :
      OpenIf ("if" :: (parens condWords ++ (bodyWords ++ tailWords)))

end FuelDuel.Language
