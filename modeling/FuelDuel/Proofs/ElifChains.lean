import FuelDuel.Proofs.Positions
import FuelDuel.Proofs.ErrorSite
import FuelDuel.Proofs.RoundTrip

/-!
Chains of conditions. `elif` is a shorter way to write a conditional that is all there is in an
`else` block: both spellings have the same tree (`derives_chainWords`, `derives_nestedWords`). A
chain that has an `else` is over, whatever follows it, and so is the `else` block that holds the
rest of a chain (`ended_chainWords`, `ended_nestedWords`). So the one spelling can replace the other
anywhere in a text, and the text still reads as the same program (`elif_chains_are_nested_ifs`).
-/

namespace FuelDuel.Language

/-! ### Two spellings -/

/-- A condition and the block that it guards, with the words of both. -/
structure Arm where
  condWords : List String
  bodyWords : List String
  cond : Cond
  body : Block
  ofCond : Cond.Derives condWords cond
  ofBody : Derives bodyWords (.block body)

/-- The block of an `else`, with its words. -/
structure Otherwise where
  words : List String
  body : Block
  ofBody : Derives words (.block body)

/-- A condition and a block in the words that spell their trees. -/
def Arm.ofTrees (cond : Cond) (body : Block) (inCond : Writable cond.names)
    (inBody : Writable body.names) : Arm where
  condWords := cond.words
  bodyWords := braces body.words
  cond := cond
  body := body
  ofCond := Cond.derives_words inCond
  ofBody := .block (Block.derives_words inBody)

/-- The words of a condition in parentheses, of the block that it guards, and of what follows. -/
def Arm.wordsBefore (arm : Arm) (later : List String) : List String :=
  parens arm.condWords ++ (arm.bodyWords ++ later)

/-- The words of an `else`, if there is one. -/
def elseWords : Option Otherwise → List String
  | none => []
  | some last => "else" :: last.words

/-- The words of further conditions, each after an `elif`. -/
def elifWords (arms : List Arm) (last : Option Otherwise) : List String :=
  match arms with
  | [] => elseWords last
  | arm :: arms => "elif" :: arm.wordsBefore (elifWords arms last)

/-- The words of a conditional with further conditions. -/
def chainWords (first : Arm) (arms : List Arm) (last : Option Otherwise) : List String :=
  "if" :: first.wordsBefore (elifWords arms last)

/-- The words of further conditions, each in an `else` block that holds all that is left. -/
def elseIfWords (arms : List Arm) (last : Option Otherwise) : List String :=
  match arms with
  | [] => elseWords last
  | arm :: arms => "else" :: braces ("if" :: arm.wordsBefore (elseIfWords arms last))

/-- The words of a conditional whose `else` block holds the next one, down to the last. -/
def nestedWords (first : Arm) (arms : List Arm) (last : Option Otherwise) : List String :=
  "if" :: first.wordsBefore (elseIfWords arms last)

/-- A conditional whose `else` block holds the next one and nothing else, down to the last. -/
def nestedIf (first : Arm) (arms : List Arm) (last : Option Otherwise) : Stmt :=
  match arms, last with
  | [], none => .ifThen first.cond first.body
  | [], some last => .ifElse first.cond first.body last.body
  | second :: arms, last => .ifElse first.cond first.body (.single (nestedIf second arms last))

/-! ### One tree -/

/-- What the conditional `nestedIf` does if its condition does not hold. -/
def otherwiseOf (arms : List Arm) (last : Option Otherwise) : Option Block :=
  match arms with
  | [] => last.map Otherwise.body
  | second :: arms => some (.single (nestedIf second arms last))

theorem nestedIf_eq_branch (first : Arm) (arms : List Arm) (last : Option Otherwise) :
    nestedIf first arms last = .branch first.cond first.body (otherwiseOf arms last) := by
  cases arms with
  | nil => cases last <;> rfl
  | cons second arms => rfl

theorem derives_elseWords (last : Option Otherwise) :
    Derives (elseWords last) (.tail (last.map Otherwise.body)) := by
  cases last with
  | none => exact .noTail
  | some last => exact .elseBlock last.ofBody

theorem derives_elifWords (arms : List Arm) (last : Option Otherwise) :
    Derives (elifWords arms last) (.tail (otherwiseOf arms last)) := by
  induction arms with
  | nil => exact derives_elseWords last
  | cons arm arms ih =>
      rw [otherwiseOf, nestedIf_eq_branch]
      exact .elifBranch arm.ofCond arm.ofBody ih

theorem derives_chainWords (first : Arm) (arms : List Arm) (last : Option Otherwise) :
    Derives (chainWords first arms last) (.stmt (nestedIf first arms last)) := by
  rw [nestedIf_eq_branch]
  exact .conditional first.ofCond first.ofBody (derives_elifWords arms last)

/-- Braces around a statement make it a block. -/
theorem Derives.single {words : List String} {stmt : Stmt} (derived : Derives words (.stmt stmt)) :
    Derives (braces words) (.block (.single stmt)) := by
  have alone : Derives (words ++ []) (.stmts (Block.single stmt).toList) := .next derived .done
  rw [List.append_nil] at alone
  exact .block alone

theorem derives_elseIfWords (arms : List Arm) (last : Option Otherwise) :
    Derives (elseIfWords arms last) (.tail (otherwiseOf arms last)) := by
  induction arms with
  | nil => exact derives_elseWords last
  | cons arm arms ih =>
      rw [otherwiseOf, nestedIf_eq_branch]
      exact .elseBlock (Derives.conditional arm.ofCond arm.ofBody ih).single

theorem derives_nestedWords (first : Arm) (arms : List Arm) (last : Option Otherwise) :
    Derives (nestedWords first arms last) (.stmt (nestedIf first arms last)) := by
  rw [nestedIf_eq_branch]
  exact .conditional first.ofCond first.ofBody (derives_elseIfWords arms last)

/-! ### Where a chain is over -/

theorem not_openTail_else {words : List String} : ¬OpenTail ("else" :: words) := by
  intro isOpen
  generalize spelled : "else" :: words = tailWords at isOpen
  cases isOpen with
  | noTail | elifBranch => simp at spelled

/-- What follows a condition and its block depends on nothing but the words. -/
theorem Arm.later_unique {arm : Arm} {condWords bodyWords later tailWords : List String}
    {cond : Cond} {body : Block} (ofCond : Cond.Derives condWords cond)
    (ofBody : Derives bodyWords (.block body))
    (same : arm.wordsBefore later = parens condWords ++ (bodyWords ++ tailWords)) :
    later = tailWords := by
  have guards : arm.condWords ++ (")" :: (arm.bodyWords ++ later)) =
      condWords ++ (")" :: (bodyWords ++ tailWords)) := by
    simpa [wordsBefore, parens] using same
  obtain ⟨-, sameBlock, -⟩ := arm.ofCond.same_start ofCond guards
  exact (arm.ofBody.block_same_start ofBody (List.cons.inj sameBlock).2).2.1

theorem OpenIf.tail {arm : Arm} {later : List String}
    (isOpen : OpenIf ("if" :: arm.wordsBefore later)) : OpenTail later := by
  generalize spelled : "if" :: arm.wordsBefore later = words at isOpen
  cases isOpen with
  | conditional ofCond ofBody ofTail =>
      rw [Arm.later_unique ofCond ofBody (List.cons.inj spelled).2]
      exact ofTail

theorem OpenTail.tail {arm : Arm} {later : List String}
    (isOpen : OpenTail ("elif" :: arm.wordsBefore later)) : OpenTail later := by
  generalize spelled : "elif" :: arm.wordsBefore later = words at isOpen
  cases isOpen with
  | noTail => cases spelled
  | elifBranch ofCond ofBody ofTail =>
      rw [Arm.later_unique ofCond ofBody (List.cons.inj spelled).2]
      exact ofTail

theorem ended_elseWords {last : Option Otherwise} (isOpen : OpenTail (elseWords last)) :
    last = none := by
  cases last with
  | none => rfl
  | some last => exact absurd isOpen not_openTail_else

theorem ended_elifWords {arms : List Arm} {last : Option Otherwise}
    (isOpen : OpenTail (elifWords arms last)) : last = none := by
  induction arms with
  | nil => exact ended_elseWords isOpen
  | cons arm arms ih => exact ih isOpen.tail

/-- Just a chain without an `else` can be extended by what follows. -/
theorem ended_chainWords {first : Arm} {arms : List Arm} {last : Option Otherwise}
    (isOpen : OpenIf (chainWords first arms last)) : last = none :=
  ended_elifWords isOpen.tail

theorem ended_nestedWords {first : Arm} {arms : List Arm} {last : Option Otherwise}
    (isOpen : OpenIf (nestedWords first arms last)) : last = none := by
  have openTail := isOpen.tail
  cases arms with
  | nil => exact ended_elseWords openTail
  | cons second arms => exact absurd openTail not_openTail_else

/-! ### Replacing a chain -/

/-- A text with the words of a conditional among its own reads as a program exactly if the
conditional stands there in it. -/
theorem parse_iff_standsIn {source : String} {before ifWords after : List String} {stmt : Stmt}
    (spelled : textWords source = before ++ ("if" :: ifWords ++ after))
    (derived : Derives ("if" :: ifWords) (.stmt stmt))
    (ended : OpenIf ("if" :: ifWords) → Unbranched after) (program : Program) :
    Program.parse source = .ok program ↔ StandsIn stmt before after (.stmts program.stmts) := by
  rw [Program.parse_eq_ok_iff, ← textWords, spelled]
  exact program_derives_iff_standsIn derived ended

/-- Two texts that differ in how a chain of conditions is spelled: with `elif` or with conditionals
in `else` blocks. Whatever surrounds the chain, as long as no further branch follows one without an
`else`, the texts read as the same program, and in it a conditional stands at that place whose
`else` blocks each hold the next one and nothing else. -/
theorem elif_chains_are_nested_ifs {first : Arm} {arms : List Arm} {last : Option Otherwise}
    {before after : List String} {chain nested : String}
    (ofChain : textWords chain = before ++ (chainWords first arms last ++ after))
    (ofNested : textWords nested = before ++ (nestedWords first arms last ++ after))
    (ended : last = none → Unbranched after) :
    (∀ program, Program.parse chain = .ok program ↔ Program.parse nested = .ok program) ∧
    (∀ program, Program.parse chain = .ok program ↔
      StandsIn (nestedIf first arms last) before after (.stmts program.stmts)) ∧
    (before = [] → after = [] → Program.parse chain = .ok ⟨[nestedIf first arms last]⟩) := by
  have standsChain := parse_iff_standsIn ofChain (derives_chainWords first arms last)
    fun isOpen => ended (ended_chainWords isOpen)
  have standsNested := parse_iff_standsIn ofNested (derives_nestedWords first arms last)
    fun isOpen => ended (ended_nestedWords isOpen)
  refine ⟨fun program => (standsChain program).trans (standsNested program).symm, standsChain, ?_⟩
  rintro rfl rfl
  exact (standsChain _).mpr (.first .here .done)

/-- A condition on a variable and a block of one statement. -/
def Arm.below (bound : Int32) (stmt : Stmt) (writable : Writable stmt.names) : Arm :=
  have named : Writable ["a"] := by
    unfold Writable
    decide
  .ofTrees (.compare .lt (.num bound) (.var "a")) (.single stmt) named writable

/-- A chain without an `else` at the start of another chain. -/
def chainInChain : String :=
  "if(lt(9,$a))\x7bif(lt(7,$a))\x7bmove;\x7delif(lt(5,$a))\x7bwait;\x7d\x7d" ++
    "elif(lt(3,$a))\x7bturnL;\x7d"

/-- The same with the inner chain spelled as nested conditionals. -/
def nestedInChain : String :=
  "if(lt(9,$a))\x7bif(lt(7,$a))\x7bmove;\x7delse\x7bif(lt(5,$a))\x7bwait;\x7d\x7d\x7d" ++
    "elif(lt(3,$a))\x7bturnL;\x7d"

theorem elif_chains_are_nested_ifs_of_chainInChain :
    let ifBelow (bound : Int32) (stmt : Stmt) : Option Block → Stmt :=
      .branch (.compare .lt (.num bound) (.var "a")) (.single stmt)
    let inner := ifBelow 7 (.move none) (some (.single (ifBelow 5 (.wait none) none)))
    let outer := ifBelow 9 inner (some (.single (ifBelow 3 (.turn .left) none)))
    Program.parse chainInChain = .ok ⟨[outer]⟩ ∧ Program.parse nestedInChain = .ok ⟨[outer]⟩ := by
  intro ifBelow inner outer
  let moving := Arm.below 7 (.move none) writable_nil
  let waiting := Arm.below 5 (.wait none) writable_nil
  let turning := Arm.below 3 (.turn .left) writable_nil
  let holding : Arm :=
    { Arm.below 9 .takeFuel writable_nil with
      bodyWords := braces (chainWords moving [waiting] none)
      body := .single inner
      ofBody := (derives_chainWords moving [waiting] none).single }
  let before := ["if", "(", "lt", "(", "9", ",", "$a", ")", ")", "\x7b"]
  let after := "\x7d" :: elifWords [turning] none
  have ofChain :
      textWords chainInChain = before ++ (chainWords moving [waiting] none ++ after) := by
    decide +kernel
  have outside : textWords chainInChain = chainWords holding [turning] none ++ [] :=
    ofChain.trans (by decide +kernel)
  have ofNested : textWords nestedInChain =
      before ++ (nestedWords moving [waiting] none ++ after) := by
    decide +kernel
  have parsed : Program.parse chainInChain = .ok ⟨[outer]⟩ := by
    rw [Program.parse_eq_ok_iff, ← textWords, outside]
    exact .next (derives_chainWords holding [turning] none) .done
  have same := (elif_chains_are_nested_ifs ofChain ofNested fun _ => unbranched_brace _).1
  exact ⟨parsed, (same ⟨[outer]⟩).mp parsed⟩

end FuelDuel.Language
