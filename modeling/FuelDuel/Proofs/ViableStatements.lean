import FuelDuel.Proofs.ReadStatements
import FuelDuel.Proofs.ViableTerms

/-!
The readings of statements, blocks and whole programs are foreseen. As in the readers themselves,
everything is built on a reader of statements that are nested less deep, and the induction on the
depth of nesting comes last (`Stmt.readWithin_foreseen`).
-/

namespace FuelDuel.Language

open Reader

/-- The shortest statement there is. -/
theorem Stmt.derives_wait : Derives ["wait", ";"] (.stmt (.wait none)) := .action (.wait .absent)

theorem Stmt.viable_nil : Viable (fun words value => Derives words (.stmt value)) [] :=
  ⟨_, _, derives_wait⟩

theorem Block.derives_wait : Derives (braces ["wait", ";"]) (.block (.single (.wait none))) := by
  have inside : Derives ["wait", ";"] (.stmts (Block.single (.wait none)).toList) :=
    .next Stmt.derives_wait .done
  exact .block inside

theorem Block.viable_nil : Viable (fun words value => Derives words (.block value)) [] :=
  ⟨_, _, derives_wait⟩

theorem Block.viable_brace : Viable (fun words value => Derives words (.block value)) ["\x7b"] :=
  ⟨["wait", ";", "\x7d"], _, derives_wait⟩

theorem viable_stmts : Viable (fun words value => Derives words (.stmts value)) [] :=
  ⟨_, _, .done⟩

theorem viable_tail : Viable (fun words value => Derives words (.tail value)) [] :=
  ⟨_, _, .noTail⟩

/-! ### Simple statements -/

section Simple

variable {limit bound : Nat} {tokens : List Token}

theorem viable_end (made : Stmt) : Viable (Preceded ";" (Done made)) [] :=
  viable_preceded_nil (viable_done made)

theorem endWith_foreseen (made : Stmt) :
    Foreseen bound (endWith made) (Preceded ";" (Done made)) tokens (endWith made tokens) :=
  .expectLast (by decide) made

theorem readCounted_foreseen (make : Option Expr → Stmt) (fits : tokens.length < limit) :
    Foreseen bound (readCounted bound make)
      (fun words value => ∃ countWords count, words = countWords ++ [";"] ∧ value = make count ∧
        ArgumentDerives countWords count) tokens (readCounted limit make tokens) := by
  have count : Foreseen bound (optionalArgument (Expr.readWithin bound)) ArgumentDerives tokens
      (optionalArgument (Expr.readWithin limit) tokens) :=
    .optionalArgument fun _ shorter => Expr.readWithin_foreseen (Nat.lt_trans shorter fits)
  refine (count.bind (fun count => viable_end (make count)) fun _ _ => endWith_foreseen _).imp ?_
  rintro _ _ ⟨countWords, _, count, rfl, ofCount, _, rfl, rfl, rfl⟩
  exact ⟨countWords, count, rfl, rfl, ofCount⟩

theorem readAssign_foreseen (name : String) (fits : tokens.length < limit) :
    Foreseen bound (readAssign bound name)
      (fun words value => ∃ exprWords expr, words = "=" :: (exprWords ++ [";"]) ∧
        value = .assign name expr ∧ Expr.Derives exprWords expr) tokens
      (readAssign limit name tokens) := by
  have ending (value : Expr) := viable_end (.assign name value)
  refine (Foreseen.expect (by decide) (viable_joined_first Expr.viable_nil ending)
    fun later shorter => .bind ?_ ending fun _ _ => endWith_foreseen _).imp ?_
  · have value : Foreseen bound (Expr.readWithin bound) Expr.Derives later
        (Expr.readWithin limit later) :=
      Expr.readWithin_foreseen (Nat.lt_trans shorter fits)
    exact value.mono (Nat.sub_le bound 1)
  · rintro _ _ ⟨_, rfl, exprWords, _, expr, rfl, ofExpr, _, rfl, rfl, rfl⟩
    exact ⟨exprWords, expr, rfl, rfl, ofExpr⟩

end Simple

section Statements

variable {limit bound : Nat} {stmt again : Reader Stmt}
  (inner : ∀ {tokens : List Token}, tokens.length < limit →
    Foreseen bound again (fun words value => Derives words (.stmt value)) tokens (stmt tokens))

include inner

/-! ### Sequences of statements -/

/-- Every statement takes a token, so a limit to their number that is above the number of tokens is
not reached. -/
theorem manyUntil_foreseen {stop : List Token → Bool}
    (stopsAlike : ∀ {tokens other : List Token}, nextWord other = nextWord tokens →
      stop other = stop tokens)
    {count countAgain : Nat} {tokens : List Token} (fits : tokens.length < limit)
    (enough : tokens.length < count) :
    Foreseen (min bound countAgain) (manyUntil stop again countAgain)
      (fun words value => Derives words (.stmts value)) tokens
      (manyUntil stop stmt count tokens) := by
  induction count generalizing countAgain tokens with
  | zero => exact absurd enough (Nat.not_lt_zero _)
  | succ count ih =>
      cases stopped : stop tokens with
      | true =>
          rw [manyUntil_of_stop stopped]
          refine .value (spells_nil_iff.mpr rfl) .done (by simp) ?_
          intro other left _ ofWords same
          rw [spells_nil_iff.mp ofWords]
          exact manyUntil_of_stop ((stopsAlike same).trans stopped) countAgain
      | false =>
          have step (countAgain : Nat) : Foreseen (min bound (countAgain + 1))
              (manyUntil stop again (countAgain + 1))
              (fun words value => Derives words (.stmts value)) tokens
              (manyUntil stop stmt (count + 1) tokens) := by
            have first := (inner fits).mono (Nat.min_le_left bound (countAgain + 1))
            have others {words : List String} {value : Stmt} {rest : List Token}
                (spelled : Spells tokens words rest) (ofFirst : Derives words (.stmt value)) :
                Foreseen (min bound (countAgain + 1) - words.length)
                  (manyUntil stop again countAgain)
                  (fun words value => Derives words (.stmts value)) rest
                  (manyUntil stop stmt count rest) := by
              have total := spelled.length_eq
              have nonempty := ofFirst.stmt_length
              have read := @ih countAgain rest (by omega) (by omega)
              exact read.mono (by omega)
            rw [manyUntil_of_not_stop stopped]
            refine ((first.bind (fun _ => viable_made viable_stmts) fun spelled ofFirst =>
              (others spelled ofFirst).map _).imp ?_).congr (Nat.le_refl _) ?_
            · rintro _ _ ⟨firstWords, laterWords, first, rfl, ofFirst, others, ofOthers, rfl⟩
              exact .next ofFirst ofOthers
            · intro other _ same
              exact manyUntil_of_not_stop ((stopsAlike same).trans stopped) countAgain
          cases countAgain with
          | zero =>
              rw [Nat.min_zero]
              exact (step 0).of_zero
          | succ countAgain => exact step countAgain

end Statements

/-! ### Blocks -/

theorem isEmpty_congr {tokens other : List Token} (same : nextWord other = nextWord tokens) :
    other.isEmpty = tokens.isEmpty := by
  cases tokens <;> cases other <;> simp [nextWord] at same ⊢

theorem atBlockEnd_congr {tokens other : List Token} (same : nextWord other = nextWord tokens) :
    atBlockEnd other = atBlockEnd tokens := by
  rw [atBlockEnd, atBlockEnd, isEmpty_congr same, nextIs_congr same]

namespace Block

/-- Reads the statements of a block and its closing brace. -/
def readInside (limit : Nat) (stmt : Reader Stmt) : Reader Block := do
  let first ← stmt
  let others ← manyUntil atBlockEnd stmt limit
  let _ ← expect "\x7d"
  return .ofCons first others

/-- Reads what follows the opening brace of a block. -/
def readOpened (limit : Nat) (stmt : Reader Stmt) : Reader Block := do
  let token ← peek "statement or '\x7d'"
  if token.text = "\x7d" then throw (.emptyBlock token) else readInside limit stmt

section Opened

variable {limit : Nat} {stmt : Reader Stmt} {token : Token} {later : List Token}

theorem readWith_opened (brace : token.text = "\x7b") :
    readWith limit stmt (token :: later) = readOpened limit stmt later :=
  bind_of_ok (expect_eq_ok_iff.mpr ⟨rfl, brace⟩)

theorem readWith_unopened (notBrace : token.text ≠ "\x7b") :
    readWith limit stmt (token :: later) =
      .error (.unexpectedToken token "\x7b") (token :: later) :=
  bind_of_error (expect_of_ne notBrace later)

theorem readOpened_empty (closing : token.text = "\x7d") :
    readOpened limit stmt (token :: later) = .error (.emptyBlock token) (token :: later) := by
  rw [readOpened, bind_of_ok (peek_cons _ token later), if_pos closing]
  rfl

theorem readOpened_filled (filled : token.text ≠ "\x7d") :
    readOpened limit stmt (token :: later) = readInside limit stmt (token :: later) := by
  rw [readOpened, bind_of_ok (peek_cons _ token later), if_neg filled]

/-- An empty block is wrong at its closing brace. -/
theorem readWith_empty_foreseen {bound : Nat} {again : Reader Stmt} {opening : Token}
    (brace : opening.text = "\x7b") (closing : token.text = "\x7d") :
    Foreseen bound (readWith limit again) (fun words value => Derives words (.block value))
      (opening :: token :: later) (.error (.emptyBlock token) (token :: later)) := by
  have spelled : Spells (opening :: token :: later) ["\x7b"] (token :: later) :=
    spells_singleton_iff.mpr ⟨opening, rfl, brace⟩
  refine .wrong rfl rfl spelled viable_brace ?_ ?_
  · intro other left _ ofWords
    obtain ⟨first, others, rfl, opens, ofClosing⟩ := spells_cons_iff.mp ofWords
    obtain ⟨second, rfl, closes⟩ := spells_singleton_iff.mp ofClosing
    rw [readWith_opened opens]
    exact ⟨_, _, readOpened_empty (closes.trans closing)⟩
  · simp [closing]

end Opened

section Inner

variable {limit bound : Nat} {stmt again : Reader Stmt}
  (inner : ∀ {tokens : List Token}, tokens.length < limit →
    Foreseen bound again (fun words value => Derives words (.stmt value)) tokens (stmt tokens))

include inner

theorem readInside_foreseen {tokens : List Token} (fits : tokens.length < limit) :
    Foreseen bound (readInside bound again)
      (fun words value => ∃ inside, words = inside ++ ["\x7d"] ∧
        Derives inside (.stmts value.toList))
      tokens (readInside limit stmt tokens) := by
  have closing (body : Block) : Viable (Preceded "\x7d" (Done body)) [] :=
    viable_preceded_nil (viable_done body)
  have others {words : List String} {rest : List Token} (spelled : Spells tokens words rest) :
      Foreseen (bound - words.length) (manyUntil atBlockEnd again bound)
        (fun words value => Derives words (.stmts value)) rest
        (manyUntil atBlockEnd stmt limit rest) := by
    have total := spelled.length_eq
    have read := @manyUntil_foreseen _ _ _ _ inner atBlockEnd atBlockEnd_congr limit bound rest
      (by omega) (by omega)
    exact read.mono (by omega)
  refine ((inner fits).bind (fun first => viable_joined_first viable_stmts fun others =>
    closing (.ofCons first others)) fun spelled _ =>
      (others spelled).bind (fun _ => closing _) fun _ _ => .expectLast (by decide) _).imp ?_
  rintro _ _ ⟨firstWords, _, first, rfl, ofFirst, laterWords, _, others, rfl, ofOthers, _, rfl, rfl,
    rfl⟩
  refine ⟨firstWords ++ laterWords, by simp, ?_⟩
  rw [toList_ofCons]
  exact .next ofFirst ofOthers

theorem readWith_foreseen {tokens : List Token} (fits : tokens.length < limit + 1) :
    Foreseen (bound + 1) (readWith bound again) (fun words value => Derives words (.block value))
      tokens (readWith limit stmt tokens) := by
  cases tokens with
  | nil => exact .ended viable_nil
  | cons token later =>
      by_cases brace : token.text = "\x7b"
      · rw [readWith_opened brace]
        cases later with
        | nil =>
            refine .ended ?_
            rw [List.map_singleton, brace]
            exact viable_brace
        | cons first others =>
            by_cases closing : first.text = "\x7d"
            · rw [readOpened_empty closing]
              exact readWith_empty_foreseen brace closing
            · rw [readOpened_filled closing]
              have inside := readInside_foreseen inner (Nat.lt_of_succ_lt_succ fits)
              have opened : Foreseen bound (readOpened bound again) _ (first :: others) _ :=
                inside.congr (Nat.le_refl bound) ?_
              · refine (opened.cons (Nat.le_refl _) ?_ ?_ ?_).imp ?_
                · intro other left text
                  exact readWith_opened (text.trans brace)
                · rintro - body ⟨inside, none, -⟩
                  simp at none
                · intro _ next
                  simp [nextWord, closing] at next
                · rintro _ body ⟨_, rfl, inside, rfl, ofStmts⟩
                  rw [brace]
                  exact .block ofStmts
              · intro other _ same
                cases other with
                | nil => cases same
                | cons second left =>
                    have text : second.text = first.text := by simpa [nextWord] using same
                    exact readOpened_filled (text ▸ closing)
      · rw [readWith_unopened brace]
        refine .unfit rfl rfl (by simp) viable_nil ?_
        intro other left text
        exact ⟨_, _, readWith_unopened (text ▸ brace)⟩

end Inner

end Block

/-! ### Branches -/

/-- A guard, its block and what follows the block, with the tree `make cond body otherwise`. -/
def BranchDerives {β : Type} (make : Cond → Block → Option Block → β) (words : List String)
    (value : β) : Prop :=
  ∃ condWords bodyWords tailWords cond body otherwise,
    words = parens condWords ++ (bodyWords ++ tailWords) ∧ Cond.Derives condWords cond ∧
      Derives bodyWords (.block body) ∧ Derives tailWords (.tail otherwise) ∧
      value = make cond body otherwise

theorem NoBranch.congr {tokens other : List Token} (noBranch : NoBranch tokens)
    (same : nextWord other = nextWord tokens) : NoBranch other :=
  ⟨(nextIs_congr same _).trans noBranch.1, (nextIs_congr same _).trans noBranch.2⟩

section Branches

variable {limit bound : Nat} {stmt again : Reader Stmt}
  (inner : ∀ {tokens : List Token}, tokens.length < limit →
    Foreseen bound again (fun words value => Derives words (.stmt value)) tokens (stmt tokens))

include inner

theorem readGuarded_foreseen {tokens : List Token} (fits : tokens.length < limit) :
    Foreseen bound (readGuarded bound again) GuardedDerives tokens
      (readGuarded limit stmt tokens) := by
  have guard : Foreseen bound (parenthesized (Cond.readWithin bound))
      (fun words value => ∃ condWords, words = parens condWords ∧ Cond.Derives condWords value)
      tokens (parenthesized (Cond.readWithin limit) tokens) :=
    .parenthesized Cond.viable_nil fun _ shorter =>
      Cond.readWithin_foreseen (Nat.lt_trans shorter fits)
  have body {words : List String} {rest : List Token} (spelled : Spells tokens words rest) :
      Foreseen (bound - words.length) (Block.readWith bound again)
        (fun words value => Derives words (.block value)) rest
        (Block.readWith limit stmt rest) := by
    have total := spelled.length_eq
    exact (Block.readWith_foreseen inner (by omega)).mono (by omega)
  refine (guard.bind (fun _ => viable_made Block.viable_nil) fun spelled _ =>
    (body spelled).map _).imp ?_
  rintro _ _ ⟨_, bodyWords, cond, rfl, ⟨condWords, rfl, ofCond⟩, body, ofBody, rfl⟩
  exact ⟨condWords, bodyWords, rfl, ofCond, ofBody⟩

theorem readBranch_foreseen {β : Type} (make : Cond → Block → Option Block → β) {fewer : Nat}
    (less : fewer ≤ bound) {tail tailAgain : Reader (Option Block)} {tokens : List Token}
    (fits : tokens.length < limit)
    (readTail : ∀ {rest : List Token}, rest.length ≤ tokens.length →
      Foreseen fewer tailAgain (fun words value => Derives words (.tail value)) rest
        (tail rest)) :
    Foreseen fewer
      (do
        let (cond, body) ← readGuarded bound again
        return make cond body (← tailAgain))
      (BranchDerives make) tokens
      ((do
        let (cond, body) ← readGuarded limit stmt
        return make cond body (← tail)) tokens) := by
  have guarded := (readGuarded_foreseen inner fits).mono less
  have otherwise {words : List String} {rest : List Token} (spelled : Spells tokens words rest) :
      Foreseen (fewer - words.length) tailAgain (fun words value => Derives words (.tail value))
        rest (tail rest) := by
    have total := spelled.length_eq
    exact (readTail (by omega)).mono (Nat.sub_le _ _)
  refine (guarded.bind (fun _ => viable_made viable_tail) fun spelled _ =>
    (otherwise spelled).map _).imp ?_
  rintro _ _ ⟨_, tailWords, ⟨cond, body⟩, rfl, ⟨condWords, bodyWords, rfl, ofCond, ofBody⟩,
    otherwise, ofTail, rfl⟩
  exact ⟨condWords, bodyWords, tailWords, cond, body, otherwise, by rw [List.append_assoc], ofCond,
    ofBody, ofTail, rfl⟩

/-- Every branch takes a token, so a limit to their number that is above the number of tokens is not
reached. -/
theorem readOtherwise_foreseen {branches branchesAgain : Nat} {tokens : List Token}
    (fits : tokens.length < limit) (enough : tokens.length < branches) :
    Foreseen (min bound branchesAgain) (readOtherwise bound again branchesAgain)
      (fun words value => Derives words (.tail value)) tokens
      (readOtherwise limit stmt branches tokens) := by
  induction branches generalizing branchesAgain tokens with
  | zero => exact absurd enough (Nat.not_lt_zero _)
  | succ branches ih =>
      rcases branch_or_noBranch tokens with noBranch | ⟨token, later, rfl, branch⟩
      · rw [readOtherwise_of_noBranch noBranch]
        refine .value (spells_nil_iff.mpr rfl) .noTail (by simp) ?_
        intro other left _ ofWords same
        rw [spells_nil_iff.mp ofWords]
        exact readOtherwise_of_noBranch (noBranch.congr same)
      · have step (branchesAgain : Nat) : Foreseen (min bound (branchesAgain + 1))
            (readOtherwise bound again (branchesAgain + 1))
            (fun words value => Derives words (.tail value)) (token :: later)
            (readOtherwise limit stmt (branches + 1) (token :: later)) := by
          simp only [List.length_cons] at fits enough
          have shorter : later.length < limit := by omega
          rcases branch with elif | otherwise
          · have readOn := readBranch_foreseen inner elifBlock
              (Nat.min_le_left bound branchesAgain) shorter fun _ => ih (by omega) (by omega)
            rw [readOtherwise_elif elif]
            refine (readOn.lead (by omega) ?_ (by rw [elif]; decide)).imp ?_
            · intro other left text
              exact readOtherwise_elif (text.trans elif)
            · rintro _ _ ⟨_, rfl, condWords, bodyWords, tailWords, cond, body, tail, rfl, ofCond,
                ofBody, ofTail, rfl⟩
              rw [elif]
              exact .elifBranch ofCond ofBody ofTail
          · have readOn := (Block.readWith_foreseen inner (Nat.lt_succ_of_lt shorter)).map some
            rw [readOtherwise_else otherwise]
            refine (readOn.lead (by omega) ?_ (by rw [otherwise]; decide)).imp ?_
            · intro other left text
              exact readOtherwise_else (text.trans otherwise)
            · rintro _ _ ⟨_, rfl, body, ofBody, rfl⟩
              rw [otherwise]
              exact .elseBlock ofBody
        cases branchesAgain with
        | zero =>
            rw [Nat.min_zero]
            exact (step 0).of_zero
        | succ branchesAgain => exact step branchesAgain

/-! ### Statements -/

/-- A word that starts a statement does so whatever the limits, and what follows it is foreseen. -/
theorem readAfter?_foreseen {word : String} {after : Reader Stmt} {tokens : List Token}
    (known : readAfter? limit stmt word = some after) (fits : tokens.length < limit) :
    ∃ afterAgain, readAfter? bound again word = some afterAgain ∧
      Foreseen bound afterAgain (fun words value => Derives (word :: words) (.stmt value)) tokens
        (after tokens) := by
  have single {word : String} {made : Stmt} (ofAction : ActionDerives [word] made) :
      Foreseen bound (endWith made) (fun words value => Derives (word :: words) (.stmt value))
        tokens (endWith made tokens) := by
    refine (endWith_foreseen made).imp ?_
    rintro _ _ ⟨_, rfl, rfl, rfl⟩
    exact .action ofAction
  -- The alternatives of `readAfter?` in order: counted actions, actions of one word, and then the
  -- statements that hold others.
  unfold readAfter? at known
  split at known <;> cases known
  case h_1 =>
    refine ⟨_, rfl, (readCounted_foreseen _ fits).imp ?_⟩
    rintro _ _ ⟨countWords, count, rfl, rfl, ofCount⟩
    exact .action (.move ofCount)
  case h_2 =>
    refine ⟨_, rfl, (readCounted_foreseen _ fits).imp ?_⟩
    rintro _ _ ⟨countWords, count, rfl, rfl, ofCount⟩
    exact .action (.wait ofCount)
  case h_3 => exact ⟨_, rfl, single (@ActionDerives.turn .left)⟩
  case h_4 => exact ⟨_, rfl, single (@ActionDerives.turn .right)⟩
  case h_5 => exact ⟨_, rfl, single (@ActionDerives.turn .around)⟩
  case h_6 => exact ⟨_, rfl, single .takeFuel⟩
  case h_7 => exact ⟨_, rfl, single .shieldOn⟩
  case h_8 => exact ⟨_, rfl, single .shieldOff⟩
  case h_9 =>
    have body := (Block.readWith_foreseen inner (Nat.lt_succ_of_lt fits)).mono (Nat.le_succ bound)
    refine ⟨_, rfl, (body.map Stmt.loop).imp ?_⟩
    rintro _ _ ⟨body, ofBody, rfl⟩
    exact .loop ofBody
  case h_10 =>
    have readTail {rest : List Token} (shorter : rest.length ≤ tokens.length) :
        Foreseen bound (readOtherwise bound again bound)
          (fun words value => Derives words (.tail value)) rest
          (readOtherwise limit stmt limit rest) := by
      have read := @readOtherwise_foreseen _ _ _ _ inner limit bound rest (by omega) (by omega)
      rwa [Nat.min_self] at read
    refine ⟨_, rfl,
      (readBranch_foreseen inner Stmt.branch (Nat.le_refl bound) fits readTail).imp ?_⟩
    rintro _ _ ⟨condWords, bodyWords, tailWords, cond, body, otherwise, rfl, ofCond, ofBody, ofTail,
      rfl⟩
    exact .conditional ofCond ofBody ofTail
  case h_11 =>
    refine ⟨_, rfl, ((readGuarded_foreseen inner fits).map fun parts =>
      Stmt.while parts.1 parts.2).imp ?_⟩
    rintro _ _ ⟨_, ⟨condWords, bodyWords, rfl, ofCond, ofBody⟩, rfl⟩
    exact .whileLoop ofCond ofBody

end Branches

/-- Whether a word starts a statement does not depend on the limits. -/
theorem readAfter?_unknown {limit other : Nat} {stmt otherStmt : Reader Stmt} {word : String}
    (unknown : readAfter? limit stmt word = none) : readAfter? other otherStmt word = none := by
  unfold readAfter? at unknown ⊢
  split at unknown
  case h_12 => rfl
  all_goals cases unknown

namespace Stmt

variable {limit bound : Nat} {token : Token} {later : List Token}

theorem variable_foreseen (kind : token.kind = .variableName) (fits : later.length < limit) :
    Foreseen (bound + 1) (readWithin (bound + 1)) (fun words value => Derives words (.stmt value))
      (token :: later) (readWithin (limit + 1) (token :: later)) := by
  obtain ⟨text, writable⟩ := Token.kind_eq_variableName_iff.mp kind
  have notBrace := Token.ne_brace_of_variableName kind
  rw [readWithin_variable kind]
  refine ((readAssign_foreseen token.name fits).lead (Nat.le_refl _) ?_ notBrace).imp ?_
  · intro other left same
    rw [readWithin_variable ((Token.kind_congr same).trans kind), Token.name_congr same]
  · rintro _ _ ⟨_, rfl, exprWords, expr, rfl, rfl, ofExpr⟩
    rw [text]
    exact .action (.assign writable ofExpr)

section Step

variable (inner : ∀ {tokens : List Token}, tokens.length < limit →
  Foreseen bound (readWithin bound) (fun words value => Derives words (.stmt value)) tokens
    (readWithin limit tokens))

include inner

theorem block_foreseen (spelled : token.text = "\x7b") (fits : later.length < limit) :
    Foreseen (bound + 1) (readWithin (bound + 1)) (fun words value => Derives words (.stmt value))
      (token :: later) (readWithin (limit + 1) (token :: later)) := by
  have within : (token :: later).length < limit + 1 := Nat.succ_lt_succ fits
  have body := Block.readWith_foreseen inner within
  rw [readWithin_brace spelled]
  refine ((body.map block).imp ?_).congr (Nat.le_refl _) ?_
  · rintro _ _ ⟨body, ofBody, rfl⟩
    exact .nested ofBody
  · intro other _ same
    cases other with
    | nil => cases same
    | cons first left =>
        have text : first.text = token.text := by simpa [nextWord] using same
        exact readWithin_brace (text.trans spelled)

theorem word_foreseen {after : Reader Stmt}
    (known : readAfter? limit (readWithin limit) token.text = some after)
    (fits : later.length < limit) :
    Foreseen (bound + 1) (readWithin (bound + 1)) (fun words value => Derives words (.stmt value))
      (token :: later) (readWithin (limit + 1) (token :: later)) := by
  obtain ⟨afterAgain, knownAgain, read⟩ := readAfter?_foreseen inner known fits
  rw [readWithin_word rfl known]
  refine (read.lead (Nat.le_refl _) ?_ (readAfter?_word known).2).imp ?_
  · intro other left text
    exact readWithin_word text knownAgain
  · rintro _ _ ⟨words, rfl, derived⟩
    exact derived

end Step

theorem readWithin_foreseen {tokens : List Token} (fits : tokens.length < limit) :
    Foreseen bound (readWithin bound) (fun words value => Derives words (.stmt value)) tokens
      (readWithin limit tokens) := by
  induction limit generalizing bound tokens with
  | zero => exact absurd fits (Nat.not_lt_zero _)
  | succ limit ih =>
      refine .of_succ fun bound => ?_
      cases tokens with
      | nil => exact .ended viable_nil
      | cons token later =>
          have shorter : later.length < limit := Nat.lt_of_succ_lt_succ fits
          by_cases named : token.kind = .variableName
          · exact variable_foreseen named shorter
          by_cases brace : token.text = "\x7b"
          · exact block_foreseen ih brace shorter
          cases known : readAfter? limit (readWithin limit) token.text with
          | some after => exact word_foreseen ih known shorter
          | none =>
              rw [readWithin_unrecognized named brace known]
              refine .unfit rfl rfl nofun viable_nil ?_
              intro other left text
              refine ⟨_, _, readWithin_unrecognized ?_ ?_ ?_⟩
              · rwa [Token.kind_congr text]
              · rwa [text]
              · rw [text]
                exact readAfter?_unknown known

end Stmt

/-! ### Programs -/

namespace Program

/-- Reads statements up to the end of the tokens, within the given limit. -/
def readWithin (limit : Nat) : Reader Program := do
  let stmts ← manyUntil List.isEmpty (Stmt.readWithin limit) limit
  return ⟨stmts⟩

theorem read_eq_readWithin (tokens : List Token) :
    Program.read tokens = readWithin (tokens.length + 1) tokens := rfl

theorem readWithin_foreseen {limit bound : Nat} {tokens : List Token}
    (fits : tokens.length < limit) :
    Foreseen bound (readWithin bound) Program.Derives tokens (readWithin limit tokens) := by
  have stmts := @manyUntil_foreseen limit bound _ _ Stmt.readWithin_foreseen List.isEmpty
    isEmpty_congr limit bound tokens fits fits
  rw [Nat.min_self] at stmts
  refine (stmts.map Program.mk).imp ?_
  rintro _ _ ⟨stmts, ofStmts, rfl⟩
  exact ofStmts

end Program

end FuelDuel.Language
