import FuelDuel.Proofs.ReadTerms

/-!
The readers of statements, blocks and programs recognise their constructs. All of them are built on
a reader of statements that is nested less deep, so each of the lemmas here takes what that reader
recognises as given, and the induction on the depth of nesting comes last
(`Stmt.readWithin_recognizes`). What can extend a statement is a further branch after a conditional
that has no `else`.
-/

namespace FuelDuel.Language

open Reader

/-- No further branch of a conditional follows. -/
def NoBranch (rest : List Token) : Prop :=
  nextIs "elif" rest = false ∧ nextIs "else" rest = false

/-- No further branch follows a conditional that it would extend. -/
def Stmt.Ends (words : List String) (rest : List Token) : Prop := OpenIf words → NoBranch rest

/-! ### How statements start -/

/-- A statement starts with a word that neither closes a block nor continues a conditional. -/
theorem Derives.stmt_start {words : List String} {stmt : Stmt}
    (derived : Derives words (.stmt stmt)) :
    ∃ word later, words = word :: later ∧ word ≠ "\x7d" ∧ word ≠ "elif" ∧ word ≠ "else" := by
  cases derived with
  | action ofAction =>
      cases ofAction with
      | @turn way => exact ⟨_, _, rfl, by cases way <;> decide⟩
      | @assign name words value writable ofValue =>
          exact ⟨_, _, rfl, dollar_ne (by decide), dollar_ne (by decide), dollar_ne (by decide)⟩
      | _ => exact ⟨_, _, rfl, by decide⟩
  | nested ofBody =>
      cases ofBody with
      | block ofStmts => exact ⟨_, _, rfl, by decide⟩
  | _ => exact ⟨_, _, rfl, by decide⟩

theorem Derives.stmt_length {words : List String} {stmt : Stmt}
    (derived : Derives words (.stmt stmt)) : 1 ≤ words.length := by
  obtain ⟨word, later, rfl, -⟩ := derived.stmt_start
  simp

theorem Derives.stmts_noBranch {words : List String} {stmts : List Stmt}
    {tokens rest : List Token} (derived : Derives words (.stmts stmts))
    (spelled : Spells tokens words rest) (after : NoBranch rest) : NoBranch tokens := by
  cases derived with
  | done =>
      obtain rfl := spells_nil_iff.mp spelled
      exact after
  | next ofStmt ofStmts =>
      obtain ⟨middle, spelledFirst, -⟩ := spells_append_iff.mp spelled
      obtain ⟨word, later, rfl, -, notElif, notElse⟩ := ofStmt.stmt_start
      have next := nextIs_of_spells spelledFirst
      exact ⟨nextIs_unique next notElif, nextIs_unique next notElse⟩

/-! ### Sequences of statements -/

section Many

variable {α : Type} {stop : List Token → Bool} {item : Reader α} {tokens : List Token}

theorem manyUntil_of_stop (stopped : stop tokens = true) (limit : Nat) :
    manyUntil stop item limit tokens = .ok [] tokens := by
  cases limit with
  | zero => rfl
  | succ limit =>
      simp only [manyUntil, bind_of_ok (get_apply tokens), stopped, if_true, pure_apply]

theorem manyUntil_of_not_stop (goes : stop tokens = false) (limit : Nat) :
    manyUntil stop item (limit + 1) tokens =
      (do
        let first ← item
        let others ← manyUntil stop item limit
        return first :: others) tokens := by
  simp only [manyUntil, bind_of_ok (get_apply tokens), goes, Bool.false_eq_true, if_false]

end Many

/-- Where the statements of a block end. -/
def atBlockEnd (left : List Token) : Bool := left.isEmpty || nextIs "\x7d" left

theorem Block.readWith_eq_ok_iff {limit : Nat} {stmt : Reader Stmt} {tokens rest : List Token}
    {body : Block} :
    Block.readWith limit stmt tokens = .ok body rest ↔
      ∃ token later first middle others after, Spells tokens ["\x7b"] (token :: later) ∧
        token.text ≠ "\x7d" ∧ stmt (token :: later) = .ok first middle ∧
        manyUntil atBlockEnd stmt limit middle = .ok others after ∧
        Spells after ["\x7d"] rest ∧ .ofCons first others = body := by
  rw [Block.readWith, expect_bind_eq_ok_iff]
  constructor
  · rintro ⟨inside, opened, read⟩
    cases inside with
    | nil => cases read
    | cons token later =>
        rw [bind_of_ok (peek_cons _ token later)] at read
        split at read
        · cases read
        · rename_i notClosing
          obtain ⟨first, middle, readFirst, read⟩ := bind_eq_ok_iff.mp read
          obtain ⟨others, after, readOthers, read⟩ := bind_eq_ok_iff.mp read
          obtain ⟨_, closed, read⟩ := expect_bind_eq_ok_iff.mp read
          cases read
          exact ⟨token, later, first, middle, others, after, opened, notClosing, readFirst,
            readOthers, closed, rfl⟩
  · rintro ⟨token, later, first, middle, others, after, opened, notClosing, readFirst, readOthers,
      closed, rfl⟩
    refine ⟨token :: later, opened, ?_⟩
    rw [bind_of_ok (peek_cons _ token later), if_neg notClosing, bind_of_ok readFirst]
    refine bind_eq_ok_iff.mpr ⟨others, after, readOthers, ?_⟩
    exact expect_bind_eq_ok_iff.mpr ⟨rest, closed, rfl⟩

theorem atBlockEnd_of_spells {tokens rest : List Token} {word : String} {later : List String}
    (spelled : Spells tokens (word :: later) rest) (notClosing : word ≠ "\x7d") :
    atBlockEnd tokens = false := by
  obtain ⟨token, others, rfl, -⟩ := spells_cons_iff.mp spelled
  have next := nextIs_unique (nextIs_of_spells spelled) notClosing
  simp [atBlockEnd, next]

theorem Block.ofCons_toList {body : Block} {first : Stmt} {others : List Stmt}
    (same : body.toList = first :: others) : Block.ofCons first others = body := by
  cases body with
  | single stmt =>
      cases same
      rfl
  | cons stmt rest =>
      obtain ⟨second, later, ofRest⟩ := List.exists_cons_of_ne_nil rest.toList_ne_nil
      rw [Block.toList, ofRest] at same
      cases same
      rw [Block.ofCons, Block.ofCons_toList ofRest]

/-! ### Simple statements -/

section Simple

variable {limit : Nat}

theorem endWith_eq_ok_iff {made value : Stmt} {tokens rest : List Token} :
    endWith made tokens = .ok value rest ↔ Spells tokens [";"] rest ∧ made = value := by
  rw [endWith, expect_bind_eq_ok_iff]
  constructor
  · rintro ⟨_, spelled, done⟩
    cases done
    exact ⟨spelled, rfl⟩
  · rintro ⟨spelled, rfl⟩
    exact ⟨rest, spelled, rfl⟩

theorem endWith_sound {word : String} {made value : Stmt} {tokens rest : List Token}
    (ofAction : ActionDerives [word] made) (read : endWith made tokens = .ok value rest) :
    ∃ words, Spells tokens words rest ∧ Derives (word :: words) (.stmt value) := by
  obtain ⟨spelled, rfl⟩ := endWith_eq_ok_iff.mp read
  exact ⟨[";"], spelled, .action ofAction⟩

theorem readCounted_recognizes (make : Option Expr → Stmt) :
    Recognizes limit (readCounted limit make)
      (fun words value => ∃ countWords count, words = countWords ++ [";"] ∧ value = make count ∧
        ArgumentDerives countWords count) AlwaysEnds where
  sound := by
    intro tokens value rest read
    obtain ⟨count, middle, readCount, read⟩ := bind_eq_ok_iff.mp read
    obtain ⟨countWords, spelledCount, ofCount⟩ :=
      (optionalArgument_recognizes (Expr.readWithin_recognizes limit)).sound readCount
    obtain ⟨spelledEnd, rfl⟩ := endWith_eq_ok_iff.mp read
    exact ⟨_, spells_append_iff.mpr ⟨middle, spelledCount, spelledEnd⟩, countWords, count, rfl,
      rfl, ofCount⟩
  complete := by
    rintro tokens _ _ rest ⟨countWords, count, rfl, rfl, ofCount⟩ spelled - short
    obtain ⟨middle, spelledCount, spelledEnd⟩ := spells_append_iff.mp spelled
    simp only [List.length_append] at short
    have notOpen : nextIs "(" middle = false :=
      nextIs_unique (nextIs_of_spells spelledEnd) (by decide)
    have readCount : optionalArgument (Expr.readWithin limit) tokens = .ok count middle :=
      (optionalArgument_recognizes (Expr.readWithin_recognizes limit)).complete ofCount spelledCount
        (fun _ => notOpen) (by omega)
    rw [readCounted, bind_of_ok readCount]
    exact endWith_eq_ok_iff.mpr ⟨spelledEnd, rfl⟩

theorem readAssign_recognizes (name : String) :
    Recognizes limit (readAssign limit name)
      (fun words value => ∃ exprWords expr, words = "=" :: (exprWords ++ [";"]) ∧
        value = .assign name expr ∧ Expr.Derives exprWords expr) AlwaysEnds where
  sound := by
    intro tokens value rest read
    obtain ⟨later, assigned, read⟩ := expect_bind_eq_ok_iff.mp read
    obtain ⟨expr, middle, readExpr, read⟩ := bind_eq_ok_iff.mp read
    obtain ⟨exprWords, spelledExpr, ofExpr⟩ := (Expr.readWithin_recognizes limit).sound readExpr
    obtain ⟨spelledEnd, rfl⟩ := endWith_eq_ok_iff.mp read
    exact ⟨_, spells_enclosed_iff.mpr ⟨later, middle, assigned, spelledExpr, spelledEnd⟩,
      exprWords, expr, rfl, rfl, ofExpr⟩
  complete := by
    rintro tokens _ _ rest ⟨exprWords, expr, rfl, rfl, ofExpr⟩ spelled - short
    obtain ⟨later, middle, assigned, spelledExpr, spelledEnd⟩ := spells_enclosed_iff.mp spelled
    simp only [List.length_cons, List.length_append] at short
    have readExpr : Expr.readWithin limit later = .ok expr middle :=
      (Expr.readWithin_recognizes limit).complete ofExpr spelledExpr
        (Expr.ends_of_nextIs (by decide) (nextIs_of_spells spelledEnd)) (by omega)
    refine expect_bind_eq_ok_iff.mpr ⟨later, assigned, bind_eq_ok_iff.mpr ?_⟩
    exact ⟨expr, middle, readExpr, endWith_eq_ok_iff.mpr ⟨spelledEnd, rfl⟩⟩

end Simple

section Branches

/-- The `else` block that a further condition stands for. -/
def elifBlock (cond : Cond) (body : Block) (otherwise : Option Block) : Option Block :=
  some (.single (.branch cond body otherwise))

variable {limit branches : Nat} {stmt : Reader Stmt} {token : Token} {later : List Token}

theorem readOtherwise_elif (spelled : token.text = "elif") :
    readOtherwise limit stmt (branches + 1) (token :: later) =
      (do
        let (cond, body) ← readGuarded limit stmt
        return elifBlock cond body (← readOtherwise limit stmt branches)) later := by
  have next : nextIs "elif" (token :: later) = true := by simp [nextIs, spelled]
  simp only [elifBlock, readOtherwise, bind_of_ok (get_apply (token :: later)), next, if_true,
    bind_of_ok (skip_cons token later)]

theorem readOtherwise_else (spelled : token.text = "else") :
    readOtherwise limit stmt (branches + 1) (token :: later) =
      (do return some (← Block.readWith limit stmt)) later := by
  have next : nextIs "else" (token :: later) = true := by simp [nextIs, spelled]
  have notElif : nextIs "elif" (token :: later) = false := nextIs_unique next (by decide)
  simp only [readOtherwise, bind_of_ok (get_apply (token :: later)), notElif, Bool.false_eq_true,
    if_false, next, if_true, bind_of_ok (skip_cons token later)]

theorem readOtherwise_of_noBranch {tokens : List Token} (noBranch : NoBranch tokens) :
    readOtherwise limit stmt branches tokens = .ok none tokens := by
  cases branches with
  | zero => rfl
  | succ branches =>
      simp only [readOtherwise, bind_of_ok (get_apply tokens), noBranch.1, noBranch.2,
        Bool.false_eq_true, if_false, pure_apply]

/-- The next token, if it starts a further branch. -/
theorem branch_or_noBranch (tokens : List Token) :
    NoBranch tokens ∨ ∃ token later, tokens = token :: later ∧
      (token.text = "elif" ∨ token.text = "else") := by
  cases tokens with
  | nil => exact .inl ⟨rfl, rfl⟩
  | cons token later =>
      by_cases branch : token.text = "elif" ∨ token.text = "else"
      · exact .inr ⟨token, later, rfl, branch⟩
      · rw [not_or] at branch
        exact .inl ⟨by simp [nextIs, branch.1], by simp [nextIs, branch.2]⟩

end Branches

section Statements

variable {limit : Nat} {stmt : Reader Stmt}
  (inner : Recognizes limit stmt (fun words value => Derives words (.stmt value)) Stmt.Ends)
include inner

/-- Statements are read up to where the test stops them, unless `count` of them come first. -/
theorem manyUntil_sound {stop : List Token → Bool} {count : Nat} {tokens rest : List Token}
    {stmts : List Stmt} (read : manyUntil stop stmt count tokens = .ok stmts rest) :
    ∃ words, Spells tokens words rest ∧ Derives words (.stmts stmts) ∧
      (stop rest = true ∨ count ≤ words.length) := by
  induction count generalizing tokens stmts with
  | zero =>
      cases read
      exact ⟨[], spells_nil_iff.mpr rfl, .done, .inr (Nat.zero_le _)⟩
  | succ count ih =>
      cases stopped : stop tokens with
      | true =>
          rw [manyUntil_of_stop stopped] at read
          cases read
          exact ⟨[], spells_nil_iff.mpr rfl, .done, .inl stopped⟩
      | false =>
          rw [manyUntil_of_not_stop stopped] at read
          obtain ⟨first, middle, readFirst, read⟩ := bind_eq_ok_iff.mp read
          obtain ⟨others, readOthers, rfl⟩ := map_eq_ok_iff.mp read
          obtain ⟨firstWords, spelledFirst, ofFirst⟩ := inner.sound readFirst
          obtain ⟨laterWords, spelledLater, ofOthers, ending⟩ := ih readOthers
          refine ⟨firstWords ++ laterWords, spells_append_iff.mpr ⟨middle, spelledFirst,
            spelledLater⟩, .next ofFirst ofOthers, ending.imp_right fun enough => ?_⟩
          have nonempty := ofFirst.stmt_length
          simp only [List.length_append]
          omega

theorem manyUntil_complete {stop : List Token → Bool} {count : Nat} {tokens rest : List Token}
    {words : List String} {stmts : List Stmt}
    (goes : ∀ {tokens word later rest}, Spells tokens (word :: later) rest → word ≠ "\x7d" →
      stop tokens = false)
    (derived : Derives words (.stmts stmts)) (spelled : Spells tokens words rest)
    (stopped : stop rest = true) (after : NoBranch rest) (short : words.length ≤ limit)
    (enough : words.length ≤ count) : manyUntil stop stmt count tokens = .ok stmts rest := by
  induction stmts generalizing count tokens words with
  | nil =>
      cases derived
      obtain rfl := spells_nil_iff.mp spelled
      exact manyUntil_of_stop stopped count
  | cons first others ih =>
      cases derived with
      | @next firstWords laterWords _ _ ofStmt ofStmts =>
          obtain ⟨middle, spelledFirst, spelledLater⟩ := spells_append_iff.mp spelled
          obtain ⟨word, wordsAfter, same, notClosing, -⟩ := ofStmt.stmt_start
          have going : stop tokens = false := goes (same ▸ spelledFirst) notClosing
          have nonempty := ofStmt.stmt_length
          simp only [List.length_append] at short enough
          obtain ⟨fewer, rfl⟩ : ∃ fewer, count = fewer + 1 := ⟨count - 1, by omega⟩
          have readFirst : stmt tokens = .ok first middle :=
            inner.complete ofStmt spelledFirst
              (fun _ => ofStmts.stmts_noBranch spelledLater after) (by omega)
          have readOthers : manyUntil stop stmt fewer middle = .ok others rest :=
            ih ofStmts spelledLater (by omega) (by omega)
          rw [manyUntil_of_not_stop going, bind_of_ok readFirst, bind_of_ok readOthers]
          rfl

/-! ### Blocks and branches -/

theorem Block.readWith_recognizes :
    Recognizes (limit + 1) (Block.readWith limit stmt)
      (fun words value => Derives words (.block value)) AlwaysEnds where
  sound := by
    intro tokens body rest read
    obtain ⟨token, later, first, middle, others, after, opened, -, readFirst, readOthers, closed,
      rfl⟩ := Block.readWith_eq_ok_iff.mp read
    obtain ⟨firstWords, spelledFirst, ofFirst⟩ := inner.sound readFirst
    obtain ⟨laterWords, spelledLater, ofOthers, -⟩ := manyUntil_sound inner readOthers
    have inside := spells_append_iff.mpr ⟨middle, spelledFirst, spelledLater⟩
    refine ⟨braces (firstWords ++ laterWords),
      spells_braces_iff.mpr ⟨_, after, opened, inside, closed⟩, .block ?_⟩
    rw [Block.toList_ofCons]
    exact .next ofFirst ofOthers
  complete := by
    intro tokens words body rest derived spelled _ short
    cases derived with
    | @block words body ofStmts =>
        obtain ⟨inside, after, opened, spelledInside, closed⟩ := spells_braces_iff.mp spelled
        simp only [length_braces] at short
        obtain ⟨first, others, listed⟩ := List.exists_cons_of_ne_nil body.toList_ne_nil
        rw [listed] at ofStmts
        cases ofStmts with
        | @next firstWords laterWords _ _ ofStmt ofOthers =>
            obtain ⟨middle, spelledFirst, spelledLater⟩ := spells_append_iff.mp spelledInside
            obtain ⟨word, wordsAfter, rfl, notClosing, -⟩ := ofStmt.stmt_start
            obtain ⟨token, later, rfl, rfl, -⟩ := spells_cons_iff.mp spelledFirst
            simp only [List.length_append] at short
            have closing := nextIs_of_spells closed
            have noBranch : NoBranch after :=
              ⟨nextIs_unique closing (by decide), nextIs_unique closing (by decide)⟩
            have readFirst : stmt (token :: later) = .ok first middle :=
              inner.complete ofStmt spelledFirst
                (fun _ => ofOthers.stmts_noBranch spelledLater noBranch) (by omega)
            have ended : atBlockEnd after = true := by simp [atBlockEnd, closing]
            have readOthers : manyUntil atBlockEnd stmt limit middle = .ok others after :=
              manyUntil_complete inner atBlockEnd_of_spells ofOthers spelledLater ended noBranch
                (by omega) (by omega)
            exact Block.readWith_eq_ok_iff.mpr ⟨token, later, first, middle, others, after, opened,
              notClosing, readFirst, readOthers, closed, Block.ofCons_toList listed⟩

/-- A guard in parentheses, the block that it guards, and their words. -/
def GuardedDerives (words : List String) (guarded : Cond × Block) : Prop :=
  ∃ condWords bodyWords, words = parens condWords ++ bodyWords ∧
    Cond.Derives condWords guarded.1 ∧ Derives bodyWords (.block guarded.2)

theorem readGuarded_recognizes :
    Recognizes limit (readGuarded limit stmt) GuardedDerives AlwaysEnds where
  sound := by
    intro tokens value rest read
    obtain ⟨cond, middle, readCond, read⟩ := bind_eq_ok_iff.mp read
    obtain ⟨body, readBody, rfl⟩ := map_eq_ok_iff.mp read
    obtain ⟨_, spelledCond, condWords, rfl, ofCond⟩ :=
      (Cond.parenthesized_recognizes (Cond.readWithin_recognizes limit)).sound readCond
    obtain ⟨bodyWords, spelledBody, ofBody⟩ := (Block.readWith_recognizes inner).sound readBody
    exact ⟨_, spells_append_iff.mpr ⟨middle, spelledCond, spelledBody⟩, condWords, bodyWords, rfl,
      ofCond, ofBody⟩
  complete := by
    rintro tokens _ ⟨cond, body⟩ rest ⟨condWords, bodyWords, rfl, ofCond, ofBody⟩ spelled - short
    obtain ⟨middle, spelledCond, spelledBody⟩ := spells_append_iff.mp spelled
    simp only [List.length_append] at short
    have readCond : parenthesized (Cond.readWithin limit) tokens = .ok cond middle :=
      (Cond.parenthesized_recognizes (Cond.readWithin_recognizes limit)).complete
        ⟨condWords, rfl, ofCond⟩ spelledCond trivial (by omega)
    have readBody : Block.readWith limit stmt middle = .ok body rest :=
      (Block.readWith_recognizes inner).complete ofBody spelledBody trivial (by omega)
    exact bind_eq_ok_iff.mpr ⟨cond, middle, readCond, map_eq_ok_iff.mpr ⟨body, readBody, rfl⟩⟩

/-- A guard, its block and what follows the block, with the tree `make cond body otherwise`. -/
theorem readBranch_sound {β : Type} (make : Cond → Block → Option Block → β)
    {tail : Reader (Option Block)} {tokens rest : List Token} {value : β}
    (tailSound : ∀ tokens otherwise, tail tokens = .ok otherwise rest →
      ∃ words, Spells tokens words rest ∧ Derives words (.tail otherwise))
    (read : (do
      let (cond, body) ← readGuarded limit stmt
      return make cond body (← tail)) tokens = .ok value rest) :
    ∃ condWords bodyWords tailWords cond body otherwise,
      Spells tokens (parens condWords ++ (bodyWords ++ tailWords)) rest ∧
        Cond.Derives condWords cond ∧ Derives bodyWords (.block body) ∧
        Derives tailWords (.tail otherwise) ∧ make cond body otherwise = value := by
  obtain ⟨⟨cond, body⟩, middle, readGuard, read⟩ := bind_eq_ok_iff.mp read
  obtain ⟨otherwise, readTail, made⟩ := map_eq_ok_iff.mp read
  obtain ⟨_, spelledGuard, condWords, bodyWords, rfl, ofCond, ofBody⟩ :=
    (readGuarded_recognizes inner).sound readGuard
  obtain ⟨tailWords, spelledTail, ofTail⟩ := tailSound middle otherwise readTail
  have spelled := spells_append_iff.mpr ⟨middle, spelledGuard, spelledTail⟩
  rw [List.append_assoc] at spelled
  exact ⟨condWords, bodyWords, tailWords, cond, body, otherwise, spelled, ofCond, ofBody, ofTail,
    made⟩

theorem readBranch_complete {β : Type} (make : Cond → Block → Option Block → β)
    {tail : Reader (Option Block)} {tokens rest : List Token}
    {condWords bodyWords tailWords : List String} {cond : Cond} {body : Block}
    {otherwise : Option Block} (ofCond : Cond.Derives condWords cond)
    (ofBody : Derives bodyWords (.block body))
    (spelled : Spells tokens (parens condWords ++ (bodyWords ++ tailWords)) rest)
    (short : (parens condWords ++ (bodyWords ++ tailWords)).length ≤ limit)
    (readTail : ∀ middle, Spells middle tailWords rest → tail middle = .ok otherwise rest) :
    (do
      let (cond, body) ← readGuarded limit stmt
      return make cond body (← tail)) tokens = .ok (make cond body otherwise) rest := by
  rw [← List.append_assoc] at spelled short
  obtain ⟨middle, spelledGuard, spelledTail⟩ := spells_append_iff.mp spelled
  rw [List.length_append] at short
  have readGuard : readGuarded limit stmt tokens = .ok (cond, body) middle :=
    (readGuarded_recognizes inner).complete ⟨condWords, bodyWords, rfl, ofCond, ofBody⟩
      spelledGuard trivial (by omega)
  rw [bind_of_ok readGuard]
  exact map_eq_ok_iff.mpr ⟨otherwise, readTail middle spelledTail, rfl⟩

theorem readOtherwise_sound {branches : Nat} {tokens rest : List Token} {otherwise : Option Block}
    (read : readOtherwise limit stmt branches tokens = .ok otherwise rest) :
    ∃ words, Spells tokens words rest ∧ Derives words (.tail otherwise) := by
  induction branches generalizing tokens otherwise with
  | zero =>
      cases read
      exact ⟨[], spells_nil_iff.mpr rfl, .noTail⟩
  | succ branches ih =>
      rcases branch_or_noBranch tokens with noBranch | ⟨token, later, rfl, elif | otherwise⟩
      · rw [readOtherwise_of_noBranch noBranch] at read
        cases read
        exact ⟨[], spells_nil_iff.mpr rfl, .noTail⟩
      · rw [readOtherwise_elif elif] at read
        obtain ⟨condWords, bodyWords, tailWords, cond, body, tail, spelled, ofCond, ofBody, ofTail,
          rfl⟩ := readBranch_sound inner elifBlock (fun _ _ => ih) read
        exact ⟨_, spells_cons_iff.mpr ⟨token, later, rfl, elif, spelled⟩,
          .elifBranch ofCond ofBody ofTail⟩
      · rw [readOtherwise_else otherwise] at read
        obtain ⟨body, readBody, rfl⟩ := map_eq_ok_iff.mp read
        obtain ⟨words, spelled, ofBody⟩ := (Block.readWith_recognizes inner).sound readBody
        exact ⟨_, spells_cons_iff.mpr ⟨token, later, rfl, otherwise, spelled⟩, .elseBlock ofBody⟩

theorem readOtherwise_complete {branches : Nat} {tokens rest : List Token} {words : List String}
    {otherwise : Option Block} (derived : Derives words (.tail otherwise))
    (spelled : Spells tokens words rest) (ended : OpenTail words → NoBranch rest)
    (short : words.length ≤ limit) (enough : words.length ≤ branches) :
    readOtherwise limit stmt branches tokens = .ok otherwise rest := by
  induction branches generalizing tokens words otherwise with
  | zero =>
      cases derived with
      | noTail =>
          obtain rfl := spells_nil_iff.mp spelled
          rfl
      | elseBlock | elifBranch => simp at enough
  | succ branches ih =>
      cases derived with
      | noTail =>
          obtain rfl := spells_nil_iff.mp spelled
          exact readOtherwise_of_noBranch (ended .noTail)
      | @elseBlock words body ofBody =>
          obtain ⟨token, later, rfl, text, spelledBody⟩ := spells_cons_iff.mp spelled
          simp only [List.length_cons] at short
          have readBody : Block.readWith limit stmt later = .ok body rest :=
            (Block.readWith_recognizes inner).complete ofBody spelledBody trivial (by omega)
          rw [readOtherwise_else text]
          exact map_eq_ok_iff.mpr ⟨body, readBody, rfl⟩
      | @elifBranch condWords bodyWords tailWords cond body otherwise ofCond ofBody ofTail =>
          obtain ⟨token, later, rfl, text, spelledLater⟩ := spells_cons_iff.mp spelled
          have fits := Nat.le_of_succ_le short
          simp only [List.length_cons, List.length_append] at short enough
          have readTail (middle : List Token) (spelledTail : Spells middle tailWords rest) :
              readOtherwise limit stmt branches middle = .ok otherwise rest :=
            ih ofTail spelledTail (fun isOpen => ended (.elifBranch ofCond ofBody isOpen))
              (by omega) (by omega)
          rw [readOtherwise_elif text]
          exact readBranch_complete inner elifBlock ofCond ofBody spelledLater fits readTail

/-! ### Statements -/

theorem readAfter?_sound {word : String} {after : Reader Stmt} {tokens rest : List Token}
    {value : Stmt} (known : readAfter? limit stmt word = some after)
    (read : after tokens = .ok value rest) :
    ∃ words, Spells tokens words rest ∧ Derives (word :: words) (.stmt value) := by
  -- The alternatives of `readAfter?` in order: counted actions, actions of one word, and then the
  -- statements that hold others.
  unfold readAfter? at known
  split at known <;> cases known
  case h_1 =>
    obtain ⟨_, spelled, countWords, count, rfl, rfl, ofCount⟩ :=
      (readCounted_recognizes _).sound read
    exact ⟨_, spelled, .action (.move ofCount)⟩
  case h_2 =>
    obtain ⟨_, spelled, countWords, count, rfl, rfl, ofCount⟩ :=
      (readCounted_recognizes _).sound read
    exact ⟨_, spelled, .action (.wait ofCount)⟩
  case h_3 => exact endWith_sound (@ActionDerives.turn .left) read
  case h_4 => exact endWith_sound (@ActionDerives.turn .right) read
  case h_5 => exact endWith_sound (@ActionDerives.turn .around) read
  case h_6 => exact endWith_sound .takeFuel read
  case h_7 => exact endWith_sound .shieldOn read
  case h_8 => exact endWith_sound .shieldOff read
  case h_9 =>
    obtain ⟨body, readBody, rfl⟩ := map_eq_ok_iff.mp read
    obtain ⟨words, spelled, ofBody⟩ := (Block.readWith_recognizes inner).sound readBody
    exact ⟨words, spelled, .loop ofBody⟩
  case h_10 =>
    obtain ⟨condWords, bodyWords, tailWords, cond, body, otherwise, spelled, ofCond, ofBody, ofTail,
      rfl⟩ := readBranch_sound inner Stmt.branch (fun _ _ => readOtherwise_sound inner) read
    exact ⟨_, spelled, .conditional ofCond ofBody ofTail⟩
  case h_11 =>
    obtain ⟨⟨cond, body⟩, readGuard, rfl⟩ := map_eq_ok_iff.mp read
    obtain ⟨_, spelled, condWords, bodyWords, rfl, ofCond, ofBody⟩ :=
      (readGuarded_recognizes inner).sound readGuard
    exact ⟨_, spelled, .whileLoop ofCond ofBody⟩

end Statements

namespace Stmt

variable {limit : Nat} {token : Token} {later : List Token}

theorem readWithin_variable (kind : token.kind = .variableName) :
    readWithin (limit + 1) (token :: later) = readAssign limit token.name later := by
  simp only [readWithin, bind_of_ok (peek_cons _ token later), kind, if_true,
    bind_of_ok (skip_cons token later)]

theorem readWithin_brace (spelled : token.text = "\x7b") :
    readWithin (limit + 1) (token :: later) =
      (do return block (← Block.readWith limit (readWithin limit))) (token :: later) := by
  have kind : token.kind ≠ .variableName := by
    rw [Token.kind, spelled]
    decide
  simp only [readWithin, bind_of_ok (peek_cons _ token later), kind, if_false, spelled, if_true]

/-- The words that start a statement are neither variables nor braces. -/
theorem readAfter?_word {stmt : Reader Stmt} {word : String} {after : Reader Stmt}
    (known : readAfter? limit stmt word = some after) :
    TokenKind.ofChars word.toList ≠ .variableName ∧ word ≠ "\x7b" := by
  unfold readAfter? at known
  split at known
  case h_12 => cases known
  all_goals decide

theorem readWithin_word {word : String} {after : Reader Stmt} (text : token.text = word)
    (known : readAfter? limit (readWithin limit) word = some after) :
    readWithin (limit + 1) (token :: later) = after later := by
  obtain ⟨kind, notBrace⟩ := readAfter?_word known
  have notVariable : token.kind ≠ .variableName := by
    rw [Token.kind, text]
    exact kind
  simp only [readWithin, bind_of_ok (peek_cons _ token later), notVariable, text, notBrace,
    if_false, known, bind_of_ok (skip_cons token later)]

theorem readWithin_unrecognized (kind : token.kind ≠ .variableName)
    (notBrace : token.text ≠ "\x7b")
    (unknown : readAfter? limit (readWithin limit) token.text = none) :
    readWithin (limit + 1) (token :: later) =
      .error (.unrecognized token .statement) (token :: later) := by
  simp only [readWithin, bind_of_ok (peek_cons _ token later), kind, notBrace, if_false, unknown,
    throw_apply]

theorem action_complete {tokens rest : List Token} {words : List String} {value : Stmt}
    (derived : ActionDerives words value) (spelled : Spells tokens (words ++ [";"]) rest)
    (short : words.length ≤ limit) : readWithin (limit + 1) tokens = .ok value rest := by
  cases derived with
  | @turn way =>
      obtain ⟨token, later, rfl, text, spelledEnd⟩ := spells_cons_iff.mp spelled
      have read : endWith (.turn way) later = .ok (.turn way) rest :=
        endWith_eq_ok_iff.mpr ⟨spelledEnd, rfl⟩
      cases way <;> exact (readWithin_word text rfl).trans read
  | takeFuel | shieldOn | shieldOff =>
      obtain ⟨token, later, rfl, text, spelledEnd⟩ := spells_cons_iff.mp spelled
      rw [readWithin_word text rfl]
      exact endWith_eq_ok_iff.mpr ⟨spelledEnd, rfl⟩
  | @move countWords count ofCount =>
      obtain ⟨token, later, rfl, text, spelledLater⟩ := spells_cons_iff.mp spelled
      rw [readWithin_word text rfl]
      exact (readCounted_recognizes move).complete ⟨countWords, count, rfl, rfl, ofCount⟩
        spelledLater trivial (by simpa using short)
  | @wait countWords count ofCount =>
      obtain ⟨token, later, rfl, text, spelledLater⟩ := spells_cons_iff.mp spelled
      rw [readWithin_word text rfl]
      exact (readCounted_recognizes wait).complete ⟨countWords, count, rfl, rfl, ofCount⟩
        spelledLater trivial (by simpa using short)
  | @assign name exprWords expr writable ofExpr =>
      obtain ⟨token, later, rfl, text, spelledLater⟩ := spells_cons_iff.mp spelled
      obtain rfl := Token.name_of_text text
      rw [readWithin_variable (Token.kind_eq_variableName_iff.mpr ⟨text, writable⟩)]
      exact (readAssign_recognizes token.name).complete ⟨exprWords, expr, rfl, rfl, ofExpr⟩
        spelledLater trivial (by simpa using short)

section Step

variable (inner : Recognizes limit (readWithin limit)
  (fun words value => Derives words (.stmt value)) Stmt.Ends)
include inner

theorem step_sound {tokens rest : List Token} {value : Stmt}
    (read : readWithin (limit + 1) tokens = .ok value rest) :
    ∃ words, Spells tokens words rest ∧ Derives words (.stmt value) := by
  cases tokens with
  | nil => cases read
  | cons token later =>
      by_cases named : token.kind = .variableName
      · rw [readWithin_variable named] at read
        obtain ⟨_, spelled, exprWords, expr, rfl, rfl, ofExpr⟩ :=
          (readAssign_recognizes token.name).sound read
        obtain ⟨text, writable⟩ := Token.kind_eq_variableName_iff.mp named
        exact ⟨_, spells_cons_iff.mpr ⟨token, later, rfl, text, spelled⟩,
          .action (.assign writable ofExpr)⟩
      by_cases brace : token.text = "\x7b"
      · rw [readWithin_brace brace] at read
        obtain ⟨body, readBody, rfl⟩ := map_eq_ok_iff.mp read
        obtain ⟨words, spelled, ofBody⟩ := (Block.readWith_recognizes inner).sound readBody
        exact ⟨words, spelled, .nested ofBody⟩
      cases known : readAfter? limit (readWithin limit) token.text with
      | some after =>
          rw [readWithin_word rfl known] at read
          obtain ⟨words, spelled, derived⟩ := readAfter?_sound inner known read
          exact ⟨_, spells_cons_iff.mpr ⟨token, later, rfl, rfl, spelled⟩, derived⟩
      | none =>
          rw [readWithin_unrecognized named brace known] at read
          cases read

theorem step_complete {tokens rest : List Token} {words : List String} {value : Stmt}
    (derived : Derives words (.stmt value)) (spelled : Spells tokens words rest)
    (ended : Ends words rest) (short : words.length ≤ limit + 1) :
    readWithin (limit + 1) tokens = .ok value rest := by
  cases derived with
  | action ofAction => exact action_complete ofAction spelled (by simpa using short)
  | @nested _ body ofBody =>
      have readBody : Block.readWith limit (readWithin limit) tokens = .ok body rest :=
        (Block.readWith_recognizes inner).complete ofBody spelled trivial short
      cases ofBody with
      | block ofStmts =>
          obtain ⟨token, later, rfl, text, -⟩ := spells_cons_iff.mp spelled
          rw [readWithin_brace text]
          exact map_eq_ok_iff.mpr ⟨body, readBody, rfl⟩
  | @loop bodyWords body ofBody =>
      obtain ⟨token, later, rfl, text, spelledBody⟩ := spells_cons_iff.mp spelled
      have readBody : Block.readWith limit (readWithin limit) later = .ok body rest :=
        (Block.readWith_recognizes inner).complete ofBody spelledBody trivial
          (Nat.le_of_succ_le short)
      rw [readWithin_word text rfl]
      exact map_eq_ok_iff.mpr ⟨body, readBody, rfl⟩
  | @whileLoop condWords bodyWords cond body ofCond ofBody =>
      obtain ⟨token, later, rfl, text, spelledGuard⟩ := spells_cons_iff.mp spelled
      have readGuard : readGuarded limit (readWithin limit) later = .ok (cond, body) rest :=
        (readGuarded_recognizes inner).complete ⟨condWords, bodyWords, rfl, ofCond, ofBody⟩
          spelledGuard trivial (Nat.le_of_succ_le_succ short)
      rw [readWithin_word text rfl]
      exact map_eq_ok_iff.mpr ⟨(cond, body), readGuard, rfl⟩
  | @conditional condWords bodyWords tailWords cond body otherwise ofCond ofBody ofTail =>
      obtain ⟨token, later, rfl, text, spelledLater⟩ := spells_cons_iff.mp spelled
      have fits := Nat.le_of_succ_le_succ short
      simp only [List.length_cons, List.length_append] at short
      have readTail (middle : List Token) (spelledTail : Spells middle tailWords rest) :
          readOtherwise limit (readWithin limit) limit middle = .ok otherwise rest :=
        readOtherwise_complete inner ofTail spelledTail
          (fun isOpen => ended (.conditional ofCond ofBody isOpen)) (by omega) (by omega)
      rw [readWithin_word text rfl]
      exact readBranch_complete inner Stmt.branch ofCond ofBody spelledLater fits readTail

end Step

theorem readWithin_recognizes (limit : Nat) :
    Recognizes limit (readWithin limit) (fun words value => Derives words (.stmt value))
      Stmt.Ends := by
  induction limit with
  | zero =>
      refine .zero nofun fun words value derived => ?_
      obtain ⟨word, later, rfl, -⟩ := derived.stmt_start
      simp
  | succ limit ih => exact ⟨step_sound ih, step_complete ih⟩

end Stmt

end FuelDuel.Language
