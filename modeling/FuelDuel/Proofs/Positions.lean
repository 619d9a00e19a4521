import FuelDuel.Proofs.Acceptance
import FuelDuel.Proofs.Formatting

/-!
Where a statement stands in a phrase: between the words before it and those after it. Other words
of the same statement can stand there as well (`StandsIn.derives`). Conversely, wherever the words
of a conditional occur among those of a phrase, the conditional stands there
(`Derives.standsIn`): nothing else is spelled with `if`, and two constructs that start at the same
word are the same one. So replacing the words of a conditional by other words of the same tree
never changes what a text reads as, whatever surrounds them.
-/

namespace FuelDuel.Language

/-! ### Positions -/

/-- The statement stands in a phrase, between the words `before` and the words `after`. -/
inductive StandsIn (stmt : Stmt) : List String → List String → Phrase → Prop where
  | here : StandsIn stmt [] [] (.stmt stmt)
  | nested {before after : List String} {body : Block}
      (inBody : StandsIn stmt before after (.block body)) :
      StandsIn stmt before after (.stmt (.block body))
  | loop {before after : List String} {body : Block}
      (inBody : StandsIn stmt before after (.block body)) :
      StandsIn stmt ("loop" :: before) after (.stmt (.loop body))
  | whileLoop {condWords before after : List String} {cond : Cond} {body : Block}
      (ofCond : Cond.Derives condWords cond) (inBody : StandsIn stmt before after (.block body)) :
      StandsIn stmt ("while" :: (parens condWords ++ before)) after (.stmt (.while cond body))
  | ifBody {condWords before after tailWords : List String} {cond : Cond} {body : Block}
      {otherwise : Option Block} (ofCond : Cond.Derives condWords cond)
      (inBody : StandsIn stmt before after (.block body))
      (ofTail : Derives tailWords (.tail otherwise)) :
      StandsIn stmt ("if" :: (parens condWords ++ before)) (after ++ tailWords)
        (.stmt (.branch cond body otherwise))
  | ifTail {condWords bodyWords before after : List String} {cond : Cond} {body : Block}
      {otherwise : Option Block} (ofCond : Cond.Derives condWords cond)
      (ofBody : Derives bodyWords (.block body))
      (inTail : StandsIn stmt before after (.tail otherwise)) :
      StandsIn stmt ("if" :: (parens condWords ++ (bodyWords ++ before))) after
        (.stmt (.branch cond body otherwise))
  | elseBlock {before after : List String} {body : Block}
      (inBody : StandsIn stmt before after (.block body)) :
      StandsIn stmt ("else" :: before) after (.tail (some body))
  | elifBody {condWords before after tailWords : List String} {cond : Cond} {body : Block}
      {otherwise : Option Block} (ofCond : Cond.Derives condWords cond)
      (inBody : StandsIn stmt before after (.block body))
      (ofTail : Derives tailWords (.tail otherwise)) :
      StandsIn stmt ("elif" :: (parens condWords ++ before)) (after ++ tailWords)
        (.tail (some (.single (.branch cond body otherwise))))
  | elifTail {condWords bodyWords before after : List String} {cond : Cond} {body : Block}
      {otherwise : Option Block} (ofCond : Cond.Derives condWords cond)
      (ofBody : Derives bodyWords (.block body))
      (inTail : StandsIn stmt before after (.tail otherwise)) :
      StandsIn stmt ("elif" :: (parens condWords ++ (bodyWords ++ before))) after
        (.tail (some (.single (.branch cond body otherwise))))
  | block {before after : List String} {body : Block}
      (inStmts : StandsIn stmt before after (.stmts body.toList)) :
      StandsIn stmt ("\x7b" :: before) (after ++ ["\x7d"]) (.block body)
  | first {before after later : List String} {first : Stmt} {stmts : List Stmt}
      (inFirst : StandsIn stmt before after (.stmt first))
      (ofStmts : Derives later (.stmts stmts)) :
      StandsIn stmt before (after ++ later) (.stmts (first :: stmts))
  | later {firstWords before after : List String} {first : Stmt} {stmts : List Stmt}
      (ofFirst : Derives firstWords (.stmt first))
      (inStmts : StandsIn stmt before after (.stmts stmts)) :
      StandsIn stmt (firstWords ++ before) after (.stmts (first :: stmts))

/-- Any words of the statement can stand where it stands. -/
theorem StandsIn.derives {stmt : Stmt} {before after words : List String} {phrase : Phrase}
    (stands : StandsIn stmt before after phrase) (derived : Derives words (.stmt stmt)) :
    Derives (before ++ (words ++ after)) phrase := by
  induction stands with
  | here => simpa using derived
  | nested _ ih => exact .nested ih
  | loop _ ih => exact .loop ih
  | whileLoop ofCond _ ih => simpa using Derives.whileLoop ofCond ih
  | ifBody ofCond _ ofTail ih => simpa using Derives.conditional ofCond ih ofTail
  | ifTail ofCond ofBody _ ih => simpa using Derives.conditional ofCond ofBody ih
  | elseBlock _ ih => exact .elseBlock ih
  | elifBody ofCond _ ofTail ih => simpa using Derives.elifBranch ofCond ih ofTail
  | elifTail ofCond ofBody _ ih => simpa using Derives.elifBranch ofCond ofBody ih
  | block _ ih => simpa [braces] using Derives.block ih
  | first _ ofStmts ih => simpa using Derives.next ih ofStmts
  | later ofFirst _ ih => simpa using Derives.next ofFirst ih

/-! ### What starts at the same word -/

/-- What follows is not a further branch of a conditional. -/
def Unbranched (after : List String) : Prop := ∀ word ∈ after.head?, word ≠ "elif" ∧ word ≠ "else"

theorem unbranched_nil : Unbranched [] := nofun

theorem unbranched_brace (after : List String) : Unbranched ("\x7d" :: after) := by
  rintro word ⟨⟩
  decide

theorem Unbranched.noBranch {after : List String} (unbranched : Unbranched after) :
    NoBranch (asTokens after) := by
  cases after with
  | nil => exact ⟨rfl, rfl⟩
  | cons word later =>
      obtain ⟨notElif, notElse⟩ := unbranched word rfl
      simp [NoBranch, asTokens, Reader.nextIs, notElif, notElse]

theorem Derives.unbranched {words after : List String} {stmts : List Stmt}
    (derived : Derives words (.stmts stmts)) (unbranched : Unbranched after) :
    Unbranched (words ++ after) := by
  cases derived with
  | done => exact unbranched
  | next ofStmt ofStmts =>
      obtain ⟨word, later, rfl, -, notElif, notElse⟩ := ofStmt.stmt_start
      rintro _ ⟨⟩
      exact ⟨notElif, notElse⟩

section SameStart

variable {words other rest later : List String}

theorem Derives.stmt_same_start {first second : Stmt} (ofFirst : Derives words (.stmt first))
    (ofSecond : Derives other (.stmt second)) (same : words ++ rest = other ++ later)
    (ended : OpenIf words → Unbranched rest) (endedToo : OpenIf other → Unbranched later) :
    words = other ∧ rest = later ∧ first = second :=
  Recognizes.same_start Stmt.readWithin_recognizes ofFirst ofSecond same
    (fun isOpen => (ended isOpen).noBranch) (fun isOpen => (endedToo isOpen).noBranch)

theorem Derives.block_same_start {first second : Block} (ofFirst : Derives words (.block first))
    (ofSecond : Derives other (.block second)) (same : words ++ rest = other ++ later) :
    words = other ∧ rest = later ∧ first = second :=
  Recognizes.same_start (fun _ => Block.read_recognizes) ofFirst ofSecond same trivial trivial

theorem Cond.Derives.same_start {first second : Cond} (ofFirst : Cond.Derives words first)
    (ofSecond : Cond.Derives other second) (same : words ++ rest = other ++ later) :
    words = other ∧ rest = later ∧ first = second :=
  Recognizes.same_start Cond.readWithin_recognizes ofFirst ofSecond same trivial trivial

end SameStart

/-! ### Where the words of a conditional occur -/

theorem branching_if : Branching "if" := .inl rfl

theorem Cond.Derives.if_not_mem {words : List String} {cond : Cond}
    (derived : Cond.Derives words cond) : "if" ∉ parens words := by
  rw [← derived.words_eq]
  exact branching_if.not_mem_parens (branching_if.not_mem_cond cond)

theorem ActionDerives.if_not_mem {words : List String} {stmt : Stmt}
    (derived : ActionDerives words stmt) : "if" ∉ words := by
  have counted {words : List String} {count : Option Expr} (ofCount : ArgumentDerives words count) :
      "if" ∉ words := by
    rw [← ofCount.words_eq]
    exact branching_if.not_mem_countWords count
  cases derived with
  | @turn way => cases way <;> decide
  | takeFuel | shieldOn | shieldOff => decide
  | move ofCount | wait ofCount => simp [counted ofCount]
  | @assign name words value writable ofValue =>
      have notInValue := branching_if.not_mem_expr value
      rw [ofValue.words_eq] at notInValue
      simp [branching_if.ne_variable name, notInValue]

section Split

variable {front later before after : List String} {word : String}

/-- Two ways to part a run of words, of which the first is not behind the second. -/
theorem append_of_length_le (same : front ++ later = before ++ after)
    (reaches : front.length ≤ before.length) :
    ∃ between, before = front ++ between ∧ later = between ++ after := by
  obtain ⟨between, rfl⟩ : front <+: before :=
    List.prefix_of_prefix_length_le ⟨later, same⟩ (List.prefix_append before after) reaches
  exact ⟨between, rfl, by simpa using same⟩

/-- A word that is not in front comes later. -/
theorem append_of_not_mem (same : front ++ later = before ++ word :: after)
    (missing : word ∉ front) :
    ∃ between, before = front ++ between ∧ later = between ++ word :: after := by
  refine append_of_length_le same (Nat.le_of_not_lt fun short => missing ?_)
  have inside : (front ++ later)[before.length]? = some word := by simp [same]
  rw [List.getElem?_append_left short] at inside
  exact List.mem_of_getElem? inside

/-- A word that is not the first one comes later. -/
theorem cons_of_ne {first : String} {words rest : List String}
    (same : first :: words ++ rest = before ++ word :: after) (different : first ≠ word) :
    ∃ between, before = first :: between ∧ words ++ rest = between ++ word :: after := by
  have apart : [first] ++ (words ++ rest) = before ++ word :: after := same
  exact append_of_not_mem apart (by simpa using different.symm)

end Split

/-- A word of a branch that is none of its condition is one of its block or comes behind it. -/
theorem branch_cases {condWords bodyWords tailWords rest before after : List String} {word : String}
    (missing : word ∉ parens condWords)
    (same : parens condWords ++ (bodyWords ++ tailWords) ++ rest = before ++ word :: after)
    (inside : before.length < (parens condWords ++ (bodyWords ++ tailWords)).length) :
    (∃ inBody, before = parens condWords ++ inBody ∧
      bodyWords ++ (tailWords ++ rest) = inBody ++ word :: after ∧
      inBody.length < bodyWords.length) ∨
    ∃ inTail, before = parens condWords ++ (bodyWords ++ inTail) ∧
      tailWords ++ rest = inTail ++ word :: after ∧ inTail.length < tailWords.length := by
  simp only [List.append_assoc] at same
  obtain ⟨guarded, rfl, sameBody⟩ := append_of_not_mem same missing
  by_cases within : guarded.length < bodyWords.length
  · exact .inl ⟨guarded, rfl, sameBody, within⟩
  · obtain ⟨inTail, rfl, sameTail⟩ := append_of_length_le sameBody (Nat.le_of_not_lt within)
    exact .inr ⟨inTail, rfl, sameTail, by simpa using inside⟩

/-- No further branch follows a phrase that it would extend. -/
def Phrase.Ended (words rest : List String) : Phrase → Prop
  | .stmt _ => OpenIf words → Unbranched rest
  | .tail _ => OpenTail words → Unbranched rest
  | .stmts _ => Unbranched rest
  | .block _ => True

section Conditional

variable {ifWords after : List String} {stmt : Stmt}
  (derived : Derives ("if" :: ifWords) (.stmt stmt))
  (ended : OpenIf ("if" :: ifWords) → Unbranched after)
include derived ended

/-- Where the words of a conditional occur among those of a phrase and of what follows it, and
start before the phrase ends, there the conditional stands. -/
theorem Derives.standsIn {words rest before : List String} {phrase : Phrase}
    (ofPhrase : Derives words phrase) (phraseEnded : phrase.Ended words rest)
    (same : words ++ rest = before ++ "if" :: (ifWords ++ after))
    (inside : before.length < words.length) :
    ∃ inner, after = inner ++ rest ∧ StandsIn stmt before inner phrase := by
  induction ofPhrase generalizing rest before with
  | @action words _ ofAction =>
      have missing : "if" ∉ words ++ [";"] := by simp [ofAction.if_not_mem]
      obtain ⟨between, rfl, -⟩ := append_of_not_mem same missing
      simp at inside
  | nested _ ih =>
      obtain ⟨inner, rfl, stands⟩ := ih trivial same inside
      exact ⟨inner, rfl, .nested stands⟩
  | loop _ ih =>
      obtain ⟨between, rfl, sameBody⟩ := cons_of_ne same (by decide)
      obtain ⟨inner, rfl, stands⟩ := ih trivial sameBody (by simpa using inside)
      exact ⟨inner, rfl, .loop stands⟩
  | whileLoop ofCond _ ih =>
      obtain ⟨guarded, rfl, sameGuard⟩ := cons_of_ne same (by decide)
      rw [List.append_assoc] at sameGuard
      obtain ⟨between, rfl, sameBody⟩ := append_of_not_mem sameGuard ofCond.if_not_mem
      obtain ⟨inner, rfl, stands⟩ := ih trivial sameBody (by simpa using inside)
      exact ⟨inner, rfl, .whileLoop ofCond stands⟩
  | @conditional condWords bodyWords tailWords cond body otherwise ofCond ofBody ofTail ihBody
      ihTail =>
      cases before with
      | nil =>
          -- Both conditionals start here, so they are one.
          obtain ⟨-, rfl, rfl⟩ := (Derives.conditional ofCond ofBody ofTail).stmt_same_start derived
            same phraseEnded ended
          exact ⟨[], rfl, .here⟩
      | cons word guarded =>
          obtain ⟨rfl, sameGuard⟩ := List.cons.inj same
          rcases branch_cases ofCond.if_not_mem sameGuard (by simpa using inside) with
            ⟨between, rfl, sameBody, within⟩ | ⟨between, rfl, sameTail, within⟩
          · obtain ⟨inner, rfl, stands⟩ := ihBody trivial sameBody within
            exact ⟨inner ++ tailWords, by simp, .ifBody ofCond stands ofTail⟩
          · obtain ⟨inner, rfl, stands⟩ := ihTail
              (fun isOpen => phraseEnded (.conditional ofCond ofBody isOpen)) sameTail within
            exact ⟨inner, rfl, .ifTail ofCond ofBody stands⟩
  | noTail | done => simp at inside
  | elseBlock _ ih =>
      obtain ⟨between, rfl, sameBody⟩ := cons_of_ne same (by decide)
      obtain ⟨inner, rfl, stands⟩ := ih trivial sameBody (by simpa using inside)
      exact ⟨inner, rfl, .elseBlock stands⟩
  | @elifBranch condWords bodyWords tailWords cond body otherwise ofCond ofBody ofTail ihBody
      ihTail =>
      obtain ⟨guarded, rfl, sameGuard⟩ := cons_of_ne same (by decide)
      rcases branch_cases ofCond.if_not_mem sameGuard (by simpa using inside) with
        ⟨between, rfl, sameBody, within⟩ | ⟨between, rfl, sameTail, within⟩
      · obtain ⟨inner, rfl, stands⟩ := ihBody trivial sameBody within
        exact ⟨inner ++ tailWords, by simp, .elifBody ofCond stands ofTail⟩
      · obtain ⟨inner, rfl, stands⟩ := ihTail
          (fun isOpen => phraseEnded (.elifBranch ofCond ofBody isOpen)) sameTail within
        exact ⟨inner, rfl, .elifTail ofCond ofBody stands⟩
  | @block words body _ ih =>
      obtain ⟨between, rfl, sameStmts⟩ := cons_of_ne same (by decide)
      have closed : words ++ (["\x7d"] ++ rest) = between ++ "if" :: (ifWords ++ after) := by
        simpa using sameStmts
      by_cases within : between.length < words.length
      · obtain ⟨inner, rfl, stands⟩ := ih (unbranched_brace rest) closed within
        exact ⟨inner ++ ["\x7d"], by simp, .block stands⟩
      · -- The closing brace is no `if`.
        obtain ⟨past, rfl, sameBrace⟩ := append_of_length_le closed (Nat.le_of_not_lt within)
        obtain ⟨further, rfl, -⟩ := cons_of_ne sameBrace (by decide)
        simp at inside
  | @next first later _ _ ofStmt ofStmts ihStmt ihStmts =>
      rw [List.append_assoc] at same
      by_cases within : before.length < first.length
      · obtain ⟨inner, rfl, stands⟩ :=
          ihStmt (fun _ => ofStmts.unbranched phraseEnded) same within
        exact ⟨inner ++ later, by simp, .first stands ofStmts⟩
      · obtain ⟨between, rfl, sameLater⟩ := append_of_length_le same (Nat.le_of_not_lt within)
        obtain ⟨inner, rfl, stands⟩ := ihStmts phraseEnded sameLater (by simpa using inside)
        exact ⟨inner, rfl, .later ofStmt stands⟩

/-- Words with those of a conditional among them derive a program exactly if the conditional stands
there in it. -/
theorem program_derives_iff_standsIn {before : List String} {program : Program} :
    Program.Derives (before ++ ("if" :: ifWords ++ after)) program ↔
      StandsIn stmt before after (.stmts program.stmts) := by
  constructor
  · intro ofProgram
    have toTheEnd : before ++ ("if" :: ifWords ++ after) ++ [] =
        before ++ "if" :: (ifWords ++ after) := List.append_nil _
    obtain ⟨inner, same, stands⟩ :=
      Derives.standsIn derived ended ofProgram unbranched_nil toTheEnd (by simp)
    rw [List.append_nil] at same
    exact same ▸ stands
  · intro stands
    exact stands.derives derived

end Conditional

end FuelDuel.Language
