import Mathlib.Data.List.Forall2
import FuelDuel.Language.Parse
import FuelDuel.Proofs.Recognition

/-!
Readers look at the texts of tokens and at nothing else. Two lists of tokens that have the same
texts, one by one, are read alike: both readings give the same value, or they fail with the same
error at tokens that correspond to each other, and they leave tokens that correspond
(`Program.read_alike`).

Which tokens correspond is left open, so that it can be said of two texts that the tokens at the
same index do. Every way in which readers are put together keeps being alike (`ReadAlike.bind`,
`ReadAlike.peek`, `ReadAlike.expect`), and the readers of the constructs follow their shape.
-/

namespace FuelDuel.Language

open Reader

/-- The same error, found at related tokens. -/
inductive SyntaxError.Alike (related : Token → Token → Prop) : SyntaxError → SyntaxError → Prop where
  | unexpectedToken {left right : Token} (same : related left right) (expected : String) :
      Alike related (.unexpectedToken left expected) (.unexpectedToken right expected)
  | unrecognized {left right : Token} (same : related left right) (construct : Construct) :
      Alike related (.unrecognized left construct) (.unrecognized right construct)
  | unexpectedEnd (expected : String) :
      Alike related (.unexpectedEnd expected) (.unexpectedEnd expected)
  | emptyBlock {left right : Token} (same : related left right) :
      Alike related (.emptyBlock left) (.emptyBlock right)
  | invalidNumber {left right : Token} (same : related left right) :
      Alike related (.invalidNumber left) (.invalidNumber right)

namespace SyntaxError.Alike

variable {related : Token → Token → Prop} {first second : SyntaxError}

theorem imp {more : Token → Token → Prop} (alike : first.Alike related second)
    (implies : ∀ {left right}, related left right → more left right) :
    first.Alike more second := by
  cases alike with
  | unexpectedToken same expected => exact .unexpectedToken (implies same) expected
  | unrecognized same construct => exact .unrecognized (implies same) construct
  | unexpectedEnd expected => exact .unexpectedEnd expected
  | emptyBlock same => exact .emptyBlock (implies same)
  | invalidNumber same => exact .invalidNumber (implies same)

theorem sites (alike : first.Alike related second) :
    (first.site = none ∧ second.site = none) ∨
      ∃ left right, related left right ∧ first.site = some left ∧ second.site = some right := by
  cases alike with
  | unexpectedEnd expected => exact .inl ⟨rfl, rfl⟩
  | unexpectedToken same | unrecognized same | emptyBlock same | invalidNumber same =>
      exact .inr ⟨_, _, same, rfl, rfl⟩

end SyntaxError.Alike

/-- The same value or the same error, with related tokens left. -/
inductive ResultsAlike {α : Type} (related : Token → Token → Prop) :
    EStateM.Result SyntaxError (List Token) α → EStateM.Result SyntaxError (List Token) α →
      Prop where
  | value {left right : List Token} (value : α) (rest : List.Forall₂ related left right) :
      ResultsAlike related (.ok value left) (.ok value right)
  | error {left right : List Token} {first second : SyntaxError} (same : first.Alike related second)
      (rest : List.Forall₂ related left right) :
      ResultsAlike related (.error first left) (.error second right)

/-- The readers make the same of tokens that are related one by one. -/
def ReadAlike {α : Type} (related : Token → Token → Prop) (first second : Reader α) : Prop :=
  ∀ ⦃left right⦄, List.Forall₂ related left right → ResultsAlike related (first left) (second right)

/-! ### Readings that are put together -/

namespace ReadAlike

variable {α β : Type} {related : Token → Token → Prop} {first second : Reader α}

theorem pure (value : α) : ReadAlike related (pure value) (pure value) :=
  fun _ _ tokens => .value value tokens

theorem throw {ofFirst ofSecond : SyntaxError} (same : ofFirst.Alike related ofSecond) :
    ReadAlike (α := α) related (throw ofFirst) (throw ofSecond) :=
  fun _ _ tokens => .error same tokens

theorem bind {firstNext secondNext : α → Reader β} (read : ReadAlike related first second)
    (next : ∀ value, ReadAlike related (firstNext value) (secondNext value)) :
    ReadAlike related (first >>= firstNext) (second >>= secondNext) := by
  intro left right tokens
  rw [bind_apply, bind_apply]
  have results := read tokens
  generalize first left = leftResult at results
  generalize second right = rightResult at results
  cases results with
  | value value rest => exact next value rest
  | error same rest => exact .error same rest

theorem map (read : ReadAlike related first second) (make : α → β) :
    ReadAlike related (do return make (← first)) (do return make (← second)) :=
  read.bind fun value => .pure (make value)

theorem skip : ReadAlike related skip skip := by
  intro left right tokens
  cases tokens with
  | nil => exact .value () .nil
  | cons _ later => exact .value () later

theorem peek {expected : String} {firstNext secondNext : Token → Reader β}
    (next : ∀ {left right}, related left right →
      ReadAlike related (firstNext left) (secondNext right)) :
    ReadAlike related (peek expected >>= firstNext) (peek expected >>= secondNext) := by
  intro left right tokens
  cases tokens with
  | nil => exact .error (.unexpectedEnd expected) .nil
  | cons same later => exact next same (.cons same later)

theorem get {firstNext secondNext : List Token → Reader β}
    (next : ∀ {left right}, List.Forall₂ related left right →
      ReadAlike related (firstNext left) (secondNext right)) :
    ReadAlike related (get >>= firstNext) (get >>= secondNext) :=
  fun _ _ tokens => next tokens tokens

end ReadAlike

/-! ### Readers that test a text -/

theorem Token.kind_eq_of_text {left right : Token} (same : left.text = right.text) :
    left.kind = right.kind := by
  rw [kind, kind, same]

theorem Token.name_eq_of_text {left right : Token} (same : left.text = right.text) :
    left.name = right.name := by
  rw [name, name, same]

section Texts

variable {α β : Type} {related : Token → Token → Prop}
  (texts : ∀ {left right}, related left right → left.text = right.text)

include texts

theorem nextIs_alike {left right : List Token} (tokens : List.Forall₂ related left right)
    (text : String) : nextIs text left = nextIs text right := by
  cases tokens with
  | nil => rfl
  | cons same later => simp [nextIs, texts same]

namespace ReadAlike

variable {first second : Reader α}

theorem expect {text : String} {firstNext secondNext : Reader β}
    (next : ReadAlike related firstNext secondNext) :
    ReadAlike related (do let _ ← expect text; firstNext) (do let _ ← expect text; secondNext) := by
  intro left right tokens
  cases tokens with
  | nil => exact .error (.unexpectedEnd text) .nil
  | @cons ofLeft ofRight _ _ same later =>
      by_cases expected : ofLeft.text = text
      · have also : ofRight.text = text := (texts same).symm.trans expected
        rw [bind_of_ok (expect_eq_ok_iff.mpr ⟨rfl, expected⟩),
          bind_of_ok (expect_eq_ok_iff.mpr ⟨rfl, also⟩)]
        exact next later
      · have neither : ofRight.text ≠ text := fun also => expected ((texts same).trans also)
        rw [bind_of_error (expect_of_ne expected _), bind_of_error (expect_of_ne neither _)]
        exact .error (.unexpectedToken same text) (.cons same later)

theorem parenthesized (item : ReadAlike related first second) :
    ReadAlike related (parenthesized first) (parenthesized second) := by
  unfold Reader.parenthesized
  refine expect texts (item.bind fun value => ?_)
  exact expect texts (.pure value)

theorem pair (item : ReadAlike related first second) :
    ReadAlike related (pair first) (pair second) := by
  unfold Reader.pair
  refine expect texts (item.bind fun left => ?_)
  refine expect texts (item.bind fun right => ?_)
  exact expect texts (.pure (left, right))

theorem optionalArgument (item : ReadAlike related first second) :
    ReadAlike related (optionalArgument first) (optionalArgument second) := by
  unfold Reader.optionalArgument
  refine .get fun tokens => ?_
  rw [nextIs_alike texts tokens]
  split
  · exact (item.parenthesized texts).map some
  · exact .pure none

omit texts in
theorem manyUntil {stop : List Token → Bool}
    (stops : ∀ {left right}, List.Forall₂ related left right → stop left = stop right)
    (item : ReadAlike related first second) (limit : Nat) :
    ReadAlike related (manyUntil stop first limit) (manyUntil stop second limit) := by
  induction limit with
  | zero => exact .pure []
  | succ limit ih =>
      unfold Reader.manyUntil
      refine .get fun tokens => ?_
      rw [stops tokens]
      split
      · exact .pure []
      · exact item.bind fun value => ih.map (value :: ·)

end ReadAlike

/-! ### The readers of the constructs -/

theorem Expr.readWithin_alike (limit : Nat) :
    ReadAlike related (Expr.readWithin limit) (Expr.readWithin limit) := by
  induction limit with
  | zero => exact .throw (.unexpectedEnd _)
  | succ limit ih =>
      unfold Expr.readWithin
      refine .peek fun {left right} same => ?_
      rw [Token.kind_eq_of_text (texts same), Token.name_eq_of_text (texts same), texts same]
      cases right.kind with
      | number =>
          refine .bind .skip fun _ => ?_
          cases literalValue? right.text with
          | some value => exact .pure _
          | none => exact .throw (.invalidNumber same)
      | variableName => exact .bind .skip fun _ => .pure _
      | punct | word =>
          cases BinaryOp.ofKeyword? right.text with
          | some op =>
              exact .bind .skip fun _ => (ih.pair texts).bind fun ⟨left, right⟩ => .pure _
          | none =>
              cases Sensor.ofKeyword? right.text with
              | none => exact .throw (.unrecognized same _)
              | some gauge =>
                  cases gauge with
                  | barrel axis =>
                      refine .bind .skip fun _ => .bind (ih.optionalArgument texts) fun index => ?_
                      cases index with
                      | none => exact .pure _
                      | some index => exact .pure _
                  | _ => exact .bind .skip fun _ => .pure _

theorem Cond.readWithin_alike (limit : Nat) :
    ReadAlike related (Cond.readWithin limit) (Cond.readWithin limit) := by
  induction limit with
  | zero => exact .throw (.unexpectedEnd _)
  | succ limit ih =>
      unfold Cond.readWithin
      refine .peek fun {left right} same => ?_
      rw [texts same]
      cases CompareOp.ofKeyword? right.text with
      | some op =>
          refine .bind .skip fun _ => ?_
          exact ((Expr.readWithin_alike texts limit).pair texts).bind fun ⟨left, right⟩ => .pure _
      | none =>
          cases Connective.ofKeyword? right.text with
          | some op =>
              exact .bind .skip fun _ => (ih.pair texts).bind fun ⟨left, right⟩ => .pure _
          | none =>
              dsimp only
              split
              · exact .bind .skip fun _ => (ih.parenthesized texts).map Cond.not
              · exact .throw (.unrecognized same _)

section Statements

variable {first second : Reader Stmt} (stmt : ReadAlike related first second) (limit : Nat)

theorem endWith_alike (stmt : Stmt) : ReadAlike related (endWith stmt) (endWith stmt) :=
  .expect texts (.pure stmt)

theorem readCounted_alike (make : Option Expr → Stmt) :
    ReadAlike related (readCounted limit make) (readCounted limit make) :=
  ((Expr.readWithin_alike texts limit).optionalArgument texts).bind fun count =>
    endWith_alike texts (make count)

theorem readAssign_alike (name : String) :
    ReadAlike related (readAssign limit name) (readAssign limit name) := by
  refine .expect texts ((Expr.readWithin_alike texts limit).bind fun value => ?_)
  exact endWith_alike texts (.assign name value)

include stmt

theorem Block.readWith_alike :
    ReadAlike related (Block.readWith limit first) (Block.readWith limit second) := by
  unfold Block.readWith
  refine .expect texts (.peek fun {left right} same => ?_)
  rw [texts same]
  split
  · exact .throw (.emptyBlock same)
  · refine stmt.bind fun value => ?_
    have stops {left right : List Token} (tokens : List.Forall₂ related left right) :
        (left.isEmpty || nextIs "\x7d" left) = (right.isEmpty || nextIs "\x7d" right) := by
      rw [nextIs_alike texts tokens]
      cases tokens <;> rfl
    refine (stmt.manyUntil stops limit).bind fun others => ?_
    exact .expect texts (.pure _)

theorem readGuarded_alike :
    ReadAlike related (readGuarded limit first) (readGuarded limit second) := by
  refine ((Cond.readWithin_alike texts limit).parenthesized texts).bind fun cond => ?_
  exact (Block.readWith_alike texts stmt limit).map fun body => (cond, body)

theorem readOtherwise_alike (branches : Nat) :
    ReadAlike related (readOtherwise limit first branches)
      (readOtherwise limit second branches) := by
  induction branches with
  | zero => exact .pure none
  | succ branches ih =>
      unfold readOtherwise
      refine .get fun tokens => ?_
      rw [nextIs_alike texts tokens]
      split
      · refine .bind .skip fun _ => ?_
        exact (readGuarded_alike texts stmt limit).bind fun ⟨cond, body⟩ => ih.bind fun _ => .pure _
      · refine .get fun tokens => ?_
        rw [nextIs_alike texts tokens]
        split
        · exact .bind .skip fun _ => (Block.readWith_alike texts stmt limit).map some
        · exact .pure none

/-- The same words start statements, and what follows them is read alike. -/
theorem readAfter?_alike (word : String) :
    Option.Rel (ReadAlike related) (readAfter? limit first word) (readAfter? limit second word) := by
  have guarded := readGuarded_alike texts stmt limit
  unfold readAfter?
  split
  case h_1 | h_2 => exact .some (readCounted_alike texts limit _)
  case h_9 => exact .some ((Block.readWith_alike texts stmt limit).map Stmt.loop)
  case h_10 =>
    refine .some (guarded.bind fun ⟨cond, body⟩ => ?_)
    exact (readOtherwise_alike texts stmt limit limit).map (Stmt.branch cond body)
  case h_11 => exact .some (guarded.bind fun ⟨cond, body⟩ => .pure _)
  case h_12 => exact .none
  all_goals exact .some (endWith_alike texts _)

end Statements

theorem Stmt.readWithin_alike (limit : Nat) :
    ReadAlike related (Stmt.readWithin limit) (Stmt.readWithin limit) := by
  induction limit with
  | zero => exact .throw (.unexpectedEnd _)
  | succ limit ih =>
      unfold Stmt.readWithin
      refine .peek fun {left right} same => ?_
      rw [Token.kind_eq_of_text (texts same), Token.name_eq_of_text (texts same), texts same]
      split
      · exact .bind .skip fun _ => readAssign_alike texts limit right.name
      split
      · exact (Block.readWith_alike texts ih limit).map Stmt.block
      have known := readAfter?_alike texts ih limit right.text
      cases after : readAfter? limit (Stmt.readWithin limit) right.text with
      | some after =>
          rw [after] at known
          cases known with
          | some read => exact .bind .skip fun _ => read
      | none => exact .throw (.unrecognized same _)

/-- Reading programs looks at the texts of the tokens only. -/
theorem Program.read_alike : ReadAlike related Program.read Program.read := by
  unfold Program.read
  refine .get fun {left right} tokens => ?_
  have stops {left right : List Token} (tokens : List.Forall₂ related left right) :
      left.isEmpty = right.isEmpty := by
    cases tokens <;> rfl
  rw [tokens.length_eq]
  exact ((Stmt.readWithin_alike texts _).manyUntil stops _).map Program.mk

end Texts

end FuelDuel.Language
