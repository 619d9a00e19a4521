import FuelDuel.Proofs.Recognition
import FuelDuel.Language.Parse

/-!
What the parser can insist on. Wherever it needs one certain token and finds another, the token it
needs is a parenthesis, a brace, a comma, a semicolon or an equals sign
(`Program.expected_mem_marks`): names, numbers and words always have alternatives.
-/

namespace FuelDuel.Language

open Reader

/-- The tokens that have no alternative where they are needed. -/
def marks : List String := ["(", ")", ",", ";", "=", "\x7b", "\x7d"]

/-- A token is found in the place of another one only if that one is a mark. -/
def NeedsMarks {α : Type} (reader : Reader α) : Prop :=
  ∀ ⦃tokens rest found expected⦄,
    reader tokens = .error (.unexpectedToken found expected) rest → expected ∈ marks

/-! ### Readings that are put together -/

namespace NeedsMarks

variable {α β : Type} {reader : Reader α}

theorem pure (value : α) : NeedsMarks (pure value) := nofun

theorem throw {error : SyntaxError}
    (other : ∀ found expected, error ≠ .unexpectedToken found expected) :
    NeedsMarks (α := α) (throw error) := by
  rintro tokens rest found expected ⟨⟩
  exact absurd rfl (other found expected)

theorem bind {next : α → Reader β} (first : NeedsMarks reader)
    (later : ∀ value, NeedsMarks (next value)) : NeedsMarks (reader >>= next) := by
  intro tokens rest found expected failed
  rw [bind_apply] at failed
  cases read : reader tokens with
  | ok value middle =>
      rw [read] at failed
      exact later value failed
  | error error middle =>
      rw [read] at failed
      cases failed
      exact first read

theorem map (read : NeedsMarks reader) (make : α → β) :
    NeedsMarks (do return make (← reader)) :=
  read.bind fun value => .pure (make value)

theorem skip : NeedsMarks skip := nofun

theorem get : NeedsMarks (get : Reader (List Token)) := nofun

theorem peek (expected : String) : NeedsMarks (peek expected) := by
  rintro (_ | ⟨token, later⟩) rest found other ⟨⟩

theorem expect {text : String} (mark : text ∈ marks) : NeedsMarks (expect text) := by
  refine (peek text).bind fun token => ?_
  split
  · exact .bind .skip fun _ => .pure token
  · rintro tokens rest found expected ⟨⟩
    exact mark

theorem parenthesized (item : NeedsMarks reader) : NeedsMarks (parenthesized reader) := by
  refine .bind (.expect (by decide)) fun _ => item.bind fun value => ?_
  exact .bind (.expect (by decide)) fun _ => .pure value

theorem pair (item : NeedsMarks reader) : NeedsMarks (pair reader) := by
  refine .bind (.expect (by decide)) fun _ => item.bind fun left => ?_
  refine .bind (.expect (by decide)) fun _ => item.bind fun right => ?_
  exact .bind (.expect (by decide)) fun _ => .pure (left, right)

theorem optionalArgument (item : NeedsMarks reader) : NeedsMarks (optionalArgument reader) := by
  refine .bind .get fun tokens => ?_
  split
  · exact item.parenthesized.map some
  · exact .pure none

theorem manyUntil {stop : List Token → Bool} (item : NeedsMarks reader) (limit : Nat) :
    NeedsMarks (manyUntil stop reader limit) := by
  induction limit with
  | zero => exact .pure []
  | succ limit ih =>
      refine .bind .get fun tokens => ?_
      split
      · exact .pure []
      · exact item.bind fun first => ih.map (first :: ·)

end NeedsMarks

/-! ### The readers of the constructs -/

theorem Expr.readWithin_needsMarks (limit : Nat) : NeedsMarks (Expr.readWithin limit) := by
  induction limit with
  | zero => exact .throw nofun
  | succ limit ih =>
      refine .bind (.peek _) fun token => ?_
      cases token.kind with
      | number =>
          refine .bind .skip fun _ => ?_
          cases literalValue? token.text with
          | some value => exact .pure _
          | none => exact .throw nofun
      | variableName => exact .bind .skip fun _ => .pure _
      | punct | word =>
          cases BinaryOp.ofKeyword? token.text with
          | some op => exact .bind .skip fun _ => ih.pair.bind fun ⟨left, right⟩ => .pure _
          | none =>
              cases Sensor.ofKeyword? token.text with
              | none => exact .throw nofun
              | some gauge =>
                  cases gauge with
                  | barrel axis =>
                      refine .bind .skip fun _ => .bind ih.optionalArgument fun index => ?_
                      cases index with
                      | none => exact .pure _
                      | some index => exact .pure _
                  | _ => exact .bind .skip fun _ => .pure _

theorem Cond.readWithin_needsMarks (limit : Nat) : NeedsMarks (Cond.readWithin limit) := by
  induction limit with
  | zero => exact .throw nofun
  | succ limit ih =>
      refine .bind (.peek _) fun token => ?_
      cases CompareOp.ofKeyword? token.text with
      | some op =>
          refine .bind .skip fun _ => ?_
          exact (Expr.readWithin_needsMarks limit).pair.bind fun ⟨left, right⟩ => .pure _
      | none =>
          cases Connective.ofKeyword? token.text with
          | some op => exact .bind .skip fun _ => ih.pair.bind fun ⟨left, right⟩ => .pure _
          | none =>
              dsimp only
              split
              · exact .bind .skip fun _ => ih.parenthesized.map Cond.not
              · exact .throw nofun

section Statements

variable {limit : Nat}

theorem endWith_needsMarks (stmt : Stmt) : NeedsMarks (endWith stmt) :=
  .bind (.expect (by decide)) fun _ => .pure stmt

theorem readCounted_needsMarks (make : Option Expr → Stmt) : NeedsMarks (readCounted limit make) :=
  (Expr.readWithin_needsMarks limit).optionalArgument.bind fun count =>
    endWith_needsMarks (make count)

theorem readAssign_needsMarks (name : String) : NeedsMarks (readAssign limit name) := by
  refine .bind (.expect (by decide)) fun _ => ?_
  exact (Expr.readWithin_needsMarks limit).bind fun value => endWith_needsMarks (.assign name value)

variable {stmt : Reader Stmt} (item : NeedsMarks stmt)
include item

theorem Block.readWith_needsMarks : NeedsMarks (Block.readWith limit stmt) := by
  refine .bind (.expect (by decide)) fun _ => .bind (.peek _) fun token => ?_
  split
  · exact .throw nofun
  · refine item.bind fun first => (item.manyUntil limit).bind fun others => ?_
    exact .bind (.expect (by decide)) fun _ => .pure _

theorem readGuarded_needsMarks : NeedsMarks (readGuarded limit stmt) := by
  refine (Cond.readWithin_needsMarks limit).parenthesized.bind fun cond => ?_
  exact (Block.readWith_needsMarks item).map fun body => (cond, body)

theorem readOtherwise_needsMarks (branches : Nat) :
    NeedsMarks (readOtherwise limit stmt branches) := by
  induction branches with
  | zero => exact .pure none
  | succ branches ih =>
      refine .bind .get fun tokens => ?_
      split
      · refine .bind .skip fun _ => ?_
        exact (readGuarded_needsMarks item).bind fun ⟨cond, body⟩ => ih.bind fun _ => .pure _
      · refine .bind .get fun tokens => ?_
        split
        · exact .bind .skip fun _ => (Block.readWith_needsMarks item).map some
        · exact .pure none

theorem readAfter?_needsMarks {word : String} {after : Reader Stmt}
    (known : readAfter? limit stmt word = some after) : NeedsMarks after := by
  have guarded : NeedsMarks (readGuarded limit stmt) := readGuarded_needsMarks item
  unfold readAfter? at known
  split at known <;> cases known
  case h_1 | h_2 => exact readCounted_needsMarks _
  case h_9 => exact (Block.readWith_needsMarks item).map Stmt.loop
  case h_10 =>
    refine guarded.bind fun ⟨cond, body⟩ => ?_
    exact (readOtherwise_needsMarks item limit).map (Stmt.branch cond body)
  case h_11 => exact guarded.bind fun ⟨cond, body⟩ => .pure _
  all_goals exact endWith_needsMarks _

end Statements

theorem Stmt.readWithin_needsMarks (limit : Nat) : NeedsMarks (Stmt.readWithin limit) := by
  induction limit with
  | zero => exact .throw nofun
  | succ limit ih =>
      refine .bind (.peek _) fun token => ?_
      split
      · exact .bind .skip fun _ => readAssign_needsMarks token.name
      split
      · exact (Block.readWith_needsMarks ih).map Stmt.block
      cases known : readAfter? limit (Stmt.readWithin limit) token.text with
      | some after => exact .bind .skip fun _ => readAfter?_needsMarks ih known
      | none => exact .throw nofun

theorem Program.read_needsMarks : NeedsMarks Program.read := by
  refine .bind .get fun tokens => ?_
  exact ((Stmt.readWithin_needsMarks _).manyUntil _).map Program.mk

/-- If a text has another token where the parser needs a certain one, that one is a mark. -/
theorem Program.expected_mem_marks {source expected : String} {found : Token}
    (failed : Program.parse source = .error (.unexpectedToken found expected)) :
    expected ∈ marks := by
  rw [Program.parse, Reader.result] at failed
  cases read : Program.read (Token.scan source) with
  | ok program rest =>
      rw [read] at failed
      cases failed
  | error error rest =>
      rw [read] at failed
      cases failed
      exact Program.read_needsMarks read

end FuelDuel.Language
