import FuelDuel.Proofs.Bracketed
import FuelDuel.Proofs.Spelling

/-!
The forms of trees. The canonical text of a tree is the text of its form, and the form of a tree
whose variable names can be written has labels without marks.

The text of an assignment is no list of parts: the name and an equals sign run on into the text of
the value. In its form they belong to the label of the value (`Form.after`).
-/

namespace FuelDuel.Language

open FuelDuel.Text

/-! ### Forms -/

/-- The form with a text put before its label. -/
def Form.after (before : String) : Form → Form
  | bare label => bare (before ++ label)
  | bracketed label parts => bracketed (before ++ label) parts

/-- What an assignment shows before its value. -/
def assignedTo (name : String) : String := "$" ++ name ++ "= "

/-- The form of an expression. -/
def Expr.form : Expr → Form
  | num value => .bracketed "Num" [.bare (ofInt value.toInt)]
  | var name => .bracketed "Var" [.bare ("$" ++ name)]
  | binary op left right => .bracketed op.nodeName [left.form, right.form]
  | sensor gauge => .bare gauge.nodeName
  | barrelAt axis index => .bracketed (Sensor.barrel axis).nodeName [index.form]

/-- The form of a condition. -/
def Cond.form : Cond → Form
  | compare op left right => .bracketed op.nodeName [left.form, right.form]
  | connect op left right => .bracketed op.nodeName [left.form, right.form]
  | not inner => .bracketed "Not" [inner.form]

/-- The form of an action with an optional count. -/
def countedForm (name : String) : Option Expr → Form
  | none => .bare name
  | some count => .bracketed name [count.form]

mutual

/-- The form of a statement. -/
def Stmt.form : Stmt → Form
  | .turn way => .bare way.title
  | .takeFuel => .bare "TakeFuel"
  | .shield true => .bare "ShieldOn"
  | .shield false => .bare "ShieldOff"
  | .move count => countedForm "Move" count
  | .wait count => countedForm "Wait" count
  | .assign name value => .bracketed "Ass" [value.form.after (assignedTo name)]
  | .loop body => .bracketed "Loop" body.forms
  | .ifThen cond body => .bracketed "If" [cond.form, .bracketed "" body.forms]
  | .ifElse cond body otherwise =>
      .bracketed "If" [cond.form, .bracketed "" body.forms, .bracketed "" otherwise.forms]
  | .while cond body => .bracketed "While" [cond.form, .bracketed "" body.forms]
  | .block body => .bracketed "" body.forms

/-- The forms of the statements of a block. -/
def Block.forms : Block → List Form
  | .single stmt => [stmt.form]
  | .cons stmt rest => stmt.form :: rest.forms

end

/-- The form of a block. -/
def Block.form (block : Block) : Form := .bracketed "" block.forms

/-- The form of a program. -/
def Program.form (program : Program) : Form := .bracketed "Program" (program.stmts.map Stmt.form)

/-! ### The text of a form -/

theorem Form.text_after (before : String) (form : Form) :
    (form.after before).text = before ++ form.text := by
  cases form with
  | bare label => rfl
  | bracketed label parts => simp only [after, text, node, String.append_assoc]

theorem Expr.text_form (expr : Expr) : expr.form.text = expr.canonical := by
  induction expr with
  | num value => rfl
  | var name => rfl
  | binary op left right ofLeft ofRight =>
      simp only [form, Form.text, Form.texts, ofLeft, ofRight, canonical]
  | sensor gauge => rfl
  | barrelAt axis index ofIndex => simp only [form, Form.text, Form.texts, ofIndex, canonical]

theorem Cond.text_form (cond : Cond) : cond.form.text = cond.canonical := by
  induction cond with
  | compare op left right => simp only [form, Form.text, Form.texts, Expr.text_form, canonical]
  | connect op left right ofLeft ofRight =>
      simp only [form, Form.text, Form.texts, ofLeft, ofRight, canonical]
  | not inner ofInner => simp only [form, Form.text, Form.texts, ofInner, canonical]

theorem text_countedForm (name : String) (count : Option Expr) :
    (countedForm name count).text = countedCanonical name count := by
  cases count with
  | none => rfl
  | some count => simp only [countedForm, Form.text, Form.texts, Expr.text_form, countedCanonical]

mutual

theorem Stmt.text_form (stmt : Stmt) : stmt.form.text = stmt.canonical := by
  cases stmt with
  | turn way => rfl
  | takeFuel => rfl
  | shield on => cases on <;> rfl
  | move count => rw [Stmt.form, Stmt.canonical, text_countedForm]
  | wait count => rw [Stmt.form, Stmt.canonical, text_countedForm]
  | assign name value =>
      simp only [Stmt.form, Form.text, Form.texts, Form.text_after, assignedTo, Expr.text_form,
        Stmt.canonical]
  | loop body => rw [Stmt.form, Form.text, body.texts_forms, Stmt.canonical]
  | ifThen cond body =>
      simp only [Stmt.form, Form.text, Form.texts, Cond.text_form, body.texts_forms,
        Stmt.canonical]
  | ifElse cond body otherwise =>
      simp only [Stmt.form, Form.text, Form.texts, Cond.text_form, body.texts_forms,
        otherwise.texts_forms, Stmt.canonical]
  | «while» cond body =>
      simp only [Stmt.form, Form.text, Form.texts, Cond.text_form, body.texts_forms,
        Stmt.canonical]
  | block body => rw [Stmt.form, Form.text, body.texts_forms, Stmt.canonical]

theorem Block.texts_forms (block : Block) : Form.texts block.forms = block.canonicals := by
  cases block with
  | single stmt => simp only [Block.forms, Form.texts, stmt.text_form, Block.canonicals]
  | cons stmt rest =>
      simp only [Block.forms, Form.texts, stmt.text_form, rest.texts_forms, Block.canonicals]

end

theorem Block.text_form (block : Block) : block.form.text = block.canonical := by
  rw [form, Form.text, texts_forms, canonical]

theorem Form.texts_map {Tree : Type} {form : Tree → Form} {text : Tree → String}
    (ofForm : ∀ tree, (form tree).text = text tree) (trees : List Tree) :
    texts (trees.map form) = trees.map text := by
  induction trees with
  | nil => rfl
  | cons tree rest ofRest => simp only [List.map_cons, texts, ofForm, ofRest]

theorem Program.text_form (program : Program) : program.form.text = program.canonical := by
  rw [form, Form.text, Form.texts_map Stmt.text_form, canonical]

/-! ### Labels without marks -/

namespace Form

theorem isMark_of_isAlphanum {c : Char} (alphanum : c.isAlphanum = true) : isMark c = false := by
  rw [Bool.eq_false_iff]
  intro mark
  simp only [isMark, Bool.or_eq_true, beq_iff_eq] at mark
  rcases mark with (rfl | rfl) | rfl <;> exact absurd alphanum (by decide)

theorem unmarked_numeral {text : String} (numeral : isNumeral text.toList = true) :
    Unmarked text := by
  intro c member
  rcases mem_numeral numeral c member with rfl | digit
  · decide
  · exact isMark_of_isAlphanum (isAlphanum_of_isDigit digit)

theorem unmarked_name {name : String} (writable : isName name.toList = true) : Unmarked name :=
  fun c member => isMark_of_isAlphanum (mem_name writable c member)

theorem unmarked_variable {name : String} (writable : isName name.toList = true) :
    Unmarked ("$" ++ name) :=
  unmarked_append (by decide) (unmarked_name writable)

theorem unmarked_assignedTo {name : String} (writable : isName name.toList = true) :
    Unmarked (assignedTo name) :=
  unmarked_append (unmarked_variable writable) (by decide)

theorem Clean.after {before : String} {form : Form} (clean : form.Clean)
    (unmarked : Unmarked before) : (form.after before).Clean := by
  cases form with
  | bare label =>
      refine ⟨?_, unmarked_append unmarked clean.2⟩
      exact fun empty => clean.1 (String.append_eq_empty_iff.mp empty).2
  | bracketed label parts => exact ⟨unmarked_append unmarked clean.1, clean.2⟩

end Form

theorem BinaryOp.unmarked_nodeName (op : BinaryOp) : Form.Unmarked op.nodeName := by
  cases op <;> decide

theorem CompareOp.unmarked_nodeName (op : CompareOp) : Form.Unmarked op.nodeName := by
  cases op <;> decide

theorem Connective.unmarked_nodeName (op : Connective) : Form.Unmarked op.nodeName := by
  cases op <;> decide

theorem Sensor.clean_nodeName (gauge : Sensor) : (Form.bare gauge.nodeName).Clean := by
  have named : gauge.nodeName ≠ "" ∧ Form.Unmarked gauge.nodeName := by
    rcases gauge with _ | ⟨_ | _⟩ | _ | ⟨_ | _⟩ | _ <;> decide
  exact named

theorem Turn.clean_title (way : Turn) : (Form.bare way.title).Clean := by
  have named : way.title ≠ "" ∧ Form.Unmarked way.title := by
    cases way <;> decide
  exact named

theorem Expr.clean_form {expr : Expr} (writable : Writable expr.names) : expr.form.Clean := by
  induction expr with
  | num value =>
      have numeral := isNumeral_ofInt value.toInt
      exact ⟨by decide, ⟨(plain_numeral numeral).1, Form.unmarked_numeral numeral⟩, trivial⟩
  | var name =>
      have ofName : isName name.toList = true := writable name List.mem_cons_self
      exact ⟨by decide, ⟨(plain_variable ofName).1, Form.unmarked_variable ofName⟩, trivial⟩
  | binary op left right ofLeft ofRight =>
      obtain ⟨leftNames, rightNames⟩ := writable_append_iff.mp writable
      exact ⟨op.unmarked_nodeName, ofLeft leftNames, ofRight rightNames, trivial⟩
  | sensor gauge => exact gauge.clean_nodeName
  | barrelAt axis index ofIndex =>
      exact ⟨(Sensor.barrel axis).clean_nodeName.2, ofIndex writable, trivial⟩

theorem Cond.clean_form {cond : Cond} (writable : Writable cond.names) : cond.form.Clean := by
  induction cond with
  | compare op left right =>
      obtain ⟨leftNames, rightNames⟩ := writable_append_iff.mp writable
      exact ⟨op.unmarked_nodeName, Expr.clean_form leftNames, Expr.clean_form rightNames, trivial⟩
  | connect op left right ofLeft ofRight =>
      obtain ⟨leftNames, rightNames⟩ := writable_append_iff.mp writable
      exact ⟨op.unmarked_nodeName, ofLeft leftNames, ofRight rightNames, trivial⟩
  | not inner ofInner => exact ⟨by decide, ofInner writable, trivial⟩

theorem clean_countedForm {name : String} {count : Option Expr}
    (named : name ≠ "" ∧ Form.Unmarked name) (writable : Writable (countNames count)) :
    (countedForm name count).Clean := by
  cases count with
  | none => exact named
  | some count => exact ⟨named.2, Expr.clean_form writable, trivial⟩

mutual

theorem Stmt.clean_form (stmt : Stmt) (writable : Writable stmt.names) : stmt.form.Clean := by
  cases stmt with
  | turn way => exact way.clean_title
  | takeFuel => exact ⟨by decide, by decide⟩
  | shield on => cases on <;> exact ⟨by decide, by decide⟩
  | move count => exact clean_countedForm (by decide) writable
  | wait count => exact clean_countedForm (by decide) writable
  | assign name value =>
      obtain ⟨ofName, ofValue⟩ := writable_cons_iff.mp writable
      have before := Form.unmarked_assignedTo ofName
      exact ⟨by decide, (Expr.clean_form ofValue).after before, trivial⟩
  | loop body => exact ⟨by decide, body.clean_forms writable⟩
  | ifThen cond body =>
      obtain ⟨ofCond, ofBody⟩ := writable_append_iff.mp writable
      exact ⟨by decide, Cond.clean_form ofCond, ⟨by decide, body.clean_forms ofBody⟩, trivial⟩
  | ifElse cond body otherwise =>
      obtain ⟨ofCond, ofBlocks⟩ := writable_append_iff.mp writable
      obtain ⟨ofBody, ofOtherwise⟩ := writable_append_iff.mp ofBlocks
      exact ⟨by decide, Cond.clean_form ofCond, ⟨by decide, body.clean_forms ofBody⟩,
        ⟨by decide, otherwise.clean_forms ofOtherwise⟩, trivial⟩
  | «while» cond body =>
      obtain ⟨ofCond, ofBody⟩ := writable_append_iff.mp writable
      exact ⟨by decide, Cond.clean_form ofCond, ⟨by decide, body.clean_forms ofBody⟩, trivial⟩
  | block body => exact ⟨by decide, body.clean_forms writable⟩

theorem Block.clean_forms (block : Block) (writable : Writable block.names) :
    Form.CleanAll block.forms := by
  cases block with
  | single stmt => exact ⟨stmt.clean_form writable, trivial⟩
  | cons stmt rest =>
      obtain ⟨ofStmt, ofRest⟩ := writable_append_iff.mp writable
      exact ⟨stmt.clean_form ofStmt, rest.clean_forms ofRest⟩

end

theorem Block.clean_form {block : Block} (writable : Writable block.names) : block.form.Clean :=
  ⟨by decide, block.clean_forms writable⟩

theorem Program.clean_form {program : Program} (writable : Writable program.names) :
    program.form.Clean := by
  obtain ⟨stmts⟩ := program
  refine ⟨by decide, ?_⟩
  induction stmts with
  | nil => trivial
  | cons stmt rest ofRest =>
      obtain ⟨ofStmt, later⟩ := writable_append_iff.mp writable
      exact ⟨stmt.clean_form ofStmt, ofRest later⟩

end FuelDuel.Language
