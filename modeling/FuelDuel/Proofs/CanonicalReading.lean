import FuelDuel.Proofs.CanonicalForms

/-!
Canonical texts are unambiguous: two trees whose variable names can be written and whose canonical
texts are equal are the same tree (`canonical_text_unambiguous`).

A text shows one form, and a form is read back as the tree it was made of: the label tells the node,
and for the branches of a condition the number of parts does. The name in an assignment ends at the
first equals sign of the label that it belongs to, as no name has one in it.
-/

namespace FuelDuel.Language

open FuelDuel.Text

/-! ### Names of nodes -/

/-- The operator whose node has the given name. -/
def BinaryOp.ofNodeName? (name : String) : Option BinaryOp := all.find? (·.nodeName == name)

@[simp] theorem BinaryOp.ofNodeName?_nodeName (op : BinaryOp) :
    ofNodeName? op.nodeName = some op := by
  cases op <;> decide

/-- The operator whose node has the given name. -/
def CompareOp.ofNodeName? (name : String) : Option CompareOp := all.find? (·.nodeName == name)

@[simp] theorem CompareOp.ofNodeName?_nodeName (op : CompareOp) :
    ofNodeName? op.nodeName = some op := by
  cases op <;> decide

/-- The connective whose node has the given name. -/
def Connective.ofNodeName? (name : String) : Option Connective := all.find? (·.nodeName == name)

@[simp] theorem Connective.ofNodeName?_nodeName (op : Connective) :
    ofNodeName? op.nodeName = some op := by
  cases op <;> decide

@[simp] theorem CompareOp.ofNodeName?_connective (op : Connective) :
    ofNodeName? op.nodeName = none := by
  cases op <;> decide

/-- The sensor whose node has the given name. -/
def Sensor.ofNodeName? (name : String) : Option Sensor := all.find? (·.nodeName == name)

@[simp] theorem Sensor.ofNodeName?_nodeName (gauge : Sensor) :
    ofNodeName? gauge.nodeName = some gauge := by
  rcases gauge with _ | ⟨_ | _⟩ | _ | ⟨_ | _⟩ | _ <;> decide

/-! ### Reading a form -/

namespace Form

/-- The number or the variable that a node of one part shows. -/
def leaf? : (label : String) → (part : Form) → Option Expr
  | "Num", bare numeral => some (.num (Int32.ofInt (numeralValue numeral.toList)))
  | "Var", bare dollar => some (.var (String.ofList dollar.toList.tail))
  | _, _ => none

/-- The expression that a form shows. -/
def expr? : Form → Option Expr
  | bare label => (Sensor.ofNodeName? label).map .sensor
  | bracketed label [part] =>
      match Sensor.ofNodeName? label with
      | some (.barrel axis) => return .barrelAt axis (← part.expr?)
      | _ => leaf? label part
  | bracketed label [left, right] =>
      return .binary (← BinaryOp.ofNodeName? label) (← left.expr?) (← right.expr?)
  | _ => none

/-- The condition that a form shows. -/
def cond? : Form → Option Cond
  | bracketed "Not" [inner] => return .not (← inner.cond?)
  | bracketed label [left, right] =>
      match CompareOp.ofNodeName? label with
      | some op => return .compare op (← left.expr?) (← right.expr?)
      | none => return .connect (← Connective.ofNodeName? label) (← left.cond?) (← right.cond?)
  | _ => none

/-- The label of a form. -/
def label : Form → String
  | bare label => label
  | bracketed label _ => label

/-- The form with another label. -/
def relabel (label : String) : Form → Form
  | bare _ => bare label
  | bracketed _ parts => bracketed label parts

/-- The name that the part of an assignment shows: what stands in its label between the dollar sign
and the first equals sign. -/
def assigned (binding : Form) : String :=
  String.ofList (binding.label.toList.tail.takeWhile (· != '='))

/-- The form of the value in the part of an assignment: its label goes on after the equals sign and
a blank. -/
def boundValue (binding : Form) : Form :=
  binding.relabel (String.ofList ((binding.label.toList.dropWhile (· != '=')).drop 2))

/-- The statements that are shown by a label alone. -/
def bareStmts : List Stmt :=
  [.turn .left, .turn .right, .turn .around, .takeFuel, .shield true, .shield false, .move none,
    .wait none]

mutual

/-- The statement that a form shows. -/
def stmt? : Form → Option Stmt
  | bare label => bareStmts.find? (·.canonical == label)
  | bracketed "Move" [count] => return .move (some (← count.expr?))
  | bracketed "Wait" [count] => return .wait (some (← count.expr?))
  | bracketed "Ass" [binding] => return .assign binding.assigned (← binding.boundValue.expr?)
  | bracketed "Loop" body => return .loop (← block? body)
  | bracketed "If" [cond, bracketed "" body] => return .ifThen (← cond.cond?) (← block? body)
  | bracketed "If" [cond, bracketed "" body, bracketed "" otherwise] =>
      return .ifElse (← cond.cond?) (← block? body) (← block? otherwise)
  | bracketed "While" [cond, bracketed "" body] => return .while (← cond.cond?) (← block? body)
  | bracketed "" body => return .block (← block? body)
  | _ => none

/-- The block whose statements the forms show. -/
def block? : List Form → Option Block
  | [] => none
  | [form] => return .single (← form.stmt?)
  | form :: second :: rest => return .cons (← form.stmt?) (← block? (second :: rest))

end

/-- The block that a form shows. -/
def wholeBlock? : Form → Option Block
  | bracketed "" body => block? body
  | _ => none

/-- The program that a form shows. -/
def program? : Form → Option Program
  | bracketed "Program" stmts => return ⟨← stmts.mapM stmt?⟩
  | _ => none

/-! ### Assignments -/

theorem label_after (before : String) (form : Form) :
    (form.after before).label = before ++ form.label := by
  cases form <;> rfl

theorem relabel_after (before : String) (form : Form) :
    (form.after before).relabel form.label = form := by
  cases form <;> rfl

theorem not_equals_of_writable {name : String} (writable : isName name.toList = true) :
    ∀ c ∈ name.toList, (c != '=') = true := by
  intro c member
  rw [bne_iff_ne]
  rintro rfl
  exact absurd (mem_name writable '=' member) (by decide)

theorem assigned_after {name : String} (writable : isName name.toList = true) (form : Form) :
    (form.after (assignedTo name)).assigned = name := by
  simp [assigned, assignedTo, label_after,
    List.takeWhile_append_of_pos (not_equals_of_writable writable)]

theorem boundValue_after {name : String} (writable : isName name.toList = true) (form : Form) :
    (form.after (assignedTo name)).boundValue = form := by
  have rest : ((form.after (assignedTo name)).label.toList.dropWhile (· != '=')).drop 2 =
      form.label.toList := by
    simp [assignedTo, label_after,
      List.dropWhile_append_of_pos (not_equals_of_writable writable)]
  rw [boundValue, rest, String.ofList_toList, relabel_after]

end Form

/-! ### A form is read back as the tree it was made of -/

theorem Expr.expr?_form (expr : Expr) : expr.form.expr? = some expr := by
  induction expr with
  | num value =>
      have notSensor : Sensor.ofNodeName? "Num" = none := by decide
      simp [form, Form.expr?, notSensor, Form.leaf?, numeralValue_ofInt]
  | var name =>
      have notSensor : Sensor.ofNodeName? "Var" = none := by decide
      simp [form, Form.expr?, notSensor, Form.leaf?]
  | binary op left right ofLeft ofRight => simp [form, Form.expr?, ofLeft, ofRight]
  | sensor gauge => simp [form, Form.expr?]
  | barrelAt axis index ofIndex => simp [form, Form.expr?, ofIndex]

theorem Cond.cond?_form (cond : Cond) : cond.form.cond? = some cond := by
  induction cond with
  | compare op left right => simp [form, Form.cond?, Expr.expr?_form]
  | connect op left right ofLeft ofRight => simp [form, Form.cond?, ofLeft, ofRight]
  | not inner ofInner => simp [form, Form.cond?, ofInner]

theorem Block.exists_forms_eq_cons (block : Block) : ∃ form rest, block.forms = form :: rest := by
  cases block with
  | single stmt => exact ⟨_, _, rfl⟩
  | cons stmt rest => exact ⟨_, _, rfl⟩

mutual

theorem Stmt.stmt?_form (stmt : Stmt) (writable : Writable stmt.names) :
    stmt.form.stmt? = some stmt := by
  cases stmt with
  | turn way => cases way <;> decide
  | takeFuel => decide
  | shield on => cases on <;> decide
  | move count =>
      cases count with
      | none => decide
      | some count => simp [Stmt.form, countedForm, Form.stmt?, Expr.expr?_form]
  | wait count =>
      cases count with
      | none => decide
      | some count => simp [Stmt.form, countedForm, Form.stmt?, Expr.expr?_form]
  | assign name value =>
      have ofName := (writable_cons_iff.mp writable).1
      simp [Stmt.form, Form.stmt?, Form.assigned_after ofName, Form.boundValue_after ofName,
        Expr.expr?_form]
  | loop body => simp [Stmt.form, Form.stmt?, body.block?_forms writable]
  | ifThen cond body =>
      have ofBody := (writable_append_iff.mp writable).2
      simp [Stmt.form, Form.stmt?, Cond.cond?_form, body.block?_forms ofBody]
  | ifElse cond body otherwise =>
      obtain ⟨ofBody, ofOtherwise⟩ := writable_append_iff.mp (writable_append_iff.mp writable).2
      simp [Stmt.form, Form.stmt?, Cond.cond?_form, body.block?_forms ofBody,
        otherwise.block?_forms ofOtherwise]
  | «while» cond body =>
      have ofBody := (writable_append_iff.mp writable).2
      simp [Stmt.form, Form.stmt?, Cond.cond?_form, body.block?_forms ofBody]
  | block body => simp [Stmt.form, Form.stmt?, body.block?_forms writable]

theorem Block.block?_forms (block : Block) (writable : Writable block.names) :
    Form.block? block.forms = some block := by
  cases block with
  | single stmt => simp [Block.forms, Form.block?, stmt.stmt?_form writable]
  | cons stmt rest =>
      obtain ⟨ofStmt, ofRest⟩ := writable_append_iff.mp writable
      have readRest := rest.block?_forms ofRest
      obtain ⟨second, others, listed⟩ := rest.exists_forms_eq_cons
      rw [listed] at readRest
      simp [Block.forms, listed, Form.block?, stmt.stmt?_form ofStmt, readRest]

end

theorem Block.wholeBlock?_form {block : Block} (writable : Writable block.names) :
    block.form.wholeBlock? = some block :=
  block.block?_forms writable

theorem Program.program?_form {program : Program} (writable : Writable program.names) :
    program.form.program? = some program := by
  obtain ⟨stmts⟩ := program
  have read : (stmts.map Stmt.form).mapM Form.stmt? = some stmts := by
    induction stmts with
    | nil => rfl
    | cons stmt rest ofRest =>
        obtain ⟨ofStmt, later⟩ := writable_append_iff.mp writable
        simp [stmt.stmt?_form ofStmt, ofRest later]
  simp [form, Form.program?, read]

/-! ### Texts that show one tree -/

/-- A way to write trees that shows which tree is written, as long as its variable names can be
written. -/
def OneTreePerText {Tree : Type} (names : Tree → List String) (write : Tree → String) : Prop :=
  ∀ left right, Writable (names left) → Writable (names right) → write left = write right →
    left = right

/-- It is enough that the text is the text of a form without marks in its labels, and that the form
can be read back. -/
theorem OneTreePerText.of_form {Tree : Type} {names : Tree → List String} {write : Tree → String}
    {form : Tree → Form} {read : Form → Option Tree} (texts : ∀ tree, (form tree).text = write tree)
    (clean : ∀ {tree}, Writable (names tree) → (form tree).Clean)
    (reads : ∀ {tree}, Writable (names tree) → read (form tree) = some tree) :
    OneTreePerText names write := by
  intro left right ofLeft ofRight same
  rw [← texts left, ← texts right] at same
  have forms := Form.text_injective (clean ofLeft) (clean ofRight) same
  have readLeft := reads ofLeft
  rw [forms, reads ofRight] at readLeft
  exact (Option.some.inj readLeft).symm

/-- Trees of any kind are equal as soon as their canonical texts are, if their variable names can be
written. -/
theorem canonical_text_unambiguous :
    OneTreePerText Program.names Program.canonical ∧
    OneTreePerText Stmt.names Stmt.canonical ∧
    OneTreePerText Block.names Block.canonical ∧
    OneTreePerText Cond.names Cond.canonical ∧
    OneTreePerText Expr.names Expr.canonical :=
  ⟨.of_form Program.text_form Program.clean_form Program.program?_form,
    .of_form Stmt.text_form (Stmt.clean_form _) (Stmt.stmt?_form _),
    .of_form Block.text_form Block.clean_form Block.wholeBlock?_form,
    .of_form Cond.text_form Cond.clean_form fun _ => Cond.cond?_form _,
    .of_form Expr.text_form Expr.clean_form fun _ => Expr.expr?_form _⟩

/-- A block around the only statement of a program shows in the text of the program. -/
theorem canonical_text_unambiguous_of_nested_assignment :
    Program.canonical ⟨[.block (.single (.assign "x" (.num 1)))]⟩ ≠
      Program.canonical ⟨[.assign "x" (.num 1)]⟩ := by
  intro same
  have equal := canonical_text_unambiguous.1 _ _ (by decide) (by decide) same
  exact absurd equal (by decide)

-- Without a condition on names the text would not tell: this name goes on like a second statement.
example :
    Program.canonical ⟨[.wait (some (.var "a]], Wait[Var[$b"))]⟩ =
      Program.canonical ⟨[.wait (some (.var "a")), .wait (some (.var "b"))]⟩ := by
  decide

end FuelDuel.Language
