import FuelDuel.Proofs.Lockstep
import FuelDuel.Proofs.Residuals

/-!
Loops as whiles. A loop and a while whose condition always holds are unrolled by rules of their own,
but each puts its body in front of itself in one step and reads nothing. So a program may spell
every loop as such a while, at every depth, without any difference in what it reads and does, in how
it fails and in what is left of it (`loops_are_whiles_that_hold`).
-/

namespace FuelDuel.Language

/-- A condition that always holds: a literal equals itself. -/
def Cond.truism (literal : Int32) : Cond := .compare .eq (.num literal) (.num literal)

mutual

/-- The statement with every loop in it, at every depth, spelled as a while on a truism. -/
def Stmt.guardLoops (literal : Int32) : Stmt → Stmt
  | .turn way => .turn way
  | .takeFuel => .takeFuel
  | .shield on => .shield on
  | .move count => .move count
  | .wait count => .wait count
  | .assign name value => .assign name value
  | .loop body => .while (.truism literal) (body.guardLoops literal)
  | .ifThen cond body => .ifThen cond (body.guardLoops literal)
  | .ifElse cond body otherwise =>
      .ifElse cond (body.guardLoops literal) (otherwise.guardLoops literal)
  | .while cond body => .while cond (body.guardLoops literal)
  | .block body => .block (body.guardLoops literal)

/-- The block with every loop in it, at every depth, spelled as a while on a truism. -/
def Block.guardLoops (literal : Int32) : Block → Block
  | .single stmt => .single (stmt.guardLoops literal)
  | .cons stmt rest => .cons (stmt.guardLoops literal) (rest.guardLoops literal)

end

/-- The program with every loop in it, at every depth, spelled as a while on a truism. -/
def Program.guardLoops (literal : Int32) (program : Program) : Program :=
  ⟨program.stmts.map (Stmt.guardLoops literal)⟩

section Spelling

variable (literal : Int32)

namespace Block

theorem toList_guardLoops (block : Block) :
    (block.guardLoops literal).toList = block.toList.map (Stmt.guardLoops literal) := by
  induction block using Block.toList.induct with
  | case1 stmt => simp [guardLoops, toList]
  | case2 stmt rest ih => simp [guardLoops, toList, ih]

theorem guardLoops_append (first second : Block) :
    (first.append second).guardLoops literal =
      (first.guardLoops literal).append (second.guardLoops literal) := by
  induction first using Block.toList.induct with
  | case1 stmt => simp [guardLoops, append]
  | case2 stmt rest ih => simp [guardLoops, append, ih]

theorem ofList?_guardLoops (stmts : List Stmt) :
    ofList? (stmts.map (Stmt.guardLoops literal)) =
      (ofList? stmts).map (Block.guardLoops literal) := by
  cases stmts with
  | nil => rfl
  | cons first others =>
      simp only [List.map_cons, ofList?, Option.map_some, Option.some.injEq]
      induction others generalizing first with
      | nil => simp [ofCons, guardLoops]
      | cons second others ih => simp [ofCons, guardLoops, ih]

end Block

mutual

/-- The statements inside are spelled that way too, one by one. -/
theorem Stmt.inner_guardLoops (stmt : Stmt) :
    (stmt.guardLoops literal).inner = stmt.inner.map (Stmt.guardLoops literal) := by
  match stmt with
  | .turn _ | .takeFuel | .shield _ | .move _ | .wait _ | .assign _ _ => rfl
  | .loop body | .ifThen _ body | .while _ body | .block body =>
      exact body.nodes_guardLoops
  | .ifElse _ body otherwise =>
      simp only [Stmt.guardLoops, Stmt.inner, body.nodes_guardLoops, otherwise.nodes_guardLoops,
        List.map_append]

theorem Block.nodes_guardLoops (block : Block) :
    (block.guardLoops literal).nodes = block.nodes.map (Stmt.guardLoops literal) := by
  match block with
  | .single stmt =>
      simp only [Block.guardLoops, Block.nodes, stmt.inner_guardLoops, List.map_cons]
  | .cons stmt rest =>
      simp only [Block.guardLoops, Block.nodes, stmt.inner_guardLoops, rest.nodes_guardLoops,
        List.map_cons, List.map_append]

end

theorem Program.nodes_guardLoops (program : Program) :
    (program.guardLoops literal).nodes = program.nodes.map (Stmt.guardLoops literal) := by
  simp [Program.nodes, Program.guardLoops, Stmt.nodes, List.flatMap_map, List.map_flatMap,
    Stmt.inner_guardLoops]

/-- A statement spelled that way is no loop. -/
theorem Stmt.guardLoops_ne_loop (stmt : Stmt) (body : Block) :
    stmt.guardLoops literal ≠ .loop body := by
  cases stmt <;> simp [Stmt.guardLoops]

end Spelling

end FuelDuel.Language

namespace FuelDuel.Execution

open FuelDuel.Language

variable {W : Type} [World W] (literal : Int32)

theorem evalCond_truism (world : W) : evalCond (.truism literal) world = .ok true world := by
  have holds : evalCompare .eq literal literal = true := by simp [evalCompare]
  exact congrArg (EStateM.Result.ok · world) holds

/-- A while on a truism is unrolled in one step, as a loop is. -/
theorem stepStmt_truism (body : Block) (world : W) :
    stepStmt (.while (.truism literal) body) world =
      .ok (some (.block (body.append (.single (.while (.truism literal) body))))) world :=
  bind_of_ok (evalCond_truism literal world)

theorem splice_guardLoops (residual : Option Stmt) (rest : List Stmt) :
    splice (residual.map (Stmt.guardLoops literal)) (rest.map (Stmt.guardLoops literal)) =
      (splice residual rest).map (Stmt.guardLoops literal) := by
  cases residual with
  | none => rfl
  | some stmt => cases stmt <;> simp [Stmt.guardLoops, splice, Block.toList_guardLoops]

/-- What is left of a statement, and the same in the other spelling. -/
def Respelled (residual other : Option Stmt) : Prop :=
  other = residual.map (Stmt.guardLoops literal)

theorem respelled_none : Respelled literal none none := rfl

/-- What is left of a loop, and what is left of the while that stands for it. -/
theorem respelled_unrolled {stmt again : Stmt} (same : stmt.guardLoops literal = again)
    (body : Block) :
    Respelled literal (some (.block (body.append (.single stmt))))
      (some (.block ((body.guardLoops literal).append (.single again)))) := by
  rw [Respelled, Option.map_some, Stmt.guardLoops, Block.guardLoops_append, Block.guardLoops, same]

mutual

/-- A step of a statement is a step of its other spelling. -/
theorem stepStmt_guardLoops (stmt : Stmt) (world : W) :
    SameRun (Respelled literal) (stepStmt stmt world)
      (stepStmt (stmt.guardLoops literal) world) := by
  match stmt with
  | .turn way =>
      exact (SameRun.refl (perform (.turn way)) world).map fun _ => respelled_none literal
  | .takeFuel =>
      exact (SameRun.refl (perform .takeFuel) world).map fun _ => respelled_none literal
  | .shield on =>
      refine .ok ?_ (World.setShield on world)
      exact respelled_none literal
  | .move count =>
      apply (SameRun.refl (performCounted .move count) world).map
      rintro left _ rfl
      cases left <;> rfl
  | .wait count =>
      apply (SameRun.refl (performCounted .wait count) world).map
      rintro left _ rfl
      cases left <;> rfl
  | .assign name value =>
      apply (SameRun.refl (evalExpr value) world).bind
      rintro result _ rfl after
      refine .ok ?_ (World.store name result after)
      exact respelled_none literal
  | .loop body =>
      rw [Stmt.guardLoops, stepStmt_truism]
      exact .ok (respelled_unrolled literal rfl body) world
  | .ifThen cond body =>
      apply (SameRun.refl (evalCond cond) world).map
      rintro holds _ rfl
      cases holds <;> rfl
  | .ifElse cond body otherwise =>
      apply (SameRun.refl (evalCond cond) world).map
      rintro holds _ rfl
      cases holds <;> rfl
  | .while cond body =>
      apply (SameRun.refl (evalCond cond) world).map
      rintro holds _ rfl
      cases holds with
      | true => exact respelled_unrolled literal rfl body
      | false => exact respelled_none literal
  | .block body =>
      apply (stepBlock_guardLoops body world).map
      rintro residual _ rfl
      cases residual <;> rfl

/-- A step of a block is a step of its other spelling. -/
theorem stepBlock_guardLoops (block : Block) (world : W) :
    SameRun (fun residual other => other = residual.map (Block.guardLoops literal))
      (stepBlock block world) (stepBlock (block.guardLoops literal) world) := by
  match block with
  | .single stmt =>
      apply (stepStmt_guardLoops stmt world).map
      rintro residual _ rfl
      rw [← Block.ofList?_guardLoops, ← splice_guardLoops, List.map_nil]
  | .cons stmt rest =>
      apply (stepStmt_guardLoops stmt world).map
      rintro residual _ rfl
      rw [← Block.ofList?_guardLoops, ← splice_guardLoops, Block.toList_guardLoops]

end

/-- A sequence runs in lockstep with its other spelling. -/
theorem guardLoops_lockstep :
    Lockstep fun stmts others => others = stmts.map (Stmt.guardLoops literal) where
  nil_iff same := by rw [same, List.map_eq_nil_iff]
  step same _ _ world := by
    obtain ⟨rfl, rfl⟩ := List.cons.inj same
    apply (stepStmt_guardLoops literal _ world).imp
    rintro residual _ rfl
    exact splice_guardLoops literal residual _

/-- Loops and whiles on a condition that always holds are interchangeable. A program whose loops, at
every depth, are spelled as whiles that compare a literal with itself reads and does the same in
every tick, in the same order, and ends in the same fault in the same tick, the limit of steps
included; what is left of it is what is left of the program, spelled that way. This holds on every
world, whatever happens to it between the ticks. -/
theorem loops_are_whiles_that_hold (literal : Int32) (program : Program) (renew : Nat → W → W)
    (ticks : Nat) (world : W) :
    (∀ node ∈ (program.guardLoops literal).nodes, ∀ body, node ≠ .loop body) ∧
    (course renew ticks program world).deeds =
      (course renew ticks (program.guardLoops literal) world).deeds ∧
    SameRun (fun rest otherRest => otherRest = rest.guardLoops literal)
      (course renew ticks program world).ending
      (course renew ticks (program.guardLoops literal) world).ending := by
  have spelled : (program.guardLoops literal).stmts =
      program.stmts.map (Stmt.guardLoops literal) := rfl
  obtain ⟨sameDeeds, ending⟩ := (guardLoops_lockstep literal).course spelled renew ticks world
  refine ⟨?_, sameDeeds, ending.imp fun same => congrArg Program.mk same⟩
  rw [program.nodes_guardLoops literal]
  intro node inside body
  obtain ⟨original, -, rfl⟩ := List.mem_map.mp inside
  exact original.guardLoops_ne_loop literal body

end FuelDuel.Execution
