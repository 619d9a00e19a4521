import FuelDuel.Proofs.Lockstep
import FuelDuel.Proofs.Residuals

/-!
Nested blocks are transparent: a program and the same program without nested blocks read and do the
same in every tick and fail in the same tick, whatever the world (`nested_blocks_are_transparent`).

A block is stepped by its own function, which splices what is left of its first statement into the
block, while the statements of a program are spliced by the loop that runs a tick. Both come to the
same: a step of a statement is a step of the first of its flattened statements, and what is left of
it flattens to what is left of that one and the statements after it (`stepStmt_flatten`). Blocks
take no steps, so two sequences with the same flattened statements run in lockstep
(`flatAlike_lockstep`).
-/

namespace FuelDuel.Language

/-! ### Programs without nested blocks -/

mutual

/-- A statement as a sequence of statements: nested blocks, at every depth, are replaced by their
statements. -/
def Stmt.flatten : Stmt → Block
  | .turn way => .single (.turn way)
  | .takeFuel => .single .takeFuel
  | .shield on => .single (.shield on)
  | .move count => .single (.move count)
  | .wait count => .single (.wait count)
  | .assign name value => .single (.assign name value)
  | .loop body => .single (.loop body.flatten)
  | .ifThen cond body => .single (.ifThen cond body.flatten)
  | .ifElse cond body otherwise => .single (.ifElse cond body.flatten otherwise.flatten)
  | .while cond body => .single (.while cond body.flatten)
  | .block body => body.flatten

/-- The statements of a block with nested blocks replaced by their statements. -/
def Block.flatten : Block → Block
  | .single stmt => stmt.flatten
  | .cons stmt rest => stmt.flatten.append rest.flatten

end

/-- A sequence of statements with nested blocks replaced by their statements. -/
def flattenAll (stmts : List Stmt) : List Stmt := stmts.flatMap fun stmt => stmt.flatten.toList

/-- The program with nested blocks replaced by their statements. -/
def Program.flatten (program : Program) : Program := ⟨flattenAll program.stmts⟩

@[simp] theorem flattenAll_nil : flattenAll [] = [] := rfl

@[simp] theorem flattenAll_cons (stmt : Stmt) (rest : List Stmt) :
    flattenAll (stmt :: rest) = stmt.flatten.toList ++ flattenAll rest :=
  List.flatMap_cons

@[simp] theorem flattenAll_append (first second : List Stmt) :
    flattenAll (first ++ second) = flattenAll first ++ flattenAll second :=
  List.flatMap_append

namespace Block

theorem append_assoc (first second third : Block) :
    (first.append second).append third = first.append (second.append third) := by
  induction first using Block.toList.induct with
  | case1 stmt => rfl
  | case2 stmt rest ih => rw [append, append, append, ih]

theorem flatten_append (first second : Block) :
    (first.append second).flatten = first.flatten.append second.flatten := by
  induction first using Block.toList.induct with
  | case1 stmt => rw [append, flatten, flatten]
  | case2 stmt rest ih => rw [append, flatten, ih, flatten, append_assoc]

@[simp] theorem flattenAll_toList (block : Block) :
    flattenAll block.toList = block.flatten.toList := by
  induction block using Block.toList.induct with
  | case1 stmt => simp [toList, flatten]
  | case2 stmt rest ih => simp [toList, flatten, ih]

/-- The statements of a block after the first one. -/
def others : Block → List Stmt
  | single _ => []
  | cons _ rest => rest.toList

theorem toList_eq (block : Block) : block.toList = block.first :: block.others := by
  cases block <;> rfl

theorem first_append (block after : Block) : (block.append after).first = block.first := by
  cases block <;> rfl

theorem others_append (block after : Block) :
    (block.append after).others = block.others ++ after.toList := by
  cases block with
  | single stmt => rfl
  | cons stmt rest => exact toList_append rest after

end Block

mutual

/-- There is nothing left to flatten. -/
theorem Stmt.flatten_flatten (stmt : Stmt) : stmt.flatten.flatten = stmt.flatten := by
  match stmt with
  | .turn _ | .takeFuel | .shield _ | .move _ | .wait _ | .assign _ _ => rfl
  | .loop body =>
      simp only [Stmt.flatten, Block.flatten, body.flatten_flatten]
  | .ifThen cond body =>
      simp only [Stmt.flatten, Block.flatten, body.flatten_flatten]
  | .ifElse cond body otherwise =>
      simp only [Stmt.flatten, Block.flatten, body.flatten_flatten, otherwise.flatten_flatten]
  | .while cond body =>
      simp only [Stmt.flatten, Block.flatten, body.flatten_flatten]
  | .block body => exact body.flatten_flatten

theorem Block.flatten_flatten (block : Block) : block.flatten.flatten = block.flatten := by
  match block with
  | .single stmt => exact stmt.flatten_flatten
  | .cons stmt rest =>
      rw [Block.flatten, Block.flatten_append, stmt.flatten_flatten, rest.flatten_flatten]

end

theorem flattenAll_flattenAll (stmts : List Stmt) :
    flattenAll (flattenAll stmts) = flattenAll stmts := by
  induction stmts with
  | nil => rfl
  | cons stmt rest ih =>
      rw [flattenAll_cons, flattenAll_append, Block.flattenAll_toList, stmt.flatten_flatten, ih]

/-- None of the statements is a nested block. -/
def Flat (nodes : List Stmt) : Prop := ∀ node ∈ nodes, ∀ body, node ≠ .block body

theorem flat_append {first second : List Stmt} (flatFirst : Flat first) (flatSecond : Flat second) :
    Flat (first ++ second) :=
  List.forall_mem_append.mpr ⟨flatFirst, flatSecond⟩

theorem flat_cons {stmt : Stmt} {rest : List Stmt} (plain : ∀ body, stmt ≠ .block body)
    (flatRest : Flat rest) : Flat (stmt :: rest) :=
  List.forall_mem_cons.mpr ⟨plain, flatRest⟩

theorem Block.nodes_append (first second : Block) :
    (first.append second).nodes = first.nodes ++ second.nodes := by
  induction first using Block.toList.induct with
  | case1 stmt => rw [append, nodes, nodes]
  | case2 stmt rest ih => rw [append, nodes, nodes, ih, List.append_assoc]

mutual

theorem Stmt.flat_flatten (stmt : Stmt) : Flat stmt.flatten.nodes := by
  match stmt with
  | .turn _ | .takeFuel | .shield _ | .move _ | .wait _ | .assign _ _ =>
      simp [Flat, Stmt.flatten, Block.nodes, Stmt.inner]
  | .loop body => exact flat_cons (by simp) body.flat_flatten
  | .ifThen cond body => exact flat_cons (by simp) body.flat_flatten
  | .ifElse cond body otherwise =>
      exact flat_cons (by simp) (flat_append body.flat_flatten otherwise.flat_flatten)
  | .while cond body => exact flat_cons (by simp) body.flat_flatten
  | .block body => exact body.flat_flatten

theorem Block.flat_flatten (block : Block) : Flat block.flatten.nodes := by
  match block with
  | .single stmt => exact stmt.flat_flatten
  | .cons stmt rest =>
      rw [Block.flatten, Block.nodes_append]
      exact flat_append stmt.flat_flatten rest.flat_flatten

end

/-- Flattening leaves no nested block at any depth. -/
theorem Program.flat_flatten (program : Program) : Flat program.flatten.nodes := by
  intro node inside
  obtain ⟨outer, member, within⟩ := List.mem_flatMap.mp inside
  obtain ⟨stmt, -, found⟩ := List.mem_flatMap.mp member
  apply stmt.flat_flatten node
  rw [← Block.flatMap_nodes]
  exact List.mem_flatMap.mpr ⟨outer, found, within⟩

end FuelDuel.Language

namespace FuelDuel.Execution

open FuelDuel.Language

/-! ### Steps -/

section Steps

variable {W : Type} [World W]

theorem flattenAll_splice (residual : Option Stmt) (rest : List Stmt) :
    flattenAll (splice residual rest) = flattenAll (splice residual []) ++ flattenAll rest := by
  rw [splice_append, flattenAll_append]

theorem flattenAll_splice_block (body : Block) :
    flattenAll (splice (some (.block body)) []) = body.flatten.toList := by
  rw [splice, List.append_nil, Block.flattenAll_toList]

/-- What is left of a statement, and what is left of the first of its flattened statements, which
are followed by `others`. -/
def LeftAlike (others : List Stmt) (residual flat : Option Stmt) : Prop :=
  flattenAll (splice residual []) = flattenAll (splice flat []) ++ others

theorem leftAlike_self (residual : Option Stmt) : LeftAlike [] residual residual :=
  (List.append_nil _).symm

theorem leftAlike_block (body : Block) :
    LeftAlike [] (some (.block body)) (some (.block body.flatten)) := by
  rw [LeftAlike, flattenAll_splice_block, flattenAll_splice_block, body.flatten_flatten,
    List.append_nil]

/-- A statement that is flat is stepped as it is. -/
theorem stepStmt_self (stmt : Stmt) (world : W) :
    SameRun (LeftAlike []) (stepStmt stmt world) (stepStmt stmt world) :=
  (SameRun.refl (stepStmt stmt) world).imp fun same => same ▸ leftAlike_self _

mutual

/-- A step of a statement is a step of the first of its flattened statements. -/
theorem stepStmt_flatten (stmt : Stmt) (world : W) :
    SameRun (LeftAlike stmt.flatten.others) (stepStmt stmt world)
      (stepStmt stmt.flatten.first world) := by
  match stmt with
  | .turn way => exact stepStmt_self _ world
  | .takeFuel => exact stepStmt_self _ world
  | .shield on => exact stepStmt_self _ world
  | .move count => exact stepStmt_self _ world
  | .wait count => exact stepStmt_self _ world
  | .assign name value => exact stepStmt_self _ world
  | .loop body =>
      have again := leftAlike_block (body.append (.single (.loop body)))
      rw [Block.flatten_append] at again
      exact .ok again world
  | .ifThen cond body =>
      apply (SameRun.refl (evalCond cond) world).map
      rintro holds _ rfl
      cases holds with
      | true => exact leftAlike_block body
      | false => exact leftAlike_self none
  | .ifElse cond body otherwise =>
      apply (SameRun.refl (evalCond cond) world).map
      rintro holds _ rfl
      cases holds with
      | true => exact leftAlike_block body
      | false => exact leftAlike_block otherwise
  | .while cond body =>
      have again := leftAlike_block (body.append (.single (.while cond body)))
      rw [Block.flatten_append] at again
      apply (SameRun.refl (evalCond cond) world).map
      rintro holds _ rfl
      cases holds with
      | true => exact again
      | false => exact leftAlike_self none
  | .block body => exact (stepBlock_flatten body world).mapLeft id

/-- A step of a block is a step of its first statement, and blocks cost no steps of their own. -/
theorem stepBlock_flatten (block : Block) (world : W) :
    SameRun (fun residual => LeftAlike block.flatten.others (residual.map .block))
      (stepBlock block world) (stepStmt block.flatten.first world) := by
  match block with
  | .single stmt =>
      apply (stepStmt_flatten stmt world).mapLeft
      intro residual flat alike
      rw [LeftAlike, splice_ofList]
      exact alike
  | .cons stmt rest =>
      rw [Block.flatten, Block.first_append, Block.others_append]
      apply (stepStmt_flatten stmt world).mapLeft
      intro residual flat alike
      rw [LeftAlike, splice_ofList, flattenAll_splice, alike, Block.flattenAll_toList,
        List.append_assoc]

end

/-- Sequences with the same flattened statements. -/
def FlatAlike (left right : List Stmt) : Prop := flattenAll left = flattenAll right

/-- Only a sequence of which nothing is left has no flattened statements. -/
theorem flattenAll_eq_nil_iff {stmts : List Stmt} : flattenAll stmts = [] ↔ stmts = [] := by
  cases stmts with
  | nil => simp
  | cons stmt rest => simp [Block.toList_eq]

/-- Two sequences with the same flattened statements are stepped alike. -/
theorem FlatAlike.stepStmt {stmt other : Stmt} {rest otherRest : List Stmt}
    (alike : FlatAlike (stmt :: rest) (other :: otherRest)) (world : W) :
    SameRun (fun residual otherResidual =>
        FlatAlike (splice residual rest) (splice otherResidual otherRest))
      (stepStmt stmt world) (stepStmt other world) := by
  simp only [FlatAlike, flattenAll_cons, Block.toList_eq, List.cons_append, List.cons.injEq]
    at alike
  obtain ⟨first, others⟩ := alike
  have left := stepStmt_flatten stmt world
  have right := stepStmt_flatten other world
  rw [first] at left
  apply (left.join right).imp
  rintro residual otherResidual ⟨flat, leftAlike, rightAlike⟩
  rw [FlatAlike, flattenAll_splice, leftAlike, flattenAll_splice otherResidual, rightAlike,
    List.append_assoc, List.append_assoc, others]

/-- Flattening changes neither the effects of steps nor their number. -/
theorem flatAlike_lockstep : Lockstep FlatAlike where
  nil_iff alike := by
    rw [← flattenAll_eq_nil_iff, alike, flattenAll_eq_nil_iff]
  step alike _ _ world := alike.stepStmt world

end Steps

/-! ### Ticks -/

/-- Programs with the same flattened statements. -/
def SameFlattening (left right : Program) : Prop := left.flatten = right.flatten

theorem SameFlattening.course {W : Type} [World W] {left right : Program}
    (same : SameFlattening left right) (renew : Nat → W → W) (ticks : Nat) (world : W) :
    (course renew ticks left world).deeds = (course renew ticks right world).deeds ∧
      SameRun SameFlattening (course renew ticks left world).ending
        (course renew ticks right world).ending := by
  have alike : FlatAlike left.stmts right.stmts := congrArg Program.stmts same
  obtain ⟨sameDeeds, ending⟩ := flatAlike_lockstep.course alike renew ticks world
  exact ⟨sameDeeds, ending.imp (congrArg Program.mk)⟩

/-- Nested blocks are transparent. Without them a program reads and does the same in every tick, in
the same order, ends in the same fault in the same tick, the limit of steps included, and leaves the
same program but for its nested blocks. This holds on every world, whatever happens to it between
the ticks. -/
theorem nested_blocks_are_transparent {W : Type} [World W] (program : Program)
    (renew : Nat → W → W) (ticks : Nat) (world : W) :
    (∀ node ∈ program.flatten.nodes, ∀ body, node ≠ .block body) ∧
    (course renew ticks program world).deeds =
      (course renew ticks program.flatten world).deeds ∧
    SameRun (fun rest otherRest => rest.flatten = otherRest.flatten)
      (course renew ticks program world).ending
      (course renew ticks program.flatten world).ending := by
  have same : SameFlattening program program.flatten :=
    congrArg Program.mk (flattenAll_flattenAll program.stmts).symm
  exact ⟨program.flat_flatten, same.course renew ticks world⟩

end FuelDuel.Execution
