import FuelDuel.Proofs.Residuals
import FuelDuel.Proofs.SlotUse

/-!
What holds of every statement of a program, at every depth, and is handed down from a counted
action to what is left of it, holds of every statement that is left to run
(`Advances.everywhere`).
-/

namespace FuelDuel.Language

/-- What is inside the statements inside is inside. -/
theorem Stmt.nodes_closed {stmt node : Stmt} (inside : node ∈ stmt.nodes) :
    node.nodes ⊆ stmt.nodes := by
  rcases List.mem_cons.mp inside with rfl | deeper
  · exact List.Subset.refl _
  · exact List.cons_subset.mpr
      ⟨inside, List.subset_cons_of_subset stmt (stmt.inner_closed deeper)⟩

mutual

/-- The leading statement is one of the statements inside. -/
theorem Stmt.lead_mem_nodes (stmt : Stmt) : stmt.lead ∈ stmt.nodes := by
  match stmt with
  | .turn _ | .takeFuel | .shield _ | .move _ | .wait _ | .assign _ _ | .loop _ | .ifThen _ _
  | .ifElse _ _ _ | .while _ _ => exact List.mem_cons_self
  | .block body => exact List.mem_cons_of_mem _ body.lead_mem_nodes

theorem Block.lead_mem_nodes (block : Block) : block.lead ∈ block.nodes := by
  match block with
  | .single stmt => exact stmt.lead_mem_nodes
  | .cons stmt rest => exact List.mem_append_left _ stmt.lead_mem_nodes

end

/-- The property holds of the statements of a sequence, at every depth. -/
def Everywhere (holds : Stmt → Prop) (stmts : List Stmt) : Prop :=
  ∀ node ∈ stmts.flatMap Stmt.nodes, holds node

section Sequences

variable {holds : Stmt → Prop}

theorem everywhere_nil : Everywhere holds [] := by
  simp [Everywhere]

theorem everywhere_cons_iff {stmt : Stmt} {rest : List Stmt} :
    Everywhere holds (stmt :: rest) ↔
      (∀ node ∈ stmt.nodes, holds node) ∧ Everywhere holds rest := by
  rw [Everywhere, List.flatMap_cons, List.forall_mem_append]
  rfl

theorem everywhere_append_iff {first second : List Stmt} :
    Everywhere holds (first ++ second) ↔ Everywhere holds first ∧ Everywhere holds second := by
  rw [Everywhere, List.flatMap_append, List.forall_mem_append]
  rfl

theorem everywhere_toList_iff {block : Block} :
    Everywhere holds block.toList ↔ ∀ node ∈ block.nodes, holds node := by
  rw [Everywhere, block.flatMap_nodes]

end Sequences

end FuelDuel.Language

namespace FuelDuel.Execution

open FuelDuel.Language

/-- What holds of a counted action holds of what is left of it. -/
structure Inherited (holds : Stmt → Prop) : Prop where
  moved : ∀ {count left}, holds (.move (some count)) → holds (.move (some (.num left)))
  waited : ∀ {count left}, holds (.wait (some count)) → holds (.wait (some (.num left)))

variable {holds : Stmt → Prop}

theorem Rewrites.everywhere (inherited : Inherited holds) {stmt : Stmt} {left : List Stmt}
    (rewrites : Rewrites stmt left) (before : ∀ node ∈ stmt.nodes, holds node) :
    Everywhere holds left := by
  intro node inside
  obtain ⟨outer, member, within⟩ := List.mem_flatMap.mp inside
  cases rewrites.descends outer member with
  | node found => exact before node (Stmt.nodes_closed found within)
  | moved found positive =>
      rw [List.mem_singleton.mp within]
      exact inherited.moved (before _ found)
  | waited found positive =>
      rw [List.mem_singleton.mp within]
      exact inherited.waited (before _ found)

theorem Advances.everywhere (inherited : Inherited holds) {stmts rest : List Stmt}
    (advances : Advances stmts rest) (before : Everywhere holds stmts) : Everywhere holds rest := by
  cases advances with
  | first rewrites others =>
      obtain ⟨first, later⟩ := everywhere_cons_iff.mp before
      exact everywhere_append_iff.mpr ⟨rewrites.everywhere inherited first, later⟩

end FuelDuel.Execution
