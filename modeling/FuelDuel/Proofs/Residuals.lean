import FuelDuel.Proofs.Running
import FuelDuel.World.Rehearsal
import Mathlib.Logic.Relation

/-!
Residual programs. Every iteration of a loop copies its body in front of the loop, so the list of
statements that is left to run grows and shrinks all the time. It never outgrows the program
nevertheless (`residual_programs_stay_bounded`).

Whatever the world answers, a step can leave only a few things of a statement (`Rewrites`). So two
facts about these rewritings are facts about all runs. Every statement that is left is a statement
of the program or what is left of a counted action (`Descends`). And the peak of a list, the largest
number of statements that it can become while its first statement is worked off, then its second and
so on, never rises: a loop behind its own body counts as one statement, and while the loop itself
stands in front nothing of its body does.
-/

namespace FuelDuel.Language

/-! ### Statements at every depth -/

mutual

/-- The statements inside a statement, at every depth. -/
def Stmt.inner : Stmt → List Stmt
  | .turn _ => []
  | .takeFuel => []
  | .shield _ => []
  | .move _ => []
  | .wait _ => []
  | .assign _ _ => []
  | .loop body => body.nodes
  | .ifThen _ body => body.nodes
  | .ifElse _ body otherwise => body.nodes ++ otherwise.nodes
  | .while _ body => body.nodes
  | .block body => body.nodes

/-- The statements of a block, each followed by the statements inside it. -/
def Block.nodes : Block → List Stmt
  | .single stmt => stmt :: stmt.inner
  | .cons stmt rest => stmt :: stmt.inner ++ rest.nodes

end

/-- A statement and the statements inside it. -/
def Stmt.nodes (stmt : Stmt) : List Stmt := stmt :: stmt.inner

/-- The statements of a program at every depth. -/
def Program.nodes (program : Program) : List Stmt := program.stmts.flatMap Stmt.nodes

theorem Block.flatMap_nodes (block : Block) : block.toList.flatMap Stmt.nodes = block.nodes := by
  induction block using Block.toList.induct with
  | case1 stmt => simp [Block.toList, Block.nodes, Stmt.nodes]
  | case2 stmt rest ih => simp [Block.toList, Block.nodes, Stmt.nodes, ih]

theorem Block.mem_nodes {block : Block} {stmt : Stmt} (member : stmt ∈ block.toList) :
    stmt ∈ block.nodes := by
  rw [← block.flatMap_nodes]
  exact List.mem_flatMap.mpr ⟨stmt, member, List.mem_cons_self⟩

mutual

/-- What is inside a statement inside is inside. -/
theorem Stmt.inner_closed (stmt : Stmt) {node : Stmt} (inside : node ∈ stmt.inner) :
    node.inner ⊆ stmt.inner := by
  match stmt with
  | .loop body => exact body.nodes_closed inside
  | .ifThen _ body => exact body.nodes_closed inside
  | .ifElse _ body otherwise =>
      rcases List.mem_append.mp inside with first | second
      · exact List.subset_append_of_subset_left _ (body.nodes_closed first)
      · exact List.subset_append_of_subset_right _ (otherwise.nodes_closed second)
  | .while _ body => exact body.nodes_closed inside
  | .block body => exact body.nodes_closed inside

theorem Block.nodes_closed (block : Block) {node : Stmt} (inside : node ∈ block.nodes) :
    node.inner ⊆ block.nodes := by
  match block with
  | .single stmt =>
      rcases List.mem_cons.mp inside with rfl | deeper
      · exact List.subset_cons_self _ _
      · exact List.subset_cons_of_subset _ (stmt.inner_closed deeper)
  | .cons stmt rest =>
      rcases List.mem_append.mp inside with first | later
      · apply List.subset_append_of_subset_left
        rcases List.mem_cons.mp first with rfl | deeper
        · exact List.subset_cons_self _ _
        · exact List.subset_cons_of_subset _ (stmt.inner_closed deeper)
      · exact List.subset_append_of_subset_right _ (rest.nodes_closed later)

end

end FuelDuel.Language

namespace FuelDuel.Execution

open FuelDuel.Language
open FuelDuel.World

/-! ### Rewritings -/

/-- What a step can leave of a statement, spliced into the sequence around it. -/
inductive Rewrites : Stmt → List Stmt → Prop where
  | done (stmt : Stmt) : Rewrites stmt []
  | moved (count : Expr) {left : Int32} (positive : 0 < left) :
      Rewrites (.move (some count)) [.move (some (.num left))]
  | waited (count : Expr) {left : Int32} (positive : 0 < left) :
      Rewrites (.wait (some count)) [.wait (some (.num left))]
  | loop (body : Block) : Rewrites (.loop body) (body.toList ++ [.loop body])
  | ifThen (cond : Cond) (body : Block) : Rewrites (.ifThen cond body) body.toList
  | ifElse (cond : Cond) (body otherwise : Block) (holds : Bool) :
      Rewrites (.ifElse cond body otherwise) (if holds then body else otherwise).toList
  | while (cond : Cond) (body : Block) :
      Rewrites (.while cond body) (body.toList ++ [.while cond body])
  | single {stmt : Stmt} {left : List Stmt} (inside : Rewrites stmt left) :
      Rewrites (.block (.single stmt)) left
  | cons {stmt : Stmt} {left : List Stmt} (inside : Rewrites stmt left) (rest : Block) :
      Rewrites (.block (.cons stmt rest)) (left ++ rest.toList)

/-- A step of a sequence rewrites its first statement. -/
inductive Advances : List Stmt → List Stmt → Prop where
  | first {stmt : Stmt} {left : List Stmt} (rewrites : Rewrites stmt left) (rest : List Stmt) :
      Advances (stmt :: rest) (left ++ rest)

theorem sub_one_pos {count : Int32} (more : 1 < count) : 0 < count - 1 := by
  have above : (1 : Int) < count.toInt := Int32.lt_iff_toInt_lt.mp more
  have less := toInt_sub_one more
  apply Int32.lt_iff_toInt_lt.mpr
  show (0 : Int) < (count - 1).toInt
  omega

section Steps

variable {W : Type} [World W] {world after : W}

/-- The count that is left over is positive, and without a count nothing is left over. -/
theorem performCounted_left {action : Action} {count left : Option Expr}
    (ran : performCounted action count world = .ok left after) :
    left = none ∨ ∃ expr value, count = some expr ∧ 0 < value ∧ left = some (.num value) := by
  cases count with
  | none =>
      obtain ⟨-, -, rfl⟩ := map_eq_ok_iff.mp ran
      exact .inl rfl
  | some expr =>
      obtain ⟨remaining, middle, -, acted⟩ := bind_eq_ok_iff.mp ran
      obtain ⟨-, -, rfl⟩ := map_eq_ok_iff.mp acted
      by_cases more : 1 < remaining
      · rw [if_pos more]
        exact .inr ⟨expr, remaining - 1, rfl, sub_one_pos more, rfl⟩
      · rw [if_neg more]
        exact .inl rfl

mutual

/-- Whatever the world, a step rewrites its statement. -/
theorem stepStmt_rewrites (stmt : Stmt) {residual : Option Stmt}
    (ran : stepStmt stmt world = .ok residual after) :
    Rewrites stmt (splice residual []) := by
  match stmt with
  | .turn way =>
      obtain ⟨-, -, rfl⟩ := map_eq_ok_iff.mp ran
      exact .done _
  | .takeFuel =>
      obtain ⟨-, -, rfl⟩ := map_eq_ok_iff.mp ran
      exact .done _
  | .shield on =>
      cases ran
      exact .done _
  | .move count =>
      obtain ⟨left, performed, rfl⟩ := map_eq_ok_iff.mp ran
      rw [splice_counted left (by simp)]
      rcases performCounted_left performed with rfl | ⟨expr, value, rfl, positive, rfl⟩
      · exact .done _
      · exact .moved expr positive
  | .wait count =>
      obtain ⟨left, performed, rfl⟩ := map_eq_ok_iff.mp ran
      rw [splice_counted left (by simp)]
      rcases performCounted_left performed with rfl | ⟨expr, value, rfl, positive, rfl⟩
      · exact .done _
      · exact .waited expr positive
  | .assign name value =>
      obtain ⟨result, middle, -, stored⟩ := bind_eq_ok_iff.mp ran
      cases stored
      exact .done _
  | .loop body =>
      cases ran
      rw [splice, List.append_nil, Block.toList_append]
      exact .loop body
  | .ifThen cond body =>
      obtain ⟨holds, -, rfl⟩ := map_eq_ok_iff.mp ran
      cases holds with
      | false => exact .done _
      | true =>
          rw [if_pos rfl, splice, List.append_nil]
          exact .ifThen cond body
  | .ifElse cond body otherwise =>
      obtain ⟨holds, -, rfl⟩ := map_eq_ok_iff.mp ran
      rw [splice, List.append_nil]
      exact .ifElse cond body otherwise holds
  | .while cond body =>
      obtain ⟨holds, -, rfl⟩ := map_eq_ok_iff.mp ran
      cases holds with
      | false => exact .done _
      | true =>
          rw [if_pos rfl, splice, List.append_nil, Block.toList_append]
          exact .while cond body
  | .block body =>
      obtain ⟨left, stepped, rfl⟩ := map_eq_ok_iff.mp ran
      exact stepBlock_rewrites body stepped

/-- A step of a block rewrites its first statement. -/
theorem stepBlock_rewrites (block : Block) {residual : Option Block}
    (ran : stepBlock block world = .ok residual after) :
    Rewrites (.block block) (splice (residual.map .block) []) := by
  match block with
  | .single stmt =>
      obtain ⟨left, stepped, rfl⟩ := map_eq_ok_iff.mp ran
      rw [splice_ofList]
      exact .single (stepStmt_rewrites stmt stepped)
  | .cons stmt rest =>
      obtain ⟨left, stepped, rfl⟩ := map_eq_ok_iff.mp ran
      rw [splice_ofList, splice_append]
      exact .cons (stepStmt_rewrites stmt stepped) rest

end

/-- The steps of a tick rewrite one first statement after the other. -/
theorem runSteps_advances {steps : Nat} {stmts rest : List Stmt}
    (ran : runSteps steps stmts world = .ok rest after) :
    Relation.ReflTransGen Advances stmts rest := by
  induction steps generalizing stmts world with
  | zero =>
      by_cases free : World.performed world = none
      · cases stmts with
        | nil =>
            rw [runSteps_nil] at ran
            cases ran
            exact .refl
        | cons stmt others =>
            rw [runSteps_zero stmt others free] at ran
            cases ran
      · rw [runSteps_used _ stmts free] at ran
        cases ran
        exact .refl
  | succ steps ih =>
      by_cases free : World.performed world = none
      · cases stmts with
        | nil =>
            rw [runSteps_nil] at ran
            cases ran
            exact .refl
        | cons stmt others =>
            rw [runSteps_succ steps stmt others free] at ran
            obtain ⟨residual, middle, stepped, later⟩ := bind_eq_ok_iff.mp ran
            rw [splice_append] at later
            exact .head (.first (stepStmt_rewrites stmt stepped) others) (ih later)
      · rw [runSteps_used _ stmts free] at ran
        cases ran
        exact .refl

theorem execute_advances {program rest : Program}
    (ran : execute program world = .ok rest after) :
    Relation.ReflTransGen Advances program.stmts rest.stmts := by
  obtain ⟨left, steps, rfl⟩ := map_eq_ok_iff.mp ran
  exact runSteps_advances steps

end Steps

/-! ### Where statements come from -/

/-- A statement that is one of the given statements, or what is left of a counted one. -/
inductive Descends (nodes : List Stmt) : Stmt → Prop where
  | node {stmt : Stmt} (found : stmt ∈ nodes) : Descends nodes stmt
  | moved {count : Expr} {left : Int32} (found : .move (some count) ∈ nodes)
      (positive : 0 < left) : Descends nodes (.move (some (.num left)))
  | waited {count : Expr} {left : Int32} (found : .wait (some count) ∈ nodes)
      (positive : 0 < left) : Descends nodes (.wait (some (.num left)))

theorem Descends.mono {fewer more : List Stmt} {stmt : Stmt} (descends : Descends fewer stmt)
    (within : fewer ⊆ more) : Descends more stmt := by
  cases descends with
  | node found => exact .node (within found)
  | moved found positive => exact .moved (within found) positive
  | waited found positive => exact .waited (within found) positive

theorem Rewrites.descends {stmt : Stmt} {left : List Stmt} (rewrites : Rewrites stmt left) :
    ∀ node ∈ left, Descends stmt.nodes node := by
  have inside {body : Block} {outer node : Stmt} (member : node ∈ body.toList)
      (within : body.nodes ⊆ outer.inner) : Descends outer.nodes node :=
    .node (List.mem_cons_of_mem _ (within (body.mem_nodes member)))
  induction rewrites with
  | done stmt => simp
  | moved count positive =>
      rintro node (_ | ⟨_, ⟨⟩⟩)
      exact .moved List.mem_cons_self positive
  | waited count positive =>
      rintro node (_ | ⟨_, ⟨⟩⟩)
      exact .waited List.mem_cons_self positive
  | loop body =>
      intro node member
      rcases List.mem_append.mp member with early | last
      · exact inside early (List.Subset.refl _)
      · rw [List.mem_singleton.mp last]
        exact .node List.mem_cons_self
  | ifThen cond body =>
      intro node member
      exact inside member (List.Subset.refl _)
  | ifElse cond body otherwise holds =>
      intro node member
      cases holds with
      | true => exact inside member (List.subset_append_left _ _)
      | false => exact inside member (List.subset_append_right _ _)
  | «while» cond body =>
      intro node member
      rcases List.mem_append.mp member with early | last
      · exact inside early (List.Subset.refl _)
      · rw [List.mem_singleton.mp last]
        exact .node List.mem_cons_self
  | single rewrites ih =>
      intro node member
      exact (ih node member).mono (List.subset_cons_self _ _)
  | @cons stmt left rewrites rest ih =>
      intro node member
      rcases List.mem_append.mp member with early | later
      · exact (ih node early).mono
          (List.subset_cons_of_subset _ (List.subset_append_left _ _))
      · exact .node (List.mem_cons_of_mem _ (List.mem_append_right _ (rest.mem_nodes later)))

/-- The given statements hold all that is inside them. -/
def Closed (nodes : List Stmt) : Prop := ∀ stmt ∈ nodes, stmt.inner ⊆ nodes

theorem closed_nodes (program : Program) : Closed program.nodes := by
  intro stmt found
  obtain ⟨outer, member, inside⟩ := List.mem_flatMap.mp found
  have within : outer.nodes ⊆ program.nodes := fun node deeper =>
    List.mem_flatMap.mpr ⟨outer, member, deeper⟩
  have deeper : stmt.inner ⊆ outer.inner := by
    rcases List.mem_cons.mp inside with rfl | inner
    · exact List.Subset.refl _
    · exact outer.inner_closed inner
  exact fun node inner => within (List.mem_cons_of_mem _ (deeper inner))

/-- What is left of a statement comes from where the statement comes from. -/
theorem Descends.rewrites {nodes left : List Stmt} {stmt node : Stmt} (closed : Closed nodes)
    (descends : Descends nodes stmt) (rewrites : Rewrites stmt left) (member : node ∈ left) :
    Descends nodes node := by
  have origin := rewrites.descends node member
  cases descends with
  | node found => exact origin.mono (List.cons_subset.mpr ⟨found, closed stmt found⟩)
  | moved found positive =>
      -- A literal count is counted down further: the count it comes from stays the same.
      cases rewrites with
      | done => cases member
      | moved _ fewer =>
          rw [List.mem_singleton.mp member]
          exact .moved found fewer
  | waited found positive =>
      cases rewrites with
      | done => cases member
      | waited _ fewer =>
          rw [List.mem_singleton.mp member]
          exact .waited found fewer

theorem Advances.descends {nodes stmts rest : List Stmt} (closed : Closed nodes)
    (advances : Advances stmts rest) (descend : ∀ stmt ∈ stmts, Descends nodes stmt) :
    ∀ stmt ∈ rest, Descends nodes stmt := by
  cases advances with
  | first rewrites others =>
      intro stmt member
      rcases List.mem_append.mp member with early | later
      · exact (descend _ List.mem_cons_self).rewrites closed rewrites early
      · exact descend stmt (List.mem_cons_of_mem _ later)

/-! ### How many statements there can be -/

mutual

/-- The largest number of statements that a statement becomes while it is worked off. -/
def stmtPeak : Stmt → Nat
  | .turn _ => 1
  | .takeFuel => 1
  | .shield _ => 1
  | .move _ => 1
  | .wait _ => 1
  | .assign _ _ => 1
  | .loop body => blockPeak body + 1
  | .ifThen _ body => blockPeak body
  | .ifElse _ body otherwise => max (blockPeak body) (blockPeak otherwise)
  | .while _ body => blockPeak body + 1
  | .block body => blockPeak body

/-- The largest number of statements that a block becomes while its statements are worked off. -/
def blockPeak : Block → Nat
  | .single stmt => stmtPeak stmt
  | .cons stmt rest => max (stmtPeak stmt + rest.length) (blockPeak rest)

end

/-- The largest number of statements that a sequence becomes while its statements are worked off. -/
def peak : List Stmt → Nat
  | [] => 0
  | stmt :: rest => max (stmtPeak stmt + rest.length) (peak rest)

theorem peak_toList (block : Block) : peak block.toList = blockPeak block := by
  induction block using Block.toList.induct with
  | case1 stmt => simp [Block.toList, peak, blockPeak]
  | case2 stmt rest ih => simp [Block.toList, peak, blockPeak, ih]

theorem peak_append_le (first second : List Stmt) :
    peak (first ++ second) ≤ max (peak first + second.length) (peak second) := by
  induction first with
  | nil => exact Nat.le_max_right _ _
  | cons stmt rest ih =>
      simp only [List.cons_append, peak, List.length_append]
      omega

/-- A rewriting does not raise the peak: a loop behind its body is one statement more than the
body. -/
theorem Rewrites.peak_le {stmt : Stmt} {left : List Stmt} (rewrites : Rewrites stmt left) :
    peak left ≤ stmtPeak stmt := by
  induction rewrites with
  | done stmt => exact Nat.zero_le _
  | moved count positive => simp [peak, stmtPeak]
  | waited count positive => simp [peak, stmtPeak]
  | loop body =>
      have bound := peak_append_le body.toList [.loop body]
      simp only [peak_toList, peak, stmtPeak, List.length_singleton, List.length_nil] at bound ⊢
      omega
  | ifThen cond body =>
      rw [peak_toList]
      exact Nat.le_refl _
  | ifElse cond body otherwise holds =>
      rw [peak_toList, stmtPeak]
      cases holds with
      | true => exact Nat.le_max_left _ _
      | false => exact Nat.le_max_right _ _
  | «while» cond body =>
      have bound := peak_append_le body.toList [.while cond body]
      simp only [peak_toList, peak, stmtPeak, List.length_singleton, List.length_nil] at bound ⊢
      omega
  | single rewrites ih => exact ih
  | @cons stmt left rewrites rest ih =>
      have bound := peak_append_le left rest.toList
      rw [peak_toList, Block.length_toList] at bound
      rw [stmtPeak, blockPeak]
      omega

theorem Advances.peak_le {stmts rest : List Stmt} (advances : Advances stmts rest) :
    peak rest ≤ peak stmts := by
  cases advances with
  | @first stmt left rewrites others =>
      have bound := peak_append_le left others
      have lower := rewrites.peak_le
      rw [peak]
      omega

mutual

theorem stmtPeak_pos (stmt : Stmt) : 0 < stmtPeak stmt := by
  match stmt with
  | .turn _ | .takeFuel | .shield _ | .move _ | .wait _ | .assign _ _ => simp [stmtPeak]
  | .loop body | .while _ body => simp [stmtPeak]
  | .ifThen _ body | .block body => simpa [stmtPeak] using blockPeak_pos body
  | .ifElse _ body otherwise =>
      rw [stmtPeak]
      exact Nat.lt_of_lt_of_le (blockPeak_pos body) (Nat.le_max_left _ _)

theorem blockPeak_pos (block : Block) : 0 < blockPeak block := by
  match block with
  | .single stmt => exact stmtPeak_pos stmt
  | .cons stmt rest =>
      rw [blockPeak]
      exact Nat.lt_of_lt_of_le (blockPeak_pos rest) (Nat.le_max_right _ _)

end

theorem length_le_peak (stmts : List Stmt) : stmts.length ≤ peak stmts := by
  cases stmts with
  | nil => exact Nat.le_refl _
  | cons stmt rest =>
      have positive := stmtPeak_pos stmt
      rw [List.length_cons, peak]
      omega

mutual

theorem stmtPeak_le (stmt : Stmt) : stmtPeak stmt ≤ stmt.inner.length + 1 := by
  match stmt with
  | .turn _ | .takeFuel | .shield _ | .move _ | .wait _ | .assign _ _ => simp [stmtPeak]
  | .loop body | .while _ body => simpa [stmtPeak, Stmt.inner] using (blockPeak_le body).1
  | .ifThen _ body | .block body =>
      exact Nat.le_succ_of_le (blockPeak_le body).1
  | .ifElse _ body otherwise =>
      have first := (blockPeak_le body).1
      have second := (blockPeak_le otherwise).1
      rw [stmtPeak, Stmt.inner, List.length_append]
      omega

/-- While one statement of a block is worked off, each later one is a statement of its own. -/
theorem blockPeak_le (block : Block) :
    blockPeak block ≤ block.nodes.length ∧ block.length ≤ block.nodes.length := by
  match block with
  | .single stmt =>
      have first := stmtPeak_le stmt
      simp only [blockPeak, Block.nodes, Block.length, List.length_cons]
      omega
  | .cons stmt rest =>
      have first := stmtPeak_le stmt
      have later := blockPeak_le rest
      simp only [blockPeak, Block.nodes, Block.length, List.length_cons, List.length_append]
      omega

end

theorem peak_le_nodes (stmts : List Stmt) :
    peak stmts ≤ (stmts.flatMap Stmt.nodes).length ∧
      stmts.length ≤ (stmts.flatMap Stmt.nodes).length := by
  induction stmts with
  | nil => simp [peak]
  | cons stmt rest ih =>
      have first := stmtPeak_le stmt
      simp only [peak, List.flatMap_cons, List.length_append, List.length_cons, Stmt.nodes]
      omega

/-! ### Runs of ticks -/

/-- What ticks can leave of a program, each of them on a world of its own. A program that ends in a
fault can be given up. -/
inductive LeftOver (program : Program) : Program → Prop where
  | start : LeftOver program program
  | tick {W : Type} [World W] {world after : W} {before rest : Program}
      (earlier : LeftOver program before) (ran : execute before world = .ok rest after) :
      LeftOver program rest
  | givenUp {W : Type} [World W] {world after : W} {before : Program} {fault : Fault}
      (earlier : LeftOver program before) (ran : execute before world = .error fault after) :
      LeftOver program .empty

/-- What every rewriting keeps, and holds when nothing is left, holds of all that ticks leave. -/
theorem LeftOver.keeps (holds : List Stmt → Prop) {program residual : Program}
    (left : LeftOver program residual)
    (keeps : ∀ {stmts rest : List Stmt}, Advances stmts rest → holds stmts → holds rest)
    (nothing : holds []) (start : holds program.stmts) : holds residual.stmts := by
  have keepsAll {stmts rest : List Stmt} (advances : Relation.ReflTransGen Advances stmts rest)
      (before : holds stmts) : holds rest := by
    induction advances with
    | refl => exact before
    | tail _ last ih => exact keeps last ih
  induction left with
  | start => exact start
  | tick _ ran ih => exact keepsAll (execute_advances ran) ih
  | givenUp => exact nothing

/-- However many ticks a program runs, and whatever the worlds are that it runs on, no more
statements are left of it than it has at all depths. Each of them is one of its statements, or a
move or a wait with a positive count that is left over from a counted one. -/
theorem residual_programs_stay_bounded {program residual : Program}
    (left : LeftOver program residual) :
    residual.stmts.length ≤ program.nodes.length ∧
      ∀ stmt ∈ residual.stmts, Descends program.nodes stmt := by
  constructor
  · have lower : peak residual.stmts ≤ peak program.stmts :=
      left.keeps (fun stmts => peak stmts ≤ peak program.stmts)
        (fun advances bound => Nat.le_trans advances.peak_le bound) (Nat.zero_le _)
        (Nat.le_refl _)
    calc residual.stmts.length
      _ ≤ peak residual.stmts := length_le_peak _
      _ ≤ peak program.stmts := lower
      _ ≤ program.nodes.length := (peak_le_nodes program.stmts).1
  · have own : ∀ stmt ∈ program.stmts, Descends program.nodes stmt := fun stmt member =>
      .node (List.mem_flatMap.mpr ⟨stmt, member, List.mem_cons_self⟩)
    exact left.keeps (fun stmts => ∀ stmt ∈ stmts, Descends program.nodes stmt)
      (Advances.descends (closed_nodes program)) (by simp) own

/-- Goes ahead in threes, and turns should that ever come to an end. -/
def endlessMarch : Stmt :=
  .loop (.ofCons (.loop (.single (.move (some (.num 3))))) [.turn .left])

/-- After one tick of a march inside two loops, as many statements are left as the march has. -/
theorem residual_programs_stay_bounded_of_endlessMarch :
    let program : Program := ⟨[endlessMarch]⟩
    let residual : Program :=
      ⟨[.move (some (.num 2)), .loop (.single (.move (some (.num 3)))), .turn .left, endlessMarch]⟩
    LeftOver program residual ∧ residual.stmts.length = program.nodes.length ∧
      ∀ stmt ∈ residual.stmts, Descends program.nodes stmt := by
  intro program residual
  have ran : execute program ({ readings := {} } : Rehearsal) =
      .ok residual { readings := {}, performed := some .move } := by rfl
  have left : LeftOver program residual := .tick .start ran
  exact ⟨left, rfl, (residual_programs_stay_bounded left).2⟩

end FuelDuel.Execution
