import FuelDuel.Proofs.Everywhere

/-!
How long a sequence can go on without acting, read off the sequence. Its delay is a bound on the
steps after which it has acted or come to its end: if every loop body acts, each step without an
action makes it less (`Rewrites.delay_lt`), since a loop that is unrolled acts before it comes round
again. But an action cuts a body in the middle, and then the delay of what is left can be larger
than it was before. The worst delay, over all that a sequence can become while it is worked off,
never rises (`Advances.worst_le`), and it is bounded by the size of the sequence and the depth of
its loops (`worst_le_nodes`).
-/

namespace FuelDuel.Language

/-- Whether a statement is an action statement. -/
def Stmt.acts (stmt : Stmt) : Bool := stmt.action?.isSome

/-- The body of a loop of either kind. -/
def Stmt.loopBody? : Stmt → Option Block
  | .loop body => some body
  | .while _ body => some body
  | _ => none

/-- If the statement is a loop, there is an action among the statements of its body. -/
def Driven (stmt : Stmt) : Prop := ∀ body ∈ stmt.loopBody?, ∃ inside ∈ body.toList, inside.acts

instance (stmt : Stmt) : Decidable (Driven stmt) :=
  inferInstanceAs (Decidable (∀ body ∈ stmt.loopBody?, ∃ inside ∈ body.toList, inside.acts))

mutual

/-- How deep loops of either kind are nested in a statement. -/
def Stmt.loopDepth : Stmt → Nat
  | .turn _ => 0
  | .takeFuel => 0
  | .shield _ => 0
  | .move _ => 0
  | .wait _ => 0
  | .assign _ _ => 0
  | .loop body => body.loopDepth + 1
  | .ifThen _ body => body.loopDepth
  | .ifElse _ body otherwise => max body.loopDepth otherwise.loopDepth
  | .while _ body => body.loopDepth + 1
  | .block body => body.loopDepth

/-- How deep loops are nested in a block. -/
def Block.loopDepth : Block → Nat
  | .single stmt => stmt.loopDepth
  | .cons stmt rest => max stmt.loopDepth rest.loopDepth

end

/-- How deep loops are nested in a sequence. -/
def loopDepth : List Stmt → Nat
  | [] => 0
  | stmt :: rest => max stmt.loopDepth (loopDepth rest)

end FuelDuel.Language

namespace FuelDuel.Execution

open FuelDuel.Language

/-! ### Delays -/

mutual

/-- The number of steps after which a statement has acted or come to its end, at most. -/
def stmtDelay : Stmt → Nat
  | .turn _ => 1
  | .takeFuel => 1
  | .shield _ => 1
  | .move _ => 1
  | .wait _ => 1
  | .assign _ _ => 1
  | .loop body => blockDelay body + 1
  | .ifThen _ body => blockDelay body + 1
  | .ifElse _ body otherwise => max (blockDelay body) (blockDelay otherwise) + 1
  | .while _ body => blockDelay body + 1
  | .block body => blockDelay body

/-- The number of steps after which a block has acted or come to its end, at most. What follows an
action statement does not count. -/
def blockDelay : Block → Nat
  | .single stmt => stmtDelay stmt
  | .cons stmt rest => if stmt.acts then 1 else stmtDelay stmt + blockDelay rest

end

/-- The number of steps after which a sequence has acted or come to its end, at most. -/
def delay : List Stmt → Nat
  | [] => 0
  | stmt :: rest => if stmt.acts then 1 else stmtDelay stmt + delay rest

theorem stmtDelay_of_acts {stmt : Stmt} (acts : stmt.acts = true) : stmtDelay stmt = 1 := by
  cases stmt <;> simp_all [Stmt.acts, Stmt.action?, stmtDelay]

theorem delay_cons_of_acts {stmt : Stmt} (acts : stmt.acts = true) (rest : List Stmt) :
    delay (stmt :: rest) = 1 := by
  rw [delay, if_pos acts]

theorem delay_cons_of_idle {stmt : Stmt} (idle : stmt.acts = false) (rest : List Stmt) :
    delay (stmt :: rest) = stmtDelay stmt + delay rest := by
  rw [delay, idle, if_neg Bool.false_ne_true]

theorem delay_cons_le (stmt : Stmt) (rest : List Stmt) :
    delay (stmt :: rest) ≤ stmtDelay stmt + delay rest := by
  cases acts : stmt.acts with
  | true =>
      rw [delay_cons_of_acts acts, stmtDelay_of_acts acts]
      exact Nat.le_add_right _ _
  | false => exact Nat.le_of_eq (delay_cons_of_idle acts rest)

theorem delay_toList (block : Block) : delay block.toList = blockDelay block := by
  induction block using Block.toList.induct with
  | case1 stmt =>
      rw [Block.toList, blockDelay]
      cases acts : stmt.acts with
      | true => rw [delay_cons_of_acts acts, stmtDelay_of_acts acts]
      | false => rw [delay_cons_of_idle acts, delay, Nat.add_zero]
  | case2 stmt rest ih => rw [Block.toList, delay, ih, blockDelay]

theorem delay_append_le (first second : List Stmt) :
    delay (first ++ second) ≤ delay first + delay second := by
  induction first with
  | nil => simp [delay]
  | cons stmt rest ih =>
      rw [List.cons_append]
      cases acts : stmt.acts with
      | true =>
          rw [delay_cons_of_acts acts, delay_cons_of_acts acts]
          exact Nat.le_add_right _ _
      | false =>
          rw [delay_cons_of_idle acts, delay_cons_of_idle acts]
          omega

/-- What stands behind an action statement does not matter. -/
theorem delay_append_of_acts {first : List Stmt} (driven : ∃ inside ∈ first, inside.acts = true)
    (second : List Stmt) : delay (first ++ second) = delay first := by
  induction first with
  | nil => simp at driven
  | cons stmt rest ih =>
      rw [List.cons_append]
      cases acts : stmt.acts with
      | true => rw [delay_cons_of_acts acts, delay_cons_of_acts acts]
      | false =>
          have later : ∃ inside ∈ rest, inside.acts = true := by
            simpa [acts] using driven
          rw [delay_cons_of_idle acts, delay_cons_of_idle acts, ih later]

mutual

theorem stmtDelay_pos (stmt : Stmt) : 0 < stmtDelay stmt := by
  match stmt with
  | .turn _ | .takeFuel | .shield _ | .move _ | .wait _ | .assign _ _ | .loop _ | .ifThen _ _
  | .ifElse _ _ _ | .while _ _ => simp [stmtDelay]
  | .block body => exact blockDelay_pos body

theorem blockDelay_pos (block : Block) : 0 < blockDelay block := by
  match block with
  | .single stmt => exact stmtDelay_pos stmt
  | .cons stmt rest =>
      rw [blockDelay]
      split
      · exact Nat.one_pos
      · exact Nat.lt_of_lt_of_le (stmtDelay_pos stmt) (Nat.le_add_right _ _)

end

theorem delay_cons_pos (stmt : Stmt) (rest : List Stmt) : 0 < delay (stmt :: rest) := by
  rw [delay]
  split
  · exact Nat.one_pos
  · exact Nat.lt_of_lt_of_le (stmtDelay_pos stmt) (Nat.le_add_right _ _)

/-! ### A step without an action makes the delay less -/

theorem acts_eq_false_of_lead {stmt : Stmt} (idle : stmt.lead.action? = none) :
    stmt.acts = false := by
  cases stmt <;> simp_all [Stmt.acts, Stmt.action?, Stmt.lead]

theorem Rewrites.delay_lt {stmt : Stmt} {left : List Stmt} (rewrites : Rewrites stmt left)
    (idle : stmt.lead.action? = none) (driven : ∀ node ∈ stmt.nodes, Driven node)
    (rest : List Stmt) : delay (left ++ rest) < delay (stmt :: rest) := by
  induction rewrites generalizing rest with
  | done stmt =>
      have positive := stmtDelay_pos stmt
      rw [delay_cons_of_idle (acts_eq_false_of_lead idle), List.nil_append]
      omega
  | moved count positive => simp [Stmt.lead, Stmt.action?] at idle
  | waited count positive => simp [Stmt.lead, Stmt.action?] at idle
  | loop body =>
      -- The loop comes back behind an action of its body, so it does not count again.
      have acting := driven (.loop body) List.mem_cons_self body rfl
      rw [List.append_assoc, delay_append_of_acts acting, delay_toList,
        delay_cons_of_idle (acts_eq_false_of_lead idle), stmtDelay]
      omega
  | ifThen cond body =>
      have bound := delay_append_le body.toList rest
      rw [delay_toList] at bound
      rw [delay_cons_of_idle (acts_eq_false_of_lead idle), stmtDelay]
      omega
  | ifElse cond body otherwise holds =>
      have bound := delay_append_le (if holds then body else otherwise).toList rest
      rw [delay_toList] at bound
      rw [delay_cons_of_idle (acts_eq_false_of_lead idle), stmtDelay]
      cases holds with
      | true =>
          rw [if_pos rfl] at bound ⊢
          omega
      | false =>
          rw [if_neg Bool.false_ne_true] at bound ⊢
          omega
  | «while» cond body =>
      have acting := driven (.while cond body) List.mem_cons_self body rfl
      rw [List.append_assoc, delay_append_of_acts acting, delay_toList,
        delay_cons_of_idle (acts_eq_false_of_lead idle), stmtDelay]
      omega
  -- The block leads to its first statement, so that one is not an action statement either.
  | @single stmt left inside ih =>
      have within : ∀ node ∈ stmt.nodes, Driven node := fun node member =>
        driven node (List.mem_cons_of_mem _ member)
      have still : stmt.acts = false := acts_eq_false_of_lead idle
      have less := ih idle within rest
      rw [delay_cons_of_idle still] at less
      rw [delay_cons_of_idle (acts_eq_false_of_lead idle), stmtDelay, blockDelay]
      exact less
  | @cons stmt left inside others ih =>
      have within : ∀ node ∈ stmt.nodes, Driven node := fun node member =>
        driven node (List.mem_cons_of_mem _ (List.mem_append_left _ member))
      have still : stmt.acts = false := acts_eq_false_of_lead idle
      have less := ih idle within (others.toList ++ rest)
      have bound := delay_append_le others.toList rest
      rw [delay_toList] at bound
      rw [delay_cons_of_idle still] at less
      rw [delay_cons_of_idle (acts_eq_false_of_lead idle), stmtDelay, blockDelay, still,
        if_neg Bool.false_ne_true, List.append_assoc]
      omega

/-! ### The worst delay never rises -/

mutual

/-- The largest delay of what a statement becomes while it is worked off. -/
def stmtWorst : Stmt → Nat
  | .turn _ => 1
  | .takeFuel => 1
  | .shield _ => 1
  | .move _ => 1
  | .wait _ => 1
  | .assign _ _ => 1
  | .loop body => blockWorst body + (blockDelay body + 1)
  | .ifThen _ body => blockWorst body + 1
  | .ifElse _ body otherwise => max (blockWorst body) (blockWorst otherwise) + 1
  | .while _ body => blockWorst body + (blockDelay body + 1)
  | .block body => blockWorst body

/-- The largest delay of what a block becomes while its statements are worked off. -/
def blockWorst : Block → Nat
  | .single stmt => stmtWorst stmt
  | .cons stmt rest => max (stmtWorst stmt + blockDelay rest) (blockWorst rest)

end

/-- The largest delay of what a sequence becomes while its statements are worked off. -/
def worst : List Stmt → Nat
  | [] => 0
  | stmt :: rest => max (stmtWorst stmt + delay rest) (worst rest)

theorem worst_toList (block : Block) : worst block.toList = blockWorst block := by
  induction block using Block.toList.induct with
  | case1 stmt => simp [Block.toList, worst, delay, blockWorst]
  | case2 stmt rest ih => rw [Block.toList, worst, delay_toList, ih, blockWorst]

theorem worst_append_le (first second : List Stmt) :
    worst (first ++ second) ≤ max (worst first + delay second) (worst second) := by
  induction first with
  | nil => exact Nat.le_max_right _ _
  | cons stmt rest ih =>
      have bound := delay_append_le rest second
      rw [List.cons_append, worst, worst]
      omega

/-- A loop behind its body: the body is worked off while the loop waits behind it. -/
theorem worst_unrolled_le {body : Block} {again : Stmt}
    (delayed : stmtDelay again = blockDelay body + 1)
    (same : stmtWorst again = blockWorst body + (blockDelay body + 1)) :
    worst (body.toList ++ [again]) ≤ stmtWorst again := by
  have bound := worst_append_le body.toList [again]
  have alone := delay_cons_le again []
  rw [delay] at alone
  rw [worst_toList, worst, worst, delay] at bound
  omega

theorem Rewrites.worst_le {stmt : Stmt} {left : List Stmt} (rewrites : Rewrites stmt left) :
    worst left ≤ stmtWorst stmt := by
  induction rewrites with
  | done stmt => exact Nat.zero_le _
  | moved count positive => simp [worst, delay, stmtWorst]
  | waited count positive => simp [worst, delay, stmtWorst]
  | loop body => exact worst_unrolled_le (by rw [stmtDelay]) (by rw [stmtWorst])
  | ifThen cond body =>
      rw [worst_toList, stmtWorst]
      exact Nat.le_succ _
  | ifElse cond body otherwise holds =>
      rw [worst_toList, stmtWorst]
      cases holds with
      | true => exact Nat.le_succ_of_le (Nat.le_max_left _ _)
      | false => exact Nat.le_succ_of_le (Nat.le_max_right _ _)
  | «while» cond body => exact worst_unrolled_le (by rw [stmtDelay]) (by rw [stmtWorst])
  | single rewrites ih => exact ih
  | @cons stmt left rewrites rest ih =>
      have bound := worst_append_le left rest.toList
      rw [worst_toList, delay_toList] at bound
      rw [stmtWorst, blockWorst]
      omega

theorem Advances.worst_le {stmts rest : List Stmt} (advances : Advances stmts rest) :
    worst rest ≤ worst stmts := by
  cases advances with
  | @first stmt left rewrites others =>
      have bound := worst_append_le left others
      have lower := rewrites.worst_le
      rw [worst]
      omega

/-! ### How large a delay can be -/

mutual

theorem stmtDelay_le_worst (stmt : Stmt) : stmtDelay stmt ≤ stmtWorst stmt := by
  match stmt with
  | .turn _ | .takeFuel | .shield _ | .move _ | .wait _ | .assign _ _ =>
      simp [stmtDelay, stmtWorst]
  | .loop body | .while _ body => simp [stmtDelay, stmtWorst]
  | .ifThen _ body =>
      have inside := blockDelay_le_worst body
      rw [stmtDelay, stmtWorst]
      omega
  | .ifElse _ body otherwise =>
      have first := blockDelay_le_worst body
      have second := blockDelay_le_worst otherwise
      rw [stmtDelay, stmtWorst]
      omega
  | .block body => exact blockDelay_le_worst body

theorem blockDelay_le_worst (block : Block) : blockDelay block ≤ blockWorst block := by
  match block with
  | .single stmt => exact stmtDelay_le_worst stmt
  | .cons stmt rest =>
      have first := stmtDelay_le_worst stmt
      have positive := stmtDelay_pos stmt
      rw [blockDelay, blockWorst]
      split <;> omega

end

theorem delay_le_worst (stmts : List Stmt) : delay stmts ≤ worst stmts := by
  cases stmts with
  | nil => exact Nat.le_refl _
  | cons stmt rest =>
      have bound := delay_cons_le stmt rest
      have first := stmtDelay_le_worst stmt
      rw [worst]
      omega

mutual

theorem stmtDelay_le_nodes (stmt : Stmt) : stmtDelay stmt ≤ stmt.inner.length + 1 := by
  match stmt with
  | .turn _ | .takeFuel | .shield _ | .move _ | .wait _ | .assign _ _ => simp [stmtDelay]
  | .loop body | .ifThen _ body | .while _ body =>
      simpa [stmtDelay, Stmt.inner] using blockDelay_le_nodes body
  | .ifElse _ body otherwise =>
      have first := blockDelay_le_nodes body
      have second := blockDelay_le_nodes otherwise
      rw [stmtDelay, Stmt.inner, List.length_append]
      omega
  | .block body => exact Nat.le_succ_of_le (blockDelay_le_nodes body)

theorem blockDelay_le_nodes (block : Block) : blockDelay block ≤ block.nodes.length := by
  match block with
  | .single stmt => simpa [blockDelay, Block.nodes] using stmtDelay_le_nodes stmt
  | .cons stmt rest =>
      have first := stmtDelay_le_nodes stmt
      have later := blockDelay_le_nodes rest
      rw [blockDelay, Block.nodes, List.length_append, List.length_cons]
      split <;> omega

end

theorem delay_le_nodes (stmts : List Stmt) : delay stmts ≤ (stmts.flatMap Stmt.nodes).length := by
  induction stmts with
  | nil => exact Nat.le_refl _
  | cons stmt rest ih =>
      have bound := delay_cons_le stmt rest
      have first := stmtDelay_le_nodes stmt
      rw [List.flatMap_cons, List.length_append, Stmt.nodes, List.length_cons]
      omega

/-- A loop around a body, in numbers: there is one level more, and one statement more. -/
theorem level_le {inside delayed size depth : Nat} (bound : inside ≤ (depth + 1) * size)
    (short : delayed ≤ size) : inside + (delayed + 1) ≤ (depth + 1 + 1) * (size + 1) := by
  have product : (depth + 1 + 1) * (size + 1) = (depth + 1) * size + size + (depth + 1 + 1) := by
    rw [Nat.mul_succ, Nat.succ_mul]
  omega

mutual

/-- Each level of loops adds at most the size of the statement. -/
theorem stmtWorst_le (stmt : Stmt) {depth : Nat} (deep : stmt.loopDepth ≤ depth) :
    stmtWorst stmt ≤ (depth + 1) * (stmt.inner.length + 1) := by
  match stmt with
  | .turn _ | .takeFuel | .shield _ | .move _ | .wait _ | .assign _ _ =>
      simp [stmtWorst, Stmt.inner]
  | .loop body | .while _ body =>
      obtain ⟨level, rfl⟩ : ∃ level, depth = level + 1 :=
        ⟨depth - 1, by simp only [Stmt.loopDepth] at deep; omega⟩
      exact level_le (blockWorst_le body (Nat.le_of_succ_le_succ deep)) (blockDelay_le_nodes body)
  | .ifThen _ body =>
      have inside := blockWorst_le body deep
      rw [stmtWorst, Stmt.inner, Nat.mul_succ]
      omega
  | .ifElse _ body otherwise =>
      rw [Stmt.loopDepth] at deep
      have first := blockWorst_le body (Nat.le_trans (Nat.le_max_left _ _) deep)
      have second := blockWorst_le otherwise (Nat.le_trans (Nat.le_max_right _ _) deep)
      rw [stmtWorst, Stmt.inner, List.length_append, Nat.mul_succ, Nat.mul_add]
      omega
  | .block body =>
      have inside := blockWorst_le body deep
      rw [stmtWorst, Stmt.inner, Nat.mul_succ]
      omega

theorem blockWorst_le (block : Block) {depth : Nat} (deep : block.loopDepth ≤ depth) :
    blockWorst block ≤ (depth + 1) * block.nodes.length := by
  match block with
  | .single stmt => simpa [blockWorst, Block.nodes] using stmtWorst_le stmt deep
  | .cons stmt rest =>
      rw [Block.loopDepth] at deep
      have first := stmtWorst_le stmt (Nat.le_trans (Nat.le_max_left _ _) deep)
      have later := blockWorst_le rest (Nat.le_trans (Nat.le_max_right _ _) deep)
      have short := blockDelay_le_nodes rest
      have shorter : rest.nodes.length ≤ (depth + 1) * rest.nodes.length :=
        Nat.le_mul_of_pos_left _ (Nat.succ_pos depth)
      rw [blockWorst, Block.nodes, List.length_append, List.length_cons, Nat.mul_add]
      omega

end

theorem worst_le_nodes (stmts : List Stmt) {depth : Nat} (deep : loopDepth stmts ≤ depth) :
    worst stmts ≤ (depth + 1) * (stmts.flatMap Stmt.nodes).length := by
  induction stmts with
  | nil => exact Nat.zero_le _
  | cons stmt rest ih =>
      rw [loopDepth] at deep
      have first := stmtWorst_le stmt (Nat.le_trans (Nat.le_max_left _ _) deep)
      have later := ih (Nat.le_trans (Nat.le_max_right _ _) deep)
      have short := delay_le_nodes rest
      have shorter : (rest.flatMap Stmt.nodes).length ≤
          (depth + 1) * (rest.flatMap Stmt.nodes).length :=
        Nat.le_mul_of_pos_left _ (Nat.succ_pos depth)
      rw [worst, List.flatMap_cons, List.length_append, Stmt.nodes, List.length_cons, Nat.mul_add]
      omega

end FuelDuel.Execution
