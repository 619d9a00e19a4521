import FuelDuel.Arena.Grid

/-!
Finite sets of cells, listed row by row. Each operation is described by the cells it leaves
(`mem_insert`, `mem_erase`, `mem_without`).
-/

namespace FuelDuel.Arena

/-- A finite set of cells in row-major order. -/
structure CellSet where
  cells : List Cell
  ordered : cells.Pairwise (· < ·)
  deriving DecidableEq

namespace CellSet

/-- No cells. -/
def empty : CellSet := ⟨[], .nil⟩

/-- Puts a cell in its place in a list in row-major order, unless it is there already. -/
def insertCell (cell : Cell) : List Cell → List Cell
  | [] => [cell]
  | first :: rest =>
      if cell = first then first :: rest
      else if cell < first then cell :: first :: rest
      else first :: insertCell cell rest

theorem mem_insertCell {cell other : Cell} {cells : List Cell} :
    other ∈ insertCell cell cells ↔ other = cell ∨ other ∈ cells := by
  induction cells with
  | nil => simp [insertCell]
  | cons first rest ih =>
      rw [insertCell]
      split
      · next h => subst h; simp
      · split
        · simp
        · rw [List.mem_cons, ih, List.mem_cons]
          exact or_left_comm

theorem ordered_insertCell {cell : Cell} {cells : List Cell} (h : cells.Pairwise (· < ·)) :
    (insertCell cell cells).Pairwise (· < ·) := by
  induction h with
  | nil => simp [insertCell]
  | @cons first rest firstLess restOrdered ih =>
      rw [insertCell]
      split
      · exact .cons firstLess restOrdered
      · next hne =>
        split
        · next hlt =>
          refine .cons (fun other mem => ?_) (.cons firstLess restOrdered)
          rcases List.mem_cons.mp mem with rfl | mem
          · exact hlt
          · exact Cell.lt_trans hlt (firstLess other mem)
        · next hnot =>
          refine .cons (fun other mem => ?_) ih
          rcases mem_insertCell.mp mem with rfl | mem
          · exact Cell.lt_of_not_lt_of_ne hnot hne
          · exact firstLess other mem

/-- Whether a cell is in the set. -/
def contains (set : CellSet) (cell : Cell) : Bool := set.cells.contains cell

/-- Adds a cell. -/
def insert (set : CellSet) (cell : Cell) : CellSet :=
  ⟨insertCell cell set.cells, ordered_insertCell set.ordered⟩

/-- Takes a cell out. -/
def erase (set : CellSet) (cell : Cell) : CellSet :=
  ⟨set.cells.erase cell, set.ordered.sublist List.erase_sublist⟩

/-- The set of the listed cells. -/
def ofList (cells : List Cell) : CellSet := cells.foldl insert empty

/-- The number of cells in the set. -/
def size (set : CellSet) : Nat := set.cells.length

/-- Adding a cell adds just that cell. -/
theorem mem_insert {set : CellSet} {cell other : Cell} :
    other ∈ (set.insert cell).cells ↔ other = cell ∨ other ∈ set.cells :=
  mem_insertCell

/-- A cell is listed at most once. -/
theorem nodup (set : CellSet) : set.cells.Nodup :=
  List.Pairwise.imp Cell.ne_of_lt set.ordered

/-- Taking a cell out takes out just that cell. -/
theorem mem_erase {set : CellSet} {cell other : Cell} :
    other ∈ (set.erase cell).cells ↔ other ≠ cell ∧ other ∈ set.cells :=
  set.nodup.mem_erase_iff

/-- The cells of `all` that are not among `taken`, where both lists are in row-major order. It
walks through both lists once. -/
def without : List Cell → List Cell → List Cell
  | [], _ => []
  | cell :: rest, taken =>
      match taken.dropWhile (· < cell) with
      | [] => cell :: without rest []
      | next :: later =>
          if next = cell then without rest later else cell :: without rest (next :: later)

theorem mem_dropWhile_lt {cell other : Cell} {taken : List Cell} (h : ¬other < cell) :
    other ∈ taken.dropWhile (· < cell) ↔ other ∈ taken := by
  induction taken with
  | nil => simp
  | cons first rest ih =>
      rw [List.dropWhile_cons]
      split
      · next hlt =>
        have hne : other ≠ first := fun heq => h (heq ▸ of_decide_eq_true hlt)
        rw [ih, List.mem_cons, or_iff_right hne]
      · rfl

theorem mem_without {all taken : List Cell} (hall : all.Pairwise (· < ·))
    (htaken : taken.Pairwise (· < ·)) {cell : Cell} :
    cell ∈ without all taken ↔ cell ∈ all ∧ cell ∉ taken := by
  induction hall generalizing taken with
  | nil => simp [without]
  | @cons first rest firstLess restOrdered ih =>
      have hkept : (taken.dropWhile (· < first)).Pairwise (· < ·) :=
        htaken.sublist (List.dropWhile_sublist _)
      have hfirst : first ∈ taken.dropWhile (· < first) ↔ first ∈ taken :=
        mem_dropWhile_lt (Cell.not_lt_self first)
      have hrest : ∀ other ∈ rest, other ∈ taken.dropWhile (· < first) ↔ other ∈ taken :=
        fun other mem => mem_dropWhile_lt fun hlt =>
          Cell.not_lt_self first (Cell.lt_trans (firstLess other mem) hlt)
      have hhead : ∀ next later, taken.dropWhile (· < first) = next :: later → ¬next < first :=
        fun next later heq => by
          have := List.head?_dropWhile_not (· < first) taken
          rw [heq] at this
          simpa using this
      rw [without]
      split
      · next heq =>
        rw [heq] at hfirst hrest
        rw [List.mem_cons, ih .nil, List.mem_cons]
        constructor
        · rintro (rfl | ⟨mem, -⟩)
          · exact ⟨.inl rfl, fun mem => by simpa using hfirst.mpr mem⟩
          · exact ⟨.inr mem, fun bad => by simpa using (hrest cell mem).mpr bad⟩
        · rintro ⟨rfl | mem, -⟩
          · exact .inl rfl
          · exact .inr ⟨mem, by simp⟩
      · next next later heq =>
        have hnot := hhead next later heq
        rw [heq] at hfirst hrest hkept
        obtain ⟨nextLess, laterOrdered⟩ := List.pairwise_cons.mp hkept
        split
        · next hnext =>
          subst hnext
          have hmem : next ∈ taken := hfirst.mp List.mem_cons_self
          rw [ih laterOrdered, List.mem_cons]
          constructor
          · rintro ⟨mem, bad⟩
            refine ⟨.inr mem, fun htak => ?_⟩
            rcases List.mem_cons.mp ((hrest cell mem).mpr htak) with rfl | h
            · exact Cell.not_lt_self cell (firstLess cell mem)
            · exact bad h
          · rintro ⟨rfl | mem, bad⟩
            · exact absurd hmem bad
            · exact ⟨mem, fun h => bad ((hrest cell mem).mp (List.mem_cons_of_mem _ h))⟩
        · next hnext =>
          have hlt : first < next := Cell.lt_of_not_lt_of_ne hnot hnext
          have hfree : first ∉ taken := fun htak => by
            rcases List.mem_cons.mp (hfirst.mpr htak) with heq' | h
            · exact hnext heq'.symm
            · exact Cell.not_lt_self first (Cell.lt_trans hlt (nextLess first h))
          rw [List.mem_cons, ih hkept, @List.mem_cons _ first rest cell]
          constructor
          · rintro (rfl | ⟨mem, bad⟩)
            · exact ⟨.inl rfl, hfree⟩
            · exact ⟨.inr mem, fun htak => bad ((hrest cell mem).mpr htak)⟩
          · rintro ⟨rfl | mem, bad⟩
            · exact .inl rfl
            · exact .inr ⟨mem, fun h => bad ((hrest cell mem).mp h)⟩

end CellSet

end FuelDuel.Arena
