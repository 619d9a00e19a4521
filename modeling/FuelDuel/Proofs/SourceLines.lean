import FuelDuel.Text.Lines
import FuelDuel.Text.Location

/-!
The lines of a text. Every text is a number of lines, each with a line feed after it, and then what
comes after the last line feed (`Ruled`). Splitting a text into lines gives just these, without the
carriage returns that belong to line feeds (`linesFrom_of_ruled`), and a location counts the lines
before it and the characters after the last line feed (`Location.after_of_ruled`), so both agree on
which line a place is in and where in this line it is (`isLine_around`).
-/

namespace FuelDuel.Text

/-- The text is the lines `full`, each with a line feed after it, and then `last`. -/
structure Ruled (text : List Char) (full : List (List Char)) (last : List Char) : Prop where
  whole : text = (full.map (· ++ ['\n'])).flatten ++ last
  full_noFeed : ∀ line ∈ full, '\n' ∉ line
  last_noFeed : '\n' ∉ last

/-- Drops one carriage return from the end of a line. -/
def withoutReturn (line : List Char) : List Char := (dropReturn line.reverse).reverse

/-- What a text has as its line with the given number, counted from one: the characters up to the
next line feed or the end, without a carriage return that belongs to the line feed. -/
def IsLine (text : List Char) (number : Nat) (line : List Char) : Prop :=
  ∃ full last, Ruled text full last ∧ 1 ≤ number ∧
    (full.map withoutReturn ++ [last])[number - 1]? = some line

/-! ### Ruling a text -/

section Ruled

variable {text front back last final : List Char} {full more : List (List Char)}

theorem Ruled.extend {tail : List Char} (ruled : Ruled text full last) (noFeed : '\n' ∉ tail) :
    Ruled (text ++ tail) full (last ++ tail) where
  whole := by simp [ruled.whole]
  full_noFeed := ruled.full_noFeed
  last_noFeed := by simp [ruled.last_noFeed, noFeed]

/-- What comes after the last line feed goes on in the first line of a text that follows. -/
theorem Ruled.join {line : List Char} (ofFront : Ruled front full last)
    (ofBack : Ruled back (line :: more) final) :
    Ruled (front ++ back) (full ++ (last ++ line) :: more) final where
  whole := by simp [ofFront.whole, ofBack.whole]
  full_noFeed := by
    intro other member
    rcases List.mem_append.mp member with inFront | inBack
    · exact ofFront.full_noFeed other inFront
    rcases List.mem_cons.mp inBack with rfl | later
    · simp [ofFront.last_noFeed, ofBack.full_noFeed line List.mem_cons_self]
    · exact ofBack.full_noFeed other (List.mem_cons_of_mem _ later)
  last_noFeed := ofBack.last_noFeed

theorem exists_ruled (text : List Char) : ∃ full last, Ruled text full last := by
  induction text with
  | nil => exact ⟨[], [], rfl, nofun, nofun⟩
  | cons c text ih =>
      obtain ⟨full, last, ruled⟩ := ih
      by_cases feed : c = '\n'
      · refine ⟨[] :: full, last, ?_, ?_, ruled.last_noFeed⟩
        · simp [feed, ruled.whole]
        · simpa using ruled.full_noFeed
      · have alone : Ruled [c] [] [c] := ⟨rfl, nofun, by simpa using Ne.symm feed⟩
        cases full with
        | nil =>
            have same : text = last := ruled.whole
            exact ⟨[], _, alone.extend (same ▸ ruled.last_noFeed)⟩
        | cons line more => exact ⟨_, _, alone.join ruled⟩

end Ruled

/-! ### Locations -/

theorem foldl_next_of_noFeed {chars : List Char} (noFeed : '\n' ∉ chars) (loc : Location) :
    chars.foldl Location.next loc = ⟨loc.line, loc.column + chars.length⟩ := by
  induction chars generalizing loc with
  | nil => rfl
  | cons c chars ih =>
      obtain ⟨other, later⟩ := List.ne_and_not_mem_of_not_mem_cons noFeed
      rw [List.foldl_cons, ih later, Location.next, if_neg other.symm, List.length_cons]
      simp only [Location.mk.injEq, true_and]
      omega

theorem foldl_next_full {full : List (List Char)} (noFeed : ∀ line ∈ full, '\n' ∉ line)
    (number : Nat) :
    (full.map (· ++ ['\n'])).flatten.foldl Location.next ⟨number, 1⟩ =
      ⟨number + full.length, 1⟩ := by
  induction full generalizing number with
  | nil => rfl
  | cons line full ih =>
      obtain ⟨first, others⟩ := List.forall_mem_cons.mp noFeed
      rw [List.map_cons, List.flatten_cons, List.foldl_append, List.foldl_append,
        foldl_next_of_noFeed first, List.foldl_cons, List.foldl_nil, Location.next, if_pos rfl,
        ih others, List.length_cons]
      simp only [Location.mk.injEq, and_true]
      omega

/-- A location counts the lines before it, and the characters before it in its own line. -/
theorem Location.after_of_ruled {text last : List Char} {full : List (List Char)}
    (ruled : Ruled text full last) : Location.after text = ⟨full.length + 1, last.length + 1⟩ := by
  rw [Location.after, ruled.whole, List.foldl_append, Location.start,
    foldl_next_full ruled.full_noFeed, foldl_next_of_noFeed ruled.last_noFeed]
  simp only [Location.mk.injEq]
  omega

/-! ### Splitting into lines -/

theorem linesFrom_feed {line : List Char} (noFeed : '\n' ∉ line) (current rest : List Char) :
    linesFrom current (line ++ '\n' :: rest) =
      (dropReturn (line.reverse ++ current)).reverse :: linesFrom [] rest := by
  induction line generalizing current with
  | nil => simp [linesFrom]
  | cons c line ih =>
      obtain ⟨other, later⟩ := List.ne_and_not_mem_of_not_mem_cons noFeed
      rw [List.cons_append, linesFrom, if_neg other.symm, ih later]
      simp

theorem linesFrom_last {line : List Char} (noFeed : '\n' ∉ line) (current : List Char)
    (filled : current.reverse ++ line ≠ []) :
    linesFrom current line = [current.reverse ++ line] := by
  induction line generalizing current with
  | nil =>
      have some : current ≠ [] := by simpa using filled
      simp [linesFrom, some]
  | cons c line ih =>
      obtain ⟨other, later⟩ := List.ne_and_not_mem_of_not_mem_cons noFeed
      rw [linesFrom, if_neg other.symm, ih later _ (by simp)]
      simp

/-- The lines of a ruled text. After the last line feed there is another one if anything is. -/
theorem linesFrom_of_ruled {text last : List Char} {full : List (List Char)}
    (ruled : Ruled text full last) :
    linesFrom [] text = full.map withoutReturn ++ if last = [] then [] else [last] := by
  obtain ⟨rfl, fullNoFeed, lastNoFeed⟩ := ruled
  induction full with
  | nil =>
      by_cases empty : last = []
      · simp [empty, linesFrom]
      · simpa [empty] using linesFrom_last lastNoFeed [] (by simpa using empty)
  | cons line full ih =>
      obtain ⟨first, others⟩ := List.forall_mem_cons.mp fullNoFeed
      have split := linesFrom_feed first [] ((full.map (· ++ ['\n'])).flatten ++ last)
      rw [ih others, List.append_nil] at split
      simpa [withoutReturn] using split

theorem mem_of_mem_withoutReturn {c : Char} {line : List Char} (member : c ∈ withoutReturn line) :
    c ∈ line := by
  rw [withoutReturn, List.mem_reverse] at member
  rw [← List.mem_reverse]
  unfold dropReturn at member
  split at member
  · rename_i rest same
    exact same ▸ List.mem_cons_of_mem _ member
  · exact member

theorem IsLine.noFeed {text line : List Char} {number : Nat} (isLine : IsLine text number line) :
    '\n' ∉ line := by
  obtain ⟨full, last, ruled, -, found⟩ := isLine
  rcases List.mem_append.mp (List.mem_of_getElem? found) with inFull | isLast
  · obtain ⟨whole, member, rfl⟩ := List.mem_map.mp inFull
    exact fun feed => ruled.full_noFeed whole member (mem_of_mem_withoutReturn feed)
  · rw [List.mem_singleton.mp isLast]
    exact ruled.last_noFeed

/-- Splitting a text into lines gives every line of it that is not empty. -/
theorem lines_of_isLine {text : String} {number : Nat} {line : List Char}
    (isLine : IsLine text.toList number line) (filled : line ≠ []) :
    (lines text)[number - 1]? = some (String.ofList line) := by
  obtain ⟨full, last, ruled, -, found⟩ := isLine
  have kept : (linesFrom [] text.toList)[number - 1]? = some line := by
    rw [linesFrom_of_ruled ruled]
    by_cases empty : last = []
    · rw [if_pos empty, List.append_nil]
      rw [List.getElem?_append] at found
      split at found
      · exact found
      · have inLast := List.mem_of_getElem? found
        exact absurd ((List.mem_singleton.mp inLast).trans empty) filled
    · rw [if_neg empty]
      exact found
  rw [lines, List.getElem?_map, kept]
  rfl

/-! ### The line of a word -/

theorem dropReturn_of_head? {chars : List Char} (other : chars.head? ≠ some '\r') :
    dropReturn chars = chars := by
  unfold dropReturn
  split
  · exact absurd rfl other
  · rfl

theorem dropReturn_append {chars : List Char} (filled : chars ≠ []) (more : List Char) :
    dropReturn (chars ++ more) = dropReturn chars ++ more := by
  obtain ⟨c, rest, rfl⟩ := List.exists_cons_of_ne_nil filled
  by_cases isReturn : c = '\r'
  · subst isReturn
    rfl
  · have unchanged (chars : List Char) : dropReturn (c :: chars) = c :: chars :=
      dropReturn_of_head? (by simpa using isReturn)
    rw [List.cons_append, unchanged, unchanged, List.cons_append]

theorem withoutReturn_append {front : List Char} (kept : front.getLast? ≠ some '\r')
    (back : List Char) : withoutReturn (front ++ back) = front ++ withoutReturn back := by
  by_cases empty : back = []
  · have unchanged : dropReturn front.reverse = front.reverse :=
      dropReturn_of_head? (by rwa [List.head?_reverse])
    have nothing : withoutReturn [] = [] := rfl
    rw [empty, nothing, List.append_nil, withoutReturn, unchanged, List.reverse_reverse]
  · rw [withoutReturn, withoutReturn, List.reverse_append, dropReturn_append (by simpa using empty),
      List.reverse_append, List.reverse_reverse]

/-- The line around a word: what is between the last line feed before the word and the next one,
and it is there that the location of the word points. -/
theorem isLine_around {front word : List Char} (filled : word ≠ [])
    (unbroken : ∀ c ∈ word, c ≠ '\n' ∧ c ≠ '\r') (back : List Char) :
    ∃ begun tail, Location.after front = ⟨(Location.after front).line, begun.length + 1⟩ ∧
      IsLine (front ++ (word ++ back)) (Location.after front).line (begun ++ (word ++ tail)) := by
  obtain ⟨full, begun, ofFront⟩ := exists_ruled front
  obtain ⟨more, final, ofBack⟩ := exists_ruled back
  have noFeed : '\n' ∉ word := fun member => (unbroken _ member).1 rfl
  have ofWord := ofFront.extend noFeed
  rw [Location.after_of_ruled ofFront, ← List.append_assoc]
  cases more with
  | nil =>
      have same : back = final := ofBack.whole
      have ruled := ofWord.extend (same ▸ ofBack.last_noFeed)
      refine ⟨begun, back, rfl, full, _, ruled, Nat.le_add_left 1 _, ?_⟩
      simp
  | cons line more =>
      have kept : (begun ++ word).getLast? ≠ some '\r' := by
        intro last
        rw [List.getLast?_append, List.getLast?_eq_some_getLast filled] at last
        have member := List.getLast_mem filled
        rw [Option.some.inj last] at member
        exact (unbroken _ member).2 rfl
      refine ⟨begun, withoutReturn line, rfl, _, _, ofWord.join ofBack, Nat.le_add_left 1 _, ?_⟩
      simp only [List.map_append, List.map_cons, withoutReturn_append kept]
      simp

end FuelDuel.Text
