import FuelDuel.Proofs.ErrorSite
import FuelDuel.Proofs.Partition
import FuelDuel.Proofs.SourceLines

/-!
Locations stand for positions. Every character that is read moves the location on
(`Location.lt_next`), so the positions of a text and their locations are in the same order. The way
back skips the lines before the line and then the characters before the column (`Location.rest`);
what is left of the text there is what follows the position (`Location.rest_after`).
-/

namespace FuelDuel.Text

open FuelDuel.Language

/-! ### The order of locations -/

namespace Location

/-- The line decides, and the column within a line. -/
instance : LT Location where
  lt first second :=
    first.line < second.line ∨ first.line = second.line ∧ first.column < second.column

theorem lt_def {first second : Location} :
    first < second ↔
      first.line < second.line ∨ first.line = second.line ∧ first.column < second.column :=
  Iff.rfl

theorem lt_trans {first second third : Location} (less : first < second) (more : second < third) :
    first < third := by
  rw [lt_def] at *
  omega

theorem lt_next (loc : Location) (c : Char) : loc < loc.next c := by
  rw [lt_def]
  unfold next
  split
  · exact .inl (Nat.lt_succ_self _)
  · exact .inr ⟨rfl, Nat.lt_succ_self _⟩

/-- Reading on leads to a later location. -/
theorem lt_foldl_next {chars : List Char} (filled : chars ≠ []) (loc : Location) :
    loc < chars.foldl next loc := by
  induction chars generalizing loc with
  | nil => exact absurd rfl filled
  | cons c chars ih =>
      rw [List.foldl_cons]
      by_cases last : chars = []
      · rw [last]
        exact loc.lt_next c
      · exact lt_trans (loc.lt_next c) (ih last _)

/-- Lines and columns are counted from one. -/
theorem one_le_after (chars : List Char) : 1 ≤ (after chars).line ∧ 1 ≤ (after chars).column := by
  obtain ⟨full, last, ruled⟩ := exists_ruled chars
  rw [after_of_ruled ruled]
  exact ⟨Nat.le_add_left 1 _, Nat.le_add_left 1 _⟩

end Location

/-! ### From a location back to the position -/

/-- What is left of a text after so many line feeds. -/
def skipLines : Nat → List Char → List Char
  | 0, chars => chars
  | count + 1, chars => skipLines count ((chars.dropWhile (· ≠ '\n')).drop 1)

/-- What is left of a text at a location: as many line feeds are skipped as there are lines before
it, and then as many characters as there are columns before it. -/
def Location.rest (loc : Location) (text : List Char) : List Char :=
  (skipLines (loc.line - 1) text).drop (loc.column - 1)

/-- The number of bytes before a location. -/
def Location.offsetIn (loc : Location) (source : String) : Nat :=
  source.utf8ByteSize - byteLength (loc.rest source.toList)

theorem skipLines_succ {line : List Char} (noFeed : '\n' ∉ line) (count : Nat) (chars : List Char) :
    skipLines (count + 1) (line ++ '\n' :: chars) = skipLines count chars := by
  have other : ∀ c ∈ line, decide (c ≠ '\n') = true := by
    intro c member
    exact decide_eq_true fun feed => noFeed (feed ▸ member)
  rw [skipLines, List.dropWhile_append_of_pos other]
  rfl

theorem skipLines_full {full : List (List Char)} (noFeed : ∀ line ∈ full, '\n' ∉ line)
    (chars : List Char) :
    skipLines full.length ((full.map (· ++ ['\n'])).flatten ++ chars) = chars := by
  induction full with
  | nil => rfl
  | cons line full ih =>
      obtain ⟨first, others⟩ := List.forall_mem_cons.mp noFeed
      rw [List.map_cons, List.flatten_cons, List.length_cons, List.append_assoc, List.append_assoc,
        List.singleton_append, skipLines_succ first, ih others]

/-- What is left at the location after the front of a text is the back of it. -/
theorem Location.rest_after (front back : List Char) :
    (after front).rest (front ++ back) = back := by
  obtain ⟨full, last, ruled⟩ := exists_ruled front
  rw [after_of_ruled ruled, ruled.whole, rest, Nat.add_sub_cancel, Nat.add_sub_cancel,
    List.append_assoc, skipLines_full ruled.full_noFeed, List.drop_left]

/-! ### Positions of a text -/

theorem takeBytes_of_byteLength_le {chars : List Char} {bytes : Nat}
    (within : byteLength chars ≤ bytes) : takeBytes bytes chars = chars := by
  induction chars generalizing bytes with
  | nil => rfl
  | cons c chars ih =>
      rw [byteLength] at within
      rw [takeBytes, if_pos (by omega), ih (by omega)]

section Position

variable {source front back : String} {pos : source.Pos} (splits : pos.Splits front back)
include splits

theorem byteIdx_of_splits : pos.offset.byteIdx = front.utf8ByteSize := by
  rw [splits.offset_eq_rawEndPos, String.byteIdx_rawEndPos]

theorem toList_of_splits : source.toList = front.toList ++ back.toList := by
  rw [splits.eq_append, String.toList_append]

/-- The location of a position is the one after the text in front of it. -/
theorem Location.atOffset_of_splits :
    atOffset source pos.offset.byteIdx = after front.toList := by
  rw [atOffset, byteIdx_of_splits splits, toList_of_splits splits, ← byteLength_toList,
    takeBytes_byteLength]

/-- The position is found again by its location. -/
theorem Location.offsetIn_atOffset :
    (atOffset source pos.offset.byteIdx).offsetIn source = pos.offset.byteIdx := by
  rw [atOffset_of_splits splits, offsetIn, toList_of_splits splits, rest_after,
    byteIdx_of_splits splits, splits.eq_append, String.utf8ByteSize_append, byteLength_toList,
    Nat.add_sub_cancel]

end Position

theorem Location.atOffset_of_le {source : String} {offset : Nat}
    (past : source.utf8ByteSize ≤ offset) : atOffset source offset = after source.toList := by
  rw [atOffset, takeBytes_of_byteLength_le (by rwa [byteLength_toList])]

theorem Location.atOffset_lt {source : String} {earlier later : source.Pos}
    (less : earlier < later) :
    atOffset source earlier.offset.byteIdx < atOffset source later.offset.byteIdx := by
  obtain ⟨between, filled, front, -⟩ :=
    (earlier.splits.lt_iff_exists_eq_append later.splits).mp less
  rw [atOffset_of_splits earlier.splits, atOffset_of_splits later.splits, front,
    String.toList_append, after, after, List.foldl_append]
  exact lt_foldl_next (mt String.toList_eq_nil_iff.mp filled) _

/-- Locations are in the order of the positions of a text, they are counted from one, what is past
the end has the location of the end, and the position is found again from the location by skipping
lines and then characters. -/
theorem locations_identify_positions (source : String) :
    (∀ earlier later : source.Pos, earlier < later →
      Location.atOffset source earlier.offset.byteIdx <
        Location.atOffset source later.offset.byteIdx) ∧
    (∀ offset, 1 ≤ (Location.atOffset source offset).line ∧
      1 ≤ (Location.atOffset source offset).column) ∧
    (∀ offset, source.utf8ByteSize ≤ offset →
      Location.atOffset source offset = Location.atOffset source source.utf8ByteSize) ∧
    ∀ pos : source.Pos,
      (Location.atOffset source pos.offset.byteIdx).offsetIn source = pos.offset.byteIdx := by
  refine ⟨fun _ _ => Location.atOffset_lt, fun _ => Location.one_le_after _, ?_, ?_⟩
  · intro offset past
    rw [Location.atOffset_of_le past, Location.atOffset_of_le (Nat.le_refl _)]
  · exact fun pos => Location.offsetIn_atOffset pos.splits

/-- A carriage return is a character like any other, and a character of three bytes is one column. -/
example : Location.atOffset "wait;\r\n\u3000turnR;" 10 = ⟨2, 2⟩ ∧
    Location.offsetIn ⟨2, 2⟩ "wait;\r\n\u3000turnR;" = 10 := by decide

end FuelDuel.Text
