import FuelDuel.Language.Canonical

/-!
Bracketed texts: a label alone, or a label with parts in brackets, separated by commas. Such a text
shows just one form, as long as no label holds a mark of its own (`Form.text_injective`).

No text of a form tells by itself where it ends: `Move` is one, and so is `Move[Num[1]]`. But what
stands after a part is a comma or a closing bracket, and neither goes on with a label or opens its
parts. So two forms that are followed by such texts are read in one way only (`Form.unique`).
-/

namespace FuelDuel.Language

open FuelDuel.Text

/-- What a bracketed text shows: a label alone, or a label with parts. -/
inductive Form where
  | bare (label : String)
  | bracketed (label : String) (parts : List Form)

namespace Form

mutual

/-- The text of a form. -/
def text : Form → String
  | bare label => label
  | bracketed label parts => node label (texts parts)

/-- The texts of several forms. -/
def texts : List Form → List String
  | [] => []
  | form :: rest => form.text :: texts rest

end

/-- The characters that brackets and commas are made of. -/
def isMark (c : Char) : Bool := c == '[' || c == ']' || c == ','

/-- A label without marks. -/
def Unmarked (label : String) : Prop := ∀ c ∈ label.toList, isMark c = false

instance (label : String) : Decidable (Unmarked label) :=
  List.decidableBAll _ label.toList

theorem unmarked_append {first second : String} (ofFirst : Unmarked first)
    (ofSecond : Unmarked second) : Unmarked (first ++ second) := by
  rw [Unmarked, String.toList_append]
  exact List.forall_mem_append.mpr ⟨ofFirst, ofSecond⟩

mutual

/-- A form whose labels hold no marks. A label alone is not empty. -/
def Clean : Form → Prop
  | bare label => label ≠ "" ∧ Unmarked label
  | bracketed label parts => Unmarked label ∧ CleanAll parts

/-- Forms whose labels hold no marks. -/
def CleanAll : List Form → Prop
  | [] => True
  | form :: rest => form.Clean ∧ CleanAll rest

end

/-! ### Where a label ends -/

/-- A text that ends a label: it is empty or starts with a mark. -/
def EndsLabel (chars : List Char) : Prop := ∀ c ∈ chars.head?, isMark c = true

/-- A text that ends a form: it is empty or starts with a comma or a closing bracket. -/
def EndsForm (chars : List Char) : Prop := ∀ c ∈ chars.head?, c = ',' ∨ c = ']'

theorem EndsForm.endsLabel {chars : List Char} (ends : EndsForm chars) : EndsLabel chars := by
  intro c first
  rcases ends c first with rfl | rfl
  · rfl
  · rfl

theorem endsLabel_open (chars : List Char) : EndsLabel ('[' :: chars) := by
  simp [EndsLabel, isMark]

theorem endsForm_comma (chars : List Char) : EndsForm (',' :: chars) := by
  simp [EndsForm]

theorem endsForm_close (chars : List Char) : EndsForm (']' :: chars) := by
  simp [EndsForm]

theorem not_endsForm_open (chars : List Char) : ¬EndsForm ('[' :: chars) := by
  simp [EndsForm]

/-- A label ends where the first mark stands. -/
theorem label_unique {left right rest other : List Char} (ofLeft : ∀ c ∈ left, isMark c = false)
    (ofRight : ∀ c ∈ right, isMark c = false) (ends : EndsLabel rest) (otherEnds : EndsLabel other)
    (same : left ++ rest = right ++ other) : left = right ∧ rest = other := by
  induction left generalizing right with
  | nil =>
      cases right with
      | nil => exact ⟨rfl, same⟩
      | cons c right =>
          have mark : isMark c = true := ends c (by rw [List.nil_append] at same; simp [same])
          rw [ofRight c List.mem_cons_self] at mark
          cases mark
  | cons c left ih =>
      cases right with
      | nil =>
          have mark : isMark c = true :=
            otherEnds c (by rw [List.nil_append] at same; simp [← same])
          rw [ofLeft c List.mem_cons_self] at mark
          cases mark
      | cons d right =>
          obtain ⟨rfl, later⟩ := List.cons.inj same
          obtain ⟨rfl, equal⟩ := ih (fun e member => ofLeft e (List.mem_cons_of_mem _ member))
            (fun e member => ofRight e (List.mem_cons_of_mem _ member)) later
          exact ⟨rfl, equal⟩

/-! ### Where a form ends -/

theorem toList_bracketed (label : String) (parts : List Form) (rest : List Char) :
    (bracketed label parts).text.toList ++ rest =
      label.toList ++ '[' :: ((commaList (texts parts)).toList ++ ']' :: rest) := by
  simp [text, node]

/-- A label does not start with a closing bracket, and an empty label with parts neither. -/
theorem Clean.not_closing {form : Form} (clean : form.Clean) (rest chars : List Char) :
    form.text.toList ++ rest ≠ ']' :: chars := by
  have labelled {label : String} (unmarked : Unmarked label) {c : Char} {later : List Char}
      (found : label.toList = c :: later) : c ≠ ']' := by
    rintro rfl
    have plain := unmarked ']' (by rw [found]; exact List.mem_cons_self)
    cases plain
  match form with
  | bare label =>
      cases found : label.toList with
      | nil => exact absurd (String.toList_eq_nil_iff.mp found) clean.1
      | cons c later =>
          rw [text, found]
          exact fun same => labelled clean.2 found (List.cons.inj same).1
  | bracketed label parts =>
      rw [toList_bracketed]
      cases found : label.toList with
      | nil => exact fun same => absurd (List.cons.inj same).1 (by decide)
      | cons c later => exact fun same => labelled clean.1 found (List.cons.inj same).1

/-- What stands after a part: the closing bracket, or a comma and the other parts. -/
def afterPart (parts : List Form) (rest : List Char) : List Char :=
  match parts with
  | [] => ']' :: rest
  | parts => ',' :: ' ' :: ((commaList (texts parts)).toList ++ ']' :: rest)

theorem toList_commaList_cons (form : Form) (parts : List Form) (rest : List Char) :
    (commaList (texts (form :: parts))).toList ++ ']' :: rest =
      form.text.toList ++ afterPart parts rest := by
  cases parts with
  | nil => rfl
  | cons second others => simp [texts, commaList, joinWith, afterPart]

theorem endsForm_afterPart (parts : List Form) (rest : List Char) :
    EndsForm (afterPart parts rest) := by
  cases parts with
  | nil => exact endsForm_close _
  | cons second others => exact endsForm_comma _

/-- A comma and a closing bracket tell whether parts follow. -/
theorem of_afterPart_eq {left right : List Form} {rest other : List Char}
    (same : afterPart left rest = afterPart right other) :
    (commaList (texts left)).toList ++ ']' :: rest =
      (commaList (texts right)).toList ++ ']' :: other := by
  cases left with
  | nil =>
      cases right with
      | nil => exact same
      | cons form parts => exact absurd (List.cons.inj same).1 (by decide)
  | cons form parts =>
      cases right with
      | nil => exact absurd (List.cons.inj same).1 (by decide)
      | cons otherForm otherParts => exact (List.cons.inj (List.cons.inj same).2).2

mutual

/-- Two forms with the same text and the same text after them are the same. -/
theorem unique (left right : Form) (ofLeft : left.Clean) (ofRight : right.Clean)
    {rest other : List Char} (ends : EndsForm rest) (otherEnds : EndsForm other)
    (same : left.text.toList ++ rest = right.text.toList ++ other) :
    left = right ∧ rest = other := by
  match left, right with
  | bare label, bare otherLabel =>
      obtain ⟨labels, equal⟩ :=
        label_unique ofLeft.2 ofRight.2 ends.endsLabel otherEnds.endsLabel same
      exact ⟨congrArg bare (String.toList_injective labels), equal⟩
  | bare label, bracketed otherLabel parts =>
      rw [toList_bracketed] at same
      obtain ⟨-, rfl⟩ :=
        label_unique ofLeft.2 ofRight.1 ends.endsLabel (endsLabel_open _) same
      exact absurd ends (not_endsForm_open _)
  | bracketed label parts, bare otherLabel =>
      rw [toList_bracketed] at same
      obtain ⟨-, rfl⟩ :=
        label_unique ofLeft.1 ofRight.2 (endsLabel_open _) otherEnds.endsLabel same
      exact absurd otherEnds (not_endsForm_open _)
  | bracketed label parts, bracketed otherLabel otherParts =>
      rw [toList_bracketed, toList_bracketed] at same
      obtain ⟨labels, opened⟩ :=
        label_unique ofLeft.1 ofRight.1 (endsLabel_open _) (endsLabel_open _) same
      obtain ⟨sameParts, equal⟩ :=
        uniqueAll parts otherParts ofLeft.2 ofRight.2 (List.cons.inj opened).2
      exact ⟨by rw [String.toList_injective labels, sameParts], equal⟩

/-- Two lists of parts with the same text up to the closing bracket are the same. -/
theorem uniqueAll (left right : List Form) (ofLeft : CleanAll left) (ofRight : CleanAll right)
    {rest other : List Char}
    (same : (commaList (texts left)).toList ++ ']' :: rest =
      (commaList (texts right)).toList ++ ']' :: other) :
    left = right ∧ rest = other := by
  match left, right with
  | [], [] => exact ⟨rfl, (List.cons.inj same).2⟩
  | [], form :: parts =>
      rw [toList_commaList_cons] at same
      exact absurd same.symm (ofRight.1.not_closing _ _)
  | form :: parts, [] =>
      rw [toList_commaList_cons] at same
      exact absurd same (ofLeft.1.not_closing _ _)
  | form :: parts, otherForm :: otherParts =>
      rw [toList_commaList_cons, toList_commaList_cons] at same
      obtain ⟨rfl, later⟩ := unique form otherForm ofLeft.1 ofRight.1
        (endsForm_afterPart _ _) (endsForm_afterPart _ _) same
      obtain ⟨rfl, equal⟩ :=
        uniqueAll parts otherParts ofLeft.2 ofRight.2 (of_afterPart_eq later)
      exact ⟨rfl, equal⟩

end

/-- A text shows at most one form. -/
theorem text_injective {left right : Form} (ofLeft : left.Clean) (ofRight : right.Clean)
    (same : left.text = right.text) : left = right := by
  have ends : EndsForm [] := by simp [EndsForm]
  have texts : left.text.toList ++ [] = right.text.toList ++ [] := by rw [same]
  exact (unique left right ofLeft ofRight ends ends texts).1

end Form

end FuelDuel.Language
