import FuelDuel.Language.Token

/-!
The words of a text. A text writes a sequence of words if it holds just these, with white space
before and between them as needed: punctuation may touch its neighbours, two other words may not
(`Writes`). Scanning such a text gives back its words (`scan_of_writes`).
-/

namespace FuelDuel.Language

open FuelDuel.Text

/-- A word that is one token: it is not empty and holds neither white space nor punctuation. -/
def Plain (word : String) : Prop :=
  word ≠ "" ∧ ∀ c ∈ word.toList, isBlank c = false ∧ isPunct c = false

instance (word : String) : Decidable (Plain word) :=
  decidable_of_iff (word ≠ "" ∧ word.toList.all (fun c => !isBlank c && !isPunct c) = true)
    (by simp only [Plain, List.all_eq_true, Bool.and_eq_true, Bool.not_eq_true'])

theorem not_plain_of_isPunct {c : Char} (mark : isPunct c = true) : ¬Plain (String.ofList [c]) := by
  intro plain
  have unmarked := (plain.2 c (by simp)).2
  cases unmarked.symm.trans mark

/-- The characters do not continue a word that stands before them. -/
def Delimited : List Char → Prop
  | [] => True
  | c :: _ => isBlank c = true ∨ isPunct c = true

/-- The characters write the words. -/
inductive Writes : List Char → List String → Prop where
  | done : Writes [] []
  | blank {c : Char} {chars : List Char} {words : List String} (white : isBlank c = true)
      (later : Writes chars words) : Writes (c :: chars) words
  | punct {c : Char} {chars : List Char} {words : List String} (mark : isPunct c = true)
      (later : Writes chars words) : Writes (c :: chars) (String.ofList [c] :: words)
  | word {text : String} {chars : List Char} {words : List String} (plain : Plain text)
      (later : Writes chars words) (apart : Delimited chars) :
      Writes (text.toList ++ chars) (text :: words)

theorem isBlank_of_isPunct {c : Char} (mark : isPunct c = true) : isBlank c = false := by
  simp only [isPunct, punctuation, List.contains_eq_mem, List.mem_cons, List.not_mem_nil,
    or_false, decide_eq_true_eq] at mark
  rcases mark with rfl | rfl | rfl | rfl | rfl | rfl <;> decide

theorem writes_blanks {gap chars : List Char} {words : List String}
    (white : ∀ c ∈ gap, isBlank c = true) (later : Writes chars words) :
    Writes (gap ++ chars) words := by
  induction gap with
  | nil => exact later
  | cons c gap ih =>
      obtain ⟨first, others⟩ := List.forall_mem_cons.mp white
      exact .blank first (ih others)

theorem writes_spaces {chars : List Char} {words : List String} (later : Writes chars words)
    (n : Nat) : Writes (List.replicate n ' ' ++ chars) words := by
  refine writes_blanks (fun c member => ?_) later
  rw [List.eq_of_mem_replicate member]
  rfl

namespace Token

theorem scanFrom_blank {c : Char} (white : isBlank c = true) (offset : Nat)
    (word rest : List Char) :
    scanFrom offset word (c :: rest) =
      withWord offset word (scanFrom (offset + c.utf8Size) [] rest) := by
  simp [scanFrom, white]

theorem scanFrom_punct {c : Char} (mark : isPunct c = true) (offset : Nat)
    (word rest : List Char) :
    scanFrom offset word (c :: rest) =
      withWord offset word (ofPunct offset c :: scanFrom (offset + c.utf8Size) [] rest) := by
  simp [scanFrom, mark, isBlank_of_isPunct mark]

/-- A pending word ends where its characters do. -/
theorem scanFrom_delimited {chars : List Char} (apart : Delimited chars) (offset : Nat)
    {word : List Char} (pending : word ≠ []) :
    scanFrom offset word chars = ofWord offset word :: scanFrom offset [] chars := by
  have opened : word.isEmpty = false := by simpa using pending
  cases chars with
  | nil => simp [scanFrom, withWord, opened]
  | cons c rest =>
      rcases apart with white | mark
      · simp [scanFrom_blank white, withWord, opened]
      · simp [scanFrom_punct mark, withWord, opened]

/-- Characters that are neither white space nor punctuation join the pending word. -/
theorem scanFrom_plain {text : List Char}
    (plain : ∀ c ∈ text, isBlank c = false ∧ isPunct c = false) (offset : Nat)
    (word chars : List Char) :
    ∃ stop, scanFrom offset word (text ++ chars) = scanFrom stop (text.reverse ++ word) chars := by
  induction text generalizing offset word with
  | nil => exact ⟨offset, rfl⟩
  | cons c text ih =>
      have first := plain c List.mem_cons_self
      have others : ∀ other ∈ text, isBlank other = false ∧ isPunct other = false :=
        fun other member => plain other (List.mem_cons_of_mem c member)
      obtain ⟨stop, same⟩ := ih others (offset + c.utf8Size) (c :: word)
      exact ⟨stop, by simp [scanFrom, first, same]⟩

theorem scanFrom_of_writes {chars : List Char} {words : List String} (written : Writes chars words)
    (offset : Nat) : (scanFrom offset [] chars).map Token.text = words := by
  induction written generalizing offset with
  | done => rfl
  | blank white later ih =>
      rw [scanFrom_blank white]
      exact ih _
  | punct mark later ih =>
      rw [scanFrom_punct mark]
      simp [withWord, ofPunct, ih]
  | @word text chars words plain later apart ih =>
      obtain ⟨stop, joined⟩ := scanFrom_plain plain.2 offset [] chars
      have pending : text.toList.reverse ++ [] ≠ [] := by simpa using plain.1
      rw [joined, scanFrom_delimited apart stop pending]
      simp [ofWord, ih]

theorem scan_of_writes {source : String} {words : List String}
    (written : Writes source.toList words) : (scan source).map Token.text = words :=
  scanFrom_of_writes written 0

end Token

end FuelDuel.Language
