import FuelDuel.Proofs.ErrorSite
import FuelDuel.Proofs.ReadAlike

/-!
The layout of a text does not matter. Words are laid out with white space before, between and after
them, and need not have any but between two words of which neither is punctuation (`LaysOut`). All
texts that lay out the same words have these words as tokens (`LaysOut.textWords_eq`), and readers
look at nothing else, so they stand for the same program or are wrong in the same way at the same
token (`parse_ignores_layout`).
-/

namespace FuelDuel.Language

open FuelDuel.Text

/-! ### Layouts -/

/-- A text of white space, or of nothing. -/
def Gap (text : String) : Prop := ∀ c ∈ text.toList, isBlank c = true

instance (text : String) : Decidable (Gap text) :=
  List.decidableBAll (fun c => isBlank c = true) text.toList

/-- The text is made of the words, each with a gap after it, which is not empty between two plain
words. -/
inductive Spaced : List String → String → Prop where
  | done : Spaced [] ""
  | word {word : String} (gap : String) {words : List String} {text : String} (white : Gap gap)
      (apart : Plain word → (∃ next ∈ words.head?, Plain next) → gap ≠ "")
      (later : Spaced words text) : Spaced (word :: words) (word ++ gap ++ text)

/-- The text is made of the words with gaps before, between and after them. -/
def LaysOut (words : List String) (text : String) : Prop :=
  ∃ lead spaced, Gap lead ∧ Spaced words spaced ∧ text = lead ++ spaced

theorem Gap.delimited {gap : String} {chars : List Char} (white : Gap gap)
    (otherwise : gap = "" → Delimited chars) : Delimited (gap.toList ++ chars) := by
  cases spelled : gap.toList with
  | nil => exact otherwise (String.toList_eq_nil_iff.mp spelled)
  | cons c gap => exact .inl (white c (by simp [spelled]))

/-- A text that does not start with a plain word does not continue one. -/
theorem Spaced.delimited {words : List String} {text : String} (spaced : Spaced words text)
    (scannable : Scannable words) (notPlain : ¬∃ next ∈ words.head?, Plain next) :
    Delimited text.toList := by
  cases spaced with
  | done => exact trivial
  | word _ white apart later =>
      rcases (List.forall_mem_cons.mp scannable).1 with plain | ⟨c, mark, rfl⟩
      · exact absurd ⟨_, rfl, plain⟩ notPlain
      · rw [String.toList_append, String.toList_append, String.toList_ofList]
        exact .inr mark

theorem Spaced.writes {words : List String} {text : String} (spaced : Spaced words text)
    (scannable : Scannable words) : Writes text.toList words := by
  induction spaced with
  | done => exact .done
  | @word word gap words text white apart later ih =>
      obtain ⟨first, others⟩ := List.forall_mem_cons.mp scannable
      have onward : Writes (gap.toList ++ text.toList) words := writes_blanks white (ih others)
      rw [String.toList_append, String.toList_append, List.append_assoc]
      rcases first with plain | ⟨c, mark, rfl⟩
      · refine .word plain onward (white.delimited fun empty => ?_)
        exact later.delimited others fun next => apart plain next empty
      · rw [String.toList_ofList]
        exact .punct mark onward

/-- The words that are laid out are the words of the text. -/
theorem LaysOut.textWords_eq {words : List String} {text : String} (laid : LaysOut words text)
    (scannable : Scannable words) : textWords text = words := by
  obtain ⟨lead, spaced, white, made, rfl⟩ := laid
  refine Token.scan_of_writes ?_
  rw [String.toList_append]
  exact writes_blanks white (made.writes scannable)

/-! ### Tokens at the same index -/

/-- The tokens have the same text and the same index in their texts. -/
structure SameIndex (first second : String) (left right : Token) : Prop where
  text : left.text = right.text
  index : ∃ index : Nat,
    (Token.scan first)[index]? = some left ∧ (Token.scan second)[index]? = some right

theorem forall₂_sameIndex {first second : String} (same : textWords first = textWords second) :
    List.Forall₂ (SameIndex first second) (Token.scan first) (Token.scan second) := by
  have lengths : (Token.scan first).length = (Token.scan second).length := by
    simpa [textWords] using congrArg List.length same
  refine List.forall₂_iff_get.mpr ⟨lengths, fun index inFirst inSecond => ⟨?_, index, ?_, ?_⟩⟩
  · have word := congrArg (·[index]?) same
    simpa [textWords, inFirst, inSecond] using word
  · simp [inFirst]
  · simp [inSecond]

/-- The error is at the token of the source with the given index, or at the end of the source if
there is no such token. -/
structure SyntaxError.At (error : SyntaxError) (source : String) (index : Nat) : Prop where
  site : error.site = (Token.scan source)[index]?
  starts : ∀ token, (Token.scan source)[index]? = some token →
    token.StartsAt source ((Token.scan source).take index) (error.location source)
  ends : (Token.scan source)[index]? = none →
    error.location source = Location.after source.toList

theorem SyntaxError.at_of_site {error : SyntaxError} {source : String} {index : Nat}
    (site : error.site = (Token.scan source)[index]?) : error.At source index := by
  refine ⟨site, ?_, ?_⟩
  · intro token found
    obtain ⟨inside, rfl⟩ := List.getElem?_eq_some_iff.mp found
    rw [SyntaxError.location, site, found]
    apply Token.startsAt_atOffset
    rw [List.getElem_cons_drop, List.take_append_drop]
  · intro past
    rw [SyntaxError.location, site, past]
    rfl

/-- What comes of two texts: the same program, or errors that differ in nothing but their places,
and are at the same token of both texts or at the end of both. -/
inductive SameParse (first second : String) :
    Except SyntaxError Program → Except SyntaxError Program → Prop where
  | program (program : Program) : SameParse first second (.ok program) (.ok program)
  | error {ofFirst ofSecond : SyntaxError} {index : Nat}
      (alike : ofFirst.Alike (fun left right => left.text = right.text) ofSecond)
      (inFirst : ofFirst.At first index) (inSecond : ofSecond.At second index) :
      SameParse first second (.error ofFirst) (.error ofSecond)

theorem SyntaxError.Alike.sameParse {first second : String} {ofFirst ofSecond : SyntaxError}
    (alike : ofFirst.Alike (SameIndex first second) ofSecond) :
    SameParse first second (.error ofFirst) (.error ofSecond) := by
  have texts := alike.imp SameIndex.text
  rcases alike.sites with ⟨firstEnds, secondEnds⟩ | ⟨left, right, same, firstSite, secondSite⟩
  · -- An index that is past the tokens of both texts stands for their ends.
    have pastFirst : (Token.scan first)[(Token.scan first).length + (Token.scan second).length]? =
        none := List.getElem?_eq_none (Nat.le_add_right _ _)
    have pastSecond : (Token.scan second)[(Token.scan first).length + (Token.scan second).length]? =
        none := List.getElem?_eq_none (Nat.le_add_left _ _)
    exact .error texts (at_of_site (firstEnds.trans pastFirst.symm))
      (at_of_site (secondEnds.trans pastSecond.symm))
  · obtain ⟨index, inFirst, inSecond⟩ := same.index
    exact .error texts (at_of_site (firstSite.trans inFirst.symm))
      (at_of_site (secondSite.trans inSecond.symm))

theorem sameParse_of_textWords {first second : String}
    (same : textWords first = textWords second) :
    SameParse first second (Program.parse first) (Program.parse second) := by
  have tokens := forall₂_sameIndex same
  have read := Program.read_alike SameIndex.text tokens
  unfold Program.parse Reader.result
  generalize Program.read (Token.scan first) = firstResult at read
  generalize Program.read (Token.scan second) = secondResult at read
  cases read with
  | value program _ => exact .program program
  | error alike _ => exact alike.sameParse

/-- Two texts that lay out the same words stand for the same program, or are wrong in the same way
at the same token. -/
theorem parse_ignores_layout {words : List String} {first second : String}
    (scannable : Scannable words) (ofFirst : LaysOut words first)
    (ofSecond : LaysOut words second) :
    SameParse first second (Program.parse first) (Program.parse second) := by
  refine sameParse_of_textWords ?_
  rw [ofFirst.textWords_eq scannable, ofSecond.textWords_eq scannable]

/-- An empty block is found at the same brace however the text is laid out. -/
theorem parse_ignores_layout_of_emptyLoop :
    Scannable ["loop", "\x7b", "\x7d", "move", ";"] ∧
      LaysOut ["loop", "\x7b", "\x7d", "move", ";"] "loop\x7b\x7dmove;" ∧
      LaysOut ["loop", "\x7b", "\x7d", "move", ";"] "\n loop \x7b\x7d\tmove; " ∧
      Program.parse "loop\x7b\x7dmove;" = .error (.emptyBlock ⟨"\x7d", 5⟩) ∧
      Program.parse "\n loop \x7b\x7d\tmove; " = .error (.emptyBlock ⟨"\x7d", 8⟩) ∧
      SameParse "loop\x7b\x7dmove;" "\n loop \x7b\x7d\tmove; "
        (Program.parse "loop\x7b\x7dmove;") (Program.parse "\n loop \x7b\x7d\tmove; ") := by
  have scannable : Scannable ["loop", "\x7b", "\x7d", "move", ";"] := by
    refine Plain.scannable_cons (by decide) (@scannable_punct '\x7b' _ rfl ?_)
    refine @scannable_punct '\x7d' _ rfl (Plain.scannable_cons (by decide) ?_)
    exact @scannable_punct ';' _ rfl scannable_nil
  have tight : Spaced ["loop", "\x7b", "\x7d", "move", ";"] "loop\x7b\x7dmove;" :=
    .word "" (by decide) (by decide) <| .word "" (by decide) (by decide) <|
      .word "" (by decide) (by decide) <| .word "" (by decide) (by decide) <|
      .word "" (by decide) (by decide) .done
  have wide : Spaced ["loop", "\x7b", "\x7d", "move", ";"] "loop \x7b\x7d\tmove; " :=
    .word " " (by decide) (by decide) <| .word "" (by decide) (by decide) <|
      .word "\t" (by decide) (by decide) <| .word "" (by decide) (by decide) <|
      .word " " (by decide) (by decide) .done
  have ofFirst : LaysOut ["loop", "\x7b", "\x7d", "move", ";"] "loop\x7b\x7dmove;" :=
    ⟨"", "loop\x7b\x7dmove;", by decide, tight, rfl⟩
  have ofSecond : LaysOut ["loop", "\x7b", "\x7d", "move", ";"] "\n loop \x7b\x7d\tmove; " :=
    ⟨"\n ", "loop \x7b\x7d\tmove; ", by decide, wide, rfl⟩
  exact ⟨scannable, ofFirst, ofSecond, rfl, rfl, parse_ignores_layout scannable ofFirst ofSecond⟩

end FuelDuel.Language
