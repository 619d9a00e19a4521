import FuelDuel.Proofs.ErrorSite
import FuelDuel.Proofs.RoundTrip

/-!
Texts written one after the other. Every program ends in a semicolon or in a closing brace, so if
another text follows, even without white space between them, no word goes on over the seam
(`Writes.append`), and the two runs of statements follow each other (`Derives.stmts_append`). So
joining texts joins programs (`joined_texts_join_programs`). The `if` at the end of the first text
takes nothing from the second one, because no statement starts with `elif` or `else`.
-/

namespace FuelDuel.Language

open FuelDuel.Text

/-! ### The seam -/

/-- The words do not end in a plain one, which a text that follows could continue. -/
def Closed (words : List String) : Prop := ∀ word ∈ words.getLast?, ¬Plain word

theorem closed_nil : Closed [] := nofun

theorem closed_end : Closed [";"] := by
  rintro word ⟨⟩
  decide

theorem Closed.append {first second : List String} (ofFirst : Closed first)
    (ofSecond : Closed second) : Closed (first ++ second) := by
  intro word last
  rw [List.getLast?_append] at last
  cases ending : second.getLast? with
  | none =>
      rw [ending] at last
      exact ofFirst word last
  | some final =>
      rw [ending] at last
      exact ofSecond word (ending ▸ last)

/-- Words before others do not matter to how these end. -/
theorem Closed.after {words : List String} (closed : Closed words) (filled : words ≠ [])
    (front : List String) : Closed (front ++ words) := by
  obtain ⟨final, ending⟩ := Option.ne_none_iff_exists'.mp (mt List.getLast?_eq_none_iff.mp filled)
  intro word last
  rw [List.getLast?_append, ending] at last
  exact closed word (ending ▸ last)

theorem Closed.of_cons {word : String} {words : List String} (closed : Closed (word :: words)) :
    Closed words := by
  intro final last
  apply closed final
  rw [List.getLast?_cons, last]
  rfl

theorem Writes.eq_nil {words : List String} (written : Writes [] words) : words = [] := by
  generalize spelled : [] = chars at written
  cases written with
  | done => rfl
  | blank | punct => cases spelled
  | word plain =>
      have empty := (List.append_eq_nil_iff.mp spelled.symm).1
      exact absurd (String.toList_eq_nil_iff.mp empty) plain.1

/-- After words that are closed, other words can follow right away. -/
theorem Writes.append {first second : List Char} {words more : List String}
    (written : Writes first words) (closed : Closed words) (others : Writes second more) :
    Writes (first ++ second) (words ++ more) := by
  induction written with
  | done => exact others
  | blank white later ih => exact .blank white (ih closed)
  | punct mark later ih => exact .punct mark (ih closed.of_cons)
  | @word text chars words plain later apart ih =>
      rw [List.append_assoc]
      refine .word plain (ih closed.of_cons) (apart.append fun noneLeft => ?_)
      -- A word at the very end of the text would be the last one.
      subst noneLeft
      obtain rfl := later.eq_nil
      exact absurd plain (closed text rfl)

/-- A text writes its own words. -/
theorem writes_textWords (source : String) : Writes source.toList (textWords source) :=
  (Token.scan_tiling source).writes

/-- The words of a text that follows closed words are as they are alone. -/
theorem textWords_append {first : String} (closed : Closed (textWords first)) (second : String) :
    textWords (first ++ second) = textWords first ++ textWords second := by
  apply Token.scan_of_writes
  rw [String.toList_append]
  exact (writes_textWords first).append closed (writes_textWords second)

/-! ### Programs that follow each other -/

theorem Derives.block_ne_nil {words : List String} {body : Block}
    (derived : Derives words (.block body)) : words ≠ [] := by
  cases derived with
  | block _ => exact List.cons_ne_nil _ _

/-- Statements end in a semicolon or in a closing brace. -/
theorem Derives.closed {words : List String} {phrase : Phrase} (derived : Derives words phrase) :
    Closed words := by
  induction derived with
  | action _ => exact closed_end.after (List.cons_ne_nil _ _) _
  | nested _ body => exact body
  | loop ofBody body | elseBlock ofBody body => exact body.after ofBody.block_ne_nil [_]
  | @whileLoop condWords _ _ _ _ ofBody body =>
      exact body.after ofBody.block_ne_nil ("while" :: parens condWords)
  | @conditional condWords _ tailWords _ _ _ _ ofBody _ body tail =>
      have filled := List.append_ne_nil_of_left_ne_nil ofBody.block_ne_nil tailWords
      exact (body.append tail).after filled ("if" :: parens condWords)
  | noTail | done => exact closed_nil
  | @elifBranch condWords _ tailWords _ _ _ _ ofBody _ body tail =>
      have filled := List.append_ne_nil_of_left_ne_nil ofBody.block_ne_nil tailWords
      exact (body.append tail).after filled ("elif" :: parens condWords)
  | @block words _ _ _ =>
      have brace : Closed ["\x7d"] := by
        rintro word ⟨⟩
        decide
      exact brace.after (List.cons_ne_nil _ _) ("\x7b" :: words)
  | next _ _ first later => exact first.append later

theorem Derives.stmts_append {first second : List String} {stmts more : List Stmt}
    (ofFirst : Derives first (.stmts stmts)) (ofSecond : Derives second (.stmts more)) :
    Derives (first ++ second) (.stmts (stmts ++ more)) := by
  induction stmts generalizing first with
  | nil =>
      cases ofFirst
      exact ofSecond
  | cons stmt stmts ih =>
      cases ofFirst with
      | next ofStmt ofStmts =>
          rw [List.append_assoc]
          exact .next ofStmt (ih ofStmts)

/-- Two texts that are programs, written one after the other with nothing between them, are the
program that runs the statements of the one and then those of the other. -/
theorem joined_texts_join_programs {first second : String} {program other : Program}
    (ofFirst : Program.parse first = .ok program) (ofSecond : Program.parse second = .ok other) :
    Program.parse (first ++ second) = .ok ⟨program.stmts ++ other.stmts⟩ := by
  have derived : Derives (textWords first) (.stmts program.stmts) :=
    Program.parse_eq_ok_iff.mp ofFirst
  have derivedToo : Derives (textWords second) (.stmts other.stmts) :=
    Program.parse_eq_ok_iff.mp ofSecond
  have words := textWords_append derived.closed second
  rw [textWords] at words
  rw [Program.parse_eq_ok_iff, words]
  exact derived.stmts_append derivedToo

/-- The conditional that ends the first text has no `else`, and it takes nothing of the one with
which the second text starts. -/
theorem joined_texts_join_programs_of_openIf :
    Program.parse "if(lt(0,$a))\x7bwait;\x7d" =
        .ok ⟨[.ifThen (.compare .lt (.num 0) (.var "a")) (.single (.wait none))]⟩ ∧
      Program.parse "if(lt(1,2))\x7bmove;\x7delse\x7bturnL;\x7d" =
        .ok ⟨[.ifElse (.compare .lt (.num 1) (.num 2)) (.single (.move none))
          (.single (.turn .left))]⟩ ∧
      Program.parse ("if(lt(0,$a))\x7bwait;\x7d" ++ "if(lt(1,2))\x7bmove;\x7delse\x7bturnL;\x7d") =
        .ok ⟨[.ifThen (.compare .lt (.num 0) (.var "a")) (.single (.wait none)),
          .ifElse (.compare .lt (.num 1) (.num 2)) (.single (.move none))
            (.single (.turn .left))]⟩ := by
  have first : Program.parse "if(lt(0,$a))\x7bwait;\x7d" =
      .ok ⟨[.ifThen (.compare .lt (.num 0) (.var "a")) (.single (.wait none))]⟩ :=
    Program.parse_of_words (by unfold Writable; decide) (by decide +kernel)
  have second : Program.parse "if(lt(1,2))\x7bmove;\x7delse\x7bturnL;\x7d" =
      .ok ⟨[.ifElse (.compare .lt (.num 1) (.num 2)) (.single (.move none))
        (.single (.turn .left))]⟩ :=
    Program.parse_of_words (by unfold Writable; decide) (by decide +kernel)
  exact ⟨first, second, joined_texts_join_programs first second⟩

end FuelDuel.Language
