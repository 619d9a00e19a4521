import FuelDuel.Proofs.ReadStatements

/-!
The parser accepts exactly what derives from the grammar. For whole texts this is an equivalence
(`Program.parse_eq_ok_iff`), from which it follows that no text has two trees. For the readers of
single constructs it says how far they read: over the tokens of the construct and no further.
-/

namespace FuelDuel.Language

open Reader

variable {limit : Nat}

theorem Expr.read_recognizes : Recognizes limit Expr.read Expr.Derives Expr.Ends :=
  .of_limits (fun _ => rfl) Expr.readWithin_recognizes

theorem Cond.read_recognizes : Recognizes limit Cond.read Cond.Derives AlwaysEnds :=
  .of_limits (fun _ => rfl) Cond.readWithin_recognizes

theorem Block.read_recognizes :
    Recognizes limit Block.read (fun words value => Derives words (.block value)) AlwaysEnds := by
  have within (limit : Nat) : Recognizes limit (Block.readWith limit (Stmt.readWithin limit))
      (fun words value => Derives words (.block value)) AlwaysEnds :=
    (Block.readWith_recognizes (Stmt.readWithin_recognizes limit)).of_le (Nat.le_succ limit)
  exact .of_limits (fun _ => rfl) within

namespace Program

/-- The statements of a program are read to the last token: each of them takes a token, so the
limit to their number is not reached before. -/
theorem read_sound {tokens rest : List Token} {program : Program}
    (read : Program.read tokens = .ok program rest) :
    rest = [] ∧ Program.Derives (tokens.map Token.text) program := by
  rw [Program.read, bind_of_ok (get_apply tokens)] at read
  obtain ⟨stmts, readStmts, rfl⟩ := map_eq_ok_iff.mp read
  obtain ⟨words, spelled, derived, ending⟩ :=
    manyUntil_sound (Stmt.readWithin_recognizes _) readStmts
  have finished : rest = [] := by
    rcases ending with empty | tooMany
    · simpa using empty
    · have fits := spelled.length_le
      omega
  subst finished
  rw [spells_all_iff.mp spelled]
  exact ⟨rfl, derived⟩

theorem read_complete {tokens : List Token} {program : Program}
    (derived : Program.Derives (tokens.map Token.text) program) :
    Program.read tokens = .ok program [] := by
  have goes {tokens : List Token} {word : String} {later : List String} {rest : List Token}
      (spelled : Spells tokens (word :: later) rest) (_ : word ≠ "\x7d") :
      tokens.isEmpty = false := by
    obtain ⟨token, others, rfl, -⟩ := spells_cons_iff.mp spelled
    rfl
  have readStmts : manyUntil List.isEmpty (Stmt.readWithin (tokens.length + 1)) (tokens.length + 1)
      tokens = .ok program.stmts [] :=
    manyUntil_complete (Stmt.readWithin_recognizes _) goes derived (spells_all_iff.mpr rfl) rfl
      ⟨rfl, rfl⟩ (by simp) (by simp)
  rw [Program.read, bind_of_ok (get_apply tokens)]
  exact map_eq_ok_iff.mpr ⟨program.stmts, readStmts, rfl⟩

theorem parse_eq_ok_iff {source : String} {program : Program} :
    Program.parse source = .ok program ↔
      Program.Derives ((Token.scan source).map Token.text) program := by
  rw [Program.parse, Reader.result]
  constructor
  · intro parsed
    cases read : Program.read (Token.scan source) with
    | ok value rest =>
        rw [read] at parsed
        cases parsed
        exact (read_sound read).2
    | error error rest =>
        rw [read] at parsed
        cases parsed
  · intro derived
    rw [read_complete derived]

theorem derives_unambiguous : Unambiguous Program.Derives := by
  intro words first second ofFirst ofSecond
  have texts : (words.map fun word => (⟨word, 0⟩ : Token)).map Token.text = words := by
    simp [Function.comp_def]
  rw [← texts] at ofFirst ofSecond
  have read := read_complete ofFirst
  rw [read_complete ofSecond] at read
  cases read
  rfl

end Program

/-- The parser gives exactly the trees of the grammar, in which no run of words has two trees, and
every reader of a construct gives exactly the trees of that construct, reading its tokens and no
others. -/
theorem parser_accepts_exactly_grammar :
    (∀ source program, Program.parse source = .ok program ↔
      Program.Derives ((Token.scan source).map Token.text) program) ∧
    Unambiguous Program.Derives ∧
    Unambiguous (fun words value => Derives words (.stmt value)) ∧
    Unambiguous (fun words value => Derives words (.block value)) ∧
    Unambiguous Cond.Derives ∧ Unambiguous Expr.Derives ∧
    ∀ limit,
      Recognizes limit (Stmt.readWithin limit) (fun words value => Derives words (.stmt value))
        Stmt.Ends ∧
      Recognizes limit Block.read (fun words value => Derives words (.block value)) AlwaysEnds ∧
      Recognizes limit Cond.read Cond.Derives AlwaysEnds ∧
      Recognizes limit Expr.read Expr.Derives Expr.Ends := by
  refine ⟨fun _ _ => Program.parse_eq_ok_iff, Program.derives_unambiguous, ?_, ?_, ?_, ?_, ?_⟩
  · exact Recognizes.unambiguous Stmt.readWithin_recognizes fun _ _ => ⟨rfl, rfl⟩
  · exact Recognizes.unambiguous (fun _ => Block.read_recognizes) fun _ => trivial
  · exact Recognizes.unambiguous Cond.readWithin_recognizes fun _ => trivial
  · exact Recognizes.unambiguous Expr.readWithin_recognizes fun _ _ _ => rfl
  · intro limit
    exact ⟨Stmt.readWithin_recognizes limit, Block.read_recognizes, Cond.read_recognizes,
      Expr.read_recognizes⟩

end FuelDuel.Language
