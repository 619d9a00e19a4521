import FuelDuel.Proofs.ReadTerms
import FuelDuel.Proofs.ViablePrefix

/-!
The readings of expressions and conditions are foreseen. Both readers recurse on a limit, and a
token is consumed before they do, so more than enough is left of a limit above the number of tokens.
-/

namespace FuelDuel.Language

open Reader

/-- The shortest expression there is. -/
theorem Expr.derives_zero : Expr.Derives ["0"] (.num 0) := .num (by decide) (by decide)

theorem Expr.viable_nil : Viable Expr.Derives [] := ⟨_, _, derives_zero⟩

theorem Cond.viable_nil : Viable Cond.Derives [] := by
  have derived : Cond.Derives (CompareOp.lt.keyword :: pairOf ["0"] ["0"])
      (.compare .lt (.num 0) (.num 0)) := .compare Expr.derives_zero Expr.derives_zero
  exact ⟨_, _, derived⟩

namespace Foreseen

variable {bound : Nat} {item again : Reader Expr} {tokens : List Token}

theorem optionalArgument (read : ∀ later, later.length < tokens.length →
      Foreseen bound again Expr.Derives later (item later)) :
    Foreseen bound (Reader.optionalArgument again) ArgumentDerives tokens
      (Reader.optionalArgument item tokens) := by
  cases next : nextIs "(" tokens with
  | true =>
      rw [optionalArgument_of_open next]
      refine (((parenthesized Expr.viable_nil read).map some).imp ?_).congr (Nat.le_refl _) ?_
      · rintro words value ⟨count, ⟨inner, rfl, derived⟩, rfl⟩
        exact .present derived
      · intro other _ same
        exact optionalArgument_of_open ((nextIs_congr same "(").trans next)
  | false =>
      rw [optionalArgument_of_not_open next]
      refine .value (spells_nil_iff.mpr rfl) .absent (by simp) ?_
      intro other left _ ofWords same
      rw [spells_nil_iff.mp ofWords]
      exact optionalArgument_of_not_open ((nextIs_congr same "(").trans next)

end Foreseen

theorem Token.kind_congr {token other : Token} (text : other.text = token.text) :
    other.kind = token.kind := by
  rw [kind, kind, text]

theorem Token.name_congr {token other : Token} (text : other.text = token.text) :
    other.name = token.name := by
  rw [name, name, text]

theorem Token.ne_brace_of_variableName {token : Token} (kind : token.kind = .variableName) :
    token.text ≠ "\x7b" := by
  rw [(kind_eq_variableName_iff.mp kind).1]
  exact dollar_ne (by decide)

/-! ### Expressions -/

namespace Expr

variable {limit bound : Nat} {token : Token} {later : List Token}

theorem numeral_foreseen (kind : token.kind = .number) :
    Foreseen (bound + 1) (readWithin (bound + 1)) Derives (token :: later)
      (readWithin (limit + 1) (token :: later)) := by
  cases literal : literalValue? token.text with
  | none =>
      rw [readWithin_out_of_range kind literal]
      refine .unfit rfl rfl nofun viable_nil ?_
      intro other left text
      have outOfRange : literalValue? other.text = none := by rw [text, literal]
      exact ⟨_, _, readWithin_out_of_range ((Token.kind_congr text).trans kind) outOfRange⟩
  | some value =>
      have numeral := Token.kind_eq_number_iff.mp kind
      have notBrace : token.text ≠ "\x7b" := by
        intro brace
        rw [brace] at numeral
        exact absurd numeral (by decide)
      rw [readWithin_numeral kind literal]
      refine ((Foreseen.pure (num value)).lead (Nat.le_refl _) ?_ notBrace).imp ?_
      · intro other left text
        have denotes : literalValue? other.text = some value := by rw [text, literal]
        exact readWithin_numeral ((Token.kind_congr text).trans kind) denotes
      · rintro _ _ ⟨_, rfl, rfl, rfl⟩
        exact .num numeral (literalValue?_eq_some_iff.mp literal)

theorem variable_foreseen (kind : token.kind = .variableName) :
    Foreseen (bound + 1) (readWithin (bound + 1)) Derives (token :: later)
      (readWithin (limit + 1) (token :: later)) := by
  obtain ⟨text, writable⟩ := Token.kind_eq_variableName_iff.mp kind
  have notBrace := Token.ne_brace_of_variableName kind
  rw [readWithin_variable kind]
  refine ((Foreseen.pure (var token.name)).lead (Nat.le_refl _) ?_ notBrace).imp ?_
  · intro other left same
    rw [readWithin_variable ((Token.kind_congr same).trans kind), Token.name_congr same]
    rfl
  · rintro _ _ ⟨_, rfl, rfl, rfl⟩
    rw [text]
    exact .var writable

section Step

variable (read : ∀ {tokens : List Token}, tokens.length < limit →
    Foreseen bound (readWithin bound) Derives tokens (readWithin limit tokens))
  (fits : later.length < limit)

include read fits

theorem operator_foreseen {op : BinaryOp} (spelled : token.text = op.keyword) :
    Foreseen (bound + 1) (readWithin (bound + 1)) Derives (token :: later)
      (readWithin (limit + 1) (token :: later)) := by
  have notBrace : token.text ≠ "\x7b" := by
    rw [spelled]
    cases op <;> decide
  have operands := Foreseen.operands (binary op) viable_nil fun last shorter =>
    read (Nat.lt_trans shorter fits)
  rw [readWithin_operator spelled]
  refine (operands.lead (Nat.le_refl _) ?_ notBrace).imp ?_
  · intro other left text
    exact readWithin_operator (text.trans spelled)
  · rintro _ _ ⟨_, rfl, first, second, left, right, rfl, rfl, ofLeft, ofRight⟩
    rw [spelled]
    exact .binary ofLeft ofRight

theorem sensor_foreseen {gauge : Sensor} (spelled : token.text = gauge.keyword) :
    Foreseen (bound + 1) (readWithin (bound + 1)) Derives (token :: later)
      (readWithin (limit + 1) (token :: later)) := by
  have notBrace : token.text ≠ "\x7b" := by
    rw [spelled]
    rcases gauge with _ | ⟨_ | _⟩ | _ | ⟨_ | _⟩ | _ <;> decide
  have again {other : Token} {left : List Token} (text : other.text = token.text) :=
    @readWithin_sensor bound other left gauge (text.trans spelled)
  rw [readWithin_sensor spelled]
  cases gauge with
  | barrel axis =>
      have argument := Foreseen.optionalArgument fun last shorter =>
        read (Nat.lt_trans shorter fits)
      refine ((argument.map (withArgument axis)).lead (Nat.le_refl _) again notBrace).imp ?_
      rintro _ _ ⟨_, rfl, argument, derived, rfl⟩
      rw [spelled]
      cases derived with
      | absent => exact .sensor
      | present ofIndex => exact .barrelAt ofIndex
  | fuelLeft | opponent axis | numBarrels | wallDist =>
      refine ((Foreseen.pure _).lead (Nat.le_refl _) again notBrace).imp ?_
      rintro _ _ ⟨_, rfl, rfl, rfl⟩
      rw [spelled]
      exact .sensor

end Step

theorem readWithin_foreseen {tokens : List Token} (fits : tokens.length < limit) :
    Foreseen bound (readWithin bound) Derives tokens (readWithin limit tokens) := by
  induction limit generalizing bound tokens with
  | zero => exact absurd fits (Nat.not_lt_zero _)
  | succ limit ih =>
      refine .of_succ fun bound => ?_
      cases tokens with
      | nil => exact .ended viable_nil
      | cons token later =>
          have shorter : later.length < limit := Nat.lt_of_succ_lt_succ fits
          by_cases number : token.kind = .number
          · exact numeral_foreseen number
          by_cases named : token.kind = .variableName
          · exact variable_foreseen named
          cases operator : BinaryOp.ofKeyword? token.text with
          | some op =>
              exact operator_foreseen ih shorter (BinaryOp.ofKeyword?_eq_some_iff.mp operator)
          | none =>
              cases found : Sensor.ofKeyword? token.text with
              | some gauge =>
                  exact sensor_foreseen ih shorter (Sensor.ofKeyword?_eq_some_iff.mp found)
              | none =>
                  rw [readWithin_unrecognized number named operator found]
                  refine .unfit rfl rfl nofun viable_nil ?_
                  intro other left text
                  refine ⟨_, _, readWithin_unrecognized ?_ ?_ ?_ ?_⟩
                  · rwa [Token.kind_congr text]
                  · rwa [Token.kind_congr text]
                  · rwa [text]
                  · rwa [text]

end Expr

/-! ### Conditions -/

namespace Cond

variable {limit bound : Nat} {token : Token} {later : List Token}

theorem comparison_foreseen {op : CompareOp} (spelled : token.text = op.keyword)
    (fits : later.length < limit) :
    Foreseen (bound + 1) (readWithin (bound + 1)) Derives (token :: later)
      (readWithin (limit + 1) (token :: later)) := by
  have notBrace : token.text ≠ "\x7b" := by
    rw [spelled]
    cases op <;> decide
  have operands := Foreseen.operands (compare op) Expr.viable_nil fun last shorter =>
    @Expr.readWithin_foreseen limit bound last (Nat.lt_trans shorter fits)
  rw [readWithin_comparison spelled]
  refine (operands.lead (Nat.le_refl _) ?_ notBrace).imp ?_
  · intro other left text
    exact readWithin_comparison (text.trans spelled)
  · rintro _ _ ⟨_, rfl, first, second, left, right, rfl, rfl, ofLeft, ofRight⟩
    rw [spelled]
    exact .compare ofLeft ofRight

section Step

variable (read : ∀ {tokens : List Token}, tokens.length < limit →
    Foreseen bound (readWithin bound) Derives tokens (readWithin limit tokens))
  (fits : later.length < limit)

include read fits

theorem connective_foreseen {op : Connective} (spelled : token.text = op.keyword) :
    Foreseen (bound + 1) (readWithin (bound + 1)) Derives (token :: later)
      (readWithin (limit + 1) (token :: later)) := by
  have notBrace : token.text ≠ "\x7b" := by
    rw [spelled]
    cases op <;> decide
  have operands := Foreseen.operands (connect op) viable_nil fun last shorter =>
    read (Nat.lt_trans shorter fits)
  rw [readWithin_connective spelled]
  refine (operands.lead (Nat.le_refl _) ?_ notBrace).imp ?_
  · intro other left text
    exact readWithin_connective (text.trans spelled)
  · rintro _ _ ⟨_, rfl, first, second, left, right, rfl, rfl, ofLeft, ofRight⟩
    rw [spelled]
    exact .connect ofLeft ofRight

theorem negation_foreseen (spelled : token.text = "not") :
    Foreseen (bound + 1) (readWithin (bound + 1)) Derives (token :: later)
      (readWithin (limit + 1) (token :: later)) := by
  have inner := (Foreseen.parenthesized viable_nil fun last shorter =>
    read (Nat.lt_trans shorter fits)).map not
  rw [readWithin_not spelled]
  refine (inner.lead (Nat.le_refl _) ?_ (by rw [spelled]; decide)).imp ?_
  · intro other left text
    exact readWithin_not (text.trans spelled)
  · rintro _ _ ⟨_, rfl, _, ⟨words, rfl, ofInner⟩, rfl⟩
    rw [spelled]
    exact .not ofInner

end Step

theorem readWithin_foreseen {tokens : List Token} (fits : tokens.length < limit) :
    Foreseen bound (readWithin bound) Derives tokens (readWithin limit tokens) := by
  induction limit generalizing bound tokens with
  | zero => exact absurd fits (Nat.not_lt_zero _)
  | succ limit ih =>
      refine .of_succ fun bound => ?_
      cases tokens with
      | nil => exact .ended viable_nil
      | cons token later =>
          have shorter : later.length < limit := Nat.lt_of_succ_lt_succ fits
          cases compared : CompareOp.ofKeyword? token.text with
          | some op =>
              exact comparison_foreseen (CompareOp.ofKeyword?_eq_some_iff.mp compared) shorter
          | none =>
              cases connected : Connective.ofKeyword? token.text with
              | some op =>
                  exact connective_foreseen ih shorter
                    (Connective.ofKeyword?_eq_some_iff.mp connected)
              | none =>
                  by_cases negated : token.text = "not"
                  · exact negation_foreseen ih shorter negated
                  · rw [readWithin_unrecognized compared connected negated]
                    refine .unfit rfl rfl nofun viable_nil ?_
                    intro other left text
                    refine ⟨_, _, readWithin_unrecognized ?_ ?_ ?_⟩
                    · rwa [text]
                    · rwa [text]
                    · rwa [text]

end Cond

end FuelDuel.Language
