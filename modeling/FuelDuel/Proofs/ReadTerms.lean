import FuelDuel.Proofs.Recognition
import FuelDuel.Proofs.TokenClass

/-!
The readers of expressions and conditions recognise their constructs. The one token that can extend
an expression is an opening parenthesis after the bare name of a barrel sensor; nothing extends a
condition.
-/

namespace FuelDuel.Language

open Reader

/-- An opening parenthesis does not follow the bare name of a barrel sensor. -/
def Expr.Ends (words : List String) (rest : List Token) : Prop :=
  ∀ axis, words = [(Sensor.barrel axis).keyword] → nextIs "(" rest = false

theorem Expr.ends_of_nextIs {word : String} (other : word ≠ "(") {words : List String}
    {rest : List Token} (next : nextIs word rest = true) : Expr.Ends words rest :=
  fun _ _ => nextIs_unique next other

section Argument

variable {limit : Nat} {item : Reader Expr}

theorem optionalArgument_of_open {tokens : List Token} (next : nextIs "(" tokens = true) :
    optionalArgument item tokens = (do return some (← parenthesized item)) tokens := by
  simp only [optionalArgument, bind_of_ok (get_apply tokens), next, if_true]

theorem optionalArgument_of_not_open {tokens : List Token} (next : nextIs "(" tokens = false) :
    optionalArgument item tokens = .ok none tokens := by
  simp only [optionalArgument, bind_of_ok (get_apply tokens), next, Bool.false_eq_true, if_false,
    pure_apply]

theorem optionalArgument_recognizes (expr : Recognizes limit item Expr.Derives Expr.Ends) :
    Recognizes limit (optionalArgument item) ArgumentDerives
      (fun words rest => words = [] → nextIs "(" rest = false) := by
  have inParens := expr.parenthesized (Expr.ends_of_nextIs (by decide))
  constructor
  case sound =>
    intro tokens value rest read
    cases next : nextIs "(" tokens with
    | true =>
        rw [optionalArgument_of_open next] at read
        obtain ⟨count, readCount, rfl⟩ := map_eq_ok_iff.mp read
        obtain ⟨_, spelled, words, rfl, derived⟩ := inParens.sound readCount
        exact ⟨parens words, spelled, .present derived⟩
    | false =>
        rw [optionalArgument_of_not_open next] at read
        cases read
        exact ⟨[], spells_nil_iff.mpr rfl, .absent⟩
  case complete =>
    intro tokens words value rest derived spelled ended short
    cases derived with
    | absent =>
        obtain rfl := spells_nil_iff.mp spelled
        exact optionalArgument_of_not_open (ended rfl)
    | present ofCount =>
        rw [optionalArgument_of_open (nextIs_of_spells spelled)]
        have readCount := inParens.complete ⟨_, rfl, ofCount⟩ spelled trivial short
        exact map_eq_ok_iff.mpr ⟨_, readCount, rfl⟩

end Argument

/-! ### Expressions -/

namespace Expr

variable {limit : Nat} {token : Token} {later : List Token}

theorem readWithin_numeral {value : Int32} (kind : token.kind = .number)
    (denotes : literalValue? token.text = some value) :
    readWithin (limit + 1) (token :: later) = .ok (.num value) later := by
  simp only [readWithin, bind_of_ok (peek_cons _ token later), kind,
    bind_of_ok (skip_cons token later), denotes, pure_apply]

theorem readWithin_variable (kind : token.kind = .variableName) :
    readWithin (limit + 1) (token :: later) = .ok (.var token.name) later := by
  simp only [readWithin, bind_of_ok (peek_cons _ token later), kind,
    bind_of_ok (skip_cons token later), pure_apply]

theorem readWithin_operator {op : BinaryOp} (spelled : token.text = op.keyword) :
    readWithin (limit + 1) (token :: later) =
      (do
        let (left, right) ← pair (readWithin limit)
        return binary op left right) later := by
  have kind : token.kind = .word := by
    rw [Token.kind, spelled]
    cases op <;> decide
  have found := BinaryOp.ofKeyword?_eq_some_iff.mpr spelled
  simp only [readWithin, bind_of_ok (peek_cons _ token later), kind, found,
    bind_of_ok (skip_cons token later)]

/-- A sensor with the argument that follows it, which only a barrel sensor can have. -/
def withArgument (axis : Axis) : Option Expr → Expr
  | none => sensor (.barrel axis)
  | some index => barrelAt axis index

theorem readWithin_sensor {gauge : Sensor} (spelled : token.text = gauge.keyword) :
    readWithin (limit + 1) (token :: later) =
      match gauge with
      | .barrel axis =>
          (do return withArgument axis (← optionalArgument (readWithin limit))) later
      | gauge => .ok (.sensor gauge) later := by
  have kind : token.kind = .word := by
    rw [Token.kind, spelled]
    rcases gauge with _ | ⟨_ | _⟩ | _ | ⟨_ | _⟩ | _ <;> decide
  have notOperator : BinaryOp.ofKeyword? token.text = none := by
    rw [spelled]
    rcases gauge with _ | ⟨_ | _⟩ | _ | ⟨_ | _⟩ | _ <;> decide
  have found := Sensor.ofKeyword?_eq_some_iff.mpr spelled
  simp only [readWithin, bind_of_ok (peek_cons _ token later), kind, notOperator, found]
  cases gauge with
  | barrel axis =>
      simp only [bind_of_ok (skip_cons token later)]
      rw [bind_apply, bind_apply]
      cases (readWithin limit).optionalArgument later with
      | ok argument after => cases argument <;> rfl
      | error error after => rfl
  | _ => simp only [bind_of_ok (skip_cons token later), pure_apply]

theorem readWithin_out_of_range (kind : token.kind = .number)
    (outOfRange : literalValue? token.text = none) :
    readWithin (limit + 1) (token :: later) = .error (.invalidNumber token) later := by
  simp only [readWithin, bind_of_ok (peek_cons _ token later), kind,
    bind_of_ok (skip_cons token later), outOfRange, throw_apply]

theorem readWithin_unrecognized (notNumber : token.kind ≠ .number)
    (notVariable : token.kind ≠ .variableName)
    (notOperator : BinaryOp.ofKeyword? token.text = none)
    (notSensor : Sensor.ofKeyword? token.text = none) :
    readWithin (limit + 1) (token :: later) =
      .error (.unrecognized token .expression) (token :: later) := by
  simp only [readWithin, bind_of_ok (peek_cons _ token later), notOperator, notSensor]
  cases kind : token.kind with
  | number => exact absurd kind notNumber
  | variableName => exact absurd kind notVariable
  | punct | word => rfl

variable {rest : List Token} {value : Expr}

theorem numeral_sound (kind : token.kind = .number)
    (read : readWithin (limit + 1) (token :: later) = .ok value rest) :
    rest = later ∧ Derives [token.text] value := by
  cases literal : literalValue? token.text with
  | none =>
      rw [readWithin_out_of_range kind literal] at read
      cases read
  | some found =>
      rw [readWithin_numeral kind literal] at read
      cases read
      have numeral := Token.kind_eq_number_iff.mp kind
      exact ⟨rfl, .num numeral (literalValue?_eq_some_iff.mp literal)⟩

theorem variable_sound (kind : token.kind = .variableName)
    (read : readWithin (limit + 1) (token :: later) = .ok value rest) :
    rest = later ∧ Derives [token.text] value := by
  rw [readWithin_variable kind] at read
  cases read
  obtain ⟨spelled, writable⟩ := Token.kind_eq_variableName_iff.mp kind
  rw [spelled]
  exact ⟨rfl, .var writable⟩

section Step

variable (expr : Recognizes limit (readWithin limit) Derives Ends)
include expr

theorem operands_recognizes {β : Type} (make : Expr → Expr → β) :
    Recognizes limit
      (do
        let (left, right) ← pair (readWithin limit)
        return make left right)
      (OperandsDerive make Derives) AlwaysEnds :=
  expr.operands (ends_of_nextIs (by decide)) (ends_of_nextIs (by decide))

theorem operator_sound {op : BinaryOp} (spelled : token.text = op.keyword)
    (read : readWithin (limit + 1) (token :: later) = .ok value rest) :
    ∃ words, Spells later words rest ∧ Derives (token.text :: words) value := by
  rw [readWithin_operator spelled] at read
  obtain ⟨_, spelledPair, first, second, left, right, rfl, rfl, ofLeft, ofRight⟩ :=
    (operands_recognizes expr (binary op)).sound read
  rw [spelled]
  exact ⟨_, spelledPair, .binary ofLeft ofRight⟩

theorem sensor_sound {gauge : Sensor} (spelled : token.text = gauge.keyword)
    (read : readWithin (limit + 1) (token :: later) = .ok value rest) :
    ∃ words, Spells later words rest ∧ Derives (token.text :: words) value := by
  rw [readWithin_sensor spelled] at read
  rw [spelled]
  cases gauge with
  | barrel axis =>
      obtain ⟨argument, readArgument, rfl⟩ := map_eq_ok_iff.mp read
      obtain ⟨words, spelledArgument, derived⟩ :=
        (optionalArgument_recognizes expr).sound readArgument
      refine ⟨words, spelledArgument, ?_⟩
      cases derived with
      | absent => exact .sensor
      | present ofIndex => exact .barrelAt ofIndex
  | _ =>
      cases read
      exact ⟨[], spells_nil_iff.mpr rfl, .sensor⟩

theorem step_sound {tokens : List Token}
    (read : readWithin (limit + 1) tokens = .ok value rest) :
    ∃ words, Spells tokens words rest ∧ Derives words value := by
  cases tokens with
  | nil => cases read
  | cons token later =>
      suffices ∃ words, Spells later words rest ∧ Derives (token.text :: words) value by
        obtain ⟨words, spelled, derived⟩ := this
        exact ⟨_, spells_cons_iff.mpr ⟨token, later, rfl, rfl, spelled⟩, derived⟩
      by_cases number : token.kind = .number
      · obtain ⟨rfl, derived⟩ := numeral_sound number read
        exact ⟨[], spells_nil_iff.mpr rfl, derived⟩
      by_cases named : token.kind = .variableName
      · obtain ⟨rfl, derived⟩ := variable_sound named read
        exact ⟨[], spells_nil_iff.mpr rfl, derived⟩
      cases operator : BinaryOp.ofKeyword? token.text with
      | some op => exact operator_sound expr (BinaryOp.ofKeyword?_eq_some_iff.mp operator) read
      | none =>
          cases found : Sensor.ofKeyword? token.text with
          | some gauge => exact sensor_sound expr (Sensor.ofKeyword?_eq_some_iff.mp found) read
          | none =>
              rw [readWithin_unrecognized number named operator found] at read
              cases read

theorem step_complete {tokens : List Token} {words : List String} (derived : Derives words value)
    (spelled : Spells tokens words rest) (ended : Ends words rest)
    (short : words.length ≤ limit + 1) : readWithin (limit + 1) tokens = .ok value rest := by
  cases derived with
  | num numeral denotes =>
      obtain ⟨token, rfl, rfl⟩ := spells_singleton_iff.mp spelled
      exact readWithin_numeral (Token.kind_eq_number_iff.mpr numeral)
        (literalValue?_eq_some_iff.mpr denotes)
  | var writable =>
      obtain ⟨token, rfl, text⟩ := spells_singleton_iff.mp spelled
      obtain rfl := Token.name_of_text text
      exact readWithin_variable (Token.kind_eq_variableName_iff.mpr ⟨text, writable⟩)
  | @binary op first second left right ofLeft ofRight =>
      obtain ⟨token, later, rfl, text, spelledPair⟩ := spells_cons_iff.mp spelled
      rw [readWithin_operator text]
      exact (operands_recognizes expr (binary op)).complete
        ⟨first, second, left, right, rfl, rfl, ofLeft, ofRight⟩ spelledPair trivial
        (Nat.le_of_succ_le_succ short)
  | @sensor gauge =>
      obtain ⟨token, rfl, text⟩ := spells_singleton_iff.mp spelled
      rw [readWithin_sensor text]
      cases gauge with
      | barrel axis =>
          have readArgument : optionalArgument (readWithin limit) rest = .ok none rest :=
            optionalArgument_of_not_open (ended axis rfl)
          exact map_eq_ok_iff.mpr ⟨none, readArgument, rfl⟩
      | _ => rfl
  | @barrelAt axis words index ofIndex =>
      obtain ⟨token, later, rfl, text, spelledArgument⟩ := spells_cons_iff.mp spelled
      rw [readWithin_sensor text]
      have readArgument := (optionalArgument_recognizes expr).complete (.present ofIndex)
        spelledArgument nofun (Nat.le_of_succ_le_succ short)
      exact map_eq_ok_iff.mpr ⟨some index, readArgument, rfl⟩

end Step

theorem readWithin_recognizes (limit : Nat) :
    Recognizes limit (readWithin limit) Derives Ends := by
  induction limit with
  | zero =>
      refine .zero nofun fun words value derived => ?_
      cases derived <;> simp
  | succ limit ih => exact ⟨step_sound ih, step_complete ih⟩

end Expr

/-! ### Conditions -/

namespace Cond

variable {limit : Nat} {token : Token} {later : List Token}

theorem readWithin_comparison {op : CompareOp} (spelled : token.text = op.keyword) :
    readWithin (limit + 1) (token :: later) =
      (do
        let (left, right) ← pair (Expr.readWithin limit)
        return compare op left right) later := by
  have found := CompareOp.ofKeyword?_eq_some_iff.mpr spelled
  simp only [readWithin, bind_of_ok (peek_cons _ token later), found,
    bind_of_ok (skip_cons token later)]

theorem readWithin_connective {op : Connective} (spelled : token.text = op.keyword) :
    readWithin (limit + 1) (token :: later) =
      (do
        let (left, right) ← pair (readWithin limit)
        return connect op left right) later := by
  have found := Connective.ofKeyword?_eq_some_iff.mpr spelled
  have notCompared : CompareOp.ofKeyword? token.text = none := by
    rw [spelled]
    cases op <;> decide
  simp only [readWithin, bind_of_ok (peek_cons _ token later), notCompared, found,
    bind_of_ok (skip_cons token later)]

theorem readWithin_not (spelled : token.text = "not") :
    readWithin (limit + 1) (token :: later) =
      (do return not (← parenthesized (readWithin limit))) later := by
  have notCompared : CompareOp.ofKeyword? "not" = none := by decide
  have notConnected : Connective.ofKeyword? "not" = none := by decide
  simp only [readWithin, bind_of_ok (peek_cons _ token later), spelled, notCompared, notConnected,
    if_true, bind_of_ok (skip_cons token later)]

theorem readWithin_unrecognized (notCompared : CompareOp.ofKeyword? token.text = none)
    (notConnected : Connective.ofKeyword? token.text = none) (notNot : token.text ≠ "not") :
    readWithin (limit + 1) (token :: later) =
      .error (.unrecognized token .condition) (token :: later) := by
  simp only [readWithin, bind_of_ok (peek_cons _ token later), notCompared, notConnected,
    notNot, if_false, throw_apply]

section Step

variable (cond : Recognizes limit (readWithin limit) Derives AlwaysEnds)
include cond

theorem operands_recognizes {β : Type} (make : Cond → Cond → β) :
    Recognizes limit
      (do
        let (left, right) ← pair (readWithin limit)
        return make left right)
      (OperandsDerive make Derives) AlwaysEnds :=
  cond.operands (fun _ => trivial) (fun _ => trivial)

theorem parenthesized_recognizes :
    Recognizes limit (parenthesized (readWithin limit))
      (fun words value => ∃ inner, words = parens inner ∧ Derives inner value) AlwaysEnds :=
  cond.parenthesized fun _ => trivial

theorem step_sound {tokens rest : List Token} {value : Cond}
    (read : readWithin (limit + 1) tokens = .ok value rest) :
    ∃ words, Spells tokens words rest ∧ Derives words value := by
  cases tokens with
  | nil => cases read
  | cons token later =>
      suffices ∃ words, Spells later words rest ∧ Derives (token.text :: words) value by
        obtain ⟨words, spelled, derived⟩ := this
        exact ⟨_, spells_cons_iff.mpr ⟨token, later, rfl, rfl, spelled⟩, derived⟩
      cases compared : CompareOp.ofKeyword? token.text with
      | some op =>
          have spelled := CompareOp.ofKeyword?_eq_some_iff.mp compared
          rw [readWithin_comparison spelled] at read
          obtain ⟨_, spelledPair, first, second, left, right, rfl, rfl, ofLeft, ofRight⟩ :=
            (Expr.operands_recognizes (Expr.readWithin_recognizes limit) (compare op)).sound read
          rw [spelled]
          exact ⟨_, spelledPair, .compare ofLeft ofRight⟩
      | none =>
          cases connected : Connective.ofKeyword? token.text with
          | some op =>
              have spelled := Connective.ofKeyword?_eq_some_iff.mp connected
              rw [readWithin_connective spelled] at read
              obtain ⟨_, spelledPair, first, second, left, right, rfl, rfl, ofLeft, ofRight⟩ :=
                (operands_recognizes cond (connect op)).sound read
              rw [spelled]
              exact ⟨_, spelledPair, .connect ofLeft ofRight⟩
          | none =>
              by_cases negated : token.text = "not"
              · rw [readWithin_not negated] at read
                obtain ⟨inner, readInner, rfl⟩ := map_eq_ok_iff.mp read
                obtain ⟨_, spelledInner, words, rfl, ofInner⟩ :=
                  (parenthesized_recognizes cond).sound readInner
                rw [negated]
                exact ⟨_, spelledInner, .not ofInner⟩
              · rw [readWithin_unrecognized compared connected negated] at read
                cases read

theorem step_complete {tokens rest : List Token} {value : Cond} {words : List String}
    (derived : Derives words value) (spelled : Spells tokens words rest)
    (short : words.length ≤ limit + 1) : readWithin (limit + 1) tokens = .ok value rest := by
  cases derived with
  | @compare op first second left right ofLeft ofRight =>
      obtain ⟨token, later, rfl, text, spelledPair⟩ := spells_cons_iff.mp spelled
      rw [readWithin_comparison text]
      exact (Expr.operands_recognizes (Expr.readWithin_recognizes limit) (compare op)).complete
        ⟨first, second, left, right, rfl, rfl, ofLeft, ofRight⟩ spelledPair trivial
        (Nat.le_of_succ_le_succ short)
  | @connect op first second left right ofLeft ofRight =>
      obtain ⟨token, later, rfl, text, spelledPair⟩ := spells_cons_iff.mp spelled
      rw [readWithin_connective text]
      exact (operands_recognizes cond (connect op)).complete
        ⟨first, second, left, right, rfl, rfl, ofLeft, ofRight⟩ spelledPair trivial
        (Nat.le_of_succ_le_succ short)
  | @not inner value ofInner =>
      obtain ⟨token, later, rfl, text, spelledInner⟩ := spells_cons_iff.mp spelled
      have readInner : parenthesized (readWithin limit) later = .ok value rest :=
        (parenthesized_recognizes cond).complete ⟨inner, rfl, ofInner⟩ spelledInner trivial
          (Nat.le_of_succ_le_succ short)
      rw [readWithin_not text]
      exact map_eq_ok_iff.mpr ⟨value, readInner, rfl⟩

end Step

theorem readWithin_recognizes (limit : Nat) :
    Recognizes limit (readWithin limit) Derives AlwaysEnds := by
  induction limit with
  | zero =>
      refine .zero nofun fun words value derived => ?_
      cases derived <;> simp
  | succ limit ih =>
      exact ⟨step_sound ih, fun derived spelled _ short => step_complete ih derived spelled short⟩

end Cond

end FuelDuel.Language
