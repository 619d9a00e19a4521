import FuelDuel.Proofs.Occupancy

/-!
Rolls for barrels. A roll compares a drawn number with a probability, and the drawn number is never
negative: it is the product of a converted word and a positive constant, and neither conversion,
rounding nor packing turns a positive sign around. So an event of probability zero never happens
(`Random.chance_of_zero`), whichever of the two zeros is configured.

As long as the rolls of a match fail, no barrel comes to its field (`barrenFor_of_unluckyFor`).
-/

namespace FuelDuel.Arena

open Float.Model
open Float.Model.UnpackedFloat

/-- A number whose sign is positive, or no number at all. -/
inductive NotNegative : UnpackedFloat → Prop where
  | infinity : NotNegative (.infinity .positive)
  | notANumber : NotNegative .notANumber
  | zero : NotNegative (.zero .positive)
  | finite (mantissa : Nat) (exponent : Int) (positive : 0 < mantissa) :
      NotNegative (.finite .positive mantissa exponent positive)

namespace NotNegative

variable {format : Format}

theorem ite {cond : Prop} [Decidable cond] {first second : UnpackedFloat}
    (left : NotNegative first) (right : NotNegative second) :
    NotNegative (if cond then first else second) := by
  split
  · exact left
  · exact right

theorem dite {cond : Prop} [Decidable cond] {first : cond → UnpackedFloat}
    {second : ¬cond → UnpackedFloat} (left : ∀ holds, NotNegative (first holds))
    (right : ∀ fails, NotNegative (second fails)) :
    NotNegative (if holds : cond then first holds else second holds) := by
  split
  · exact left _
  · exact right _

/-! ### Rounding -/

theorem roundWithAccuracy (mantissa : Nat) (exponent : Int) (accuracy : Accuracy) :
    NotNegative (roundWithAccuracy format .positive mantissa exponent accuracy) := by
  unfold UnpackedFloat.roundWithAccuracy
  exact .dite (fun _ => .zero) fun _ => .finite _ _ _

theorem ofNat (value : Nat) : NotNegative (ofNat format value) := by
  unfold UnpackedFloat.ofNat UnpackedFloat.ofInt UnpackedFloat.normalize
  split
  · rename_i less
    have := Int.compare_eq_lt.mp less
    omega
  · exact .zero
  · exact roundWithAccuracy _ _ _

theorem mul {first second : UnpackedFloat} (left : NotNegative first)
    (right : NotNegative second) : NotNegative (mul format first second) := by
  cases left with
  | notANumber => cases right <;> exact .notANumber
  | infinity =>
      cases right with
      | notANumber => exact .notANumber
      | infinity => exact .infinity
      | zero => exact .notANumber
      | finite => exact .infinity
  | zero =>
      cases right with
      | notANumber => exact .notANumber
      | infinity => exact .notANumber
      | zero => exact .zero
      | finite => exact .zero
  | finite =>
      cases right with
      | notANumber => exact .notANumber
      | infinity => exact .infinity
      | zero => exact .zero
      | finite => exact roundWithAccuracy _ _ _

/-! ### Packing -/

theorem unpack_of_sign {bits : BitVec format.numBits}
    (positive : Sign.ofBitVec (unpackSign bits) = .positive) :
    NotNegative (unpack format bits) := by
  unfold UnpackedFloat.unpack
  dsimp only
  rw [positive]
  exact .ite (.ite .infinity .notANumber)
    (.ite (.dite (fun _ => .zero) fun _ => .finite _ _ _) (.finite _ _ _))

theorem unpack_packComponents (exponent : BitVec format.exponentBits)
    (mantissa : BitVec format.mantissaBitsWithoutImplicit) :
    NotNegative (unpack format (packComponents format .positive exponent mantissa)) := by
  have bit : unpackSign (packComponents format .positive exponent mantissa) = 0#1 := by
    ext index inside
    obtain rfl : index = 0 := by omega
    unfold unpackSign
    simp [packComponents, Sign.toBitVec, BitVec.getLsbD_append, BitVec.getElem_append]
  exact unpack_of_sign (by rw [bit]; rfl)

theorem unpack_pack {number : UnpackedFloat} (positive : NotNegative number) :
    NotNegative (unpack format (pack format number)) := by
  cases positive with
  | infinity => exact unpack_packComponents _ _
  | notANumber => exact unpack_packComponents _ _
  | zero => exact unpack_packComponents _ _
  | finite mantissa exponent positive =>
      unfold UnpackedFloat.pack
      dsimp only
      split
      · exact unpack_packComponents _ _
      · split
        · exact unpack_packComponents _ _
        · exact unpack_packComponents _ _

/-! ### Comparing -/

theorem not_lt_zero {number : UnpackedFloat} (positive : NotNegative number) (sign : Sign) :
    number.lt (.zero sign) = false := by
  cases positive <;> rfl

end NotNegative

theorem unpack_eq_zero {number : UnpackedFloat} (zero : number.beq (.zero .positive) = true) :
    ∃ sign, number = .zero sign := by
  cases number with
  | zero sign => exact ⟨sign, rfl⟩
  | notANumber => cases zero
  | infinity sign => cases sign <;> cases zero
  | finite sign => cases sign <;> cases zero

/-! ### Rolls -/

namespace Random

/-- A drawn number is not negative. -/
theorem notNegative_unit (word : UInt64) : NotNegative (unit word).toModel.unpack := by
  have drawn : NotNegative (word >>> 11).toFloat.toModel.unpack :=
    (NotNegative.ofNat _).unpack_pack
  have scale : NotNegative (Float.ofBits 0x3CA0000000000000).toModel.unpack :=
    (NotNegative.unpack_of_sign rfl).unpack_pack
  exact (drawn.mul scale).unpack_pack

/-- An event of probability zero never happens. -/
theorem chance_of_zero {probability : Float} (zero : (probability == 0) = true)
    (random : Random) : (random.chance probability).1 = false := by
  have zeroModel : probability.toModel.unpack.beq (.zero .positive) = true := zero
  obtain ⟨sign, unpacked⟩ := unpack_eq_zero zeroModel
  have above : (unit random.next.1).toModel.unpack.lt probability.toModel.unpack = false := by
    rw [unpacked]
    exact (notNegative_unit _).not_lt_zero sign
  have not_less : ¬unit random.next.1 < probability := by
    intro less
    have lessModel : (unit random.next.1).toModel < probability.toModel := of_decide_eq_true less
    exact Bool.false_ne_true (above.symm.trans lessModel)
  exact decide_eq_false not_less

end Random

/-! ### Matches without barrels -/

/-- Without a barrel and without luck there is no barrel after the tick either. -/
theorem barrels_nextTurn_of_unlucky {arena : Arena} {played : Played}
    (turn : arena.nextTurn = .ok played) (apart : arena.cell .red ≠ arena.cell .blue)
    (unlucky : (arena.random.chance arena.config.spawnChance).1 = false)
    (bare : arena.barrels = .empty) : played.arena.barrels = .empty := by
  obtain ⟨-, rfl⟩ := nextTurn_eq_ok_iff.mp turn
  have reached (part : Part) : CellSet.empty.reachedBy part = .empty := by
    unfold CellSet.reachedBy
    split <;> rfl
  have charged : (arena.commit.charged arena.commit.minds).barrels = .empty := by
    have bareCommit : arena.commit.barrels = .empty := bare
    rw [charged_minds (apart_commit apart), bareCommit, reached, reached]
  have unluckyCharged : ((arena.commit.charged arena.commit.minds).random.chance
      (arena.commit.charged arena.commit.minds).config.spawnChance).1 = false := by
    rw [random_charged, config_charged]
    exact unlucky
  rw [arena_resolve, barrels_atTick, barrels_maybeSpawn_of_unlucky unluckyCharged, charged]

/-- No barrel is on the field before any of the first turns. -/
def BarrenFor (arena : Arena) (turns : Nat) : Prop :=
  ∀ earlier < turns, (arena.afterTurns earlier).barrels = .empty

/-- The roll for a barrel fails in each of the first turns. -/
def UnluckyFor (arena : Arena) (turns : Nat) : Prop :=
  ∀ earlier < turns, ∀ played, (arena.afterTurns earlier).nextTurn = .ok played →
    ((arena.afterTurns earlier).random.chance arena.config.spawnChance).1 = false

theorem BarrenFor.mono {arena : Arena} {more fewer : Nat} (barren : BarrenFor arena more)
    (within : fewer ≤ more) : BarrenFor arena fewer :=
  fun earlier early => barren earlier (Nat.lt_of_lt_of_le early within)

theorem unluckyFor_of_spawnChance {arena : Arena}
    (zero : (arena.config.spawnChance == 0) = true) (turns : Nat) : UnluckyFor arena turns :=
  fun _ _ _ _ => Random.chance_of_zero zero _

theorem barrenFor_of_unluckyFor {arena : Arena} (placed : Placed arena)
    (sized : 1 ≤ arena.config.gridSize) {turns : Nat} (unlucky : UnluckyFor arena turns)
    (bare : arena.barrels = .empty) : BarrenFor arena (turns + 1) := by
  intro later within
  apply afterTurns_induction (fun after => after.barrels = .empty) bare
  intro earlier played early bare turn
  have apart := (placed_afterTurns placed sized earlier).next_apart
  refine barrels_nextTurn_of_unlucky turn apart ?_ bare
  rw [config_afterTurns]
  exact unlucky earlier (by omega) played turn

end FuelDuel.Arena
