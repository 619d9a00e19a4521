import FuelDuel.Arena.Random
import Mathlib.Data.FinEnum
import Mathlib.Data.Nat.ModEq
import Mathlib.Data.Nat.Prime.Basic
import Mathlib.Data.Set.Function
import Mathlib.Logic.Function.Iterate

/-!
The period of the random source. Mixing loses nothing: an exclusive or with a shifted copy can be
undone because the highest bits stay as they are, and a product with an odd word because odd words
have inverses. So the words that are drawn are distinct as long as the states are, and the states,
which advance by an odd word, come back only after all words have been states (`Random.bijOn_draw`).
Two sources that are in different states never draw the same word at the same place
(`Random.draw_eq_draw_iff`).
-/

namespace FuelDuel.Arena.Random

/-- The source after a number of draws. -/
def after (random : Random) (draws : Nat) : Random := (fun source => source.next.2)^[draws] random

/-- The word that is drawn after `earlier` others. -/
def draw (random : Random) (earlier : Nat) : UInt64 := (random.after earlier).next.1

/-! ### Mixing -/

theorem xorShift_xor (first second amount : UInt64) :
    xorShift (first ^^^ second) amount = xorShift first amount ^^^ xorShift second amount := by
  simp only [xorShift, UInt64.shiftRight_xor]
  ac_rfl

/-- Only zero is its own shifted copy. -/
theorem eq_zero_of_xorShift_eq_zero {word amount : UInt64} (shifts : amount.toNat % 64 ≠ 0)
    (zero : xorShift word amount = 0) : word = 0 := by
  have same : word = word >>> amount := UInt64.xor_eq_zero_iff.mp zero
  have divided : word.toNat = word.toNat / 2 ^ (amount.toNat % 64) := by
    rw [← Nat.shiftRight_eq_div_pow, ← UInt64.toNat_shiftRight]
    exact congrArg UInt64.toNat same
  have one_lt : 1 < 2 ^ (amount.toNat % 64) := Nat.one_lt_two_pow shifts
  apply UInt64.toNat_inj.mp
  by_contra positive
  exact absurd divided.symm (Nat.div_lt_self (Nat.pos_of_ne_zero positive) one_lt).ne

theorem xorShift_injective {amount : UInt64} (shifts : amount.toNat % 64 ≠ 0) :
    Function.Injective (xorShift · amount) := by
  intro first second same
  have zero : xorShift (first ^^^ second) amount = 0 := by
    rw [xorShift_xor]
    exact UInt64.xor_eq_zero_iff.mpr same
  exact UInt64.xor_eq_zero_iff.mp (eq_zero_of_xorShift_eq_zero shifts zero)

/-- A product with an odd word determines the other factor. -/
theorem mul_injective_of_odd {factor : UInt64} (odd : factor.toNat % 2 = 1) :
    Function.Injective (· * factor) := by
  intro first second same
  have congruent : first.toNat * factor.toNat ≡ second.toNat * factor.toNat [MOD 2 ^ 64] := by
    have products := congrArg UInt64.toNat same
    rwa [UInt64.toNat_mul, UInt64.toNat_mul] at products
  have coprime : Nat.gcd (2 ^ 64) factor.toNat = 1 :=
    Nat.Coprime.pow_left 64 (Nat.coprime_two_left.mpr (Nat.odd_iff.mpr odd))
  have cancelled := Nat.ModEq.cancel_right_of_coprime coprime congruent
  exact UInt64.toNat_inj.mp (cancelled.eq_of_lt_of_lt first.toNat_lt second.toNat_lt)

theorem mix_injective : Function.Injective mix := by
  intro first second same
  -- The layers are taken off from the outside.
  have products := xorShift_injective (by decide) same
  have factors := mul_injective_of_odd (by decide) products
  have innerProducts := xorShift_injective (by decide) factors
  have innerFactors := mul_injective_of_odd (by decide) innerProducts
  exact xorShift_injective (by decide) innerFactors

/-! ### Draws -/

theorem after_succ (random : Random) (draws : Nat) :
    random.after (draws + 1) = (random.after draws).advance :=
  Function.iterate_succ_apply' ..

theorem after_advance (random : Random) (draws : Nat) :
    random.advance.after draws = random.after (draws + 1) :=
  (Function.iterate_succ_apply ..).symm

theorem ofNat_succ_mul (count : Nat) (word : UInt64) :
    UInt64.ofNat (count + 1) * word = UInt64.ofNat count * word + word := by
  have unit : UInt64.ofNat 1 = 1 := rfl
  rw [UInt64.ofNat_add, unit, UInt64.add_mul, UInt64.one_mul]

theorem state_after (random : Random) (draws : Nat) :
    (random.after draws).state = random.state + UInt64.ofNat draws * increment := by
  induction draws with
  | zero =>
      have nothing : UInt64.ofNat 0 = 0 := rfl
      rw [nothing, UInt64.zero_mul, UInt64.add_zero]
      rfl
  | succ draws ih => rw [after_succ, advance, ih, ofNat_succ_mul, UInt64.add_assoc]

theorem draw_eq (random : Random) (earlier : Nat) :
    random.draw earlier = mix (random.state + UInt64.ofNat (earlier + 1) * increment) := by
  have mixed : random.draw earlier = mix (random.after earlier).advance.state := rfl
  rw [mixed, ← after_succ, state_after]

/-- Two sources draw the same word at some place only if they are the same source. -/
theorem draw_eq_draw_iff {first second : Random} {earlier : Nat} :
    first.draw earlier = second.draw earlier ↔ first = second := by
  rw [draw_eq, draw_eq, mix_injective.eq_iff, UInt64.add_left_inj]
  cases first
  cases second
  exact (mk.injEq ..).to_iff.symm

/-- No word is drawn twice within as many draws as there are words. -/
theorem injOn_draw (random : Random) : Set.InjOn random.draw (Set.Iio (2 ^ 64)) := by
  intro first firstEarly second secondEarly same
  rw [draw_eq, draw_eq, mix_injective.eq_iff, UInt64.add_right_inj] at same
  have counts := congrArg UInt64.toNat (mul_injective_of_odd (by decide) same)
  rw [UInt64.toNat_ofNat', UInt64.toNat_ofNat'] at counts
  rw [Set.mem_Iio] at firstEarly secondEarly
  omega

theorem surjOn_draw (random : Random) : Set.SurjOn random.draw (Set.Iio (2 ^ 64)) Set.univ := by
  intro word _
  have oddIncrement : Function.Injective (· * increment) := mul_injective_of_odd (by decide)
  obtain ⟨state, mixed⟩ := Finite.surjective_of_injective mix_injective word
  obtain ⟨count, product⟩ :=
    Finite.surjective_of_injective oddIncrement (state - random.state)
  refine ⟨(count - 1).toNat, (count - 1).toNat_lt, ?_⟩
  have counted : UInt64.ofNat ((count - 1).toNat + 1) = count := by
    rw [UInt64.ofNat_add, UInt64.ofNat_toNat]
    exact UInt64.sub_add_cancel count 1
  have product : count * increment = state - random.state := product
  rw [draw_eq, counted, product, UInt64.add_comm, UInt64.sub_add_cancel, mixed]

/-- Within as many draws as there are words, each word is drawn once. -/
theorem bijOn_draw (random : Random) : Set.BijOn random.draw (Set.Iio (2 ^ 64)) Set.univ :=
  ⟨Set.mapsTo_univ _ _, random.injOn_draw, random.surjOn_draw⟩

theorem draw_add_period (random : Random) (earlier : Nat) :
    random.draw (earlier + 2 ^ 64) = random.draw earlier := by
  have wrapped : UInt64.ofNat (earlier + 2 ^ 64 + 1) = UInt64.ofNat (earlier + 1) := by
    apply UInt64.toNat_inj.mp
    rw [UInt64.toNat_ofNat', UInt64.toNat_ofNat']
    omega
  rw [draw_eq, draw_eq, wrapped]

/-! ### Seeds -/

/-- Different seeds give different sources, except that zero stands for the increment. -/
theorem ofSeed_eq_ofSeed_iff {first second : UInt64} :
    ofSeed first = ofSeed second ↔
      first = second ∨ (first = 0 ∧ second = increment) ∨ (first = increment ∧ second = 0) := by
  have distinct : increment ≠ 0 := by decide
  simp only [ofSeed, mk.injEq]
  split
  · split <;> simp_all [eq_comm]
  · split <;> simp_all

/-- A random source runs through all words, each of them once, before it starts again. Two seeds
that stand for the same source draw the same words; other seeds differ at every place, so that
already the first draw tells them apart. -/
theorem draws_have_full_period (seed other : UInt64) :
    (Set.BijOn (ofSeed seed).draw (Set.Iio (2 ^ 64)) Set.univ ∧
      ∀ earlier, (ofSeed seed).draw (earlier + 2 ^ 64) = (ofSeed seed).draw earlier) ∧
    (ofSeed seed = ofSeed other ↔
      seed = other ∨ (seed = 0 ∧ other = increment) ∨ (seed = increment ∧ other = 0)) ∧
    ∀ earlier,
      (ofSeed seed).draw earlier = (ofSeed other).draw earlier ↔ ofSeed seed = ofSeed other :=
  ⟨⟨bijOn_draw _, draw_add_period _⟩, ofSeed_eq_ofSeed_iff, fun _ => draw_eq_draw_iff⟩

end FuelDuel.Arena.Random
