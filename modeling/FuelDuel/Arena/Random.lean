/-!
The random source for the placement of barrels. A 64-bit state advances by a fixed odd constant and
each state is mixed into an output by shifts and multiplications, so that a seed determines the
whole sequence.
-/

namespace FuelDuel.Arena

/-- A random source. -/
structure Random where
  state : UInt64
  deriving DecidableEq, Repr

namespace Random

/-- The constant by which the state advances, the golden ratio as a 64-bit fraction. -/
def increment : UInt64 := 0x9E3779B97F4A7C15

/-- The source for a seed; seed zero stands for the increment. -/
def ofSeed (seed : UInt64) : Random := ⟨if seed = 0 then increment else seed⟩

/-- Exclusive or of a word with itself shifted to the right. -/
def xorShift (word amount : UInt64) : UInt64 := word ^^^ (word >>> amount)

/-- The output for a state. -/
def mix (state : UInt64) : UInt64 :=
  xorShift (xorShift (xorShift state 30 * 0xBF58476D1CE4E5B9) 27 * 0x94D049BB133111EB) 31

/-- The source after one draw. -/
def advance (random : Random) : Random := ⟨random.state + increment⟩

/-- The next word and the source after it. -/
def next (random : Random) : UInt64 × Random := (mix random.advance.state, random.advance)

/-- A word as a number from zero up to, but without, one: its upper 53 bits as a fraction. -/
def unit (word : UInt64) : Float := (word >>> 11).toFloat * Float.ofBits 0x3CA0000000000000

/-- A number from zero up to, but without, one. -/
def uniform (random : Random) : Float × Random := (unit random.next.1, random.next.2)

/-- Whether an event of the given probability happens. -/
def chance (probability : Float) (random : Random) : Bool × Random :=
  (random.uniform.1 < probability, random.uniform.2)

/-- A number below `bound`, which has to be positive. -/
def below (bound : Nat) (random : Random) : Nat × Random :=
  (random.next.1.toNat % bound, random.next.2)

end Random

end FuelDuel.Arena
