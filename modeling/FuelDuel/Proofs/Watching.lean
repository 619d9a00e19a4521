import FuelDuel.Proofs.Recording

/-!
Watched runs. A watched world is a world beside the list of everything that a program has read off
its sensors and done to it, in one order. Watching changes nothing (`execute_watched`), so `deeds`
are what the plain run reads and does, and `course` tells them tick by tick.
-/

namespace FuelDuel.Execution

open FuelDuel.Language

/-- One thing that a program reads off its sensors or does to its world. A reading without a value
is one that the world could not answer. -/
inductive Deed where
  | sensed (gauge : Sensor) (index : Nat) (value? : Option Int32)
  | did (effect : Effect)
  deriving DecidableEq, Repr

/-- A world and what a program has read and done. -/
structure Watched (W : Type) where
  world : W
  deeds : List Deed

namespace Watched

variable {W : Type}

/-- A world that is watched from now on. -/
def start (world : W) : Watched W := ⟨world, []⟩

variable [World W]

/-- Carries out an effect and notes it. -/
def effect (effect : Effect) (watched : Watched W) : Watched W :=
  ⟨effect.apply watched.world, watched.deeds ++ [.did effect]⟩

instance : World (Watched W) where
  performed watched := World.performed watched.world
  stored watched name := World.stored watched.world name
  store name value := effect (.wrote name value)
  act action := effect (.acted action)
  setShield on := effect (.shielded on)
  sense gauge index := fun watched =>
    match World.sense gauge index watched.world with
    | .ok value after => .ok value ⟨after, watched.deeds ++ [.sensed gauge index (some value)]⟩
    | .error fault after => .error fault ⟨after, watched.deeds ++ [.sensed gauge index none]⟩

end Watched

section Erasure

variable {W : Type} [World W]

/-- A watched world behaves like the world in it. -/
theorem watched_simulation :
    Simulation fun (watched : Watched W) (world : W) => watched.world = world where
  performed same := by rw [← same]; rfl
  stored same name := by rw [← same]; rfl
  store same name value := by rw [← same]; rfl
  setShield same on := by rw [← same]; rfl
  act same action := by rw [← same]; rfl
  sense := by
    rintro watched world rfl gauge index
    simp only [World.sense]
    cases World.sense gauge index watched.world with
    | ok value after => exact .ok value rfl
    | error fault after => exact .error fault rfl

/-- Watching a run changes nothing about it. -/
theorem execute_watched (program : Program) (world : W) :
    Agree (fun (watched : Watched W) (after : W) => watched.world = after)
      (execute program (Watched.start world)) (execute program world) :=
  watched_simulation.execute program rfl

/-- The world in which a run has come to its end. -/
def reached {α : Type} : EStateM.Result Fault W α → W
  | .ok _ world => world
  | .error _ world => world

/-- Everything that a program reads and does in one tick, in order. -/
def deeds (program : Program) (world : W) : List Deed :=
  (reached (execute program (Watched.start world))).deeds

/-- What a program has come to after some ticks. -/
structure Course (W : Type) where
  /-- Everything that the program has read and done, tick by tick. -/
  deeds : List (List Deed)
  /-- What is left of the program, or the fault in which it has ended. -/
  ending : EStateM.Result Fault W Program

/-- The course of a program over some ticks, up to the first fault. After each tick the world is
changed by `renew`, which frees the slot, shows other readings or does anything else. -/
def course (renew : Nat → W → W) : Nat → Program → W → Course W
  | 0, program, world => ⟨[], .ok program world⟩
  | ticks + 1, program, world =>
      match execute program world with
      | .error fault after => ⟨[deeds program world], .error fault after⟩
      | .ok rest after =>
          let later := course (fun tick => renew (tick + 1)) ticks rest (renew 0 after)
          ⟨deeds program world :: later.deeds, later.ending⟩

end Erasure

end FuelDuel.Execution
