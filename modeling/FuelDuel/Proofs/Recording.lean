import FuelDuel.Proofs.Simulation
import FuelDuel.Proofs.SteadyWorld

/-!
Recorded runs. A recorded world is a world beside the list of everything that a program has done to
it, in order. Recording changes nothing: a program runs on a recorded world just as it does on the
world itself (`execute_recorded`), so `effects` are the effects of the plain run.
-/

namespace FuelDuel.Execution

open FuelDuel.Language

/-- The world after some effects, the first of them first. -/
def replay {W : Type} [World W] (effects : List Effect) (world : W) : W :=
  effects.foldl (fun reached effect => effect.apply reached) world

/-- A world and the effects that a program has had on it. -/
structure Recorded (W : Type) where
  world : W
  effects : List Effect

namespace Recorded

variable {W : Type}

/-- A world on which nothing has been done yet. -/
def start (world : W) : Recorded W := ⟨world, []⟩

variable [World W]

/-- Carries out effects and records them. -/
def extend (recorded : Recorded W) (effects : List Effect) : Recorded W :=
  ⟨replay effects recorded.world, recorded.effects ++ effects⟩

@[simp] theorem extend_nil (recorded : Recorded W) : recorded.extend [] = recorded := by
  simp [extend, replay]

@[simp] theorem extend_extend (recorded : Recorded W) (first second : List Effect) :
    (recorded.extend first).extend second = recorded.extend (first ++ second) := by
  simp [extend, replay]

instance : World (Recorded W) where
  performed recorded := World.performed recorded.world
  stored recorded name := World.stored recorded.world name
  store name value recorded := recorded.extend [.wrote name value]
  act action recorded := recorded.extend [.acted action]
  setShield on recorded := recorded.extend [.shielded on]
  sense gauge index := fun recorded =>
    match World.sense gauge index recorded.world with
    | .ok value after => .ok value { recorded with world := after }
    | .error fault after => .error fault { recorded with world := after }

@[simp] theorem apply_eq_extend (effect : Effect) (recorded : Recorded W) :
    effect.apply recorded = recorded.extend [effect] := by
  cases effect <;> rfl

end Recorded

instance {W : Type} [SteadyWorld W] : SteadyWorld (Recorded W) where
  readings recorded := SteadyWorld.readings recorded.world
  sense_eq gauge index recorded := by
    simp [World.sense, SteadyWorld.sense_eq]
  performed_store name value recorded :=
    SteadyWorld.performed_store name value recorded.world
  performed_setShield on recorded := SteadyWorld.performed_setShield on recorded.world
  performed_act action recorded := SteadyWorld.performed_act action recorded.world

section Erasure

variable {W : Type} [World W]

/-- A recorded world behaves like the world in it. -/
theorem recorded_simulation :
    Simulation fun (recorded : Recorded W) (world : W) => recorded.world = world where
  performed same := by rw [← same]; rfl
  stored same name := by rw [← same]; rfl
  store same name value := by rw [← same]; rfl
  setShield same on := by rw [← same]; rfl
  act same action := by rw [← same]; rfl
  sense := by
    rintro recorded world rfl gauge index
    simp only [World.sense]
    cases World.sense gauge index recorded.world with
    | ok value after => exact .ok value rfl
    | error fault after => exact .error fault rfl

/-- Recording a run changes nothing about it. -/
theorem execute_recorded (program : Program) (world : W) :
    Agree (fun (recorded : Recorded W) (after : W) => recorded.world = after)
      (execute program (Recorded.start world)) (execute program world) :=
  recorded_simulation.execute program rfl

/-- Everything that a program does to a world in one tick, in order. -/
def effects (program : Program) (world : W) : List Effect :=
  match execute program (Recorded.start world) with
  | .ok _ after => after.effects
  | .error _ after => after.effects

theorem of_recorded_ok {program rest : Program} {world : W} {after : Recorded W}
    (ran : execute program (Recorded.start world) = .ok rest after) :
    execute program world = .ok rest after.world ∧ effects program world = after.effects := by
  have same := execute_recorded program world
  rw [ran] at same
  generalize execute program world = result at same
  cases same with
  | ok value equal => exact ⟨by rw [equal], by simp [effects, ran]⟩

theorem of_recorded_error {program : Program} {fault : Fault} {world : W} {after : Recorded W}
    (ran : execute program (Recorded.start world) = .error fault after) :
    execute program world = .error fault after.world ∧ effects program world = after.effects := by
  have same := execute_recorded program world
  rw [ran] at same
  generalize execute program world = result at same
  cases same with
  | error fault equal => exact ⟨by rw [equal], by simp [effects, ran]⟩

/-- A plain run that gives a result is one of a recorded run. -/
theorem to_recorded_ok {program rest : Program} {world after : W}
    (ran : execute program world = .ok rest after) :
    ∃ recorded, execute program (Recorded.start world) = .ok rest recorded ∧
      recorded.world = after ∧ effects program world = recorded.effects := by
  cases computed : execute program (Recorded.start world) with
  | ok left recorded =>
      obtain ⟨plain, seen⟩ := of_recorded_ok computed
      rw [ran] at plain
      cases plain
      exact ⟨recorded, rfl, rfl, seen⟩
  | error fault recorded =>
      obtain ⟨plain, seen⟩ := of_recorded_error computed
      rw [ran] at plain
      cases plain

end Erasure

end FuelDuel.Execution
