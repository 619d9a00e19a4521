/-!
Stores of program variables: finite maps from names to 32-bit values. The law of a store is
`get?_set`: a written variable has its last value and all others keep theirs.
-/

namespace FuelDuel.World

/-- The variables that have been written, each with its last value. -/
structure Vars where
  entries : List (String × Int32)
  deriving DecidableEq, Repr

namespace Vars

/-- No variable has been written. -/
def empty : Vars := ⟨[]⟩

/-- The value of a variable that has been written. -/
def get? (vars : Vars) (name : String) : Option Int32 := vars.entries.lookup name

/-- Replaces the entry of `name`, or adds one at the end. -/
def setEntry (name : String) (value : Int32) : List (String × Int32) → List (String × Int32)
  | [] => [(name, value)]
  | entry :: rest =>
      if name == entry.1 then (name, value) :: rest else entry :: setEntry name value rest

/-- Writes a variable. -/
def set (vars : Vars) (name : String) (value : Int32) : Vars :=
  ⟨setEntry name value vars.entries⟩

theorem lookup_setEntry (name other : String) (value : Int32) (entries : List (String × Int32)) :
    (setEntry name value entries).lookup other =
      if other = name then some value else entries.lookup other := by
  induction entries with
  | nil =>
      by_cases h : other = name
      · simp [setEntry, h]
      · simp [setEntry, List.lookup_cons, h, beq_false_of_ne h]
  | cons entry rest ih =>
      obtain ⟨key, old⟩ := entry
      by_cases hkey : name = key
      · subst hkey
        by_cases h : other = name
        · simp [setEntry, h]
        · simp [setEntry, List.lookup_cons, h, beq_false_of_ne h]
      · by_cases h : other = key
        · simp [setEntry, h, hkey, Ne.symm hkey]
        · simp [setEntry, List.lookup_cons, hkey, beq_false_of_ne h, ih]

/-- A written variable has the value written, and every other variable keeps its value. -/
@[simp] theorem get?_set (vars : Vars) (name other : String) (value : Int32) :
    (vars.set name value).get? other = if other = name then some value else vars.get? other :=
  lookup_setEntry name other value vars.entries

end Vars

end FuelDuel.World
