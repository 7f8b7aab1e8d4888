import RecipeMatrix.Error.Failure
import RecipeMatrix.Files.Program

/-!
# Programs that may fail

A program on files that stops at the first error.  What it changed before stays changed, so its
run gives an outcome together with the workspace that it leaves (`run_bind`).
-/

namespace RecipeMatrix

/-- A program on files that ends in a value or in an error. -/
abbrev Attempt (ε α : Type) := ExceptT ε Program α

namespace Attempt

variable {ε α β : Type}

/-- The outcome of an attempt and the workspace it leaves. -/
def outcome (attempt : Attempt ε α) (workspace : Workspace) : Except ε α × Workspace :=
  Program.run (ExceptT.run attempt) workspace

/-- Every workspace that an attempt passes through. -/
def states (attempt : Attempt ε α) (workspace : Workspace) : List Workspace :=
  Program.states (ExceptT.run attempt) workspace

/-- A program that cannot fail. -/
def always (program : Program α) : Attempt ε α := ExceptT.lift program

/-- The attempt of a value that is already there, or of an error. -/
def ofExcept (result : Except ε α) : Attempt ε α := ExceptT.mk (pure result)

/-- An attempt whose error is told in other terms. -/
def mapError {δ : Type} (convert : ε → δ) (attempt : Attempt ε α) : Attempt δ α :=
  ExceptT.mk do
    match ← attempt.run with
    | .ok result => pure (.ok result)
    | .error error => pure (.error (convert error))

/-- A program whose refusal is the failure of doing something. -/
def during (context : String) (program : Program (Except SystemError α)) : Attempt Failure α :=
  mapError (Failure.ofSystem context) (ExceptT.mk program)

@[simp]
theorem outcome_pure (result : α) (workspace : Workspace) :
    outcome (pure result : Attempt ε α) workspace = (.ok result, workspace) := rfl

@[simp]
theorem outcome_throw (error : ε) (workspace : Workspace) :
    outcome (throw error : Attempt ε α) workspace = (.error error, workspace) := rfl

@[simp]
theorem outcome_ofExcept (result : Except ε α) (workspace : Workspace) :
    outcome (ofExcept result) workspace = (result, workspace) := rfl

@[simp]
theorem outcome_always (program : Program α) (workspace : Workspace) :
    outcome (always program : Attempt ε α) workspace =
      (.ok (program.run workspace).1, (program.run workspace).2) := by
  simp [outcome, always, ExceptT.lift, ExceptT.mk, ExceptT.run]

theorem outcome_bind (attempt : Attempt ε α) (after : α → Attempt ε β) (workspace : Workspace) :
    outcome (attempt >>= after) workspace =
      match outcome attempt workspace with
      | (.ok result, reached) => outcome (after result) reached
      | (.error error, reached) => (.error error, reached) := by
  simp only [outcome, ExceptT.run_bind, Program.run_bind]
  rcases (Program.run (ExceptT.run attempt) workspace) with ⟨_ | _, _⟩ <;> rfl

end Attempt

end RecipeMatrix
