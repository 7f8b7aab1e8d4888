import RecipeMatrix.Command.Run
import RecipeMatrix.Proofs.Files.Runs

/-!
# Quiet runs

A quiet run does what a loud one does and ends as it ends; it only keeps its report to itself.
What was asked for is no report: a listing, and findings in JSON, are printed in any case.

* Results.  `Outcome.hushed` is an outcome without its report, and `Command.answers` says which
  commands print an answer instead of one.
* Programs.  The program of a quiet command is that of the loud one, whose outcome is hushed after
  the last step (`Command.run_quiet`); so no question and no change can depend on it.
* Runs.  `Muffles` compares the two runs of an invocation, and `muffles_of_quiet` says that all
  invocations keep to it.
-/

namespace RecipeMatrix

/-! ## Results -/

/-- A command that prints what it was asked for, and not a report on what it did. -/
def Command.answers : Command → Bool
  | .list _ => true
  | .validate .json => true
  | .generate _ => false
  | .validate .text => false
  | .init _ => false

/-- An outcome without what was printed. -/
def Outcome.hushed (outcome : Outcome) : Outcome := ⟨"", outcome.result⟩

/-- The outcome of a command when little should be said. -/
def Command.hush (command : Command) (outcome : Outcome) : Outcome :=
  if command.answers then outcome else outcome.hushed

theorem Command.result_hush (command : Command) (outcome : Outcome) :
    (command.hush outcome).result = outcome.result := by
  unfold hush
  split <;> rfl

theorem Validation.outcome_quiet (validation : Validation) (format : Format) (colored : Bool) :
    validation.outcome format ⟨true, colored⟩ =
      (Command.validate format).hush (validation.outcome format ⟨false, colored⟩) := by
  unfold outcome
  cases format with
  | json => cases validation.failure <;> rfl
  | text => cases validation.failure <;> rfl

/-! ## Programs -/

section

variable (manifest : Option Path) (colored : Bool)

theorem GenerateOptions.run_quiet (options : GenerateOptions) :
    options.run manifest ⟨true, colored⟩ =
      Outcome.hushed <$> options.run manifest ⟨false, colored⟩ := by
  unfold run
  rw [map_bind]
  refine bind_congr fun result => ?_
  cases result <;> rfl

theorem InitOptions.run_quiet (options : InitOptions) :
    options.run ⟨true, colored⟩ = Outcome.hushed <$> options.run ⟨false, colored⟩ := by
  unfold run
  rw [map_bind]
  refine bind_congr fun result => ?_
  cases result <;> rfl

theorem Validation.run_quiet (format : Format) :
    run format manifest ⟨true, colored⟩ =
      (Command.validate format).hush <$> run format manifest ⟨false, colored⟩ := by
  unfold run
  rw [map_bind]
  refine bind_congr fun validation => ?_
  rw [map_pure, outcome_quiet]

/-- A quiet command is the loud one, hushed at its end. -/
theorem Command.run_quiet (command : Command) :
    command.run manifest ⟨true, colored⟩ =
      command.hush <$> command.run manifest ⟨false, colored⟩ := by
  cases command with
  | generate options => exact options.run_quiet manifest colored
  | list format => exact (id_map (Listing.run format manifest ⟨false, colored⟩)).symm
  | validate format => exact Validation.run_quiet manifest colored format
  | init options => exact options.run_quiet colored

end

/-! ## Runs -/

namespace Invocation

/-- The invocation with little to be said, or all. -/
def withQuiet (invocation : Invocation) (quiet : Bool) : Invocation :=
  { invocation with settings := { invocation.settings with quiet := quiet } }

/-- What comes of two runs of a command, a loud one and a quiet one. -/
structure Muffles (command : Command) (colored : Bool) (loud quiet : Outcome × Workspace) :
    Prop where
  workspace_eq : quiet.2 = loud.2
  result_eq : quiet.1.result = loud.1.result
  exitCode_eq : quiet.1.exitCode = loud.1.exitCode
  /-- What goes to the error output. -/
  complaint_eq : quiet.1.complaint colored = loud.1.complaint colored
  printed_list : ∀ format, command = .list format → quiet.1.printed = loud.1.printed
  printed_json : command = .validate .json → quiet.1.printed = loud.1.printed
  /-- All other commands print nothing. -/
  printed_other : (∀ format, command ≠ .list format) → command ≠ .validate .json →
    quiet.1.printed = ""

theorem muffles_hush (command : Command) (colored : Bool) (loud : Outcome × Workspace) :
    Muffles command colored loud (command.hush loud.1, loud.2) where
  workspace_eq := rfl
  result_eq := command.result_hush loud.1
  exitCode_eq := by unfold Outcome.exitCode; rw [command.result_hush]
  complaint_eq := by unfold Outcome.complaint; rw [command.result_hush]
  printed_list := by rintro format rfl; rfl
  printed_json := by rintro rfl; rfl
  printed_other := by
    intro hlist hjson
    cases command with
    | generate options => rfl
    | list format => exact absurd rfl (hlist format)
    | validate format =>
      cases format with
      | text => rfl
      | json => exact absurd rfl hjson
    | init options => rfl

/-- From every workspace an invocation passes through the same states and ends alike, quiet or
not.  Quiet it prints nothing but what was asked for. -/
theorem muffles_of_quiet (invocation : Invocation) (colors : Bool) (before : Workspace) :
    ((invocation.withQuiet true).run colors).states before =
        ((invocation.withQuiet false).run colors).states before ∧
      Muffles invocation.command (invocation.display colors).colored
        (((invocation.withQuiet false).run colors).run before)
        (((invocation.withQuiet true).run colors).run before) := by
  have hrun : (invocation.withQuiet true).run colors =
      invocation.command.hush <$> (invocation.withQuiet false).run colors :=
    invocation.command.run_quiet _ _
  rw [hrun, Program.states_map, Program.run_map]
  exact ⟨rfl, muffles_hush _ _ _⟩

end Invocation

end RecipeMatrix
