import RecipeMatrix.Catalog.Selection
import RecipeMatrix.Error.Failure
import RecipeMatrix.Path

/-!
# Commands

What can be asked of the program, with the options of each command, and the settings that hold
for all of them.
-/

namespace RecipeMatrix

/-- The form of a listing or a validation. -/
inductive Format
  | text
  | json
  deriving DecidableEq, Repr

/-- What to generate, and how. -/
structure GenerateOptions where
  output : Option Path
  selection : Selection
  dryRun : Bool
  check : Bool
  deriving DecidableEq, Repr

/-- Generates everything to the directory that the manifest names. -/
def GenerateOptions.standard : GenerateOptions := ⟨none, .all, false, false⟩

/-- Where to write a new manifest, and whether it may replace one. -/
structure InitOptions where
  directory : Option Path
  force : Bool
  deriving DecidableEq, Repr

/-- The commands. -/
inductive Command
  /-- Write the recipes, or check them. -/
  | generate (options : GenerateOptions)
  /-- Show the catalog and what it gives. -/
  | list (format : Format)
  /-- Check the manifest and render every recipe without writing. -/
  | validate (format : Format)
  /-- Write a manifest to start from. -/
  | init (options : InitOptions)
  deriving DecidableEq, Repr

/-- How much is told about a run. -/
inductive LogLevel
  | error
  | warn
  | debug
  deriving DecidableEq, Repr

/-- The settings that hold for all commands. -/
structure Settings where
  verbose : Bool
  quiet : Bool
  manifest : Option Path
  noColor : Bool
  deriving DecidableEq, Repr

/-- The level of the log. -/
def Settings.logLevel (settings : Settings) : LogLevel :=
  if settings.verbose then .debug else if settings.quiet then .error else .warn

/-- A command with the settings it is run under. -/
structure Invocation where
  command : Command
  settings : Settings
  deriving DecidableEq, Repr

/-- How a command shows what it has to say. -/
structure Display where
  quiet : Bool
  colored : Bool
  deriving DecidableEq, Repr

/-- What a command printed, and whether it failed after that. -/
structure Outcome where
  printed : String
  result : Except Failure Unit

namespace Outcome

/-- A success that printed something. -/
def success (printed : String) : Outcome := ⟨printed, .ok ()⟩

/-- A failure before anything was printed. -/
def failure (failure : Failure) : Outcome := ⟨"", .error failure⟩

end Outcome

end RecipeMatrix
