import RecipeMatrix.Command
import RecipeMatrix.Generation
import RecipeMatrix.Json
import RecipeMatrix.Manifest.Discovery
import RecipeMatrix.Terminal

/-!
# The command `validate`

Goes through all that `generate` does short of touching the output directory, and says what it
found.  In JSON the findings are printed whether they are good or bad.
-/

namespace RecipeMatrix

/-- What a validation found, up to the point where it failed if it did. -/
structure Validation where
  origin : String
  platforms : Nat
  compilers : Nat
  recipes : Nat
  warnings : List String
  failure : Option Failure

namespace Validation

/-- A validation that came no further than to a failure. -/
def stopped (origin : String) (failure : Failure) : Validation :=
  ⟨origin, 0, 0, 0, [], some failure⟩

/-- Nothing was found wrong. -/
def isValid (validation : Validation) : Bool := validation.failure.isNone

/-- What was found wrong, as texts. -/
def errors (validation : Validation) : List String :=
  validation.failure.toList.map Failure.summary

/-- What is odd about a catalog. -/
def warningsOf (catalog : Catalog) : List String :=
  (if catalog.platforms.isEmpty then ["No platforms defined"] else []) ++
    (if catalog.compilers.isEmpty then ["No compilers defined"] else [])

/-- All recipes of a catalog. -/
def allRecipes (catalog : Catalog) : Except Error (List Recipe) := do
  let generator ← Generator.ofCatalog catalog
  generator.recipes .all

/-- The validation of a manifest that could be loaded. -/
def ofLoaded (loaded : LoadedManifest) : Validation :=
  match loaded.manifest.catalog with
  | .error error => stopped loaded.origin (.ofError error)
  | .ok catalog =>
      let found : Validation :=
        { origin := loaded.origin
          platforms := catalog.platforms.length
          compilers := catalog.compilers.length
          recipes := 0
          warnings := warningsOf catalog
          failure := none }
      match allRecipes catalog with
      | .error error => { found with failure := some (.ofError error) }
      | .ok recipes => { found with recipes := recipes.length }

/-- The validation of the manifest that is in use. -/
def find (manifest : Option Path) : Program Validation := do
  match ← (LoadedManifest.find manifest).run with
  | .error failure => pure (stopped "" failure)
  | .ok loaded => pure (ofLoaded loaded)

/-- The validation in JSON. -/
def json (validation : Validation) : Json :=
  .object [
    ("valid", .boolean validation.isValid),
    ("manifest", .text validation.origin),
    ("platforms", .number validation.platforms),
    ("compilers", .number validation.compilers),
    ("recipes", .number validation.recipes),
    ("errors", .texts validation.errors),
    ("warnings", .texts validation.warnings)]

/-- A good validation as lines of text. -/
def lines (validation : Validation) (colored : Bool) : String :=
  Terminal.line (Tint.green.paint colored "✓" ++ " Valid " ++ validation.origin) ++
    Terminal.line ("  " ++ toString validation.platforms ++ " platform(s) × " ++
      toString validation.compilers ++ " compiler(s) = " ++
      toString validation.recipes ++ " recipe(s)") ++
    String.join (validation.warnings.map fun warning =>
      Terminal.line (Tint.yellow.paint colored "⚠" ++ " Warning: " ++ warning))

/-- What a validation comes to as the outcome of a command.  Findings in JSON are printed even if
little should be said. -/
def outcome (validation : Validation) (format : Format) (display : Display) : Outcome :=
  match format, validation.failure with
  | .json, none => .success (Terminal.line validation.json.pretty)
  | .json, some _ =>
      ⟨Terminal.line validation.json.pretty, .error (.ofMessage "Validation failed")⟩
  | .text, none => .success (if display.quiet then "" else validation.lines display.colored)
  | .text, some failure => .failure failure

/-- The command. -/
def run (format : Format) (manifest : Option Path) (display : Display) : Program Outcome := do
  let validation ← find manifest
  pure (validation.outcome format display)

end Validation

end RecipeMatrix
