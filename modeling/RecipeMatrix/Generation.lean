import RecipeMatrix.Files.Replacement
import RecipeMatrix.Recipe

/-!
# Generation

Bringing the recipes of a selection to an output directory.  All selected recipes are rendered
before a file is touched, so one that cannot be rendered leaves everything as it was.  Then every
recipe is compared with the file under its name and written where they differ; a recipe that
cannot be written is noted in the report and does not stop the others.
-/

namespace RecipeMatrix

/-- How a recipe compares with the file under its name. -/
inductive Status
  /-- There is no such file. -/
  | created
  /-- The file holds something else. -/
  | updated
  /-- The file holds exactly the recipe. -/
  | unchanged
  deriving DecidableEq, Repr

namespace Status

/-- The word for a status. -/
def word : Status → String
  | created => "created"
  | updated => "updated"
  | unchanged => "unchanged"

/-- The file has to be written. -/
def isStale (status : Status) : Bool := status != unchanged

end Status

/-! ## Reports -/

/-- A recipe that is on disk, or would be after a run that was not dry. -/
structure Artifact where
  platform : String
  compiler : String
  path : Path
  status : Status
  deriving DecidableEq, Repr

/-- A recipe that could not be written. -/
structure WriteFailure where
  platform : String
  compiler : String
  path : Path
  reason : String
  deriving DecidableEq, Repr

/-- The failure as an error. -/
def WriteFailure.error (failure : WriteFailure) : Error :=
  .writeFailed failure.platform failure.compiler failure.path.text failure.reason

/-- What became of the recipes of a run. -/
structure Report where
  artifacts : List Artifact
  failures : List WriteFailure
  dryRun : Bool
  deriving DecidableEq, Repr

namespace Report

/-- The number of recipes in a report. -/
def total (report : Report) : Nat := report.artifacts.length + report.failures.length

/-- The number of artifacts of one status. -/
def count (report : Report) (status : Status) : Nat :=
  report.artifacts.countP fun artifact => artifact.status == status

/-- No recipe failed. -/
def isSuccess (report : Report) : Bool := report.failures.isEmpty

/-- The error of a report in which recipes failed. -/
def ensureSuccess (report : Report) : Except Error Unit :=
  if report.isSuccess then .ok ()
  else
    .error (.generationFailed report.failures.length report.total
      (report.failures.map fun failure => failure.error.message))

/-- The report of the single outcomes of a run, in their order. -/
def ofOutcomes (dryRun : Bool) (outcomes : List (Except WriteFailure Artifact)) : Report where
  artifacts := outcomes.filterMap Except.toOption
  failures := outcomes.filterMap fun outcome =>
    match outcome with
    | .ok _ => none
    | .error failure => some failure
  dryRun := dryRun

end Report

/-! ## Plans -/

/-- A recipe, where it goes, and how it compares with what is there. -/
structure Planned where
  recipe : Recipe
  path : Path
  status : Status
  deriving DecidableEq, Repr

namespace Planned

/-- How a recipe compares with the file at a path.  A file that cannot be read is replaced. -/
def compare (recipe : Recipe) (path : Path) : Program Status := do
  match ← (Files.content? path).run with
  | .ok none => pure .created
  | .ok (some content) =>
      pure (if content.data = recipe.text.toUTF8.data then .unchanged else .updated)
  | .error _ => pure .updated

/-- The plan of one recipe. -/
def ofRecipe (output : Path) (recipe : Recipe) : Program Planned := do
  let path := output.join ⟨recipe.outputName⟩
  let status ← compare recipe path
  pure ⟨recipe, path, status⟩

/-- The artifact of a plan that was carried out. -/
def artifact (planned : Planned) : Artifact :=
  ⟨planned.recipe.platform, planned.recipe.compiler, planned.path, planned.status⟩

/-- The failure of a plan that could not be carried out. -/
def failed (planned : Planned) (failure : Failure) : WriteFailure :=
  ⟨planned.recipe.platform, planned.recipe.compiler, planned.path, failure.summary⟩

/-- Carries out the plan of one recipe: writes it if that changes its file and is wanted. -/
def carryOut (dryRun : Bool) (planned : Planned) : Program (Except WriteFailure Artifact) := do
  if planned.status.isStale && !dryRun then
    match ← (Files.replaceContent planned.path planned.recipe.text.toUTF8).run with
    | .ok () => pure (.ok planned.artifact)
    | .error failure => pure (.error (planned.failed failure))
  else pure (.ok planned.artifact)

/-- What a check says about a recipe that is not as it should be. -/
def complaint (planned : Planned) : String :=
  let state := if planned.status = .created then "missing" else "stale"
  planned.path.text ++ " (" ++ state ++ ")"

end Planned

/-! ## Generators -/

/-- A catalog and what makes its recipes. -/
structure Generator where
  catalog : Catalog
  renderer : Renderer

namespace Generator

/-- The generator with a template of its own. -/
def withTemplate (catalog : Catalog) (source : String) : Except Error Generator := do
  let template ← Recipe.template source
  .ok ⟨catalog, template.renderer⟩

/-- The generator with the built-in template. -/
def ofCatalog (catalog : Catalog) : Except Error Generator :=
  withTemplate catalog Recipe.builtinTemplate

/-- The recipes of a selection. -/
def recipes (generator : Generator) (selection : Selection) : Except Error (List Recipe) :=
  Recipe.ofSelection generator.renderer generator.catalog selection

/-- The plan of a selection: its recipes, compared with an output directory. -/
def plan (generator : Generator) (selection : Selection) (output : Path) :
    Attempt Error (List Planned) := do
  let recipes ← Attempt.ofExcept (generator.recipes selection)
  Attempt.always (recipes.mapM (Planned.ofRecipe output))

/-- Brings a selection to an output directory; a dry run only says what it would do. -/
def generate (generator : Generator) (selection : Selection) (output : Path) (dryRun : Bool) :
    Attempt Error Report := do
  let planned ← generator.plan selection output
  let outcomes ← Attempt.always (planned.mapM (Planned.carryOut dryRun))
  pure (Report.ofOutcomes dryRun outcomes)

/-- Checks that an output directory holds a selection. -/
def check (generator : Generator) (selection : Selection) (output : Path) :
    Attempt Error Unit := do
  let planned ← generator.plan selection output
  let stale := planned.filter fun planned => planned.status.isStale
  if stale.isEmpty then pure () else throw (.outOfDate (stale.map Planned.complaint))

end Generator

end RecipeMatrix
