import RecipeMatrix.Command
import RecipeMatrix.Json
import RecipeMatrix.Manifest.Discovery
import RecipeMatrix.Terminal

/-!
# The command `list`

Shows a catalog, and for each of its cells the recipe that it gives.  Nothing is rendered, but
each entry agrees with the rendered recipe in its names, its image and its packages.
-/

namespace RecipeMatrix

/-- What a listing says about a recipe. -/
structure RecipeEntry where
  output : String
  platform : String
  compiler : String
  image : String
  dev : Packages
  runtime : Packages
  deriving DecidableEq, Repr

/-- The entry of a cell. -/
def RecipeEntry.ofCell (cell : Cell) : RecipeEntry where
  output := cell.outputName
  platform := cell.platform.name
  compiler := cell.compiler.name
  image := cell.platform.image
  dev := cell.effectiveDev
  runtime := cell.platform.runtime

/-- A catalog and where it comes from. -/
structure Listing where
  origin : String
  catalog : Catalog

namespace Listing

/-- The entries of all cells. -/
def recipes (listing : Listing) : List RecipeEntry := listing.catalog.cells.map RecipeEntry.ofCell

/-! ## JSON -/

/-- A platform in JSON. -/
def platformJson (platform : Platform) : Json :=
  .object [
    ("name", .text platform.name),
    ("image", .text platform.image),
    ("install_command", .text platform.install.source),
    ("dev_packages", .texts platform.dev),
    ("runtime_packages", .texts platform.runtime)]

/-- A compiler in JSON. -/
def compilerJson (compiler : Compiler) : Json :=
  .object [("name", .text compiler.name), ("package", .text compiler.package)]

/-- A recipe in JSON. -/
def recipeJson (entry : RecipeEntry) : Json :=
  .object [
    ("output", .text entry.output),
    ("platform", .text entry.platform),
    ("compiler", .text entry.compiler),
    ("image", .text entry.image),
    ("dev_packages", .texts entry.dev),
    ("runtime_packages", .texts entry.runtime)]

/-- The listing in JSON. -/
def json (listing : Listing) : Json :=
  .object [
    ("manifest", .text listing.origin),
    ("platforms", .array (listing.catalog.platforms.map platformJson)),
    ("compilers", .array (listing.catalog.compilers.map compilerJson)),
    ("recipes", .array (listing.recipes.map recipeJson))]

/-! ## Text -/

/-- The width of the column of names. -/
def nameWidth : Nat := 12

/-- The width of the column of output names. -/
def outputWidth : Nat := 28

/-- The line of a platform or a compiler. -/
def nameLine (colored : Bool) (name content : String) : String :=
  Terminal.line
    ("  " ++ Tint.cyan.paint colored (Terminal.column nameWidth name) ++ " " ++ content)

/-- The lines of a recipe. -/
def recipeLines (colored : Bool) (entry : RecipeEntry) : String :=
  Terminal.line ("  " ++ Terminal.column outputWidth entry.output ++ " " ++ entry.image) ++
    Terminal.line ("    " ++ Tint.dimmed.paint colored "dev:" ++ " " ++ entry.dev.joined) ++
    Terminal.line ("    " ++ Tint.dimmed.paint colored "runtime:" ++ " " ++ entry.runtime.joined)

/-- The listing as lines of text. -/
def lines (listing : Listing) (colored : Bool) : String :=
  Terminal.line (Tint.bold.paint colored "Platforms" ++ " (" ++ listing.origin ++ ")") ++
    String.join (listing.catalog.platforms.map fun platform =>
      nameLine colored platform.name platform.image) ++
    Terminal.line (Tint.bold.paint colored "Compilers") ++
    String.join (listing.catalog.compilers.map fun compiler =>
      nameLine colored compiler.name compiler.package) ++
    Terminal.line (Tint.bold.paint colored "Recipes") ++
    (if listing.recipes.isEmpty then
      Terminal.line ("  " ++ Tint.dimmed.paint colored "(none)")
    else "") ++
    String.join (listing.recipes.map (recipeLines colored))

/-! ## The command -/

/-- The listing of the manifest that is in use. -/
def find (manifest : Option Path) : Attempt Failure Listing := do
  let loaded ← LoadedManifest.find manifest
  let catalog ← Attempt.ofExcept (loaded.manifest.catalog.mapError Failure.ofError)
  pure ⟨loaded.origin, catalog⟩

/-- A listing in a format. -/
def printed (listing : Listing) (format : Format) (colored : Bool) : String :=
  match format with
  | .json => Terminal.line listing.json.pretty
  | .text => listing.lines colored

/-- The command.  A listing is printed even if little should be said. -/
def run (format : Format) (manifest : Option Path) (display : Display) : Program Outcome := do
  match ← (find manifest).run with
  | .error failure => pure (.failure failure)
  | .ok listing => pure (.success (listing.printed format display.colored))

end Listing

end RecipeMatrix
