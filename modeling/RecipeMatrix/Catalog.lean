import RecipeMatrix.Catalog.Platform

/-!
# Catalogs

The platforms and the compilers of a project, in the order in which they were declared.  Every
pair of a platform and a compiler is a cell; the cells are taken platform by platform, and each
one is written to a file of its own.

A catalog is built from checked entries after the checks that need more than one of them:
names are not repeated, no platform installs a compiler at run time, and no two cells share an
output name.
-/

namespace RecipeMatrix

/-- A platform paired with a compiler. -/
structure Cell where
  platform : Platform
  compiler : Compiler
  deriving DecidableEq, Repr

namespace Cell

/-- What every output name starts with. -/
def outputStem : String := "Dockerfile."

/-- The name of the file that the recipe of a cell is written to. -/
def outputName (cell : Cell) : String :=
  outputStem ++ cell.platform.name ++ "-" ++ cell.compiler.name

/-- The cell as messages name it. -/
def label (cell : Cell) : String := cell.platform.name ++ "/" ++ cell.compiler.name

/-- The packages of the build stage. -/
def effectiveDev (cell : Cell) : Packages := cell.platform.effectiveDev cell.compiler.package

end Cell

/-- The platforms and compilers of a project. -/
structure Catalog where
  platforms : List Platform
  compilers : List Compiler
  deriving DecidableEq, Repr

namespace Catalog

/-- All pairs of a platform and a compiler, platform by platform. -/
def cellsOf (platforms : List Platform) (compilers : List Compiler) : List Cell :=
  platforms.flatMap fun platform => compilers.map fun compiler => ⟨platform, compiler⟩

/-- The cells of a catalog. -/
def cells (catalog : Catalog) : List Cell := cellsOf catalog.platforms catalog.compilers

/-- The number of recipes that the whole catalog gives. -/
def cellCount (catalog : Catalog) : Nat := catalog.platforms.length * catalog.compilers.length

/-- A catalog that gives no recipe. -/
def isEmpty (catalog : Catalog) : Bool := catalog.cellCount == 0

/-- The platform of a name. -/
def platform? (catalog : Catalog) (name : String) : Option Platform :=
  catalog.platforms.find? fun platform => platform.name == name

/-- The compiler of a name. -/
def compiler? (catalog : Catalog) (name : String) : Option Compiler :=
  catalog.compilers.find? fun compiler => compiler.name == name

/-- The first name in a list that stands in it, or among `seen`, already. -/
def firstRepeated (seen : List String) : List String → Option String
  | [] => none
  | name :: names => if seen.contains name then some name else firstRepeated (name :: seen) names

/-- The first cell whose output name an earlier cell has, after that earlier cell. -/
def firstCollision (seen : List Cell) : List Cell → Option (Cell × Cell)
  | [] => none
  | cell :: cells =>
      match seen.find? fun earlier => earlier.outputName == cell.outputName with
      | some earlier => some (earlier, cell)
      | none => firstCollision (cell :: seen) cells

/-- Checks that no platform name is repeated. -/
def checkPlatformNames (platforms : List Platform) : Except Error Unit :=
  match firstRepeated [] (platforms.map (·.name)) with
  | none => .ok ()
  | some name => .error (.duplicatePlatform name)

/-- Checks that no compiler name is repeated. -/
def checkCompilerNames (compilers : List Compiler) : Except Error Unit :=
  match firstRepeated [] (compilers.map (·.name)) with
  | none => .ok ()
  | some name => .error (.duplicateCompiler name)

/-- Checks that no platform of a cell installs its compiler at run time. -/
def checkRuntime (cells : List Cell) : Except Error Unit :=
  match cells.find? fun cell => cell.platform.runtime.contains cell.compiler.package with
  | none => .ok ()
  | some cell => .error (.compilerInRuntime cell.platform.name cell.compiler.package)

/-- Checks that no two cells are written to one file. -/
def checkOutputs (cells : List Cell) : Except Error Unit :=
  match firstCollision [] cells with
  | none => .ok ()
  | some (first, second) =>
      .error (.outputCollision second.outputName first.label second.label)

/-- The catalog of checked platforms and compilers, if they go together. -/
def build (platforms : List Platform) (compilers : List Compiler) : Except Error Catalog := do
  checkPlatformNames platforms
  checkCompilerNames compilers
  checkRuntime (cellsOf platforms compilers)
  checkOutputs (cellsOf platforms compilers)
  .ok ⟨platforms, compilers⟩

/-- The catalog of entries as written: all platforms are checked first, then all compilers. -/
def ofEntries (platforms : List PlatformEntry) (compilers : List CompilerEntry) :
    Except Error Catalog := do
  let platforms ← platforms.mapM PlatformEntry.check
  let compilers ← compilers.mapM CompilerEntry.check
  build platforms compilers

end Catalog

end RecipeMatrix
