import RecipeMatrix.Catalog.Selection
import RecipeMatrix.Template.Scan

/-!
# Recipes

The container build recipe of one cell: a template filled in with the base image of the platform
and its two install commands.  A recipe always ends with a line break.
-/

namespace RecipeMatrix

/-- A recipe and where it goes. -/
structure Recipe where
  platform : String
  compiler : String
  dev : Packages
  outputName : String
  text : String
  deriving DecidableEq, Repr

namespace Recipe

/-- The name that every recipe gives as its maker. -/
def generatorName : String := "dockgen"

/-- The program that the recipes build and start. -/
def entrypoint : String := "asset-server"

/-- The tag of a name, as the built-in template writes it. -/
def tagOf (name : String) : String := "\x7b\x7b " ++ name ++ " \x7d\x7d"

/-- The built-in template: a build stage, and a run-time stage that takes the program from it. -/
def builtinTemplate : String :=
  "### Do not modify manually, generated by " ++ generatorName ++ " ###\n" ++
  "FROM " ++ tagOf "image" ++ " AS builder\n\n" ++
  "RUN " ++ tagOf "install_dev" ++ "\n\n" ++
  "WORKDIR /app\n" ++
  "COPY CMakeLists.txt .\n" ++
  "COPY src src\n\n" ++
  "WORKDIR /app/build\n" ++
  "RUN cmake -DCMAKE_BUILD_TYPE=Release .. && make -j\n\n" ++
  "FROM " ++ tagOf "image" ++ "\n\n" ++
  "RUN " ++ tagOf "install_runtime" ++ "\n\n\n" ++
  "WORKDIR /app\n" ++
  "COPY --from=builder /app/build/" ++ entrypoint ++ " .\n\n" ++
  "ENTRYPOINT [ \"./" ++ entrypoint ++ "\" ]\n"

/-- The template of a text. -/
def template (source : String) : Except Error Template :=
  match Template.read? source with
  | some template => .ok template
  | none => .error (.templateMalformed "a tag, a comment or a block is not well formed")

/-- The text of a renderer for some values; the two names only label an error. -/
def fill (renderer : Renderer) (values : RecipeValues) (platform compiler : String) :
    Except Error String :=
  match renderer.render values with
  | .ok text => .ok text
  | .error reason => .error (.renderFailed platform compiler reason)

/-- The values that a cell gives to a renderer. -/
def values (cell : Cell) : RecipeValues where
  image := cell.platform.image
  installDev := cell.platform.installDev cell.compiler.package
  installRuntime := cell.platform.installRuntime

/-- A text that ends with a line break. -/
def ended (text : String) : String :=
  if text.toList.getLast? = some '\n' then text else text ++ "\n"

/-- The recipe of a cell. -/
def ofCell (renderer : Renderer) (cell : Cell) : Except Error Recipe := do
  let text ← fill renderer (values cell) cell.platform.name cell.compiler.name
  .ok
    { platform := cell.platform.name
      compiler := cell.compiler.name
      dev := cell.effectiveDev
      outputName := cell.outputName
      text := ended text }

/-- The recipes of the selected cells, in the order of the catalog. -/
def ofSelection (renderer : Renderer) (catalog : Catalog) (selection : Selection) :
    Except Error (List Recipe) := do
  let cells ← selection.cells catalog
  cells.mapM (ofCell renderer)

end Recipe

end RecipeMatrix
