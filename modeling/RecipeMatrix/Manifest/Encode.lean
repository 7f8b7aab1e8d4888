import RecipeMatrix.Manifest
import RecipeMatrix.Toml.Layout

/-!
# Writing manifests

The TOML document of a manifest.  Empty lists have to stand before the first header, where they
still belong to the document itself; then come the generator settings, the platforms and the
compilers, each under a header of its own.
-/

namespace RecipeMatrix.Manifest

open Toml (Line)

/-- The line of a text. -/
def textLine (key content : String) : Line := .field key (.text content)

/-- The lines of the generator settings. -/
def generatorLines (settings : GeneratorSettings) : Except Error (List Line) :=
  match settings.outputDirectory with
  | none => .ok [.table "generator"]
  | some (.text path) => .ok [.table "generator", textLine "output-dir" path.text]
  | some (.bytes _) => .error (.notSerializable "path contains invalid UTF-8 characters")

/-- The lines of a platform. -/
def platformLines (entry : PlatformEntry) : List Line :=
  [.element "platforms",
    textLine "name" entry.name,
    textLine "image" entry.image,
    textLine "install-command" entry.install,
    .field "dev-deps" (.texts entry.dev),
    .field "runtime-deps" (.texts entry.runtime)]

/-- The lines of a compiler. -/
def compilerLines (entry : CompilerEntry) : List Line :=
  [.element "compilers", textLine "name" entry.name, textLine "package" entry.package]

/-- The line that says that a list is empty, if it is. -/
def emptyLine (key : String) (isEmpty : Bool) : List Line :=
  if isEmpty then [.field key (.texts [])] else []

/-- The lines of a manifest. -/
def lines (manifest : Manifest) : Except Error (List Line) := do
  let settings ←
    match manifest.generator with
    | none => .ok []
    | some settings => generatorLines settings
  .ok (emptyLine "platforms" manifest.platforms.isEmpty ++
    emptyLine "compilers" manifest.compilers.isEmpty ++
    settings ++
    manifest.platforms.flatMap platformLines ++
    manifest.compilers.flatMap compilerLines)

/-- The document of a manifest. -/
def render (manifest : Manifest) : Except Error String := do
  let lines ← manifest.lines
  .ok (Line.renderAll lines)

/-- What a new manifest says about itself. -/
def introduction : String :=
  "# dockgen manifest\n" ++
  "# Every [[platforms]] entry is combined with every [[compilers]] entry and\n" ++
  "# written to Dockerfile.<platform>-<compiler>. Each install-command must contain\n" ++
  "# \x7bdeps\x7d exactly once.\n\n"

/-- The document of a new manifest: the built-in one under an introduction. -/
def initialDocument : Except Error String := do
  let document ← builtin.render
  .ok (introduction ++ document)

end RecipeMatrix.Manifest
