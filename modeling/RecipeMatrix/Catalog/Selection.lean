import RecipeMatrix.Catalog
import RecipeMatrix.Text

/-!
# Selections

The part of a catalog that is asked for, by names of platforms and of compilers.  A side without
names selects everything on that side.  Whatever the order of the names, the selected cells come
in the order of the catalog; a name that the catalog does not have is an error that offers the
names closest to it.
-/

namespace RecipeMatrix

/-- The names that are asked for on each side. -/
structure Selection where
  platforms : List String
  compilers : List String
  deriving DecidableEq, Repr

namespace Selection

/-- The selection of the whole catalog. -/
def all : Selection := ⟨[], []⟩

/-- A selection without any name. -/
def isAll (selection : Selection) : Bool :=
  selection.platforms.isEmpty && selection.compilers.isEmpty

/-- The most names that are offered for an unknown one. -/
def maxSuggestions : Nat := 3

/-- How far a name may be from the one that was typed: half its bytes, but at least one edit. -/
def tolerance (typed : String) : Nat := max 1 (typed.utf8ByteSize / 2)

/-- The edit distance between two names. -/
def distance (typed name : String) : Nat := Text.editDistance typed.toList name.toList

/-- The known names close to a typed one, closest first and otherwise in their order. -/
def suggestions (typed : String) (known : List String) : List String :=
  let scored := known.map fun name => (name, distance typed name)
  let sorted := scored.mergeSort fun first second => first.2 ≤ second.2
  ((sorted.filter fun item => item.2 ≤ tolerance typed).take maxSuggestions).map (·.1)

/-- A name passes a filter that is empty or lists it. -/
def admits (filter : List String) (name : String) : Bool :=
  filter.isEmpty || filter.contains name

/-- Checks that every platform name is in the catalog. -/
def checkPlatforms (catalog : Catalog) (names : List String) : Except Error Unit :=
  match names.find? fun name => (catalog.platform? name).isNone with
  | none => .ok ()
  | some name =>
      .error (.unknownPlatform name (suggestions name (catalog.platforms.map (·.name))))

/-- Checks that every compiler name is in the catalog. -/
def checkCompilers (catalog : Catalog) (names : List String) : Except Error Unit :=
  match names.find? fun name => (catalog.compiler? name).isNone with
  | none => .ok ()
  | some name =>
      .error (.unknownCompiler name (suggestions name (catalog.compilers.map (·.name))))

/-- The selected cells of a catalog. -/
def cells (selection : Selection) (catalog : Catalog) : Except Error (List Cell) := do
  checkPlatforms catalog selection.platforms
  checkCompilers catalog selection.compilers
  .ok (Catalog.cellsOf
    (catalog.platforms.filter fun platform => admits selection.platforms platform.name)
    (catalog.compilers.filter fun compiler => admits selection.compilers compiler.name))

end Selection

end RecipeMatrix
