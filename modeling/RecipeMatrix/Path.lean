/-!
# Paths

A path as it is written: steps separated by `/`, read without looking at any file.  Empty steps
and inner `.` steps lead nowhere, so a path has the paths to its steps as its outer paths, the
nearest first.  Nothing is ever normalised: `a/../b` stays as it is.

Joining with an absolute path gives that path, and the outermost path is `/` for an absolute path
and the empty path for a relative one.
-/

namespace RecipeMatrix

/-- The parts of a text between slashes. -/
def splitAtSlashes : List Char → List (List Char)
  | [] => [[]]
  | '/' :: rest => [] :: splitAtSlashes rest
  | c :: rest =>
      match splitAtSlashes rest with
      | [] => [[c]]
      | part :: parts => (c :: part) :: parts

/-- A path, as written. -/
structure Path where
  text : String
  deriving DecidableEq, Repr

namespace Path

/-- The characters of a path. -/
def chars (path : Path) : List Char := path.text.toList

/-- The parts of a path between its slashes, the empty ones included. -/
def parts (path : Path) : List (List Char) := splitAtSlashes path.chars

/-- A path that starts at the root directory. -/
def isAbsolute (path : Path) : Bool := path.chars.head? == some '/'

/-- A path without any text. -/
def isEmpty (path : Path) : Bool := path.text.isEmpty

/-- The path of `name` seen from the directory `base`; an absolute `name` stands for itself. -/
def join (base name : Path) : Path :=
  if name.isAbsolute then name
  else if base.isEmpty || base.chars.getLast? == some '/' then ⟨base.text ++ name.text⟩
  else ⟨base.text ++ "/" ++ name.text⟩

/-- A part that leads to no other directory. -/
def leadsNowhere (part : List Char) : Bool := part == [] || part == ['.']

/-- The paths before each step, outermost first.  `done` is the text up to the parts still to
read, `outer` the path to the last step before them. -/
def pathsBefore (done outer : List Char) : List (List Char) → List (List Char)
  | [] => []
  | part :: parts =>
      let here := done ++ part
      if leadsNowhere part then pathsBefore (here ++ ['/']) outer parts
      else outer :: pathsBefore (here ++ ['/']) here parts

/-- The proper outer paths of a path, nearest first. -/
def outerPaths (path : Path) : List Path :=
  let before :=
    match path.parts with
    | [] => []
    | [] :: parts => if path.isAbsolute then pathsBefore ['/'] ['/'] parts else []
    | ['.'] :: parts => [] :: pathsBefore ['.', '/'] ['.'] parts
    | parts => pathsBefore [] [] parts
  (before.map fun text => ⟨String.ofList text⟩).reverse

/-- The path itself and its outer paths, nearest first. -/
def ancestors (path : Path) : List Path := path :: path.outerPaths

/-- The path to the directory that holds the last step, if there is a step at all. -/
def parent? (path : Path) : Option Path := path.outerPaths.head?

/-- The parts that are steps: a leading `.` counts, other empty steps do not. -/
def steps (path : Path) : List (List Char) :=
  match path.parts with
  | ['.'] :: parts => ['.'] :: parts.filter fun part => !leadsNowhere part
  | parts => parts.filter fun part => !leadsNowhere part

/-- The last step, where it names an entry of a directory. -/
def fileName? (path : Path) : Option String :=
  match path.steps.getLast? with
  | none => none
  | some part => if part = ['.'] ∨ part = ['.', '.'] then none else some (String.ofList part)

/-- The path of `name` in the directory of the last step; where the last step names nothing,
below the path itself. -/
def withFileName (path : Path) (name : String) : Path :=
  match path.fileName? with
  | some _ => (path.parent?.getD ⟨""⟩).join ⟨name⟩
  | none => path.join ⟨name⟩

end Path

end RecipeMatrix
