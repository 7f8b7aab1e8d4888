import RecipeMatrix.Error

/-!
# Install commands

How a package manager is called: a command with one placeholder for the packages.  It is kept as
the texts before and after the placeholder, so that filling it in is plain concatenation and a
package that spells the placeholder is never replaced again.

`parse` accepts a command exactly when cutting it at the placeholder leaves two pieces, and
`source` puts an accepted command together again.
-/

namespace RecipeMatrix

/-- The packages of one installation, in order. -/
abbrev Packages := List String

/-- The packages as they stand in a command. -/
def Packages.joined (packages : Packages) : String := " ".intercalate packages

/-- The packages with one more at the end. -/
def Packages.appended (packages : Packages) (package : String) : Packages :=
  packages ++ [package]

/-- An install command with one placeholder, by the texts around it. -/
structure InstallCommand where
  before : String
  after : String
  deriving DecidableEq, Repr

namespace InstallCommand

/-- The place of the packages. -/
def placeholder : String := "\x7bdeps\x7d"

/-- The pieces of a text between the placeholders in it, from left to right. -/
def pieces : List Char → List (List Char)
  | [] => [[]]
  | '{' :: 'd' :: 'e' :: 'p' :: 's' :: '}' :: rest => [] :: pieces rest
  | c :: rest =>
      match pieces rest with
      | [] => [[c]]
      | piece :: others => (c :: piece) :: others

/-- The install command of a platform.  The command must hold exactly one placeholder. -/
def parse (platform command : String) : Except Error InstallCommand :=
  match pieces command.toList with
  | [before, after] => .ok ⟨String.ofList before, String.ofList after⟩
  | [] | [_] => .error (.missingPlaceholder platform command)
  | found => .error (.multiplePlaceholders platform (found.length - 1))

/-- The command as declared, with its placeholder. -/
def source (command : InstallCommand) : String :=
  command.before ++ placeholder ++ command.after

/-- The command that installs the given packages. -/
def render (command : InstallCommand) (packages : Packages) : String :=
  command.before ++ packages.joined ++ command.after

end InstallCommand

end RecipeMatrix
