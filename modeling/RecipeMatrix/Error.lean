/-!
# Errors

Everything that can go wrong between reading a catalog and writing its recipes, with the wording
of each error.  The errors that are defects of the catalog itself are singled out by
`isConfiguration`: they never go away by trying again.

Texts name the placeholder of an install command, so braces stand in them as characters.
-/

namespace RecipeMatrix

/-- What went wrong. -/
inductive Error
  /-- An install command has no place for the packages. -/
  | missingPlaceholder (platform command : String)
  /-- An install command has several places for the packages. -/
  | multiplePlaceholders (platform : String) (count : Nat)
  /-- A field of a catalog entry is blank. -/
  | emptyField (entry field : String)
  /-- A platform or compiler name cannot be part of a file name. -/
  | invalidName (kind name reason : String)
  /-- A package name is empty or holds a blank. -/
  | invalidPackage (entry package : String)
  /-- Two platforms have one name. -/
  | duplicatePlatform (name : String)
  /-- Two compilers have one name. -/
  | duplicateCompiler (name : String)
  /-- Two pairs of platform and compiler would be written to one file. -/
  | outputCollision (output first second : String)
  /-- A platform installs a compiler at run time. -/
  | compilerInRuntime (platform package : String)
  /-- There is no manifest where one is looked for. -/
  | manifestNotFound
  /-- A manifest is not well formed, or holds something that does not belong there. -/
  | manifestMalformed (file reason : String)
  /-- A platform filter names no platform. -/
  | unknownPlatform (name : String) (suggestions : List String)
  /-- A compiler filter names no compiler. -/
  | unknownCompiler (name : String) (suggestions : List String)
  /-- A recipe template is not well formed. -/
  | templateMalformed (reason : String)
  /-- A recipe template asks for a value that there is not. -/
  | renderFailed (platform compiler reason : String)
  /-- A recipe could not be written. -/
  | writeFailed (platform compiler path reason : String)
  /-- Some of the recipes could not be written. -/
  | generationFailed (failed total : Nat) (details : List String)
  /-- Some recipes on disk are missing or differ from what would be written. -/
  | outOfDate (stale : List String)
  /-- A manifest cannot be written down. -/
  | notSerializable (reason : String)
  /-- Anything else. -/
  | other (message : String)
  deriving DecidableEq, Repr

namespace Error

/-- The wording of an error. -/
def message : Error → String
  | missingPlaceholder platform command =>
      "Install command for platform '" ++ platform ++ "' has no \x7bdeps\x7d placeholder: " ++
        command
  | multiplePlaceholders platform count =>
      "Install command for platform '" ++ platform ++ "' has " ++ toString count ++
        " \x7bdeps\x7d placeholders, expected exactly one"
  | emptyField entry field => "Field '" ++ field ++ "' of " ++ entry ++ " must not be empty"
  | invalidName kind name reason => "Invalid " ++ kind ++ " name '" ++ name ++ "': " ++ reason
  | invalidPackage entry package =>
      "Invalid package name '" ++ package ++ "' in " ++ entry
  | duplicatePlatform name => "Platform '" ++ name ++ "' is defined more than once"
  | duplicateCompiler name => "Compiler '" ++ name ++ "' is defined more than once"
  | outputCollision output first second =>
      "Output '" ++ output ++ "' would be produced by both " ++ first ++ " and " ++ second
  | compilerInRuntime platform package =>
      "Runtime dependencies of platform '" ++ platform ++ "' include compiler package '" ++
        package ++ "'"
  | manifestNotFound =>
      "Manifest file dockgen.toml not found in current directory or any parent directory"
  | manifestMalformed file _ => "Invalid manifest file syntax in " ++ file
  | unknownPlatform name _ => "Platform '" ++ name ++ "' is not in the catalog"
  | unknownCompiler name _ => "Compiler '" ++ name ++ "' is not in the catalog"
  | templateMalformed reason => "Invalid recipe template: " ++ reason
  | renderFailed platform compiler reason =>
      "Failed to render recipe for " ++ platform ++ "/" ++ compiler ++ ": " ++ reason
  | writeFailed platform compiler path reason =>
      "Failed to write recipe for " ++ platform ++ "/" ++ compiler ++ " to " ++ path ++ ": " ++
        reason
  | generationFailed failed total _ =>
      "Failed to write " ++ toString failed ++ " of " ++ toString total ++ " recipes"
  | outOfDate stale => toString stale.length ++ " recipe(s) are missing or out of date"
  | notSerializable reason => "TOML serialization error: " ++ reason
  | other message => message

/-- A defect of the catalog itself. -/
def isConfiguration : Error → Bool
  | missingPlaceholder .. | multiplePlaceholders .. | emptyField .. | invalidName ..
  | invalidPackage .. | duplicatePlatform .. | duplicateCompiler .. | outputCollision ..
  | compilerInRuntime .. => true
  | _ => false

end Error

end RecipeMatrix
