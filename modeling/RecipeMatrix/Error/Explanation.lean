import RecipeMatrix.Error
import RecipeMatrix.Terminal

/-!
# Explanations

An error as it is put before a reader: its message, what there is to say about it, and what to do
about it.
-/

namespace RecipeMatrix

/-- An error with details and a suggestion, where there are any. -/
structure Explanation where
  error : Error
  details : Option String
  suggestion : Option String
  deriving DecidableEq, Repr

namespace Explanation

/-- An error with nothing added. -/
def bare (error : Error) : Explanation := ⟨error, none, none⟩

/-- The explanation with these details. -/
def withDetails (explanation : Explanation) (details : String) : Explanation :=
  { explanation with details := some details }

/-- The explanation with this suggestion. -/
def withSuggestion (explanation : Explanation) (suggestion : String) : Explanation :=
  { explanation with suggestion := some suggestion }

/-- The explanation as one text. -/
def text (explanation : Explanation) : String :=
  explanation.error.message ++
    (explanation.details.elim "" fun details => "\nDetails: " ++ details) ++
    (explanation.suggestion.elim "" fun suggestion => "\nSuggestion: " ++ suggestion)

/-- The explanation as lines on a terminal. -/
def lines (explanation : Explanation) (colored : Bool) : String :=
  let part (tint : Tint) (label content : String) : String :=
    Terminal.line (tint.paint colored label ++ ": " ++ content)
  part .boldRed "error" explanation.error.message ++
    explanation.details.elim "" (part .yellow "details") ++
    explanation.suggestion.elim "" (part .green "suggestion")

end Explanation

namespace Error

/-- The error as an explanation shows it: a serialization error keeps only its message. -/
def shown : Error → Error
  | notSerializable reason => other (notSerializable reason).message
  | error => error

theorem message_shown (error : Error) : error.shown.message = error.message := by
  cases error <;> rfl

theorem isConfiguration_shown (error : Error) :
    error.shown.isConfiguration = error.isConfiguration := by
  cases error <;> rfl

/-- What there is to say about an error beyond its message. -/
def details : Error → Option String
  | duplicatePlatform _ | duplicateCompiler _ =>
      some ("Output files are named after platform and compiler, so duplicate names would " ++
        "overwrite each other")
  | outputCollision .. =>
      some ("Output names join platform and compiler with '-', so names containing '-' can " ++
        "collide")
  | manifestMalformed _ reason => some reason
  | renderFailed .. => some "The recipe template referenced a value that was not supplied"
  | templateMalformed _ => some "The recipe template must be valid Tera syntax"
  | generationFailed _ _ details => some ("\n  " ++ "\n  ".intercalate details)
  | outOfDate stale => some (", ".intercalate stale)
  | _ => none

/-- What to do about recipes that could not be written. -/
def makeRoom : String := "Check write permissions and free space in the output directory"

/-- Which names to try instead of an unknown one. -/
def tryInstead (suggestions : List String) : String :=
  if suggestions.isEmpty then "Run 'dockgen list' to see the available entries"
  else "Did you mean: " ++ ", ".intercalate suggestions ++ "?"

/-- What to do about an error. -/
def suggestion : Error → Option String
  | missingPlaceholder .. | multiplePlaceholders .. =>
      some ("Write the install command with exactly one \x7bdeps\x7d placeholder, e.g. " ++
        "\"apk add --no-cache \x7bdeps\x7d\"")
  | emptyField .. | invalidPackage .. =>
      some "Fill in the field in dockgen.toml; package names cannot contain spaces"
  | invalidName .. =>
      some "Use only letters, digits, '.', '_' and '-' in platform and compiler names"
  | duplicatePlatform _ | duplicateCompiler _ =>
      some "Rename or remove one of the duplicate entries"
  | outputCollision .. => some "Rename one of the platforms or compilers"
  | compilerInRuntime .. =>
      some ("Remove the compiler package from runtime-deps; compilers are only installed in " ++
        "the build stage")
  | manifestNotFound =>
      some "Run 'dockgen init' to create a dockgen.toml, or pass --manifest-path"
  | manifestMalformed .. => some "Check the TOML syntax and field names in dockgen.toml"
  | unknownPlatform _ suggestions | unknownCompiler _ suggestions =>
      some (tryInstead suggestions)
  | generationFailed .. | writeFailed .. => some makeRoom
  | outOfDate _ => some "Run 'dockgen generate' to regenerate the recipes"
  | _ => none

/-- The explanation of an error on its own. -/
def explanation (error : Error) : Explanation := ⟨error.shown, error.details, error.suggestion⟩

end Error

end RecipeMatrix
