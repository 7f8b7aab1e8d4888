import RecipeMatrix.Error.Explanation
import RecipeMatrix.Files.SystemError

/-!
# Failures

Why a command failed: a cause, and the contexts that were added on its way out.  A failure reads
as a chain of links from the outermost context to the innermost cause.

`Failure.explanation` puts a failure before a reader.  Where the cause is an error of this
library, the explanation is the one of that error; only its details may come from the outermost
link.
-/

namespace RecipeMatrix

/-- Where a failure began. -/
inductive Cause
  | known (error : Error)
  | system (refusal : SystemError)
  | told (text : String)
  deriving DecidableEq, Repr

/-- The links of a cause.  A serialization error is a link of its own around the reason. -/
def Cause.links : Cause → List String
  | known (.notSerializable reason) => [(Error.notSerializable reason).message, reason]
  | known error => [error.message]
  | system refusal => [refusal.message]
  | told text => [text]

theorem Cause.links_ne_nil (cause : Cause) : cause.links ≠ [] := by
  cases cause with
  | known error => cases error <;> simp [links]
  | system refusal => simp [links]
  | told text => simp [links]

/-- A cause and the contexts added to it, outermost first. -/
structure Failure where
  contexts : List String
  cause : Cause
  deriving DecidableEq, Repr

namespace Failure

/-- The failure of an error of this library. -/
def ofError (error : Error) : Failure := ⟨[], .known error⟩

/-- A failure that is only told. -/
def ofMessage (text : String) : Failure := ⟨[], .told text⟩

/-- The refusal of a file system during something. -/
def ofSystem (context : String) (refusal : SystemError) : Failure :=
  ⟨[context], .system refusal⟩

/-- The failure with one more context around it. -/
def within (failure : Failure) (context : String) : Failure :=
  { failure with contexts := context :: failure.contexts }

/-- All links, outermost first. -/
def links (failure : Failure) : List String := failure.contexts ++ failure.cause.links

/-- The outermost link. -/
def message (failure : Failure) : String := failure.links.headD ""

/-- The failure on one line. -/
def summary (failure : Failure) : String := ": ".intercalate failure.links

/-- The inner links with their numbers, one a line. -/
def numbered (number : Nat) : List String → String
  | [] => ""
  | link :: links =>
      "\n  " ++ toString number ++ ": " ++ link ++ numbered (number + 1) links

/-- The outermost link and, below it, the causes. -/
def report (failure : Failure) : String :=
  match failure.links.tail with
  | [] => failure.message
  | causes => failure.message ++ "\n\nCaused by:" ++ numbered 1 causes

/-- The failure as it is put before a reader. -/
def explanation (failure : Failure) : Explanation :=
  match failure.cause with
  | .known error =>
      let explanation := error.explanation
      if 1 < failure.links.length && explanation.details.isNone then
        explanation.withDetails failure.message
      else explanation
  | .system refusal =>
      if refusal.isForbidden then
        (Explanation.bare (.other failure.message)).withSuggestion
          "Check write permissions on the output directory"
      else .bare (.other failure.report)
  | .told _ => .bare (.other failure.report)

end Failure

end RecipeMatrix
