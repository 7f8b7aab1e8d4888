import RecipeMatrix.Command.Generate
import RecipeMatrix.Command.Listing
import RecipeMatrix.Command.Validation
import RecipeMatrix.Files.Replacement
import RecipeMatrix.Manifest.Encode

/-!
# Running commands

A command as a program on files, and what a finished one leaves for the terminal and for whoever
called it.

Of the commands, `init` is here.  It writes the built-in manifest to a directory; a manifest that
is there already is replaced only by force.
-/

namespace RecipeMatrix

namespace InitOptions

/-- The path of the new manifest. -/
def manifestPath (options : InitOptions) : Path :=
  (options.directory.getD ⟨"."⟩).join ⟨Manifest.fileName⟩

/-- Writes the manifest. -/
def work (options : InitOptions) : Attempt Failure Unit := do
  let taken ← Attempt.always (Program.question (.present options.manifestPath))
  if taken && !options.force then
    throw (.ofMessage ("Manifest already exists at " ++ options.manifestPath.text ++
      ". Use --force to overwrite"))
  Files.requireDirectory (options.directory.getD ⟨"."⟩)
  let document ← Attempt.ofExcept (Manifest.initialDocument.mapError Failure.ofError)
  Files.replaceContent options.manifestPath document.toUTF8

/-- What is said about a new manifest. -/
def lines (options : InitOptions) (colored : Bool) : String :=
  Terminal.line (Tint.green.paint colored "✓" ++ " Initialized " ++ Manifest.fileName ++ " at " ++
    options.manifestPath.text)

/-- The command. -/
def run (options : InitOptions) (display : Display) : Program Outcome := do
  match ← options.work.run with
  | .error failure => pure (.failure failure)
  | .ok () => pure (.success (if display.quiet then "" else options.lines display.colored))

end InitOptions

/-- The program of a command. -/
def Command.run (command : Command) (manifest : Option Path) (display : Display) :
    Program Outcome :=
  match command with
  | .generate options => options.run manifest display
  | .list format => Listing.run format manifest display
  | .validate format => Validation.run format manifest display
  | .init options => options.run display

/-- How an invocation shows things on a terminal that can, or cannot, show colours. -/
def Invocation.display (invocation : Invocation) (colors : Bool) : Display where
  quiet := invocation.settings.quiet
  colored := colors && !invocation.settings.noColor

/-- The program of an invocation. -/
def Invocation.run (invocation : Invocation) (colors : Bool) : Program Outcome :=
  invocation.command.run invocation.settings.manifest (invocation.display colors)

namespace Outcome

/-- What goes to the error output. -/
def complaint (outcome : Outcome) (colored : Bool) : String :=
  match outcome.result with
  | .ok () => ""
  | .error failure => failure.explanation.lines colored

/-- The exit code. -/
def exitCode (outcome : Outcome) : UInt32 :=
  match outcome.result with
  | .ok () => 0
  | .error _ => 1

end Outcome

end RecipeMatrix
