import RecipeMatrix.Command
import RecipeMatrix.Generation
import RecipeMatrix.Manifest.Discovery
import RecipeMatrix.Terminal

/-!
# The command `generate`

Writes the recipes of a selection, or checks those that are there.  The report is printed also
when recipes could not be written; the command then fails.
-/

namespace RecipeMatrix

/-- What a run of `generate` comes to when nothing keeps it from starting to write. -/
inductive GenerateResult
  /-- All recipes of an output directory are as they should be. -/
  | upToDate (output : Path)
  /-- A report on an output directory. -/
  | reported (output : Path) (report : Report)

namespace Status

/-- The tint of a status. -/
def tint : Status → Tint
  | created => .green
  | updated => .yellow
  | unchanged => .dimmed

/-- What happened to a file, or what would happen to it. -/
def told (dryRun : Bool) : Status → String
  | created => if dryRun then "would create" else "created"
  | updated => if dryRun then "would update" else "updated"
  | unchanged => "unchanged"

end Status

namespace Report

/-- The line of an artifact. -/
def artifactLine (colored dryRun : Bool) (artifact : Artifact) : String :=
  let name := artifact.path.fileName?.getD artifact.path.text
  let status := artifact.status.tint.paint colored (artifact.status.told dryRun)
  Terminal.line (Tint.green.paint colored "✓" ++ " " ++ name ++ " (" ++ status ++ ")")

/-- The line of a failure. -/
def failureLine (colored : Bool) (failure : WriteFailure) : String :=
  Terminal.line (Tint.red.paint colored "✗" ++ " " ++ failure.path.text ++ ": " ++ failure.reason)

/-- The line that sums up a report. -/
def summaryLine (report : Report) (output : Path) : String :=
  let verb := if report.dryRun then "Checked" else "Generated"
  let counted (status : Status) : String := toString (report.count status)
  Terminal.line (verb ++ " " ++ toString report.total ++ " recipe(s) in " ++ output.text ++ ": " ++
    counted .created ++ " created, " ++ counted .updated ++ " updated, " ++
    counted .unchanged ++ " unchanged, " ++ toString report.failures.length ++ " failed")

/-- A report as it is printed. -/
def lines (report : Report) (colored : Bool) (output : Path) : String :=
  String.join (report.artifacts.map (artifactLine colored report.dryRun)) ++
    String.join (report.failures.map (failureLine colored)) ++
    report.summaryLine output

end Report

namespace GenerateResult

/-- The result as it is printed. -/
def lines (colored : Bool) : GenerateResult → String
  | upToDate output =>
      Terminal.line (Tint.green.paint colored "✓" ++ " All recipes in " ++ output.text ++
        " are up to date")
  | reported output report => report.lines colored output

/-- Whether the result is a success. -/
def conclusion : GenerateResult → Except Failure Unit
  | upToDate _ => .ok ()
  | reported _ report => report.ensureSuccess.mapError Failure.ofError

end GenerateResult

namespace GenerateOptions

/-- Does what the options ask for. -/
def work (options : GenerateOptions) (manifest : Option Path) :
    Attempt Failure GenerateResult := do
  let loaded ← LoadedManifest.find manifest
  let output := loaded.output options.output
  Attempt.mapError Failure.ofError do
    let catalog ← Attempt.ofExcept loaded.manifest.catalog
    let generator ← Attempt.ofExcept (Generator.ofCatalog catalog)
    if options.check then
      generator.check options.selection output
      pure (.upToDate output)
    else
      let report ← generator.generate options.selection output options.dryRun
      pure (.reported output report)

/-- The command. -/
def run (options : GenerateOptions) (manifest : Option Path) (display : Display) :
    Program Outcome := do
  match ← (options.work manifest).run with
  | .error failure => pure (.failure failure)
  | .ok result =>
      pure ⟨if display.quiet then "" else result.lines display.colored, result.conclusion⟩

end GenerateOptions

end RecipeMatrix
