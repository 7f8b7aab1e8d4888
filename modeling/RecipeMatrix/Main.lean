import RecipeMatrix.Command.Run
import RecipeMatrix.CommandLine.Reading

/-!
# The program

Carries out the program of an invocation on the disk, and prints what it says.
-/

namespace RecipeMatrix.Disk

/-- The wording of a refusal that has no name here. -/
def worded (details : String) (code : UInt32) : String :=
  details ++ " (os error " ++ toString code ++ ")"

/-- The refusal behind an error of the system. -/
def refusal : IO.Error → SystemError
  | .noFileOrDirectory _ _ _ => .notFound
  | .alreadyExists _ _ _ => .alreadyExists
  | .permissionDenied _ code details => .reported .forbidden (worded details code)
  | .inappropriateType _ code details => .reported .other (worded details code)
  | .invalidArgument _ code details => .reported .other (worded details code)
  | .resourceExhausted _ code details => .reported .other (worded details code)
  | .resourceBusy _ _ => .busy
  | error => .reported .other (toString error)

/-- An action with the refusal of the system as a value. -/
def attempted {α : Type} (action : IO α) : IO (Except SystemError α) := do
  try
    return .ok (← action)
  catch error =>
    return .error (refusal error)

/-- A path leads somewhere. -/
def leads (path : String) : IO Bool := do
  if path.isEmpty then return false
  match ← attempted (IO.FS.realPath path) with
  | .ok _ => return true
  | .error _ => return false

/-- A path leads to a directory. -/
def leadsToDirectory (path : String) : IO Bool := do
  if path.isEmpty then return false
  leads (path ++ "/.")

/-- Answers a question about the disk. -/
def answer : (question : Question) → IO question.Answer
  | .present path => leads path.text
  | .isFile path => do return (← leads path.text) && !(← leadsToDirectory path.text)
  | .isDirectory path => leadsToDirectory path.text
  | .content path => attempted (IO.FS.readBinFile path.text)
  | .currentPath => attempted do return ⟨toString (← IO.currentDir)⟩

/-- Makes a change to the disk. -/
def perform : Workspace.Change → IO (Except SystemError Unit)
  | .makeDirectory path => attempted (IO.FS.createDir path.text)
  | .createFile path => attempted (IO.FS.writeBinFile path.text .empty)
  | .writeFile path content => attempted (IO.FS.writeBinFile path.text content)
  | .moveFile source target => attempted (IO.FS.rename source.text target.text)
  | .removeFile path => attempted (IO.FS.removeFile path.text)

/-- Carries out a program on the disk. -/
def carryOut {α : Type} : Program α → IO α
  | .done result => return result
  | .ask question next => do
      let answer ← answer question
      carryOut (next answer)
  | .change step next => do
      let answer ← perform step
      carryOut (next answer)

end RecipeMatrix.Disk

namespace RecipeMatrix

/-- How the program is called. -/
def synopsis : String :=
  "Usage: dockgen [OPTIONS] [generate|list|validate|init|help]\n\n" ++
  "Options:\n" ++
  "  -v, --verbose               Enable debug logging\n" ++
  "  -q, --quiet                 Suppress all output except errors\n" ++
  "      --manifest-path <PATH>  Path to dockgen.toml\n" ++
  "      --no-color              Disable colored output\n" ++
  "  -h, --help                  Print help\n" ++
  "  -V, --version               Print version\n"

/-- The version of the program. -/
def versionLine : String := "dockgen 0.1.0\n"

/-- What is said when the arguments give no invocation. -/
def Stop.message : Stop → String
  | help => synopsis
  | version => versionLine
  | unknownArgument => "error: unexpected argument\n\n" ++ synopsis
  | invalidValue => "error: invalid or missing value\n\n" ++ synopsis
  | conflict => "error: arguments cannot be used together or repeated\n\n" ++ synopsis
  | unknownCommand => "error: unrecognized subcommand\n\n" ++ synopsis
  | surplusValue => "error: unexpected value for a flag\n\n" ++ synopsis

end RecipeMatrix

open RecipeMatrix in
/-- Runs the program on the arguments of the command line. -/
def main (arguments : List String) : IO UInt32 := do
  match Invocation.ofArguments arguments with
  | .error stop =>
      if stop.exitCode = 0 then IO.print stop.message else IO.eprint stop.message
      return stop.exitCode
  | .ok invocation =>
      let colors ← (← IO.getStdout).isTty
      let outcome ← Disk.carryOut (invocation.run colors)
      IO.print outcome.printed
      IO.eprint (outcome.complaint (invocation.display colors).colored)
      return outcome.exitCode
