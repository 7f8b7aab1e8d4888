/-!
# Parameters of the command line

The names under which options are given, where each of them may stand, and what value it takes.
-/

namespace RecipeMatrix

/-- The options of the command line. -/
inductive Parameter
  | verbose
  | quiet
  | manifest
  | noColor
  | help
  | version
  | output
  | platform
  | compiler
  | dryRun
  | check
  | format
  | directory
  | force
  deriving DecidableEq, Repr

/-- What follows an option. -/
inductive ValueKind
  | nothing
  /-- A path, which has some text. -/
  | path
  /-- A name of any text. -/
  | name
  /-- One of the words `text` and `json`. -/
  | format
  deriving DecidableEq, Repr

namespace Parameter

/-- The long name, as it stands after two hyphens. -/
def long : Parameter → String
  | verbose => "verbose"
  | quiet => "quiet"
  | manifest => "manifest-path"
  | noColor => "no-color"
  | help => "help"
  | version => "version"
  | output => "output-dir"
  | platform => "platform"
  | compiler => "compiler"
  | dryRun => "dry-run"
  | check => "check"
  | format => "format"
  | directory => "path"
  | force => "force"

/-- The letter, as it stands after one hyphen. -/
def letter? : Parameter → Option Char
  | verbose => some 'v'
  | quiet => some 'q'
  | help => some 'h'
  | version => some 'V'
  | output => some 'o'
  | platform => some 'p'
  | compiler => some 'c'
  | directory => some 'p'
  | force => some 'f'
  | manifest | noColor | dryRun | check | format => none

/-- The value that an option takes. -/
def value : Parameter → ValueKind
  | manifest | output | directory => .path
  | platform | compiler => .name
  | format => .format
  | verbose | quiet | noColor | help | version | dryRun | check | force => .nothing

/-- The option takes a value. -/
def takesValue (parameter : Parameter) : Bool := parameter.value != .nothing

/-- The option may be given several times. -/
def repeats : Parameter → Bool
  | platform | compiler => true
  | _ => false

/-- A value is one that the option can take. -/
def accepts (parameter : Parameter) (given : String) : Bool :=
  match parameter.value with
  | .nothing | .name => true
  | .path => !given.isEmpty
  | .format => given == "text" || given == "json"

/-- Options that cannot be given together. -/
def excluding : List (Parameter × Parameter) := [(verbose, quiet), (check, dryRun)]

end Parameter

/-! ## Where options may stand -/

/-- The names of the commands. -/
inductive CommandName
  | generate
  | list
  | validate
  | init
  deriving DecidableEq, Repr

namespace CommandName

/-- All commands. -/
def all : List CommandName := [generate, list, validate, init]

/-- The word for a command. -/
def word : CommandName → String
  | generate => "generate"
  | list => "list"
  | validate => "validate"
  | init => "init"

/-- The command of a word. -/
def ofWord? (word : String) : Option CommandName := all.find? fun name => name.word == word

end CommandName

/-- A stretch of the command line: before the name of a command, or after it. -/
inductive Stretch
  | outer
  | inner (command : CommandName)
  deriving DecidableEq, Repr

namespace Stretch

/-- The options that may stand everywhere. -/
def shared : List Parameter := [.verbose, .quiet, .manifest, .noColor, .help]

/-- The options of a stretch. -/
def parameters : Stretch → List Parameter
  | outer => shared ++ [.version]
  | inner .generate => shared ++ [.output, .platform, .compiler, .dryRun, .check]
  | inner .list => shared ++ [.format]
  | inner .validate => shared ++ [.format]
  | inner .init => shared ++ [.directory, .force]

/-- The option of a long name. -/
def byLong? (stretch : Stretch) (name : String) : Option Parameter :=
  stretch.parameters.find? fun parameter => parameter.long == name

/-- The option of a letter. -/
def byLetter? (stretch : Stretch) (letter : Char) : Option Parameter :=
  stretch.parameters.find? fun parameter => parameter.letter? == some letter

end Stretch

end RecipeMatrix
