import RecipeMatrix.Command
import RecipeMatrix.CommandLine.Parameter

/-!
# Reading the command line

Arguments are read from left to right: first those before the name of a command, then those after
it.  An option whose value is to follow stays pending, and its value is looked at only when the
next option is met or the stretch ends; so an argument that belongs nowhere is reported before a
bad value that stands in front of it.

Settings may be given in both stretches.  What is given once per stretch is no repetition, and
the value after the name of the command wins.
-/

namespace RecipeMatrix

/-- Why reading ends without an invocation. -/
inductive Stop
  | unknownArgument
  /-- A value is missing or cannot be taken. -/
  | invalidValue
  /-- Options exclude each other, or one is given twice. -/
  | conflict
  | unknownCommand
  /-- A value is attached to an option that takes none. -/
  | surplusValue
  /-- Help was asked for. -/
  | help
  /-- The version was asked for. -/
  | version
  deriving DecidableEq, Repr

/-- The exit code of a stop: what was asked for is no error. -/
def Stop.exitCode : Stop → UInt32
  | help | version => 0
  | _ => 2

/-- The options of a stretch with their values, in the order in which they were given. -/
abbrev Given := List (Parameter × String)

namespace Given

/-- An option was given. -/
def has (given : Given) (parameter : Parameter) : Bool :=
  given.any fun item => item.1 == parameter

/-- All values of an option. -/
def values (given : Given) (parameter : Parameter) : List String :=
  (given.filter fun item => item.1 == parameter).map (·.2)

/-- The value of an option, if it was given. -/
def value? (given : Given) (parameter : Parameter) : Option String :=
  (given.values parameter).head?

/-- The path that was given for an option. -/
def path? (given : Given) (parameter : Parameter) : Option Path :=
  (given.value? parameter).map Path.mk

end Given

/-- An option whose value is not settled yet, and the value if it has been met. -/
structure Pending where
  parameter : Parameter
  value : Option String
  deriving DecidableEq, Repr

/-- How far the reading of a stretch has come. -/
structure Reading where
  given : Given
  pending : Option Pending
  deriving DecidableEq, Repr

namespace Reading

/-- Nothing has been read. -/
def start : Reading := ⟨[], none⟩

/-- The option that the next plain argument is the value of. -/
def awaiting (reading : Reading) : Option Parameter :=
  match reading.pending with
  | some ⟨parameter, none⟩ => some parameter
  | _ => none

/-- Notes an option with its value. -/
def note (given : Given) (parameter : Parameter) (value : String) : Except Stop Reading :=
  if !parameter.repeats && given.has parameter then .error .conflict
  else if !parameter.accepts value then .error .invalidValue
  else .ok ⟨given ++ [(parameter, value)], none⟩

/-- Settles the pending option. -/
def settle (reading : Reading) : Except Stop Reading :=
  match reading.pending with
  | none => .ok reading
  | some ⟨_, none⟩ => .error .invalidValue
  | some ⟨parameter, some value⟩ => note reading.given parameter value

/-- Reads an option with the value that is attached to it. -/
def attached (reading : Reading) (parameter : Parameter) (value : String) :
    Except Stop Reading := do
  let settled ← reading.settle
  note settled.given parameter value

/-- Reads an option whose value is to follow. -/
def expecting (reading : Reading) (parameter : Parameter) : Except Stop Reading := do
  let settled ← reading.settle
  .ok { settled with pending := some ⟨parameter, none⟩ }

/-- Reads an option that takes no value. -/
def flag (reading : Reading) (parameter : Parameter) : Except Stop Reading := do
  let settled ← reading.settle
  match parameter with
  | .help => .error .help
  | .version => .error .version
  | _ => note settled.given parameter ""

end Reading

/-! ## Single arguments -/

/-- The shape of an argument. -/
inductive Argument
  /-- Two hyphens: no option follows. -/
  | separator
  /-- An option by its long name, perhaps with a value after an equals sign. -/
  | long (name : List Char) (value : Option (List Char))
  /-- Options by their letters, the last perhaps with a value. -/
  | letters (letters : List Char)
  | plain
  deriving DecidableEq, Repr

/-- The shape of a text. -/
def Argument.ofText (text : String) : Argument :=
  match text.toList with
  | ['-', '-'] => .separator
  | '-' :: '-' :: rest =>
      .long (rest.takeWhile (· != '='))
        (match rest.dropWhile (· != '=') with
          | [] => none
          | _ :: value => some value)
  | '-' :: letter :: rest => .letters (letter :: rest)
  | _ => .plain

namespace Reading

/-- Reads an option by its long name. -/
def long (stretch : Stretch) (reading : Reading) (name : List Char)
    (value : Option (List Char)) : Except Stop Reading :=
  match stretch.byLong? (String.ofList name), value with
  | none, _ => .error .unknownArgument
  | some parameter, none =>
      if parameter.takesValue then reading.expecting parameter else reading.flag parameter
  | some parameter, some value =>
      if parameter.takesValue then reading.attached parameter (String.ofList value)
      else .error .surplusValue

/-- Reads options by their letters.  What follows the letter of an option with a value is that
value, an equals sign before it apart. -/
def letters (stretch : Stretch) (reading : Reading) : List Char → Except Stop Reading
  | [] => .ok reading
  | letter :: rest =>
      match stretch.byLetter? letter with
      | none => .error .unknownArgument
      | some parameter =>
          if parameter.takesValue then
            match rest with
            | [] => reading.expecting parameter
            | '=' :: value => reading.attached parameter (String.ofList value)
            | value => reading.attached parameter (String.ofList value)
          else do
            let reading ← reading.flag parameter
            letters stretch reading rest

end Reading

/-! ## Stretches -/

/-- The word that asks for help about commands. -/
def helpWord : String := "help"

/-- What is wrong with an argument that has no place in a stretch; `separated` says that it stands
after two hyphens. -/
def Stretch.misplaced (stretch : Stretch) (separated : Bool) (argument : String) : Stop :=
  match stretch with
  | .inner _ => .unknownArgument
  | .outer =>
      if separated && (argument == helpWord || (CommandName.ofWord? argument).isSome) then
        .unknownArgument
      else .unknownCommand

/-- What comes of asking for help about some words. -/
def helpAbout : List String → Stop
  | [] => .help
  | word :: words =>
      if word == helpWord || (CommandName.ofWord? word).isSome then
        if words.isEmpty then .help else .unknownCommand
      else .unknownCommand

/-- A command and the arguments after its name. -/
structure Handover where
  command : CommandName
  arguments : List String
  deriving DecidableEq, Repr

/-- What an argument is as the name of a command: only before one, and not as a value. -/
def Stretch.commandWord? (stretch : Stretch) (reading : Reading) (argument : String) :
    Option (Option CommandName) :=
  match stretch, reading.awaiting with
  | .outer, none =>
      if argument == helpWord then some none else (CommandName.ofWord? argument).map some
  | _, _ => none

/-- Reads a stretch, up to the name of a command if there is one. -/
def Reading.stretch (stretch : Stretch) (reading : Reading) :
    List String → Except Stop (Reading × Option Handover)
  | [] => .ok (reading, none)
  | argument :: rest =>
      match stretch.commandWord? reading argument with
      | some none => .error (helpAbout rest)
      | some (some command) => .ok (reading, some ⟨command, rest⟩)
      | none =>
          match Argument.ofText argument with
          | .separator =>
              match rest with
              | [] => .ok (reading, none)
              | misplaced :: _ => .error (stretch.misplaced true misplaced)
          | .long name value => do
              let reading ← reading.long stretch name value
              Reading.stretch stretch reading rest
          | .letters letters => do
              let reading ← reading.letters stretch letters
              Reading.stretch stretch reading rest
          | .plain =>
              match reading.awaiting with
              | some parameter =>
                  Reading.stretch stretch ⟨reading.given, some ⟨parameter, some argument⟩⟩ rest
              | none => .error (stretch.misplaced false argument)

/-- The options of a stretch that has been read. -/
def Reading.finish (reading : Reading) : Except Stop Given := do
  let settled ← reading.settle
  let clash := Parameter.excluding.any fun (first, second) =>
    settled.given.has first && settled.given.has second
  if clash then .error .conflict else .ok settled.given

/-! ## Invocations -/

namespace Given

/-- The settings, from both stretches. -/
def settings (outer inner : Given) : Settings where
  verbose := outer.has .verbose || inner.has .verbose
  quiet := outer.has .quiet || inner.has .quiet
  manifest := (inner.path? .manifest).or (outer.path? .manifest)
  noColor := outer.has .noColor || inner.has .noColor

/-- The format that was given. -/
def format (given : Given) : Format :=
  if given.value? .format == some "json" then .json else .text

/-- The command with the options that were given. -/
def command (given : Given) : CommandName → Command
  | .generate =>
      .generate
        { output := given.path? .output
          selection := ⟨given.values .platform, given.values .compiler⟩
          dryRun := given.has .dryRun
          check := given.has .check }
  | .list => .list given.format
  | .validate => .validate given.format
  | .init => .init ⟨given.path? .directory, given.has .force⟩

end Given

/-- The invocation of a command line.  Without the name of a command, everything is generated. -/
def Invocation.ofArguments (arguments : List String) : Except Stop Invocation := do
  let (outer, handover) ← Reading.start.stretch .outer arguments
  match handover with
  | none =>
      let outer ← outer.finish
      .ok ⟨.generate .standard, outer.settings []⟩
  | some ⟨command, rest⟩ =>
      let (inner, _) ← Reading.start.stretch (.inner command) rest
      let inner ← inner.finish
      let outer ← outer.finish
      .ok ⟨inner.command command, outer.settings inner⟩

end RecipeMatrix
