import RecipeMatrix.Toml.Document

/-!
# Writing TOML

There are two groups.

* Texts.  A text gets one of four kinds of quotes.  The first style that needs no escape is taken; a
  text that needs escapes in every style is written in a basic one, on several lines if it has a
  line break.
* Documents.  The documents that are written are lines with a key and a text or a list of texts, and
  headers.  A list of two texts or more takes a line for each of them, and a blank line stands
  before each header that is not at the start.
-/

namespace RecipeMatrix.Toml

/-! ## Texts -/

/-- The kinds of quotes around a written text. -/
inductive Style
  | basic
  | literal
  | multilineBasic
  | multilineLiteral
  deriving DecidableEq, Repr

/-- A control that can stand in no written text as it is. -/
def isControl (c : Char) : Bool :=
  (c.toNat < 0x20 && c != '\t' && c != '\n') || c.toNat == 0x7F

/-- Three equal characters stand in a row somewhere. -/
def hasThreeInARow (mark : Char) : List Char → Bool
  | a :: b :: c :: rest =>
      (a == mark && b == mark && c == mark) || hasThreeInARow mark (b :: c :: rest)
  | _ => false

/-- The style of a text. -/
def styleOf (text : List Char) : Style :=
  let controls := text.any isControl
  let backslash := text.contains '\\'
  let newline := text.contains '\n'
  if !controls && !backslash && !text.contains '"' && !newline then .basic
  else if !controls && !text.contains '\'' && !newline then .literal
  else if !controls && !backslash && !hasThreeInARow '"' text then .multilineBasic
  else if !controls && !hasThreeInARow '\'' text then .multilineLiteral
  else if newline then .multilineBasic
  else .basic

/-- A hexadecimal digit in upper case. -/
def upperHexDigit (digit : Nat) : Char :=
  if digit < 10 then Char.ofNat ('0'.toNat + digit) else Char.ofNat ('A'.toNat + digit - 10)

/-- Four hexadecimal digits. -/
def fourHexDigits (number : Nat) : List Char :=
  [upperHexDigit (number / 4096 % 16), upperHexDigit (number / 256 % 16),
    upperHexDigit (number / 16 % 16), upperHexDigit (number % 16)]

/-- A character of a basic text that is no quote; `onLines` says that line breaks may stay. -/
def escaped (onLines : Bool) (c : Char) : List Char :=
  if c = '\x08' then ['\\', 'b']
  else if c = '\t' then ['\\', 't']
  else if c = '\n' then (if onLines then ['\n'] else ['\\', 'n'])
  else if c = '\x0c' then ['\\', 'f']
  else if c = '\r' then ['\\', 'r']
  else if c = '\\' then ['\\', '\\']
  else if isControl c then ['\\', 'u'] ++ fourHexDigits c.toNat
  else [c]

/-- The content of a basic text on one line. -/
def basicBody (text : List Char) : List Char :=
  text.flatMap fun c => if c = '"' then ['\\', '"'] else escaped false c

/-- The content of a basic text on several lines, after so many quotes in a row.  The third quote
in a row is escaped. -/
def multilineBody : Nat → List Char → List Char
  | _, [] => []
  | count, c :: rest =>
      if c = '"' then
        if count = 2 then '\\' :: '"' :: multilineBody 0 rest
        else '"' :: multilineBody (count + 1) rest
      else escaped true c ++ multilineBody 0 rest

/-- The line break after the opening quotes of a text that has a line break. -/
def openingBreak (text : List Char) : List Char := if text.contains '\n' then ['\n'] else []

/-- A text in a style. -/
def written (style : Style) (text : List Char) : List Char :=
  match style with
  | .basic => ['"'] ++ basicBody text ++ ['"']
  | .literal => ['\''] ++ text ++ ['\'']
  | .multilineBasic =>
      ['"', '"', '"'] ++ openingBreak text ++ multilineBody 0 text ++ ['"', '"', '"']
  | .multilineLiteral =>
      ['\'', '\'', '\''] ++ openingBreak text ++ text ++ ['\'', '\'', '\'']

/-- A text as it is written in a document. -/
def quotedText (text : String) : String :=
  String.ofList (written (styleOf text.toList) text.toList)

/-! ## Documents -/

/-- What a written key stands for. -/
inductive Field
  | text (content : String)
  | texts (items : List String)
  deriving DecidableEq, Repr

/-- A line, or the lines of one key, of a written document. -/
inductive Line
  | field (key : String) (content : Field)
  | table (key : String)
  | element (key : String)
  deriving DecidableEq, Repr

namespace Field

/-- The value that a field holds. -/
def value : Field → Value
  | text content => .text content
  | texts items => .array (items.map Value.text)

/-- The written form of a field. -/
def render : Field → String
  | text content => quotedText content
  | texts [] => "[]"
  | texts [item] => "[" ++ quotedText item ++ "]"
  | texts items =>
      "[\n" ++ String.join (items.map fun item => "    " ++ quotedText item ++ ",\n") ++ "]"

end Field

namespace Line

/-- The statement that a line makes. -/
def statement : Line → Statement
  | field key content => .assign [key] content.value
  | table key => .header [key]
  | element key => .element [key]

/-- The written form of a line that does not stand at the start. -/
def render : Line → String
  | field key content => key ++ " = " ++ content.render ++ "\n"
  | table key => "\n[" ++ key ++ "]\n"
  | element key => "\n[[" ++ key ++ "]]\n"

/-- The written form of a line at the start of a document. -/
def renderFirst : Line → String
  | table key => "[" ++ key ++ "]\n"
  | element key => "[[" ++ key ++ "]]\n"
  | line => line.render

/-- The text of a document. -/
def renderAll : List Line → String
  | [] => ""
  | first :: rest => first.renderFirst ++ String.join (rest.map render)

end Line

end RecipeMatrix.Toml
