import RecipeMatrix.Text

/-!
# JSON output

The JSON values that a listing or a validation prints, laid out over several lines with two
spaces for each level.  An empty array or object stays on its line.
-/

namespace RecipeMatrix

/-- The JSON values that are printed. -/
inductive Json
  | boolean (value : Bool)
  | number (value : Nat)
  | text (value : String)
  | array (items : List Json)
  | object (fields : List (String × Json))

namespace Json

/-- An array of texts. -/
def texts (items : List String) : Json := array (items.map text)

/-- Two hexadecimal digits in lower case. -/
def twoHexDigits (number : Nat) : List Char :=
  if number < 16 then '0' :: Text.hexadecimal number else Text.hexadecimal number

/-- One character inside a JSON string: quotes, backslashes and controls are escaped. -/
def escaped (c : Char) : List Char :=
  if c = '"' then ['\\', '"']
  else if c = '\\' then ['\\', '\\']
  else if c = '\x08' then ['\\', 'b']
  else if c = '\x0c' then ['\\', 'f']
  else if c = '\n' then ['\\', 'n']
  else if c = '\r' then ['\\', 'r']
  else if c = '\t' then ['\\', 't']
  else if c.toNat < 0x20 then ['\\', 'u', '0', '0'] ++ twoHexDigits c.toNat
  else [c]

/-- A JSON string with its quotes. -/
def stringLiteral (text : String) : String :=
  String.ofList (['"'] ++ text.toList.flatMap escaped ++ ['"'])

/-- A new line at the given depth. -/
def indent (depth : Nat) : String := "\n" ++ String.ofList (List.replicate (2 * depth) ' ')

/-- A bracketed list, one item a line at the depth inside the brackets. -/
def bracketed (opening closing : String) (depth : Nat) (items : List String) : String :=
  if items.isEmpty then opening ++ closing
  else
    opening ++ indent (depth + 1) ++ (("," ++ indent (depth + 1)).intercalate items) ++
      indent depth ++ closing

mutual

/-- A value whose brackets stand at the given depth. -/
def prettyAt (depth : Nat) : Json → String
  | boolean value => if value then "true" else "false"
  | number value => toString value
  | text value => stringLiteral value
  | array items => bracketed "[" "]" depth (prettyItems (depth + 1) items)
  | object fields => bracketed "\x7b" "\x7d" depth (prettyFields (depth + 1) fields)

/-- The items of an array. -/
def prettyItems (depth : Nat) : List Json → List String
  | [] => []
  | item :: rest => prettyAt depth item :: prettyItems depth rest

/-- The fields of an object, each with its name. -/
def prettyFields (depth : Nat) : List (String × Json) → List String
  | [] => []
  | (name, value) :: rest =>
      (stringLiteral name ++ ": " ++ prettyAt depth value) :: prettyFields depth rest

end

/-- The printed form of a value. -/
def pretty (value : Json) : String := prettyAt 0 value

end Json

end RecipeMatrix
