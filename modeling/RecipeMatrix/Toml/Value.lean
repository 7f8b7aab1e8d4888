import RecipeMatrix.Number.Binary64
import RecipeMatrix.Text

/-!
# TOML values

What a TOML document holds once it is read.  A table keeps its keys in the order of the
document; a reader that wants them sorted asks for `sortedByKey`.

A value without quotes or brackets is recognised from its complete text: truth values, whole
numbers, floating point numbers, dates and times.  The forms exclude each other, so the order in
which they are tried is free.
-/

namespace RecipeMatrix.Toml

/-- A value of a document. -/
inductive Value
  | text (content : String)
  | integer (number : Int)
  | float (number : Binary64)
  | boolean (truth : Bool)
  | dateTime (written : String)
  | array (items : List Value)
  | table (entries : List (String × Value))

/-- A table: its keys and their values, in the order of the document. -/
abbrev Table := List (String × Value)

namespace Table

/-- The value of a key. -/
def get? (table : Table) (key : String) : Option Value := table.lookup key

/-- The entries of a table in the order of the bytes of their keys. -/
def sortedByKey (table : Table) : Table :=
  table.mergeSort fun first second => first.1 ≤ second.1

end Table

/-- The key under which a date or time stands where a table is expected. -/
def dateTimeKey : String := "$__toml_private_datetime"

/-- The value as a message names it. -/
def Value.description : Value → String
  | .text content => "string " ++ Text.quoted content
  | .integer number => "integer `" ++ toString number ++ "`"
  | .float number => "floating point `" ++ number.text ++ "`"
  | .boolean truth => "boolean `" ++ toString truth ++ "`"
  | .dateTime _ => "map"
  | .array _ => "sequence"
  | .table _ => "map"

/-! ## Numbers -/

/-- A text cut at every underscore. -/
def cutAtUnderscores : List Char → List (List Char)
  | [] => [[]]
  | '_' :: rest => [] :: cutAtUnderscores rest
  | c :: rest =>
      match cutAtUnderscores rest with
      | [] => [[c]]
      | group :: groups => (c :: group) :: groups

/-- The digits of a text in which single underscores may stand between digits. -/
def digitsOf? (isDigit : Char → Bool) (text : List Char) : Option (List Char) :=
  let groups := cutAtUnderscores text
  if groups.all fun group => !group.isEmpty && group.all isDigit then some groups.flatten
  else none

/-- The number that digits write in a base up to sixteen. -/
def numberOf (base : Nat) (digits : List Char) : Nat :=
  digits.foldl (fun number c =>
    let digit :=
      if c.isDigit then c.toNat - '0'.toNat
      else if c.isLower then c.toNat - 'a'.toNat + 10
      else c.toNat - 'A'.toNat + 10
    base * number + digit) 0

/-- A decimal digit of a base up to ten, or a hexadecimal one. -/
def isDigitOf (base : Nat) (c : Char) : Bool :=
  if base ≤ 10 then c.isDigit && c.toNat - '0'.toNat < base
  else c.isDigit || ('a' ≤ c && c ≤ 'f') || ('A' ≤ c && c ≤ 'F')

/-- A sign, if there is one, and the text after it. -/
def readSign : List Char → Option Bool × List Char
  | '+' :: rest => (some false, rest)
  | '-' :: rest => (some true, rest)
  | rest => (none, rest)

/-- Decimal digits without a needless zero in front. -/
def wholeDigits? (text : List Char) : Option (List Char) :=
  match digitsOf? (isDigitOf 10) text with
  | some ('0' :: _ :: _) => none
  | digits => digits

/-- The least whole number that fits 64 bits. -/
def minInteger : Int := -0x8000000000000000

/-- The greatest whole number that fits 64 bits. -/
def maxInteger : Int := 0x7FFFFFFFFFFFFFFF

/-- A whole number that fits 64 bits.  Any other is refused where it is read, also in a place that
nobody looks at. -/
def inRange? (number : Int) : Option Value :=
  if minInteger ≤ number ∧ number ≤ maxInteger then some (.integer number) else none

/-- A whole number, in decimal with an optional sign or in another base without one. -/
def integer? (text : List Char) : Option Value :=
  let inBase (base : Nat) (digits : List Char) : Option Value := do
    let digits ← digitsOf? (isDigitOf base) digits
    inRange? (numberOf base digits)
  match text with
  | '0' :: 'x' :: digits => inBase 16 digits
  | '0' :: 'o' :: digits => inBase 8 digits
  | '0' :: 'b' :: digits => inBase 2 digits
  | _ => do
      let (sign, digits) := readSign text
      let digits ← wholeDigits? digits
      let size : Int := numberOf 10 digits
      inRange? (if sign = some true then -size else size)

/-- A character of a run of digits. -/
def isDigitOrUnderscore (c : Char) : Bool := c.isDigit || c == '_'

/-- The exponent of a floating point number, up to the end of its text. -/
def exponent? : List Char → Option Int
  | [] => some 0
  | mark :: text => do
      let (sign, digits) := readSign text
      let digits ← digitsOf? (isDigitOf 10) digits
      let size : Int := numberOf 10 digits
      if mark = 'e' ∨ mark = 'E' then some (if sign = some true then -size else size) else none

/-- A finite floating point number with a fraction, an exponent or both.  One beyond the range of
the format is refused where it is read, like a whole number that is out of range. -/
def decimalFloat? (text : List Char) : Option Value := do
  let (sign, text) := readSign text
  let whole ← wholeDigits? (text.takeWhile isDigitOrUnderscore)
  let (fraction, text) ←
    match text.dropWhile isDigitOrUnderscore with
    | '.' :: text => do
        let digits ← digitsOf? (isDigitOf 10) (text.takeWhile isDigitOrUnderscore)
        some (digits, text.dropWhile isDigitOrUnderscore)
    | [] => none
    | text => some ([], text)
  let exponent ← exponent? text
  let negative := sign = some true
  let digits := numberOf 10 (whole ++ fraction)
  match Binary64.ofDecimal negative digits (exponent - fraction.length) with
  | .infinite _ => none
  | number => some (.float number)

/-- A floating point number. -/
def float? (text : List Char) : Option Value :=
  let (sign, name) := readSign text
  if name = ['i', 'n', 'f'] then some (.float (.infinite (sign = some true)))
  else if name = ['n', 'a', 'n'] then some (.float .notANumber)
  else decimalFloat? text

/-! ## Dates and times -/

/-- A number of two digits up to a bound, and the text after it. -/
def readTwoDigits (bound : Nat) : List Char → Option (Nat × List Char)
  | a :: b :: rest =>
      let number := numberOf 10 [a, b]
      if a.isDigit && b.isDigit && number ≤ bound then some (number, rest) else none
  | _ => none

/-- The number of days of a month. -/
def daysOf (year month : Nat) : Nat :=
  let leap := year % 4 = 0 ∧ (year % 100 ≠ 0 ∨ year % 400 = 0)
  if month = 2 then (if leap then 29 else 28)
  else if month = 4 ∨ month = 6 ∨ month = 9 ∨ month = 11 then 30
  else 31

/-- The text after a character that is expected at its start. -/
def readChar (expected : Char) : List Char → Option (List Char)
  | c :: rest => if c = expected then some rest else none
  | [] => none

/-- The text after a date. -/
def readDate (text : List Char) : Option (List Char) := do
  let (century, text) ← readTwoDigits 99 text
  let (year, text) ← readTwoDigits 99 text
  let text ← readChar '-' text
  let (month, text) ← readTwoDigits 12 text
  let text ← readChar '-' text
  let (day, text) ← readTwoDigits 31 text
  if 1 ≤ month ∧ 1 ≤ day ∧ day ≤ daysOf (100 * century + year) month then some text else none

/-- The text after the parts of a second, if they are given. -/
def readFraction : List Char → Option (List Char)
  | '.' :: rest =>
      if (rest.takeWhile Char.isDigit).isEmpty then none else some (rest.dropWhile Char.isDigit)
  | rest => some rest

/-- The text after a time; its seconds may be missing. -/
def readTime (text : List Char) : Option (List Char) := do
  let (_, text) ← readTwoDigits 23 text
  let text ← readChar ':' text
  let (_, text) ← readTwoDigits 59 text
  match text with
  | ':' :: text => do
      let (_, text) ← readTwoDigits 60 text
      readFraction text
  | text => some text

/-- The text after an offset from universal time, if there is one. -/
def readOffset : List Char → Option (List Char)
  | [] => some []
  | c :: text =>
      if c = 'Z' ∨ c = 'z' then some text
      else if c = '+' ∨ c = '-' then do
        let (_, text) ← readTwoDigits 23 text
        let text ← readChar ':' text
        let (_, text) ← readTwoDigits 59 text
        some text
      else none

/-- A date, a time, or both with an optional offset. -/
def dateTime? (text : List Char) : Option Value :=
  let rest? : Option (List Char) :=
    match readDate text with
    | some [] => some []
    | some (c :: rest) =>
        if c = 'T' ∨ c = 't' ∨ c = ' ' then readTime rest >>= readOffset else none
    | none => readTime text
  if rest? = some [] then some (.dateTime (String.ofList text)) else none

/-- An unquoted value, by its complete text. -/
def scalar (text : List Char) : Option Value :=
  if text = ['t', 'r', 'u', 'e'] then some (.boolean true)
  else if text = ['f', 'a', 'l', 's', 'e'] then some (.boolean false)
  else (integer? text).or ((float? text).or (dateTime? text))

/-- A character of an unquoted value. -/
def isScalarChar (c : Char) : Bool :=
  c.isAlphanum || c == '+' || c == '-' || c == '.' || c == ':' || c == '_'

/-- An unquoted value and the text after it.  A date goes on over one space if a digit follows,
as a time may come after it. -/
def readScalar (text : List Char) : Option (Value × List Char) :=
  let first := text.takeWhile isScalarChar
  let rest := text.dropWhile isScalarChar
  let (written, rest) :=
    match readDate first, rest with
    | some [], ' ' :: c :: more =>
        if c.isDigit then
          (first ++ ' ' :: (c :: more).takeWhile isScalarChar,
            (c :: more).dropWhile isScalarChar)
        else (first, rest)
    | _, _ => (first, rest)
  (scalar written).map (·, rest)

end RecipeMatrix.Toml
