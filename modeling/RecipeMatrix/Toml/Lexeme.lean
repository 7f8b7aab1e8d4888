/-!
# Lexemes of TOML

The parts of a document below its keys and values: blanks, line ends and comments, which carry no
value, and quoted texts.  A reader takes what it can from the start of a text and gives back the
rest, or fails.

A text is quoted in one of four ways: basic or literal, on one line or on several.  Basic texts
have escapes, literal ones have none.  On several lines a text is closed by three quotes, and up
to two quotes right before them belong to it; a line break right after the opening quotes does
not.
-/

namespace RecipeMatrix.Toml

/-! ## Blanks, line ends and comments -/

/-- A space or a tab. -/
def isSpace (c : Char) : Bool := c == ' ' || c == '\t'

/-- A character that may stand in a comment and between the quotes of a text: anything but a
control, tabs excepted. -/
def isPlain (c : Char) : Bool := c == '\t' || (0x20 ≤ c.toNat && c.toNat != 0x7F)

/-- A text without the spaces it starts with. -/
def skipSpaces (text : List Char) : List Char := text.dropWhile isSpace

/-- The text after a line end. -/
def readNewline : List Char → Option (List Char)
  | '\n' :: rest => some rest
  | '\r' :: '\n' :: rest => some rest
  | _ => none

/-- The text after the plain characters it starts with, which end a comment. -/
def skipPlain (text : List Char) : List Char := text.dropWhile isPlain

/-- The text after a comment, if there is one.  A comment lasts to the end of its line. -/
def skipComment : List Char → List Char
  | '#' :: rest => skipPlain rest
  | text => text

/-- The text after the end of a line, which may have a comment on it, or nothing at the end of
the document. -/
def readLineEnd (text : List Char) : Option (List Char) :=
  match skipComment (skipSpaces text) with
  | [] => some []
  | rest => readNewline rest

/-- The text after all blanks, line ends and comments it starts with; the first argument says
that a comment is open. -/
def skipTrivia : Bool → List Char → Option (List Char)
  | _, [] => some []
  | _, '\n' :: rest => skipTrivia false rest
  | _, '\r' :: '\n' :: rest => skipTrivia false rest
  | true, c :: rest => if isPlain c then skipTrivia true rest else none
  | false, c :: rest =>
      if isSpace c then skipTrivia false rest
      else if c == '#' then skipTrivia true rest
      else some (c :: rest)

/-! ## Quoted texts -/

/-- The value of a hexadecimal digit. -/
def hexDigit? (c : Char) : Option Nat :=
  if '0' ≤ c && c ≤ '9' then some (c.toNat - '0'.toNat)
  else if 'a' ≤ c && c ≤ 'f' then some (c.toNat - 'a'.toNat + 10)
  else if 'A' ≤ c && c ≤ 'F' then some (c.toNat - 'A'.toNat + 10)
  else none

/-- The number that hexadecimal digits write. -/
def hexNumber? (digits : List Char) : Option Nat :=
  digits.foldlM (fun number c => (hexDigit? c).map fun digit => 16 * number + digit) 0

/-- The character of a number, unless it is a surrogate or too great. -/
def scalar? (number : Nat) : Option Char :=
  if number.isValidChar then some (Char.ofNat number) else none

/-- The character of a list of hexadecimal digits. -/
def hexChar? (digits : List Char) : Option Char := hexNumber? digits >>= scalar?

/-- The character that an escape stands for, after its backslash, and the text after it. -/
def readEscape : List Char → Option (Char × List Char)
  | 'b' :: rest => some ('\x08', rest)
  | 't' :: rest => some ('\t', rest)
  | 'n' :: rest => some ('\n', rest)
  | 'f' :: rest => some ('\x0c', rest)
  | 'r' :: rest => some ('\r', rest)
  | 'e' :: rest => some ('\x1b', rest)
  | '"' :: rest => some ('"', rest)
  | '\\' :: rest => some ('\\', rest)
  | 'x' :: a :: b :: rest => (hexChar? [a, b]).map (·, rest)
  | 'u' :: a :: b :: c :: d :: rest => (hexChar? [a, b, c, d]).map (·, rest)
  | 'U' :: a :: b :: c :: d :: e :: f :: g :: h :: rest =>
      (hexChar? [a, b, c, d, e, f, g, h]).map (·, rest)
  | _ => none

/-- What a reader found, with one more character before it. -/
def prepend (c : Char) (found : Option (List Char × List Char)) :
    Option (List Char × List Char) :=
  found.map fun (content, rest) => (c :: content, rest)

/-- The content of a basic text on one line and the text after its closing quote.  Each round
takes a character, so the length of the text is fuel enough. -/
def readBasic : Nat → List Char → Option (List Char × List Char)
  | 0, _ => none
  | fuel + 1, text =>
      match text with
      | [] => none
      | '"' :: rest => some ([], rest)
      | '\\' :: rest =>
          match readEscape rest with
          | some (c, rest) => prepend c (readBasic fuel rest)
          | none => none
      | c :: rest => if isPlain c then prepend c (readBasic fuel rest) else none

/-- The content of a literal text on one line and the text after its closing quote. -/
def readLiteral : List Char → Option (List Char × List Char)
  | [] => none
  | '\'' :: rest => some ([], rest)
  | c :: rest => if isPlain c then prepend c (readLiteral rest) else none

/-- The text after a backslash that joins lines: spaces, a line end, and all spaces and line ends
that follow. -/
def readLineJoin (text : List Char) : Option (List Char) := do
  let rest ← readNewline (skipSpaces text)
  some (skipLines rest)
where
  /-- The text after the spaces and line ends it starts with. -/
  skipLines : List Char → List Char
    | [] => []
    | '\r' :: '\n' :: rest => skipLines rest
    | c :: rest => if isSpace c || c == '\n' then skipLines rest else c :: rest

/-- The content of a basic text on several lines and the text after its closing quotes, with the
same fuel as `readBasic`. -/
def readMultilineBasic : Nat → List Char → Option (List Char × List Char)
  | 0, _ => none
  | fuel + 1, text =>
      match text with
      | [] => none
      | '"' :: '"' :: '"' :: '"' :: '"' :: rest => some (['"', '"'], rest)
      | '"' :: '"' :: '"' :: '"' :: rest => some (['"'], rest)
      | '"' :: '"' :: '"' :: rest => some ([], rest)
      | '\\' :: rest =>
          match readEscape rest with
          | some (c, rest) => prepend c (readMultilineBasic fuel rest)
          | none =>
              match readLineJoin rest with
              | some rest => readMultilineBasic fuel rest
              | none => none
      | '\r' :: '\n' :: rest => prepend '\r' (prepend '\n' (readMultilineBasic fuel rest))
      | c :: rest =>
          if isPlain c || c == '\n' then prepend c (readMultilineBasic fuel rest) else none

/-- The content of a literal text on several lines and the text after its closing quotes. -/
def readMultilineLiteral : List Char → Option (List Char × List Char)
  | [] => none
  | '\'' :: '\'' :: '\'' :: '\'' :: '\'' :: rest => some (['\'', '\''], rest)
  | '\'' :: '\'' :: '\'' :: '\'' :: rest => some (['\''], rest)
  | '\'' :: '\'' :: '\'' :: rest => some ([], rest)
  | '\r' :: '\n' :: rest => prepend '\r' (prepend '\n' (readMultilineLiteral rest))
  | c :: rest =>
      if isPlain c || c == '\n' then prepend c (readMultilineLiteral rest) else none

/-- A text without the line end it starts with. -/
def dropNewline (text : List Char) : List Char := (readNewline text).getD text

/-- A quoted text on one line, as it may be a key. -/
def readQuotedKey : List Char → Option (List Char × List Char)
  | '"' :: rest => readBasic (rest.length + 1) rest
  | '\'' :: rest => readLiteral rest
  | _ => none

/-- A quoted text in any of the four ways. -/
def readQuoted : List Char → Option (List Char × List Char)
  | '"' :: '"' :: '"' :: rest =>
      let body := dropNewline rest
      readMultilineBasic (body.length + 1) body
  | '\'' :: '\'' :: '\'' :: rest => readMultilineLiteral (dropNewline rest)
  | text => readQuotedKey text

end RecipeMatrix.Toml
