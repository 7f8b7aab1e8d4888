import RecipeMatrix.Toml.Draft
import RecipeMatrix.Toml.Lexeme

/-!
# TOML documents

A document is a list of statements, each on a line of its own but for line breaks inside values:
a value for a key, the header of a table, or the header of one more table of a list.  The table
that it describes comes about by adding its statements one after the other, values to the table
of the header before them.

Arrays and inline tables may be nested up to a fixed depth, which also bounds the recursion of
`readValue`.
-/

namespace RecipeMatrix.Toml

/-- A key: one or more steps joined by dots. -/
abbrev Key := List String

/-- A statement of a document. -/
inductive Statement
  | assign (key : Key) (value : Value)
  | header (key : Key)
  | element (key : Key)

/-- How deep arrays and inline tables may be nested, and how many steps a key may have. -/
def maxDepth : Nat := 80

/-- A reader takes what it can from the start of a text and gives back the rest. -/
abbrev Reader (α : Type) := List Char → Option (α × List Char)

/-! ## Keys -/

/-- A character of an unquoted key. -/
def isBareKeyChar (c : Char) : Bool := c.isAlphanum || c == '_' || c == '-'

/-- One step of a key. -/
def readStep : Reader String := fun text =>
  match readQuotedKey text with
  | some (content, rest) => some (String.ofList content, rest)
  | none =>
      let name := text.takeWhile isBareKeyChar
      if name.isEmpty then none
      else some (String.ofList name, text.dropWhile isBareKeyChar)

/-- A key of at most so many steps, with the spaces around it. -/
def readSteps : Nat → Reader Key
  | 0, _ => none
  | more + 1, text => do
      let (step, text) ← readStep (skipSpaces text)
      match skipSpaces text with
      | '.' :: text => do
          let (steps, text) ← readSteps more text
          some (step :: steps, text)
      | text => some ([step], text)

/-- A key with the spaces around it. -/
def readKey : Reader Key := readSteps maxDepth

/-! ## Values -/

/-- A key and its value. -/
def readPair (readInner : Reader Value) : Reader (Key × Value) := fun text => do
  let (key, text) ← readKey text
  match text with
  | '=' :: text => do
      let (value, text) ← readInner (skipSpaces text)
      some ((key, value), text)
  | _ => none

/-- The items of a bracketed list after its opening, separated by commas up to `closing`; a comma
may follow the last one.  Each item takes a character, so the length of the text is fuel
enough. -/
def readItems {α : Type} (readItem : Reader α) (closing : Char) : Nat → Reader (List α)
  | 0, _ => none
  | fuel + 1, text => do
      match ← skipTrivia false text with
      | [] => none
      | c :: rest =>
          if c = closing then some ([], rest)
          else do
            let (item, text) ← readItem (c :: rest)
            match ← skipTrivia false text with
            | [] => none
            | c :: rest =>
                if c = closing then some ([item], rest)
                else if c = ',' then do
                  let (items, rest) ← readItems readItem closing fuel rest
                  some (item :: items, rest)
                else none

/-- Adds a pair to the entries of a table. -/
def addPair (entries : Drafts) (key : Key) (value : Value) : Option Drafts :=
  match key.getLast? with
  | none => none
  | some last => entries.insert last value key.dropLast

/-- The table of a list of pairs, if no key is taken twice. -/
def inlineTable (pairs : List (Key × Value)) : Option Value := do
  let entries ← pairs.foldlM (fun entries pair => addPair entries pair.1 pair.2) []
  some (.table (Drafts.table entries))

/-- A value in which arrays and inline tables are nested at most so deep. -/
def readValue : Nat → Reader Value
  | _, '"' :: text => (readQuoted ('"' :: text)).map fun (content, rest) =>
      (.text (String.ofList content), rest)
  | _, '\'' :: text => (readQuoted ('\'' :: text)).map fun (content, rest) =>
      (.text (String.ofList content), rest)
  | 0, text => readScalar text
  | depth + 1, '[' :: text => do
      let (items, rest) ← readItems (readValue depth) ']' (text.length + 1) text
      some (.array items, rest)
  | depth + 1, '{' :: text => do
      let (pairs, rest) ← readItems (readPair (readValue depth)) '}' (text.length + 1) text
      let table ← inlineTable pairs
      some (table, rest)
  | _, text => readScalar text

/-! ## Statements -/

/-- The text after a header's closing brackets. -/
def readClosing (brackets text : List Char) : Option (List Char) :=
  if brackets.isPrefixOf text then some (text.drop brackets.length) else none

/-- One statement, up to the end of its line. -/
def readStatement : Reader Statement
  | '[' :: '[' :: text => do
      let (key, text) ← readKey text
      let text ← readClosing [']', ']'] text
      let text ← readLineEnd text
      some (.element key, text)
  | '[' :: text => do
      let (key, text) ← readKey text
      let text ← readClosing [']'] text
      let text ← readLineEnd text
      some (.header key, text)
  | text => do
      let ((key, value), text) ← readPair (readValue maxDepth) text
      let text ← readLineEnd text
      some (.assign key value, text)

/-- The statements of a text.  Each one takes a character, so the length of the text is fuel
enough. -/
def readStatements : Nat → List Char → Option (List Statement)
  | fuel, text => do
      match ← skipTrivia false text with
      | [] => some []
      | rest =>
          match fuel with
          | 0 => none
          | fuel + 1 => do
              let (statement, rest) ← readStatement rest
              let statements ← readStatements fuel rest
              some (statement :: statements)

/-! ## Documents -/

/-- A document that has been read in part: its entries, and the key of the last header. -/
structure Progress where
  entries : Drafts
  current : Key

/-- Adds one statement to what has been read. -/
def Progress.add (progress : Progress) : Statement → Option Progress
  | .assign key value => do
      let entries ←
        Drafts.alter (fun entries => addPair entries key value) progress.current progress.entries
      some { progress with entries }
  | .header key =>
      match key.getLast? with
      | none => none
      | some last => do
          let entries ← Drafts.alter (Drafts.openTable last) key.dropLast progress.entries
          some ⟨entries, key⟩
  | .element key =>
      match key.getLast? with
      | none => none
      | some last => do
          let entries ← Drafts.alter (Drafts.openElement last) key.dropLast progress.entries
          some ⟨entries, key⟩

/-- The table of a list of statements, if they agree with each other. -/
def assemble (statements : List Statement) : Option Table := do
  let progress ← statements.foldlM Progress.add ⟨[], []⟩
  some (Drafts.table progress.entries)

/-- The mark that a text in Unicode may start with. -/
def byteOrderMark : Char := '\ufeff'

/-- A text without the byte order mark it starts with. -/
def withoutMark : List Char → List Char
  | [] => []
  | c :: text => if c = byteOrderMark then text else c :: text

/-- The table of a document, if it is well formed. -/
def read? (document : String) : Option Table := do
  let text := withoutMark document.toList
  let statements ← readStatements text.length text
  assemble statements

end RecipeMatrix.Toml
