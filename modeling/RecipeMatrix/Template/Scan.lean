import RecipeMatrix.Template

/-!
# Reading templates

How a text is cut into the pieces of a template.  Two braces open a tag, a brace and `#` a
comment, a brace and `%` a verbatim block; a lone brace is text.  A hyphen next to an opening or
a closing is a trim mark.  A tag holds a name, which may have dotted parts, a difference of names,
or a truth value.  The comments that a template starts with are dropped together with their marks.

Two kinds of words are no names.  The words for the truth values are taken as such wherever a name
could start, so there is no name that begins with one of them; and `not` before a blank is an
operator.
-/

namespace RecipeMatrix.Template

/-- The blanks inside a tag. -/
def isTagBlank (c : Char) : Bool := c == ' ' || c == '\t' || c == '\r' || c == '\n'

/-- A text without the tag blanks it starts with. -/
def skipBlanks (text : List Char) : List Char := text.dropWhile isTagBlank

/-- A character that a name can start with. -/
def isNameStart (c : Char) : Bool := c.isAlpha || c == '_'

/-- A character that a name can go on with. -/
def isNamePart (c : Char) : Bool := c.isAlphanum || c == '_'

/-- What goes on a name, dotted parts included, and the text after it. -/
def nameRest : List Char → List Char × List Char
  | '.' :: c :: rest =>
      if isNamePart c then
        let (name, after) := nameRest rest
        ('.' :: c :: name, after)
      else ([], '.' :: c :: rest)
  | c :: rest =>
      if isNamePart c then
        let (name, after) := nameRest rest
        (c :: name, after)
      else ([], c :: rest)
  | [] => ([], [])

/-- A name and the text after it. -/
def readName : List Char → Option (String × List Char)
  | c :: rest =>
      if isNameStart c then
        let (name, after) := nameRest rest
        some (String.ofList (c :: name), after)
      else none
  | [] => none

/-- A truth value and the text after it. -/
def readTruth : List Char → Option (Bool × List Char)
  | 't' :: 'r' :: 'u' :: 'e' :: rest => some (true, rest)
  | 'T' :: 'r' :: 'u' :: 'e' :: rest => some (true, rest)
  | 'f' :: 'a' :: 'l' :: 's' :: 'e' :: rest => some (false, rest)
  | 'F' :: 'a' :: 'l' :: 's' :: 'e' :: rest => some (false, rest)
  | _ => none

/-- The text starts with a negation. -/
def startsNegation : List Char → Bool
  | 'n' :: 'o' :: 't' :: c :: _ => isTagBlank c
  | _ => false

/-- The trim mark after an opening, and the text after it. -/
def readMark : List Char → Bool × List Char
  | '-' :: rest => (true, rest)
  | rest => (false, rest)

/-- The end of a tag: its trim mark and the text after it. -/
def readTagEnd : List Char → Option (Bool × List Char)
  | '-' :: '}' :: '}' :: rest => some (true, rest)
  | '}' :: '}' :: rest => some (false, rest)
  | _ => none

/-- The names that are subtracted up to the end of a tag, with the mark of that end and the text
after it.  Each name takes at least one character, so the length of the text is fuel enough. -/
def readSubtrahends : Nat → List Char → Option (List String × Bool × List Char)
  | fuel, text =>
      let text := skipBlanks text
      match readTagEnd text with
      | some (mark, rest) => some ([], mark, rest)
      | none =>
          match fuel, text with
          | fuel + 1, '-' :: rest => do
              let rest := skipBlanks rest
              if (readTruth rest).isSome then none
              else do
                let (name, rest) ← readName rest
                let (names, mark, rest) ← readSubtrahends fuel rest
                some (name :: names, mark, rest)
          | _, _ => none

/-- What a tag asks for, the mark of its end, and the text after it. -/
def readExpression (text : List Char) : Option (Expression × Bool × List Char) :=
  match readTruth text with
  | some (truth, text) => do
      let (mark, rest) ← readTagEnd (skipBlanks text)
      some (.literal truth, mark, rest)
  | none =>
      if startsNegation text then none
      else do
        let (name, text) ← readName text
        let (others, mark, rest) ← readSubtrahends text.length text
        some (if others.isEmpty then .name name else .difference name others, mark, rest)

/-- A tag, after its opening braces. -/
def readTag (text : List Char) : Option (Piece × List Char) := do
  let (before, text) := readMark text
  let (expression, after, rest) ← readExpression (skipBlanks text)
  some (.tag ⟨before, after⟩ expression, rest)

/-- The end of a comment: its trim mark and the text after it. -/
def readCommentEnd : List Char → Option (Bool × List Char)
  | '-' :: '#' :: '}' :: rest => some (true, rest)
  | '#' :: '}' :: rest => some (false, rest)
  | _ :: rest => readCommentEnd rest
  | [] => none

/-- A comment, after its opening. -/
def readComment (text : List Char) : Option (Piece × List Char) := do
  let (before, text) := readMark text
  let (after, rest) ← readCommentEnd text
  some (.comment ⟨before, after⟩, rest)

/-- The end of a block tag: its trim mark and the text after it. -/
def readBlockTagEnd : List Char → Option (Bool × List Char)
  | '-' :: '%' :: '}' :: rest => some (true, rest)
  | '%' :: '}' :: rest => some (false, rest)
  | _ => none

/-- A block tag that holds one word, after its opening. -/
def readBlockTag (word : List Char) (text : List Char) : Option (TrimMarks × List Char) := do
  let (before, text) := readMark text
  let text := skipBlanks text
  if word.isPrefixOf text then
    let (after, rest) ← readBlockTagEnd (skipBlanks (text.drop word.length))
    some (⟨before, after⟩, rest)
  else none

/-- The tag that ends a verbatim block, if the text starts with it. -/
def readVerbatimEnd : List Char → Option (TrimMarks × List Char)
  | '{' :: '%' :: rest => readBlockTag ['e', 'n', 'd', 'r', 'a', 'w'] rest
  | _ => none

/-- The content of a verbatim block, the marks of the tag that ends it, and the text after it. -/
def readVerbatim : List Char → Option (List Char × TrimMarks × List Char)
  | [] => none
  | c :: rest =>
      match readVerbatimEnd (c :: rest) with
      | some (marks, after) => some ([], marks, after)
      | none => do
          let (content, marks, after) ← readVerbatim rest
          some (c :: content, marks, after)

/-- A verbatim block, after the opening of its first tag. -/
def readBlock (text : List Char) : Option (Piece × List Char) := do
  let (opening, text) ← readBlockTag ['r', 'a', 'w'] text
  let (content, closing, rest) ← readVerbatim text
  some (.verbatim ⟨opening.before, closing.after⟩ ⟨opening.after, closing.before⟩ content, rest)

/-- The plain text up to the next opening, and what follows. -/
def readText : List Char → List Char × List Char
  | [] => ([], [])
  | '{' :: c :: rest =>
      if c == '{' || c == '%' || c == '#' then ([], '{' :: c :: rest)
      else
        let (content, after) := readText (c :: rest)
        ('{' :: content, after)
  | c :: rest =>
      let (content, after) := readText rest
      (c :: content, after)

/-- The first piece of a text that is not empty, and what follows. -/
def readPiece : List Char → Option (Piece × List Char)
  | '{' :: '{' :: rest => readTag rest
  | '{' :: '#' :: rest => readComment rest
  | '{' :: '%' :: rest => readBlock rest
  | text =>
      let (content, rest) := readText text
      some (.text content, rest)

/-- The pieces of a text.  Each piece takes at least one character, so the length of the text is
fuel enough. -/
def readPieces : Nat → List Char → Option (List Piece)
  | _, [] => some []
  | 0, _ => none
  | fuel + 1, text => do
      let (piece, rest) ← readPiece text
      let pieces ← readPieces fuel rest
      some (piece :: pieces)

/-- The pieces after the comments that a list of pieces starts with. -/
def withoutLeadingComments : List Piece → List Piece
  | .comment _ :: rest => withoutLeadingComments rest
  | pieces => pieces

/-- The template that a text describes, if it is well formed. -/
def read? (source : String) : Option Template := do
  let pieces ← readPieces source.length source.toList
  some ⟨withoutLeadingComments pieces⟩

end RecipeMatrix.Template
