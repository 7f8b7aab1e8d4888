import RecipeMatrix.Template.Scan

/-!
# The parts of a template as they are written

The grammar of templates, apart from how they are read.  A `Part` says all that is written of a
text, a tag, a comment or a verbatim block: trim marks, the blanks inside, the content.
`Part.written` writes it down, and `Part.piece` is what remains of it when it is read.

A part is `WellFormed` when its content has nothing in it that would open or close a part there.
`Spells` puts parts together; all it asks beyond that is that a text goes as far as it can.
-/

namespace RecipeMatrix

/-- A tag of the piece stands for a name. -/
def Piece.IsPlain (piece : Piece) : Prop :=
  ∀ marks expression, piece = .tag marks expression → ∃ name, expression = .name name

namespace Template

/-! ## What parts are made of -/

/-- How a trim mark is written, if there is one. -/
def dash (mark : Bool) : List Char := if mark then ['-'] else []

/-- A text of tag blanks only. -/
def AreBlanks (text : List Char) : Prop := ∀ c ∈ text, isTagBlank c = true

/-- What can come after the first character of a name.  A dot is followed by a character that a
name can go on with. -/
inductive NameTail : List Char → Prop
  | nil : NameTail []
  | part {c : Char} {rest : List Char} (part : isNamePart c = true) (tail : NameTail rest) :
      NameTail (c :: rest)
  | dot {c : Char} {rest : List Char} (part : isNamePart c = true) (tail : NameTail rest) :
      NameTail ('.' :: c :: rest)

/-- A name, dotted parts included. -/
inductive IsName : List Char → Prop
  | intro {c : Char} {rest : List Char} (start : isNameStart c = true) (tail : NameTail rest) :
      IsName (c :: rest)

/-- The words for the truth values. -/
def truthWords : List (List Char) :=
  [['t', 'r', 'u', 'e'], ['T', 'r', 'u', 'e'], ['f', 'a', 'l', 's', 'e'], ['F', 'a', 'l', 's', 'e']]

/-- The text starts with a truth value. -/
def StartsTruth (text : List Char) : Prop := ∃ word ∈ truthWords, word <+: text

/-- The word of a negation. -/
def negationWord : List Char := ['n', 'o', 't']

/-- A name that a tag can have before some blanks.  It is not taken for a truth value or for a
negation. -/
structure IsVariable (name after : List Char) : Prop where
  isName : IsName name
  truth : ¬ StartsTruth name
  negation : name = negationWord → after = []

/-- The characters that open a tag, a block or a comment when they come after a brace. -/
def openers : List Char := ['{', '%', '#']

/-- A tag, a block or a comment opens somewhere in the text. -/
def HasOpening (text : List Char) : Prop := ∃ c ∈ openers, ['{', c] <:+: text

/-- A tag, a block or a comment opens at the start of the text. -/
def StartsOpening (text : List Char) : Prop := ∃ c ∈ openers, ['{', c] <+: text

instance (text : List Char) : Decidable (AreBlanks text) :=
  List.decidableBAll (fun c => isTagBlank c = true) text

theorem hasOpening_iff {text : List Char} :
    HasOpening text ↔
      ['{', '{'] <:+: text ∨ ['{', '%'] <:+: text ∨ ['{', '#'] <:+: text := by
  simp [HasOpening, openers]

theorem startsOpening_iff {text : List Char} :
    StartsOpening text ↔ ['{', '{'] <+: text ∨ ['{', '%'] <+: text ∨ ['{', '#'] <+: text := by
  simp [StartsOpening, openers]

/-- A tag at an end of a verbatim block: its trim marks, and the blanks around its word. -/
structure BlockTag where
  marks : TrimMarks
  before : List Char
  after : List Char
  deriving DecidableEq, Repr

namespace BlockTag

/-- A block tag with its word, as it is written. -/
def written (tag : BlockTag) (word : List Char) : List Char :=
  '{' :: '%' :: (dash tag.marks.before ++ (tag.before ++ (word ++ (tag.after ++
    (dash tag.marks.after ++ ['%', '}'])))))

/-- The word of a block tag stands between blanks. -/
structure WellFormed (tag : BlockTag) : Prop where
  before : AreBlanks tag.before
  after : AreBlanks tag.after

end BlockTag

/-- The word that starts a verbatim block. -/
def rawWord : List Char := ['r', 'a', 'w']

/-- The word that ends a verbatim block. -/
def endrawWord : List Char := ['e', 'n', 'd', 'r', 'a', 'w']

/-- A verbatim block ends somewhere in the text. -/
def HasBlockEnd (text : List Char) : Prop :=
  ∃ tag : BlockTag, tag.WellFormed ∧ tag.written endrawWord <:+: text

/-! ## Parts -/

/-- A part of a template, as it is written. -/
inductive Part
  | text (content : List Char)
  | tag (marks : TrimMarks) (before name after : List Char)
  | comment (marks : TrimMarks) (content : List Char)
  | verbatim (opening : BlockTag) (content : List Char) (closing : BlockTag)
  deriving DecidableEq, Repr

namespace Part

/-- The text of a part in its template. -/
def written : Part → List Char
  | text content => content
  | tag marks before name after =>
      '{' :: '{' :: (dash marks.before ++ (before ++ (name ++ (after ++
        (dash marks.after ++ ['}', '}'])))))
  | comment marks content =>
      '{' :: '#' :: (dash marks.before ++ (content ++ (dash marks.after ++ ['#', '}'])))
  | verbatim opening content closing =>
      opening.written rawWord ++ (content ++ closing.written endrawWord)

/-- What is read of a part. -/
def piece : Part → Piece
  | text content => .text content
  | tag marks _ name _ => .tag marks (.name (String.ofList name))
  | comment marks _ => .comment marks
  | verbatim opening content closing =>
      .verbatim ⟨opening.marks.before, closing.marks.after⟩
        ⟨opening.marks.after, closing.marks.before⟩ content

/-- The content of a part belongs to it: it does not open or close anything, and a hyphen next to
the opening or the closing of a comment is a trim mark. -/
def WellFormed : Part → Prop
  | text content => content ≠ [] ∧ ¬ HasOpening content
  | tag _ before name after => AreBlanks before ∧ IsVariable name after ∧ AreBlanks after
  | comment marks content =>
      (marks.before = false → (content ++ dash marks.after).head? ≠ some '-') ∧
        (marks.after = false → content.getLast? ≠ some '-') ∧ ¬ ['#', '}'] <:+: content
  | verbatim opening content closing =>
      opening.WellFormed ∧ ¬ HasBlockEnd content ∧ closing.WellFormed

/-- A text goes on up to the next opening, and its last brace is not part of that opening. -/
def StopsAt : Part → List Char → Prop
  | text content, rest => rest = [] ∨ (StartsOpening rest ∧ content.getLast? ≠ some '{')
  | _, _ => True

end Part

/-- The text starts with a part, and this is what follows it. -/
def StartsPart (text rest : List Char) : Prop :=
  ∃ part : Part, part.WellFormed ∧ part.StopsAt rest ∧ text = part.written ++ rest

/-- The parts that a template consists of. -/
inductive Spells : List Part → List Char → Prop
  | nil : Spells [] []
  | cons {part : Part} {parts : List Part} {rest : List Char} (wellFormed : part.WellFormed)
      (stops : part.StopsAt rest) (spelled : Spells parts rest) :
      Spells (part :: parts) (part.written ++ rest)

end Template

end RecipeMatrix
