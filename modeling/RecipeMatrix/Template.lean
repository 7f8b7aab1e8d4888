import RecipeMatrix.Json

/-!
# Templates

What recipes need of a template is a `Renderer`: the text for some values, or the reason why there
is none.  Which engine it comes from does not matter to them.

A `Template` is one in the language of the built-in template, a sequence of pieces: plain text,
tags that stand for a value, comments, and verbatim blocks in which nothing is a tag.  Tags,
comments and blocks may carry trim marks, which take the blanks off the text next to them on that
side.  Conditions, loops, filters and functions of the language are left out.

Rendering a template puts values in as they are and never reads them again.  It fails exactly at
the first tag, in the order of the text, that stands for no value.
-/

namespace RecipeMatrix

/-- The values that a recipe is made from. -/
structure RecipeValues where
  image : String
  installDev : String
  installRuntime : String
  deriving DecidableEq, Repr

namespace RecipeValues

/-- All values at once, as the engine shows them: a JSON object over several lines. -/
def context (values : RecipeValues) : String :=
  Json.pretty (.object [
    ("image", .text values.image),
    ("install_dev", .text values.installDev),
    ("install_runtime", .text values.installRuntime)])

/-- The value of a name.  The last one is a name of the engine itself. -/
def get? (values : RecipeValues) : String → Option String
  | "image" => some values.image
  | "install_dev" => some values.installDev
  | "install_runtime" => some values.installRuntime
  | "__tera_context" => some values.context
  | _ => none

end RecipeValues

/-- What fills in a template: the text for some values, or the wording of why there is none.  Both
may depend on the values in any way. -/
structure Renderer where
  render : RecipeValues → Except String String

/-! ## Pieces -/

/-- On which sides blanks are taken off the neighbouring text. -/
structure TrimMarks where
  before : Bool
  after : Bool
  deriving DecidableEq, Repr

/-- What a tag asks for. -/
inductive Expression
  /-- The value of a name. -/
  | name (name : String)
  /-- A truth value, written out. -/
  | literal (truth : Bool)
  /-- A difference.  All values are texts, so it has no value, and its first operand says why. -/
  | difference (first : String) (others : List String)
  deriving DecidableEq, Repr

/-- A part of a template. -/
inductive Piece
  | text (content : List Char)
  | tag (marks : TrimMarks) (expression : Expression)
  | comment (marks : TrimMarks)
  /-- A block without tags; the inner marks trim its own content. -/
  | verbatim (outer inner : TrimMarks) (content : List Char)
  deriving DecidableEq, Repr

/-- A template by its pieces. -/
structure Template where
  pieces : List Piece
  deriving DecidableEq, Repr

/-! ## Rendering -/

/-- Why a tag has no value. -/
inductive RenderFault
  | unknownName (name : String)
  | notANumber (name : String)
  deriving DecidableEq, Repr

namespace RenderFault

/-- The wording of a fault. -/
def message : RenderFault → String
  | unknownName name =>
      "Failed to render 'recipe': Variable `" ++ name ++
        "` not found in context while rendering 'recipe'"
  | notANumber name =>
      "Failed to render 'recipe': Variable `" ++ name ++
        "` was used in a math operation but is not a number"

end RenderFault

namespace Template

/-- The value of an expression. -/
def value (values : RecipeValues) : Expression → Except RenderFault String
  | .name name =>
      match values.get? name with
      | some text => .ok text
      | none => .error (.unknownName name)
  | .literal truth => .ok (toString truth)
  | .difference first _ =>
      match values.get? first with
      | some _ => .error (.notANumber first)
      | none => .error (.unknownName first)

/-- A text with the blanks taken off the chosen ends. -/
def trimmed (atStart atEnd : Bool) (content : List Char) : List Char :=
  let started := if atStart then Text.trimStart content else content
  if atEnd then Text.trimEnd started else started

/-- The next piece takes the blanks off the end of a text. -/
def trimsBefore : List Piece → Bool
  | .tag marks _ :: _ => marks.before
  | .comment marks :: _ => marks.before
  | .verbatim outer _ _ :: _ => outer.before
  | _ => false

/-- The text of a list of pieces.  `trimming` says that the piece before takes the blanks off the
start of a text. -/
def renderPieces (values : RecipeValues) :
    Bool → List Piece → Except RenderFault (List Char)
  | _, [] => .ok []
  | trimming, .text content :: rest => do
      let after ← renderPieces values false rest
      .ok (trimmed trimming (trimsBefore rest) content ++ after)
  | _, .tag marks expression :: rest => do
      let text ← value values expression
      let after ← renderPieces values marks.after rest
      .ok (text.toList ++ after)
  | _, .comment marks :: rest => renderPieces values marks.after rest
  | _, .verbatim outer inner content :: rest => do
      let after ← renderPieces values outer.after rest
      .ok (trimmed inner.before inner.after content ++ after)

/-- The text that a template makes of some values. -/
def render (template : Template) (values : RecipeValues) : Except RenderFault String := do
  let text ← renderPieces values false template.pieces
  .ok (String.ofList text)

/-- A template as a renderer. -/
def renderer (template : Template) : Renderer where
  render values := (template.render values).mapError RenderFault.message

instance : Coe Template Renderer := ⟨renderer⟩

end Template

end RecipeMatrix
