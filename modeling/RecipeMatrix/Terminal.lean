/-!
# Terminal text

Colours and weights of terminal output, and columns of a fixed width.  A text is painted by a
start sequence with the codes of its tint and an end sequence that resets all of them; with
colours off it stays as it is.
-/

namespace RecipeMatrix

/-- How a piece of terminal output is set off from the rest. -/
inductive Tint
  | bold
  | dimmed
  | red
  | green
  | yellow
  | cyan
  | boldRed
  deriving DecidableEq, Repr

namespace Tint

/-- The display codes of a tint, as they stand in a start sequence. -/
def codes : Tint → String
  | bold => "1"
  | dimmed => "2"
  | red => "31"
  | green => "32"
  | yellow => "33"
  | cyan => "36"
  | boldRed => "1;31"

/-- A text in this tint, or the bare text when colours are off. -/
def paint (tint : Tint) (colored : Bool) (text : String) : String :=
  if colored then "\x1b[" ++ tint.codes ++ "m" ++ text ++ "\x1b[0m" else text

@[simp]
theorem paint_plain (tint : Tint) (text : String) : tint.paint false text = text := rfl

end Tint

namespace Terminal

/-- A text filled up with spaces on the right to a column of at least `width` characters. -/
def column (width : Nat) (text : String) : String :=
  text ++ String.ofList (List.replicate (width - text.length) ' ')

/-- A text followed by a line break. -/
def line (text : String) : String := text ++ "\n"

end Terminal

end RecipeMatrix
