/-!
# Lines of a text

A line ends at a line feed, and a carriage return right before that belongs to the ending. A text
that ends with a line feed has no empty line behind it.
-/

namespace Shaderbox.Text

/-- A line, given in reverse, without the carriage return of its ending. -/
def endedLine : List Char → List Char
  | '\r' :: line => line.reverse
  | line => line.reverse

/-- The lines of a text that begins in the middle of a line, whose beginning is given in reverse. -/
def linesFrom (line : List Char) : List Char → List (List Char)
  | [] => if line.isEmpty then [] else [line.reverse]
  | c :: rest =>
    if c = '\n' then endedLine line :: linesFrom [] rest else linesFrom (c :: line) rest

/-- The lines of a text. -/
def lines (text : List Char) : List (List Char) :=
  linesFrom [] text

end Shaderbox.Text
