/-!
The lines of a text. A line ends at a line feed, which belongs to no line, and a carriage return
right before that line feed is dropped with it. Text after the last line feed is a line of its own
unless it is empty.
-/

namespace FuelDuel.Text

/-- Drops one carriage return from the end of a line that is given in reverse. -/
def dropReturn : List Char → List Char
  | '\r' :: rest => rest
  | line => line

/-- Splits off the lines of `chars`; `current` holds the line read so far, in reverse. -/
def linesFrom (current : List Char) : List Char → List (List Char)
  | [] => if current.isEmpty then [] else [current.reverse]
  | c :: rest =>
      if c = '\n' then (dropReturn current).reverse :: linesFrom [] rest
      else linesFrom (c :: current) rest

/-- The lines of a text. -/
def lines (text : String) : List String := (linesFrom [] text.toList).map String.ofList

end FuelDuel.Text
