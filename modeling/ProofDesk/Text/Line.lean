/-!
# Lines of a text

Two ways to see a text as lines. `lines` are the ones a panel shows: a line feed ends a line, a
carriage return in front of it belongs to the ending, and a text that ends in a line feed has no
empty line after it. `firstLine` and `afterLine?` cut at the first line feed only, which is how
positions count lines.
-/

namespace ProofDesk.Text

/-- The characters before the first line feed. -/
def firstLine (cs : List Char) : List Char :=
  cs.takeWhile (· != '\n')

/-- The characters after the first line feed, if there is one. -/
def afterLine? : List Char → Option (List Char)
  | [] => none
  | c :: cs => if c = '\n' then some cs else afterLine? cs

/-- A line without the carriage return that ends it. -/
def dropReturn (line : List Char) : List Char :=
  if line.getLast? = some '\r' then line.dropLast else line

/-- The lines of a text whose first line has already begun with the characters `line`, last
first. -/
def linesAfter (line : List Char) : List Char → List String
  | [] => if line.isEmpty then [] else [String.ofList line.reverse]
  | c :: cs =>
    if c = '\n' then String.ofList (dropReturn line.reverse) :: linesAfter [] cs
    else linesAfter (c :: line) cs

/-- The lines of a text as a panel shows them. -/
def lines (s : String) : List String :=
  linesAfter [] s.toList

end ProofDesk.Text
