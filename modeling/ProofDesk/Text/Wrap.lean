import ProofDesk.Text.Cluster

/-!
# Word wrapping

A line that is wider than the space for it is broken between words. Spaces at the place of a break
are dropped as far as they would have fitted behind the text before it; all other spaces are kept,
also at the front of a line. A word that is wider than a whole line is broken where the line ends.
-/

namespace ProofDesk.Text

/-- A line that is being wrapped. -/
structure Wrap where
  /-- The lines that are finished. -/
  finished : List (List Cluster)
  /-- The words of the current line that are known to fit. -/
  line : List Cluster
  /-- The spaces behind them. -/
  space : List Cluster
  /-- The word behind those. -/
  word : List Cluster
  /-- Whether a word was going on just before. -/
  inWord : Bool

namespace Wrap

/-- Nothing has been read. -/
def empty : Wrap :=
  { finished := [], line := [], space := [], word := [], inWord := false }

/-- Take the spaces and the word into the line. -/
def join (w : Wrap) : Wrap :=
  { w with line := w.line ++ w.space ++ w.word, space := [], word := [] }

/-- Whether the word ends before `x`, or has to be cut there because it fills a line of its own. -/
def endsWord (limit : Nat) (w : Wrap) (x : Cluster) : Bool :=
  (w.inWord && x.isBreak) ||
    (w.line.isEmpty && limit < columns w.word + columns w.space + x.width)

/-- Whether nothing more fits into the line. -/
def isFull (limit : Nat) (w : Wrap) (x : Cluster) : Bool :=
  limit ≤ columns w.line ||
    (0 < x.width && limit ≤ columns w.line + columns w.space + columns w.word)

/-- Spaces without those in front that fit into `room` cells. -/
def dropFitting (room : Nat) : List Cluster → List Cluster
  | [] => []
  | x :: xs => if x.width ≤ room then dropFitting (room - x.width) xs else x :: xs

/-- Finish the line. -/
def breakLine (limit : Nat) (w : Wrap) : Wrap :=
  { w with
    finished := w.finished ++ [w.line]
    line := []
    space := dropFitting (limit - columns w.line) w.space }

/-- Add a cluster behind everything. -/
def push (w : Wrap) (x : Cluster) : Wrap :=
  if x.isBreak then { w with space := w.space ++ [x], inWord := false }
  else { w with word := w.word ++ [x], inWord := true }

/-- Read a cluster. One that is wider than a line is left out. -/
def step (limit : Nat) (w : Wrap) (x : Cluster) : Wrap :=
  if limit < x.width then w
  else
    let w := if w.endsWord limit x then w.join else w
    if w.isFull limit x then
      let w := w.breakLine limit
      -- a space at the break that fitted behind the line is gone with it
      if x.isBreak && w.space.isEmpty then w else w.push x
    else w.push x

/-- The lines, once everything has been read. There is at least one. -/
def lines (w : Wrap) : List (List Cluster) :=
  let last := w.join.line
  let all := if last.isEmpty then w.finished else w.finished ++ [last]
  if all.isEmpty then [[]] else all

end Wrap

/-- The lines of at most `limit` cells that a line is broken into. -/
def wrap (limit : Nat) (line : List Cluster) : List (List Cluster) :=
  (line.foldl (Wrap.step limit) Wrap.empty).lines

end ProofDesk.Text
