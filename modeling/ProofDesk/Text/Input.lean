import ProofDesk.Text.Cut
import ProofDesk.Text.Line
import ProofDesk.Text.Utf8

/-!
# Lines in a byte stream

Streams of lines arrive in pieces. A line ends with a line feed, and a carriage return in front of
that belongs to the ending; what a stream ends with is a line if it is not empty. The bytes of a
line may fail to be UTF-8.
-/

namespace ProofDesk.Text

/-- The lines that bytes hold, each with its line feed, and the bytes behind the last line feed. -/
def cutLines : List UInt8 → List (List UInt8) × List UInt8
  | [] => ([], [])
  | b :: bs =>
    let (lines, rest) := cutLines bs
    if b = '\n'.toUInt8 then ([b] :: lines, rest)
    else match lines with
      | [] => ([], b :: rest)
      | line :: lines => ((b :: line) :: lines, rest)

/-- Nothing is lost when bytes are cut into lines. -/
theorem flatten_cutLines (bs : List UInt8) : (cutLines bs).1.flatten ++ (cutLines bs).2 = bs := by
  induction bs with
  | nil => rfl
  | cons b bs ih =>
    simp only [cutLines]
    split
    · simp [ih]
    · split
      · next h => rw [h] at ih; simpa using ih
      · next h => rw [h] at ih; simpa using ih

/-- A line that is not UTF-8: how many of its bytes are, and what comes then. -/
structure BadLine where
  good : Nat
  ending : Ending
  deriving Repr, DecidableEq

/-- The wording of a line that is not UTF-8. -/
def BadLine.message (e : BadLine) : String :=
  match e.ending with
  | .invalid length => s!"invalid utf-8 sequence of {length} bytes from index {e.good}"
  | _ => s!"incomplete utf-8 byte sequence from index {e.good}"

/-- A line without its ending. -/
def dropEnding (line : List Char) : List Char :=
  if line.getLast? = some '\n' then dropReturn line.dropLast else line

/-- The text of a line, without its ending. -/
def lineText (bs : List UInt8) : Except BadLine String :=
  match decode bs with
  | (cs, .complete) => .ok (String.ofList (dropEnding cs))
  | (cs, ending) => .error ⟨size cs, ending⟩

end ProofDesk.Text
