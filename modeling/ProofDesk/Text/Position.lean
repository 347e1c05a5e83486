import ProofDesk.Text.Cut
import ProofDesk.Text.Line

/-!
# Editor positions

An editor points into a document by line and column, both from zero, where a column counts UTF-8
bytes. Both numbers have 32 bits. A position outside the text stands for the nearest offset before
it: a column past the end of its line for the end of that line, a column inside a character for
where the character begins, a line past the last one for the end of the text.
-/

namespace ProofDesk

/-- A line and a byte column, both counted from zero. -/
structure Position where
  /-- The number of line feeds in front. -/
  line : UInt32
  /-- The number of bytes between the start of the line and the position. -/
  character : UInt32
  deriving Repr, DecidableEq, Inhabited

namespace Position

/-- The start of every text. -/
def zero : Position := ⟨0, 0⟩

/-- The offset of a position in `cs`, where `line` lines are still to be passed. -/
def offsetIn (line column : Nat) (cs : List Char) : Nat :=
  match line with
  | 0 => Text.size (Text.upTo (Text.firstLine cs) column)
  | line + 1 =>
    match Text.afterLine? cs with
    | none => Text.size cs
    | some rest => Text.size cs - Text.size rest + offsetIn line column rest

/-- The byte offset that a position stands for in a text. -/
def toOffset (text : String) (p : Position) : Nat :=
  offsetIn p.line.toNat p.character.toNat text.toList

/-- The characters after the last line feed. -/
def lastLine (cs : List Char) : List Char :=
  (Text.firstLine cs.reverse).reverse

/-- The position of a byte offset. An offset past the end stands for the end, and an offset inside a
character has the column that counts the bytes in front of it. -/
def ofOffset (text : String) (offset : Nat) : Position :=
  let cs := text.toList
  let offset := min offset (Text.size cs)
  let front := Text.upTo cs offset
  let lineStart := Text.size front - Text.size (lastLine front)
  { line := UInt32.ofNat (front.count '\n')
    character := UInt32.ofNat (offset - lineStart) }

/-- Whether `p` stands at or before `q`: lines first, then columns. -/
def le (p q : Position) : Prop :=
  p.line < q.line ∨ p.line = q.line ∧ p.character ≤ q.character

instance : LE Position := ⟨le⟩

instance (p q : Position) : Decidable (p ≤ q) :=
  inferInstanceAs (Decidable (p.line < q.line ∨ p.line = q.line ∧ p.character ≤ q.character))

end Position

end ProofDesk
