import ProofDesk.Text.Blank
import ProofDesk.Text.Joining
import ProofDesk.Text.Width

/-!
# Clusters

What a cell of a character grid holds: the characters that belong together for a reader. Control
characters are never drawn, so a text that is to be drawn is the list of its other clusters.
-/

namespace ProofDesk.Text

/-- A character with those behind it that belong to it. -/
structure Cluster where
  base : Char
  marks : List Char
  deriving Repr, DecidableEq, Inhabited

namespace Cluster

/-- The characters of a cluster. -/
def toList (c : Cluster) : List Char :=
  c.base :: c.marks

/-- The text of a cluster. -/
def text (c : Cluster) : String :=
  String.ofList c.toList

/-- The number of cells that a cluster covers. -/
def width (c : Cluster) : Nat :=
  widthFrom false c.toList

/-- Whether a line may be broken at a cluster. A no-break space is no such place, a zero-width space
is one. -/
def isBreak (c : Cluster) : Bool :=
  c.marks.isEmpty && (c.base == '\u200B' || (isBlank c.base && c.base != '\u00A0'))

end Cluster

/-- Whether `c` is a control character. -/
def isControl (c : Char) : Bool :=
  c.toNat < 0x20 || (0x7F ≤ c.toNat && c.toNat < 0xA0)

/-- The clusters of a text, of which the first has been read in part: its base, and the rest from
the last character on. -/
def clustersFrom (base : Char) (read : List Char) : List Char → List Cluster
  | [] => [⟨base, read.reverse⟩]
  | c :: cs =>
    if joins (read ++ [base]) c then clustersFrom base (c :: read) cs
    else ⟨base, read.reverse⟩ :: clustersFrom c [] cs

/-- All clusters of a text. -/
def allClusters : List Char → List Cluster
  | [] => []
  | c :: cs => clustersFrom c [] cs

/-- The clusters of a text that are drawn. Control characters belong to no others. -/
def clusters (cs : List Char) : List Cluster :=
  (allClusters cs).filter fun c => !isControl c.base

/-- The number of cells that clusters cover. -/
def columns (cs : List Cluster) : Nat :=
  cs.foldl (fun n c => n + c.width) 0

/-- No character is lost between the clusters. -/
theorem flatMap_toList_clustersFrom (base : Char) (read cs : List Char) :
    (clustersFrom base read cs).flatMap Cluster.toList = base :: (read.reverse ++ cs) := by
  induction cs generalizing base read with
  | nil => simp [clustersFrom, Cluster.toList]
  | cons c cs ih =>
    rw [clustersFrom]
    split
    · simp [ih]
    · simp [ih, Cluster.toList]

/-- Nothing is lost when a text is taken apart into clusters. -/
theorem flatMap_toList_allClusters (cs : List Char) :
    (allClusters cs).flatMap Cluster.toList = cs := by
  cases cs with
  | nil => rfl
  | cons c cs => simp [allClusters, flatMap_toList_clustersFrom]

end ProofDesk.Text
