import ProofDesk.Document.Basic
import ProofDesk.Text.Difference

/-!
# Editing a document

An edit replaces a range of the text. The sentences in front of it stay, those behind it move along,
and the first sentence that a fresh split of the new text would not find in its place is where the
document diverges: unsent sentences are dropped from there on, sent ones are doomed until the prover
has been rolled back.

Only the neighbourhood of the edit is split again. Once a sentence behind the edit is found in its
new place, all later ones must be in theirs.
-/

namespace ProofDesk

/-- What an edit did to the sentences of a document. -/
inductive Reconciliation where
  /-- No sentence changed; those behind the edit moved. -/
  | shifted
  /-- Unsent sentences were dropped. -/
  | dropped
  /-- A sent sentence changed: the prover must go back to the state before it. -/
  | rollback (id : SentenceId)
  deriving Repr, DecidableEq, Inhabited

/-- An edit as it looks once the text has changed: the bytes from `start` to `oldStop` have become
those from `start` to `newStop`. -/
structure Edit where
  start : Nat
  oldStop : Nat
  newStop : Nat
  deriving Repr, DecidableEq, Inhabited

namespace Edit

/-- How far the text behind the edit has moved. -/
def delta (e : Edit) : Int :=
  e.newStop - e.oldStop

/-- Whether a sentence lies behind the edit. -/
def isBefore (e : Edit) (s : Sentence) : Bool :=
  e.oldStop ≤ s.span.start

/-- Where a sentence must be found after the edit if it is to survive; nowhere if the edit touches
it. -/
def image? (e : Edit) (s : Sentence) : Option Span :=
  if s.span.stop ≤ e.start then some s.span
  else if e.isBefore s then some (s.span.shift e.delta)
  else none

end Edit

namespace Document

/-- Compare sentences with a fresh split of the new text from `offset` on: those that survive, in
their new places, and those from the first that does not on, as they were. -/
def survivors (text : String) (e : Edit) (offset : Nat) :
    List Sentence → List Sentence × List Sentence
  | [] => ([], [])
  | s :: rest =>
    match e.image? s, Sentence.next text offset with
    | some image, .ok (some found) =>
      if image = found then
        -- behind the edit the old text goes on, so all later sentences are in place as well
        if e.isBefore s then ((s :: rest).map (·.shift e.delta), [])
        else
          let more := survivors text e found.stop rest
          (s :: more.1, more.2)
      else ([], s :: rest)
    | _, _ => ([], s :: rest)

/-- Bring the sentences in line with a text that an edit has already changed. -/
def reconcile (d : Document) (e : Edit) : Reconciliation × Document :=
  let d := { d with parseError := none }
  -- what is doomed is past saving, and nothing behind it counts
  let active := if d.doomed = [] then d.live ++ d.unsent else d.live
  let front := active.takeWhile (·.span.stop < e.start)
  let back := active.dropWhile (·.span.stop < e.start)
  let (kept, lost) := survivors d.text e (endOf front) back
  let surviving := front ++ kept
  match lost with
  | [] =>
    (.shifted,
      { d with
        live := surviving.take d.live.length
        unsent := if d.doomed = [] then surviving.drop d.live.length else d.unsent })
  | s :: _ =>
    if surviving.length < d.live.length then
      (.rollback s.id,
        { d with
          live := surviving
          doomed := d.live.drop surviving.length ++ d.doomed
          unsent := [] })
    else (.dropped, { d with unsent := surviving.drop d.live.length })

/-- Replace a range of the text. The range must lie in the text and end at character boundaries. -/
def replace (d : Document) (range : Span) (replacement : String) :
    Except Refusal (Reconciliation × Document) :=
  let cs := d.text.toList
  if range.start ≤ range.stop ∧ Text.IsBoundary cs range.start ∧ Text.IsBoundary cs range.stop then
    let text := String.ofList (Text.splice cs range.start range.stop replacement.toList)
    let newStop := range.start + Text.size replacement.toList
    .ok (reconcile { d with text } ⟨range.start, range.stop, newStop⟩)
  else .error (.outside range)

/-- The edit that turns one text into another: what is left between their common ends. -/
def editBetween (old new : List Char) : Edit :=
  let ends := Text.commonEnds old new
  ⟨ends.front, Text.size old - ends.back, Text.size new - ends.back⟩

/-- Replace the whole text; only where it differs do sentences change. -/
def setText (d : Document) (text : String) : Reconciliation × Document :=
  let old := d.text.toList
  let new := text.toList
  let e := editBetween old new
  -- a common front that is all of both texts
  if e.start = Text.size old ∧ e.start = Text.size new then (.shifted, d)
  else reconcile { d with text } e

end Document

end ProofDesk
