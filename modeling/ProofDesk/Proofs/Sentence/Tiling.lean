import ProofDesk.Proofs.Sentence.Grammar
import ProofDesk.Proofs.Sentence.Splits

/-!
# Splitting tiles a text

Splitting a text takes turns: each looks for a sentence where the one found last ends (`Turn`). A
turn ends further on in the text than it begins, so the turns come to an end (`wellFounded_turn`).
What they find lies over the text like tiles (`Tiles`): sentences that are not empty, one behind the
other, cut between characters, with nothing but blanks and comments in front of each, and with no
complete sentence behind the last. No other spans do (`splitAll_tiles`).
-/

namespace ProofDesk.Sentence

open Grammar Text

variable {text : String} {offset : Nat} {span : Span} {spans : List Span}

/-! ## Turns -/

/-- A turn of splitting that begins at `p` finds a sentence, and the next one begins at its end
`q`. -/
def Turn (text : String) (q p : Nat) : Prop :=
  ∃ span, next text p = .ok (some span) ∧ span.stop = q

/-- There is no endless row of turns. -/
private theorem wellFounded_turn (text : String) : WellFounded (Turn text) := by
  refine Subrelation.wf (fun {q p} hturn => ?_) (measure fun p => (bytes text).length - p).wf
  obtain ⟨span, hnext, rfl⟩ := hturn
  obtain ⟨hstart, hstop, hlength⟩ := next_bounds hnext
  show (bytes text).length - span.stop < (bytes text).length - p
  omega

/-- The first spans that splitting finds are those that its turns find, each where the one in front
of it ends. -/
theorem splits_iff_turns : Splits text offset spans ↔
    ∀ front span back, spans = front ++ span :: back →
      next text (reach offset front) = .ok (some span) := by
  constructor
  · rintro h front span back rfl
    exact (splits_cons.1 (splits_append.1 h).2).1
  · intro h
    induction spans generalizing offset with
    | nil => exact splits_nil text offset
    | cons first later ih =>
      refine splits_cons.2 ⟨h [] first later rfl, ih fun front span back hlater => ?_⟩
      exact h (first :: front) span back (congrArg (first :: ·) hlater)

/-! ## What one turn finds -/

/-- A turn that begins between two characters finds a sentence that begins and ends between two. -/
private theorem isBoundary_of_next (hoffset : IsBoundary text.toList offset)
    (h : next text offset = .ok (some span)) :
    IsBoundary text.toList span.start ∧ IsBoundary text.toList span.stop := by
  -- the text in front of the offset is made of whole characters, and so is what is passed over and
  -- what is found
  obtain ⟨front, rest, htext, rfl⟩ := exists_of_isBoundary hoffset
  obtain ⟨before, part, after, rfl, hstart, hstop⟩ := exists_append_of_next htext h
  rw [htext, hstart, hstop]
  constructor
  · rw [List.append_assoc before, ← List.append_assoc front]
    exact isBoundary_append (front ++ before) (part ++ after)
  · rw [← List.append_assoc, ← List.append_assoc]
    exact isBoundary_append (front ++ before ++ part) after

/-- A turn passes over blanks and complete comments only. -/
private theorem skipped_of_next (h : next text offset = .ok (some span)) :
    Skipped (bytes text) offset span.start := by
  have hanswer := answer_next text offset
  rw [h] at hanswer
  cases hanswer with
  | bullet hskip => exact hskip
  | brace hskip => exact hskip
  | ended hskip => exact hskip

/-! ## What all turns find -/

/-- The sentences of a text start and end between characters. -/
theorem isBoundary_of_splits (hoffset : IsBoundary text.toList offset)
    (h : Splits text offset spans) :
    ∀ span ∈ spans, IsBoundary text.toList span.start ∧ IsBoundary text.toList span.stop := by
  induction spans generalizing offset with
  | nil => simp
  | cons first later ih =>
    obtain ⟨hnext, hlater⟩ := splits_cons.1 h
    have hfirst := isBoundary_of_next hoffset hnext
    exact List.forall_mem_cons.2 ⟨hfirst, ih hfirst.2 hlater⟩

/-- The spans lie over a text like tiles, from its begin to the end of its last complete
sentence. -/
structure Tiles (text : String) (spans : List Span) : Prop where
  nonempty : ∀ span ∈ spans, span.start < span.stop
  increasing : spans.Pairwise fun span later => span.start < later.start ∧ span.stop < later.stop
  disjoint : spans.Pairwise (·.stop ≤ ·.start)
  boundaries : ∀ span ∈ spans, IsBoundary text.toList span.start ∧ IsBoundary text.toList span.stop
  /-- Only blanks and complete comments stand in front of a span, behind the one before it. -/
  gaps : ∀ front span back, spans = front ++ span :: back →
    Skipped (bytes text) (reach 0 front) span.start
  /-- A span is the sentence that is found next where the one before it ends. -/
  found : ∀ front span back, spans = front ++ span :: back →
    next text (reach 0 front) = .ok (some span)
  /-- No complete sentence stands behind the last span. -/
  rest : next text (reach 0 spans) = .ok none

/-- All sentences of a text, with nothing behind them, tile it. -/
theorem tiles_of_splits (h : Splits text 0 spans) (hrest : next text (reach 0 spans) = .ok none) :
    Tiles text spans := by
  obtain ⟨hdisjoint, hbehind⟩ := ordered_of_splits h
  have hfound := splits_iff_turns.1 h
  have hboundaries := isBoundary_of_splits (isBoundary_append [] text.toList) h
  refine ⟨fun span hspan => (hbehind span hspan).2, ?_, hdisjoint, hboundaries, ?_, hfound, hrest⟩
  -- a span that begins behind another and is not empty also ends behind it
  · refine hdisjoint.imp_of_mem fun hspan hlater hle => ?_
    have hnonempty := (hbehind _ hspan).2
    have hlast := (hbehind _ hlater).2
    omega
  · intro front span back heq
    exact skipped_of_next (hfound front span back heq)

/-- Splitting a text comes to an end, and where it succeeds, it finds the spans that tile the
text. -/
theorem splitAll_tiles (text : String) :
    WellFounded (Turn text) ∧ ∀ spans, splitAll text = .ok spans ↔ Tiles text spans := by
  refine ⟨wellFounded_turn text, fun spans => splitAll_eq_ok_iff.trans ⟨?_, ?_⟩⟩
  · rintro ⟨hsplits, hrest⟩
    exact tiles_of_splits hsplits hrest
  · intro htiles
    exact ⟨splits_iff_turns.2 htiles.found, htiles.rest⟩

end ProofDesk.Sentence
