import ProofDesk.Proofs.Document.Placement

/-!
# Replacing the whole text

A new text is compared with the old one from both ends, and what is left between the common ends is
replaced. An edit that turns one text into another is the replacement of a part by what stands there
in the new text (`Edit.Turns.replace_eq`), so replacing the whole text comes to replacing the part
that differs (`setText_valid_edit`).
-/

namespace ProofDesk

open Text

/-- What stands in the new text where an edit has been made. -/
def Edit.replacement (e : Edit) (new : List Char) : List Char :=
  slice new e.start e.newStop

namespace Edit.Turns

variable {e : Edit} {old new : List Char}

/-- An edit starts between characters of the old text. -/
private theorem isBoundary_start (ht : e.Turns old new) : IsBoundary old e.start := by
  obtain ⟨front, mid, mid', back, rfl, -, hstart, -, -⟩ := ht
  rw [hstart, List.append_assoc]
  exact isBoundary_append _ _

/-- What an edit replaces ends between characters of the old text. -/
private theorem isBoundary_stop (ht : e.Turns old new) : IsBoundary old e.oldStop := by
  obtain ⟨front, mid, mid', back, rfl, -, -, hstop, -⟩ := ht
  rw [hstop, ← size_append]
  exact isBoundary_append _ _

/-- The part of the new text that an edit puts in reaches from its start to its new end. -/
private theorem size_replacement (ht : e.Turns old new) :
    e.start + size (e.replacement new) = e.newStop := by
  obtain ⟨front, mid, mid', back, -, rfl, hstart, -, hstop⟩ := ht
  rw [replacement, hstart, hstop, slice_append]

/-- Putting that part into the old text gives the new one. -/
theorem splice_replacement (ht : e.Turns old new) :
    splice old e.start e.oldStop (e.replacement new) = new := by
  obtain ⟨front, mid, mid', back, rfl, rfl, hstart, hstop, hstop'⟩ := ht
  rw [replacement, hstart, hstop, hstop', slice_append, splice_append]

/-- An edit that turns the text of a document into another one can be made by replacing a part. -/
theorem replace_eq {d : Document} {text : String} (ht : e.Turns d.text.toList text.toList) :
    d.replace ⟨e.start, e.oldStop⟩ (String.ofList (e.replacement text.toList)) =
      .ok (Document.reconcile { d with text } e) := by
  unfold Document.replace
  dsimp only
  rw [if_pos ⟨ht.start_le, ht.isBoundary_start, ht.isBoundary_stop⟩, String.toList_ofList,
    ht.splice_replacement, ht.size_replacement, String.ofList_toList]

end Edit.Turns

namespace Document

/-- Comparing two texts always has a result: the longest common front of whole characters and, of
what that leaves of either text, the longest common back. The edit between these ends turns the old
text into the new one, and replacing the whole text of a document by one that differs is making this
edit: it leaves what replacing the part between the common ends leaves. -/
theorem setText_valid_edit (d : Document) (text : String) :
    ∃ (ends : Ends) (e : Edit), commonEnds? d.text.toList text.toList = some ends ∧
      IsGreatest (commonFronts d.text.toList text.toList) ends.front ∧
      IsGreatest (commonBacks d.text.toList text.toList ends.front) ends.back ∧
      e = ⟨ends.front, size d.text.toList - ends.back, size text.toList - ends.back⟩ ∧
      splice d.text.toList e.start e.oldStop (e.replacement text.toList) = text.toList ∧
      (d.text ≠ text → d.setText text = reconcile { d with text } e ∧
        d.replace ⟨e.start, e.oldStop⟩ (String.ofList (e.replacement text.toList)) =
          .ok (d.setText text)) := by
  obtain ⟨hfront, hback⟩ := isGreatest_commonEnds d.text.toList text.toList
  have hturns := turns_editBetween d.text.toList text.toList
  refine ⟨commonEnds d.text.toList text.toList, editBetween d.text.toList text.toList,
    commonEnds?_eq_some _ _, hfront, hback, rfl, hturns.splice_replacement, fun hne => ?_⟩
  rw [hturns.replace_eq, setText_eq, if_neg hne]
  exact ⟨rfl, rfl⟩

/-- Both ends of what differs stop inside a character at first: the first bytes of "é" and "è" are
the same, and so are the last ones of "ĩ" and "é". -/
theorem setText_valid_edit_of_accents :
    "aéĩ" ≠ "aèé" ∧ commonEnds? "aéĩ".toList "aèé".toList = some ⟨1, 0⟩ ∧
    (ofText "aéĩ").replace ⟨1, 5⟩ "èé" = .ok ((ofText "aéĩ").setText "aèé") := by
  have hne : "aéĩ" ≠ "aèé" := by decide
  obtain ⟨ends, e, hends, -, -, rfl, -, hset⟩ := setText_valid_edit (ofText "aéĩ") "aèé"
  have hfound : commonEnds? "aéĩ".toList "aèé".toList = some ⟨1, 0⟩ := by decide
  obtain rfl : ends = ⟨1, 0⟩ := Option.some.inj (hends.symm.trans hfound)
  exact ⟨hne, hfound, (hset hne).2⟩

end Document

end ProofDesk
