import ProofDesk.Proofs.Document.ErrorRange
import ProofDesk.Proofs.Session.Shape
import ProofDesk.Proofs.Session.Splitting
import ProofDesk.Proofs.Text.Position

/-!
# Where highlights stand

On every run the marks in a snapshot fit the live sentences (`Run.shows`). Apart from the marks of
faulty parts there is one for each live sentence, at its span, so they lie one behind the other in
the text. A faulty part lies inside its sentence: the range was cut to the sentence when the error
came, and wherever edits move the sentence, the range is counted from its start.
-/

namespace ProofDesk

/-! ## The marks of sentences -/

namespace Sentence

variable {x : Sentence} {text : String}

/-- The mark of a sentence that has been sent. -/
def mark (text : String) (x : Sentence) : Highlight :=
  .ofRange text x.span <| match x.state with
    | .unprocessed | .pending => .sent
    | .valid .byAxiom => .admitted
    | .valid .ordinary => if x.processed then .verified else .sent
    | .error .. => .error

/-- The mark of the faulty part of a sentence, if it has one. -/
def faultMarks (text : String) (x : Sentence) : List Highlight :=
  match x.state with
  | .error range _ =>
    if range.length < x.size then
      [.ofRange text ⟨x.span.start + range.start, x.span.start + range.stop⟩ .errorPart]
    else []
  | _ => []

/-- A sentence that was sent has one entry for its state, and those for its faulty part. -/
theorem highlights_eq (h : x.state ≠ .unprocessed) :
    x.highlights text = x.mark text :: x.faultMarks text := by
  unfold highlights mark faultMarks
  split <;> simp_all

/-- The entry for the state of a sentence marks no faulty part. -/
theorem cls_mark (text : String) (x : Sentence) : (x.mark text).cls ≠ .errorPart := by
  unfold mark Highlight.ofRange
  cases x.state with
  | unprocessed | pending | error => simp
  | valid validity =>
    cases validity with
    | byAxiom => simp
    | ordinary =>
      dsimp only
      split <;> simp

/-- A sentence has at most one entry for a faulty part, and then it is in error. -/
theorem faultMarks_cases (text : String) (x : Sentence) : x.faultMarks text = [] ∨
    ∃ range message, x.state = .error range message ∧ x.faultMarks text =
      [.ofRange text ⟨x.span.start + range.start, x.span.start + range.stop⟩ .errorPart] := by
  unfold faultMarks
  split
  · next range message hstate =>
    split
    · exact .inr ⟨range, message, hstate, rfl⟩
    · exact .inl rfl
  · exact .inl rfl

/-- A sentence is marked from where it stands. -/
private theorem eq_ofRange_of_mem {m : Highlight} (h : m ∈ x.highlights text) :
    m = .ofRange text m.range m.cls := by
  by_cases hstate : x.state = .unprocessed
  · simp [highlights, hstate] at h
  · rw [highlights_eq hstate] at h
    rcases List.mem_cons.1 h with rfl | h
    · rfl
    · rcases x.faultMarks_cases text with hnone | ⟨range, message, -, hfault⟩
      · simp [hnone] at h
      · rw [hfault, List.mem_singleton] at h
        rw [h]
        rfl

/-- What is left without the marks of faulty parts is a mark for each sentence. -/
private theorem filter_highlights {xs : List Sentence} (hsent : ∀ x ∈ xs, x.state ≠ .unprocessed) :
    (xs.flatMap (·.highlights text)).filter (·.cls ≠ .errorPart) = xs.map (·.mark text) := by
  induction xs with
  | nil => rfl
  | cons x xs ih =>
    obtain ⟨hx, hxs⟩ := List.forall_mem_cons.1 hsent
    -- the part that is at fault has a class of its own
    have hfault : (x.faultMarks text).filter (·.cls ≠ .errorPart) = [] := by
      rcases x.faultMarks_cases text with hnone | ⟨range, message, -, hfault⟩
      · rw [hnone]
        rfl
      · rw [hfault]
        rfl
    rw [List.flatMap_cons, highlights_eq hx, List.cons_append,
      List.filter_cons_of_pos (by simpa using x.cls_mark text), List.filter_append, hfault,
      List.nil_append, ih hxs, List.map_cons]

/-- The mark of a faulty part comes right behind that of its sentence. -/
private theorem exists_of_part {xs : List Sentence} (hsent : ∀ x ∈ xs, x.state ≠ .unprocessed)
    {front back : List Highlight} {part : Highlight}
    (h : xs.flatMap (·.highlights text) = front ++ part :: back)
    (hpart : part.cls = .errorPart) :
    ∃ x ∈ xs, ∃ front', front = front' ++ [x.mark text] ∧ part ∈ x.faultMarks text := by
  induction xs generalizing front with
  | nil => simp at h
  | cons x xs ih =>
    obtain ⟨hx, hxs⟩ := List.forall_mem_cons.1 hsent
    -- a mark in front of one among the later sentences does not matter
    have hlater : ∀ marks {front}, xs.flatMap (·.highlights text) = front ++ part :: back →
        ∃ y ∈ x :: xs, ∃ front', marks ++ front = front' ++ [y.mark text] ∧
          part ∈ y.faultMarks text := by
      intro marks front hxs'
      obtain ⟨y, hy, front', rfl, hmem⟩ := ih hxs hxs'
      exact ⟨y, List.mem_cons_of_mem x hy, marks ++ front', (List.append_assoc ..).symm, hmem⟩
    rw [List.flatMap_cons, highlights_eq hx, List.cons_append] at h
    cases front with
    | nil =>
      rw [List.nil_append, List.cons.injEq] at h
      exact absurd (h.1 ▸ hpart) (x.cls_mark text)
    | cons m front =>
      rw [List.cons_append, List.cons.injEq] at h
      obtain ⟨rfl, hrest⟩ := h
      rcases x.faultMarks_cases text with hnone | ⟨range, message, -, hfault⟩
      · rw [hnone, List.nil_append] at hrest
        exact hlater [x.mark text] hrest
      · rw [hfault, List.singleton_append] at hrest
        cases front with
        | nil =>
          rw [List.nil_append, List.cons.injEq] at hrest
          exact ⟨x, List.mem_cons_self, [], rfl,
            by rw [hfault, ← hrest.1]; exact List.mem_singleton_self _⟩
        | cons m' front =>
          rw [List.cons_append, List.cons.injEq] at hrest
          exact hlater [x.mark text, m'] hrest.2

end Sentence

/-! ## Snapshots -/

/-- The marks of whole sentences. -/
def Snapshot.marks (shown : Snapshot) : List Highlight :=
  shown.highlights.filter (·.cls ≠ .errorPart)

/-- The marks in a snapshot fit the live sentences of a document. -/
structure Document.Shows (d : Document) (shown : Snapshot) : Prop where
  /-- There is one mark for each live sentence, in order and where the sentence stands. -/
  ranges : shown.marks.map (·.range) = d.live.map (·.span)
  /-- The positions of a mark are those of its range. -/
  positions : ∀ m ∈ shown.highlights, m = .ofRange d.text m.range m.cls
  inside : ∀ m ∈ shown.marks, m.range.start < m.range.stop ∧ m.range.stop ≤ Text.size d.text.toList
  apart : shown.marks.Pairwise fun m m' => m.range.stop ≤ m'.range.start
  increasing : shown.marks.Pairwise fun m m' =>
    m.range.start < m'.range.start ∧ m.range.stop < m'.range.stop
  /-- The mark of a faulty part comes right behind that of its sentence, and is inside it. -/
  parts : ∀ front part back, shown.highlights = front ++ part :: back → part.cls = .errorPart →
    ∃ x ∈ d.live, ∃ front' range message, x.state = .error range message ∧
      front = front' ++ [.ofRange d.text x.span .error] ∧
      part.range = ⟨x.span.start + range.start, x.span.start + range.stop⟩ ∧
      x.span.start ≤ part.range.start ∧ part.range.start ≤ part.range.stop ∧
      part.range.stop ≤ x.span.stop
  lockedEnd : shown.lockedEnd = (shown.marks.getLast?.map (·.stop)).getD .zero

namespace Document.WellFormed

variable {d : Document}

theorem live_sent (hw : d.WellFormed) : ∀ x ∈ d.live, x.state ≠ .unprocessed :=
  fun x hx => hw.sent x (List.mem_append_left _ hx)

theorem live_placed (hw : d.WellFormed) : ∀ x ∈ d.live, x.PlacedIn d.text :=
  fun x hx => hw.laid.placed x (List.mem_append_left _ hx)

theorem live_ordered (hw : d.WellFormed) : d.live.Pairwise fun x y => x.span.stop ≤ y.span.start :=
  (List.pairwise_append.1 hw.laid.ordered).1

/-- The mark of a faulty part is that of a sentence in error, and inside it. -/
private theorem part_inside (hw : d.WellFormed) (hf : d.FaultsInside) {front back : List Highlight}
    {part : Highlight} (h : d.highlights = front ++ part :: back) (hpart : part.cls = .errorPart) :
    ∃ x ∈ d.live, ∃ front' range message, x.state = .error range message ∧
      front = front' ++ [.ofRange d.text x.span .error] ∧
      part.range = ⟨x.span.start + range.start, x.span.start + range.stop⟩ ∧
      x.span.start ≤ part.range.start ∧ part.range.start ≤ part.range.stop ∧
      part.range.stop ≤ x.span.stop := by
  obtain ⟨x, hx, front', hfront, hmem⟩ := Sentence.exists_of_part hw.live_sent h hpart
  rcases x.faultMarks_cases d.text with hnone | ⟨range, message, hstate, hfault⟩
  · simp [hnone] at hmem
  · rw [hfault, List.mem_singleton] at hmem
    have hmark : x.mark d.text = .ofRange d.text x.span .error := by rw [Sentence.mark, hstate]
    have hrange : part.range = ⟨x.span.start + range.start, x.span.start + range.stop⟩ := by
      rw [hmem]
      rfl
    -- the size of a sentence is what its span covers
    obtain ⟨-, before, after, -, hstart, hstop⟩ := hw.live_placed x hx
    obtain ⟨hle, hsize⟩ := hf x (by simp [Document.sentences, hx]) range message hstate
    rw [Sentence.size] at hsize
    refine ⟨x, hx, front', range, message, hstate, hmark ▸ hfront, hrange, ?_⟩
    rw [hrange]
    dsimp only
    omega

end Document.WellFormed

namespace Session

variable {σ : Type} [Link σ] {s : Session σ} {h : History}

/-- On every run faulty parts lie inside their sentences. -/
theorem Run.faultsInside (hr : Run h s) : s.document.FaultsInside := by
  obtain ⟨text, hreached⟩ := hr.reached
  exact hreached.faultsInside

omit [Link σ] in
/-- The marks that are shown fit the live sentences where these are placed in the text. -/
theorem shows_of_wellFormed (hw : s.document.WellFormed) (hf : s.document.FaultsInside) :
    s.document.Shows s.snapshot := by
  have hmarks : s.snapshot.marks = s.document.live.map (·.mark s.document.text) :=
    Sentence.filter_highlights hw.live_sent
  refine ⟨?_, fun m hm => ?_, fun m hm => ?_, ?_, ?_, ?_, ?_⟩
  · rw [hmarks, List.map_map]
    rfl
  · obtain ⟨x, -, hx⟩ := List.mem_flatMap.1 hm
    exact Sentence.eq_ofRange_of_mem hx
  · rw [hmarks] at hm
    obtain ⟨x, hx, rfl⟩ := List.mem_map.1 hm
    obtain ⟨hlt, before, after, htext, -, hstop⟩ := hw.live_placed x hx
    refine ⟨hlt, ?_⟩
    -- a mark ends where its sentence does, and that is inside the text
    rw [htext, Text.size_append, Text.size_append]
    exact hstop ▸ Nat.le_add_right _ _
  · rw [hmarks, List.pairwise_map]
    exact hw.live_ordered
  · rw [hmarks, List.pairwise_map]
    -- sentences that follow each other differ in both ends, since none is empty
    refine hw.live_ordered.imp_of_mem fun {x y} hx hy hxy => ?_
    exact ⟨Nat.lt_of_lt_of_le (hw.live_placed x hx).1 hxy,
      Nat.lt_of_le_of_lt hxy (hw.live_placed y hy).1⟩
  · intro front part back hshown hpart
    exact hw.part_inside hf hshown hpart
  · rw [hmarks, List.getLast?_map]
    show Position.ofOffset s.document.text (Document.endOf s.document.live) = _
    unfold Document.endOf
    cases s.document.live.getLast? with
    | none => exact Position.ofOffset_zero _
    | some x => rfl

/-- On every run the marks that are shown fit the live sentences: they stand where the sentences
stand, one behind the other inside the text, a faulty part is shown inside its sentence, and the
sentences end where the last mark does. -/
theorem Run.shows (hr : Run h s) : s.document.Shows s.snapshot :=
  shows_of_wellFormed hr.wellFormed hr.faultsInside

/-- Whatever operations have led to a session, the marks that are shown fit its live sentences. -/
theorem shows_of_reachable (hr : Reachable s) : s.document.Shows s.snapshot := by
  obtain ⟨h, hrun⟩ := hr.exists_run
  exact shows_of_wellFormed hrun.wellFormed hrun.faultsInside

/-- The text "A. B." with its first sentence accepted and the first character of its second one in
error. -/
def secondFailed : Document :=
  { bothSent with
    live := firstAccepted.live ++ [⟨1, ⟨3, 5⟩, "B.", .error ⟨0, 1⟩ "no", none, false⟩] }

/-- The prover refuses the second sentence, and says where it fails. -/
private theorem handleFrame_failing :
    (onTwo bothSent (some ⟨.add 1, 0, false⟩) true []).handleFrame
      (.response (.fail ⟨⟨2⟩, some ⟨0, 1⟩, "no"⟩)) =
      onTwo secondFailed none true [⟨.error, "no"⟩] := by
  cbv

/-- A sentence in error is shown with its faulty part behind the one that has been accepted. -/
theorem shows_of_failed : ∃ (h : History) (s : Session Channel), Run h s ∧
    s.snapshot.highlights = [.ofRange "A. B." ⟨0, 2⟩ .sent, .ofRange "A. B." ⟨3, 5⟩ .error,
      .ofRange "A. B." ⟨3, 4⟩ .errorPart] ∧ s.snapshot.lockedEnd = ⟨0, 5⟩ ∧
      s.document.Shows s.snapshot := by
  obtain ⟨h, hsent⟩ := exists_run_bothSent
  have hfailed := hsent.move (.frame (.response (.fail ⟨⟨2⟩, some ⟨0, 1⟩, "no"⟩)) rfl)
  rw [handleFrame_failing] at hfailed
  exact ⟨_, _, hfailed, by cbv, by cbv, hfailed.shows⟩

end Session

end ProofDesk
