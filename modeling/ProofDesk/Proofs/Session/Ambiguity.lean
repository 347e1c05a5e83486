import ProofDesk.Proofs.Document.Ambiguity
import ProofDesk.Proofs.Sentence.Grammar
import ProofDesk.Proofs.Session.Documents
import ProofDesk.Proofs.Session.Rest

/-!
# What a session reports about its text

An error that a session shows about its text is there: splitting the text from its start comes upon
it, and something opens where it is shown that is never closed (`Run.parseError_stands`), whatever
has been taken back since it was found.
-/

namespace ProofDesk.Session

variable {σ : Type} [Link σ] {s : Session σ} {h : History}

/-- On every run the error of splitting that is shown is one of the current text. -/
theorem Run.truthful (hr : Run h s) : s.document.Truthful := by
  obtain ⟨text, hreached⟩ := hr.reached
  exact hreached.truthful

omit [Link σ] in
/-- An error that is truly reported is shown where a comment or a string opens that is never
closed. -/
theorem parseError_of_truthful (ht : s.document.Truthful) {e : SplitError}
    (he : s.document.parseError = some e) :
    Sentence.splitAll s.document.text = .error e ∧
    s.snapshot.parseError = some ⟨.ofOffset s.document.text e.offset, e.message⟩ ∧
    Sentence.Grammar.Dangling (Text.bytes s.document.text) e.offset e := by
  have hsplit := ht e he
  obtain ⟨spans, -, hnext⟩ := Sentence.splitAll_eq_error_iff.1 hsplit
  refine ⟨hsplit, ?_, Sentence.dangling_of_next hnext⟩
  rw [snapshot, he]
  rfl

/-- On every run an error that is reported about the text is the one that splitting the text comes
upon. It is shown where a comment or a string opens that is never closed. -/
theorem Run.parseError_stands (hr : Run h s) {e : SplitError}
    (he : s.document.parseError = some e) :
    Sentence.splitAll s.document.text = .error e ∧
    s.snapshot.parseError = some ⟨.ofOffset s.document.text e.offset, e.message⟩ ∧
    Sentence.Grammar.Dangling (Text.bytes s.document.text) e.offset e :=
  parseError_of_truthful hr.truthful he

/-- Whatever operations have led to a session, an error that is reported about its text is the one
that splitting the text comes upon, shown where a comment or a string opens that is never closed. -/
theorem parseError_of_reachable (hr : Reachable s) {e : SplitError}
    (he : s.document.parseError = some e) :
    Sentence.splitAll s.document.text = .error e ∧
    s.snapshot.parseError = some ⟨.ofOffset s.document.text e.offset, e.message⟩ ∧
    Sentence.Grammar.Dangling (Text.bytes s.document.text) e.offset e := by
  obtain ⟨h, hrun⟩ := hr.exists_run
  exact parseError_of_truthful hrun.truthful he

/-! ## A comment that is never closed -/

/-- The text "A. (* B" with its sentence sent. -/
def frontSent : Document :=
  { text := "A. (* B", live := [⟨0, ⟨0, 2⟩, "A.", .pending, none, false⟩], doomed := [],
    unsent := [], root := some ⟨1⟩, parseError := none, nextId := 1 }

/-- The text "A. (* B" with its sentence accepted. -/
def frontAccepted : Document :=
  { frontSent with live := [⟨0, ⟨0, 2⟩, "A.", .valid .ordinary, some ⟨2⟩, false⟩] }

/-- The text "A. (* B" with its sentence accepted and no further one found. -/
def frontReported : Document :=
  { frontAccepted with parseError := some (.comment 3) }

/-- The text "A. (* B" with its sentence taken back. -/
def frontDiscarded : Document :=
  { frontReported with live := [] }

private theorem step_frontSent :
    Navigation.step .annotate { Document.ofText "A. (* B" with root := some ⟨1⟩ } (.forward 1) [] =
    .send (.add 0) (.add "A." Navigation.noEdit ⟨1⟩ false) frontSent [] := by
  cbv

/-- Behind the accepted sentence a comment is never closed, which splitting reports. -/
private theorem extendNext_frontAccepted :
    frontAccepted.extendNext = (.error (Document.splitFault (.comment 3)), frontReported) := by
  have hnext : Sentence.next frontAccepted.text (Document.endOf frontAccepted.sentences) =
      .error (.comment 3) := by
    have hsearch : Sentence.next "A. (* B" 2 = .error (.comment 3) := by cbv
    exact hsearch
  unfold Document.extendNext
  simp only [Document.splitNext, hnext]
  rfl

private theorem step_frontReported : Navigation.step .annotate frontAccepted (.forward 1) [] =
    .refuse frontReported (Document.splitFault (.comment 3)) := by
  have hblocked : frontAccepted.isBlocked .annotate = false := rfl
  simp only [Navigation.step, hblocked, extendNext_frontAccepted]
  rfl

private theorem step_frontDiscarded : Navigation.step .annotate frontReported (.backward 1) [] =
    .send (.editAt 0) (.editAt ⟨1⟩) frontReported [] := by
  cbv

/-- The sentence in front of the comment is accepted. -/
private theorem handleFrame_frontSent :
    (underway [] frontSent (some (.add 0)) [] false []).handleFrame
      (replyFrame (.add ⟨2⟩ none "")) =
      underway [] frontAccepted none [] true [] := by
  cbv

/-- The sentence in front of the comment is taken back. -/
private theorem handleFrame_frontReported :
    (underway [] frontReported (some (.editAt 0)) [] true []).handleFrame
      (replyFrame (.editAt none)) =
      underway [] frontDiscarded none [] true [] := by
  cbv

/-- No further sentence is found, since a comment is never closed. -/
private theorem exists_run_frontReported :
    ∃ h, Run h (underway [] frontReported none [] true []) := by
  have hstart : Run [.sent .init .init] (opening Channel.opened "A. (* B") :=
    (Run.start Channel.opened "A. (* B" .default).silent (.outside Channel.opened)
  have hready := hstart.move (.frame (replyFrame (.init ⟨1⟩)) rfl)
  rw [handleFrame_opening] at hready
  have hsent : Run _ (underway [] frontSent (some (.add 0)) [] false []) :=
    ((hready.move (.act (.order rfl .forward))).move
      (.act (.round (.send rfl rfl rfl step_frontSent)))).silent
      (.outside Channel.opened)
  have haccepted := hsent.move (.frame (replyFrame (.add ⟨2⟩ none "")) rfl)
  rw [handleFrame_frontSent] at haccepted
  have hrefused :=
    (haccepted.move (.act (.order rfl .forward))).move
      (.act (.round (.refuse rfl rfl rfl step_frontReported)))
  -- the editor has taken note of what was raised and shown
  refine ⟨_, hrefused.silent (.act (.quiet ?_))⟩
  have hquiet := quiet_refuse (underway [] frontReported none [.forward 1] true [])
    (Document.splitFault (.comment 3))
  exact ⟨⟨hquiet.link.symm, hquiet.settings.symm, hquiet.document.symm, hquiet.status.symm,
    hquiet.fatal.symm, hquiet.slot.symm, hquiet.queue.symm, hquiet.goalsStale.symm⟩,
    hquiet.goals.symm⟩

/-- The comment is still not closed when the sentence in front of it has been taken back. -/
theorem parseError_stands_of_discarded : ∃ (h : History) (s : Session Channel), Run h s ∧
    s.document.sentences = [] ∧ Sentence.splitAll s.document.text = .error (.comment 3) ∧
    s.snapshot.parseError = some ⟨.ofOffset s.document.text 3, (SplitError.comment 3).message⟩ ∧
    Sentence.Grammar.Dangling (Text.bytes s.document.text) 3 (.comment 3) := by
  obtain ⟨h, hreported⟩ := exists_run_frontReported
  have hback : Run _ (underway [] frontReported (some (.editAt 0)) [] true []) :=
    ((hreported.move (.act (.order rfl .backward))).move
      (.act (.round (.send rfl rfl rfl step_frontDiscarded)))).silent
      (.outside Channel.opened)
  have hdiscarded := hback.move (.frame (replyFrame (.editAt none)) rfl)
  rw [handleFrame_frontReported] at hdiscarded
  exact ⟨_, _, hdiscarded, rfl, hdiscarded.parseError_stands (e := .comment 3) rfl⟩

end ProofDesk.Session
