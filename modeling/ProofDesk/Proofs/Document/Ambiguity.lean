import Mathlib
import ProofDesk.Proofs.Document.WellFormed

/-!
# What a document reports about its text

What is wrong with a text is found when sentences are split off behind others that may be discarded
later. It is still wrong then, for those sentences are the first of the text, and what is wrong
behind them is what splitting the text from its start comes upon (`Truthful.grows`). So a document
that reports an error reports one that its text has (`Reached.truthful`).
-/

namespace ProofDesk.Document

/-- The error that the document reports, if it does, is the one that splitting its text comes
upon. -/
def Truthful (d : Document) : Prop :=
  ∀ e, d.parseError = some e → Sentence.splitAll d.text = .error e

variable {d d' : Document}

/-- A document that shows no error of splitting claims nothing. -/
theorem truthful_of_none (h : d.parseError = none) : d.Truthful :=
  fun e he => by simp [h] at he

/-- Marking a sentence leaves the error of splitting as it is. -/
theorem parseError_modifyAt (d : Document) (i : Nat) (f : Sentence → Sentence) :
    (d.modifyAt i f).parseError = d.parseError := by
  unfold modifyAt
  split
  · rfl
  · split <;> rfl

/-- An edit forgets the error of splitting. -/
theorem parseError_reconcile (d : Document) (e : Edit) : (d.reconcile e).2.parseError = none := by
  rw [reconcile_eq]
  split
  · rfl
  · split <;> rfl

namespace Truthful

/-- Whether the error that is shown is true depends on the text and that error alone. -/
theorem congr (h : d.Truthful) (htext : d'.text = d.text) (herror : d'.parseError = d.parseError) :
    d'.Truthful := by
  intro e he
  rw [htext]
  exact h e (herror ▸ he)

/-- What cannot be split behind the last sentence cannot be split from the start. -/
theorem grows (h : d.Truthful) (hw : d.WellFormed) (hd : d.doomed = []) (hg : d.Grows d') :
    d'.Truthful := by
  cases hg with
  | refl => exact h
  | @push spans parseError hs he =>
    intro e herror
    have hall : d.sentences = d.live ++ d.unsent := by rw [sentences, hd, List.append_nil]
    have hreach : Sentence.reach 0 ((d.live ++ d.unsent).map (·.span)) = endOf d.sentences := by
      rw [Sentence.reach_map_span, hall]
    refine Sentence.splitAll_eq_error_iff.2 ⟨(d.live ++ d.unsent).map (·.span) ++ spans, ?_, ?_⟩
    · exact Sentence.splits_append.2 ⟨hw.splits, hreach ▸ hs⟩
    · rw [Sentence.reach_append, hreach]
      exact he e herror

/-- A document stays truthful when a sentence is marked. -/
theorem modifyAt (h : d.Truthful) (i : Nat) (f : Sentence → Sentence) : (d.modifyAt i f).Truthful :=
  h.congr (text_modifyAt d i f) (parseError_modifyAt d i f)

/-- A document stays truthful when a sentence is marked that its identifier finds. -/
theorem of_lockedIndex (h : d.Truthful) {id : SentenceId} {f : Sentence → Sentence}
    (hmark : (d.lockedIndex id).map (d.modifyAt · f) = .ok d') : d'.Truthful := by
  obtain ⟨i, -, rfl⟩ := exists_of_lockedIndex hmark
  exact h.modifyAt i f

/-- A text that changes is not reported on until it is split again. -/
theorem edit (h : d.Truthful) {outcome : Reconciliation} (he : d.Edits outcome d') :
    d'.Truthful := by
  rcases he.eq_or_turns with ⟨-, rfl⟩ | ⟨text, e, -, hreconcile⟩
  · exact h
  · have hnone := parseError_reconcile { d with text } e
    rw [hreconcile] at hnone
    exact truthful_of_none hnone

/-- Every operation on a well-formed document keeps it truthful. -/
theorem perform (h : d.Truthful) (hw : d.WellFormed) {op : Operation}
    (hop : op.splits = true → d.doomed = []) :
    (d.perform op).Truthful := by
  -- only what splits sentences off or edits the text sets the error
  cases op with
  | setRoot state => exact h.congr rfl rfl
  | extendNext => exact h.grows hw (hop rfl) (grows_extendNext d)
  | extendTo offset => exact h.grows hw (hop rfl) (grows_extendTo d offset)
  | markPending id =>
    refine of_getD h fun d' hpending => ?_
    obtain ⟨x, later, -, -, -, rfl⟩ := markPending_eq hpending
    exact h.congr rfl rfl
  | markValid id state validity => exact of_getD h fun d' hvalid => h.of_lockedIndex hvalid
  | markError id location message => exact of_getD h fun d' herror => h.of_lockedIndex herror
  | markAxiom index | markProcessed index => exact h.modifyAt index _
  | truncateTo id => exact of_truncateTo id h fun i => h.congr rfl rfl
  | truncateAt index => exact h.congr rfl rfl
  | replace range replacement => exact of_replace range replacement h fun _ _ he => h.edit he
  | setText text => exact h.edit (.setText text)

end Truthful

/-- Whatever is done to a new document, an error that it reports is the one that splitting its text
comes upon. -/
theorem Reached.truthful {text : String} (hr : Reached (ofText text) d) : d.Truthful := by
  induction hr with
  | refl => exact truthful_of_none rfl
  | perform hr op hop ih => exact ih.perform (hr.wellFormed (.ofText text)) hop

end ProofDesk.Document
