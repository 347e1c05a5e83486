import Mathlib
import ProofDesk.Proofs.Document.WellFormed
import ProofDesk.Proofs.Session.Answer

/-!
# The document of a session

A session changes its document only through the operations that documents have, and nothing is split
off while sentences wait for a rollback. So the document of a session is one that operations lead to
(`Run.reached`), and what holds of all such documents holds of it at any time.
-/

namespace ProofDesk

namespace Document

variable {d d' d'' : Document}

/-- Operations that lead on from where others have led lead there all together. -/
theorem Reached.trans (h : Reached d d') (h' : Reached d' d'') : Reached d d'' := by
  induction h' with
  | refl => exact h
  | perform _ op hop ih => exact ih.perform op hop

/-- One operation leads to what it leaves. -/
theorem reached_perform (d : Document) (op : Operation) (hop : op.splits = true → d.doomed = []) :
    Reached d (d.perform op) :=
  Reached.refl.perform op hop

/-- Sending a sentence is an operation. -/
theorem reached_markPending {id : SentenceId} (h : d.markPending id = .ok d') : Reached d d' := by
  have hr := reached_perform d (.markPending id) (by simp [Operation.splits])
  rwa [perform, h] at hr

/-- Going back to a sentence is an operation. -/
theorem reached_truncateTo (d : Document) (id : SentenceId) : Reached d (d.truncateTo id).2 :=
  reached_perform d (.truncateTo id) (by simp [Operation.splits])

/-- Taking sentences off the end is an operation. -/
theorem reached_truncateAt (d : Document) (i : Nat) : Reached d (d.truncateAt i).2 :=
  reached_perform d (.truncateAt i) (by simp [Operation.splits])

/-- Accepting a sentence is an operation. -/
theorem reached_acceptAt (hn : d.Numbered) {i : Nat} {x : Sentence} (hx : d.sent[i]? = some x)
    (state : StateId) :
    Reached d (d.acceptAt i state) := by
  have hr := reached_perform d (.markValid x.id state .ordinary) (by simp [Operation.splits])
  rwa [perform, markValid_eq hn hx] at hr

/-- Refusing a sentence is an operation. -/
theorem reached_refuseAt (hn : d.Numbered) {i : Nat} {x : Sentence} (hx : d.sent[i]? = some x)
    (location : Option Location) (message : String) :
    Reached d (d.refuseAt i location message) := by
  have hr := reached_perform d (.markError x.id location message) (by simp [Operation.splits])
  rwa [perform, markError_eq hn hx] at hr

/-- Every edit is an operation. -/
theorem Edits.reached {outcome : Reconciliation} (he : d.Edits outcome d') : Reached d d' := by
  cases he with
  | @replace range replacement _ _ h =>
    have hr := reached_perform d (.replace range replacement) (by simp [Operation.splits])
    rwa [perform, h] at hr
  | setText text => exact reached_perform d (.setText text) (by simp [Operation.splits])

end Document

/-! ## Steps of the navigation -/

/-- The document that a step of the navigation leaves. -/
def Step.document : Step → Document
  | send _ _ document _ | proceed document _ | refuse document _ => document

namespace Navigation

variable {policy : AxiomPolicy} {d : Document} {op : Navigation} {rest : List Navigation}

/-- Operations lead to the document that goes with sending a sentence. -/
theorem reached_sendSentence (d : Document) (id : SentenceId) (rest : List Navigation) :
    d.Reached (sendSentence d id rest).document := by
  unfold sendSentence
  split
  · exact .refl
  · split
    · exact .refl
    · next hpending => exact Document.reached_markPending hpending

/-- Operations lead to the document that goes with a rollback. -/
theorem reached_rewindTo (d : Document) (index : Nat) (rest : List Navigation) :
    d.Reached (rewindTo d index rest).document := by
  unfold rewindTo
  split
  · exact .refl
  · split
    · exact .refl
    · exact d.reached_truncateTo _

/-- Only an operation that may send sentences splits some off. -/
theorem reached_step (policy : AxiomPolicy) (rest : List Navigation)
    (hd : op.advances = true → d.doomed = []) :
    d.Reached (step policy d op rest).document := by
  -- splitting is an operation of the document only where no sentence is doomed
  have hsplit : op.advances = true → ∀ found? d', d.extendNext = (found?, d') → d.Reached d' := by
    intro hop found? d' h
    have hr := d.reached_perform .extendNext fun _ => hd hop
    rwa [Document.perform, h] at hr
  have hnext := comesNext_step policy d op rest
  generalize step policy d op rest = t at hnext
  cases hnext with
  | done | held | barred => exact .refl
  | back => exact reached_rewindTo _ _ _
  | unsplit hadvances _ _ hext | ended hadvances _ _ hext => exact hsplit hadvances _ _ hext
  | past hop _ _ hext => exact hsplit (hop ▸ rfl) _ _ hext
  | next hadvances _ _ hext => exact (hsplit hadvances _ _ hext).trans (reached_sendSentence _ _ _)

end Navigation

/-! ## Runs -/

namespace Session

variable {σ : Type} {s s' : Session σ}

/-- Operations lead to the document that looking at the queue leaves. -/
theorem Orderly.reached_step (h : s.Orderly) (hfree : s.request = none) (hready : s.status = .ready)
    {op : Navigation} {rest : List Navigation} (hqueue : s.queue = op :: rest) {step : Step}
    (hstep : Navigation.step s.settings.axiomPolicy s.document op rest = step) :
    s.document.Reached step.document :=
  hstep ▸ Navigation.reached_step _ _ (h.doomed_eq_nil_of_advances hfree hready hqueue)

variable [Link σ]

/-- Operations lead to the document that an act of the session leaves. -/
theorem Orderly.act_reached (h : s.Orderly) {es : History} (ha : Act s es s') :
    s.document.Reached s'.document := by
  -- only an edit and a step of the queue touch the document
  cases ha with
  | quiet hs => exact hs.document ▸ .refl
  | order halive ho => exact .refl
  | edit he =>
    rw [document_noteEdit]
    exact he.reached
  | round hround =>
    cases hround with
    | send hfree hready hqueue hstep =>
      rw [document_send]
      exact h.reached_step hfree hready hqueue hstep
    | proceed hfree hready hqueue hstep => exact h.reached_step hfree hready hqueue hstep
    | refuse hfree hready hqueue hstep =>
      rw [(quiet_refuse _ _).document]
      exact h.reached_step hfree hready hqueue hstep
    | goal hfree hready hqueue hstale =>
      rw [document_send]
      exact .refl
  | status halive hfree =>
    rw [document_send]
    exact .refl
  | close =>
    rw [document_close]
    exact .refl

/-- Operations lead to the document that taking up a frame leaves. -/
theorem Takes.reached {frame : Inbound} (hn : s.document.Numbered) (ht : Takes s frame s') :
    s.document.Reached s'.document := by
  -- an answer marks its sentence or takes it back, and news mark the sentence that they are about
  cases ht with
  | broken fault => exact .refl
  | @started _ state _ hslot hreply hs =>
    rw [hs.document]
    exact s.document.reached_perform (.setRoot state) (by simp [Document.Operation.splits])
  | accepted hslot hx hreply hs => exact hs.document ▸ Document.reached_acceptAt hn hx _
  | refused hslot hx hs => exact hs.document ▸ Document.reached_refuseAt hn hx _ _
  | acceptedLate hslot hid hs => exact hs.document ▸ .refl
  | refusedLate hslot hid hs => exact hs.document ▸ .refl
  | rolledBack hslot hs => exact hs.document ▸ s.document.reached_truncateTo _
  | told hslot hrequest hs => exact hs.document ▸ .refl
  | @admitted _ i hi =>
    exact s.document.reached_perform (.markAxiom i) (by simp [Document.Operation.splits])
  | @processed _ i hcontent hi =>
    exact s.document.reached_perform (.markProcessed i) (by simp [Document.Operation.splits])
  | failed hi hx hs =>
    exact hs.document ▸ (Document.reached_refuseAt hn hx _ _).trans
      (Document.reached_truncateAt _ _)
  | heard hs => exact hs.document ▸ .refl

/-- On every run the document is one that operations lead to from the text that the session was
started with. -/
theorem Run.reached {h : History} (hr : Run h s) :
    ∃ text, (Document.ofText text).Reached s.document := by
  induction hr with
  | start link text settings =>
    rw [Session.start, document_send]
    exact ⟨text, .refl⟩
  | move hr hm ih =>
    obtain ⟨text, hreached⟩ := ih
    have ho := hr.orderly
    refine ⟨text, hreached.trans ?_⟩
    cases hm with
    | outside link => exact .refl
    | act ha => exact ho.act_reached ha
    | frame frame halive => exact (ho.takes_handleFrame frame).reached ho.coherent.numbered
    | lose fault halive => exact .refl

/-- On every run the live and unsent sentences are the first of the text. -/
theorem Run.wellFormed {h : History} (hr : Run h s) : s.document.WellFormed := by
  obtain ⟨text, hreached⟩ := hr.reached
  exact hreached.wellFormed (.ofText text)

/-- On every run the live and unsent sentences are placed in the text. -/
theorem Run.laid {h : History} (hr : Run h s) : s.document.Laid :=
  hr.wellFormed.laid

end Session

end ProofDesk
