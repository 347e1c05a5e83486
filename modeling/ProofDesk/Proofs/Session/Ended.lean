import ProofDesk.Proofs.Document.Placement
import ProofDesk.Proofs.Session.Answer

/-!
# Sessions that have ended

A session ends when its connection fails or when it is closed, wherever it then is: in a call, in
the middle of a queue, or waiting for an answer. Nothing that it is asked for afterwards makes it
talk to its prover (`Inert`), and nothing that can happen to it makes it anything but a session that
has ended in the same way (`Run.terminal`).
-/

namespace ProofDesk

namespace Document

variable {d d' : Document} {outcome : Reconciliation}

theorem text_replace {range : Span} {replacement : String}
    (h : d.replace range replacement = .ok (outcome, d')) :
    d'.text =
      String.ofList (Text.splice d.text.toList range.start range.stop replacement.toList) := by
  unfold replace at h
  dsimp only at h
  split at h
  · have heq := congrArg (·.2.text) (Except.ok.inj h)
    dsimp only at heq
    rw [← heq, text_reconcile]
  · simp at h

theorem text_setText (d : Document) (text : String) : (d.setText text).2.text = text := by
  rw [setText_eq]
  split
  · next hsame => exact hsame
  · exact text_reconcile ..

end Document

namespace Session

variable {σ : Type} {s t : Session σ} {h es : History}

/-- The session has been broken or closed. -/
def HasEnded (s : Session σ) : Prop :=
  s.status = .broken ∨ s.status = .closed

/-- Why a session that has ended takes no orders: the fault that broke it, or that it was closed. -/
def ending (s : Session σ) : Fault :=
  s.fatal.getD (.invalidOperation "session is closed")

/-- A session that has ended is not in conversation. -/
theorem HasEnded.not_active (he : s.HasEnded) : ¬ s.Active := by
  unfold Active
  rcases he with h | h <;> simp [h]

/-- A session that is neither starting nor ready has ended. -/
theorem HasEnded.of_not_active (h : ¬ s.Active) : s.HasEnded := by
  unfold Active at h
  unfold HasEnded
  cases hstatus : s.status with
  | starting => exact absurd (.inl hstatus) h
  | ready => exact absurd (.inr hstatus) h
  | broken => exact .inl rfl
  | closed => exact .inr rfl

/-- Whether a session has ended depends on its status alone. -/
theorem HasEnded.of_eq (he : s.HasEnded) (hstatus : t.status = s.status) : t.HasEnded := by
  unfold HasEnded
  rw [hstatus]
  exact he

/-- A session in order that has ended is not alive. -/
theorem Orderly.isAlive_eq_false (ho : s.Orderly) (he : s.HasEnded) : s.isAlive = false := by
  rw [← Bool.not_eq_true, ho.alive]
  exact he.not_active

/-- A session that has ended refuses navigation and says how it ended. -/
theorem Orderly.refusal?_eq (ho : s.Orderly) (he : s.HasEnded) : s.refusal? = some s.ending := by
  have hdead := ho.isAlive_eq_false he
  unfold refusal? ending
  cases hfatal : s.fatal with
  | some fault => rfl
  | none =>
    -- without a fault only being closed ends a session
    have hclosed : s.status = .closed := by simpa [isAlive, hfatal] using hdead
    rw [if_pos hclosed]
    rfl

/-- A session that is broken knows the fault that broke it. -/
theorem Orderly.fatal_isSome (ho : s.Orderly) (hbroken : s.status = .broken) : s.fatal.isSome := by
  have hdead := ho.isAlive_eq_false (.inl hbroken)
  rw [Option.isSome_iff_ne_none]
  intro hnone
  simp [isAlive, hnone, hbroken] at hdead

@[simp] theorem fatal_noteEdit (s : Session σ) (outcome : Reconciliation) :
    (noteEdit s outcome).fatal = s.fatal := by
  rw [noteEdit_eq]

@[simp] theorem goalsStale_noteEdit (s : Session σ) (outcome : Reconciliation) :
    (noteEdit s outcome).goalsStale = s.goalsStale := by
  rw [noteEdit_eq]

variable [Link σ]

/-! ## What is asked of a session that has ended -/

/-- How a session that has ended takes whatever it is asked for. Where the session is the same
afterwards, so is its link: nothing has been handed over or received. -/
structure Inert (s : Session σ) : Prop where
  forward : s.forward = (.error s.ending, s)
  backward : s.backward = (.error s.ending, s)
  toCursor : ∀ position, s.toCursor position = (.error s.ending, s)
  requestStatus : s.requestStatus = (.error s.ending, s)
  /-- Nothing has changed, and no notification is raised. -/
  poll : s.poll = (false, s)
  /-- The prover is not told to quit; a link that has failed is given up once more. -/
  close : s.close =
    if s.status = .closed then s else { s with status := .closed, link := Link.close s.link }
  /-- An edit is taken into the document, and into nothing else. -/
  applyEdit : ∀ start stop replacement, s.applyEdit start stop replacement =
    match s.document.replace ⟨start.toOffset s.document.text, stop.toOffset s.document.text⟩
      replacement with
    | .ok (outcome, document) => (.ok outcome, { s with document })
    | .error refusal => (.error refusal.toFault, s)
  setText : ∀ text, s.setText text =
    ((s.document.setText text).1, { s with document := (s.document.setText text).2 })

/-- Where nobody listens any more, an edit asks for no rollback. -/
theorem afterEdit_of_refusal (hrefusal : s.refusal?.isSome) (outcome : Reconciliation) :
    s.afterEdit outcome = s := by
  unfold Session.afterEdit
  split
  · rw [if_pos hrefusal]
  · rfl

/-- Closing a session that has ended closes its link, unless that has been done. -/
theorem close_of_ended (ho : s.Orderly) (he : s.HasEnded) :
    s.close = if s.status = .closed then s
    else { s with status := .closed, link := Link.close s.link } := by
  obtain ⟨hslot, hqueue⟩ := ho.idle he.not_active
  unfold Session.close
  split
  · rfl
  · next hopen =>
    have hfatal := ho.fatal_isSome (he.resolve_right hopen)
    have hquit : ¬ (s.fatal.isNone ∧ s.request.isNone) := by
      rw [Option.isSome_iff_ne_none] at hfatal
      simp [hfatal]
    rw [if_neg hquit, ← hqueue, ← (slot_eq_none_iff s).1 hslot]

/-- A session in order that has ended does nothing any more. -/
theorem Orderly.inert (ho : s.Orderly) (he : s.HasEnded) : s.Inert := by
  -- a session that has ended refuses whatever it is asked, and waits for nothing
  have hrefusal := ho.refusal?_eq he
  have hdead := ho.isAlive_eq_false he
  have hfree : s.request = none := (slot_eq_none_iff s).1 (ho.idle he.not_active).1
  have hnot : ¬ (s.request.isNone ∧ s.status = .ready) := fun h => he.not_active (.inr h.2)
  have hedited : ∀ document, (Session.refusal? { s with document }).isSome := fun _ =>
    Option.isSome_of_eq_some hrefusal
  refine ⟨?_, ?_, fun position => ?_, ?_, ?_, close_of_ended ho he,
    fun start stop replacement => ?_, fun text => ?_⟩
  · rw [Session.forward, hrefusal]
  · rw [Session.backward, hrefusal]
  · rw [Session.toCursor, hrefusal]
  · rw [Session.requestStatus, hrefusal]
  · -- nothing is received, no call can be late, and nothing can be sent
    have hreceive : s.receive = (false, s) := by simp [Session.receive, hdead]
    have htimeout : s.checkTimeout = (false, s) := by simp [checkTimeout, hfree]
    have hpump : s.pump = s := by rw [Session.pump, if_neg hnot]
    simp only [Session.poll, hreceive, htimeout, hpump, Bool.or_self]
  · unfold Session.applyEdit
    dsimp only
    split
    · next hreplace => rw [hreplace]
    · next outcome document hreplace => rw [hreplace, afterEdit_of_refusal (hedited document)]
  · unfold Session.setText
    dsimp only
    rw [afterEdit_of_refusal (hedited _)]

/-! ## What happens to a session that has ended -/

/-- No act of a session that has ended sends anything or brings it back. -/
theorem Act.of_ended (ha : Act s es t) (ho : s.Orderly) (he : s.HasEnded) :
    es = [] ∧ t.HasEnded ∧ t.fatal = s.fatal ∧ t.goalsStale = s.goalsStale := by
  have hrefusal := ho.refusal?_eq he
  -- what sends is for sessions that are ready, or that take orders
  have hready : s.status ≠ .ready := fun h => he.not_active (.inr h)
  cases ha with
  | quiet hs => exact ⟨rfl, he.of_eq hs.status, hs.fatal, hs.goalsStale⟩
  | order halive => simp [hrefusal] at halive
  | edit => exact ⟨rfl, he.of_eq (status_noteEdit ..), fatal_noteEdit .., goalsStale_noteEdit ..⟩
  | round hround => cases hround with
    | send _ h | proceed _ h | refuse _ h | goal _ h => exact absurd h hready
  | status halive => simp [hrefusal] at halive
  | close =>
    refine ⟨?_, .inr (status_close s), ?_⟩
    · unfold farewell
      split
      · next hquit =>
        have hfatal := ho.fatal_isSome (he.resolve_right hquit.1)
        rw [Option.isSome_iff_ne_none] at hfatal
        exact absurd (Option.isNone_iff_eq_none.1 hquit.2.1) hfatal
      · rfl
    · rw [close_of_ended ho he]
      split <;> exact ⟨rfl, rfl⟩

/-- Nothing that happens to a session that has ended sends anything or brings it back. -/
theorem Moves.of_ended (hm : Moves s es t) (ho : s.Orderly) (he : s.HasEnded) :
    es = [] ∧ t.HasEnded ∧ t.fatal = s.fatal ∧ t.goalsStale = s.goalsStale := by
  have hdead := ho.isAlive_eq_false he
  cases hm with
  | outside link => exact ⟨rfl, he, rfl, rfl⟩
  | act ha => exact ha.of_ended ho he
  | frame frame halive => simp [hdead] at halive
  | lose fault halive => simp [hdead] at halive

/-- A session that has ended stays so, with the fault that it ended with, if any. -/
theorem Follows.of_ended (hf : Follows s es t) (ho : s.Orderly) (he : s.HasEnded) :
    es = [] ∧ t.Orderly ∧ t.HasEnded ∧ t.fatal = s.fatal := by
  induction hf with
  | refl => exact ⟨rfl, ho, he, rfl⟩
  | move _ hm ih =>
    obtain ⟨rfl, ho', he', hfatal'⟩ := ih
    obtain ⟨rfl, he'', hfatal'', -⟩ := hm.of_ended ho' he'
    exact ⟨rfl, ho'.move hm, he'', hfatal''.trans hfatal'⟩

/-- The text after an edit that a session has taken is the one that the edit asks for. -/
theorem Inert.text_applyEdit (ht : t.Inert) {start stop : Position} {replacement : String}
    {outcome : Reconciliation} (hok : (t.applyEdit start stop replacement).1 = .ok outcome) :
    (t.applyEdit start stop replacement).2.document.text =
      String.ofList (Text.splice t.document.text.toList (start.toOffset t.document.text)
        (stop.toOffset t.document.text) replacement.toList) := by
  rw [ht.applyEdit] at hok ⊢
  split at hok
  · next hreplace => exact Document.text_replace hreplace
  · simp at hok

/-- The text of a session that has ended can still be replaced. -/
theorem Inert.text_setText (ht : t.Inert) (text : String) :
    (t.setText text).2.document.text = text := by
  rw [ht.setText]
  exact Document.text_setText t.document text

/-- However a session has ended, whatever happens next sends no call and takes up no frame. The
session stays broken or closed, keeps the fault that broke it, refuses orders with it, and only its
text changes with edits. -/
theorem Run.terminal (hr : Run h s) (he : s.HasEnded) (hf : Follows s es t) :
    es = [] ∧ t.HasEnded ∧ t.fatal = s.fatal ∧ (s.status = .broken → s.fatal.isSome) ∧ t.Inert ∧
      (∀ start stop replacement outcome, (t.applyEdit start stop replacement).1 = .ok outcome →
        (t.applyEdit start stop replacement).2.document.text =
          String.ofList (Text.splice t.document.text.toList (start.toOffset t.document.text)
            (stop.toOffset t.document.text) replacement.toList)) ∧
      ∀ text, (t.setText text).2.document.text = text := by
  obtain ⟨rfl, ho, he', hfatal⟩ := hf.of_ended hr.orderly he
  have hinert := ho.inert he'
  exact ⟨rfl, he', hfatal, hr.orderly.fatal_isSome, hinert, fun _ _ _ _ => hinert.text_applyEdit,
    hinert.text_setText⟩

/-- A session whose link has failed while it waited for an answer. -/
def lost : Session Channel :=
  (waiting sentCalls).fail .connectionLost

/-- After its link has failed a session takes a new text, and still says why it goes no further. -/
theorem terminal_of_lost :
    ∃ (h : History) (t : Session Channel), Run h lost ∧ lost.status = .broken ∧
    Follows lost [] t ∧ t.document.text = "B." ∧ t.link = lost.link ∧
    t.forward = (.error .connectionLost, t) ∧
    t.poll = (false, t) := by
  have hrun : Run sentHistory lost := run_waiting.silent (.lose .connectionLost rfl)
  -- the text is edited after the connection was lost
  obtain ⟨es, hf, -⟩ := (Follows.refl lost).operate (.setText "B.")
  rw [List.nil_append] at hf
  obtain ⟨-, -, -, -, hlost, -, htext⟩ := hrun.terminal (.inl rfl) (.refl lost)
  obtain ⟨rfl, -, hfatal, -, hinert, -⟩ := hrun.terminal (.inl rfl) hf
  have hending : ending (lost.perform (.setText "B.")) = .connectionLost := by
    rw [ending, hfatal]
    rfl
  refine ⟨_, _, hrun, rfl, hf, htext "B.", ?_, ?_, hinert.poll⟩
  · exact congrArg (·.2.link) (hlost.setText "B.")
  · rw [hinert.forward, hending]

end Session

end ProofDesk
