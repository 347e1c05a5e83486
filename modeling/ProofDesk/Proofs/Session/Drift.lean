import ProofDesk.Proofs.Session.Answer

/-!
# Sessions of which nothing is asked

Between two orders of an editor a session goes on by itself: what can be sent is sent (`Pumps`),
frames are taken up, time passes, and the link changes or fails (`Drift`). Polling is a chain of
such steps (`drifts_poll`), in which only the frames that have arrived are taken up.
-/

namespace ProofDesk

/-- Whether feedback reports an error in a sentence. -/
def Feedback.reportsError (feedback : Feedback) : Bool :=
  match feedback.content with
  | .errorMsg .. | .message .error .. => true
  | _ => false

namespace Session

variable {σ : Type}

/-- Feedback that reports no error marks a sentence at most. -/
theorem handleFeedback_cases (s : Session σ) {feedback : Feedback}
    (h : feedback.reportsError = false) :
    (∃ i, s.document.indexOfState? feedback.state = some i ∧
      (s.handleFeedback feedback = { s with document := s.document.markAxiom i } ∨
        s.handleFeedback feedback = { s with document := s.document.markProcessed i })) ∨
      s.Agrees (s.handleFeedback feedback) := by
  unfold Feedback.reportsError at h
  unfold handleFeedback
  dsimp only
  split
  · split
    · next i hi => exact .inl ⟨i, hi, .inl rfl⟩
    · exact .inr (Agrees.refl s)
  · split
    · next i hi => exact .inl ⟨i, hi, .inr rfl⟩
    · exact .inr (Agrees.refl s)
  · next hcontent => simp [hcontent] at h
  · next hcontent => simp [hcontent] at h
  · exact .inr (agrees_log ..)
  · exact .inr (Agrees.refl s)

variable [Link σ] {s t u : Session σ} {h : History} {ok : Session σ → Inbound → Prop}

/-- What can happen next in a session of which nothing is asked, where only frames that are `ok` are
taken up. -/
inductive Drift (ok : Session σ → Inbound → Prop) : Session σ → Session σ → Prop
  | outside {s : Session σ} (link : σ) : Drift ok s { s with link }
  | quiet {s s' : Session σ} (h : s.Quiet s') : Drift ok s s'
  | pump {s s' : Session σ} (h : Pumps s s') : Drift ok s s'
  | frame {s : Session σ} {frame : Inbound} (halive : s.isAlive = true) (hok : ok s frame) :
    Drift ok s (s.handleFrame frame)
  | lose {s : Session σ} (fault : Fault) (halive : s.isAlive = true) : Drift ok s (s.fail fault)

/-- What happens in a session of which nothing is asked, in any number of steps. -/
abbrev Drifts (ok : Session σ → Inbound → Prop) : Session σ → Session σ → Prop :=
  Relation.ReflTransGen (Drift ok)

/-- What a session does by itself is a move. -/
private theorem Drift.exists_moves (hd : Drift ok s t) : ∃ es, Moves s es t := by
  cases hd with
  | outside link => exact ⟨_, .outside link⟩
  | quiet h => exact ⟨_, .act (.quiet h)⟩
  | pump h =>
    obtain ⟨es, hround⟩ := h
    exact ⟨es, .act (.round hround)⟩
  | frame halive hok => exact ⟨_, .frame _ halive⟩
  | lose fault halive => exact ⟨_, .lose fault halive⟩

/-- Carrying out the queue goes on with what a session does by itself. -/
theorem Drifts.pump (hd : Drifts ok s t) : Drifts ok s t.pump :=
  hd.trans ((pumps_pump t).lift id fun _ _ hp => .pump hp)

/-- Taking up what has arrived, where the frames are in order, asks nothing of a session. -/
theorem drifts_receive (hok : ∀ frame ∈ (Link.receive s.link).1.frames, ∀ u,
      Drifts ok s u → ok u frame) :
    Drifts ok s s.receive.2.checkTimeout.2 := by
  have hreceive : Drifts ok s s.receive.2 := by
    refine receive_keep (P := Drifts ok s) .refl (.single (.outside _)) ?_ ?_
    · exact fun frame hframe t ht halive => ht.tail (.frame halive (hok frame hframe t ht))
    · exact fun fault _ t ht halive => ht.tail (.lose fault halive)
  exact hreceive.tail (.quiet (quiet_checkTimeout _))

/-- Polling a session, where the frames that have arrived are in order, asks nothing of it. -/
theorem drifts_poll (hok : ∀ frame ∈ (Link.receive s.link).1.frames, ∀ u,
      Drifts ok s u → ok u frame) :
    Drifts ok s s.poll.2 :=
  (drifts_receive hok).pump

/-- What happens by itself continues a run. -/
private theorem Run.exists_of_drift (hr : Run h s) (hd : Drift ok s t) : ∃ h', Run h' t := by
  obtain ⟨es, hm⟩ := hd.exists_moves
  exact ⟨_, hr.move hm⟩

/-- A run goes on with whatever a session does by itself. -/
theorem Run.exists_of_drifts (hr : Run h s) (hd : Drifts ok s t) : ∃ h', Run h' t := by
  induction hd with
  | refl => exact ⟨h, hr⟩
  | tail _ hd ih =>
    obtain ⟨h', hr'⟩ := ih
    exact hr'.exists_of_drift hd

/-- What every step keeps on a run is kept however much happens. -/
theorem Drifts.keep {P : Session σ → Prop} (hr : Run h s) (hs : P s) (hd : Drifts ok s t)
    (hstep : ∀ {h' : History} {u v : Session σ}, Run h' u → P u → Drift ok u v → P v) : P t := by
  induction hd with
  | refl => exact hs
  | tail hprefix hd ih =>
    obtain ⟨h', hr'⟩ := hr.exists_of_drifts hprefix
    exact hstep hr' ih hd

end Session

end ProofDesk
