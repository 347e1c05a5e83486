import ProofDesk.Proofs.Session.Act

/-!
# What frames leave alone

An answer or feedback that can be applied changes the document, the queue and what is shown of the
prover, and an answer frees the slot. It has nothing to do with the link, notifies nobody and breaks
nothing (`Keeps`). Only an answer can be one that cannot be applied, and then the session breaks
over it (`keeps_or_fails`).
-/

namespace ProofDesk.Session

variable {σ : Type}

/-- The link, the fault and the notifications of a session are kept, and nothing else is waited
for. -/
structure Keeps (s t : Session σ) : Prop where
  link : t.link = s.link
  fatal : t.fatal = s.fatal
  notifications : t.notifications = s.notifications
  request : t.request = s.request ∨ t.request = none

variable {s t u : Session σ}

theorem Keeps.refl (s : Session σ) : s.Keeps s :=
  ⟨rfl, rfl, rfl, .inl rfl⟩

theorem Keeps.trans (h : s.Keeps t) (h' : t.Keeps u) : s.Keeps u := by
  refine ⟨h'.link.trans h.link, h'.fatal.trans h.fatal, h'.notifications.trans h.notifications, ?_⟩
  rcases h'.request with heq | hfree
  · rw [heq]
    exact h.request
  · exact .inr hfree

/-- Logging a message touches neither link nor fault nor notifications. -/
theorem Keeps.log (h : s.Keeps t) (level : MessageLevel) (text : String) :
    s.Keeps (t.log level text) := by
  rw [log_eq]
  exact ⟨h.link, h.fatal, h.notifications, h.request⟩

/-! ## What an answer changes -/

/-- A change of the document that succeeds leaves the rest of the session. -/
theorem exists_of_withDocument {d : Except Document.Refusal Document}
    (hs : s.withDocument d = .ok t) :
    ∃ document, t = { s with document } := by
  cases d with
  | ok document => exact ⟨document, (Except.ok.inj hs).symm⟩
  | error refusal => simp [withDocument] at hs

/-- A good answer changes none of what the link has, what waits in the queue and what is to be
reported, and it changes the goals only where they were asked for. -/
theorem exists_of_applyReply {request : Request} {reply : Reply request.kind}
    (hs : s.applyReply request reply = .ok t) :
    ∃ document status goals goalsStale messages proverStatus,
      t = { s with document, status, goals, goalsStale, messages, proverStatus } ∧
      (request ≠ .goal → goals = s.goals) := by
  cases request with
  | add id =>
    cases reply with
    | add state closed message =>
      simp only [applyReply] at hs
      split at hs
      · -- the sentence is gone
        obtain rfl := Except.ok.inj hs
        exact ⟨_, _, _, _, _, _, rfl, fun _ => rfl⟩
      · -- marking fails where the sentence is not locked, and then the answer is a fault
        cases hmarked : s.withDocument (s.document.markValid id state .ordinary) with
        | error fault =>
          rw [hmarked] at hs
          cases hs
        | ok s' =>
          obtain ⟨document, rfl⟩ := exists_of_withDocument hmarked
          rw [hmarked] at hs
          obtain rfl := Except.ok.inj hs
          rw [log_eq]
          exact ⟨_, _, _, _, _, _, rfl, fun _ => rfl⟩
  | goal =>
    cases reply
    obtain rfl := Except.ok.inj hs
    exact ⟨_, _, _, _, _, _, rfl, fun hgoal => absurd rfl hgoal⟩
  | init | editAt id | status | quit =>
    cases reply
    obtain rfl := Except.ok.inj hs
    exact ⟨_, _, _, _, _, _, rfl, fun _ => rfl⟩

/-- A refusal is shown, and changes the document and what is still to be sent. -/
theorem exists_of_applyFailure {request : Request} {failure : Failure}
    (hs : s.applyFailure request failure = .ok t) :
    ∃ document queue goalsStale,
      t = log { s with document, queue, goalsStale } .error failure.message := by
  cases request with
  | init => simp [applyFailure] at hs
  | add id =>
    unfold applyFailure at hs
    dsimp only at hs
    split at hs
    · cases hmarked : s.withDocument (s.document.markError id failure.location failure.message) with
      | error fault =>
        rw [hmarked] at hs
        cases hs
      | ok s' =>
        obtain ⟨document, rfl⟩ := exists_of_withDocument hmarked
        rw [hmarked] at hs
        exact ⟨_, _, _, (Except.ok.inj hs).symm⟩
    · exact ⟨_, _, _, (Except.ok.inj hs).symm⟩
  | editAt id | goal | status | quit => exact ⟨_, _, _, (Except.ok.inj hs).symm⟩

/-- Using a reply touches neither link nor fault nor notifications. -/
theorem keeps_applyReply {request : Request} {reply : Reply request.kind}
    (hs : s.applyReply request reply = .ok t) :
    s.Keeps t := by
  obtain ⟨_, _, _, _, _, _, rfl, -⟩ := exists_of_applyReply hs
  exact ⟨rfl, rfl, rfl, .inl rfl⟩

/-- Using a refusal touches neither link nor fault nor notifications. -/
theorem keeps_applyFailure {request : Request} {failure : Failure}
    (hs : s.applyFailure request failure = .ok t) :
    s.Keeps t := by
  obtain ⟨document, queue, goalsStale, rfl⟩ := exists_of_applyFailure hs
  have hkeeps : s.Keeps { s with document, queue, goalsStale } := ⟨rfl, rfl, rfl, .inl rfl⟩
  exact hkeeps.log .error failure.message

/-- A response touches neither link nor fault nor notifications. -/
theorem keeps_handleResponse {response : Response} (hs : s.handleResponse response = .ok t) :
    s.Keeps t := by
  -- the slot is free from here on, also for what an answer leads to
  have hfreed : s.Keeps { s with request := none } := ⟨rfl, rfl, rfl, .inr rfl⟩
  unfold handleResponse at hs
  split at hs
  · cases hs
  · dsimp only at hs
    split at hs
    · split at hs
      · exact hfreed.trans (keeps_applyReply hs)
      · cases hs
    · exact hfreed.trans (keeps_applyFailure hs)

/-- An error of a sentence touches neither link nor fault nor notifications. -/
theorem keeps_sentenceError (s : Session σ) (index : Option Nat) (location : Option Location)
    (message : String) :
    s.Keeps (s.sentenceError index location message) := by
  unfold sentenceError
  refine Keeps.log ?_ .error message
  split
  · exact .refl s
  · split
    · exact .refl s
    · exact ⟨rfl, rfl, rfl, .inl rfl⟩

/-- Feedback touches neither link nor fault nor notifications. -/
theorem keeps_handleFeedback (s : Session σ) (feedback : Feedback) :
    s.Keeps (s.handleFeedback feedback) := by
  unfold handleFeedback
  dsimp only
  split
  · split <;> exact ⟨rfl, rfl, rfl, .inl rfl⟩
  · split <;> exact ⟨rfl, rfl, rfl, .inl rfl⟩
  · exact keeps_sentenceError ..
  · exact keeps_sentenceError ..
  · exact (Keeps.refl s).log ..
  · exact .refl s

/-- A frame leaves alone what frames leave alone, or it is an answer that cannot be applied and
breaks the session. -/
theorem keeps_or_fails [Link σ] (s : Session σ) (frame : Inbound) :
    s.Keeps (s.handleFrame frame) ∨
      ∃ response fault, frame = .response response ∧ s.handleResponse response = .error fault ∧
        s.handleFrame frame = s.fail fault := by
  cases frame with
  | feedback feedback => exact .inl (keeps_handleFeedback s feedback)
  | response response =>
    unfold handleFrame
    dsimp only
    cases hs : s.handleResponse response with
    | ok t => exact .inl (keeps_handleResponse hs)
    | error fault => exact .inr ⟨response, fault, rfl, hs, rfl⟩

end ProofDesk.Session
