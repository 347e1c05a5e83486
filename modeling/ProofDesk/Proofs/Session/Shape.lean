import ProofDesk.Proofs.Session.Answer

/-!
# The shape of what has been sent

A document accepts marks in many orders, but a session gives them in few: of the sentences that have
been sent all but the last are accepted, in states that are known, and a sentence is pending exactly
while the answer to it is awaited. `Run.shaped` says so of every session in conversation, whatever
has been edited, refused, put in error later, or discarded before its answer came.
-/

namespace ProofDesk

namespace Sentence

/-- The prover has accepted the sentence, and the state after it is known. -/
def Accepted (x : Sentence) : Prop :=
  (∃ validity, x.state = .valid validity) ∧ x.stateId.isSome

/-- A settled entry is that of an accepted sentence. -/
private theorem accepted_of_settled {x : Sentence} (h : x.entry.Settled) : x.Accepted := by
  refine ⟨?_, h.2⟩
  have hphase := h.1
  rw [phase_entry] at hphase
  cases hx : x.state with
  | valid validity => exact ⟨validity, rfl⟩
  | unprocessed | pending | error => simp [hx, SentenceState.phase] at hphase

/-- A sentence waits just when its entry does. -/
theorem phase_eq_pending_iff (x : Sentence) : x.entry.phase = .pending ↔ x.state = .pending := by
  rw [phase_entry]
  cases x.state <;> simp [SentenceState.phase]

end Sentence

namespace Session

variable {σ : Type} {s s' : Session σ} {h : History}

/-- The shape of the sentences of a session in conversation. -/
structure Shaped (s : Session σ) : Prop where
  /-- All that have been sent but the last are accepted. -/
  accepted : ∀ (i : Nat) (x : Sentence), s.document.sent[i]? = some x →
    i + 1 < s.document.locked → x.Accepted
  /-- The last is accepted, too, or waits for its answer, or is in error. -/
  last : ∀ x, s.document.sent.getLast? = some x →
    x.Accepted ∨ x.state = .pending ∧ x.stateId = none ∨ x.isError = true
  /-- A sentence is pending exactly while the answer to it is awaited. -/
  pending : ∀ x ∈ s.document.sentences, x.state = .pending ↔ s.slot = some (.add x.id)
  /-- Nothing has been said of the sentences that have not been sent. -/
  unsent : ∀ x ∈ s.document.unsent, x.state = .unprocessed ∧ x.stateId = none

/-- What the invariant says about the document of a session in conversation. -/
theorem shaped_of_orderly (ho : s.Orderly) (ha : s.Active) : s.Shaped := by
  have hc := ho.coherent
  refine ⟨fun i x hx hi => ?_, fun x hx => ?_, fun x hx => ?_, fun x hx => ?_⟩
  · have hget := Document.Coherent.trail_of_sent hx
    exact Sentence.accepted_of_settled (hc.shape.settled i _ hget (by rwa [Document.length_trail]))
  · have hmem : x.entry ∈ s.document.trail := List.mem_map_of_mem (List.mem_of_getLast? hx)
    have hsound := hc.shape.sound _ hmem
    unfold Entry.Sound at hsound
    -- what the trail requires of the last entry is told by the state of the sentence
    cases hstate : x.state with
    | unprocessed => simp [hstate, SentenceState.phase] at hsound
    | pending =>
      simp only [Sentence.phase_entry, hstate, SentenceState.phase] at hsound
      exact .inr (.inl ⟨rfl, hsound.1⟩)
    | valid validity =>
      simp only [Sentence.phase_entry, hstate, SentenceState.phase] at hsound
      exact .inl ⟨⟨validity, hstate⟩, hsound⟩
    | error range message => exact .inr (.inr (by rw [Sentence.isError, hstate]))
  · rw [Document.sentences_eq, List.mem_append] at hx
    rcases hx with hx | hx
    · rw [← Sentence.phase_eq_pending_iff]
      exact ho.awaits ha _ (List.mem_map_of_mem hx)
    · -- the identifier of the sentence that is awaited is spent, so no unsent sentence has it
      refine ⟨fun hp => ?_, fun hslot => ?_⟩
      · simp [(hc.untouched x hx).state] at hp
      · exact absurd ((ho.addressed x.id (.inl hslot)).2 x hx) (Nat.lt_irrefl _)
  · exact ⟨(hc.untouched x hx).state, (hc.untouched x hx).stateId⟩

variable [Link σ]

/-- Every session in conversation has the shape, on every run. -/
theorem Run.shaped (hr : Run h s) (ha : s.Active) : s.Shaped :=
  shaped_of_orderly hr.orderly ha

/-- Every session in conversation has the shape, whatever operations have led to it. -/
theorem shaped_of_reachable (hr : Reachable s) (ha : s.Active) : s.Shaped :=
  shaped_of_orderly hr.orderly ha

/-! ## A session on two sentences -/

/-- The text "A. B." with its first sentence sent. -/
def firstSent : Document :=
  { text := "A. B.", live := [⟨0, ⟨0, 2⟩, "A.", .pending, none, false⟩], doomed := [], unsent := [],
    root := some ⟨1⟩, parseError := none, nextId := 1 }

/-- The text "A. B." with its first sentence accepted. -/
def firstAccepted : Document :=
  { firstSent with live := [⟨0, ⟨0, 2⟩, "A.", .valid .ordinary, some ⟨2⟩, false⟩] }

/-- The text "A. B." with its first sentence accepted and its second one sent. -/
def bothSent : Document :=
  { firstAccepted with
    live := firstAccepted.live ++ [⟨1, ⟨3, 5⟩, "B.", .pending, none, false⟩]
    nextId := 2 }

/-- The text "A. B." with both of its sentences accepted. -/
def bothAccepted : Document :=
  { bothSent with
    live := firstAccepted.live ++ [⟨1, ⟨3, 5⟩, "B.", .valid .ordinary, some ⟨3⟩, false⟩] }

/-- The text "A. B." with its first sentence in error. -/
def firstFailed : Document :=
  { bothSent with live := [⟨0, ⟨0, 2⟩, "A.", .error ⟨0, 2⟩ "no", some ⟨2⟩, false⟩] }

/-- A session on "A. B." whose prover has started. -/
def onTwo (document : Document) (request : Option Outstanding) (goalsStale : Bool)
    (messages : List MessageEntry) :
    Session Channel :=
  { greeted Channel.opened "A. B." with document, request, goalsStale, messages }

private theorem step_first :
    Navigation.step .annotate { Document.ofText "A. B." with root := some ⟨1⟩ } (.forward 1) [] =
    .send (.add 0) (.add "A." Navigation.noEdit ⟨1⟩ false) firstSent [] := by
  cbv

private theorem step_second : Navigation.step .annotate firstAccepted (.forward 1) [] =
    .send (.add 1) (.add "B." Navigation.noEdit ⟨2⟩ false) bothSent [] := by
  cbv

/-- The prover accepts the first sentence. -/
private theorem handleFrame_firstSent :
    (onTwo firstSent (some ⟨.add 0, 0, false⟩) false []).handleFrame
      (replyFrame (.add ⟨2⟩ none "")) =
      onTwo firstAccepted none true [] := by
  cbv

/-- The first sentence turns out to be in error while the second waits. -/
private theorem handleFrame_bothSent :
    (onTwo bothSent (some ⟨.add 1, 0, false⟩) true []).handleFrame
      (.feedback ⟨⟨2⟩, .errorMsg none "no"⟩) =
      onTwo firstFailed (some ⟨.add 1, 0, false⟩) true [⟨.error, "no"⟩] := by
  cbv

/-- The second sentence is sent once the first one has been accepted. -/
theorem exists_run_bothSent : ∃ h, Run h (onTwo bothSent (some ⟨.add 1, 0, false⟩) true []) := by
  -- the prover greets, accepts the first sentence, and has the second in hand
  have hstart : Run [.sent .init .init] (opening Channel.opened "A. B.") :=
    (Run.start Channel.opened "A. B." .default).silent (.outside Channel.opened)
  have hready := hstart.move (.frame (replyFrame (.init ⟨1⟩)) rfl)
  rw [handleFrame_opening] at hready
  have hfirst : Run _ (onTwo firstSent (some ⟨.add 0, 0, false⟩) false []) :=
    ((hready.move (.act (.order rfl .forward))).move
      (.act (.round (.send rfl rfl rfl step_first)))).silent
      (.outside Channel.opened)
  have haccepted := hfirst.move (.frame (replyFrame (.add ⟨2⟩ none "")) rfl)
  rw [handleFrame_firstSent] at haccepted
  have hsecond : Run _ (onTwo bothSent (some ⟨.add 1, 0, false⟩) true []) :=
    ((haccepted.move (.act (.order rfl .forward))).move
      (.act (.round (.send rfl rfl rfl step_second)))).silent
      (.outside Channel.opened)
  exact ⟨_, hsecond⟩

/-- The first sentence turns out to be in error when the second one has been sent. -/
theorem exists_run_overtaken :
    ∃ h, Run h (onTwo firstFailed (some ⟨.add 1, 0, false⟩) true [⟨.error, "no"⟩]) := by
  obtain ⟨h, hsecond⟩ := exists_run_bothSent
  have hfailed := hsecond.move (.frame (.feedback ⟨⟨2⟩, .errorMsg none "no"⟩) rfl)
  rw [handleFrame_bothSent] at hfailed
  exact ⟨_, hfailed⟩

/-- The sentence whose answer is awaited has been discarded, since the one in front of it is in
error. -/
theorem shaped_of_discarded : ∃ (h : History) (s : Session Channel), Run h s ∧ s.Active ∧
    s.slot = some (.add 1) ∧ s.document.ids = [0] ∧ Shaped s := by
  obtain ⟨h, hr⟩ := exists_run_overtaken
  exact ⟨h, _, hr, .inr rfl, rfl, rfl, hr.shaped (.inr rfl)⟩

end Session

end ProofDesk
