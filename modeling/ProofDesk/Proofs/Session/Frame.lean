import ProofDesk.Proofs.Session.Run

/-!
# What a frame does to a session

`Takes` lists everything that taking up a frame can do: an answer frees the slot and starts the
session, marks a sentence, discards sentences or is only shown; feedback marks a sentence or
discards those behind it; and a frame that cannot be applied breaks the session. `takes_handleFrame`
says that the list is complete.
-/

namespace ProofDesk.Session

variable {σ : Type}

/-- The session with its slot free. -/
def freed (s : Session σ) : Session σ :=
  { s with request := none }

/-- The session with a changed document, in which the goals have to be asked for again. -/
def changed (s : Session σ) (document : Document) : Session σ :=
  { s with document, goalsStale := true }

variable [Link σ]

/-- What taking up a frame can do, up to what is shown. -/
inductive Takes (s : Session σ) : Inbound → Session σ → Prop
  /-- The frame cannot be applied. -/
  | broken {frame : Inbound} (fault : Fault) : Takes s frame (s.freed.fail fault)
  /-- The prover has started. -/
  | started {payload : Markup.Element} {state : StateId} {s' : Session σ}
      (hslot : s.slot = some .init) (hreply : Reply.ofElement .init payload = .ok (.init state))
      (hs : Agrees { s.freed with document := s.document.setRoot state, status := .ready } s') :
    Takes s (.response (.good payload)) s'
  /-- The sentence that was sent is accepted. -/
  | accepted {payload : Markup.Element} {state : StateId} {closed : Option StateId}
      {message : String} {i : Nat} {x : Sentence} {s' : Session σ}
      (hslot : s.slot = some (.add x.id))
      (hx : s.document.sent[i]? = some x)
      (hreply : Reply.ofElement .add payload = .ok (.add state closed message))
      (hs : Agrees (s.freed.changed (s.document.acceptAt i state)) s') :
    Takes s (.response (.good payload)) s'
  /-- The sentence that was sent is refused. -/
  | refused {failure : Failure} {i : Nat} {x : Sentence} {s' : Session σ}
      (hslot : s.slot = some (.add x.id)) (hx : s.document.sent[i]? = some x)
      (hs : Agrees (s.freed.dropAdvances.changed
        (s.document.refuseAt i failure.location failure.message)) s') :
    Takes s (.response (.fail failure)) s'
  /-- The sentence that was sent, and is accepted, has been discarded meanwhile. -/
  | acceptedLate {payload : Markup.Element} {id : SentenceId} {s' : Session σ}
      (hslot : s.slot = some (.add id))
      (hid : id ∉ s.document.ids) (hs : s.freed.Agrees s') : Takes s (.response (.good payload)) s'
  /-- The sentence that was sent, and is refused, has been discarded meanwhile. -/
  | refusedLate {failure : Failure} {id : SentenceId} {s' : Session σ}
      (hslot : s.slot = some (.add id)) (hid : id ∉ s.document.ids)
      (hs : Agrees (s.freed.dropAdvances.changed s.document) s') :
    Takes s (.response (.fail failure)) s'
  /-- A rollback is answered, well or badly. -/
  | rolledBack {response : Response} {id : SentenceId} {s' : Session σ}
      (hslot : s.slot = some (.editAt id))
      (hs : Agrees (s.freed.changed (s.document.truncateTo id).2) s') :
      Takes s (.response response) s'
  /-- A question is answered. -/
  | told {response : Response} {request : Request} {s' : Session σ} (hslot : s.slot = some request)
      (hrequest : request = .goal ∨ request = .status ∨ request = .quit) (hs : s.freed.Agrees s') :
    Takes s (.response response) s'
  /-- A sentence relies on an axiom. -/
  | admitted {feedback : Feedback} {i : Nat}
      (hi : s.document.indexOfState? feedback.state = some i) :
    Takes s (.feedback feedback) { s with document := s.document.markAxiom i }
  /-- A sentence has been checked. -/
  | processed {feedback : Feedback} {i : Nat} (hcontent : feedback.content = .processed)
      (hi : s.document.indexOfState? feedback.state = some i) :
    Takes s (.feedback feedback) { s with document := s.document.markProcessed i }
  /-- An accepted sentence is in error after all. -/
  | failed {feedback : Feedback} {i : Nat} {x : Sentence} {location : Option Location}
      {message : String} {s' : Session σ} (hi : s.document.indexOfState? feedback.state = some i)
      (hx : s.document.sent[i]? = some x)
      (hs :
        Agrees
          (s.dropAdvances.changed ((s.document.refuseAt i location message).truncateAt (i + 1)).2)
          s') :
    Takes s (.feedback feedback) s'
  /-- Feedback that is at most shown. -/
  | heard {feedback : Feedback} {s' : Session σ} (hs : s.Agrees s') :
    Takes s (.feedback feedback) s'

section Slot

variable {s s' : Session σ}

/-- An answer that does not break the session was waited for, and frees the slot. -/
theorem Takes.slot_of_response {response : Response} (ht : Takes s (.response response) s')
    (ha : s'.Active) :
    ∃ request, s.slot = some request ∧ s'.slot = none := by
  cases ht with
  | broken fault => exact absurd ha (not_active_fail _ _)
  | started hslot hreply hs => exact ⟨_, hslot, hs.slot⟩
  | accepted hslot hx hreply hs => exact ⟨_, hslot, hs.slot⟩
  | refused hslot hx hs => exact ⟨_, hslot, hs.slot⟩
  | acceptedLate hslot hid hs => exact ⟨_, hslot, hs.slot⟩
  | refusedLate hslot hid hs => exact ⟨_, hslot, hs.slot⟩
  | rolledBack hslot hs => exact ⟨_, hslot, hs.slot⟩
  | told hslot hrequest hs => exact ⟨_, hslot, hs.slot⟩

/-- Feedback leaves the slot alone. -/
theorem Takes.slot_of_feedback {feedback : Feedback} (ht : Takes s (.feedback feedback) s')
    (ha : s'.Active) :
    s'.slot = s.slot ∧ s'.status = s.status := by
  cases ht with
  | broken fault => exact absurd ha (not_active_fail _ _)
  | admitted hi => exact ⟨rfl, rfl⟩
  | processed hcontent hi => exact ⟨rfl, rfl⟩
  | failed hi hx hs => exact ⟨hs.slot, hs.status⟩
  | heard hs => exact ⟨hs.slot, hs.status⟩

/-- Taking up a frame leaves the link alone, or closes it. -/
theorem Takes.link_eq {frame : Inbound} (ht : Takes s frame s') :
    s'.link = s.link ∨ s'.link = Link.close s.link := by
  cases ht with
  | broken fault => exact .inr rfl
  | admitted hi | processed hcontent hi => exact .inl rfl
  | started hslot hreply hs => exact .inl hs.link
  | accepted hslot hx hreply hs => exact .inl hs.link
  | refused hslot hx hs | failed hi hx hs => exact .inl hs.link
  | acceptedLate hslot hid hs | refusedLate hslot hid hs => exact .inl hs.link
  | rolledBack hslot hs | told hslot hrequest hs | heard hs => exact .inl hs.link

end Slot

/-- Taking up feedback does to a session what its contents allow. -/
theorem takes_handleFeedback {s : Session σ} (hn : s.document.Numbered)
    (hunsent : ∀ x ∈ s.document.unsent, x.stateId = none) (feedback : Feedback) :
    s.Takes (.feedback feedback) (s.handleFeedback feedback) := by
  have herror : ∀ location message,
      s.Takes (.feedback feedback)
        (s.sentenceError (s.document.indexOfState? feedback.state) location message) := by
    intro location message
    unfold sentenceError
    cases hi : s.document.indexOfState? feedback.state with
    | none => exact .heard (agrees_log ..)
    | some i =>
      -- a state belongs to a sentence that has been sent, so marking it cannot fail
      obtain ⟨x, hx, -⟩ := Document.sent_of_indexOfState? hunsent hi
      have hlt := Document.lt_locked_of_sent hx
      rw [Option.bind_some, Document.getElem?_sentences_of_lt hlt, hx]
      dsimp only
      rw [Document.markError_eq hn hx]
      exact .failed hi hx (agrees_log ..)
  unfold handleFeedback
  dsimp only
  split
  · split
    · next hi => exact .admitted hi
    · exact .heard (Agrees.refl s)
  · next hcontent =>
    split
    · next hi => exact .processed hcontent hi
    · exact .heard (Agrees.refl s)
  · exact herror _ _
  · exact herror _ _
  · exact .heard (agrees_log ..)
  · exact .heard (Agrees.refl s)

/-- Whether the sentence that a call was sent for is still there. -/
theorem sent_or_discarded {d : Document} (hn : d.Numbered) {id : SentenceId} (hs : d.Spent id) :
    (∃ (i : Nat) (x : Sentence), d.sent[i]? = some x ∧ x.id = id ∧ d.sentence? id = some x) ∨
      (id ∉ d.ids ∧ d.sentence? id = none) := by
  by_cases hid : id ∈ d.ids
  · obtain ⟨i, x, hx, rfl⟩ := hs.mem_trail hid
    have hlt := Document.lt_locked_of_sent hx
    exact .inl ⟨i, x, hx, rfl, hn.sentence? ((Document.getElem?_sentences_of_lt hlt).trans hx)⟩
  · exact .inr ⟨hid, Document.sentence?_eq_none hid⟩

/-- Frames that cannot be applied break the session with the slot free. -/
theorem takes_handleFrame {s : Session σ} (hn : s.document.Numbered)
    (hunsent : ∀ x ∈ s.document.unsent, x.stateId = none)
    (hspent : ∀ id, s.slot = some (.add id) → s.document.Spent id) (frame : Inbound) :
    s.Takes frame (s.handleFrame frame) := by
  cases frame with
  | feedback feedback => exact takes_handleFeedback hn hunsent feedback
  | response response =>
    unfold handleFrame handleResponse
    cases hr : s.request with
    | none =>
      -- the slot is free already
      have hs : s = s.freed := by rw [freed, ← hr]
      rw [hs]
      exact .broken _
    | some outstanding =>
      obtain ⟨request, age, timedOut⟩ := outstanding
      have hslot : s.slot = some request := by rw [slot, hr]; rfl
      dsimp only
      cases response with
      | good payload =>
        dsimp only
        cases hreply : Reply.ofElement request.kind payload with
        | error e => exact .broken _
        | ok reply =>
          cases request with
          | init =>
            cases reply with
            | init state => exact .started hslot hreply (Agrees.refl _)
          | add id =>
            cases reply with
            | add state closed message =>
              rcases sent_or_discarded hn (hspent id hslot) with
                ⟨i, x, hx, rfl, hfound⟩ | ⟨hid, hfound⟩
              · simp only [applyReply, hfound, Option.isNone_some, Bool.false_eq_true, if_false,
                  Document.markValid_eq hn hx]
                have hs :=
                  agrees_log { s.freed with document := s.document.acceptAt i state } .info message
                exact .accepted hslot hx hreply
                  ⟨hs.link, hs.settings, hs.document, hs.status, hs.fatal, hs.slot, hs.queue, rfl⟩
              · simp only [applyReply, hfound, Option.isNone_none, if_true]
                exact .acceptedLate hslot hid (Agrees.refl _)
          | editAt id =>
            cases reply with
            | editAt focus => exact .rolledBack hslot (Agrees.refl _)
          | goal =>
            cases reply with
            | goal goals =>
              exact .told hslot (.inl rfl) ⟨rfl, rfl, rfl, rfl, rfl, rfl, rfl, rfl⟩
          | status =>
            cases reply with
            | status status =>
              exact .told hslot (.inr (.inl rfl)) ⟨rfl, rfl, rfl, rfl, rfl, rfl, rfl, rfl⟩
          | quit =>
            cases reply with
            | quit => exact .told hslot (.inr (.inr rfl)) (Agrees.refl _)
      | fail failure =>
        cases request with
        | init => exact .broken _
        | add id =>
          rcases sent_or_discarded hn (hspent id hslot) with ⟨i, x, hx, rfl, hfound⟩ | ⟨hid, hfound⟩
          · simp only [applyFailure, hfound, Option.isSome_some, if_true,
              Document.markError_eq hn hx]
            have hs := Agrees.refl (s.freed.dropAdvances.changed
              (s.document.refuseAt i failure.location failure.message))
            exact .refused hslot hx (hs.log .error failure.message)
          · simp only [applyFailure, hfound, Option.isSome_none, Bool.false_eq_true, if_false]
            have hs := Agrees.refl (s.freed.dropAdvances.changed s.document)
            exact .refusedLate hslot hid (hs.log .error failure.message)
        | editAt id =>
          have hs := Agrees.refl (s.freed.changed (s.document.truncateTo id).2)
          exact .rolledBack hslot (hs.log .error failure.message)
        | goal => exact .told hslot (.inl rfl) (agrees_log ..)
        | status => exact .told hslot (.inr (.inl rfl)) (agrees_log ..)
        | quit => exact .told hslot (.inr (.inr rfl)) (agrees_log ..)

end ProofDesk.Session
