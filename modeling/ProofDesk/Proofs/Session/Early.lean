import ProofDesk.Proofs.Session.News

/-!
# News that comes before the answer

A prover knows the state after a sentence before its answer with that state has been read, so news
about the state may come first. It is then news about a state that no sentence has, and is lost
(`Run.overlooks_early_news`): the answer makes the sentence accepted as though nothing had been said
about it, where the same news marks the sentence if it comes after the answer.
-/

namespace ProofDesk

namespace Document

variable {d : Document} {i : Nat} {x : Sentence} {state : StateId}

/-- A sentence that is accepted in a state of its own is found by that state. -/
private theorem indexOfState?_acceptAt (hx : d.sent[i]? = some x)
    (hfresh : d.indexOfState? state = none) :
    (d.acceptAt i state).indexOfState? state = some i := by
  have hlt := lt_locked_of_sent hx
  have hget : d.sentences[i]? = some x := (getElem?_sentences_of_lt hlt).trans hx
  obtain ⟨hi, hxi⟩ := List.getElem?_eq_some_iff.1 hget
  rw [indexOfState?, List.findIdx?_eq_none_iff] at hfresh
  rw [indexOfState?, acceptAt, sentences_modifyAt, List.findIdx?_eq_some_iff_getElem]
  refine ⟨by simpa using hi, by simp [Sentence.accepted], fun j hj => ?_⟩
  -- the sentences in front are as they were
  rw [List.getElem_modify_ne _ _ (by omega)]
  simpa using hfresh _ (List.getElem_mem _)

/-- News about the last sentence that has been sent changes no other one of them. -/
private theorem sent_hear_of_last (hi : d.indexOfState? state = some i) (hlast : i + 1 = d.locked)
    (news : News) :
    (d.hear state news).sent = d.sent.modify i news.mark := by
  have hlt : i < d.locked := by omega
  unfold hear
  rw [hi]
  dsimp only
  split
  · rw [sent_truncateAt, sent_modifyAt hlt, List.take_of_length_le (by simp [hlast])]
  · exact sent_modifyAt hlt _

end Document

namespace Session

variable {σ : Type} {s : Session σ} {h : History}

/-- A session that waits for an answer is in conversation. -/
theorem Orderly.active_of_slot (ho : s.Orderly) {request : Request}
    (hslot : s.slot = some request) : s.Active := by
  by_contra hidle
  rw [(ho.idle hidle).1] at hslot
  simp at hslot

variable [Link σ] {id : SentenceId} {i : Nat} {x : Sentence} {payload : Markup.Element}
  {state : StateId} {closed : Option StateId} {message : String} {feedback : Feedback}

/-- A good answer to the call for a sentence that is there accepts it. -/
theorem agrees_accepted (hn : s.document.Numbered) (hslot : s.slot = some (.add x.id))
    (hx : s.document.sent[i]? = some x)
    (hreply : Reply.ofElement .add payload = .ok (.add state closed message)) :
    Agrees (s.freed.changed (s.document.acceptAt i state))
      (s.handleFrame (.response (.good payload))) := by
  have hfound :=
    hn.sentence? ((Document.getElem?_sentences_of_lt (Document.lt_locked_of_sent hx)).trans hx)
  obtain ⟨⟨request, age, timedOut⟩, hrequest, rfl : request = .add x.id⟩ :=
    Option.map_eq_some_iff.1 hslot
  simp only [handleFrame, handleResponse, hrequest, Request.kind, hreply, applyReply, hfound,
    Option.isNone_some, Bool.false_eq_true, if_false, Document.markValid_eq hn hx]
  have hs := agrees_log { s.freed with document := s.document.acceptAt i state } .info message
  exact ⟨hs.link, hs.settings, hs.document, hs.status, hs.fatal, hs.slot, hs.queue, rfl⟩

/-- The answer to a sentence that is there makes it accepted. -/
theorem document_handleFrame_add (hn : s.document.Numbered) (hslot : s.slot = some (.add x.id))
    (hx : s.document.sent[i]? = some x)
    (hreply : Reply.ofElement .add payload = .ok (.add state closed message)) :
    (s.handleFrame (.response (.good payload))).document = s.document.acceptAt i state :=
  (agrees_accepted hn hslot hx hreply).document

/-- The answer to a sentence that has been discarded changes no sentence. -/
theorem document_handleFrame_add_of_discarded (hslot : s.slot = some (.add id))
    (hgone : s.document.sentence? id = none)
    (hreply : Reply.ofElement .add payload = .ok (.add state closed message)) :
    (s.handleFrame (.response (.good payload))).document = s.document := by
  obtain ⟨⟨request, age, timedOut⟩, hrequest, rfl : request = .add id⟩ :=
    Option.map_eq_some_iff.1 hslot
  simp only [handleFrame, handleResponse, hrequest, Request.kind, hreply, applyReply, hgone,
    Option.isNone_none, if_true]

/-- News about a state that no sentence has changes the document neither now nor with the answer. -/
theorem Orderly.document_of_early (ho : s.Orderly) (hslot : s.slot = some (.add id))
    (hreply : Reply.ofElement .add payload = .ok (.add state closed message))
    (hunknown : s.document.indexOfState? feedback.state = none) :
    ((s.handleFeedback feedback).handleFrame (.response (.good payload))).document =
      (s.handleFrame (.response (.good payload))).document := by
  -- no sentence has the state yet, so nobody heeds the news
  have hlost : s.heed feedback = s := by
    unfold heed
    cases feedback.content.news? with
    | none => rfl
    | some news => exact hear_eq_self s hunknown news
  have hagrees : s.Agrees (s.handleFeedback feedback) := by
    rw [handleFeedback_eq s ho.coherent, hlost]
    exact (Agrees.refl s).note _
  have hslot' := hagrees.slot.trans hslot
  -- the answer finds the same document, whether its sentence is still there or not
  rcases sent_or_discarded ho.coherent.numbered (ho.addressed id (.inl hslot)) with
    ⟨i, x, hx, rfl, -⟩ | ⟨-, hgone⟩
  · rw [document_handleFrame_add ho.coherent.numbered hslot hx hreply,
      document_handleFrame_add (hagrees.document ▸ ho.coherent.numbered) hslot'
        (hagrees.document ▸ hx) hreply,
      hagrees.document]
  · rw [document_handleFrame_add_of_discarded hslot hgone hreply,
      document_handleFrame_add_of_discarded hslot' (hagrees.document ▸ hgone) hreply,
      hagrees.document]

/-- A sentence that has just been accepted takes any news. -/
private theorem mark_accepted_ne (hprocessed : x.processed = false) (news : News) :
    news.mark (x.accepted state) ≠ x.accepted state := by
  intro heq
  cases news with
  | admitted =>
    exact absurd (congrArg (·.state) heq)
      (by simp [News.mark, Sentence.accepted, SentenceState.admitted])
  | checked =>
    exact absurd (congrArg (·.processed) heq) (by simp [News.mark, Sentence.accepted, hprocessed])
  | failed =>
    exact absurd (congrArg (·.state) heq) (by simp [News.mark, Sentence.accepted, Sentence.refused])

/-- After a frame, feedback changes the document as far as it is heard. -/
theorem Run.document_handleFrame_handleFeedback (hr : Run h s) (halive : s.isAlive = true)
    (frame : Inbound) (feedback : Feedback) :
    ((s.handleFrame frame).handleFeedback feedback).document =
      ((s.handleFrame frame).heed feedback).document := by
  rw [handleFeedback_eq _ (hr.move (.frame frame halive)).orderly.coherent]
  exact ((Agrees.refl _).note _).document

/-- News that comes just after the answer marks the sentence and changes no other one that has been
sent. -/
theorem Run.sent_of_late (hr : Run h s) (hslot : s.slot = some (.add x.id))
    (hx : s.document.sent[i]? = some x)
    (hreply : Reply.ofElement .add payload = .ok (.add feedback.state closed message))
    (hunknown : s.document.indexOfState? feedback.state = none) {news : News}
    (hnews : feedback.content.news? = some news) :
    ((s.handleFrame (.response (.good payload))).handleFeedback feedback).document.sent =
      (s.handleFrame (.response (.good payload))).document.sent.modify i news.mark := by
  have ho := hr.orderly
  have ha := ho.active_of_slot hslot
  -- the sentence is the last that was sent, so nothing behind it is discarded
  have hlast : i + 1 = (s.document.acceptAt i feedback.state).locked := by
    rw [← Document.length_sent, Document.acceptAt,
      Document.sent_modifyAt (Document.lt_locked_of_sent hx), List.length_modify,
      Document.length_sent]
    exact ho.last_of_slot ha hslot hx
  have hfound := Document.indexOfState?_acceptAt hx hunknown
  rw [hr.document_handleFrame_handleFeedback (ho.alive.2 ha), heed, hnews]
  show ((s.handleFrame (.response (.good payload))).document.hear feedback.state news).sent = _
  rw [document_handleFrame_add ho.coherent.numbered hslot hx hreply,
    Document.sent_hear_of_last hfound hlast]

/-- News about a state that comes just before the answer that makes the state known is overlooked:
the document is as it would be without the news. Just after the answer, the news marks the sentence
and changes no other one that has been sent. So the two orders agree only where the sentence has
been discarded or nothing is said about it. -/
theorem Run.overlooks_early_news (hr : Run h s) (hslot : s.slot = some (.add id))
    (hreply : Reply.ofElement .add payload = .ok (.add state closed message))
    (hfresh : ∀ x ∈ s.document.sentences, x.stateId ≠ some state)
    (hstate : feedback.state = state) :
    ((s.handleFeedback feedback).handleFrame (.response (.good payload))).document =
        (s.handleFrame (.response (.good payload))).document ∧
      (∀ (i : Nat) (x : Sentence) (news : News), s.document.sent[i]? = some x → x.id = id →
        feedback.content.news? = some news →
        ((s.handleFrame (.response (.good payload))).handleFeedback feedback).document.sent =
          (s.handleFrame (.response (.good payload))).document.sent.modify i news.mark) ∧
      (((s.handleFeedback feedback).handleFrame (.response (.good payload))).document =
          ((s.handleFrame (.response (.good payload))).handleFeedback feedback).document ↔
        s.document.sentence? id = none ∨ feedback.content.news? = none) := by
  subst hstate
  have ho := hr.orderly
  have ha := ho.active_of_slot hslot
  have hunknown : s.document.indexOfState? feedback.state = none := by
    rw [Document.indexOfState?, List.findIdx?_eq_none_iff]
    simpa using hfresh
  have hearly := ho.document_of_early hslot hreply hunknown
  refine ⟨hearly, ?_, ?_⟩
  · rintro i x news hx rfl hnews
    exact hr.sent_of_late hslot hx hreply hunknown hnews
  rw [hearly]
  constructor
  · intro hsame
    by_contra hnone
    rw [not_or] at hnone
    obtain ⟨news, hnews⟩ := Option.ne_none_iff_exists'.1 hnone.2
    rcases sent_or_discarded ho.coherent.numbered (ho.addressed id (.inl hslot)) with
      ⟨i, x, hx, rfl, -⟩ | ⟨-, hgone⟩
    · have hafter := hr.sent_of_late hslot hx hreply hunknown hnews
      rw [← hsame, document_handleFrame_add ho.coherent.numbered hslot hx hreply, Document.acceptAt,
        Document.sent_modifyAt (Document.lt_locked_of_sent hx)] at hafter
      -- the sentence is as the answer has left it, so the news has not reached it
      have hsentence := congrArg (·[i]?) hafter
      simp only [List.getElem?_modify_eq, hx, Option.map_eq_map, Option.map_some,
        Option.some.injEq] at hsentence
      have hprocessed := (ho.pending_sound ha
        (List.mem_of_getElem? (Document.Coherent.trail_of_sent hx)) hslot).2
      exact mark_accepted_ne hprocessed news hsentence.symm
    · exact hnone.1 hgone
  · intro hquiet
    rw [hr.document_handleFrame_handleFeedback (ho.alive.2 ha)]
    unfold heed
    cases hnews : feedback.content.news? with
    | none => rfl
    | some news =>
      have hgone := hquiet.resolve_right (by simp [hnews])
      -- no sentence has got the state
      rw [Option.elim, hear_eq_self]
      rwa [document_handleFrame_add_of_discarded hslot hgone hreply]

/-- A sentence has been checked, but its answer has not been read. -/
theorem overlooks_early_news_of_waiting :
    Run sentHistory (waiting sentCalls) ∧ (waiting sentCalls).slot = some (.add 0) ∧
      Reply.ofElement .add (Reply.add ⟨2⟩ none "").toElement = .ok (.add ⟨2⟩ none "") ∧
      (∀ x ∈ (waiting sentCalls).document.sentences, x.stateId ≠ some ⟨2⟩) ∧
      (((waiting sentCalls).handleFeedback ⟨⟨2⟩, .processed⟩).handleFrame
        (replyFrame (.add ⟨2⟩ none ""))).document =
        acceptedText ∧
      (((waiting sentCalls).handleFrame (replyFrame (.add ⟨2⟩ none ""))).handleFeedback
        ⟨⟨2⟩, .processed⟩).document.sent =
        acceptedText.sent.modify 0 News.checked.mark := by
  have hreply : Reply.ofElement .add (Reply.add ⟨2⟩ none "").toElement =
      .ok (.add ⟨2⟩ none "") := by cbv
  -- the state is new to the session
  have hfresh : ∀ x ∈ (waiting sentCalls).document.sentences, x.stateId ≠ some ⟨2⟩ := by
    intro x hx
    obtain rfl := List.mem_singleton.1 hx
    simp
  have hstate : (⟨⟨2⟩, .processed⟩ : Feedback).state = ⟨2⟩ := rfl
  obtain ⟨hearly, hlate, -⟩ := run_waiting.overlooks_early_news rfl hreply hfresh hstate
  have hafter := hlate 0 _ .checked rfl rfl rfl
  rw [← replyFrame, handleFrame_waiting] at hearly hafter
  exact ⟨run_waiting, rfl, hreply, hfresh, hearly, hafter⟩

/-- Whether a sentence counts as checked depends on which comes first, the answer or the news. -/
theorem exists_overlooked :
    ∃ (h : History) (s : Session Channel) (state : StateId), Run h s ∧ s.slot = some (.add 0) ∧
      (∀ x ∈ s.document.sentences, x.stateId ≠ some state) ∧
      ((s.handleFeedback ⟨state, .processed⟩).handleFrame
        (replyFrame (.add state none ""))).document.sentences.map
        (·.processed) = [false] ∧
      ((s.handleFrame (replyFrame (.add state none ""))).handleFeedback
        ⟨state, .processed⟩).document.sentences.map
        (·.processed) = [true] := by
  refine ⟨sentHistory, waiting sentCalls, ⟨2⟩, run_waiting, rfl, fun x hx => ?_, by cbv, by cbv⟩
  obtain rfl := List.mem_singleton.1 hx
  simp

end Session

end ProofDesk
