import ProofDesk.Proofs.Session.Early
import ProofDesk.Proofs.Session.Rest
import ProofDesk.Proofs.Session.Rollback

/-!
# What is queued behind a rollback

While the rollback of doomed sentences comes next, an editor may already queue what is to be done
after it. If the sentence that is waited for is doomed and its answer is good, all of it is done
once the rollback is answered; if its answer is bad, or an error of a doomed sentence is found, what
would send sentences is cancelled, although nothing is wrong with the text that it would send
(`Run.cancels_behind_rollback`).
-/

namespace ProofDesk

namespace Document

variable {d : Document} {x : Sentence}

/-- A doomed sentence has been sent. -/
private theorem sent_of_mem_doomed (hx : x ∈ d.doomed) : ∃ i : Nat, d.sent[i]? = some x :=
  List.mem_iff_getElem?.1 (List.mem_append_right _ hx)

end Document

namespace Session

variable {σ : Type} {s t : Session σ} {x : Sentence} {i : Nat} {id : SentenceId}
  {ops : List Navigation}

variable [Link σ]

/-! ## What a frame about a sentence leaves -/

section Frames

/-- A bad answer to the call for a sentence that is there puts it in error, and cancels what may
send sentences. -/
private theorem agrees_refused (hn : s.document.Numbered) (hslot : s.slot = some (.add x.id))
    (hx : s.document.sent[i]? = some x) (failure : Failure) :
    Agrees (s.freed.dropAdvances.changed (s.document.refuseAt i failure.location failure.message))
      (s.handleFrame (.response (.fail failure))) := by
  have hfound :=
    hn.sentence? ((Document.getElem?_sentences_of_lt (Document.lt_locked_of_sent hx)).trans hx)
  obtain ⟨⟨request, age, timedOut⟩, hrequest, rfl : request = .add x.id⟩ :=
    Option.map_eq_some_iff.1 hslot
  simp only [handleFrame, handleResponse, hrequest, applyFailure, hfound,
    Option.isSome_some, if_true, Document.markError_eq hn hx]
  exact agrees_log
    (s.freed.dropAdvances.changed (s.document.refuseAt i failure.location failure.message)) .error
    failure.message

omit [Link σ] in
/-- An error of a sentence cancels what may send sentences. -/
private theorem queue_handleFeedback_of_failed (hc : s.document.Coherent) {feedback : Feedback}
    (hi : s.document.indexOfState? feedback.state = some i) {location : Option Location}
    {message : String} (hnews : feedback.content.news? = some (.failed location message)) :
    (s.handleFeedback feedback).queue = Navigation.dropAdvances s.queue := by
  have hheed : s.heed feedback = s.hear feedback.state (.failed location message) := by
    rw [heed, hnews, Option.elim_some]
  have hstruck : (s.hear feedback.state (.failed location message)).queue =
      Navigation.dropAdvances s.queue := by
    rw [hear_eq_of_indexOfState? s hi]
    rfl
  rw [handleFeedback_eq s hc, hheed, ← hstruck]
  exact ((Agrees.refl _).note feedback.content.logged?).queue

end Frames

/-! ## The rollback -/

/-- The rollback of the doomed sentences is sent next, and once it is answered, nothing is doomed
any more and `ops` are what is to be done. -/
def ResumesWith (s : Session σ) (ops : List Navigation) : Prop :=
  s.isAlive = true ∧ (s.pump.isAlive = true →
    (∃ id, s.pump.slot = some (.editAt id)) ∧ ∀ response,
    (s.pump.handleFrame (.response response)).isAlive = true →
      (s.pump.handleFrame (.response response)).document.doomed = [] ∧
      (s.pump.handleFrame (.response response)).slot = none ∧
      (s.pump.handleFrame (.response response)).queue = ops)

/-- Sending a call keeps the queue, as long as the link does not fail. -/
private theorem queue_send {request : Request} {call : Call} (ha : (s.send request call).Active) :
    (s.send request call).queue = s.queue :=
  of_active_send (P := fun t => t.queue = s.queue) (fun _ => rfl) ha

/-- The answer to a rollback leaves the queue as it is. -/
theorem Takes.queue_of_rollback {response : Response} (ht : Takes s (.response response) t)
    (ha : t.Active) (hslot : s.slot = some (.editAt id)) : t.queue = s.queue := by
  cases ht with
  | broken fault => exact absurd ha (not_active_fail _ _)
  | rolledBack _ hs | told _ _ hs => exact hs.queue
  | started hslot' | accepted hslot' | refused hslot' | acceptedLate hslot' | refusedLate hslot' =>
    simp [hslot] at hslot'

/-- What the rollback in front of the queue comes to. -/
theorem Orderly.resumesWith (h : s.Orderly) (ha : s.Active) (hslot : s.slot = none)
    (hd : s.document.doomed ≠ []) (hqueue : s.queue = .rewind id :: ops) : s.ResumesWith ops := by
  refine ⟨h.alive.2 ha, fun halive => ?_⟩
  have hready := h.ready ha (by simp [hslot])
  have hfree := (slot_eq_none_iff s).1 hslot
  -- the rollback names the first doomed sentence, so a call is sent for it
  obtain ⟨id', hget, hnext⟩ := (h.rollback ha hd).head (by simp [hslot])
  obtain rfl : id = id' := by simpa [hqueue] using hnext
  have hindex := h.coherent.numbered.indexOf?_of_trail hget
  obtain ⟨y, hy, rfl⟩ := Document.exists_of_indexOf? hindex
  obtain ⟨target, htarget⟩ := Option.isSome_iff_exists.1
    (Document.stateBefore_isSome (h.root hready) s.document.live.length)
  have hstep : Navigation.step s.settings.axiomPolicy s.document (.rewind y.id) ops =
      .send (.editAt y.id) (.editAt target) s.document ops := by
    simp only [Navigation.step, hindex, Navigation.rewindTo, hy, htarget]
  have hpump : s.pump = send { s with queue := ops } (.editAt y.id) (.editAt target) := by
    rw [pump_eq]
    simp only [hfree, Option.isNone_none, hready, and_self, if_true, hqueue, hstep]
  have horderly : s.pump.Orderly := hpump ▸ h.act (.round (.send hfree hready hqueue hstep))
  have hactive := horderly.alive.1 halive
  have hsent : s.pump.slot = some (.editAt y.id) := by
    rw [hpump] at hactive ⊢
    exact (slot_send hactive).1
  have hqueue' : s.pump.queue = ops := by
    rw [hpump] at hactive ⊢
    exact queue_send hactive
  have hdocument : s.pump.document = s.document := by rw [hpump, document_send]
  refine ⟨⟨_, hsent⟩, fun response hback => ?_⟩
  have ht := horderly.takes_handleFrame (.response response)
  have hback' := (horderly.handleFrame halive (.response response)).alive.1 hback
  have hdone := horderly.truncates hsent (hdocument ▸ hindex) hback'
  refine ⟨?_, ?_, (ht.queue_of_rollback hback' hsent).trans hqueue'⟩
  · rw [hdone, hdocument, Document.doomed_truncateAt_eq_nil_iff]
    exact .inr (Nat.le_refl _)
  · obtain ⟨-, -, hnone⟩ := ht.slot_of_response hback'
    exact hnone

/-! ## What an answer about doomed text leaves -/

/-- The answer to the call for a sentence leaves the rollback in front, and it is sent next. -/
theorem Orderly.resumesWith_of_agrees (h : s.Orderly) (hd : s.document.doomed ≠ [])
    (hslot : s.slot = some (.add x.id)) {response : Response} {f : Sentence → Sentence}
    {queue : List Navigation}
    (hqueue : queue = .rewind id :: ops)
    (hs : Agrees { s.freed with document := s.document.modifyAt i f, queue, goalsStale := true }
      (s.handleFrame (.response response))) :
    (s.handleFrame (.response response)).ResumesWith ops := by
  have ha := h.active_of_slot hslot
  have horderly := h.handleFrame (h.alive.2 ha) (.response response)
  have hactive : (s.handleFrame (.response response)).Active := hs.active_iff.2 ha
  refine horderly.resumesWith hactive hs.slot ?_ (hs.queue.trans hqueue)
  rw [hs.document]
  exact fun hnone => hd ((Document.doomed_modifyAt_eq_nil_iff ..).1 hnone)

/-- While the answer to the call for a doomed sentence is awaited, the rollback to the first doomed
sentence comes next, and what an editor has asked for since is queued behind it. A good answer
leaves all of it to be done once the rollback is answered. A bad answer, and an error that is found
in a sentence, cancel what would send sentences and leave the rest. -/
theorem Run.cancels_behind_rollback {h : History} (hr : Run h s) (hx : x ∈ s.document.doomed) :
    (s.slot = some (.add x.id) → ∃ id ops, s.queue = .rewind id :: ops ∧
      (∀ payload state closed message,
        Reply.ofElement .add payload = .ok (.add state closed message) →
        (s.handleFrame (.response (.good payload))).ResumesWith ops) ∧
      ∀ failure,
        (s.handleFrame (.response (.fail failure))).ResumesWith (Navigation.dropAdvances ops)) ∧
    ∀ feedback i location message, s.document.indexOfState? feedback.state = some i →
      s.document.sentences[i]? = some x → feedback.content.news? = some (.failed location message) →
      (s.handleFeedback feedback).queue = Navigation.dropAdvances s.queue := by
  have ho := hr.orderly
  have hn := ho.coherent.numbered
  have hd : s.document.doomed ≠ [] := List.ne_nil_of_mem hx
  refine ⟨fun hslot => ?_, fun feedback i location message hi _ hnews =>
    queue_handleFeedback_of_failed ho.coherent hi hnews⟩
  obtain ⟨i, hi⟩ := Document.sent_of_mem_doomed hx
  -- an answer for a sentence is awaited, so the rollback has not been sent and comes next
  obtain ⟨id, -, hnext⟩ := (ho.rollback (ho.active_of_slot hslot) hd).head (by simp [hslot])
  obtain ⟨ops, hqueue⟩ := List.head?_eq_some_iff.1 hnext
  refine ⟨id, ops, hqueue, fun payload state closed message hreply => ?_, fun failure => ?_⟩
  · exact ho.resumesWith_of_agrees hd hslot hqueue (agrees_accepted hn hslot hi hreply)
  · have hkept : Navigation.dropAdvances s.queue = .rewind id :: Navigation.dropAdvances ops := by
      rw [hqueue]
      rfl
    exact ho.resumesWith_of_agrees hd hslot hkept (agrees_refused hn hslot hi failure)

/-- A session that waits for the answer to the sentence of "A." while the text has become "B.", and
an editor has asked for the first sentence of that. -/
def hurried : Session Channel :=
  ((waiting sentCalls).perform (.setText "B.")).perform .forward

theorem hurried_eq : hurried = { waiting sentCalls with
    document := { sentText with text := "B.", live := [], doomed := sentText.live }
    queue := [.rewind 0, .forward 1] } := by
  cbv

/-- A run leads to the session that is told to go on while its sentence is rolled back. -/
theorem exists_run_hurried : ∃ h, Run h hurried := by
  obtain ⟨es, hedited, -⟩ := run_waiting.operate (.setText "B.")
  obtain ⟨es', hasked, -⟩ := hedited.operate .forward
  exact ⟨_, hasked⟩

/-- The answer to "A." decides whether the sentence of "B." is sent. -/
theorem cancels_behind_rollback_of_hurried :
    ∃ (h : History) (x : Sentence),
      Run h hurried ∧ x ∈ hurried.document.doomed ∧ hurried.slot = some (.add x.id) ∧
      (hurried.handleFrame (replyFrame (.add ⟨2⟩ none ""))).ResumesWith [.forward 1] ∧
      (hurried.handleFrame (.response (.fail ⟨⟨1⟩, none, "no"⟩))).ResumesWith [] := by
  obtain ⟨h, hr⟩ := exists_run_hurried
  have hx : ⟨0, ⟨0, 2⟩, "A.", .pending, none, false⟩ ∈ hurried.document.doomed := by
    rw [hurried_eq]
    exact List.mem_singleton_self _
  have hslot : hurried.slot = some (.add 0) := by rw [hurried_eq]; rfl
  have hreply : Reply.ofElement .add (Reply.add ⟨2⟩ none "").toElement =
      .ok (.add ⟨2⟩ none "") := by cbv
  obtain ⟨hanswer, -⟩ := hr.cancels_behind_rollback hx
  obtain ⟨id, ops, hqueue, hgood, hbad⟩ := hanswer hslot
  -- behind the rollback one order waits
  obtain ⟨-, rfl⟩ : 0 = id ∧ [.forward 1] = ops := by simpa [hurried_eq] using hqueue
  exact ⟨h, _, hr, hx, hslot, hgood _ _ _ _ hreply, hbad _⟩

/-- The sentence that has become invalid is refused, and what was asked for after the edit is not
done. -/
theorem exists_cancelled :
    ∃ (h : History) (x : Sentence) (failure : Failure), Run h hurried ∧ hurried.isAlive = true ∧
      x ∈ hurried.document.doomed ∧ hurried.slot = some (.add x.id) ∧
      hurried.queue = [.rewind x.id, .forward 1] ∧
      (hurried.handleFrame (.response (.fail failure))).isAlive = true ∧
      (hurried.handleFrame (.response (.fail failure))).queue = [.rewind x.id] := by
  obtain ⟨h, hr⟩ := exists_run_hurried
  refine ⟨h, ⟨0, ⟨0, 2⟩, "A.", .pending, none, false⟩, ⟨⟨1⟩, none, "no"⟩, hr, ?_⟩
  rw [hurried_eq]
  exact ⟨rfl, List.mem_singleton_self _, rfl, rfl, by cbv, by cbv⟩

end Session

end ProofDesk
