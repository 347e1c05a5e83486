import ProofDesk.Proofs.Session.Drift
import ProofDesk.Proofs.Session.Ended
import ProofDesk.Proofs.Session.Keeps
import ProofDesk.Proofs.Session.Rest
import ProofDesk.Proofs.Session.Turns

/-!
# Goals that keep up

Goals are asked for when nothing is queued and something has happened since they were asked for
last. An answer to a sentence that has been discarded meanwhile is no such event by itself, but then
the sentence was discarded by an error, which is one (`Run.noticed`). So whenever a session comes to
rest, the goals have been asked for and answered since the last event that may have changed them
(`Run.abreast`), and what is shown is the last good answer.
-/

namespace ProofDesk

namespace History

/-! ## Goals in a history -/

/-- The goals that an exchange brings as a good answer to a call for them, where `open?` is still to
be answered. -/
def goalAnswer? (open? : Option (Request × Call)) : Exchange → Option (Option Goals)
  | .received (.response (.good payload)) =>
    match open? with
    | some (.goal, _) =>
      match Reply.ofElement .goal payload with
      | .ok (.goal goals) => some goals
      | .error _ => none
    | _ => none
  | _ => none

/-- The goals that good answers bring in a history, where `open?` is still to be answered before
it. -/
def goalAnswersFrom (open? : Option (Request × Call)) : History → List (Option Goals)
  | [] => []
  | e :: later => (goalAnswer? open? e).toList ++ goalAnswersFrom (afterExchange open? e) later

/-- The goals that good answers to calls for them have brought so far. -/
def goalAnswers (h : History) : List (Option Goals) :=
  h.goalAnswersFrom none

/-- The goals have been asked for, and the call has been answered. -/
def AsksGoals (es : History) : Prop :=
  ∃ (before between : History) (response : Response) (after : History),
    es = before ++ .sent .goal .goal :: between ++ .received (.response response) :: after ∧
    between.responses = []

theorem goalAnswersFrom_append (open? : Option (Request × Call)) (h es : History) :
    goalAnswersFrom open? (h ++ es) = h.goalAnswersFrom open? ++
      es.goalAnswersFrom (h.foldl afterExchange open?) := by
  induction h generalizing open? with
  | nil => rfl
  | cons e h ih =>
    rw [List.cons_append, goalAnswersFrom, goalAnswersFrom, ih, List.append_assoc, List.foldl_cons]

/-- What is sent brings no goals. -/
private theorem goalAnswers_append_of_sent {es : History}
    (hsent : ∀ e ∈ es, ∃ request call, e = .sent request call)
    (h : History) : goalAnswers (h ++ es) = h.goalAnswers := by
  have hnone : ∀ open?, goalAnswersFrom open? es = [] := by
    induction es with
    | nil => exact fun _ => rfl
    | cons e es ih =>
      intro open?
      obtain ⟨request, call, rfl⟩ := hsent e List.mem_cons_self
      exact ih (fun e he => hsent e (List.mem_cons_of_mem _ he)) _
  rw [goalAnswers, goalAnswersFrom_append, hnone, List.append_nil, goalAnswers]

/-- One more exchange tells goals only if it answers a request for them. -/
private theorem goalAnswers_concat (h : History) (e : Exchange) :
    goalAnswers (h ++ [e]) = h.goalAnswers ++ (goalAnswer? h.unanswered e).toList := by
  rw [goalAnswers, goalAnswersFrom_append, goalAnswersFrom, goalAnswersFrom, List.append_nil]
  rfl

/-- Goals that were asked for have been asked for, whatever follows. -/
theorem AsksGoals.append {es : History} (ha : es.AsksGoals) (later : History) :
    AsksGoals (es ++ later) := by
  obtain ⟨before, between, response, after, rfl, hnone⟩ := ha
  exact ⟨before, between, response, after ++ later, by simp, hnone⟩

end History

namespace Session

variable {σ : Type} {s t : Session σ} {h es : History}

/-! ## What leaves the goals alone -/

theorem goals_sentenceError (s : Session σ) (index : Option Nat) (location : Option Location)
    (message : String) :
    (s.sentenceError index location message).goals = s.goals := by
  unfold sentenceError
  rw [goals_log]
  split
  · rfl
  · split <;> rfl

theorem goals_handleFeedback (s : Session σ) (feedback : Feedback) :
    (s.handleFeedback feedback).goals = s.goals := by
  unfold handleFeedback
  dsimp only
  split
  · split <;> rfl
  · split <;> rfl
  · exact goals_sentenceError ..
  · exact goals_sentenceError ..
  · exact goals_log ..
  · rfl

theorem goals_applyFailure {request : Request} {failure : Failure}
    (hs : s.applyFailure request failure = .ok t) :
    t.goals = s.goals := by
  obtain ⟨document, queue, goalsStale, rfl⟩ := exists_of_applyFailure hs
  exact goals_log ..

/-- Of good answers only those to a call for the goals change them. -/
theorem goals_applyReply {request : Request} {reply : Reply request.kind}
    (hs : s.applyReply request reply = .ok t) (hgoal : request ≠ .goal) : t.goals = s.goals := by
  obtain ⟨_, _, _, _, _, _, rfl, hgoals⟩ := exists_of_applyReply hs
  exact hgoals hgoal

/-! ## Events that may change the goals -/

/-- The frame may change the goals: it answers a sentence or a rollback, or reports an error that a
sentence is in then. -/
def Unsettles (s : Session σ) : Inbound → Prop
  | .response _ => ∃ id, s.slot = some (.add id) ∨ s.slot = some (.editAt id)
  | .feedback feedback => feedback.reportsError = true ∧
    ∃ x ∈ (s.handleFeedback feedback).document.sentences,
      x.stateId = some feedback.state ∧ x.isError = true

/-- A sentence that has been discarded before its answer has left the goals to be asked for. -/
def Noticed (s : Session σ) : Prop :=
  ∀ id, s.slot = some (.add id) → id ∈ s.document.trail.map (·.id) ∨ s.goalsStale = true

/-- Nothing is noticed where no sentence is waited for. -/
theorem noticed_of_slot (hslot : ∀ id, s.slot ≠ some (.add id)) : s.Noticed :=
  fun id hid => absurd hid (hslot id)

/-- Whether a discarded sentence has been noticed depends on the slot, on the trail and on what is
due. -/
theorem Noticed.of_eq (hn : s.Noticed) (hslot : t.slot = s.slot)
    (htrail : t.document.trail.map (·.id) = s.document.trail.map (·.id))
    (hstale : t.goalsStale = s.goalsStale) :
    t.Noticed := by
  intro id hid
  rw [htrail, hstale]
  exact hn id (hslot ▸ hid)

/-- An error that a sentence is in leaves the goals to be asked for. -/
private theorem Orderly.stale_of_error (ho : s.Orderly) {feedback : Feedback}
    (hu : s.Unsettles (.feedback feedback)) :
    (s.handleFeedback feedback).goalsStale = true := by
  obtain ⟨herror, x, hx, hstate, -⟩ := hu
  have hsentence : ∀ location message, s.handleFeedback feedback =
      s.sentenceError (s.document.indexOfState? feedback.state) location message →
      (s.handleFeedback feedback).goalsStale = true := by
    intro location message heq
    rw [heq] at hx ⊢
    cases hi : s.document.indexOfState? feedback.state with
    | none =>
      -- the error is about no sentence, and none has the state afterwards
      rw [hi] at hx
      have hdocument := (agrees_log s .error message).document
      have hmem : x ∈ s.document.sentences := by rwa [← hdocument]
      have hother := List.findIdx?_eq_none_iff.1 hi x hmem
      simp [hstate] at hother
    | some i =>
      obtain ⟨y, hy, -⟩ := Document.sent_of_indexOfState? ho.coherent.stateId_unsent hi
      unfold sentenceError
      rw [Option.bind_some, Document.getElem?_sentences_of_lt (Document.lt_locked_of_sent hy), hy]
      dsimp only
      rw [Document.markError_eq ho.coherent.numbered hy]
      exact (agrees_log ..).goalsStale
  unfold Feedback.reportsError at herror
  split at herror
  · next location message hcontent =>
    exact hsentence location message (by simp only [handleFeedback, hcontent])
  · next location message hcontent =>
    exact hsentence location message (by simp only [handleFeedback, hcontent])
  · simp at herror

/-- The goals have been asked for, and the session waits for them. -/
def AwaitsGoals (es : History) (s : Session σ) : Prop :=
  ∃ before between : History, es = before ++ .sent .goal .goal :: between ∧ between.responses = [] ∧
    s.slot = some .goal

/-- Since an event that may have changed the goals they are still to be asked for, are waited for,
or have been answered. -/
def Refreshing (es : History) (s : Session σ) : Prop :=
  s.Active → s.goalsStale = true ∨ s.AwaitsGoals es ∨ es.AsksGoals

/-- A session that has come to rest has asked for the goals, and they have been answered. -/
theorem Refreshing.asked (hf : s.Refreshing es) (hready : s.status = .ready)
    (hrest : s.isBusy = false) :
    es.AsksGoals := by
  simp only [isBusy, Bool.or_eq_false_iff, Option.isSome_eq_false_iff,
    Option.isNone_iff_eq_none] at hrest
  obtain ⟨⟨hfree, -⟩, hfresh⟩ := hrest
  refine ((hf (.inr hready)).resolve_left (by simp [hfresh])).resolve_left ?_
  rintro ⟨-, -, -, -, hslot⟩
  rw [(slot_eq_none_iff s).2 hfree] at hslot
  cases hslot

variable [Link σ]

/-! ## What operations and frames do to the goals -/

theorem goals_send (s : Session σ) (request : Request) (call : Call) :
    (s.send request call).goals = s.goals := by
  unfold send
  split <;> rfl

theorem goals_close (s : Session σ) : s.close.goals = s.goals := by
  obtain ⟨-, heq⟩ | ⟨t, rfl | rfl, heq⟩ := close_cases s
  · rw [heq]
  · rw [heq]
  · rw [heq]
    exact goals_send ..

/-- Pumping asks for the goals and does not change them. -/
theorem Round.goals_eq (hround : Round s es t) : t.goals = s.goals := by
  cases hround with
  | send | goal => exact goals_send ..
  | proceed => rfl
  | refuse => exact (quiet_refuse ..).goals

/-- Small steps leave the goals alone. -/
theorem Act.goals_eq (ha : Act s es t) : t.goals = s.goals := by
  cases ha with
  | quiet hs => exact hs.goals
  | order => rfl
  | edit => rw [noteEdit_eq]
  | round hround => exact hround.goals_eq
  | status => exact goals_send ..
  | close => exact goals_close s

/-- What a frame does to the goals is told by what waits for its answer. -/
theorem goals_handleFrame {open? : Option (Request × Call)} (hslot : s.slot = open?.map (·.1))
    (frame : Inbound) :
    (s.handleFrame frame).goals = (History.goalAnswer? open? (.received frame)).getD s.goals := by
  cases frame with
  | feedback feedback => exact goals_handleFeedback s feedback
  | response response =>
    cases open? with
    | none =>
      -- an answer that nothing waits for breaks the session
      have hfree := (slot_eq_none_iff s).1 hslot
      have hnone : History.goalAnswer? none (.received (.response response)) = none := by
        cases response <;> rfl
      rw [hnone, Session.handleFrame, handleResponse, hfree]
      rfl
    | some open? =>
      obtain ⟨request, call⟩ := open?
      rw [Option.map_some] at hslot
      cases response with
      | fail failure =>
        obtain ⟨outstanding, hr, rfl⟩ := Option.map_eq_some_iff.1 hslot
        rw [Session.handleFrame, handleResponse, hr]
        dsimp only
        split
        · next hs =>
          have hkept := goals_applyFailure hs
          exact hkept
        · rfl
      | good payload =>
        rw [handleFrame_good hslot]
        by_cases hgoal : request = .goal
        · subst hgoal
          unfold History.goalAnswer?
          dsimp only [Request.kind]
          cases hreply : Reply.ofElement .goal payload with
          | error e => rfl
          | ok reply => cases reply with
            | goal goals => rfl
        · have hnone : History.goalAnswer? (some (request, call))
              (.received (.response (.good payload))) = none := by
            cases request with
            | goal => exact absurd rfl hgoal
            | _ => rfl
          rw [hnone]
          split
          · split
            · next hs =>
              have hkept := goals_applyReply hs hgoal
              exact hkept
            · rfl
          · rfl

/-- An act of a session receives nothing. -/
private theorem Act.forall_sent (ha : Act s es t) :
    ∀ e ∈ es, ∃ request call, e = .sent request call := by
  cases ha with
  | round hround => cases hround <;> simp
  | close =>
    unfold farewell
    split <;> simp
  | _ => simp

/-- What is shown is the last good answer to a call for the goals. -/
theorem Run.goals_eq (hr : Run h s) : s.goals = h.goalAnswers.getLast?.join := by
  induction hr with
  | start link text settings => exact goals_send ..
  | @move h es s t hr hm ih =>
    cases hm with
    | outside link => rwa [List.append_nil]
    | act ha => rw [ha.goals_eq, ih, History.goalAnswers_append_of_sent ha.forall_sent]
    | frame frame halive =>
      -- what waits in the slot is the call that the history leaves unanswered
      have hslot := hr.turns.slot (hr.orderly.alive.1 halive)
      rw [goals_handleFrame hslot, ih, History.goalAnswers_concat]
      cases History.goalAnswer? h.unanswered (.received frame) with
      | none => rw [Option.toList_none, List.append_nil, Option.getD_none]
      | some goals =>
        rw [Option.toList_some, List.getLast?_concat, Option.getD_some, Option.join_some]
    | lose fault halive => rwa [List.append_nil]

/-! ## Discarded sentences -/

/-- An act of a session discards no sentence without leaving the goals to be asked for. -/
theorem Noticed.act (hn : s.Noticed) (ho : s.Orderly) (ha : Act s es t) (hactive : t.Active) :
    t.Noticed := by
  cases ha with
  | quiet hs => exact hn.of_eq hs.slot (by rw [hs.document]) hs.goalsStale
  | order halive horder => exact hn.of_eq rfl rfl rfl
  | edit he =>
    refine hn.of_eq (slot_noteEdit ..) ?_ (goalsStale_noteEdit ..)
    rw [document_noteEdit]
    exact congrArg _ he.reconciled.trail
  | round hround =>
    cases hround with
    | send hfree hready hqueue hstep =>
      have hslot := (slot_send hactive).1
      cases Navigation.of_step_send ho.coherent.numbered hstep with
      | add hop hblocked hd he hx htip =>
        intro id hid
        rw [hslot, Option.some.injEq, Request.add.injEq] at hid
        subst hid
        -- the sentence that is sent stands at the end of the trail, waiting
        left
        rw [document_send, Document.trail_withPending (he.doomed.trans hd)]
        simp
      | editAt => exact noticed_of_slot (by simp [hslot])
    | proceed hfree => exact noticed_of_slot (by simp [slot, hfree])
    | refuse hfree =>
      refine noticed_of_slot ?_
      rw [(quiet_refuse _ _).slot]
      simp [slot, dropAdvances, hfree]
    | goal => exact noticed_of_slot (by simp [(slot_send hactive).1])
  | status => exact noticed_of_slot (by simp [(slot_send hactive).1])
  | close =>
    refine absurd hactive ?_
    unfold Active
    simp [status_close]

/-- A frame discards no sentence without leaving the goals to be asked for. -/
theorem Noticed.takes (hn : s.Noticed) (ho : s.Orderly) {frame : Inbound} (ht : Takes s frame t)
    (hactive : t.Active) :
    t.Noticed := by
  cases frame with
  | response response =>
    -- the slot is free again, so nothing is on its way that could be noticed
    obtain ⟨-, -, hslot⟩ := ht.slot_of_response hactive
    exact noticed_of_slot (by simp [hslot])
  | feedback feedback =>
    cases ht with
    | broken fault => exact absurd hactive (not_active_fail _ _)
    | admitted hi => exact hn.of_eq rfl (by rw [Document.trail_markAxiom]) rfl
    | processed hcontent hi =>
      obtain ⟨x, hx, -⟩ := Document.sent_of_indexOfState? ho.coherent.stateId_unsent hi
      exact hn.of_eq rfl
        (Document.map_id_trail_modifyAt (Document.lt_locked_of_sent hx) fun _ => rfl) rfl
    | failed hi hx hs => exact fun _ _ => .inr hs.goalsStale
    | heard hs => exact hn.of_eq hs.slot (by rw [hs.document]) hs.goalsStale

/-- Nothing discards a sentence without leaving the goals to be asked for. -/
theorem Noticed.move (hn : s.Noticed) (ho : s.Orderly) (hm : Moves s es t) : t.Noticed := by
  by_cases hactive : t.Active
  · cases hm with
    | outside link => exact hn.of_eq rfl rfl rfl
    | act ha => exact hn.act ho ha hactive
    | frame frame halive => exact hn.takes ho (ho.takes_handleFrame frame) hactive
    | lose fault halive => exact absurd hactive (not_active_fail _ _)
  · -- a session that has ended waits for nothing
    exact noticed_of_slot (by simp [((ho.move hm).idle hactive).1])

/-- On every run a sentence that is discarded before its answer leaves the goals to be asked for. -/
theorem Run.noticed (hr : Run h s) : s.Noticed := by
  induction hr with
  | start link text settings =>
    refine noticed_of_slot ?_
    unfold Session.start send
    dsimp only
    split <;> simp [slot, fail]
  | move hr hm ih => exact ih.move hr.orderly hm

/-- Taking up a frame does not make the goals any fresher. -/
theorem Takes.stale {frame : Inbound} (ht : Takes s frame t) (hactive : t.Active)
    (hstale : s.goalsStale = true) :
    t.goalsStale = true := by
  cases ht with
  | broken fault => exact absurd hactive (not_active_fail _ _)
  | admitted | processed => exact hstale
  | accepted _ _ _ hs | refused _ _ hs | refusedLate _ _ hs | rolledBack _ hs | failed _ _ hs =>
    exact hs.goalsStale
  | started _ _ hs | acceptedLate _ _ hs | told _ _ hs | heard hs =>
    exact hs.goalsStale.trans hstale

/-- The answer to a sentence or a rollback leaves the goals to be asked for. -/
private theorem Noticed.stale_of_answer (hn : s.Noticed) {response : Response}
    (ht : Takes s (.response response) t) (hactive : t.Active)
    (hu : s.Unsettles (.response response)) : t.goalsStale = true := by
  obtain ⟨id, hid⟩ := hu
  cases ht with
  | broken fault => exact absurd hactive (not_active_fail _ _)
  | accepted _ _ _ hs | refused _ _ hs | refusedLate _ _ hs | rolledBack _ hs => exact hs.goalsStale
  | started hslot => simp [hslot] at hid
  | told hslot hrequest => rcases hrequest with rfl | rfl | rfl <;> simp [hslot] at hid
  | acceptedLate hslot hgone hs =>
    -- the goals are not set aside by this answer, but were when the sentence was discarded
    rw [Document.ids_eq] at hgone
    rw [hs.goalsStale]
    exact (hn _ hslot).resolve_left fun hmem => hgone (List.mem_append_left _ hmem)

/-- Whatever may have changed the goals leaves them to be asked for, if the session goes on. -/
private theorem Noticed.stale_of_unsettled (hn : s.Noticed) (ho : s.Orderly) {frame : Inbound}
    (hu : s.Unsettles frame) (hactive : (s.handleFrame frame).Active) :
    (s.handleFrame frame).goalsStale = true := by
  cases frame with
  | response response =>
    exact hn.stale_of_answer (ho.takes_handleFrame (.response response)) hactive hu
  | feedback feedback => exact ho.stale_of_error hu

/-! ## Until the goals have been answered -/

/-- A small step asks for the goals, or leaves them to be asked for. -/
theorem Act.stale (ha : Act s es t) (hactive : t.Active) (hstale : s.goalsStale = true) :
    t.goalsStale = true ∨ t.AwaitsGoals es := by
  cases ha with
  | quiet hs => exact .inl (hs.goalsStale.trans hstale)
  | order => exact .inl hstale
  | edit => exact .inl ((goalsStale_noteEdit ..).trans hstale)
  | round hround =>
    cases hround with
    | send => exact .inl (of_active_send (P := (·.goalsStale = true)) (fun _ => hstale) hactive)
    | proceed => exact .inl hstale
    | refuse => exact .inl ((quiet_refuse ..).goalsStale.trans hstale)
    -- the flag is taken down and the goals are asked for in one round
    | goal => exact .inr ⟨[], [], rfl, rfl, (slot_send hactive).1⟩
  | status => exact .inl (of_active_send (P := (·.goalsStale = true)) (fun _ => hstale) hactive)
  | close =>
    refine absurd hactive ?_
    unfold Active
    simp [status_close]

/-- A session that waits for goals does so after each of its acts. -/
theorem AwaitsGoals.act {es' : History} (hw : s.AwaitsGoals es) (ho : s.Orderly) (ha : Act s es' t)
    (hactive : t.Active) : t.AwaitsGoals (es ++ es') := by
  obtain ⟨before, between, rfl, hnone, hslot⟩ := hw
  rcases ho.act_exchange ha with ⟨rfl, hkept⟩ | ⟨-, -, -, -, hfree, -⟩
  · rw [List.append_nil]
    exact ⟨before, between, rfl, hnone, (hkept hactive).1.trans hslot⟩
  · simp [hslot] at hfree

/-- While the goals are waited for, a frame is their answer or is feedback. -/
theorem AwaitsGoals.takes {frame : Inbound} (hw : s.AwaitsGoals es) (ht : Takes s frame t)
    (hactive : t.Active) :
    t.AwaitsGoals (es ++ [.received frame]) ∨ History.AsksGoals (es ++ [.received frame]) := by
  obtain ⟨before, between, rfl, hnone, hslot⟩ := hw
  cases frame with
  | response response => exact .inr ⟨before, between, response, [], by simp, hnone⟩
  | feedback feedback =>
    refine .inl ⟨before, between ++ [.received (.feedback feedback)], by simp, ?_,
      (ht.slot_of_feedback hactive).1.trans hslot⟩
    rw [History.responses_feedback, hnone]

/-- A session on its way to fresh goals stays on it, whatever happens. -/
theorem Refreshing.move {es' : History} (hf : s.Refreshing es) (ho : s.Orderly)
    (hm : Moves s es' t) :
    t.Refreshing (es ++ es') := by
  intro hactive
  -- a session that has ended does not start again
  have hbefore : s.Active := by
    by_contra hended
    exact (hm.of_ended ho (.of_not_active hended)).2.1.not_active hactive
  rcases hf hbefore with hstale | hwaits | hasked
  · cases hm with
    | outside link => exact .inl hstale
    | act ha =>
      refine (ha.stale hactive hstale).imp_right fun hwaits => .inl ?_
      obtain ⟨before, between, rfl, hnone, hslot⟩ := hwaits
      exact ⟨es ++ before, between, by simp, hnone, hslot⟩
    | frame frame halive => exact .inl ((ho.takes_handleFrame frame).stale hactive hstale)
    | lose fault halive => exact absurd hactive (not_active_fail _ _)
  · cases hm with
    | outside link =>
      rw [List.append_nil]
      exact .inr (.inl hwaits)
    | act ha => exact .inr (.inl (hwaits.act ho ha hactive))
    | frame frame halive => exact .inr (hwaits.takes (ho.takes_handleFrame frame) hactive)
    | lose fault halive => exact absurd hactive (not_active_fail _ _)
  · exact .inr (.inr (hasked.append es'))

/-- Whatever follows an unsettling frame, the goals are on their way. -/
theorem Refreshing.follows (hs : s.Refreshing []) (ho : s.Orderly) (hf : Follows s es t) :
    t.Refreshing es := by
  have hboth : t.Orderly ∧ t.Refreshing es := by
    induction hf with
    | refl => exact ⟨ho, hs⟩
    | move _ hm ih => exact ⟨ih.1.move hm, ih.2.move ih.1 hm⟩
  exact hboth.2

/-- Only the goals are asked for with the call for the goals, and only when nothing is queued. -/
private theorem Orderly.queue_of_goal (ho : s.Orderly) (hm : Moves s es t) {request : Request}
    (hgoal : .sent request .goal ∈ es) : s.queue = [] := by
  cases hm with
  | act ha =>
    cases ha with
    | round hround =>
      cases hround with
      | goal hfree hready hqueue hstale => exact hqueue
      | send hfree hready hqueue hstep =>
        cases Navigation.of_step_send ho.coherent.numbered hstep <;> simp at hgoal
      | _ => simp at hgoal
    | close =>
      unfold farewell at hgoal
      split at hgoal <;> simp at hgoal
    | _ => simp at hgoal
  | _ => simp at hgoal

/-- How the goals that a session shows keep up with its history. -/
structure Abreast (h : History) (s : Session σ) : Prop where
  /-- What is shown is the last good answer to a call for the goals, and nothing before there is
  one. -/
  shown : s.goals = h.goalAnswers.getLast?.join
  /-- After an event that may change the goals they have been asked for and answered whenever the
  session has come to rest. -/
  asked : ∀ frame, s.isAlive = true → s.Unsettles frame → ∀ es t,
    Follows (s.handleFrame frame) es t →
    t.status = .ready → t.isBusy = false → es.AsksGoals
  /-- The goals are asked for when nothing is queued. -/
  unhurried : ∀ es t, Moves s es t → ∀ request, .sent request .goal ∈ es → s.queue = []

/-- Where sentences that were discarded are noticed, the goals keep up if they are those of the last
answer. -/
theorem Noticed.keepsUp (hn : s.Noticed) (ho : s.Orderly)
    (hshown : s.goals = h.goalAnswers.getLast?.join) : Abreast h s where
  shown := hshown
  asked frame halive hu es t hf hready hrest := by
    have hstart : (s.handleFrame frame).Refreshing [] :=
      fun hactive => .inl (hn.stale_of_unsettled ho hu hactive)
    exact (hstart.follows (ho.handleFrame halive frame) hf).asked hready hrest
  unhurried _ _ hm _ hgoal := ho.queue_of_goal hm hgoal

/-- On every run the goals that are shown keep up with what has happened. -/
theorem Run.abreast (hr : Run h s) : Abreast h s :=
  hr.noticed.keepsUp hr.orderly hr.goals_eq

/-- Whatever operations have led to a session, its goals keep up with what has happened. -/
theorem abreast_of_reachable (hr : Reachable s) : ∃ h, Run h s ∧ Abreast h s := by
  obtain ⟨h, hrun⟩ := hr.exists_run
  exact ⟨h, hrun, hrun.noticed.keepsUp hrun.orderly hrun.goals_eq⟩

/-! ## A session that asks for the goals -/

/-- A session on "A." that has asked for the goals after its sentence was accepted. -/
def askingGoals : Session Channel :=
  { accepted { sentCalls with calls := sentCalls.calls ++ [.goal] } with
    goalsStale := false, request := some ⟨.goal, 0, false⟩ }

/-- One proof in progress, with nothing left to prove in focus. -/
def focusedAway : Goals :=
  ⟨[], [([], [])], [], []⟩

/-- A session on "A." that shows goals. -/
def showingGoals : Session Channel :=
  { askingGoals with request := none, goals := some focusedAway }

/-- The goals that were asked for are shown. -/
private theorem handleFrame_askingGoals :
    askingGoals.handleFrame (replyFrame (.goal (some focusedAway))) = showingGoals := by
  cbv

/-- Once the sentence of "A." has been accepted, the session comes to rest with the goals it has
asked for since. -/
theorem abreast_of_accepted : ∃ (h es : History) (t : Session Channel),
    Run h (waiting sentCalls) ∧ (waiting sentCalls).Unsettles (replyFrame (.add ⟨2⟩ none "")) ∧
      Follows ((waiting sentCalls).handleFrame (replyFrame (.add ⟨2⟩ none ""))) es t ∧
      t.status = .ready ∧ t.isBusy = false ∧ es.AsksGoals ∧
      Run (h ++ [.received (replyFrame (.add ⟨2⟩ none ""))] ++ es) t ∧
      t.goals = some focusedAway := by
  have hu : (waiting sentCalls).Unsettles (replyFrame (.add ⟨2⟩ none "")) := ⟨0, .inl rfl⟩
  have hasks : Act (accepted sentCalls) [.sent .goal .goal] askingGoals :=
    .round (.goal rfl rfl rfl rfl)
  -- the goals are asked for, and the answer is taken up
  have hf : Follows (accepted sentCalls) ([] ++ [.sent .goal .goal] ++
      [.received (replyFrame (.goal (some focusedAway)))]) showingGoals := by
    have hanswered := ((Follows.refl (accepted sentCalls)).move (.act hasks)).move
      (.frame (replyFrame (.goal (some focusedAway))) rfl)
    rwa [handleFrame_askingGoals] at hanswered
  have hrun : Run (sentHistory ++ [.received (replyFrame (.add ⟨2⟩ none ""))] ++
      ([] ++ [.sent .goal .goal] ++ [.received (replyFrame (.goal (some focusedAway)))]))
        showingGoals := by
    have haccepted := run_waiting.move (.frame (replyFrame (.add ⟨2⟩ none "")) rfl)
    rw [handleFrame_waiting] at haccepted
    exact haccepted.follows hf
  rw [← handleFrame_waiting] at hf
  exact ⟨_, _, _, run_waiting, hu, hf, rfl, rfl,
    run_waiting.abreast.asked _ rfl hu _ showingGoals hf rfl rfl, hrun, rfl⟩

end Session

end ProofDesk
