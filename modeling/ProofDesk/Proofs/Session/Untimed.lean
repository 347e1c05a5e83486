import ProofDesk.Proofs.Session.Rest

/-!
# Sessions without their clocks

A session keeps time for one purpose: it reports a call that has waited for too long, once. Without
the clock, the setting that it is compared with and the reports, which is what `untimed` leaves,
every operation does what it does with them: reporting changes nothing else, and time passes
unnoticed (`untimed_perform`).
-/

namespace ProofDesk

/-- Whether a notification reports that a call has waited for too long. -/
def Notification.isTimeout (n : Notification) : Bool :=
  n.kind = .timeout

namespace Session

variable {σ : Type}

/-- The session without the age of the call that waits, the setting it is compared with, and reports
of timeouts. -/
@[simps]
def untimed (s : Session σ) : Session σ :=
  { s with
    settings := { s.settings with timeout := 0 }
    request := s.request.map fun r => ⟨r.request, 0, false⟩
    notifications := s.notifications.filter (!·.isTimeout) }

variable (s : Session σ)

@[simp] theorem isAlive_untimed : s.untimed.isAlive = s.isAlive := rfl

@[simp] theorem refusal?_untimed : s.untimed.refusal? = s.refusal? := rfl

theorem isNone_request_untimed : s.untimed.request.isNone = s.request.isNone := by
  simp

private theorem isSome_request_untimed : s.untimed.request.isSome = s.request.isSome := by
  simp

@[simp] theorem slot_untimed : s.untimed.slot = s.slot :=
  Option.map_map ..

@[simp] theorem rewindPending_untimed : s.untimed.rewindPending = s.rewindPending := by
  unfold rewindPending
  rw [untimed_request]
  cases s.request with
  | none => rfl
  | some outstanding =>
    obtain ⟨request, age, timedOut⟩ := outstanding
    cases request <;> rfl

/-- A notification of any other kind is the same without a clock. -/
theorem untimed_notify {kind : NotificationKind} (hkind : kind ≠ .timeout) (message : String) :
    (s.notify kind message).untimed = s.untimed.notify kind message := by
  simp [untimed, notify, Notification.isTimeout, hkind]

theorem untimed_log (level : MessageLevel) (text : String) :
    (s.log level text).untimed = s.untimed.log level text := by
  rw [log_eq, log_eq]
  rfl

theorem untimed_refuse (fault : Fault) : (s.refuse fault).untimed = s.untimed.refuse fault := by
  unfold refuse
  rw [untimed_notify _ (by simp)]
  cases fault with
  | ambiguousSplit offset reason => rw [untimed_log]; rfl
  | _ => rfl

/-- Without a clock nothing is too late. -/
theorem untimed_checkTimeout : s.checkTimeout.2.untimed = s.untimed := by
  unfold checkTimeout
  cases hr : s.request with
  | none => rfl
  | some r =>
    dsimp only
    split
    · rfl
    · simp [untimed, notify, Notification.isTimeout, hr]

/-- Without a clock no time passes. -/
theorem untimed_elapse (milliseconds : Nat) : (s.elapse milliseconds).untimed = s.untimed := by
  simp [untimed, elapse, Function.comp_def]

/-! ### Answers and feedback -/

/-- An answer is applied to the call that waits for it, however long it has waited. -/
theorem untimed_applyReply (request : Request) (reply : Reply request.kind) :
    (s.applyReply request reply).map untimed = s.untimed.applyReply request reply := by
  cases request with
  | add id =>
    cases reply with
    | add state closed message =>
    simp only [applyReply, untimed_document]
    split
    · rfl
    · cases s.document.markValid id state .ordinary with
      | error refusal => rfl
      | ok document =>
        -- logging and the flag of the goals have no clock
        refine congrArg Except.ok ?_
        show ({ (log { s with document } .info message).untimed with goalsStale := true } :
          Session σ) = _
        rw [untimed_log]
        rfl
  | init | editAt id | goal | status | quit =>
    cases reply
    rfl

theorem untimed_applyFailure (request : Request) (failure : Failure) :
    (s.applyFailure request failure).map untimed = s.untimed.applyFailure request failure := by
  cases request with
  | init => rfl
  | add id =>
    simp only [applyFailure, untimed_document]
    split
    · cases s.document.markError id failure.location failure.message with
      | error refusal => rfl
      | ok document => exact congrArg Except.ok (untimed_log _ _ _)
    · exact congrArg Except.ok (untimed_log _ _ _)
  | editAt id | goal | status | quit => exact congrArg Except.ok (untimed_log _ _ _)

theorem untimed_handleResponse (response : Response) :
    (s.handleResponse response).map untimed = s.untimed.handleResponse response := by
  unfold handleResponse
  rw [untimed_request]
  cases s.request with
  | none => rfl
  | some outstanding =>
    -- what waits for its answer is the same but for how long it has waited
    have hfree : ({ s.untimed with request := none } : Session σ) =
      { s with request := none }.untimed := rfl
    rw [Option.map_some]
    dsimp only
    rw [hfree]
    cases response with
    | good payload =>
      dsimp only
      split
      · exact untimed_applyReply _ _ _
      · rfl
    | fail failure => exact untimed_applyFailure _ _ _

theorem untimed_sentenceError (index : Option Nat) (location : Option Location) (message : String) :
    (s.sentenceError index location message).untimed =
      s.untimed.sentenceError index location message := by
  unfold sentenceError
  rw [untimed_log, untimed_document]
  dsimp only
  split
  · rfl
  · split <;> rfl

theorem untimed_handleFeedback (feedback : Feedback) :
    (s.handleFeedback feedback).untimed = s.untimed.handleFeedback feedback := by
  unfold handleFeedback
  rw [untimed_document]
  dsimp only
  split
  · split <;> rfl
  · split <;> rfl
  · exact untimed_sentenceError _ _ _ _
  · exact untimed_sentenceError _ _ _ _
  · exact untimed_log _ _ _
  · rfl

/-! ### Sending and receiving -/

variable [Link σ]

theorem untimed_fail (fault : Fault) : (s.fail fault).untimed = s.untimed.fail fault := by
  unfold fail
  have hkind : NotificationKind.fatal ≠ .timeout := by simp
  rw [← untimed_notify s hkind fault.message]
  rfl

/-- A call that has just been sent has not waited. -/
theorem untimed_send (request : Request) (call : Call) :
    (s.send request call).untimed = s.untimed.send request call := by
  unfold send
  rw [untimed_link]
  split
  · rfl
  · exact untimed_fail _ _

/-- What can be sent does not depend on the clock. -/
theorem pump_untimed :
    s.untimed.pump =
      if s.request.isNone ∧ s.status = .ready then
        match s.queue with
        | [] =>
          if s.goalsStale then send (untimed { s with goalsStale := false }) .goal .goal
          else s.untimed
        | op :: rest =>
          match Navigation.step s.settings.axiomPolicy s.document op rest with
          | .send request call document queue =>
            send (untimed { s with document, queue }) request call
          | .proceed document queue => pump (untimed { s with document, queue })
          | .refuse document fault => pump (refuse (untimed { s with document }) fault)
      else s.untimed := by
  rw [pump_eq, isNone_request_untimed]
  rfl

/-- The queue is carried out the same way without a clock. -/
theorem untimed_pump : s.pump.untimed = s.untimed.pump := by
  -- both sessions take the same branch, since nothing that chooses it is erased
  fun_induction pump s with
  | case1 s h hq hstale =>
    rw [pump_untimed, if_pos h, hq]
    exact (untimed_send _ _ _).trans (if_pos hstale).symm
  | case2 s h hq hstale =>
    rw [pump_untimed, if_pos h, hq]
    exact (if_neg hstale).symm
  | case3 s h op rest hq request call document queue hstep =>
    rw [pump_untimed, if_pos h, hq]
    dsimp only
    rw [hstep]
    exact untimed_send _ _ _
  | case4 s h op rest hq document queue hstep ih =>
    rw [ih, pump_untimed s, if_pos h, hq]
    dsimp only
    rw [hstep]
  | case5 s h op rest hq document fault hstep ih =>
    rw [ih, untimed_refuse, pump_untimed s, if_pos h, hq]
    dsimp only
    rw [hstep]
  | case6 s h => rw [pump_untimed, if_neg h]

theorem untimed_handleFrame (frame : Inbound) :
    (s.handleFrame frame).untimed = s.untimed.handleFrame frame := by
  cases frame with
  | feedback feedback => exact untimed_handleFeedback s feedback
  | response response =>
    unfold handleFrame
    dsimp only
    rw [← untimed_handleResponse]
    cases s.handleResponse response with
    | ok t => rfl
    | error fault => exact untimed_fail s fault

theorem untimed_handleFrames (frames : List Inbound) :
    (s.handleFrames frames).untimed = s.untimed.handleFrames frames := by
  induction frames generalizing s with
  | nil => rfl
  | cons frame frames ih =>
    rw [handleFrames, handleFrames, List.foldl_cons, List.foldl_cons, isAlive_untimed,
      ← untimed_handleFrame, ← apply_ite untimed]
    exact ih _

theorem untimed_receive : s.receive.2.untimed = s.untimed.receive.2 := by
  unfold receive
  rw [isAlive_untimed, untimed_link]
  split
  · have hframes :=
      untimed_handleFrames { s with link := (Link.receive s.link).2 } (Link.receive s.link).1.frames
    dsimp only
    split
    · exact hframes
    · rw [apply_ite untimed, untimed_fail, hframes, ← isAlive_untimed, hframes]
      rfl
  · rfl

/-! ### Operations -/

theorem untimed_afterEdit (outcome : Reconciliation) :
    (s.afterEdit outcome).untimed = s.untimed.afterEdit outcome := by
  unfold afterEdit
  cases outcome with
  | rollback id =>
    dsimp only
    rw [refusal?_untimed, apply_ite untimed, untimed_pump]
    rfl
  | _ => rfl

theorem untimed_close : s.close.untimed = s.untimed.close := by
  unfold close
  rw [untimed_status, untimed_fatal, isNone_request_untimed, apply_ite untimed]
  split
  · rfl
  · dsimp only
    split
    · rw [← untimed_send]
      rfl
    · rfl

/-- What an operation does without a clock: time passes unnoticed, and polling reports no
timeout. -/
def performUntimed (s : Session σ) : Operation → Session σ
  | .poll => s.receive.2.pump
  | .elapse _ => s
  | op => s.perform op

/-- What an operation does is the same without a clock. -/
theorem untimed_perform (op : Operation) :
    (s.perform op).untimed = s.untimed.performUntimed op := by
  -- each guard reads what the clock does not touch, so both sides take the same branch
  cases op with
  | forward =>
    simp only [perform, performUntimed, forward, refusal?_untimed, rewindPending_untimed,
      untimed_document, untimed_settings_axiomPolicy]
    split
    · rfl
    · split
      · rfl
      · exact untimed_pump _
  | backward =>
    simp only [perform, performUntimed, backward, refusal?_untimed, isNone_request_untimed,
      untimed_document, untimed_queue]
    split
    · rfl
    · split
      · rfl
      · exact untimed_pump _
  | toCursor position =>
    simp only [perform, performUntimed, toCursor, refusal?_untimed]
    split
    · rfl
    · exact untimed_pump _
  | applyEdit start stop replacement =>
    simp only [perform, performUntimed, applyEdit, untimed_document]
    split
    · rfl
    · exact untimed_afterEdit _ _
  | setText text => exact untimed_afterEdit _ _
  | requestStatus =>
    simp only [perform, performUntimed, requestStatus, refusal?_untimed, isSome_request_untimed]
    split
    · rfl
    · split
      · rfl
      · exact untimed_send _ _ _
  | poll =>
    show s.receive.2.checkTimeout.2.pump.untimed = s.untimed.receive.2.pump
    rw [untimed_pump, untimed_checkTimeout, untimed_receive]
  | close => exact untimed_close s
  | takeNotifications | clearMessages => rfl
  | elapse milliseconds => exact untimed_elapse s milliseconds

end Session

end ProofDesk
