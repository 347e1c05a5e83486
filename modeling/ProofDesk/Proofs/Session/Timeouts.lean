import ProofDesk.Proofs.Session.Ended
import ProofDesk.Proofs.Session.Raised
import ProofDesk.Proofs.Session.Turns
import ProofDesk.Proofs.Session.Untimed

/-!
# Timeouts are only reports

A session that is watched is followed through the events around it, together with the notifications
that are taken from it. However time passes and however long a call may stay unanswered, its events
come to the same but for reports of timeouts, no call is reported twice, and a call that has been
reported is waited for as before (`Watched.same_but_for_timeouts`).

That no call is reported twice is a matter of accounts: every call pays for one report, and reports
are all that is paid for (`Accounted`).
-/

namespace ProofDesk

/-- What happens around a session: its editor asks for something, or its prover acts, which changes
the link. -/
inductive Event (σ : Type) where
  | operate (op : Operation)
  | outside (change : σ → σ)

/-- Whether an event is more than that time passes. -/
def Event.isTimeless {σ : Type} : Event σ → Bool
  | operate (.elapse _) => false
  | _ => true

namespace Session

variable {σ : Type}

/-! ## Accounts -/

/-- Whether a timeout may be reported for the call that waits for its answer: one, or none. -/
def unreported (s : Session σ) : Nat :=
  match s.request with
  | some r => if r.timedOut then 0 else 1
  | none => 0

/-- The number of timeouts that have been reported and not been taken. -/
def timeouts (s : Session σ) : Nat :=
  s.notifications.countP (·.isTimeout)

/-- Between two sessions no call is lost from the record, and what has been reported or may be grows
at most by the calls that have been sent. -/
structure Accounted (s t : Session (Recorded σ)) : Prop where
  calls : s.link.calls.length ≤ t.link.calls.length
  reports : t.timeouts + t.unreported + s.link.calls.length ≤
    s.timeouts + s.unreported + t.link.calls.length

variable {s t u : Session (Recorded σ)}

theorem Accounted.refl (s : Session (Recorded σ)) : Accounted s s :=
  ⟨Nat.le_refl _, Nat.le_refl _⟩

theorem Accounted.trans (h : Accounted s t) (h' : Accounted t u) : Accounted s u := by
  obtain ⟨hcalls, hreports⟩ := h
  obtain ⟨hcalls', hreports'⟩ := h'
  exact ⟨by omega, by omega⟩

/-- Nothing is paid for where no timeout is reported and no other call waits. -/
theorem Accounted.of_eq (hcalls : t.link.calls = s.link.calls)
    (hrequest : t.request = s.request ∨ t.request = none)
    (htimeouts : t.timeouts = s.timeouts) : Accounted s t := by
  have hunreported : t.unreported ≤ s.unreported := by
    unfold unreported
    rcases hrequest with h | h
    · rw [h]
    · rw [h]
      exact Nat.zero_le _
  exact ⟨by rw [hcalls], by rw [hcalls, htimeouts]; omega⟩

/-- A notification of any other kind does not count. -/
theorem accounted_notify (s : Session (Recorded σ)) {kind : NotificationKind}
    (hkind : kind ≠ .timeout) (message : String) : Accounted s (s.notify kind message) :=
  .of_eq rfl (.inl rfl) (by simp [timeouts, notify, Notification.isTimeout, hkind])

/-- A timeout that is reported is paid for by the call. -/
private theorem accounted_checkTimeout (s : Session (Recorded σ)) :
    Accounted s s.checkTimeout.2 := by
  unfold checkTimeout
  cases hr : s.request with
  | none => exact .refl s
  | some r =>
    dsimp only
    split
    · exact .refl s
    · next hlate =>
      rw [not_or, Bool.not_eq_true] at hlate
      exact ⟨Nat.le_refl _,
        by simp [timeouts, unreported, notify, Notification.isTimeout, hr, hlate.1]⟩

/-- The passing of time sends nothing and reports nothing. -/
theorem accounted_elapse (s : Session (Recorded σ)) (milliseconds : Nat) :
    Accounted s (s.elapse milliseconds) := by
  have hunreported : (s.elapse milliseconds).unreported = s.unreported := by
    unfold unreported elapse
    cases s.request <;> rfl
  exact ⟨Nat.le_refl _, by rw [hunreported]; exact Nat.le_refl _⟩

/-! ### Sending -/

variable [Link σ]

/-- Failing reports no timeout. -/
theorem accounted_fail (s : Session (Recorded σ)) (fault : Fault) : Accounted s (s.fail fault) := by
  have hkind : NotificationKind.fatal ≠ .timeout := by simp
  exact (accounted_notify s hkind fault.message).trans (.of_eq rfl (.inr rfl) rfl)

/-- A call pays for the one report that may follow. -/
theorem accounted_send (s : Session (Recorded σ)) (request : Request) (call : Call) :
    Accounted s (s.send request call) := by
  -- the call is recorded whether or not the link takes it
  have hcalls : (Link.send call s.link).2.calls.length = s.link.calls.length + 1 :=
    List.length_append
  unfold send
  split
  · next link hsend =>
    replace hcalls : link.calls.length = s.link.calls.length + 1 := by rwa [hsend] at hcalls
    refine ⟨?_, ?_⟩
    · show s.link.calls.length ≤ link.calls.length
      omega
    · show s.timeouts + 1 + s.link.calls.length ≤ s.timeouts + s.unreported + link.calls.length
      omega
  · next fault link hsend =>
    replace hcalls : link.calls.length = s.link.calls.length + 1 := by rwa [hsend] at hcalls
    have hlink : Accounted s { s with link } := by
      refine ⟨?_, ?_⟩
      · show s.link.calls.length ≤ link.calls.length
        omega
      · show s.timeouts + s.unreported + s.link.calls.length ≤
          s.timeouts + s.unreported + link.calls.length
        omega
    exact hlink.trans (accounted_fail ..)

/-- Whatever is asked of a session, every report is paid for by a call, unless reports are taken. -/
private theorem ledger_accounted : Ledger fun s t : Session (Recorded σ) => Accounted s t where
  trans h h' := h.trans h'
  keep hlink hrequest hnotifications :=
    .of_eq (congrArg (·.calls) hlink) hrequest (by rw [timeouts, timeouts, hnotifications])
  hear _ := .of_eq rfl (.inl rfl) rfl
  hangUp _ := .of_eq rfl (.inl rfl) rfl
  send := accounted_send
  fail := accounted_fail
  block s message := accounted_notify s (by simp) message
  checkTimeout := accounted_checkTimeout
  elapse := accounted_elapse

/-- While a call waits for its answer, polling sends nothing. -/
theorem poll_of_request {s : Session σ}
    (hbusy : s.receive.2.checkTimeout.2.request.isNone = false) :
    s.poll.2 = s.receive.2.checkTimeout.2 := by
  show s.receive.2.checkTimeout.2.pump = _
  rw [pump_eq, if_neg (by simp [hbusy])]

/-! ## The slot -/

/-- What waits for its answer goes on waiting, and nothing is sent, until an answer is taken up or
the session ends. -/
theorem Run.holds_slot {s t : Session σ} {h es : History} {request : Request} (hr : Run h s)
    (hf : Follows s es t) (hslot : s.slot = some request) (hnone : es.responses = [])
    (ha : t.Active) :
    t.slot = some request ∧ es.calls = [] := by
  induction hf with
  | refl => exact ⟨hslot, rfl⟩
  | @move t u es es' hf hm ih =>
    have ho := (hr.follows hf).orderly
    rw [History.responses_append, List.append_eq_nil_iff] at hnone
    have hactive : t.Active := by
      -- a session that had ended would not be active now
      by_contra hidle
      exact (hm.of_ended ho (.of_not_active hidle)).2.1.not_active ha
    obtain ⟨hheld, hsilent⟩ := ih hnone.1 hactive
    rw [History.calls_append, hsilent, List.nil_append]
    cases hm with
    | outside link => exact ⟨hheld, rfl⟩
    | act hact =>
      -- a call is sent only where none waits
      rcases ho.act_exchange hact with ⟨rfl, hsame⟩ | ⟨-, -, -, -, hfree, -⟩
      · exact ⟨(hsame ha).1.trans hheld, rfl⟩
      · rw [hfree] at hheld
        cases hheld
    | frame frame halive =>
      cases frame with
      | response response => cases hnone.2
      | feedback feedback =>
        have htaken := (ho.takes_handleFrame (.feedback feedback)).slot_of_feedback ha
        exact ⟨htaken.1.trans hheld, rfl⟩
    | lose fault halive => exact absurd ha (not_active_fail _ _)

/-- How long a call has waited, and whether that has been reported, makes no difference to what its
answer does. -/
private theorem handleFrame_response_of_late (s : Session σ) {r : Outstanding}
    (hr : s.request = some r) (age : Nat) (timedOut : Bool) (response : Response) :
    ({ s with request := some ⟨r.request, age, timedOut⟩ } : Session σ).handleFrame
      (.response response) =
      s.handleFrame (.response response) := by
  -- the answer is taken for what was asked, and its age is forgotten
  have hresponse :
      ({ s with request := some ⟨r.request, age, timedOut⟩ } : Session σ).handleResponse response =
      s.handleResponse response := by
    unfold handleResponse
    rw [hr]
    dsimp only
    cases response with
    | fail failure => rfl
    | good payload =>
      dsimp only
      cases Reply.ofElement r.request.kind payload <;> rfl
  unfold handleFrame
  dsimp only
  rw [hresponse]
  cases s.handleResponse response <;> rfl

end Session

/-! ## Sessions that are watched -/

/-- A session, and the notifications that have been taken from it. -/
structure Watched (σ : Type) where
  session : Session (Recorded σ)
  taken : List Notification

namespace Watched

variable {σ : Type}

/-- All notifications, whether or not they have been taken. -/
def raised (w : Watched σ) : List Notification :=
  w.taken ++ w.session.notifications

/-- The number of timeouts that have been reported. -/
def timeouts (w : Watched σ) : Nat :=
  w.raised.countP (·.isTimeout)

/-- The calls that have been sent. -/
def calls (w : Watched σ) : List Call :=
  w.session.link.calls

/-- The session without its clock, and what has been taken from it but for reports of timeouts. -/
def untimed (w : Watched σ) : Watched σ :=
  ⟨w.session.untimed, w.taken.filter (!·.isTimeout)⟩

/-- The two sessions differ at most in their clocks and in reports of timeouts. -/
structure SameButForTimeouts (w w' : Watched σ) : Prop where
  document : w.session.document = w'.session.document
  queue : w.session.queue = w'.session.queue
  slot : w.session.slot = w'.session.slot
  calls : w.calls = w'.calls
  messages : w.session.messages = w'.session.messages
  goals : w.session.goals = w'.session.goals
  status : w.session.status = w'.session.status
  fatal : w.session.fatal = w'.session.fatal
  raised : w.raised.filter (!·.isTimeout) = w'.raised.filter (!·.isTimeout)

variable {w w' : Watched σ}

/-- Without a clock what is raised is all but the timeouts. -/
theorem raised_untimed (w : Watched σ) : w.untimed.raised = w.raised.filter (!·.isTimeout) :=
  (List.filter_append ..).symm

/-- Sessions that are the same without a clock differ in timeouts only. -/
theorem SameButForTimeouts.of_untimed (h : w.untimed = w'.untimed) : SameButForTimeouts w w' := by
  have hsession : w.session.untimed = w'.session.untimed := congrArg (·.session) h
  refine ⟨congrArg (·.document) hsession, congrArg (·.queue) hsession, ?_,
    congrArg (·.link.calls) hsession, congrArg (·.messages) hsession, congrArg (·.goals) hsession,
    congrArg (·.status) hsession, congrArg (·.fatal) hsession,
    ?_⟩
  · rw [← Session.slot_untimed, hsession, Session.slot_untimed]
  · rw [← raised_untimed, h, raised_untimed]

variable [Link σ]

/-- A session as it starts, from which nothing has been taken. -/
def start (link : σ) (text : String) (settings : Settings) : Watched σ :=
  ⟨Session.start ⟨link, []⟩ text settings, []⟩

/-- What becomes of a session in an event. -/
def after (w : Watched σ) : Event σ → Watched σ
  | .operate op => ⟨w.session.perform op, if op = .takeNotifications then w.raised else w.taken⟩
  | .outside change => ⟨{ w.session with link := ⟨change w.session.link.link, w.calls⟩ }, w.taken⟩

/-- What becomes of a session in events, one after the other. -/
def play (w : Watched σ) (es : List (Event σ)) : Watched σ :=
  es.foldl after w

/-- What becomes of a session without a clock in an event. -/
def afterUntimed (w : Watched σ) : Event σ → Watched σ
  | .operate op =>
    ⟨w.session.performUntimed op, if op = .takeNotifications then w.raised else w.taken⟩
  | .outside change => w.after (.outside change)

/-- What becomes of a session without a clock in events, one after the other. -/
def playUntimed (w : Watched σ) (es : List (Event σ)) : Watched σ :=
  es.foldl afterUntimed w

/-- An event does without a clock what it does with one. -/
theorem untimed_after (w : Watched σ) (e : Event σ) :
    (w.after e).untimed = w.untimed.afterUntimed e := by
  cases e with
  | outside change => rfl
  | operate op =>
    rw [afterUntimed, raised_untimed, after, untimed]
    dsimp only
    rw [Session.untimed_perform, apply_ite (List.filter _)]
    rfl

/-- Without a clock it makes no difference that time passes. -/
theorem untimed_play (w : Watched σ) (es : List (Event σ)) :
    (w.play es).untimed = w.untimed.playUntimed (es.filter (·.isTimeless)) := by
  induction es generalizing w with
  | nil => rfl
  | cons e es ih =>
    rw [play, List.foldl_cons, ← play, ih, untimed_after]
    cases he : e.isTimeless with
    | true => rw [List.filter_cons_of_pos he, playUntimed, playUntimed, List.foldl_cons]
    | false =>
      rw [List.filter_cons_of_neg (by simp [he])]
      -- the event is that time passes
      unfold Event.isTimeless at he
      split at he
      · rfl
      · cases he

/-- How long a call may stay unanswered makes no difference to how a session starts. -/
theorem untimed_start (link : σ) (text : String) (settings : Settings) (timeout timeout' : Nat) :
    (start link text { settings with timeout }).untimed =
      (start link text { settings with timeout := timeout' }).untimed := by
  unfold start untimed Session.start
  dsimp only
  rw [Session.untimed_send, Session.untimed_send]
  rfl

/-- In an event no call is lost from the record, and what has been reported or may be grows at most
by the calls that are sent in it. -/
theorem accounted_after (w : Watched σ) (e : Event σ) :
    w.calls.length ≤ (w.after e).calls.length ∧
      (w.after e).timeouts + (w.after e).session.unreported + w.calls.length ≤
        w.timeouts + w.session.unreported + (w.after e).calls.length := by
  -- what has been reported is what was taken and what still waits to be taken
  have hsplit : ∀ (session : Session (Recorded σ)) (taken : List Notification),
      (Watched.mk session taken).timeouts = taken.countP (·.isTimeout) + session.timeouts :=
    fun _ _ => List.countP_append
  cases e with
  | outside change => exact ⟨Nat.le_refl _, Nat.le_refl _⟩
  | operate op =>
    by_cases hop : op = .takeNotifications
    · -- what is taken has been reported before
      subst hop
      have hraised : (w.after (.operate .takeNotifications)).raised = w.raised := List.append_nil _
      rw [timeouts, timeouts, hraised]
      exact ⟨Nat.le_refl _, Nat.le_refl _⟩
    · obtain ⟨hcalls, hreports⟩ := Session.ledger_accounted.perform w.session hop
      have htimeouts : (w.after (.operate op)).timeouts =
          w.taken.countP (·.isTimeout) + (w.session.perform op).timeouts := by
        rw [after, if_neg hop, hsplit]
      have hbefore : w.timeouts = w.taken.countP (·.isTimeout) + w.session.timeouts := hsplit _ _
      refine ⟨hcalls, ?_⟩
      show (w.after (.operate op)).timeouts + (w.session.perform op).unreported +
        w.session.link.calls.length ≤
        w.timeouts + w.session.unreported + (w.session.perform op).link.calls.length
      omega

/-- On a run no more timeouts are reported than calls are sent. -/
theorem accounted_play (w : Watched σ) (es : List (Event σ)) :
    w.calls.length ≤ (w.play es).calls.length ∧
      (w.play es).timeouts + (w.play es).session.unreported + w.calls.length ≤
        w.timeouts + w.session.unreported + (w.play es).calls.length := by
  induction es generalizing w with
  | nil => exact ⟨Nat.le_refl _, Nat.le_refl _⟩
  | cons e es ih =>
    obtain ⟨hcalls, hreports⟩ := w.accounted_after e
    obtain ⟨hcalls', hreports'⟩ := ih (w.after e)
    rw [play, List.foldl_cons, ← play]
    exact ⟨by omega, by omega⟩

/-- A run of events keeps a session one that operations lead to. -/
theorem reachable_play {w : Watched σ} (hr : Session.Reachable w.session) (es : List (Event σ)) :
    Session.Reachable (w.play es).session := by
  induction es generalizing w with
  | nil => exact hr
  | cons e es ih =>
    rw [play, List.foldl_cons, ← play]
    refine ih ?_
    cases e with
    | operate op => exact hr.operate op
    | outside change => exact hr.outside _

/-- What has been reported of a session or may be is no more than the calls that it has sent. -/
theorem timeouts_le_calls (link : σ) (text : String) (settings : Settings) (es : List (Event σ))
    {w : Watched σ} (hw : w = (start link text settings).play es) :
    w.timeouts + w.session.unreported ≤ w.calls.length := by
  -- the first call is sent before anything can happen, and is accounted for on its own
  have hstart : ∃ s : Session (Recorded σ), s.timeouts = 0 ∧ s.unreported = 0 ∧ s.link.calls = [] ∧
      Session.Accounted s (start link text settings).session := by
    refine ⟨_, ?_, ?_, ?_, Session.accounted_send _ .init .init⟩ <;> rfl
  obtain ⟨s, htimeouts, hunreported, hcalls, haccounted⟩ := hstart
  have hfirst := haccounted.reports
  rw [htimeouts, hunreported, hcalls, List.length_nil] at hfirst
  have hlater := ((start link text settings).accounted_play es).2
  rw [← hw] at hlater
  have hnothing : (start link text settings).timeouts =
      (start link text settings).session.timeouts := rfl
  have hsent : (start link text settings).calls = (start link text settings).session.link.calls :=
    rfl
  rw [hnothing, hsent] at hlater
  omega

/-- Timeouts are only reports. Whatever happens around a session, and in step with it around another
one that differs in how long a call may stay unanswered, the two are the same but for reports of
timeouts, however much time passes in either. No more timeouts are reported than calls are sent;
while no further call is sent, at most one is, and none if the call that waits has been reported.
Until it is answered or the session ends, the call goes on waiting and nothing else is sent; and its
answer does what it would have done at any other time. -/
theorem same_but_for_timeouts (link : σ) (text : String) (settings : Settings)
    (timeout timeout' : Nat) {es es' : List (Event σ)}
    (hsame : es.filter (·.isTimeless) = es'.filter (·.isTimeless)) {w w' : Watched σ}
    (hw : w = (start link text { settings with timeout }).play es)
    (hw' : w' = (start link text { settings with timeout := timeout' }).play es') :
    SameButForTimeouts w w' ∧ w.timeouts + w.session.unreported ≤ w.calls.length ∧
      (∀ later, (w.play later).calls = w.calls →
        (w.play later).timeouts ≤ w.timeouts + w.session.unreported) ∧
      (∀ exchanges t request, Session.Follows w.session exchanges t →
        w.session.slot = some request →
        exchanges.responses = [] → t.Active → t.slot = some request ∧ exchanges.calls = []) ∧
      ∀ r age timedOut response, w.session.request = some r →
        ({ w.session with request := some ⟨r.request, age, timedOut⟩ } : Session
          (Recorded σ)).handleFrame
            (.response response) =
          w.session.handleFrame (.response response) := by
  refine ⟨?_, timeouts_le_calls link text _ es hw, fun later hcalls => ?_,
    fun exchanges t request hf hslot hnone ha => ?_,
    fun r age timedOut response hr => ?_⟩
  · -- without a clock both do the same, and the clocks show in the reports only
    refine .of_untimed ?_
    rw [hw, hw', untimed_play, untimed_play, hsame,
      untimed_start link text settings timeout timeout']
  · -- a report needs a call that has not been reported, and no call has been added
    have hreports := (w.accounted_play later).2
    rw [hcalls] at hreports
    omega
  · have hreachable : Session.Reachable w.session := hw ▸ reachable_play (.start _ text _) es
    obtain ⟨h, hrun⟩ := hreachable.exists_run
    exact hrun.holds_slot hf hslot hnone ha
  · exact w.session.handleFrame_response_of_late hr age timedOut response

/-- A session on "A." that does not wait long for its prover to start, with a call that is that
old. -/
def waitingFor (age : Nat) (timedOut : Bool) (notifications : List Notification) :
    Session (Recorded Channel) :=
  { Session.opening ⟨{ Channel.opened with calls := [.init] }, [.init]⟩ "A." with
    settings := { Settings.default with timeout := 10 }
    request := some ⟨.init, age, timedOut⟩
    notifications }

/-- The one report that the prover has not started after 30 milliseconds. -/
def notStarted : List Notification :=
  [⟨.timeout, (Fault.timeout 30).message⟩]

/-- Time passes and the session is polled, twice. -/
def startingLate : List (Event Channel) :=
  [.operate (.elapse 30), .operate .poll, .operate (.elapse 30), .operate .poll]

private theorem play_startingLate :
    (start Channel.opened "A." { Settings.default with timeout := 10 }).play startingLate =
      ⟨waitingFor 60 true notStarted, []⟩ := by
  have hfirst : ((waitingFor 0 false []).elapse 30).poll.2 = waitingFor 30 true notStarted :=
    Session.poll_of_request rfl
  have hsecond : ((waitingFor 30 true notStarted).elapse 30).poll.2 =
      waitingFor 60 true notStarted :=
    Session.poll_of_request rfl
  have hplay :
      (start Channel.opened "A." { Settings.default with timeout := 10 }).play startingLate =
      ⟨((((waitingFor 0 false []).elapse 30).poll.2).elapse 30).poll.2, []⟩ := rfl
  rw [hplay, hfirst, hsecond]

private theorem play_startingEarly :
    (start Channel.opened "A." { Settings.default with timeout := 10 }).play
    [.operate .poll, .operate .poll] =
      ⟨waitingFor 0 false [], []⟩ := by
  have hpoll : (waitingFor 0 false []).poll.2 = waitingFor 0 false [] := Session.poll_of_request rfl
  have hplay :
      (start Channel.opened "A." { Settings.default with timeout := 10 }).play
        [.operate .poll, .operate .poll] =
        ⟨(waitingFor 0 false []).poll.2.poll.2, []⟩ := rfl
  rw [hplay, hpoll, hpoll]

/-- That the prover takes long to start makes no difference, but that it is reported, once. -/
theorem same_but_for_timeouts_of_startingLate :
    ∃ w w' : Watched Channel, startingLate.filter (·.isTimeless) =
      [.operate .poll, .operate .poll] ∧
      w = (start Channel.opened "A." { Settings.default with timeout := 10 }).play startingLate ∧
      w' = (start Channel.opened "A." { Settings.default with timeout := 10 }).play
      [.operate .poll, .operate .poll] ∧ w.timeouts = 1 ∧ w'.timeouts = 0 ∧
      SameButForTimeouts w w' := by
  have hsame : startingLate.filter (·.isTimeless) = [.operate .poll, .operate .poll] := rfl
  refine ⟨_, _, hsame, rfl, rfl, ?_, ?_, ?_⟩
  · rw [play_startingLate]
    rfl
  · rw [play_startingEarly]
    rfl
  · exact (same_but_for_timeouts Channel.opened "A." .default 10 10 hsame rfl rfl).1

end Watched

end ProofDesk
