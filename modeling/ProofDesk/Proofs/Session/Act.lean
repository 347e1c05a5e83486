import Mathlib
import ProofDesk.Proofs.Document.Reconcile
import ProofDesk.Prover.Channel
import ProofDesk.Session.Operation

/-!
# Small steps of a session

Operations of an editor are chains of small steps (`Act`), between which every invariant of a
session holds; pumping is a chain of rounds (`Round`), each of which is such a step. A step says
which call it hands to the link, and the link is handed just that (`Act.link_eq`).
-/

namespace ProofDesk

/-- What passes between a session and its prover. -/
inductive Exchange where
  /-- A call is handed to the link, for the purpose of a request. -/
  | sent (request : Request) (call : Call)
  /-- A frame is taken up. -/
  | received (frame : Inbound)
  deriving Inhabited

/-- The call of an exchange, with the request that it was sent for. -/
def Exchange.call? : Exchange → Option (Request × Call)
  | .sent request call => some (request, call)
  | .received _ => none

/-- The answer of an exchange. -/
def Exchange.response? : Exchange → Option Response
  | .received (.response response) => some response
  | _ => none

/-- The frame of an exchange. -/
def Exchange.frame? : Exchange → Option Inbound
  | .received frame => some frame
  | .sent .. => none

/-- What passed between a session and its prover so far, in the order in which the session saw
it. -/
abbrev History := List Exchange

namespace History

/-- The calls that were sent, with the requests that they were sent for. -/
def calls (h : History) : List (Request × Call) :=
  h.filterMap Exchange.call?

/-- The answers that were taken up. -/
def responses (h : History) : List Response :=
  h.filterMap Exchange.response?

/-- The frames that were taken up. -/
def frames (h : History) : List Inbound :=
  h.filterMap Exchange.frame?

theorem calls_append (h es : History) : (h ++ es).calls = h.calls ++ es.calls :=
  List.filterMap_append

theorem responses_append (h es : History) : (h ++ es).responses = h.responses ++ es.responses :=
  List.filterMap_append

theorem frames_append (h es : History) : (h ++ es).frames = h.frames ++ es.frames :=
  List.filterMap_append

/-- What is received is the frames that arrive. -/
theorem frames_map_received (fs : List Inbound) : frames (fs.map .received) = fs := by
  rw [frames, List.filterMap_map]
  exact List.filterMap_some

/-- Nothing is sent by receiving. -/
theorem calls_map_received (fs : List Inbound) : calls (fs.map .received) = [] := by
  rw [calls, List.filterMap_map, List.filterMap_eq_nil_iff]
  exact fun _ _ => rfl

end History

/-! ## Links and the calls that they are handed -/

namespace Link

variable {σ : Type} [Link σ]

/-- What becomes of a link that is handed calls, received from and closed, and that nothing else
happens to. -/
inductive Becomes (link : σ) : List Call → σ → Prop
  | refl : Becomes link [] link
  | send {calls : List Call} {link' : σ} (h : Becomes link calls link') (call : Call) :
    Becomes link (calls ++ [call]) (Link.send call link').2
  | receive {calls : List Call} {link' : σ} (h : Becomes link calls link') :
    Becomes link calls (Link.receive link').2
  | close {calls : List Call} {link' : σ} (h : Becomes link calls link') :
    Becomes link calls (Link.close link')

variable {link link' link'' : σ} {calls calls' : List Call}

/-- What is handed over first stands in front of what is handed over after that. -/
theorem Becomes.trans (h : Becomes link calls link') (h' : Becomes link' calls' link'') :
    Becomes link (calls ++ calls') link'' := by
  induction h' with
  | refl => rwa [List.append_nil]
  | send _ call ih =>
    rw [← List.append_assoc]
    exact ih.send call
  | receive _ ih => exact ih.receive
  | close _ ih => exact ih.close

/-- Closing a link once more hands nothing over. -/
theorem Becomes.iterate_close (h : Becomes link calls link') (n : Nat) :
    Becomes link calls (Link.close^[n] link') := by
  induction n with
  | zero => exact h
  | succ n ih =>
    rw [Function.iterate_succ_apply']
    exact ih.close

end Link

/-- A link with the calls that have been handed to it. -/
structure Recorded (σ : Type) where
  link : σ
  calls : List Call

instance {σ : Type} [Link σ] : Link (Recorded σ) where
  send call r := ((Link.send call r.link).1, ⟨(Link.send call r.link).2, r.calls ++ [call]⟩)
  receive r := ((Link.receive r.link).1, ⟨(Link.receive r.link).2, r.calls⟩)
  close r := ⟨Link.close r.link, r.calls⟩

/-- What can be asked of a session. -/
inductive Operation where
  | forward
  | backward
  | toCursor (position : Position)
  | applyEdit (start stop : Position) (replacement : String)
  | setText (text : String)
  | requestStatus
  | poll
  | close
  | takeNotifications
  | clearMessages
  /-- Time passes for the call that waits for its answer. -/
  | elapse (milliseconds : Nat)
  deriving Repr, DecidableEq

namespace Session

variable {σ : Type}

/-- The session after an operation. -/
def perform [Link σ] (s : Session σ) : Operation → Session σ
  | .forward => s.forward.2
  | .backward => s.backward.2
  | .toCursor position => (s.toCursor position).2
  | .applyEdit start stop replacement => (s.applyEdit start stop replacement).2
  | .setText text => (s.setText text).2
  | .requestStatus => s.requestStatus.2
  | .poll => s.poll.2
  | .close => s.close
  | .takeNotifications => s.takeNotifications.2
  | .clearMessages => s.clearMessages
  | .elapse milliseconds => s.elapse milliseconds

/-- What the call that waits for its answer is for. -/
def slot (s : Session σ) : Option Request :=
  s.request.map (·.request)

/-- The session waits for the prover to start, or is ready. -/
def Active (s : Session σ) : Prop :=
  s.status = .starting ∨ s.status = .ready

theorem slot_eq_none_iff (s : Session σ) : s.slot = none ↔ s.request = none :=
  Option.map_eq_none_iff

/-- The sessions differ at most in what they show and in how long they have waited. -/
structure Agrees (s s' : Session σ) : Prop where
  link : s'.link = s.link
  settings : s'.settings = s.settings
  document : s'.document = s.document
  status : s'.status = s.status
  fatal : s'.fatal = s.fatal
  slot : s'.slot = s.slot
  queue : s'.queue = s.queue
  goalsStale : s'.goalsStale = s.goalsStale

theorem Agrees.refl (s : Session σ) : s.Agrees s :=
  ⟨rfl, rfl, rfl, rfl, rfl, rfl, rfl, rfl⟩

/-- The sessions differ at most in messages and notifications, in what was told of the prover's
status, and in how long they have waited: the goals are the same. -/
structure Quiet (s s' : Session σ) : Prop extends s.Agrees s' where
  goals : s'.goals = s.goals

theorem Quiet.refl (s : Session σ) : s.Quiet s :=
  ⟨Agrees.refl s, rfl⟩

/-- Sessions that agree are in conversation together. -/
theorem Agrees.active_iff {s s' : Session σ} (h : s.Agrees s') : s'.Active ↔ s.Active := by
  rw [Active, Active, h.status]

/-- A notification is nothing that sessions must agree on. -/
theorem agrees_notify (s : Session σ) (kind : NotificationKind) (message : String) :
    s.Agrees (s.notify kind message) :=
  ⟨rfl, rfl, rfl, rfl, rfl, rfl, rfl, rfl⟩

/-- Showing a message changes what is shown. -/
theorem log_eq (s : Session σ) (level : MessageLevel) (text : String) :
    s.log level text =
      { s with
        messages :=
          if text.isEmpty ∨ s.messages.getLast? = some ⟨level, text⟩ then s.messages
          else s.messages ++ [⟨level, text⟩] } := by
  unfold log
  split <;> rfl

/-- A logged message is nothing that sessions must agree on. -/
theorem agrees_log (s : Session σ) (level : MessageLevel) (text : String) :
    s.Agrees (s.log level text) := by
  unfold log
  split
  · exact Agrees.refl s
  · exact ⟨rfl, rfl, rfl, rfl, rfl, rfl, rfl, rfl⟩

theorem goals_log (s : Session σ) (level : MessageLevel) (text : String) :
    (s.log level text).goals = s.goals := by
  rw [log_eq]

/-- Showing something more does not count as a difference. -/
theorem Agrees.log {s s' : Session σ} (h : s.Agrees s') (level : MessageLevel) (text : String) :
    s.Agrees (s'.log level text) := by
  have hl := agrees_log s' level text
  exact ⟨hl.link.trans h.link, hl.settings.trans h.settings, hl.document.trans h.document,
    hl.status.trans h.status, hl.fatal.trans h.fatal, hl.slot.trans h.slot, hl.queue.trans h.queue,
    hl.goalsStale.trans h.goalsStale⟩

/-- While time passes, the call that waits for its answer stays the same. -/
theorem quiet_elapse (s : Session σ) (milliseconds : Nat) : s.Quiet (s.elapse milliseconds) := by
  refine ⟨⟨rfl, rfl, rfl, rfl, rfl, ?_, rfl, rfl⟩, rfl⟩
  unfold slot elapse
  cases s.request <;> rfl

/-- A timeout is reported, and nothing is done about it. -/
theorem quiet_checkTimeout (s : Session σ) : s.Quiet s.checkTimeout.2 := by
  unfold checkTimeout
  split
  · exact Quiet.refl s
  · next r hr =>
    split
    · exact Quiet.refl s
    · exact ⟨⟨rfl, rfl, rfl, rfl, rfl, by simp [slot, notify, hr], rfl, rfl⟩, rfl⟩

/-- Refusing a step cancels what may send sentences and shows why. -/
theorem quiet_refuse (s : Session σ) (fault : Fault) : s.dropAdvances.Quiet (s.refuse fault) := by
  unfold refuse
  cases fault with
  | ambiguousSplit offset reason =>
    have h := agrees_log s.dropAdvances .error (Fault.ambiguousSplit offset reason).message
    exact ⟨⟨h.link, h.settings, h.document, h.status, h.fatal, h.slot, h.queue, h.goalsStale⟩,
      goals_log ..⟩
  | _ => exact ⟨agrees_notify _ _ _, rfl⟩

/-- The queue after an editor has asked for a movement. -/
inductive Orders (queue : List Navigation) : List Navigation → Prop
  | forward : Orders queue (Navigation.enqueueForward queue)
  | backward : Orders queue (Navigation.enqueueBackward queue)
  | toCursor (offset : Nat) : Orders queue (queue.filter (·.isRewind) ++ [.cursor offset])

/-- Take note of what an edit did: a rollback goes in front of everything else, if anyone still
listens. -/
def noteEdit (s : Session σ) (outcome : Reconciliation) : Session σ :=
  match outcome with
  | .rollback id =>
    if s.refusal?.isSome then s else { s with queue := .rewind id :: s.queue.filter (!·.isRewind) }
  | _ => s

/-- Noting an edit at most queues the rollback that it requires. -/
theorem noteEdit_eq (s : Session σ) (outcome : Reconciliation) :
    noteEdit s outcome = { s with queue := (noteEdit s outcome).queue } := by
  unfold noteEdit
  split
  · split <;> rfl
  · rfl

@[simp] theorem document_noteEdit (s : Session σ) (outcome : Reconciliation) :
    (noteEdit s outcome).document = s.document := by
  rw [noteEdit_eq]

@[simp] theorem slot_noteEdit (s : Session σ) (outcome : Reconciliation) :
    (noteEdit s outcome).slot = s.slot := by
  rw [noteEdit_eq]
  rfl

@[simp] theorem link_noteEdit (s : Session σ) (outcome : Reconciliation) :
    (noteEdit s outcome).link = s.link := by
  rw [noteEdit_eq]

@[simp] theorem status_noteEdit (s : Session σ) (outcome : Reconciliation) :
    (noteEdit s outcome).status = s.status := by
  rw [noteEdit_eq]

variable [Link σ]

/-- A session that has failed is not in conversation. -/
theorem not_active_fail (s : Session σ) (fault : Fault) : ¬ (s.fail fault).Active := by
  simp [Active, fail]

/-- Sending a call leaves the document alone, also where the link fails. -/
theorem document_send (s : Session σ) (request : Request) (call : Call) :
    (s.send request call).document = s.document := by
  unfold send
  split <;> rfl

/-- A call that has been handed over waits for its answer, or the session has ended. -/
theorem of_active_send {s : Session σ} {P : Session σ → Prop} {request : Request} {call : Call}
    (h : ∀ link : σ, P { s with link, request := some ⟨request, 0, false⟩ })
    (ha : (s.send request call).Active) :
    P (s.send request call) := by
  unfold send at ha ⊢
  split at ha
  · exact h _
  · exact absurd ha (not_active_fail _ _)

/-- A call that was sent without a fault waits in the slot. -/
theorem slot_send {s : Session σ} {request : Request} {call : Call}
    (ha : (s.send request call).Active) :
    (s.send request call).slot = some request ∧ (s.send request call).status = s.status :=
  of_active_send (P := fun t => t.slot = some request ∧ t.status = s.status)
    (fun _ => ⟨rfl, rfl⟩) ha

/-- Closing gives everything up, and tells the prover to quit before that if it listens; what is
closed stays as it is. -/
theorem close_cases (s : Session σ) :
    s.status = .closed ∧ s.close = s ∨
      ∃ t, (t = s ∨ t = s.send .quit .quit) ∧
        s.close = { t with
          queue := [], request := none, status := .closed, link := Link.close t.link } := by
  unfold close
  split
  · next hclosed => exact .inl ⟨hclosed, rfl⟩
  · refine .inr ⟨_, ?_, rfl⟩
    split
    · exact .inr rfl
    · exact .inl rfl

theorem document_close (s : Session σ) : s.close.document = s.document := by
  obtain ⟨-, heq⟩ | ⟨t, rfl | rfl, heq⟩ := close_cases s
  · rw [heq]
  · rw [heq]
  · rw [heq]
    exact document_send ..

/-- A session that was closed is closed. -/
theorem status_close (s : Session σ) : s.close.status = .closed := by
  obtain ⟨hclosed, heq⟩ | ⟨t, -, heq⟩ := close_cases s
  · rw [heq, hclosed]
  · rw [heq]

/-- What is sent when a session is closed. -/
def farewell (s : Session σ) : History :=
  if s.status ≠ .closed ∧ s.fatal.isNone ∧ s.request.isNone then [.sent .quit .quit] else []

/-- One round of pumping and what it hands to the link: what is at the head of the queue, or asking
for the goals. -/
inductive Round : Session σ → History → Session σ → Prop
  | send {s : Session σ} {op : Navigation} {rest queue : List Navigation} {request : Request}
      {call : Call} {document : Document} (hfree : s.request = none) (hready : s.status = .ready)
      (hqueue : s.queue = op :: rest)
      (hstep : Navigation.step s.settings.axiomPolicy s.document op rest =
        .send request call document queue) :
    Round s [.sent request call] (send { s with document, queue } request call)
  | proceed {s : Session σ} {op : Navigation} {rest queue : List Navigation} {document : Document}
      (hfree : s.request = none) (hready : s.status = .ready) (hqueue : s.queue = op :: rest)
      (hstep : Navigation.step s.settings.axiomPolicy s.document op rest =
        .proceed document queue) :
    Round s [] { s with document, queue }
  | refuse {s : Session σ} {op : Navigation} {rest : List Navigation} {document : Document}
      {fault : Fault} (hfree : s.request = none) (hready : s.status = .ready)
      (hqueue : s.queue = op :: rest)
      (hstep : Navigation.step s.settings.axiomPolicy s.document op rest =
        .refuse document fault) :
    Round s [] (refuse { s with document } fault)
  | goal {s : Session σ} (hfree : s.request = none) (hready : s.status = .ready)
      (hqueue : s.queue = []) (hstale : s.goalsStale = true) :
    Round s [.sent .goal .goal] (send { s with goalsStale := false } .goal .goal)

/-- One round of pumping, whatever it hands to the link. -/
def Pumps (s t : Session σ) : Prop :=
  ∃ es, Round s es t

/-- One small step of a session and what it hands to its link. -/
inductive Act : Session σ → History → Session σ → Prop
  | quiet {s s' : Session σ} (h : s.Quiet s') : Act s [] s'
  | order {s : Session σ} {queue : List Navigation} (halive : s.refusal? = none)
      (h : Orders s.queue queue) : Act s [] { s with queue }
  | edit {s : Session σ} {outcome : Reconciliation} {document : Document}
      (h : s.document.Edits outcome document) : Act s [] (noteEdit { s with document } outcome)
  | round {s t : Session σ} {es : History} (h : Round s es t) : Act s es t
  | status {s : Session σ} (halive : s.refusal? = none) (hfree : s.request = none) :
    Act s [.sent .status .status] (s.send .status .status)
  | close (s : Session σ) : Act s s.farewell s.close

/-- A chain of small steps and what they hand to the link. -/
inductive Acts : Session σ → History → Session σ → Prop
  | refl (s : Session σ) : Acts s [] s
  | head {s t u : Session σ} {es es' : History} (h : Act s es t) (hs : Acts t es' u) :
    Acts s (es ++ es') u

/-- A single act is a way. -/
theorem Act.acts {s t : Session σ} {es : History} (h : Act s es t) : Acts s es t := by
  have hs := Acts.head h (Acts.refl t)
  rwa [List.append_nil] at hs

/-- Pumping goes from round to round. -/
theorem pumps_pump (s : Session σ) : Relation.ReflTransGen Pumps s s.pump := by
  fun_induction pump s with
  | case1 s h hq hstale =>
    simp only [Option.isNone_iff_eq_none] at h
    exact .single ⟨_, .goal h.1 h.2 hq hstale⟩
  | case2 s h hq hstale => exact .refl
  | case3 s h op rest hq request call document queue hstep =>
    simp only [Option.isNone_iff_eq_none] at h
    exact .single ⟨_, .send h.1 h.2 hq hstep⟩
  | case4 s h op rest hq document queue hstep ih =>
    simp only [Option.isNone_iff_eq_none] at h
    exact ih.head ⟨_, .proceed h.1 h.2 hq hstep⟩
  | case5 s h op rest hq document fault hstep ih =>
    simp only [Option.isNone_iff_eq_none] at h
    exact ih.head ⟨_, .refuse h.1 h.2 hq hstep⟩
  | case6 s h => exact .refl

/-- Rounds of pumping are small steps. -/
theorem exists_acts_of_pumps {s t : Session σ} (h : Relation.ReflTransGen Pumps s t) :
    ∃ es, Acts s es t := by
  induction h using Relation.ReflTransGen.head_induction_on with
  | refl => exact ⟨[], Acts.refl t⟩
  | head hround _ ih =>
    obtain ⟨es, hround⟩ := hround
    obtain ⟨es', hacts⟩ := ih
    exact ⟨_, Acts.head (.round hround) hacts⟩

/-- Sending what can be sent is a chain of small steps. -/
theorem exists_acts_pump (s : Session σ) : ∃ es, Acts s es s.pump :=
  exists_acts_of_pumps (pumps_pump s)

/-- A small step and then what can be sent. -/
theorem Act.exists_acts_pump {s t : Session σ} (h : Act s [] t) : ∃ es, Acts s es t.pump := by
  obtain ⟨es, hes⟩ := Session.exists_acts_pump t
  exact ⟨[] ++ es, Acts.head h hes⟩

/-- What an edit requires is noted, and it is sent if anyone still listens. -/
theorem afterEdit_eq (s : Session σ) (outcome : Reconciliation) :
    s.afterEdit outcome =
      match outcome with
      | .rollback _ =>
        if s.refusal?.isSome then noteEdit s outcome else (noteEdit s outcome).pump
      | _ => noteEdit s outcome := by
  cases outcome with
  | rollback id =>
    unfold afterEdit noteEdit
    dsimp only
    split <;> rfl
  | shifted | dropped => rfl

/-- Noting an edit, and sending what can be sent because of it, is a chain of small steps. -/
theorem exists_acts_afterEdit {s : Session σ} {outcome : Reconciliation} {document : Document}
    (h : s.document.Edits outcome document) :
    ∃ es, Acts s es (afterEdit { s with document } outcome) := by
  have hact := Act.edit h
  rw [afterEdit_eq]
  split
  · split
    · exact ⟨[], hact.acts⟩
    · exact hact.exists_acts_pump
  · exact ⟨[], hact.acts⟩

/-! ## What a small step hands to the link -/

/-- A link once the calls of a history have been handed to it. -/
def handed (link : σ) (h : History) : σ :=
  h.calls.foldl (fun link c => (Link.send c.2 link).2) link

@[simp] theorem handed_nil (link : σ) : handed link [] = link := rfl

/-- The link is handed the call that the history says was sent. -/
theorem handed_sent (link : σ) (request : Request) (call : Call) :
    handed link [.sent request call] = (Link.send call link).2 := rfl

/-- Handing calls over does nothing else to a link. -/
theorem becomes_handed (link : σ) (h : History) :
    Link.Becomes link (h.calls.map (·.2)) (handed link h) := by
  unfold handed
  induction h.calls using List.reverseRecOn with
  | nil => exact .refl
  | append_singleton calls c ih =>
    rw [List.map_append, List.foldl_append]
    exact ih.send c.2

/-- A call is handed to the link, which is closed after that if it fails. -/
theorem link_send (s : Session σ) (request : Request) (call : Call) :
    (s.send request call).link = (Link.send call s.link).2 ∨
      (s.send request call).link = Link.close (Link.send call s.link).2 := by
  unfold send
  split
  · next heq => exact .inl (by rw [heq])
  · next heq => exact .inr (by rw [heq]; rfl)

/-- A call is handed over, and the link is closed if it cannot take the call. -/
theorem exists_link_send (s : Session σ) (request : Request) (call : Call) :
    ∃ n, (s.send request call).link = Link.close^[n] (handed s.link [.sent request call]) := by
  rw [handed_sent]
  rcases link_send s request call with h | h
  · exact ⟨0, h⟩
  · exact ⟨1, h⟩

/-- What the history says was sent in a round of pumping is what the link is handed. -/
theorem Round.link_eq {s t : Session σ} {es : History} (h : Round s es t) :
    ∃ n, t.link = Link.close^[n] (handed s.link es) := by
  cases h with
  | send hfree hready hqueue hstep => exact exists_link_send _ _ _
  | proceed hfree hready hqueue hstep => exact ⟨0, rfl⟩
  | refuse hfree hready hqueue hstep => exact ⟨0, (quiet_refuse _ _).link⟩
  | goal hfree hready hqueue hstale => exact exists_link_send _ _ _

/-- What the history says was sent in a small step is what the link is handed. Beyond that the link
is at most closed, and closed again. -/
theorem Act.link_eq {s t : Session σ} {es : History} (ha : Act s es t) :
    ∃ n, t.link = Link.close^[n] (handed s.link es) := by
  cases ha with
  | quiet hs => exact ⟨0, hs.link⟩
  | order halive horder => exact ⟨0, rfl⟩
  | edit he => exact ⟨0, link_noteEdit ..⟩
  | round hround => exact hround.link_eq
  | status halive hfree => exact exists_link_send _ _ _
  | close =>
    unfold Session.close farewell
    by_cases hclosed : s.status = .closed
    · exact ⟨0, by simp [hclosed]⟩
    · -- the prover is told to quit only if nothing is open
      by_cases hquit : s.fatal.isNone ∧ s.request.isNone
      · obtain ⟨n, hn⟩ := exists_link_send s .quit .quit
        refine ⟨n + 1, ?_⟩
        rw [if_neg hclosed, if_pos hquit, if_pos ⟨hclosed, hquit⟩,
          Function.iterate_succ_apply', ← hn]
      · refine ⟨1, ?_⟩
        rw [if_neg hclosed, if_neg hquit, if_neg fun h => hquit h.2]
        rfl

/-- A small step does nothing to the link but hand over what its history says, and close it. -/
theorem Act.becomes {s t : Session σ} {es : History} (ha : Act s es t) :
    Link.Becomes s.link (es.calls.map (·.2)) t.link := by
  obtain ⟨n, hn⟩ := ha.link_eq
  rw [hn]
  exact (becomes_handed s.link es).iterate_close n

/-- Small steps take no frames up. -/
theorem Act.frames_eq {s t : Session σ} {es : History} (ha : Act s es t) : es.frames = [] := by
  cases ha with
  | round hround => cases hround <;> rfl
  | close =>
    unfold farewell
    split <;> rfl
  | quiet | order | edit | status => rfl

/-- A chain of small steps takes no frames up, and does nothing to the link but hand over what its
history says, and close it. -/
theorem Acts.exchanged {s t : Session σ} {es : History} (ha : Acts s es t) :
    es.frames = [] ∧ Link.Becomes s.link (es.calls.map (·.2)) t.link := by
  induction ha with
  | refl => exact ⟨rfl, .refl⟩
  | head ha _ ih =>
    rw [History.frames_append, History.calls_append, List.map_append, ha.frames_eq, ih.1]
    exact ⟨rfl, ha.becomes.trans ih.2⟩

/-! ## What an operation does -/

/-- What an operation does. -/
inductive Does (s : Session σ) : Operation → Session σ → Prop
  /-- The operation is refused, or there is nothing to be done. -/
  | keep (op : Operation) : Does s op s
  /-- Something is queued, and what can be sent is sent. -/
  | order {op : Operation} {queue : List Navigation} (halive : s.refusal? = none)
      (horder : Orders s.queue queue) :
    Does s op (pump { s with queue })
  /-- The text is edited, and what the edit requires is queued. -/
  | edit {op : Operation} {outcome : Reconciliation} {document : Document}
      (he : s.document.Edits outcome document) :
    Does s op (afterEdit { s with document } outcome)
  | status (halive : s.refusal? = none) (hfree : s.request = none) :
    Does s .requestStatus (s.send .status .status)
  | poll : Does s .poll s.poll.2
  | close : Does s .close s.close
  | takeNotifications : Does s .takeNotifications s.takeNotifications.2
  | clearMessages : Does s .clearMessages s.clearMessages
  | elapse (milliseconds : Nat) : Does s (.elapse milliseconds) (s.elapse milliseconds)

/-- Every operation does what its kind allows. -/
theorem does_perform (s : Session σ) (op : Operation) : Does s op (s.perform op) := by
  -- an operation is refused by its guards in turn, or it is done; each guard that lets it pass is a
  -- condition of the step
  cases op with
  | forward =>
    simp only [perform, Session.forward]
    split
    · exact .keep _
    · next halive =>
      split
      · exact .keep _
      · exact .order halive .forward
  | backward =>
    simp only [perform, Session.backward]
    split
    · exact .keep _
    · next halive =>
      split
      · exact .keep _
      · exact .order halive .backward
  | toCursor position =>
    simp only [perform, Session.toCursor]
    split
    · exact .keep _
    · next halive => exact .order halive (.toCursor _)
  | applyEdit start stop replacement =>
    simp only [perform, Session.applyEdit]
    split
    · exact .keep _
    · next h => exact .edit (.replace h)
  | setText text => exact .edit (.setText text)
  | requestStatus =>
    simp only [perform, Session.requestStatus]
    split
    · exact .keep _
    · next halive =>
      split
      · exact .keep _
      · next hfree => exact .status halive (by simpa using hfree)
  | poll => exact .poll
  | close => exact .close
  | takeNotifications => exact .takeNotifications
  | clearMessages => exact .clearMessages
  | elapse milliseconds => exact .elapse milliseconds

/-- Every operation but a poll is a chain of small steps. -/
theorem Does.exists_acts {s t : Session σ} {op : Operation} (h : Does s op t) (hop : op ≠ .poll) :
    ∃ es, Acts s es t := by
  cases h with
  | keep => exact ⟨[], Acts.refl s⟩
  | order halive horder => exact (Act.order halive horder).exists_acts_pump
  | edit he => exact exists_acts_afterEdit he
  | status halive hfree => exact ⟨_, (Act.status halive hfree).acts⟩
  | poll => exact absurd rfl hop
  | close => exact ⟨_, (Act.close s).acts⟩
  | takeNotifications | clearMessages =>
    refine ⟨[], Act.acts (.quiet ?_)⟩
    exact ⟨⟨rfl, rfl, rfl, rfl, rfl, rfl, rfl, rfl⟩, rfl⟩
  | elapse milliseconds => exact ⟨[], (Act.quiet (quiet_elapse s milliseconds)).acts⟩

/-- Every operation but a poll comes to a few acts of the session. -/
theorem exists_acts (s : Session σ) {op : Operation} (hop : op ≠ .poll) :
    ∃ es, Acts s es (s.perform op) :=
  (does_perform s op).exists_acts hop

end Session

end ProofDesk
