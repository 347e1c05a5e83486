import ProofDesk.Proofs.Session.Raised
import ProofDesk.Proofs.Workspace.Isolation

/-!
# Notifications reach the editor

What a session has to notify the user of waits inside it until the workspace passes it on, which
happens whenever its document is published and at the end of every poll. A turn asks operations of
the session of a document (`asks`), opens one (`openedBy`) or leaves it alone, and whatever is
raised meanwhile has been passed on when the turn is over (`Settled.passesOn`). So on every run a
session has nothing left to say, and the editor has been notified of what it has raised since it was
opened, once and in order (`play_notified`).
-/

namespace ProofDesk

variable {κ σ : Type}

/-- The notification that an event passes on for a document. -/
def EngineEvent.noticeOf? (doc : String) : EngineEvent → Option Notification
  | notification d kind message => if d = doc then some ⟨kind, message⟩ else none
  | _ => none

/-- What tells nothing of a document passes nothing on for it. -/
private theorem EngineEvent.noticeOf?_eq_none {doc : String} {named : Bool} {e : EngineEvent}
    (he : e.tellsOf doc named = false) : e.noticeOf? doc = none := by
  cases e with
  | notification d kind message => simpa [EngineEvent.tellsOf, EngineEvent.noticeOf?] using he
  | _ => rfl

/-- The notification that reports to a document that its command has been rejected, since a sentence
blocks progress. -/
def EditorCommand.rejection (doc : String) (c : EditorCommand) :
    Except Trouble Unit → List Notification
  | .error (.session .blocked) =>
    if c.doc? = some doc then [⟨.blocked, Fault.blocked.message⟩] else []
  | _ => []

/-- What a movement asks of a session: where it is carried out, a poll follows. -/
def Operation.thenPoll (op : Operation) : Except Fault Unit → List Operation
  | .ok () => [op, .poll]
  | .error _ => [op]

/-- What a command asks of a session that it leaves open. -/
def EditorCommand.operations [Link σ] (s : Session σ) : EditorCommand → List Operation
  | forward _ => Operation.forward.thenPoll s.forward.1
  | backward _ => Operation.backward.thenPoll s.backward.1
  | toCursor _ position => (Operation.toCursor position).thenPoll (s.toCursor position).1
  | edit _ start stop text => [.applyEdit start stop text]
  | setText _ text => [.setText text]
  | clearMessages _ => [.clearMessages]
  | processFeedbacks => [.poll]
  | _ => []

namespace Workspace

variable {w w' w'' : Workspace κ σ} {doc : String} {named : Bool} {s : Session σ}
  {s? s?' : Option (Session σ)} {ns ns' : List Notification}

/-- The notifications that have been passed on for a document on the way from one workspace to
another. -/
def noticedBetween (doc : String) (w w' : Workspace κ σ) : List Notification :=
  (w.newEvents w').filterMap (·.noticeOf? doc)

/-- The notifications that wait in a session, if there is one. -/
def waiting (s? : Option (Session σ)) : List Notification :=
  s?.elim [] (·.notifications)

/-- The session with its notifications taken, if there is one. -/
def silenced? (s? : Option (Session σ)) : Option (Session σ) :=
  s?.map (·.takeNotifications.2)

section Turns

variable [Link σ] [Connector κ σ]

/-- What a turn asks of the session of a document that it leaves open. -/
def asks (doc : String) (w : Workspace κ σ) (s : Session σ) : Turn κ σ → List Operation
  | .act _ (.editor c) => if c.doc? = some doc ∨ c.isCommon then c.operations s else []
  | .act _ (.viewer .clearMessages) => if w.focused = some doc then [.clearMessages] else []
  | .act _ .poll => [.poll]
  | .aside (.elapse milliseconds) => [.elapse milliseconds]
  | _ => []

/-- The session that a command opens, as it is once it has called the prover. -/
def opening (w : Workspace κ σ) : EditorCommand → Option (Session σ)
  | .newSession _ text =>
    (Connector.connect w.settings w.connector).1.toOption.map (.start · text w.settings)
  | _ => none

/-- The session that a turn opens for a document. -/
def openedBy (doc : String) (w : Workspace κ σ) : Turn κ σ → Option (Session σ)
  | .act connector (.editor c) => if c.doc? = some doc then { w with connector }.opening c else none
  | _ => none

/-- The session of a document after a command for it, with all that it has raised still waiting. -/
def sessionAfter (doc : String) (w : Workspace κ σ) : EditorCommand → Option (Session σ)
  | .newSession d text => w.opening (.newSession d text)
  | .closeSession _ | .shutdown => none
  | c => (w.session? doc).map fun s => s.performAll (c.operations s)

/-- The session of a document after a turn, with all that it has raised still waiting. -/
def sessionAfterTurn (doc : String) (w : Workspace κ σ) : Turn κ σ → Option (Session σ)
  | .act connector (.editor c) =>
    if c.doc? = some doc ∨ c.isCommon then { w with connector }.sessionAfter doc c
      else w.session? doc
  | .prover d news => (w.session? doc).map fun s =>
    if doc = d then { s with link := news s.link } else s
  | t => (w.session? doc).map fun s => s.performAll (w.asks doc s t)

/-- The notifications that the session of a document raises in a turn. -/
def raised (doc : String) (w : Workspace κ σ) (t : Turn κ σ) : List Notification :=
  match w.openedBy doc t with
  | some s => s.notifications
  | none => (w.session? doc).elim [] fun s => s.raised (w.asks doc s t)

/-- The notification by which a turn reports to a document that its command has been rejected. -/
def rejection (doc : String) (w : Workspace κ σ) : Turn κ σ → List Notification
  | .act connector (.editor c) => c.rejection doc ({ w with connector }.dispatch c).1
  | _ => []

/-- The notifications that a turn passes on for a document, without the one that reports a command
rejected. -/
def passedOn (doc : String) (w : Workspace κ σ) (t : Turn κ σ) : List Notification :=
  (noticedBetween doc w (w.turn t)).drop (w.rejection doc t).length

/-- What turns bring a document, begun anew with every turn that opens a session for it. -/
def sinceOpening {α : Type} (doc : String) (f : Workspace κ σ → Turn κ σ → List α)
    (brought : List α) (w : Workspace κ σ) : List (Turn κ σ) → List α
  | [] => brought
  | t :: ts =>
    sinceOpening doc f (if (w.openedBy doc t).isSome then f w t else brought ++ f w t) (w.turn t) ts

end Turns

/-! ## What is passed on -/

/-- What waits does not change with anything else. -/
theorem waiting_map {f : Session σ → Session σ} (hf : ∀ s, (f s).notifications = s.notifications)
    (s? : Option (Session σ)) : waiting (s?.map f) = waiting s? := by
  cases s? with
  | none => rfl
  | some s => exact hf s

/-- What happens on a link has nothing to do with what waits. -/
theorem waiting_hear (d : String) (news : σ → σ) (s? : Option (Session σ)) :
    waiting (s?.map fun s => if doc = d then { s with link := news s.link } else s) =
      waiting s? := by
  refine waiting_map (fun s => ?_) s?
  split <;> rfl

@[simp] theorem waiting_silenced? (s? : Option (Session σ)) : waiting (silenced? s?) = [] := by
  cases s? <;> rfl

@[simp] theorem silenced?_silenced? (s? : Option (Session σ)) :
    silenced? (silenced? s?) = silenced? s? := by
  cases s? <;> rfl

/-- Where nothing waits, there is nothing to take. -/
private theorem silenced?_of_waiting (h : waiting s? = []) : silenced? s? = s? := by
  cases s? with
  | none => rfl
  | some s =>
    have hnone : s.notifications = [] := h
    show some { s with notifications := [] } = some s
    rw [← hnone]

/-- On the way from one workspace to another `ns` is passed on for a document, and at its end `s?`
is its session. -/
structure Notices (doc : String) (w : Workspace κ σ) (ns : List Notification)
    (s? : Option (Session σ)) (w' : Workspace κ σ) : Prop where
  grows : w.events <+: w'.events
  noticed : noticedBetween doc w w' = ns
  session : w'.session? doc = s?

/-- The way passes on all that waits in the session of a document, and leaves the session alone but
for that. -/
abbrev Flushes (doc : String) (w w' : Workspace κ σ) : Prop :=
  Notices doc w (waiting (w.session? doc)) (silenced? (w.session? doc)) w'

/-- What is passed on twice is passed on, one lot behind the other. -/
theorem Notices.trans (h : Notices doc w ns s? w') (h' : Notices doc w' ns' s?' w'') :
    Notices doc w (ns ++ ns') s?' w'' := by
  refine ⟨h.grows.trans h'.grows, ?_, h'.session⟩
  rw [noticedBetween, newEvents_trans h.grows h'.grows, List.filterMap_append, ← noticedBetween,
    ← noticedBetween, h.noticed, h'.noticed]

/-- What is passed on is what the events say. -/
theorem notices_of_eq {es : List EngineEvent} (hevents : w'.events = w.events ++ es)
    (hes : es.filterMap (·.noticeOf? doc) = ns) (hsession : w'.session? doc = s?) :
    Notices doc w ns s? w' := by
  refine ⟨⟨es, hevents.symm⟩, ?_, hsession⟩
  rw [noticedBetween, newEvents_of_eq hevents, hes]

/-- Without an event nothing is passed on. -/
theorem notices_of_events_eq (hevents : w'.events = w.events) (hsession : w'.session? doc = s?) :
    Notices doc w [] s? w' :=
  notices_of_eq (hevents.trans (List.append_nil _).symm) rfl hsession

/-- Where nothing is told of a document, nothing is passed on for it. -/
theorem noticedBetween_eq_nil (h : toldBetween doc named w w' = []) :
    noticedBetween doc w w' = [] := by
  refine List.filterMap_eq_nil_iff.2 fun e he => ?_
  have hsilent : ¬ e.tellsOf doc named = true := List.filter_eq_nil_iff.1 h e he
  exact EngineEvent.noticeOf?_eq_none (by simpa using hsilent)

/-- What spares a document passes nothing on. -/
theorem Spares.notices (h : Spares doc named w w') : Notices doc w [] (w.session? doc) w' :=
  ⟨h.grows, noticedBetween_eq_nil h.silent, h.session⟩

/-- Whoever opens links has nothing to do with notifications. -/
theorem Notices.of_connector {connector : κ} (h : Notices doc { w with connector } ns s? w') :
    Notices doc w ns s? w' :=
  ⟨h.grows, h.noticed, h.session⟩

/-- Nothing more is passed on by what spares a document. -/
theorem Notices.spares (h : Notices doc w ns s? w') (h' : Spares doc named w' w'') :
    Notices doc w ns s? w'' := by
  have hboth := h.trans h'.notices
  rwa [List.append_nil, h.session] at hboth

theorem notices_putSession (w : Workspace κ σ) (doc : String) (s : Session σ) :
    Notices doc w [] (some s) (w.putSession doc s) :=
  notices_of_events_eq rfl (session?_putSession_self w doc s)

/-- A session that is only reported to afterwards hears of everything then. -/
theorem Notices.flushes (h : Notices doc w ns s? w') (h' : Flushes doc w' w'') :
    Notices doc w (ns ++ waiting s?) (silenced? s?) w'' := by
  rw [← h.session]
  exact h.trans h'

/-- What has been passed on is not passed on again. -/
theorem Notices.flushes_again (h : Flushes doc w w') (h' : Flushes doc w' w'') :
    Flushes doc w w'' := by
  have hboth := h.flushes h'
  rwa [waiting_silenced?, List.append_nil, silenced?_silenced?] at hboth

/-- What empties a document of notifications does so after what spares it. -/
theorem Spares.flushes (h : Spares doc named w w') (h' : Flushes doc w' w'') : Flushes doc w w'' :=
  h.notices.flushes h'

/-- Where there is no session, nothing waits. -/
theorem Spares.flushes_of_none (h : Spares doc named w w') (hnone : w.session? doc = none) :
    Flushes doc w w' := by
  have hnotices := h.notices
  rw [hnone] at hnotices
  rwa [Flushes, hnone]

/-- A document without a session has nothing to pass on. -/
theorem flushes_of_none (hnone : w.session? doc = none) : Flushes doc w w := by
  have hsame : Spares doc false w w := .refl w
  exact hsame.flushes_of_none hnone

/-- The events by which notifications are passed on. -/
private theorem foldl_emit_notification (ns : List Notification) (w : Workspace κ σ)
    (doc : String) :
    ns.foldl (fun w n => w.emit (.notification doc n.kind n.message)) w =
      { w with events := w.events ++ ns.map fun n => .notification doc n.kind n.message } := by
  induction ns generalizing w with
  | nil => simp
  | cons n ns ih =>
    rw [List.foldl_cons, ih, List.map_cons]
    simp [emit]

/-- Passing notifications on leaves none. -/
theorem flushes_flushNotifications (w : Workspace κ σ) (doc : String) :
    Flushes doc w (w.flushNotifications doc) := by
  unfold flushNotifications
  split
  · next hnone => exact flushes_of_none hnone
  · next s hs =>
    have hpassed :
        (s.notifications.map fun n => EngineEvent.notification doc n.kind n.message).filterMap
        (·.noticeOf? doc) = s.notifications := by
      simp [List.filterMap_map, EngineEvent.noticeOf?]
    dsimp only
    rw [foldl_emit_notification, Flushes, hs]
    exact notices_of_eq rfl hpassed (session?_putSession_self w doc _)

/-- Publishing a document passes on what waits in its session. -/
theorem flushes_publish (w : Workspace κ σ) (doc : String) : Flushes doc w (w.publish doc) := by
  unfold publish
  split
  · next hnone => exact flushes_of_none hnone
  · next s hs =>
    have hshown : Notices doc w [] (w.session? doc) (w.emit (.snapshot doc s.snapshot)) :=
      notices_of_eq rfl rfl rfl
    have hdrawn : Spares doc false (w.emit (.snapshot doc s.snapshot)) _ := spares_panels _ doc
    exact hshown.flushes (hdrawn.flushes (flushes_flushNotifications _ doc))

/-- Where one document after the other is seen to, what waits in a session is passed on when it is
its turn. -/
theorem flushes_foldl {f : Workspace κ σ → String → Workspace κ σ}
    (hself : ∀ w, Flushes doc w (f w doc))
    (hother : ∀ other, doc ≠ other → ∀ w : Workspace κ σ, Spares doc false w (f w other))
    {ds : List String} (hmem : doc ∈ ds) (w : Workspace κ σ) : Flushes doc w (ds.foldl f w) := by
  induction ds generalizing w with
  | nil => exact absurd hmem List.not_mem_nil
  | cons d ds ih =>
    rw [List.foldl_cons]
    by_cases hdoc : doc ∈ ds
    · by_cases heq : doc = d
      · exact Notices.flushes_again (heq ▸ hself w) (ih hdoc _)
      · exact (hother d heq w).flushes (ih hdoc _)
    · obtain rfl : doc = d := (List.mem_cons.1 hmem).resolve_right hdoc
      exact (hself w).spares (.foldl_of_not_mem hother hdoc _)

/-! ## Commands and polls -/

/-- A report is told to a document where it says that a sentence blocks progress there. -/
theorem notices_report (w : Workspace κ σ) (doc : String) (c : EditorCommand) (t : Trouble) :
    Notices doc w (c.rejection doc (.error t)) (w.session? doc) (w.report c.doc? t) := by
  unfold report
  split
  · next d hnamed =>
    refine notices_of_eq rfl ?_ rfl
    unfold EditorCommand.rejection
    -- the event names the document of the command, which may be another one
    by_cases hd : d = doc <;> simp [EngineEvent.noticeOf?, Trouble.message, hnamed, hd]
  · next hother =>
    unfold EditorCommand.rejection
    split
    · next heq =>
      rw [if_neg fun hnamed => hother doc hnamed (Except.error.inj heq)]
      exact notices_of_eq rfl rfl rfl
    · exact notices_of_eq rfl rfl rfl

/-- Emptying the message panel of the document in focus has nothing to do with another one. -/
theorem spares_clearMessages (hfocus : w.focused ≠ some doc) :
    Spares doc false w (w.handleViewer .clearMessages) := by
  cases hfocused : w.focused with
  | none =>
    simp only [handleViewer, hfocused]
    exact .refl w
  | some d =>
    have hne : doc ≠ d := fun heq => hfocus (heq ▸ hfocused)
    have hdrawn (v : Workspace κ σ) : Spares doc false v (v.replayMessages d) :=
      (draws_replayMessages v d).spares
    simp only [handleViewer, hfocused]
    split
    · exact (spares_putSession hne w _).trans (hdrawn _)
    · exact hdrawn w

theorem notices_clearMessages (hfocus : w.focused = some doc) :
    Notices doc w [] ((w.session? doc).map (·.clearMessages)) (w.handleViewer .clearMessages) := by
  have hdrawn (v : Workspace κ σ) : Spares doc false v (v.replayMessages doc) :=
    (draws_replayMessages v doc).spares
  simp only [handleViewer, hfocus]
  cases hs : w.session? doc with
  | none =>
    have hnotices : Notices doc w [] (w.session? doc) (w.replayMessages doc) := (hdrawn w).notices
    rwa [hs] at hnotices
  | some s => exact (notices_putSession w doc s.clearMessages).spares (hdrawn _)

variable [Link σ]

/-- A poll takes in what has arrived for a document, and passes on what waits in its session
then. -/
theorem notices_processFeedbacks (w : Workspace κ σ) (doc : String) :
    Notices doc w (waiting ((w.session? doc).map (·.poll.2)))
      (silenced? ((w.session? doc).map (·.poll.2)))
      w.processFeedbacks := by
  -- publishing starts where the sessions have been polled and nothing else has happened
  obtain ⟨v, hstart, hevents, hsession⟩ : ∃ v : Workspace κ σ,
      w.polled = w.stirred.foldl Workspace.publish v ∧ v.events = w.events ∧
      v.session? doc = (w.session? doc).map (·.poll.2) :=
    ⟨_, rfl, rfl, Sessions.find?_map w.sessions (fun _ s => s.poll.2) doc⟩
  have hpolled : Notices doc w [] ((w.session? doc).map (·.poll.2)) v :=
    notices_of_events_eq hevents hsession
  rw [processFeedbacks_eq]
  refine hpolled.flushes ?_
  have hpublished : Flushes doc v w.polled ∨ Spares doc false v w.polled := by
    rw [hstart]
    by_cases hdoc : doc ∈ w.stirred
    · exact .inl
        (flushes_foldl (flushes_publish · doc) (fun _ hne w => spares_publish hne w) hdoc _)
    · exact .inr (.foldl_of_not_mem (fun _ hne w => spares_publish hne w) hdoc _)
  have hflushed :
      Flushes doc w.polled
        (w.polled.sessions.docs.foldl Workspace.flushNotifications w.polled) := by
    by_cases hdoc : doc ∈ w.polled.sessions.docs
    · exact flushes_foldl (flushes_flushNotifications · doc)
        (fun _ hne w => spares_flushNotifications hne w) hdoc _
    · have hspares :
          Spares doc false w.polled
            (w.polled.sessions.docs.foldl Workspace.flushNotifications w.polled) :=
        .foldl_of_not_mem (fun _ hne w => spares_flushNotifications hne w) hdoc _
      exact hspares.flushes_of_none ((session?_eq_none_iff _ _).2 hdoc)
  -- what a document with news has to say has been passed on already when its turn comes among all
  -- documents
  rcases hpublished with hpublished | hspared
  · exact hpublished.flushes_again hflushed
  · exact hspared.flushes hflushed

/-- Operations on a session pass nothing on by themselves. -/
theorem notices_onSession {f : Session σ → Except Fault Unit × Session σ}
    {ops : Session σ → List Operation} (hf : ∀ s, (f s).2 = s.performAll (ops s))
    (w : Workspace κ σ) (doc : String) :
    Notices doc w [] ((w.session? doc).map fun s => s.performAll (ops s))
      (w.onSession doc f).2 := by
  unfold onSession
  split
  · next hnone =>
    rw [hnone]
    exact notices_of_events_eq rfl hnone
  · next s hs =>
    rw [hs, Option.map_some, ← hf s]
    exact notices_putSession w doc _

theorem notices_navigate {f : Session σ → Except Fault Unit × Session σ} {op : Operation}
    (hf : ∀ s, (f s).2 = s.perform op) (w : Workspace κ σ) (doc : String) :
    Notices doc w [] ((w.session? doc).map fun s => s.performAll (op.thenPoll (f s).1))
      (w.navigate doc f).2 := by
  refine notices_onSession (fun s => ?_) w doc
  have hs := hf s
  cases hmoved : f s with
  | mk result t =>
    rw [hmoved] at hs
    cases result with
    | ok => exact congrArg (·.poll.2) hs
    | error fault => exact hs

theorem notices_closeSession (w : Workspace κ σ) (doc : String) :
    Notices doc w [] none (w.closeSession doc).2 := by
  rw [closeSession_eq]
  split
  · next hnone => exact notices_of_events_eq rfl (Option.isNone_iff_eq_none.1 hnone)
  · exact notices_of_events_eq (by rw [retire_eq]) (session?_retire_self w doc)

/-- No command takes the notifications of a session. -/
theorem not_mem_operations (s : Session σ) (c : EditorCommand) :
    .takeNotifications ∉ c.operations s := by
  have hmovement {op : Operation} (hop : op ≠ .takeNotifications) (result : Except Fault Unit) :
      .takeNotifications ∉ op.thenPoll result := by
    cases result <;> simp [Operation.thenPoll, hop.symm]
  cases c with
  | forward | backward | toCursor => exact hmovement (by simp) _
  | _ => simp [EditorCommand.operations]

/-- No turn asks a session for its notifications by itself. -/
theorem not_mem_asks (w : Workspace κ σ) (s : Session σ) (t : Turn κ σ) :
    .takeNotifications ∉ w.asks doc s t := by
  unfold asks
  split
  · next c =>
    split
    · exact not_mem_operations s c
    · exact List.not_mem_nil
  · split <;> simp
  · simp
  · simp
  · exact List.not_mem_nil

/-- Where nothing waits in a session, what waits after operations is what they have raised. -/
theorem waiting_performAll {ops : Session σ → List Operation}
    (hops : ∀ s, .takeNotifications ∉ ops s) (hsilent : waiting s? = []) :
    waiting (s?.map fun s => s.performAll (ops s)) = s?.elim [] fun s => s.raised (ops s) := by
  cases s? with
  | none => rfl
  | some s =>
    have hnone : s.notifications = [] := hsilent
    show (s.performAll (ops s)).notifications = s.raised (ops s)
    rw [Session.notifications_performAll s (hops s), hnone, List.nil_append]

theorem map_performAll_nil (s? : Option (Session σ)) : (s?.map fun s => s.performAll []) = s? :=
  Option.map_id'

/-- Nothing is raised where nothing is asked. -/
theorem elim_raised_nil (s? : Option (Session σ)) : (s?.elim [] fun s => s.raised []) = [] := by
  cases s? <;> rfl

variable [Connector κ σ]

theorem notices_newSession (w : Workspace κ σ) (doc text : String) :
    Notices doc w []
      ((Connector.connect w.settings w.connector).1.toOption.map (.start · text w.settings))
      (w.newSession doc text).2 := by
  have hevents : (w.retire doc).events = w.events := by rw [retire_eq]
  obtain ⟨reason, connector, hopened, heq⟩ | ⟨link, connector, hopened, heq⟩ :=
    newSession_cases w doc text
  · rw [hopened, heq]
    exact notices_of_events_eq hevents (session?_retire_self w doc)
  · rw [hopened, heq]
    exact notices_of_events_eq hevents (session?_putSession_self _ doc _)

/-- Whatever a command for a document comes to, its session has nothing left to say once it is
handled. -/
theorem Notices.handle {c : EditorCommand} (hc : c.doc? = some doc)
    (h : Notices doc w [] s? (w.dispatch c).2) :
    Notices doc w (c.rejection doc (w.dispatch c).1 ++ waiting s?) (silenced? s?)
      (w.handle c).2 := by
  have hpublish : ∀ v : Workspace κ σ, Flushes doc v (v.publishNamed c) := by
    intro v
    rw [publishNamed, hc]
    exact flushes_publish v doc
  cases hdispatched : w.dispatch c with
  | mk result w' =>
    rw [hdispatched] at h
    cases result with
    | ok =>
      rw [handle_of_ok hdispatched]
      exact h.flushes (hpublish w')
    | error t =>
      rw [handle_of_error hdispatched]
      -- the report comes behind what the command has led to, and is passed on with it
      have hreported := h.trans (notices_report w' doc c t)
      rw [h.session] at hreported
      exact hreported.flushes (hpublish _)

/-- What a command does to the session of the document that it names, before anything is passed
on. -/
private theorem notices_dispatch (w : Workspace κ σ) {c : EditorCommand} (hc : c.doc? = some doc) :
    Notices doc w [] (w.sessionAfter doc c) (w.dispatch c).2 := by
  cases c with
  | newSession d text =>
    obtain rfl : d = doc := Option.some.inj hc
    exact notices_newSession w d text
  | closeSession d =>
    obtain rfl : d = doc := Option.some.inj hc
    exact notices_closeSession w d
  | forward d | backward d | toCursor d position =>
    obtain rfl : d = doc := Option.some.inj hc
    exact notices_navigate (fun _ => rfl) w d
  | edit d start stop text | setText d text | clearMessages d =>
    obtain rfl : d = doc := Option.some.inj hc
    exact notices_onSession (fun _ => rfl) w d
  | event d kind =>
    -- an event moves the focus, and no session notices
    have hspares : Spares doc false w (w.dispatch (.event d kind)).2 := spares_editorEvent w d kind
    have hsame : w.sessionAfter doc (.event d kind) = w.session? doc := map_performAll_nil _
    rw [hsame]
    exact hspares.notices
  | _ => simp [EditorCommand.doc?] at hc

/-! ## Turns -/

/-- Every document has one session at most, and nothing waits in that of a document. -/
structure Settled (doc : String) (w : Workspace κ σ) : Prop where
  distinct : w.sessions.docs.Nodup
  silent : waiting (w.session? doc) = []

/-- A turn passes on what the session of a document raises, behind the report that its command has
been rejected, and does nothing to the session but what it asks of it. -/
structure PassesOn (doc : String) (w : Workspace κ σ) (t : Turn κ σ) : Prop where
  noticed : noticedBetween doc w (w.turn t) = w.rejection doc t ++ w.raised doc t
  session : (w.turn t).session? doc = silenced? (w.sessionAfterTurn doc t)

/-- Where nothing has waited in the session of a document, what waits after a command is what the
session has raised. -/
private theorem waiting_sessionAfter (hsilent : waiting (w.session? doc) = []) (c : EditorCommand) :
    waiting (w.sessionAfter doc c) = match w.opening c with
      | some s => s.notifications
      | none => (w.session? doc).elim [] fun s => s.raised (c.operations s) := by
  cases c with
  | newSession d text =>
    rw [sessionAfter]
    cases w.opening (.newSession d text) with
    | none => exact (elim_raised_nil _).symm
    | some s => rfl
  | closeSession | shutdown => exact (elim_raised_nil _).symm
  | _ => exact waiting_performAll (not_mem_operations · _) hsilent

/-- Where nothing has waited in the session of a document, what waits after a turn is what the
session has raised. -/
theorem waiting_sessionAfterTurn (hsilent : waiting (w.session? doc) = []) (t : Turn κ σ) :
    waiting (w.sessionAfterTurn doc t) = w.raised doc t := by
  have hasked (hopened : w.openedBy doc t = none) :
      w.raised doc t = waiting ((w.session? doc).map fun s => s.performAll (w.asks doc s t)) := by
    rw [raised, hopened, waiting_performAll (fun s => not_mem_asks w s t) hsilent]
  cases t with
  | act connector a =>
    cases a with
    | editor c =>
      by_cases hc : c.doc? = some doc ∨ c.isCommon = true
      -- only a command that names the document may open a session, and that has raised all that
      -- waits in it
      · have hafter := waiting_sessionAfter (w := { w with connector }) hsilent c
        simp only [sessionAfterTurn, if_pos hc, hafter, raised, openedBy, asks]
        by_cases hnamed : c.doc? = some doc
        · simp only [if_pos hnamed]
          rfl
        · cases c with
          | processFeedbacks | shutdown => rfl
          | _ => simp [EditorCommand.isCommon, hnamed] at hc
      · rw [hasked (if_neg fun hnamed => hc (.inl hnamed))]
        simp only [sessionAfterTurn, asks, if_neg hc, map_performAll_nil]
    | malformed | viewer | poll => exact (hasked rfl).symm
  | prover d news =>
    rw [hasked rfl, sessionAfterTurn, waiting_hear]
    exact congrArg waiting (map_performAll_nil _).symm
  | aside | reorder => exact (hasked rfl).symm

/-- A turn after which a session has been heard. -/
theorem Notices.passesOn {t : Turn κ σ} (hsilent : waiting (w.session? doc) = [])
    (h : Notices doc w (w.rejection doc t ++ waiting (w.sessionAfterTurn doc t))
      (silenced? (w.sessionAfterTurn doc t))
      (w.turn t)) : PassesOn doc w t :=
  ⟨by rw [h.noticed, waiting_sessionAfterTurn hsilent], h.session⟩

/-- A turn after which a session has nothing to say. -/
theorem passesOn_of_silent {t : Turn κ σ} (hsilent : waiting (w.session? doc) = [])
    (hnoticed : noticedBetween doc w (w.turn t) = [])
    (hsession : (w.turn t).session? doc = w.sessionAfterTurn doc t)
    (hrejection : w.rejection doc t = []) (hafter : waiting (w.sessionAfterTurn doc t) = []) :
    PassesOn doc w t := by
  refine ⟨?_, ?_⟩
  · rw [hnoticed, hrejection, ← waiting_sessionAfterTurn hsilent, hafter]
    rfl
  · rw [hsession, silenced?_of_waiting hafter]

/-- A command for a document, or for every document. -/
private theorem passesOn_editor (hsilent : waiting (w.session? doc) = []) {c : EditorCommand}
    (hc : c.doc? = some doc ∨ c.isCommon = true) (connector : κ) :
    PassesOn doc w (.act connector (.editor c)) := by
  have hafter : w.sessionAfterTurn doc (.act connector (.editor c)) =
      { w with connector }.sessionAfter doc c :=
    if_pos hc
  refine Notices.passesOn hsilent ?_
  rw [hafter]
  by_cases hnamed : c.doc? = some doc
  · exact ((notices_dispatch { w with connector } hnamed).handle hnamed).of_connector
  · cases c with
    | processFeedbacks => exact (notices_processFeedbacks { w with connector } doc).of_connector
    | shutdown => exact notices_of_events_eq rfl rfl
    | _ => simp [EditorCommand.isCommon, hnamed] at hc

/-- A viewer that empties the message panel of the document in focus. -/
private theorem passesOn_clearMessages (hsilent : waiting (w.session? doc) = []) (connector : κ) :
    PassesOn doc w (.act connector (.viewer .clearMessages)) := by
  by_cases hfocus : w.focused = some doc
  · -- the messages of the document in focus are cleared, which raises nothing
    have hafter : w.sessionAfterTurn doc (.act connector (.viewer .clearMessages)) =
        (w.session? doc).map (·.clearMessages) := by
      simp only [sessionAfterTurn, asks, if_pos hfocus]
      rfl
    have hcleared := (notices_clearMessages (w := { w with connector }) hfocus).of_connector
    refine passesOn_of_silent hsilent hcleared.noticed (hcleared.session.trans hafter.symm) rfl ?_
    rw [hafter, waiting_map (f := Session.clearMessages) fun _ => rfl, hsilent]
  · have hafter : w.sessionAfterTurn doc (.act connector (.viewer .clearMessages)) =
        w.session? doc := by
      simp only [sessionAfterTurn, asks, if_neg hfocus, map_performAll_nil]
    have hspared := (spares_clearMessages (w := { w with connector }) hfocus).notices.of_connector
    exact passesOn_of_silent hsilent hspared.noticed (hspared.session.trans hafter.symm) rfl
      (hafter ▸ hsilent)

/-- A turn that does not concern a document rejects no command for it. -/
private theorem rejection_of_not_concerns {t : Turn κ σ} (ht : t.concerns doc = false) :
    w.rejection doc t = [] := by
  unfold rejection
  split
  · next connector c =>
    rw [← Bool.not_eq_true, concerns_editor_iff, not_or] at ht
    unfold EditorCommand.rejection
    split
    · exact if_neg ht.1
    · rfl
  · rfl

/-- A turn that does not concern a document leaves its session as it is, unless a viewer empties the
message panel. -/
private theorem sessionAfterTurn_of_not_concerns {t : Turn κ σ} (ht : t.concerns doc = false)
    (hviewer : ∀ connector, t ≠ .act connector (.viewer .clearMessages)) :
    w.sessionAfterTurn doc t = w.session? doc := by
  -- of the turns that do not concern a document, only a viewer that empties the panel may reach its
  -- session
  cases t with
  | act connector a =>
    cases a with
    | editor c =>
      rw [← Bool.not_eq_true, concerns_editor_iff] at ht
      exact if_neg ht
    | malformed reason => exact map_performAll_nil _
    | viewer c =>
      cases c with
      | clearMessages => exact absurd rfl (hviewer connector)
      | _ => exact map_performAll_nil _
    | poll => simp [Turn.concerns] at ht
  | aside a =>
    cases a with
    | elapse milliseconds => simp [Turn.concerns] at ht
    | _ => exact map_performAll_nil _
  | prover d news =>
    have hne : doc ≠ d := fun heq => by simp [Turn.concerns, heq] at ht
    simp [sessionAfterTurn, hne]
  | reorder r => exact map_performAll_nil _

/-- Every turn passes on all that it raises. -/
theorem Settled.passesOn (hw : Settled doc w) (t : Turn κ σ) : PassesOn doc w t := by
  -- the message panel is emptied by viewers as well, who do not know which document they concern
  by_cases hviewer : ∀ connector, t ≠ .act connector (.viewer .clearMessages)
  · cases ht : t.concerns doc with
    | false =>
      have halike : Alike doc w w := ⟨rfl, rfl, hw.distinct, hw.distinct⟩
      have hafter : w.sessionAfterTurn doc t = w.session? doc :=
        sessionAfterTurn_of_not_concerns ht hviewer
      obtain ⟨hsame, htold, -⟩ := halike.turn_other ht hviewer
      exact passesOn_of_silent hw.silent (noticedBetween_eq_nil htold)
        (hsame.session.trans hafter.symm)
        (rejection_of_not_concerns ht) (hafter ▸ hw.silent)
    | true =>
      cases t with
      | act connector a =>
        cases a with
        | editor c =>
          exact passesOn_editor hw.silent ((concerns_editor_iff doc connector c).1 ht) connector
        | poll =>
          exact (notices_processFeedbacks { w with connector } doc).of_connector.passesOn hw.silent
        | malformed | viewer => simp [Turn.concerns] at ht
      | aside a =>
        cases a with
        | elapse milliseconds =>
          have helapsed : Notices doc w [] ((w.session? doc).map (·.elapse milliseconds))
              (w.elapse milliseconds) :=
            notices_of_events_eq rfl (Sessions.find?_map w.sessions
              (fun _ s => s.elapse milliseconds) doc)
          have hkept :=
            waiting_map (f := (Session.elapse · milliseconds)) (fun _ => rfl) (w.session? doc)
          exact passesOn_of_silent hw.silent helapsed.noticed helapsed.session rfl
            (hkept.trans hw.silent)
        | takeEvents | takeRetired | takeViewerUpdate => simp [Turn.concerns] at ht
      | prover d news =>
        have hheard : Notices doc w []
            ((w.session? doc).map fun s => if doc = d then { s with link := news s.link } else s)
              (w.hear d news) :=
          notices_of_events_eq rfl
            (Sessions.find?_map w.sessions (fun e s => if e = d then
              { s with link := news s.link } else s) doc)
        exact passesOn_of_silent hw.silent hheard.noticed hheard.session rfl
          ((waiting_hear d news _).trans hw.silent)
      | reorder r => simp [Turn.concerns] at ht
  · push Not at hviewer
    obtain ⟨connector, rfl⟩ := hviewer
    exact passesOn_clearMessages hw.silent connector

/-- After each turn nothing waits. -/
theorem Settled.turn (hw : Settled doc w) (t : Turn κ σ) : Settled doc (w.turn t) := by
  refine ⟨?_, by rw [(hw.passesOn t).session, waiting_silenced?]⟩
  have halike : Alike doc w w := ⟨rfl, rfl, hw.distinct, hw.distinct⟩
  by_cases hviewer : ∀ connector, t ≠ .act connector (.viewer .clearMessages)
  · cases ht : t.concerns doc with
    | true => exact (halike.turn_same ht).1.alike.distinct
    | false => exact (halike.turn_other ht hviewer).1.distinct
  · push Not at hviewer
    obtain ⟨connector, rfl⟩ := hviewer
    exact (keeps_handleViewer { w with connector } .clearMessages).docs ▸ hw.distinct

/-- A turn passes on what it raises. -/
theorem Settled.passedOn_eq (hw : Settled doc w) (t : Turn κ σ) :
    w.passedOn doc t = w.raised doc t := by
  rw [passedOn, (hw.passesOn t).noticed, List.drop_left]

/-! ## Runs -/

/-- After each run nothing waits. -/
theorem Settled.play (hw : Settled doc w) (ts : List (Turn κ σ)) : Settled doc (w.play ts) := by
  induction ts generalizing w with
  | nil => exact hw
  | cons t ts ih => exact ih (hw.turn t)

/-- Since a document was opened, what was raised has been passed on. -/
theorem Settled.sinceOpening_eq (hw : Settled doc w) (ts : List (Turn κ σ))
    (brought : List Notification) :
    sinceOpening doc (passedOn doc) brought w ts = sinceOpening doc (raised doc) brought w ts := by
  induction ts generalizing w brought with
  | nil => rfl
  | cons t ts ih => rw [sinceOpening, sinceOpening, hw.passedOn_eq t, ih (hw.turn t)]

/-- Notifications are passed on exactly once. After every run nothing waits in the session of a
document, and leaving out reports that a command has been rejected, the editor has been notified of
what the session has raised since it was opened, once and in order. Whatever turn comes next, such a
report, if there is one, and what the session raises by being opened or by what the turn asks of it
are all that is passed on in it. -/
theorem play_notified (settings : Settings) (connector : κ) (doc : String) (ts : List (Turn κ σ)) :
    (∀ s, ((empty settings connector).play ts).session? doc = some s → s.notifications = []) ∧
      sinceOpening doc (passedOn doc) [] (empty settings connector) ts =
        sinceOpening doc (raised doc) [] (empty settings connector) ts ∧
      ∀ t, PassesOn doc ((empty settings connector).play ts) t := by
  have hempty : Settled doc (empty settings connector : Workspace κ σ) := ⟨List.nodup_nil, rfl⟩
  refine ⟨fun s hs => ?_, hempty.sinceOpening_eq ts [], (hempty.play ts).passesOn⟩
  have hsilent := (hempty.play ts).silent
  rwa [hs] at hsilent

/-! ## A prover that is gone -/

/-- Someone who opens links to provers that have gone away meanwhile. -/
structure Latecomer where

instance : Connector Latecomer Channel where
  connect _ latecomer := (.ok Channel.opened.close, latecomer)

/-- A document is opened, and a movement is asked for. -/
def openedLate : List (Turn Latecomer Channel) :=
  [.act ⟨⟩ (.editor (.newSession "a.v" "A.")), .act ⟨⟩ (.editor (.forward "a.v"))]

/-- That a session breaks while it is being opened is passed on, once. -/
theorem notified_of_openedLate :
    sinceOpening "a.v" (passedOn "a.v") [] (empty .default ⟨⟩) openedLate =
      [⟨.fatal, Fault.connectionLost.message⟩] := by
  rw [(play_notified .default (⟨⟩ : Latecomer) "a.v" openedLate).2.1]
  rfl

end Workspace

end ProofDesk
