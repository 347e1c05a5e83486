import ProofDesk.Proofs.Session.Rest
import ProofDesk.Proofs.Workspace.Sessions
import ProofDesk.Workspace.Basic

/-!
# What the editor is shown

A snapshot is everything that is drawn for a document. Whatever is carried out adds events, and of
every document it either shows a snapshot that is what there is to draw afterwards, or shows none
and leaves what there is to draw as it was (`Workspace.Shows`). This is proved once for each part of
the workspace; documents that a part may leave changed and unseen are named, and publishing takes a
document off them (`Workspace.Shows.publish`).
-/

namespace ProofDesk

/-! ## Events -/

/-- The snapshot of a document that an event shows. -/
def EngineEvent.shows? (doc : String) : EngineEvent → Option Snapshot
  | .snapshot d shown => if d = doc then some shown else none
  | _ => none

/-- The snapshot of a document that was shown last. -/
def lastShown? (doc : String) (es : List EngineEvent) : Option Snapshot :=
  es.reverse.findSome? (·.shows? doc)

@[simp] theorem lastShown?_nil (doc : String) : lastShown? doc [] = none := rfl

@[simp] theorem lastShown?_singleton (doc : String) (e : EngineEvent) :
    lastShown? doc [e] = e.shows? doc := by
  simp [lastShown?]

/-- What is shown later counts. -/
theorem lastShown?_append (doc : String) (es es' : List EngineEvent) :
    lastShown? doc (es ++ es') = (lastShown? doc es').or (lastShown? doc es) := by
  simp [lastShown?, List.findSome?_append]

namespace Workspace

variable {κ σ : Type} {w w' w'' : Workspace κ σ} {unseen : String → Prop} {doc : String}
  {s s' : Session σ}

/-- The events that have been added on the way from one workspace to another. -/
def newEvents (w w' : Workspace κ σ) : List EngineEvent :=
  w'.events.drop w.events.length

/-- What is new is what was added to the events. -/
theorem newEvents_of_eq {es : List EngineEvent} (h : w'.events = w.events ++ es) :
    w.newEvents w' = es := by
  rw [newEvents, h, List.drop_left]

/-- What is new on the way is what is new on its parts, one after the other. -/
theorem newEvents_trans (h : w.events <+: w'.events) (h' : w'.events <+: w''.events) :
    w.newEvents w'' = w.newEvents w' ++ w'.newEvents w'' := by
  obtain ⟨es, hes⟩ := h
  obtain ⟨es', hes'⟩ := h'
  rw [newEvents_of_eq hes.symm, newEvents_of_eq hes'.symm]
  exact newEvents_of_eq (by rw [← hes', ← hes, List.append_assoc])

/-- Putting a session in tells nothing. -/
theorem newEvents_putSession (w : Workspace κ σ) (doc : String) (s : Session σ) :
    w.newEvents (w.putSession doc s) = [] :=
  newEvents_of_eq (List.append_nil _).symm

/-- A session that was put in is the one of its document. -/
theorem session?_putSession_self (w : Workspace κ σ) (doc : String) (s : Session σ) :
    (w.putSession doc s).session? doc = some s :=
  Sessions.find?_put_self w.sessions doc s

/-- Putting a session in leaves those of other documents. -/
theorem session?_putSession_of_ne {other : String} (w : Workspace κ σ) (s : Session σ)
    (h : other ≠ doc) :
    (w.putSession doc s).session? other = w.session? other :=
  Sessions.find?_put_of_ne w.sessions s h

variable [Link σ]

/-- Every session has come about by operations and changes of its link. -/
def Sound (w : Workspace κ σ) : Prop :=
  ∀ e ∈ w.sessions, e.2.Reachable

/-- In a sound workspace operations lead to every session. -/
theorem Sound.reachable (h : w.Sound) (hs : w.session? doc = some s) : s.Reachable :=
  h (doc, s) (Sessions.mem_of_find? hs)

/-- Events have been added, and every document that is not `unseen` has been shown as it is now, or
has not been shown and is drawn as before. -/
structure Shows (unseen : String → Prop) (w w' : Workspace κ σ) : Prop where
  grows : w.events <+: w'.events
  sound : w.Sound → w'.Sound
  seen : ∀ {doc : String} {s' : Session σ}, ¬ unseen doc → w'.session? doc = some s' →
    lastShown? doc (w.newEvents w') = some s'.snapshot ∨
      lastShown? doc (w.newEvents w') = none ∧ ∃ s,
      w.session? doc = some s ∧ s.snapshot = s'.snapshot

namespace Shows

/-- Two ways on which documents are seen make one. -/
theorem trans (h : Shows unseen w w') (h' : Shows unseen w' w'') : Shows unseen w w'' := by
  refine ⟨h.grows.trans h'.grows, fun hw => h'.sound (h.sound hw), fun {doc s''} hdoc hs'' => ?_⟩
  rw [newEvents_trans h.grows h'.grows, lastShown?_append]
  rcases h'.seen hdoc hs'' with hshown | ⟨hnone, s', hs', hsame⟩
  · exact .inl (by rw [hshown, Option.some_or])
  · -- not shown on the second way and drawn as before it, so the first way tells
    rw [hnone, Option.none_or, ← hsame]
    exact h.seen hdoc hs'

/-- More documents may be called unseen. -/
theorem mono {later : String → Prop} (h : Shows unseen w w') (hle : ∀ doc, unseen doc → later doc) :
    Shows later w w' :=
  ⟨h.grows, h.sound, fun hdoc => h.seen fun hunseen => hdoc (hle _ hunseen)⟩

/-- Events that show no snapshot, while the sessions stay as they are. -/
theorem of_quiet {es : List EngineEvent} (hsessions : w'.sessions = w.sessions)
    (hevents : w'.events = w.events ++ es)
    (hquiet : ∀ doc, lastShown? doc es = none) : Shows unseen w w' := by
  refine ⟨⟨es, hevents.symm⟩, fun hw => by rwa [Sound, hsessions],
    fun {doc s'} _ hs' => .inr ⟨?_, s', ?_, rfl⟩⟩
  · rw [newEvents_of_eq hevents, hquiet]
  · rwa [session?, ← hsessions]

/-- Where sessions and events stay the same every document is drawn as before. -/
theorem of_eq (hsessions : w'.sessions = w.sessions) (hevents : w'.events = w.events) :
    Shows unseen w w' :=
  of_quiet hsessions (by rw [hevents, List.append_nil]) (by simp)

end Shows

/-! ## Events without a snapshot -/

/-- An event that shows no document leaves all drawn as before. -/
theorem shows_emit {e : EngineEvent} (he : ∀ doc, e.shows? doc = none) :
    Shows unseen w (w.emit e) :=
  .of_quiet rfl rfl (by simpa using he)

theorem shows_replayGoals (w : Workspace κ σ) (doc : String) :
    Shows unseen w (w.replayGoals doc) := by
  unfold replayGoals
  split
  · split
    · exact shows_emit fun _ => rfl
    · exact .of_eq rfl rfl
  · exact .of_eq rfl rfl

theorem shows_replayMessages (w : Workspace κ σ) (doc : String) :
    Shows unseen w (w.replayMessages doc) := by
  unfold replayMessages
  split
  · split
    · exact shows_emit fun _ => rfl
    · exact .of_eq rfl rfl
  · exact .of_eq rfl rfl

theorem shows_reveal (w : Workspace κ σ) (goals messages : Bool) :
    Shows unseen w (w.reveal goals messages) := by
  unfold reveal
  split
  · exact .of_eq rfl rfl
  · next doc _ =>
    have hgoals : Shows unseen w (if goals then w.replayGoals doc else w) := by
      split
      · exact shows_replayGoals w doc
      · exact .of_eq rfl rfl
    dsimp only
    split
    · exact hgoals.trans (shows_replayMessages _ doc)
    · exact hgoals

theorem shows_setVisibility (w : Workspace κ σ) (showGoals showMessages : Bool) :
    Shows unseen w (w.setVisibility showGoals showMessages) := by
  have hshown :
      Shows unseen w ({ w with showGoals, showMessages }.emit
        (.visibility showGoals showMessages)) :=
    .of_quiet rfl rfl fun _ => rfl
  exact hshown.trans (shows_reveal _ _ _)

theorem shows_report (w : Workspace κ σ) (doc? : Option String) (t : Trouble) :
    Shows unseen w (w.report doc? t) := by
  unfold report
  split <;> exact shows_emit fun _ => rfl

/-! ## Sessions -/

/-- A workspace stays sound with one more session that operations lead to. -/
theorem Sound.putSession (h : w.Sound) (hs : s.Reachable) : (w.putSession doc s).Sound := by
  intro e he
  rcases Sessions.mem_put he with rfl | he
  · exact hs
  · exact h e he

/-- A new session for a document leaves that document unseen. -/
theorem shows_putSession (hs : w.Sound → s.Reachable) : Shows (· = doc) w (w.putSession doc s) := by
  refine ⟨List.prefix_refl _, fun hw => hw.putSession (hs hw),
    fun {other s'} hother hs' => .inr ⟨?_, s', ?_, rfl⟩⟩
  · rw [newEvents_putSession, lastShown?_nil]
  · rwa [session?_putSession_of_ne w s hother] at hs'

/-- A session that is drawn as the one before does not. -/
private theorem shows_putSession_of_snapshot (hs : w.Sound → s'.Reachable)
    (hold : w.session? doc = some s)
    (hsame : s.snapshot = s'.snapshot) : Shows unseen w (w.putSession doc s') := by
  have hput : Shows (· = doc) w (w.putSession doc s') := shows_putSession hs
  refine ⟨hput.grows, hput.sound, fun {other t} _ ht => ?_⟩
  by_cases hother : other = doc
  · subst hother
    rw [session?_putSession_self, Option.some.injEq] at ht
    exact .inr ⟨by rw [newEvents_putSession, lastShown?_nil], s, hold, ht ▸ hsame⟩
  · exact hput.seen hother ht

/-- Passing on notifications shows nothing new. -/
theorem shows_flushNotifications (w : Workspace κ σ) (doc : String) :
    Shows unseen w (w.flushNotifications doc) := by
  unfold flushNotifications
  split
  · exact .of_eq rfl rfl
  · next s hs =>
    have hput : Shows unseen w (w.putSession doc s.takeNotifications.2) :=
      shows_putSession_of_snapshot (fun hw => (hw.reachable hs).operate .takeNotifications) hs rfl
    -- notifications are events that show nothing of the document
    have hraised : ∀ (ns : List Notification) (v : Workspace κ σ),
        Shows unseen v (ns.foldl (fun w n => w.emit (.notification doc n.kind n.message)) v) := by
      intro ns
      induction ns with
      | nil => exact fun v => .of_eq rfl rfl
      | cons n ns ih => exact fun v => (shows_emit fun _ => rfl).trans (ih _)
    exact hput.trans (hraised _ _)

/-- Publishing a document shows it as it is. -/
theorem Shows.publish (h : Shows unseen w w') (doc : String) :
    Shows (fun other => unseen other ∧ other ≠ doc) w (w'.publish doc) := by
  unfold Workspace.publish
  split
  · next hnone =>
    refine ⟨h.grows, h.sound, fun {other s'} hother hs' => ?_⟩
    by_cases hdoc : other = doc
    · rw [hdoc, hnone] at hs'
      exact absurd hs' (by simp)
    · exact h.seen (fun hunseen => hother ⟨hunseen, hdoc⟩) hs'
  · next s hs =>
    -- what is shown last of the document is now its snapshot, and nothing of another one is drawn
    have hemitted :
        Shows (fun other => unseen other ∧ other ≠ doc) w (w'.emit (.snapshot doc s.snapshot)) := by
      have hgrows : w'.events <+: (w'.emit (.snapshot doc s.snapshot)).events :=
        List.prefix_append _ _
      have hnew : w'.newEvents (w'.emit (.snapshot doc s.snapshot)) = [.snapshot doc s.snapshot] :=
        newEvents_of_eq rfl
      refine ⟨h.grows.trans hgrows, h.sound, fun {other s'} hother hs' => ?_⟩
      rw [newEvents_trans h.grows hgrows, hnew, lastShown?_append, lastShown?_singleton,
        EngineEvent.shows?]
      change w'.session? other = some s' at hs'
      by_cases hdoc : other = doc
      · rw [hdoc, hs, Option.some.injEq] at hs'
        rw [if_pos hdoc.symm, hs', Option.some_or]
        exact .inl rfl
      · rw [if_neg (Ne.symm hdoc), Option.none_or]
        exact h.seen (fun hunseen => hother ⟨hunseen, hdoc⟩) hs'
    refine (hemitted.trans ?_).trans (shows_flushNotifications _ doc)
    split
    · exact (shows_replayGoals _ doc).trans (shows_replayMessages _ doc)
    · exact .of_eq rfl rfl

/-! ## Commands -/

/-- An operation on the session of a document leaves that document unseen. -/
theorem shows_onSession {f : Session σ → Except Fault Unit × Session σ}
    (hf : ∀ s : Session σ, s.Reachable → (f s).2.Reachable) (w : Workspace κ σ) (doc : String) :
    Shows (· = doc) w (w.onSession doc f).2 := by
  unfold onSession
  split
  · exact .of_eq rfl rfl
  · next s hs => exact shows_putSession fun hw => hf s (hw.reachable hs)

theorem shows_navigate {f : Session σ → Except Fault Unit × Session σ}
    (hf : ∀ s : Session σ, s.Reachable → (f s).2.Reachable) (w : Workspace κ σ) (doc : String) :
    Shows (· = doc) w (w.navigate doc f).2 := by
  refine shows_onSession (fun s hs => ?_) w doc
  have hafter := hf s hs
  split
  · next s' hok =>
    rw [hok] at hafter
    exact hafter.operate .poll
  · next fault s' herror => rwa [herror] at hafter

theorem shows_editorEvent (w : Workspace κ σ) (doc : String) (kind : EditorEvent) :
    Shows unseen w (w.editorEvent doc kind).2 := by
  unfold editorEvent
  split
  · exact .of_eq rfl rfl
  · cases kind with
    | focus | active | inactive => exact .of_eq rfl rfl
    | unfocus =>
      dsimp only [unfocus]
      split <;> exact .of_eq rfl rfl

/-- A document whose session is closed has nothing to show. -/
theorem shows_retire (w : Workspace κ σ) (doc : String) : Shows unseen w (w.retire doc) := by
  unfold retire
  split
  · exact .of_eq rfl rfl
  · next s hs =>
    refine ⟨List.prefix_refl _, fun hw e he => hw e (List.mem_filter.1 he).1,
      fun {other s'} _ hs' => ?_⟩
    change Sessions.find? (Sessions.erase w.sessions doc) other = some s' at hs'
    by_cases hother : other = doc
    · rw [hother, Sessions.find?_erase_self] at hs'
      exact absurd hs' (by simp)
    · rw [Sessions.find?_erase_of_ne _ hother] at hs'
      exact .inr ⟨by rw [newEvents, List.drop_length, lastShown?_nil], s', hs', rfl⟩

/-- What a poll in vain leaves is drawn as before. -/
private theorem snapshot_poll (h : s.Pumped) (hpoll : s.poll.1 = false) :
    s.poll.2.snapshot = s.snapshot := by
  simp only [Session.poll, Bool.or_eq_false_iff] at hpoll
  obtain ⟨hreceived, htimeout⟩ := hpoll
  simp only [Session.poll]
  have hpumped :
      Session.Pumped { s with link := if s.isAlive then (Link.receive s.link).2 else s.link } :=
    h.of_eq rfl rfl rfl rfl
  rw [Session.checkTimeout_eq_self htimeout, Session.receive_eq_self hreceived,
    hpumped.pump_eq_self]
  rfl

/-- Polling leaves unseen the documents for which something has arrived. -/
private theorem shows_polled (hw : w.Sound) :
    Shows (fun doc => ∃ s, (doc, s) ∈ w.sessions ∧ s.poll.1 = true) w
    { w with sessions := w.sessions.map fun (doc, s) => (doc, s.poll.2) } := by
  refine ⟨List.prefix_refl _, fun _ e he => ?_, fun {doc s'} hdoc hs' => ?_⟩
  · obtain ⟨⟨doc, s⟩, hmem, rfl⟩ := List.mem_map.1 he
    exact (hw (doc, s) hmem).operate .poll
  · change Sessions.find? (w.sessions.map fun (doc, s) => (doc, s.poll.2)) doc = some s' at hs'
    rw [Sessions.find?_map w.sessions fun _ s => s.poll.2, Option.map_eq_some_iff] at hs'
    obtain ⟨s, hs, rfl⟩ := hs'
    -- a session that reports no change was polled in vain, and looks as before
    have hvain : s.poll.1 = false := by
      cases hpoll : s.poll.1 with
      | false => rfl
      | true => exact absurd ⟨s, Sessions.mem_of_find? hs, hpoll⟩ hdoc
    refine .inr ⟨by rw [newEvents, List.drop_length, lastShown?_nil], s, hs, ?_⟩
    exact (snapshot_poll (hw.reachable hs).pumped hvain).symm

/-- Documents that are published are seen. -/
theorem Shows.foldl_publish (docs : List String) (h : Shows unseen w w') :
    Shows (fun doc => unseen doc ∧ doc ∉ docs) w (docs.foldl Workspace.publish w') := by
  induction docs generalizing unseen w' with
  | nil => exact h.mono fun doc hdoc => ⟨hdoc, List.not_mem_nil⟩
  | cons doc docs ih =>
    refine (ih (h.publish doc)).mono fun other hother => ⟨hother.1.1, ?_⟩
    rw [List.mem_cons, not_or]
    exact ⟨hother.1.2, hother.2⟩

theorem shows_foldl_flushNotifications (docs : List String) (w : Workspace κ σ) :
    Shows unseen w (docs.foldl flushNotifications w) := by
  induction docs generalizing w with
  | nil => exact .of_eq rfl rfl
  | cons doc docs ih => exact (shows_flushNotifications w doc).trans (ih _)

/-- Taking in what the provers have answered shows every document that has changed. -/
theorem shows_processFeedbacks (hw : w.Sound) : Shows unseen w w.processFeedbacks := by
  unfold processFeedbacks
  dsimp only
  rw [List.map_map]
  refine Shows.trans ?_ (shows_foldl_flushNotifications _ _)
  refine ((shows_polled hw).foldl_publish _).mono fun doc hdoc => ?_
  obtain ⟨⟨s, hmem, hpoll⟩, hnot⟩ := hdoc
  -- what the poll has changed is among what is published
  refine absurd ?_ hnot
  exact List.mem_filterMap.2 ⟨(doc, s.poll), List.mem_map.2 ⟨(doc, s), hmem, rfl⟩, by simp [hpoll]⟩

/-- The end of the service leaves no document unseen. -/
theorem shows_shutdown (w : Workspace κ σ) : Shows unseen w w.shutdown := by
  refine ⟨List.prefix_refl _, fun _ e he => absurd he List.not_mem_nil, fun {doc s'} _ hs' => ?_⟩
  simp [session?, shutdown, Sessions.find?] at hs'

/-- Closing a session leaves the other documents drawn as before. -/
theorem shows_closeSession (w : Workspace κ σ) (doc : String) :
    Shows unseen w (w.closeSession doc).2 := by
  unfold closeSession
  split
  · exact .of_eq rfl rfl
  · refine (shows_retire w doc).trans ?_
    dsimp only [unfocus]
    split <;> exact .of_eq rfl rfl

variable [Connector κ σ]

/-- Opening a session leaves no document unseen but its own. -/
theorem shows_newSession (w : Workspace κ σ) (doc text : String) :
    Shows (· = doc) w (w.newSession doc text).2 := by
  have hretired : Shows (· = doc) w (w.retire doc) := shows_retire w doc
  unfold newSession
  dsimp only
  split
  · next connector _ => exact hretired.trans (.of_eq rfl rfl)
  · next link connector _ =>
    have hconnected : Shows (· = doc) w { w.retire doc with connector } :=
      hretired.trans (.of_eq rfl rfl)
    have hstarted : Shows (· = doc) { w.retire doc with connector }
        ({ w.retire doc with connector }.putSession doc
          (.start link text (w.retire doc).settings)) :=
      shows_putSession fun _ => .start link text _
    exact (hconnected.trans hstarted).trans (.of_eq rfl rfl)

/-- A command leaves unseen at most the document that it names. -/
theorem shows_dispatch (hw : w.Sound) (c : EditorCommand) :
    Shows (fun doc => c.doc? = some doc) w (w.dispatch c).2 := by
  -- a command for a document touches no other
  have hnamed {doc : String} {w' : Workspace κ σ} (h : Shows (· = doc) w w') :
      Shows (fun other => some doc = some other) w w' :=
    h.mono fun other hother => by rw [hother]
  cases c with
  | newSession doc text => exact hnamed (shows_newSession w doc text)
  | closeSession doc => exact shows_closeSession w doc
  | forward doc => exact hnamed (shows_navigate (fun s hs => hs.operate .forward) w doc)
  | backward doc => exact hnamed (shows_navigate (fun s hs => hs.operate .backward) w doc)
  | toCursor doc position =>
    exact hnamed (shows_navigate (fun s hs => hs.operate (.toCursor position)) w doc)
  | edit doc start stop text =>
    exact hnamed (shows_onSession (fun s hs => hs.operate (.applyEdit start stop text)) w doc)
  | setText doc text =>
    exact hnamed (shows_onSession (fun s hs => hs.operate (.setText text)) w doc)
  | event doc kind => exact shows_editorEvent w doc kind
  | goalVisibility mode => exact shows_setVisibility w _ _
  | messageVisibility mode => exact shows_setVisibility w _ _
  | clearMessages doc =>
    exact hnamed (shows_onSession (fun s hs => hs.operate .clearMessages) w doc)
  | redrawGoals => exact shows_reveal w _ _
  | redrawMessages => exact shows_reveal w _ _
  | processFeedbacks => exact shows_processFeedbacks hw
  | shutdown => exact shows_shutdown w

/-- A command shows the document that it names, whether it succeeds or not. -/
theorem shows_handle (hw : w.Sound) (c : EditorCommand) :
    Shows (fun _ => False) w (w.handle c).2 := by
  have hdispatched := shows_dispatch hw c
  unfold handle
  generalize w.dispatch c = dispatched at hdispatched ⊢
  obtain ⟨result, w'⟩ := dispatched
  cases hdoc : c.doc? with
  | none =>
    have hall : Shows (fun _ => False) w w' := hdispatched.mono fun doc hnamed =>
      by simp [hdoc] at hnamed
    cases result with
    | ok => exact hall
    | error t => exact hall.trans (shows_report w' none t)
  | some doc =>
    -- the document that is named is drawn afterwards in any case
    have hpublished {v : Workspace κ σ} (h : Shows (fun other => c.doc? = some other) w v) :
        Shows (fun _ => False) w (v.publish doc) :=
      (h.publish doc).mono fun other hother => hother.2 (Option.some.inj (hother.1.symm.trans hdoc))
    cases result with
    | ok => exact hpublished hdispatched
    | error t => exact hpublished (hdispatched.trans (shows_report w' (some doc) t))

end Workspace

end ProofDesk
