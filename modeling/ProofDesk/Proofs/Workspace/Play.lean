import ProofDesk.Proofs.Workspace.Run

/-!
# Turns of a workspace

A workspace is taken through turns: an action, before which whoever opens links may have come into
any state, something done besides, news on the link of one document, and the sessions coming into
another order, for nothing says in which order they are polled. Most of what a turn does happens
inside sessions and in events, and leaves alone which documents have sessions, what is in focus and
what is shown (`Keeps`); only four commands rearrange these (`EditorCommand.rearranges`).
-/

namespace ProofDesk

/-- Whether a command changes which documents have sessions, what is in focus or what is shown. -/
def EditorCommand.rearranges : EditorCommand → Bool
  | newSession .. | closeSession _ | event .. | shutdown => true
  | _ => false

/-- Whether an event draws a panel, or shows or hides one. -/
def EngineEvent.isPanel : EngineEvent → Bool
  | goals .. | messages .. | visibility .. => true
  | _ => false

/-- Another order of sessions. -/
structure Reordering (σ : Type) where
  apply : Sessions σ → Sessions σ
  perm : ∀ ss, (apply ss).Perm ss

namespace Workspace

variable {κ σ : Type}

/-- What a workspace is taken through next. -/
inductive Turn (κ σ : Type) where
  /-- An action, with whoever opens links in some state. -/
  | act (connector : κ) (a : Action)
  | aside (a : Aside)
  /-- Something happens on the link of a document. -/
  | prover (doc : String) (news : σ → σ)
  | reorder (r : Reordering σ)

/-- The workspace after something has happened on the link of a document. -/
def hear (w : Workspace κ σ) (doc : String) (news : σ → σ) : Workspace κ σ :=
  { w with sessions :=
    w.sessions.map fun (d, s) => (d, if d = doc then { s with link := news s.link } else s) }

/-- The workspace with its sessions in another order. -/
def reorder (w : Workspace κ σ) (r : Reordering σ) : Workspace κ σ :=
  { w with sessions := r.apply w.sessions }

section Play

variable [Link σ] [Connector κ σ]

/-- The workspace after a turn. -/
def turn (w : Workspace κ σ) : Turn κ σ → Workspace κ σ
  | .act connector a => { w with connector }.carryOut a
  | .aside a => w.aside a
  | .prover doc news => w.hear doc news
  | .reorder r => w.reorder r

/-- The workspace after turns. -/
def play (w : Workspace κ σ) (ts : List (Turn κ σ)) : Workspace κ σ :=
  ts.foldl turn w

@[simp] theorem play_nil (w : Workspace κ σ) : w.play [] = w := rfl

@[simp] theorem play_cons (w : Workspace κ σ) (t : Turn κ σ) (ts : List (Turn κ σ)) :
    w.play (t :: ts) = (w.turn t).play ts := rfl

/-- A run that goes on by a turn ends with that turn. -/
theorem play_concat (w : Workspace κ σ) (ts : List (Turn κ σ)) (t : Turn κ σ) :
    w.play (ts ++ [t]) = (w.play ts).turn t := by
  rw [play, List.foldl_append]
  rfl

end Play

/-! ## Panels -/

/-- Panels are drawn, shown or hidden, and nothing else happens. -/
structure Draws (w w' : Workspace κ σ) : Prop where
  events : ∃ es, w'.events = w.events ++ es ∧ ∀ e ∈ es, e.isPanel = true
  settings : w'.settings = w.settings
  sessions : w'.sessions = w.sessions
  focused : w'.focused = w.focused
  active : w'.active = w.active
  retired : w'.retired = w.retired

variable {w w' w'' : Workspace κ σ} {doc : String} {s : Session σ}

theorem Draws.refl (w : Workspace κ σ) : Draws w w :=
  ⟨⟨[], by simp⟩, rfl, rfl, rfl, rfl, rfl⟩

theorem Draws.trans (h : Draws w w') (h' : Draws w' w'') : Draws w w'' := by
  obtain ⟨es, hes, hpanels⟩ := h.events
  obtain ⟨es', hes', hpanels'⟩ := h'.events
  refine ⟨⟨es ++ es', by rw [hes', hes, List.append_assoc], fun e he => ?_⟩,
    h'.settings.trans h.settings, h'.sessions.trans h.sessions, h'.focused.trans h.focused,
    h'.active.trans h.active,
    h'.retired.trans h.retired⟩
  exact (List.mem_append.1 he).elim (hpanels e) (hpanels' e)

/-- An event that shows a panel only draws. -/
theorem draws_emit (w : Workspace κ σ) {e : EngineEvent} (he : e.isPanel = true) :
    Draws w (w.emit e) :=
  ⟨⟨[e], rfl, by simpa using he⟩, rfl, rfl, rfl, rfl, rfl⟩

/-- Showing the goals again only draws. -/
theorem draws_replayGoals (w : Workspace κ σ) (doc : String) : Draws w (w.replayGoals doc) := by
  unfold replayGoals
  split
  · split
    · exact draws_emit w rfl
    · exact .refl w
  · exact .refl w

/-- Showing the messages again only draws. -/
theorem draws_replayMessages (w : Workspace κ σ) (doc : String) :
    Draws w (w.replayMessages doc) := by
  unfold replayMessages
  split
  · split
    · exact draws_emit w rfl
    · exact .refl w
  · exact .refl w

/-- Showing what has become visible only draws. -/
theorem draws_reveal (w : Workspace κ σ) (goals messages : Bool) :
    Draws w (w.reveal goals messages) := by
  unfold reveal
  split
  · exact .refl w
  · next doc _ =>
    have hgoals : Draws w (if goals then w.replayGoals doc else w) := by
      split
      · exact draws_replayGoals w doc
      · exact .refl w
    dsimp only
    split
    · exact hgoals.trans (draws_replayMessages _ doc)
    · exact hgoals

/-- Showing or hiding panels only draws. -/
theorem draws_setVisibility (w : Workspace κ σ) (showGoals showMessages : Bool) :
    Draws w (w.setVisibility showGoals showMessages) := by
  have hshown :
      Draws w ({ w with showGoals, showMessages }.emit (.visibility showGoals showMessages)) :=
    ⟨⟨_, rfl, by simp [EngineEvent.isPanel]⟩, rfl, rfl, rfl, rfl, rfl⟩
  exact hshown.trans (draws_reveal _ _ _)

/-! ## What is left in place -/

/-- The same documents have sessions, and the same ones are in focus, are shown and have been
closed. -/
structure Keeps (w w' : Workspace κ σ) : Prop where
  settings : w'.settings = w.settings
  docs : w'.sessions.docs = w.sessions.docs
  focused : w'.focused = w.focused
  active : w'.active = w.active
  retired : w'.retired = w.retired

/-- A document has no session just when none is listed for it. -/
theorem session?_eq_none_iff (w : Workspace κ σ) (doc : String) :
    w.session? doc = none ↔ doc ∉ w.sessions.docs :=
  Sessions.find?_eq_none_iff w.sessions doc

theorem Keeps.refl (w : Workspace κ σ) : Keeps w w :=
  ⟨rfl, rfl, rfl, rfl, rfl⟩

theorem Keeps.trans (h : Keeps w w') (h' : Keeps w' w'') : Keeps w w'' :=
  ⟨h'.settings.trans h.settings, h'.docs.trans h.docs, h'.focused.trans h.focused,
    h'.active.trans h.active, h'.retired.trans h.retired⟩

/-- Where all is left in place a document has a session just when it had one. -/
theorem Keeps.session?_eq_none_iff (h : Keeps w w') (doc : String) :
    w'.session? doc = none ↔ w.session? doc = none := by
  rw [Workspace.session?_eq_none_iff, Workspace.session?_eq_none_iff, h.docs]

/-- Drawing panels leaves all in place. -/
theorem Draws.keeps (h : Draws w w') : Keeps w w' :=
  ⟨h.settings, by rw [h.sessions], h.focused, h.active, h.retired⟩

/-- What leaves all in place each time leaves it in place as often as it is done. -/
theorem Keeps.foldl {α : Type} {f : Workspace κ σ → α → Workspace κ σ}
    (hf : ∀ w a, Keeps w (f w a)) (as : List α) (w : Workspace κ σ) : Keeps w (as.foldl f w) := by
  induction as generalizing w with
  | nil => exact .refl w
  | cons a as ih => exact (hf w a).trans (ih _)

theorem keeps_emit (w : Workspace κ σ) (e : EngineEvent) : Keeps w (w.emit e) :=
  ⟨rfl, rfl, rfl, rfl, rfl⟩

/-- A session in place of another. -/
theorem keeps_putSession (hs : w.session? doc = some s) (s' : Session σ) :
    Keeps w (w.putSession doc s') :=
  ⟨rfl, Sessions.docs_put_of_mem (Sessions.mem_docs_of_find? hs) s', rfl, rfl, rfl⟩

theorem keeps_flushNotifications (w : Workspace κ σ) (doc : String) :
    Keeps w (w.flushNotifications doc) := by
  unfold flushNotifications
  split
  · exact .refl w
  · next hs => exact (keeps_putSession hs _).trans (.foldl (fun w n => keeps_emit w _) _ _)

theorem keeps_publish (w : Workspace κ σ) (doc : String) : Keeps w (w.publish doc) := by
  unfold publish
  split
  · exact .refl w
  · next s _ =>
    refine ((keeps_emit w (.snapshot doc s.snapshot)).trans ?_).trans
      (keeps_flushNotifications _ doc)
    split
    · exact ((draws_replayGoals _ doc).trans (draws_replayMessages _ doc)).keeps
    · exact .refl _

/-- The workspace with the document that a command names published, where it names one. -/
def publishNamed (w : Workspace κ σ) (c : EditorCommand) : Workspace κ σ :=
  c.doc?.elim w w.publish

theorem keeps_publishNamed (w : Workspace κ σ) (c : EditorCommand) :
    Keeps w (w.publishNamed c) := by
  unfold publishNamed
  cases c.doc? with
  | none => exact .refl w
  | some doc => exact keeps_publish w doc

theorem keeps_report (w : Workspace κ σ) (doc? : Option String) (t : Trouble) :
    Keeps w (w.report doc? t) := by
  unfold report
  split <;> exact keeps_emit ..

/-- No viewer opens or closes a session or moves the focus. -/
theorem keeps_handleViewer (w : Workspace κ σ) (c : ViewerCommand) :
    Keeps w (w.handleViewer c) := by
  cases c with
  | goalVisibility mode => exact (draws_setVisibility ..).keeps
  | messageVisibility mode => exact (draws_setVisibility ..).keeps
  | clearMessages =>
    simp only [handleViewer]
    split
    · exact .refl w
    · refine Keeps.trans ?_ (draws_replayMessages _ _).keeps
      split
      · next hs => exact keeps_putSession hs _
      · exact .refl w

theorem keeps_hear (w : Workspace κ σ) (doc : String) (news : σ → σ) : Keeps w (w.hear doc news) :=
  ⟨rfl, Sessions.docs_map w.sessions fun d s => if d = doc then { s with link := news s.link }
    else s, rfl, rfl, rfl⟩

/-- Using a session opens and closes none and moves no focus. -/
theorem keeps_onSession (w : Workspace κ σ) (doc : String)
    (f : Session σ → Except Fault Unit × Session σ) :
    Keeps w (w.onSession doc f).2 := by
  unfold onSession
  split
  · exact .refl w
  · next hs => exact keeps_putSession hs _

/-- Events in the editor's windows change at most what is in focus and what is shown. -/
theorem exists_editorEvent_eq (w : Workspace κ σ) (doc : String) (kind : EditorEvent) :
    ∃ focused active, (w.editorEvent doc kind).2 = { w with focused, active } := by
  unfold editorEvent
  split
  · exact ⟨_, _, rfl⟩
  · cases kind with
    | focus | active | inactive => exact ⟨_, _, rfl⟩
    | unfocus =>
      dsimp only [unfocus]
      split <;> exact ⟨_, _, rfl⟩

variable [Link σ]

/-- What closing the session of a document comes to, whether there is one or not. -/
theorem retire_eq (w : Workspace κ σ) (doc : String) :
    w.retire doc =
      { w with
        sessions := w.sessions.erase doc
        retired := w.retired ++ (w.session? doc).toList.map (·.close.link) } := by
  unfold retire
  split
  · next hnone =>
    rw [Sessions.erase_eq_self ((session?_eq_none_iff w doc).1 hnone), hnone,
      Option.toList_none, List.map_nil, List.append_nil]
  · next hs => rw [hs, Option.toList_some, List.map_singleton]

/-- What a command to close a session comes to. -/
theorem closeSession_eq (w : Workspace κ σ) (doc : String) :
    w.closeSession doc =
      if (w.session? doc).isNone then (.error (noSession doc), w)
      else
        (.ok (),
          { w.retire doc with
            active := w.active.erase doc
            focused := if w.focused = some doc then none else w.focused }) := by
  unfold closeSession unfocus
  rw [retire_eq]
  dsimp only
  split
  · rfl
  · split <;> rfl

/-- A session that was given up is gone. -/
theorem session?_retire_self (w : Workspace κ σ) (doc : String) :
    (w.retire doc).session? doc = none := by
  rw [retire_eq]
  exact Sessions.find?_erase_self ..

/-- Giving up the session of a document leaves the others. -/
theorem session?_retire_of_ne {other : String} (w : Workspace κ σ) (h : other ≠ doc) :
    (w.retire doc).session? other = w.session? other := by
  rw [retire_eq]
  exact Sessions.find?_erase_of_ne _ h

theorem keeps_processFeedbacks (w : Workspace κ σ) : Keeps w w.processFeedbacks := by
  have hpolled : Keeps w { w with sessions := w.sessions.map fun (doc, s) => (doc, s.poll.2) } :=
    ⟨rfl, Sessions.docs_map w.sessions fun _ s => s.poll.2, rfl, rfl, rfl⟩
  unfold processFeedbacks
  dsimp only
  rw [List.map_map]
  exact (hpolled.trans (.foldl keeps_publish _ _)).trans (.foldl keeps_flushNotifications _ _)

variable [Connector κ σ]

section Opening

variable {text reason : String} {connector : κ} {link : σ}

/-- A new session that cannot be opened leaves the document without one. -/
theorem newSession_of_error (h : Connector.connect w.settings w.connector =
      (.error reason, connector)) :
    w.newSession doc text = (.error (.io reason), { w.retire doc with connector }) := by
  have hopened : Connector.connect (w.retire doc).settings (w.retire doc).connector =
      (.error reason, connector) := by
    rw [retire_eq]
    exact h
  unfold newSession
  dsimp only
  rw [hopened]

/-- A new session takes the place of the one that the document has, and the document comes into
focus. -/
theorem newSession_of_ok (h : Connector.connect w.settings w.connector = (.ok link, connector)) :
    w.newSession doc text =
      (.ok (),
        ({ w.retire doc with connector }.putSession doc
          (.start link text w.settings)).focus doc) := by
  have hsettings : (w.retire doc).settings = w.settings := by rw [retire_eq]
  have hopened : Connector.connect (w.retire doc).settings (w.retire doc).connector =
      (.ok link, connector) := by
    rw [retire_eq]
    exact h
  unfold newSession
  dsimp only
  rw [hopened, ← hsettings]

/-- Opening a session gives up the old one, and puts a new one in if a link is opened. -/
theorem newSession_cases (w : Workspace κ σ) (doc text : String) :
    (∃ reason connector, Connector.connect w.settings w.connector = (.error reason, connector) ∧
      w.newSession doc text = (.error (.io reason), { w.retire doc with connector })) ∨
    ∃ link connector, Connector.connect w.settings w.connector = (.ok link, connector) ∧
      w.newSession doc text =
        (.ok (),
          ({ w.retire doc with connector }.putSession doc
            (.start link text w.settings)).focus doc) := by
  cases hopened : Connector.connect w.settings w.connector with
  | mk result connector =>
    cases result with
    | error reason => exact .inl ⟨reason, connector, rfl, newSession_of_error hopened⟩
    | ok link => exact .inr ⟨link, connector, rfl, newSession_of_ok hopened⟩

end Opening

/-- A command that rearranges nothing leaves all in place. -/
theorem keeps_dispatch (w : Workspace κ σ) {c : EditorCommand} (hc : c.rearranges = false) :
    Keeps w (w.dispatch c).2 := by
  cases c with
  | newSession | closeSession | event | shutdown => simp [EditorCommand.rearranges] at hc
  | forward | backward | toCursor | edit | setText | clearMessages => exact keeps_onSession ..
  | goalVisibility | messageVisibility => exact (draws_setVisibility ..).keeps
  | redrawGoals | redrawMessages => exact (draws_reveal ..).keeps
  | processFeedbacks => exact keeps_processFeedbacks w

section Handling

variable {c : EditorCommand} {t : Trouble}

/-- What becomes of a command that is carried out. -/
theorem handle_of_ok (h : w.dispatch c = (.ok (), w')) : (w.handle c).2 = w'.publishNamed c := by
  unfold handle publishNamed
  rw [h]
  cases c.doc? <;> rfl

/-- What becomes of a command that fails. -/
theorem handle_of_error (h : w.dispatch c = (.error t, w')) :
    (w.handle c).2 = (w'.report c.doc? t).publishNamed c := by
  unfold handle publishNamed
  rw [h]
  cases c.doc? <;> rfl

end Handling

/-- Reporting and publishing leave all in place. -/
theorem keeps_handle (w : Workspace κ σ) (c : EditorCommand) :
    Keeps (w.dispatch c).2 (w.handle c).2 := by
  cases hdispatched : w.dispatch c with
  | mk result w' =>
    cases result with
    | ok =>
      rw [handle_of_ok hdispatched]
      exact keeps_publishNamed w' c
    | error t =>
      rw [handle_of_error hdispatched]
      exact (keeps_report w' c.doc? t).trans (keeps_publishNamed _ c)

/-- An action that does not rearrange documents opens and closes no session and moves no focus. -/
theorem keeps_carryOut (w : Workspace κ σ) {a : Action}
    (ha : ∀ c, a = .editor c → c.rearranges = false) :
    Keeps w (w.carryOut a) := by
  cases a with
  | editor c => exact (keeps_dispatch w (ha c rfl)).trans (keeps_handle w c)
  | malformed reason => exact keeps_emit ..
  | viewer c => exact keeps_handleViewer w c
  | poll => exact keeps_processFeedbacks w

end Workspace

end ProofDesk
