import ProofDesk.Editor.Command
import ProofDesk.Editor.Event
import ProofDesk.Viewer.Message
import ProofDesk.Workspace.Sessions

/-!
# A workspace

A workspace holds one session per open document and carries out the commands of the editor and of
the viewers. What the editor is to hear is collected as events. After a command on a document its
snapshot is published, whether the command succeeded or not, and with it the goals and messages of
the document in focus.

Links of sessions that have been closed are handed back through `retired`, so that whoever opened
them can see that what was sent is written and the prover ends.
-/

namespace ProofDesk

/-- Opens links whose state is `σ`; `κ` is what the opener remembers. -/
class Connector (κ : Type) (σ : outParam Type) where
  /-- Open a link for a new session, or say why that fails. -/
  connect : Settings → κ → Except String σ × κ

/-- Whether to go on reading commands. -/
inductive Flow where
  | proceed | shutdown
  deriving Repr, DecidableEq, Inhabited

/-- The open documents and what is shown of them. -/
structure Workspace (κ σ : Type) where
  settings : Settings
  connector : κ
  sessions : Sessions σ
  focused : Option String
  /-- The documents that some window shows. -/
  active : List String
  showGoals : Bool
  showMessages : Bool
  /-- Events that nobody has taken yet. -/
  events : List EngineEvent
  /-- What viewers were told last. -/
  lastViewer : Option ViewerMessage
  /-- The links of closed sessions that nobody has taken yet. -/
  retired : List σ

namespace Workspace

variable {κ σ : Type}

/-- A workspace without documents. -/
def empty (settings : Settings) (connector : κ) : Workspace κ σ :=
  { settings, connector, sessions := [], focused := none, active := [], showGoals := true,
    showMessages := true, events := [], lastViewer := none, retired := [] }

/-- The session of a document. -/
def session? (w : Workspace κ σ) (doc : String) : Option (Session σ) :=
  w.sessions.find? doc

/-- Take the events since the last time. -/
def takeEvents (w : Workspace κ σ) : List EngineEvent × Workspace κ σ :=
  (w.events, { w with events := [] })

/-- Take the links of sessions that were closed since the last time. -/
def takeRetired (w : Workspace κ σ) : List σ × Workspace κ σ :=
  (w.retired, { w with retired := [] })

/-- Add an event. -/
def emit (w : Workspace κ σ) (e : EngineEvent) : Workspace κ σ :=
  { w with events := w.events ++ [e] }

/-- Replace the session of a document. -/
def putSession (w : Workspace κ σ) (doc : String) (s : Session σ) : Workspace κ σ :=
  { w with sessions := w.sessions.put doc s }

/-- The trouble that a document has no session. -/
def noSession (doc : String) : Trouble :=
  .session (.invalidOperation s!"no session for {doc}")

/-! ## Publishing -/

/-- Show the goals of a document, unless goals are hidden. -/
def replayGoals (w : Workspace κ σ) (doc : String) : Workspace κ σ :=
  match w.session? doc with
  | some s => if w.showGoals then w.emit (.goals doc (renderGoals s.goals)) else w
  | none => w

/-- Show the messages of a document, unless messages are hidden. -/
def replayMessages (w : Workspace κ σ) (doc : String) : Workspace κ σ :=
  match w.session? doc with
  | some s => if w.showMessages then w.emit (.messages doc s.messages) else w
  | none => w

/-- Pass on the notifications that the session of a document has raised. -/
def flushNotifications (w : Workspace κ σ) (doc : String) : Workspace κ σ :=
  match w.session? doc with
  | none => w
  | some s =>
    let (raised, s) := s.takeNotifications
    raised.foldl (fun w n => w.emit (.notification doc n.kind n.message)) (w.putSession doc s)

/-- Show the state of a document, with its goals and messages if it is in focus. -/
def publish (w : Workspace κ σ) (doc : String) : Workspace κ σ :=
  match w.session? doc with
  | none => w
  | some s =>
    let w := w.emit (.snapshot doc s.snapshot)
    let w := if w.focused = some doc then (w.replayGoals doc).replayMessages doc else w
    w.flushNotifications doc

/-- Report why a command failed. A sentence that blocks progress is worth a notification, all else
an error. -/
def report (w : Workspace κ σ) (doc? : Option String) (t : Trouble) : Workspace κ σ :=
  match doc?, t with
  | some doc, .session .blocked => w.emit (.notification doc .blocked t.message)
  | _, _ => w.emit (.error t.message)

/-- Report a line that is no command. -/
def reportMalformed (w : Workspace κ σ) (reason : String) : Workspace κ σ :=
  w.emit (.error s!"Malformed command: {reason}")

/-! ## Focus and visibility -/

/-- Put a document in focus; it counts as shown. -/
def focus (w : Workspace κ σ) (doc : String) : Workspace κ σ :=
  { w with active := w.active.insert doc, focused := some doc }

/-- Take a document out of focus, if it is in it. -/
def unfocus (w : Workspace κ σ) (doc : String) : Workspace κ σ :=
  if w.focused = some doc then { w with focused := none } else w

/-- Apply an event in the editor's windows. -/
def editorEvent (w : Workspace κ σ) (doc : String) (kind : EditorEvent) :
    Except Trouble Unit × Workspace κ σ :=
  if (w.session? doc).isNone then (.error (noSession doc), w)
  else
    (.ok (), match kind with
      | .focus => w.focus doc
      | .unfocus => w.unfocus doc
      | .active => { w with active := w.active.insert doc }
      | .inactive => { w with active := w.active.erase doc })

/-- Show what is revealed of the document in focus. -/
def reveal (w : Workspace κ σ) (goals messages : Bool) : Workspace κ σ :=
  match w.focused with
  | none => w
  | some doc =>
    let w := if goals then w.replayGoals doc else w
    if messages then w.replayMessages doc else w

/-- Show or hide the panels. -/
def setVisibility (w : Workspace κ σ) (showGoals showMessages : Bool) : Workspace κ σ :=
  let shown := { w with showGoals, showMessages }.emit (.visibility showGoals showMessages)
  shown.reveal (showGoals && !w.showGoals) (showMessages && !w.showMessages)

/-- Show or hide the goals. -/
def setGoalVisibility (w : Workspace κ σ) (mode : VisibilityMode) : Workspace κ σ :=
  w.setVisibility (mode.apply w.showGoals) w.showMessages

/-- Show or hide the messages. -/
def setMessageVisibility (w : Workspace κ σ) (mode : VisibilityMode) : Workspace κ σ :=
  w.setVisibility w.showGoals (mode.apply w.showMessages)

/-- Apply a command from a viewer. -/
def handleViewer (w : Workspace κ σ) : ViewerCommand → Workspace κ σ
  | .goalVisibility mode => w.setGoalVisibility mode
  | .messageVisibility mode => w.setMessageVisibility mode
  | .clearMessages =>
    match w.focused with
    | none => w
    | some doc =>
      let w := match w.session? doc with
        | some s => w.putSession doc s.clearMessages
        | none => w
      w.replayMessages doc

/-- What viewers are to show. -/
def viewerMessage (w : Workspace κ σ) : ViewerMessage :=
  match w.focused.bind fun doc => (w.session? doc).map (doc, ·) with
  | none => .idle
  | some (doc, s) =>
    .state {
      doc
      status := s.status
      busy := s.isBusy
      goals := if w.showGoals then renderGoals s.goals else ""
      messages := if w.showMessages then s.messages else []
      showGoals := w.showGoals
      showMessages := w.showMessages }

/-- What viewers are to show, if that has changed since the last time. -/
def takeViewerUpdate (w : Workspace κ σ) : Option ViewerMessage × Workspace κ σ :=
  let message := w.viewerMessage
  if w.lastViewer = some message then (none, w)
  else (some message, { w with lastViewer := some message })

/-! ## Commands -/

/-- Let time pass for the calls that wait for answers. -/
def elapse (w : Workspace κ σ) (milliseconds : Nat) : Workspace κ σ :=
  { w with sessions := w.sessions.map fun (doc, s) => (doc, s.elapse milliseconds) }

variable [Link σ]

/-- Run an operation on the session of a document. -/
def onSession (w : Workspace κ σ) (doc : String)
    (f : Session σ → Except Fault Unit × Session σ) : Except Trouble Unit × Workspace κ σ :=
  match w.session? doc with
  | none => (.error (noSession doc), w)
  | some s =>
    let (result, s) := f s
    (result.mapError .session, w.putSession doc s)

/-- Run a navigation on the session of a document, then take in what the prover has answered
already. -/
def navigate (w : Workspace κ σ) (doc : String)
    (f : Session σ → Except Fault Unit × Session σ) : Except Trouble Unit × Workspace κ σ :=
  w.onSession doc fun s =>
    match f s with
    | (.ok (), s) => (.ok (), s.poll.2)
    | (.error fault, s) => (.error fault, s)

/-- Close the session of a document, if it has one. -/
def retire (w : Workspace κ σ) (doc : String) : Workspace κ σ :=
  match w.session? doc with
  | none => w
  | some s => { w with sessions := w.sessions.erase doc, retired := w.retired ++ [s.close.link] }

/-- Take in what the provers have answered and publish the documents that changed. -/
def processFeedbacks (w : Workspace κ σ) : Workspace κ σ :=
  let polled := w.sessions.map fun (doc, s) => (doc, s.poll)
  let changed := polled.filterMap fun (doc, changed, _) => if changed then some doc else none
  let w := { w with sessions := polled.map fun (doc, _, s) => (doc, s) }
  let w := changed.foldl publish w
  -- a session may have something to say although nothing visible has changed
  w.sessions.docs.foldl flushNotifications w

/-- Close all sessions. -/
def shutdown (w : Workspace κ σ) : Workspace κ σ :=
  { w with
    sessions := []
    focused := none
    active := []
    retired := w.retired ++ w.sessions.map fun (_, s) => s.close.link }

variable [Connector κ σ]

/-- Open a session on a text in place of the one that the document has, and put the document in
focus. -/
def newSession (w : Workspace κ σ) (doc text : String) : Except Trouble Unit × Workspace κ σ :=
  let w := w.retire doc
  match Connector.connect w.settings w.connector with
  | (.error reason, connector) => (.error (.io reason), { w with connector })
  | (.ok link, connector) =>
    (.ok (), ({ w with connector }.putSession doc (.start link text w.settings)).focus doc)

/-- Close the session of a document. -/
def closeSession (w : Workspace κ σ) (doc : String) : Except Trouble Unit × Workspace κ σ :=
  if (w.session? doc).isNone then (.error (noSession doc), w)
  else
    let w := w.retire doc
    (.ok (), { w with active := w.active.erase doc }.unfocus doc)

/-- Carry out a command, without publishing the document that it names. -/
def dispatch (w : Workspace κ σ) : EditorCommand → Except Trouble Unit × Workspace κ σ
  | .newSession doc text => w.newSession doc text
  | .closeSession doc => w.closeSession doc
  | .forward doc => w.navigate doc Session.forward
  | .backward doc => w.navigate doc Session.backward
  | .toCursor doc position => w.navigate doc (·.toCursor position)
  | .edit doc start stop text =>
    w.onSession doc fun s =>
      let (result, s) := s.applyEdit start stop text
      (result.map fun _ => (), s)
  | .setText doc text => w.onSession doc fun s => (.ok (), (s.setText text).2)
  | .event doc kind => w.editorEvent doc kind
  | .goalVisibility mode => (.ok (), w.setGoalVisibility mode)
  | .messageVisibility mode => (.ok (), w.setMessageVisibility mode)
  | .clearMessages doc => w.onSession doc fun s => (.ok (), s.clearMessages)
  | .redrawGoals => (.ok (), w.reveal true false)
  | .redrawMessages => (.ok (), w.reveal false true)
  | .processFeedbacks => (.ok (), w.processFeedbacks)
  | .shutdown => (.ok (), w.shutdown)

/-- Carry out a command, report its failure, and publish the document that it names. -/
def handle (w : Workspace κ σ) (c : EditorCommand) : Flow × Workspace κ σ :=
  let (result, w) := w.dispatch c
  let w := match result with
    | .ok () => w
    | .error t => w.report c.doc? t
  let w := match c.doc? with
    | some doc => w.publish doc
    | none => w
  (if c = .shutdown then .shutdown else .proceed, w)

end Workspace

end ProofDesk
