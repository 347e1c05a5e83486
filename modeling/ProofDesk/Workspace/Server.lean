import ProofDesk.Text.Input
import ProofDesk.Workspace.Basic

/-!
# Serving an editor

The engine reads lines from the editor and writes events. Blank lines are passed over, a line that
is not UTF-8 ends the service with an error, and the end of the input shuts the workspace down.

After each line, command of a viewer or poll the events are written, and viewers are told what has
changed and which commands have failed.
-/

namespace ProofDesk

/-- A workspace that serves an editor. -/
structure Server (κ σ : Type) where
  workspace : Workspace κ σ
  /-- The bytes of the line that has not ended yet. -/
  partialLine : List UInt8
  /-- Events for the editor that nobody has taken yet. -/
  written : List EngineEvent
  /-- Messages for viewers that nobody has taken yet. -/
  broadcast : List ViewerMessage
  /-- How the service ended, if it has. -/
  result : Option (Except Trouble Unit)

namespace Server

variable {κ σ : Type}

/-- Begin to serve. -/
def start (workspace : Workspace κ σ) : Server κ σ :=
  { workspace, partialLine := [], written := [], broadcast := [], result := none }

/-- Whether the service goes on. -/
def isRunning (s : Server κ σ) : Bool :=
  s.result.isNone

/-- The messages that tell viewers which commands failed. -/
def errorMessages (events : List EngineEvent) : List ViewerMessage :=
  events.filterMap fun
    | .error message => some (.error message)
    | _ => none

/-- Write the events of the workspace and tell the viewers. -/
def flush (s : Server κ σ) : Server κ σ :=
  let (events, w) := s.workspace.takeEvents
  let (update, w) := w.takeViewerUpdate
  { s with
    workspace := w
    written := s.written ++ events
    broadcast := s.broadcast ++ update.toList ++ errorMessages events }

/-- Take the events that have been written since the last time. -/
def takeWritten (s : Server κ σ) : List EngineEvent × Server κ σ :=
  (s.written, { s with written := [] })

/-- Take the messages for viewers since the last time. -/
def takeBroadcast (s : Server κ σ) : List ViewerMessage × Server κ σ :=
  (s.broadcast, { s with broadcast := [] })

/-- Apply a command from a viewer. -/
def viewer (s : Server κ σ) (c : ViewerCommand) : Server κ σ :=
  if s.isRunning then { s with workspace := s.workspace.handleViewer c }.flush else s

/-- Let time pass. -/
def elapse (s : Server κ σ) (milliseconds : Nat) : Server κ σ :=
  { s with workspace := s.workspace.elapse milliseconds }

variable [Link σ]

/-- Take in what the provers have answered. -/
def tick (s : Server κ σ) : Server κ σ :=
  if s.isRunning then { s with workspace := s.workspace.processFeedbacks }.flush else s

variable [Connector κ σ]

/-- Carry out a line. -/
def line (s : Server κ σ) (text : String) : Server κ σ :=
  if (Text.trim text.toList).isEmpty then s
  else
    let (flow, w) := match EditorCommand.parse? text with
      | some command => s.workspace.handle command
      | none => (.proceed, s.workspace.reportMalformed "the line is not a command")
    let s := { s with workspace := w }.flush
    match flow with
    | .proceed => s
    | .shutdown => { s with result := some (.ok ()) }

/-- Carry out the bytes of a line, if the service still goes on. -/
def lineBytes (s : Server κ σ) (bs : List UInt8) : Server κ σ :=
  if s.isRunning then
    match Text.lineText bs with
    | .ok text => s.line text
    | .error e => { s with result := some (.error (.io e.message)) }
  else s

/-- Take in further bytes of the input. -/
def feed (s : Server κ σ) (bs : List UInt8) : Server κ σ :=
  let (lines, rest) := Text.cutLines (s.partialLine ++ bs)
  lines.foldl lineBytes { s with partialLine := rest }

/-- Take note that the input has ended: an unfinished line is carried out, and without one all is
shut down. -/
def endOfInput (s : Server κ σ) : Server κ σ :=
  if s.isRunning then
    if s.partialLine.isEmpty then
      let s := { s with workspace := s.workspace.shutdown }.flush
      { s with result := some (.ok ()) }
    else { s with partialLine := [] }.lineBytes s.partialLine
  else s

end Server

end ProofDesk
