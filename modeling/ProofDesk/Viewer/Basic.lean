import ProofDesk.Viewer.Message

/-!
# Viewers

A viewer remembers what the engine told it last, which of its two panes scrolls and how far each is
scrolled. Messages from the engine and keys of the user change it, and keys also leave commands for
the engine.
-/

namespace ProofDesk

/-- The panes of a viewer. -/
inductive Pane where
  | goals | messages
  deriving Repr, DecidableEq, Inhabited

/-- The pane that is not this one. -/
def Pane.other : Pane → Pane
  | goals => messages
  | messages => goals

/-- A key of the keyboard. -/
inductive Key where
  | char (c : Char)
  | escape | tab | up | down
  /-- A key that means nothing here. -/
  | other
  deriving Repr, DecidableEq, Inhabited

/-- What happened to a key. -/
inductive KeyAction where
  | press | repeat | release
  deriving Repr, DecidableEq, Inhabited

/-- An event of the terminal. -/
inductive TerminalEvent where
  | key (key : Key) (control : Bool) (action : KeyAction)
  /-- An event that changes nothing: the window was resized, or text was pasted into it. -/
  | other
  deriving Repr, DecidableEq, Inhabited

/-- What a viewer holds. -/
structure Viewer where
  /-- What the engine said of the document in focus. -/
  state : Option ViewerState
  /-- The last failure that the engine reported and that still counts. -/
  error : Option String
  /-- Whether the engine is there. -/
  connected : Bool
  shouldExit : Bool
  /-- The pane that scrolls. -/
  pane : Pane
  /-- How many lines each pane is scrolled. -/
  goalsScroll : UInt16
  messagesScroll : UInt16
  /-- Commands for the engine that nobody has taken yet. -/
  commands : List ViewerCommand
  deriving Repr, DecidableEq, Inhabited

namespace Viewer

/-- A viewer that has heard nothing yet. -/
def start : Viewer :=
  { state := none, error := none, connected := false, shouldExit := false, pane := .goals,
    goalsScroll := 0, messagesScroll := 0, commands := [] }

/-- Leave a command for the engine. -/
def order (v : Viewer) (c : ViewerCommand) : Viewer :=
  { v with commands := v.commands ++ [c] }

/-- Take the commands since the last time. -/
def takeCommands (v : Viewer) : List ViewerCommand × Viewer :=
  (v.commands, { v with commands := [] })

/-- Show a state. Another document begins at the top of both panes, other goals at the top of
theirs. -/
def showState (v : Viewer) (s : ViewerState) : Viewer :=
  let sameDoc := v.state.any (·.doc = s.doc)
  let sameGoals := v.state.any (·.goals = s.goals)
  { v with
    state := some s
    error := none
    goalsScroll := if sameDoc && sameGoals then v.goalsScroll else 0
    messagesScroll := if sameDoc then v.messagesScroll else 0 }

/-- Take in a message from the engine. -/
def receive (v : Viewer) (message : ViewerMessage) : Viewer :=
  let v := { v with connected := true }
  match message with
  | .connected => { v with error := none }
  | .state s => v.showState s
  | .idle => { v with state := none }
  | .error text => { v with error := some text }

/-- Take note that the engine is gone. What it said does not hold any more. -/
def lose (v : Viewer) : Viewer :=
  { v with connected := false, state := none, error := none }

/-- One line further, as far as lines are counted. -/
def further (offset : UInt16) : UInt16 :=
  if offset = 0xFFFF then offset else offset + 1

/-- One line back, unless it is the first. -/
def back (offset : UInt16) : UInt16 :=
  if offset = 0 then offset else offset - 1

/-- Scroll the pane that scrolls. -/
def scroll (v : Viewer) (move : UInt16 → UInt16) : Viewer :=
  match v.pane with
  | .goals => { v with goalsScroll := move v.goalsScroll }
  | .messages => { v with messagesScroll := move v.messagesScroll }

/-- Act on a pressed key. -/
def press (v : Viewer) (key : Key) (control : Bool) : Viewer :=
  match key with
  | .char 'q' | .escape => { v with shouldExit := true }
  | .char 'c' => if control then { v with shouldExit := true } else v.order .clearMessages
  | .char 'g' => v.order (.goalVisibility .toggle)
  | .char 'm' => v.order (.messageVisibility .toggle)
  | .tab => { v with pane := v.pane.other }
  | .char 'j' | .down => v.scroll further
  | .char 'k' | .up => v.scroll back
  | _ => v

/-- Take in an event of the terminal. Only presses of keys count. -/
def handle (v : Viewer) : TerminalEvent → Viewer
  | .key key control .press => v.press key control
  | _ => v

end Viewer

end ProofDesk
