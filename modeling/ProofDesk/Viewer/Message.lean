import ProofDesk.Json.Printer
import ProofDesk.Json.Reader
import ProofDesk.Session.Forms

/-!
# Messages between the engine and its viewers

A viewer shows the goals and the messages of the document in focus. The engine sends it messages and
it sends back commands, one JSON object per line each, in which `type` names the kind.
-/

namespace ProofDesk

/-- What a viewer shows of the document in focus. -/
structure ViewerState where
  doc : String
  status : SessionStatus
  busy : Bool
  /-- The text of the goal panel; empty while goals are hidden. -/
  goals : String
  /-- The messages; none while messages are hidden. -/
  messages : List MessageEntry
  showGoals : Bool
  showMessages : Bool
  deriving Repr, DecidableEq, Inhabited

/-- A message to a viewer. -/
inductive ViewerMessage where
  | connected
  | state (state : ViewerState)
  /-- No document is in focus. -/
  | idle
  | error (error : String)
  deriving Repr, DecidableEq, Inhabited

/-- A command from a viewer. -/
inductive ViewerCommand where
  | goalVisibility (mode : VisibilityMode)
  | messageVisibility (mode : VisibilityMode)
  | clearMessages
  deriving Repr, DecidableEq, Inhabited

namespace ViewerState

/-- The fields of a viewer's state. -/
def fields (s : ViewerState) : List (String × Json) :=
  [ ("doc", .str s.doc)
  , ("status", .ofWord s.status)
  , ("busy", .bool s.busy)
  , ("goals", .str s.goals)
  , ("messages", .arr (s.messages.map (·.toJson)))
  , ("show_goals", .bool s.showGoals)
  , ("show_messages", .bool s.showMessages) ]

/-- Read a viewer's state. -/
def ofJson? (v : Json) : Option ViewerState := do
  let [doc, status, busy, goals, messages, showGoals, showMessages] ←
    v.record? ["doc", "status", "busy", "goals", "messages", "show_goals", "show_messages"] []
    | none
  return {
    doc := ← doc.str?
    status := ← status.word?
    busy := ← busy.bool?
    goals := ← goals.str?
    messages := ← messages.list? MessageEntry.ofJson?
    showGoals := ← showGoals.bool?
    showMessages := ← showMessages.bool? }

end ViewerState

/-- The form of a message or command with a name and fields. -/
def viewerForm (name : String) (fields : List (String × Json)) : Json :=
  .obj (("type", .str name) :: fields)

namespace ViewerMessage

/-- Whether a message reports an error. -/
def isError : ViewerMessage → Bool
  | error _ => true
  | _ => false

/-- The form of a message. -/
def toJson : ViewerMessage → Json
  | connected => viewerForm "Connected" []
  | state s => viewerForm "State" s.fields
  | idle => viewerForm "Idle" []
  | error text => viewerForm "Error" [("error", .str text)]

/-- Read a message. -/
def ofJson? (v : Json) : Option ViewerMessage := do
  let (name, fields) ← v.tagged? "type"
  match name with
  | "Connected" => fields.noFields?.map fun _ => connected
  | "State" => (ViewerState.ofJson? fields).map state
  | "Idle" => fields.noFields?.map fun _ => idle
  | "Error" =>
    let [text] ← fields.record? ["error"] [] | none
    return error (← text.str?)
  | _ => none

/-- Write a message as a line, without its ending. -/
def render (m : ViewerMessage) : String :=
  m.toJson.render

/-- Read a message from a line. -/
def parse? (line : String) : Option ViewerMessage :=
  (Json.parse? line).bind ofJson?

end ViewerMessage

namespace ViewerCommand

/-- The form of a command. -/
def toJson : ViewerCommand → Json
  | goalVisibility mode => viewerForm "GoalVisibility" [("mode", .ofWord mode)]
  | messageVisibility mode => viewerForm "MessageVisibility" [("mode", .ofWord mode)]
  | clearMessages => viewerForm "ClearMessages" []

/-- Read a command. -/
def ofJson? (v : Json) : Option ViewerCommand := do
  let (name, fields) ← v.tagged? "type"
  match name with
  | "GoalVisibility" =>
    let [mode] ← fields.record? ["mode"] [] | none
    return goalVisibility (← mode.word?)
  | "MessageVisibility" =>
    let [mode] ← fields.record? ["mode"] [] | none
    return messageVisibility (← mode.word?)
  | "ClearMessages" => fields.noFields?.map fun _ => clearMessages
  | _ => none

/-- Write a command as a line, without its ending. -/
def render (c : ViewerCommand) : String :=
  c.toJson.render

/-- Read a command from a line. -/
def parse? (line : String) : Option ViewerCommand :=
  (Json.parse? line).bind ofJson?

end ViewerCommand

end ProofDesk
