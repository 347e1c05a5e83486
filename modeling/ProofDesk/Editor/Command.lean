import ProofDesk.Json.Printer
import ProofDesk.Json.Reader
import ProofDesk.Session.Forms

/-!
# Commands from the editor

The editor writes one command per line as a JSON object. `cmd` names the command; most name a
document.
-/

namespace ProofDesk

/-- What happened to a document's window. -/
inductive EditorEvent where
  | focus | unfocus | active | inactive
  deriving Repr, DecidableEq, Inhabited

instance : Worded EditorEvent where
  all := [.focus, .unfocus, .active, .inactive]
  word
    | .focus => "focus"
    | .unfocus => "unfocus"
    | .active => "active"
    | .inactive => "inactive"

/-- A command from the editor. -/
inductive EditorCommand where
  | newSession (doc text : String)
  | closeSession (doc : String)
  | forward (doc : String)
  | backward (doc : String)
  | toCursor (doc : String) (position : Position)
  /-- The text between two positions was replaced. -/
  | edit (doc : String) (start stop : Position) (text : String)
  /-- The whole text is this now. -/
  | setText (doc text : String)
  | event (doc : String) (kind : EditorEvent)
  | goalVisibility (mode : VisibilityMode)
  | messageVisibility (mode : VisibilityMode)
  | clearMessages (doc : String)
  | redrawGoals
  | redrawMessages
  | processFeedbacks
  | shutdown
  deriving Repr, DecidableEq, Inhabited

namespace EditorCommand

/-- The document that a command names. -/
def doc? : EditorCommand → Option String
  | newSession doc _ | closeSession doc | forward doc | backward doc | toCursor doc _
  | edit doc _ _ _ | setText doc _ | event doc _ | clearMessages doc => some doc
  | _ => none

/-- The form of a command with a name and fields. -/
def form (name : String) (fields : List (String × Json)) : Json :=
  .obj (("cmd", .str name) :: fields)

/-- The form of a command. -/
def toJson : EditorCommand → Json
  | newSession doc text => form "new_session" [("doc", .str doc), ("text", .str text)]
  | closeSession doc => form "close_session" [("doc", .str doc)]
  | forward doc => form "forward" [("doc", .str doc)]
  | backward doc => form "backward" [("doc", .str doc)]
  | toCursor doc position => form "to_cursor" [("doc", .str doc), ("position", position.toJson)]
  | edit doc start stop text =>
    form "edit"
      [ ("doc", .str doc)
      , ("range", .obj [("start", start.toJson), ("end", stop.toJson)])
      , ("text", .str text) ]
  | setText doc text => form "set_text" [("doc", .str doc), ("text", .str text)]
  | event doc kind => form "event" [("doc", .str doc), ("kind", .ofWord kind)]
  | goalVisibility mode => form "goal_visibility" [("mode", .ofWord mode)]
  | messageVisibility mode => form "message_visibility" [("mode", .ofWord mode)]
  | clearMessages doc => form "clear_messages" [("doc", .str doc)]
  | redrawGoals => form "redraw_goals" []
  | redrawMessages => form "redraw_messages" []
  | processFeedbacks => form "process_feedbacks" []
  | shutdown => form "shutdown" []

/-- Read the fields of a command that only names a document. -/
def ofDoc? (make : String → EditorCommand) (v : Json) : Option EditorCommand := do
  let [doc] ← v.record? ["doc"] [] | none
  return make (← doc.str?)

/-- Read the fields of a command that names a document and a text. -/
def ofDocText? (make : String → String → EditorCommand) (v : Json) : Option EditorCommand := do
  let [doc, text] ← v.record? ["doc", "text"] [] | none
  return make (← doc.str?) (← text.str?)

/-- Read the fields of a command that sets a visibility. -/
def ofMode? (make : VisibilityMode → EditorCommand) (v : Json) : Option EditorCommand := do
  let [mode] ← v.record? ["mode"] [] | none
  return make (← mode.word?)

/-- Read a command. -/
def ofJson? (v : Json) : Option EditorCommand := do
  let (name, fields) ← v.tagged? "cmd"
  match name with
  | "new_session" => ofDocText? newSession fields
  | "close_session" => ofDoc? closeSession fields
  | "forward" => ofDoc? forward fields
  | "backward" => ofDoc? backward fields
  | "to_cursor" =>
    let [doc, position] ← fields.record? ["doc", "position"] [] | none
    return toCursor (← doc.str?) (← Position.ofJson? position)
  | "edit" =>
    let [doc, range, text] ← fields.record? ["doc", "range", "text"] [] | none
    let [start, stop] ← range.record? ["start", "end"] [] | none
    return edit (← doc.str?) (← Position.ofJson? start) (← Position.ofJson? stop) (← text.str?)
  | "set_text" => ofDocText? setText fields
  | "event" =>
    let [doc, kind] ← fields.record? ["doc", "kind"] [] | none
    return event (← doc.str?) (← kind.word?)
  | "goal_visibility" => ofMode? goalVisibility fields
  | "message_visibility" => ofMode? messageVisibility fields
  | "clear_messages" => ofDoc? clearMessages fields
  | "redraw_goals" => fields.noFields?.map fun _ => redrawGoals
  | "redraw_messages" => fields.noFields?.map fun _ => redrawMessages
  | "process_feedbacks" => fields.noFields?.map fun _ => processFeedbacks
  | "shutdown" => fields.noFields?.map fun _ => shutdown
  | _ => none

/-- Write a command as a line, without its ending. -/
def render (c : EditorCommand) : String :=
  c.toJson.render

/-- Read a command from a line. -/
def parse? (line : String) : Option EditorCommand :=
  (Json.parse? line).bind ofJson?

end EditorCommand

end ProofDesk
