import ProofDesk.Json.Printer
import ProofDesk.Json.Reader
import ProofDesk.Session.Forms

/-!
# Events for the editor

The engine writes one event per line as a JSON object, in which `event` names the kind of event.
-/

namespace ProofDesk

/-- An event for the editor. -/
inductive EngineEvent where
  | snapshot (doc : String) (snapshot : Snapshot)
  | goals (doc text : String)
  | messages (doc : String) (entries : List MessageEntry)
  | visibility (showGoals showMessages : Bool)
  | notification (doc : String) (kind : NotificationKind) (message : String)
  | error (message : String)
  deriving Repr, DecidableEq, Inhabited

namespace EngineEvent

/-- The document that an event is about. -/
def doc? : EngineEvent → Option String
  | snapshot doc _ | goals doc _ | messages doc _ | notification doc _ _ => some doc
  | _ => none

/-- The form of an event with a name and fields. -/
def form (name : String) (fields : List (String × Json)) : Json :=
  .obj (("event", .str name) :: fields)

/-- The form of an event. -/
def toJson : EngineEvent → Json
  | snapshot doc shown => form "snapshot" [("doc", .str doc), ("snapshot", shown.toJson)]
  | goals doc text => form "goals" [("doc", .str doc), ("text", .str text)]
  | messages doc entries =>
    form "messages" [("doc", .str doc), ("entries", .arr (entries.map (·.toJson)))]
  | visibility showGoals showMessages =>
    form "visibility" [("show_goals", .bool showGoals), ("show_messages", .bool showMessages)]
  | notification doc kind message =>
    form "notification" [("doc", .str doc), ("kind", .ofWord kind), ("message", .str message)]
  | error message => form "error" [("message", .str message)]

/-- Read an event. -/
def ofJson? (v : Json) : Option EngineEvent := do
  let (name, fields) ← v.tagged? "event"
  match name with
  | "snapshot" =>
    let [doc, shown] ← fields.record? ["doc", "snapshot"] [] | none
    return snapshot (← doc.str?) (← Snapshot.ofJson? shown)
  | "goals" =>
    let [doc, text] ← fields.record? ["doc", "text"] [] | none
    return goals (← doc.str?) (← text.str?)
  | "messages" =>
    let [doc, entries] ← fields.record? ["doc", "entries"] [] | none
    return messages (← doc.str?) (← entries.list? MessageEntry.ofJson?)
  | "visibility" =>
    let [showGoals, showMessages] ← fields.record? ["show_goals", "show_messages"] [] | none
    return visibility (← showGoals.bool?) (← showMessages.bool?)
  | "notification" =>
    let [doc, kind, message] ← fields.record? ["doc", "kind", "message"] [] | none
    return notification (← doc.str?) (← kind.word?) (← message.str?)
  | "error" =>
    let [message] ← fields.record? ["message"] [] | none
    return error (← message.str?)
  | _ => none

/-- Write an event as a line, without its ending. -/
def render (e : EngineEvent) : String :=
  e.toJson.render

/-- Read an event from a line. -/
def parse? (line : String) : Option EngineEvent :=
  (Json.parse? line).bind ofJson?

end EngineEvent

end ProofDesk
