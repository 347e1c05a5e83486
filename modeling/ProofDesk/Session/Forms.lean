import ProofDesk.Json.Shape
import ProofDesk.Session.Display
import ProofDesk.Settings

/-!
# JSON forms of what sessions show

The forms in which goals, positions, highlights, messages and snapshots are exchanged.
-/

namespace ProofDesk

instance : Worded AxiomPolicy where
  all := [.annotate, .block]
  word
    | .annotate => "annotate"
    | .block => "block"

instance : Worded MessageLevel where
  all := MessageLevel.all
  word := MessageLevel.word

instance : Worded SessionStatus where
  all := [.starting, .ready, .broken, .closed]
  word
    | .starting => "starting"
    | .ready => "ready"
    | .broken => "broken"
    | .closed => "closed"

instance : Worded NotificationKind where
  all := [.blocked, .timeout, .fatal]
  word
    | .blocked => "blocked"
    | .timeout => "timeout"
    | .fatal => "fatal"

instance : Worded HighlightClass where
  all := [.sent, .admitted, .verified, .error, .errorPart]
  word
    | .sent => "sent"
    | .admitted => "axiom"
    | .verified => "verified"
    | .error => "error"
    | .errorPart => "error_part"

instance : Worded VisibilityMode where
  all := [.show, .hide, .toggle]
  word
    | .show => "show"
    | .hide => "hide"
    | .toggle => "toggle"

namespace Goal

/-- The form of a goal. -/
def toJson (g : Goal) : Json :=
  .obj [("id", .str g.id), ("hypotheses", .arr (g.hypotheses.map .str)),
    ("goal", .str g.conclusion)]

/-- Read a goal. -/
def ofJson? (v : Json) : Option Goal := do
  let [id, hypotheses, conclusion] ← v.record? ["id", "hypotheses", "goal"] [] | none
  return ⟨← id.str?, ← hypotheses.list? Json.str?, ← conclusion.str?⟩

/-- The form of a list of goals. -/
def listToJson (gs : List Goal) : Json :=
  .arr (gs.map toJson)

/-- Read a list of goals. -/
def listOfJson? (v : Json) : Option (List Goal) :=
  v.list? ofJson?

end Goal

namespace Goals

/-- The form of a level of goals out of focus: a list of those before the focus and those after
it. -/
def levelToJson (level : List Goal × List Goal) : Json :=
  .arr [Goal.listToJson level.1, Goal.listToJson level.2]

/-- Read a level of goals out of focus. -/
def levelOfJson? (v : Json) : Option (List Goal × List Goal) := do
  let .arr [before, after] := v | none
  return (← Goal.listOfJson? before, ← Goal.listOfJson? after)

/-- The form of goals. -/
def toJson (g : Goals) : Json :=
  .obj
    [ ("foreground", Goal.listToJson g.foreground)
    , ("background", .arr (g.background.map levelToJson))
    , ("shelved", Goal.listToJson g.shelved)
    , ("given_up", Goal.listToJson g.givenUp) ]

/-- Read goals. -/
def ofJson? (v : Json) : Option Goals := do
  let [foreground, background, shelved, givenUp] ←
    v.record? ["foreground", "background", "shelved", "given_up"] [] | none
  return {
    foreground := ← Goal.listOfJson? foreground
    background := ← background.list? levelOfJson?
    shelved := ← Goal.listOfJson? shelved
    givenUp := ← Goal.listOfJson? givenUp }

end Goals

namespace Position

/-- The form of a position. -/
def toJson (p : Position) : Json :=
  .obj [("line", .nat p.line.toNat), ("character", .nat p.character.toNat)]

/-- Read a position. -/
def ofJson? (v : Json) : Option Position := do
  let [line, character] ← v.record? ["line", "character"] [] | none
  return ⟨← line.word32?, ← character.word32?⟩

end Position

namespace Span

/-- The form of a byte range. -/
def toJson (s : Span) : Json :=
  .obj [("start", .nat s.start), ("end", .nat s.stop)]

/-- Read a byte range. It allows no further members. -/
def ofJson? (v : Json) : Option Span := do
  let [start, stop] ← v.strictRecord? ["start", "end"] | none
  return ⟨← start.nat? Text.max64, ← stop.nat? Text.max64⟩

end Span

namespace Highlight

/-- The form of a highlight. -/
def toJson (h : Highlight) : Json :=
  .obj [("range", h.range.toJson), ("start", h.start.toJson), ("end", h.stop.toJson),
    ("class", .ofWord h.cls)]

/-- Read a highlight. -/
def ofJson? (v : Json) : Option Highlight := do
  let [range, start, stop, cls] ← v.record? ["range", "start", "end", "class"] [] | none
  return ⟨← Span.ofJson? range, ← Position.ofJson? start, ← Position.ofJson? stop, ← cls.word?⟩

end Highlight

namespace MessageEntry

/-- The form of a message. -/
def toJson (m : MessageEntry) : Json :=
  .obj [("level", .ofWord m.level), ("text", .str m.text)]

/-- Read a message. -/
def ofJson? (v : Json) : Option MessageEntry := do
  let [level, text] ← v.record? ["level", "text"] [] | none
  return ⟨← level.word?, ← text.str?⟩

end MessageEntry

namespace ParseProblem

/-- The form of a parse problem. -/
def toJson (p : ParseProblem) : Json :=
  .obj [("position", p.position.toJson), ("message", .str p.message)]

/-- Read a parse problem. -/
def ofJson? (v : Json) : Option ParseProblem := do
  let [position, message] ← v.record? ["position", "message"] [] | none
  return ⟨← Position.ofJson? position, ← message.str?⟩

end ParseProblem

namespace Snapshot

/-- The form of a snapshot. -/
def toJson (s : Snapshot) : Json :=
  .obj
    [ ("status", .ofWord s.status)
    , ("busy", .bool s.busy)
    , ("highlights", .arr (s.highlights.map (·.toJson)))
    , ("locked_end", s.lockedEnd.toJson)
    , ("goals", .str s.goals)
    , ("messages", .arr (s.messages.map (·.toJson)))
    , ("parse_error", (s.parseError.map (·.toJson)).getD .null) ]

/-- Read a snapshot. The parse problem may be left out of an object. -/
def ofJson? (v : Json) : Option Snapshot := do
  let [status, busy, highlights, lockedEnd, goals, messages, parseError] ←
    v.record? ["status", "busy", "highlights", "locked_end", "goals", "messages", "parse_error"]
      ["parse_error"] | none
  return {
    status := ← status.word?
    busy := ← busy.bool?
    highlights := ← highlights.list? Highlight.ofJson?
    lockedEnd := ← Position.ofJson? lockedEnd
    goals := ← goals.str?
    messages := ← messages.list? MessageEntry.ofJson?
    parseError := ← parseError.optional? ParseProblem.ofJson? }

end Snapshot

end ProofDesk
