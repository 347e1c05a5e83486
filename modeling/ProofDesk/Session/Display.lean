import ProofDesk.Document.Basic
import ProofDesk.Text.Line
import ProofDesk.Text.Position

/-!
# What a session shows

Highlights mark the live sentences in the text, each by the state it is in; an error also marks the
faulty part of its sentence. Goals are shown as text. A snapshot holds everything that an editor
draws for one document.
-/

namespace ProofDesk

/-- Where a session stands. -/
inductive SessionStatus where
  /-- The prover has not answered the first call yet. -/
  | starting
  | ready
  /-- The connection failed. -/
  | broken
  | closed
  deriving Repr, DecidableEq, Inhabited

/-- What a notification is about. -/
inductive NotificationKind where
  | blocked | timeout | fatal
  deriving Repr, DecidableEq, Inhabited

/-- Something that the user should be told at once. -/
structure Notification where
  kind : NotificationKind
  message : String
  deriving Repr, DecidableEq, Inhabited

/-- A line of the message panel. -/
structure MessageEntry where
  level : MessageLevel
  text : String
  deriving Repr, DecidableEq, Inhabited

/-- How a part of the text is marked. -/
inductive HighlightClass where
  /-- Sent and not checked yet. -/
  | sent
  /-- Accepted through an axiom. -/
  | admitted
  | verified
  | error
  /-- The faulty part of a sentence in error. -/
  | errorPart
  deriving Repr, DecidableEq, Inhabited

/-- A marked part of the text. -/
structure Highlight where
  range : Span
  start : Position
  stop : Position
  cls : HighlightClass
  deriving Repr, DecidableEq, Inhabited

/-- The mark of a range of a text. -/
def Highlight.ofRange (text : String) (range : Span) (cls : HighlightClass) : Highlight :=
  { range, start := .ofOffset text range.start, stop := .ofOffset text range.stop, cls }

/-- The marks of one sentence: one for its state, and one for the faulty part if that is not all of
it. -/
def Sentence.highlights (text : String) (s : Sentence) : List Highlight :=
  match s.state with
  | .unprocessed => []
  | .pending => [.ofRange text s.span .sent]
  | .valid .byAxiom => [.ofRange text s.span .admitted]
  | .valid .ordinary => [.ofRange text s.span (if s.processed then .verified else .sent)]
  | .error range _ =>
    .ofRange text s.span .error ::
      if range.length < s.size then
        [.ofRange text ⟨s.span.start + range.start, s.span.start + range.stop⟩ .errorPart]
      else []

/-- The marks of the live sentences, in the order of the text. -/
def Document.highlights (d : Document) : List Highlight :=
  d.live.flatMap (·.highlights d.text)

namespace Goals

/-- The line above a goal: its number and how many there are. -/
def separator (number total : Nat) : String :=
  s!"_______________________ ({number}/{total})"

/-- The lines of numbered goals. -/
def goalLines (goals : List Goal) : List String :=
  goals.zipIdx.flatMap fun (g, i) => separator (i + 1) goals.length :: Text.lines g.conclusion

/-- All goals out of focus, level by level. -/
def unfocused (g : Goals) : List Goal :=
  g.background.flatMap fun level => level.1 ++ level.2

/-- The lines of the goal panel. The hypotheses are those of the first goal. -/
def panelLines (g : Goals) : List String :=
  match g.foreground with
  | [] =>
    if g.unfocused.isEmpty then ["No more subgoals."]
    else "This subproof is complete, but there are some unfocused goals:" :: "" ::
      goalLines g.unfocused
  | first :: more =>
    (if more.isEmpty then "1 subgoal" else s!"{more.length + 1} subgoals") ::
      (first.hypotheses.flatMap Text.lines ++ goalLines (first :: more))

end Goals

/-- The text of the goal panel. -/
def renderGoals : Option Goals → String
  | none => "No subgoals."
  | some g => "\n".intercalate g.panelLines

/-- Why the text cannot be split, and where. -/
structure ParseProblem where
  position : Position
  message : String
  deriving Repr, DecidableEq, Inhabited

/-- Everything that is drawn for one document. -/
structure Snapshot where
  status : SessionStatus
  busy : Bool
  highlights : List Highlight
  /-- Where the live sentences end. -/
  lockedEnd : Position
  goals : String
  messages : List MessageEntry
  parseError : Option ParseProblem
  deriving Repr, DecidableEq, Inhabited

/-- Whether a panel is to be shown. -/
inductive VisibilityMode where
  | «show» | hide | toggle
  deriving Repr, DecidableEq, Inhabited

/-- Whether a panel is shown after a mode is applied to it. -/
def VisibilityMode.apply : VisibilityMode → Bool → Bool
  | «show», _ => true
  | hide, _ => false
  | toggle, visible => !visible

end ProofDesk
