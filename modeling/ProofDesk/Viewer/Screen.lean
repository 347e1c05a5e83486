import ProofDesk.Text.Line
import ProofDesk.Text.Wrap
import ProofDesk.Viewer.Basic

/-!
# The screen of a viewer

What a viewer draws on a grid of character cells: a frame with a header and the two panes in it, and
a line of help below. Areas are built as lists of rows, and every row of an area is padded and cut
to the width of the area, so that areas can be put on top of each other and framed without overlap.
-/

namespace ProofDesk

/-- The colours that are used. -/
inductive Color where
  /-- The terminal's own. -/
  | reset
  | cyan | green | yellow | red | white | darkGray
  deriving Repr, DecidableEq, Inhabited

/-- A cell of the grid: what stands in it and in which colour. -/
structure Cell where
  cluster : Text.Cluster
  color : Color
  deriving Repr, DecidableEq, Inhabited

/-- The text of a cell. -/
def Cell.symbol (c : Cell) : String :=
  c.cluster.text

/-- A cell with a single character. -/
def Cell.ofChar (c : Char) (color : Color) : Cell :=
  ⟨⟨c, []⟩, color⟩

/-- A cell on which nothing was drawn. -/
def Cell.blank : Cell :=
  .ofChar ' ' .reset

/-- A row of cells. -/
abbrev Row := List Cell

/-- Clusters in colours, not laid out in cells yet. -/
abbrev Styled := List (Text.Cluster × Color)

namespace Screen

/-! ## Rows -/

/-- A text in one colour. -/
def styled (color : Color) (s : String) : Styled :=
  (Text.clusters s.toList).map (·, color)

/-- The part of a line that fits into `width` cells. What is wider than the whole line is left
out. -/
def fit (width : Nat) : Styled → Styled
  | [] => []
  | x :: xs =>
    let covered := x.1.width
    if width < covered then [] else x :: fit (width - covered) xs

/-- A line cut at the right edge. -/
def cutLine (width : Nat) (line : Styled) : Styled :=
  fit width (line.filter (·.1.width ≤ width))

/-- The cells of a line. Behind a wide cluster its second cell stays blank. -/
def cells (line : Styled) : Row :=
  line.flatMap fun (cluster, color) =>
    match cluster.width with
    | 0 => []
    | n + 1 => ⟨cluster, color⟩ :: List.replicate n .blank

/-- A row of exactly `width` cells that begins with the given ones. -/
def row (fill : Cell) (width : Nat) (r : Row) : Row :=
  (r ++ List.replicate (width - r.length) fill).take width

/-- An area of exactly `height` rows that begins with the given ones. -/
def area (fill : Cell) (width height : Nat) (rows : List Row) : List Row :=
  ((rows.map (row fill width)) ++
    List.replicate (height - rows.length) (List.replicate width fill)).take height

/-- An area with lines that are cut at its right edge. -/
def paragraph (fill : Cell) (width height : Nat) (lines : List Styled) : List Row :=
  area fill width height (lines.map fun line => cells (cutLine width line))

/-! ## Frames and panes -/

/-- A horizontal border with a title at its left end. -/
def border (color : Color) (width : Nat) (title : String) : Row :=
  row (.ofChar '─' color) width (cells (cutLine width (styled color title)))

/-- The colour of the frame. -/
def frameColor : Color := .cyan

/-- A frame around an area that is drawn when its size is known. -/
def framed (title : String) (width height : Nat) (inside : Nat → Nat → List Row) : List Row :=
  let edge := fun (left middle right) =>
    Cell.ofChar left frameColor :: (middle ++ [Cell.ofChar right frameColor])
  let top := edge '┌' (border frameColor (width - 2) title) '┐'
  let bottom := edge '└' (border frameColor (width - 2) "") '┘'
  let middle := (inside (width - 2) (height - 2)).map fun r => edge '│' r '│'
  area .blank width height (top :: (middle ++ [bottom]))

/-- A pane: a border on top, cyan while the pane is active, and rows below it. -/
def pane (title : String) (active : Bool) (width height : Nat) (rows : List Row) : List Row :=
  area .blank width height (border (if active then .cyan else .darkGray) width title :: rows)

/-- The colour in which a message is shown. -/
def levelColor : MessageLevel → Color
  | .error => .red
  | .warning => .yellow
  | .notice | .info => .white
  | .debug => .darkGray

/-- The lines of the goal panel. The lines between goals are dimmed. -/
def goalLines (goals : String) : List Styled :=
  (Text.lines goals).map fun line =>
    styled (if line.startsWith "____" then .darkGray else .reset) line

/-- The lines of the message panel, wrapped to `width` cells. -/
def messageLines (width : Nat) (entries : List MessageEntry) : List Styled :=
  entries.flatMap fun entry =>
    (Text.lines entry.text).flatMap fun line =>
      (Text.wrap width (Text.clusters line.toList)).map fun wrapped =>
        wrapped.map (·, levelColor entry.level)

/-- The goal pane. -/
def goalPane (v : Viewer) (s : ViewerState) (width height : Nat) : List Row :=
  pane " Goals " (v.pane = .goals) width height
    (paragraph .blank width (height - 1) ((goalLines s.goals).drop v.goalsScroll.toNat))

/-- The message pane. -/
def messagePane (v : Viewer) (s : ViewerState) (width height : Nat) : List Row :=
  pane " Messages " (v.pane = .messages) width height
    (area .blank width (height - 1)
      (((messageLines width s.messages).drop v.messagesScroll.toNat).map cells))

/-! ## The whole screen -/

/-- A dimmed remark in place of the panes. -/
def remark (text : String) (width height : Nat) : List Row :=
  -- the remark colours its whole area, not only its text
  let fill := Cell.ofChar ' ' .darkGray
  paragraph fill width height [styled .darkGray text]

/-- The rows of the goals when both panes share `height` rows: 65 of 100, rounded to the nearest. -/
def goalShare (height : Nat) : Nat :=
  (65 * height + 50) / 100

/-- The word for a status and its colour. -/
def statusLabel : SessionStatus → Styled
  | .starting => styled .yellow "starting"
  | .ready => styled .green "ready"
  | .broken => styled .red "broken"
  | .closed => styled .darkGray "closed"

/-- The line at the top: which document is shown, how its session stands, and the last failure. -/
def header (v : Viewer) : Styled :=
  let shown := match v.state with
    | none => []
    | some s =>
      styled .reset "File: " ++ styled .green s.doc ++ styled .reset "  coqtop: " ++
        statusLabel s.status ++
        (if s.busy then styled .yellow " (busy)" else [])
  let failure := match v.error with
    | none => []
    | some text => styled .red s!"  Error: {text}"
  shown ++ failure

/-- The panes that are to be shown. -/
def content (v : Viewer) (width height : Nat) : List Row :=
  match v.state with
  | none => remark "No focused document" width height
  | some s =>
    match s.showGoals, s.showMessages with
    | true, true =>
      goalPane v s width (goalShare height) ++ messagePane v s width (height - goalShare height)
    | true, false => goalPane v s width height
    | false, true => messagePane v s width height
    | false, false => remark "Goals and messages are hidden" width height

/-- What the frame holds: two rows of header and the panes, or where the engine is looked for. -/
def body (v : Viewer) (socket : String) (width height : Nat) : List Row :=
  if v.connected then
    let headerHeight := min 2 height
    paragraph .blank width headerHeight [header v] ++ content v width (height - headerHeight)
  else paragraph .blank width height [styled .reset s!"Connecting to {socket}..."]

/-- The keys and what they do. -/
def help : Styled :=
  styled .cyan "g" ++ styled .reset ": goals  " ++ styled .cyan "m" ++
    styled .reset ": messages  " ++ styled .cyan "c" ++ styled .reset ": clear  " ++
    styled .cyan "Tab j/k" ++
      styled .reset ": scroll  " ++
    styled .cyan "q" ++ styled .reset ": quit"

/-- Nothing is drawn in the second cell of a wide cluster, whatever area the cell belongs to. -/
def clearBehindWide : Row → Row
  | c :: next :: rest =>
    if c.cluster.width = 2 then c :: .blank :: clearBehindWide rest
      else c :: clearBehindWide (next :: rest)
  | r => r

end Screen

/-- The screen of a viewer that looks for the engine at `socket`, as `height` rows of `width`
cells. -/
def Viewer.draw (v : Viewer) (socket : String) (width height : Nat) : List Row :=
  let main := Screen.framed " coq-tui " width (height - 1) (Screen.body v socket)
  let all := main ++ Screen.paragraph .blank width 1 [Screen.help]
  (Screen.area .blank width height all).map Screen.clearBehindWide

end ProofDesk
