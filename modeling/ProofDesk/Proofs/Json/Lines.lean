import ProofDesk.Proofs.Json.Forms
import ProofDesk.Proofs.Text.Input
import ProofDesk.Viewer.Socket

/-!
# Nothing is lost on the line protocols

Commands, events and messages travel as lines, and what was written is what is read
(`lines_lossless`). A line holds no control characters, so a stream is cut exactly between the
values (`cutLines_lines_append`), and since its reader gives a value back, no two values share a
line. That is all there is to a protocol whose values have forms from which they are read back
(`lossless_of_formOf`).

The two ends of the viewer socket read in this way: a viewer hears the messages that the engine has
written (`Dialer.input_lines`), and the engine gets the commands that a viewer has written
(`Relay.input_lines`).
-/

namespace ProofDesk

open Json

section Lossless

variable {α : Type}

/-- The bytes of a value as a line of a stream. -/
def lineOf (render : α → String) (a : α) : List UInt8 :=
  Text.bytes (render a ++ "\n")

/-- The value that the bytes of a line hold, with or without the ending of the line. -/
def readLine? (parse? : String → Option α) (line : List UInt8) : Option α :=
  (Text.lineText line).toOption.bind parse?

/-- Writing values as lines and reading them again loses nothing of the values that fit. -/
structure Lossless (render : α → String) (parse? : String → Option α) (Fits : α → Prop) : Prop where
  /-- A value is one line. -/
  one_line {a : α} (ha : Fits a) : '\n' ∉ (render a).toList
  /-- A line is read as the value that was written. -/
  read_back {a : α} (ha : Fits a) : parse? (render a) = some a
  /-- A stream is cut into one line for each value, whatever comes behind them, and the lines are
  read as the values. -/
  stream {as : List α} (has : ∀ a ∈ as, Fits a) (rest : List UInt8) :
    ∃ lines,
      Text.cutLines (Socket.lines render as ++ rest) =
        (lines ++ (Text.cutLines rest).1, (Text.cutLines rest).2) ∧
        lines.map (readLine? parse?) = as.map some
  /-- The last line may lack its line feed. -/
  last_line {a : α} (ha : Fits a) :
    Text.cutLines (Text.bytes (render a)) = ([], Text.bytes (render a)) ∧
      readLine? parse? (Text.bytes (render a)) = some a
  /-- Different values have different lines. -/
  injective {a b : α} (ha : Fits a) (hb : Fits b) (h : render a = render b) : a = b

variable {render : α → String} {parse? : String → Option α} {Fits : α → Prop}

/-- A line is the bytes of what is written, and a line feed. -/
theorem lineOf_eq (render : α → String) (a : α) :
    lineOf render a = Text.bytes (render a) ++ ['\n'.toUInt8] := by
  rw [lineOf, Text.bytes, Text.bytes, String.toList_append, Text.encode_append]
  rfl

/-- A stream is cut between its values. -/
private theorem cutLines_lines_append {as : List α} (h : ∀ a ∈ as, '\n' ∉ (render a).toList)
    (rest : List UInt8) :
    Text.cutLines (Socket.lines render as ++ rest) =
      (as.map (lineOf render) ++ (Text.cutLines rest).1, (Text.cutLines rest).2) := by
  -- the induction is on the values; the first line feed of the stream is that behind the first of
  -- them
  induction as with
  | nil => rfl
  | cons a as ih =>
    rw [List.forall_mem_cons] at h
    have hline : Socket.lines render (a :: as) ++ rest =
        Text.bytes (render a) ++ '\n'.toUInt8 :: (Socket.lines render as ++ rest) := by
      rw [Socket.lines, List.flatMap_cons, ← lineOf, lineOf_eq, List.append_assoc,
        List.append_assoc]
      rfl
    rw [hline, Text.cutLines_line_append (Text.lineFeed_notMem_bytes h.1), ih h.2, ← lineOf_eq,
      List.map_cons]
    rfl

/-- The text of a line is what was written, unless a carriage return was. -/
theorem lineText_lineOf {a : α} (h : '\r' ∉ (render a).toList) :
    Text.lineText (lineOf render a) = .ok (render a) := by
  have hline : (render a ++ "\n").toList = (render a).toList ++ ['\n'] := String.toList_append
  rw [lineOf, Text.bytes, Text.lineText_encode, hline, Text.dropEnding_lineFeed h,
    String.ofList_toList]

/-- The text of a line without its line feed is what was written. -/
theorem lineText_bytes {s : String} (h : '\n' ∉ s.toList) :
    Text.lineText (Text.bytes s) = .ok s := by
  rw [Text.bytes, Text.lineText_encode, Text.dropEnding_of_notMem h, String.ofList_toList]

/-- A protocol loses nothing if its lines hold no control characters and are read back. -/
private theorem lossless_of_shown (hshown : ∀ {a}, Fits a → Shown (render a).toList)
    (hread : ∀ {a}, Fits a → parse? (render a) = some a) : Lossless render parse? Fits := by
  have hfeed {a : α} (ha : Fits a) : '\n' ∉ (render a).toList := fun h =>
    absurd (hshown ha _ h) (by decide)
  have hreturn {a : α} (ha : Fits a) : '\r' ∉ (render a).toList := fun h =>
    absurd (hshown ha _ h) (by decide)
  refine ⟨hfeed, hread, fun {as} has rest => ?stream, fun {a} ha => ?last,
    fun {a b} ha hb h => ?injective⟩
  case stream =>
    refine ⟨as.map (lineOf render), cutLines_lines_append (fun a ha => hfeed (has a ha)) rest, ?_⟩
    rw [List.map_map]
    refine List.map_congr_left fun a ha => ?_
    rw [Function.comp_apply, readLine?, lineText_lineOf (hreturn (has a ha))]
    exact hread (has a ha)
  case last =>
    refine ⟨Text.cutLines_of_notMem (Text.lineFeed_notMem_bytes (hfeed ha)), ?_⟩
    rw [readLine?, lineText_bytes (hfeed ha)]
    exact hread ha
  case injective =>
    -- the reader makes the same of both
    have hsame : some a = some b := by rw [← hread ha, ← hread hb, h]
    exact Option.some.inj hsame

/-- The values of a protocol have forms that are shallow enough and from which they are read
back. -/
theorem lossless_of_formOf {toJson : α → Json} {ofJson? : Json → Option α} {depth : Nat}
    (hdepth : depth ≤ maxDepth) (hform : ∀ {a}, Fits a → FormOf depth ofJson? (toJson a) a) :
    Lossless (fun a => (toJson a).render) (fun line => (Json.parse? line).bind ofJson?) Fits := by
  refine lossless_of_shown (fun {a} ha => ?_) fun {a} ha => ?_
  · rw [Json.render, String.toList_ofList]
    exact (hform ha).plain.shown
  · rw [(hform ha).plain.parse?_render hdepth]
    exact (hform ha).read

end Lossless

/-! ## The protocols -/

/-- Commands of an editor survive being written and read. -/
theorem EditorCommand.lossless :
    Lossless EditorCommand.render EditorCommand.parse? (fun _ => True) := by
  have hform {c : EditorCommand} : FormOf 3 EditorCommand.ofJson? c.toJson c := c.formOf
  exact lossless_of_formOf (by decide) fun _ => hform

/-- Events of the engine survive being written and read, if their numbers fit. -/
theorem EngineEvent.lossless : Lossless EngineEvent.render EngineEvent.parse? EngineEvent.Fits := by
  have hform {e : EngineEvent} (he : e.Fits) : FormOf 5 EngineEvent.ofJson? e.toJson e :=
    EngineEvent.formOf he
  exact lossless_of_formOf (by decide) hform

/-- Messages to a viewer survive being written and read. -/
theorem ViewerMessage.lossless :
    Lossless ViewerMessage.render ViewerMessage.parse? (fun _ => True) := by
  have hform {m : ViewerMessage} : FormOf 3 ViewerMessage.ofJson? m.toJson m := m.formOf
  exact lossless_of_formOf (by decide) fun _ => hform

/-- Commands of a viewer survive being written and read. -/
theorem ViewerCommand.lossless :
    Lossless ViewerCommand.render ViewerCommand.parse? (fun _ => True) := by
  have hform {c : ViewerCommand} : FormOf 1 ViewerCommand.ofJson? c.toJson c := c.formOf
  exact lossless_of_formOf (by decide) fun _ => hform

/-- The line protocols of the editor and of the viewers lose nothing: commands, events and messages
of any content, with offsets that fit into 64 bits, are each written as one line and read back from
it, and so are streams of them. -/
theorem lines_lossless :
    Lossless EditorCommand.render EditorCommand.parse? (fun _ => True) ∧
      Lossless EngineEvent.render EngineEvent.parse? EngineEvent.Fits ∧
      Lossless ViewerMessage.render ViewerMessage.parse? (fun _ => True) ∧
      Lossless ViewerCommand.render ViewerCommand.parse? (fun _ => True) :=
  ⟨EditorCommand.lossless, EngineEvent.lossless, ViewerMessage.lossless, ViewerCommand.lossless⟩

/-- An event whose offsets are as large as can be, with a text of two lines, is read back from its
line. -/
theorem lines_lossless_of_widest :
    let shown : Snapshot :=
      { status := .ready
        busy := false
        highlights := [⟨⟨0, Text.max64⟩, ⟨0, 0⟩, ⟨1, 0⟩, .verified⟩]
        lockedEnd := ⟨1, 0⟩
        goals := "a\nb"
        messages := []
        parseError := none }
    let event := EngineEvent.snapshot "a" shown
    event.Fits ∧ EngineEvent.parse? event.render = some event := by
  intro shown event
  have hfits : event.Fits := by
    intro h hh
    rw [List.mem_singleton.1 hh]
    exact ⟨Nat.zero_le _, Nat.le_refl _⟩
  exact ⟨hfits, lines_lossless.2.1.read_back hfits⟩

/-! ## The ends of the viewer socket -/

/-- What a line is read as is read from its text. -/
theorem exists_of_readLine? {α : Type} {parse? : String → Option α} {line : List UInt8} {a : α}
    (h : readLine? parse? line = some a) :
    ∃ text, Text.lineText line = .ok text ∧ parse? text = some a := by
  unfold readLine? at h
  cases htext : Text.lineText line with
  | error e => simp [htext, Except.toOption] at h
  | ok text => exact ⟨text, rfl, by simpa [htext, Except.toOption] using h⟩

/-- A viewer hears the messages that lines hold. -/
theorem Dialer.readLines_of_map {lines : List (List UInt8)} {ms : List ViewerMessage}
    (h : lines.map (readLine? ViewerMessage.parse?) = ms.map some) :
    readLines lines = (ms.map .message, true) := by
  induction ms generalizing lines with
  | nil =>
    rw [List.map_eq_nil_iff.1 h]
    rfl
  | cons m ms ih =>
    obtain ⟨line, lines, rfl, hm, hms⟩ := List.map_eq_cons_iff.1 h
    obtain ⟨text, htext, hread⟩ := exists_of_readLine? hm
    simp [readLines, htext, hread, ih hms]

/-- A connected viewer hears what the engine has written, message by message. -/
theorem Dialer.input_lines {d : Dialer} (hd : d.phase = .connected []) (ms : List ViewerMessage) :
    d.input (Socket.lines ViewerMessage.render ms) = (d.audible (ms.map .message), d) := by
  obtain ⟨lines, hcut, hread⟩ := ViewerMessage.lossless.stream (fun m (_ : m ∈ ms) => trivial) []
  rw [List.append_nil] at hcut
  rw [input, hd]
  simp [hcut, Text.cutLines, readLines_of_map hread, ← hd]

/-- The engine takes the commands that lines hold, if they are written into the inbox that it
reads. -/
theorem Relay.readLines_of_map {lines : List (List UInt8)} {cs : List ViewerCommand}
    {r : Relay} {inbox : Nat} (hr : r.reading = some inbox)
    (h : lines.map (readLine? ViewerCommand.parse?) = cs.map some) :
    r.readLines inbox lines = (true, { r with commands := r.commands ++ cs }) := by
  induction cs generalizing lines r with
  | nil =>
    rw [List.map_eq_nil_iff.1 h]
    simp [readLines]
  | cons c cs ih =>
    obtain ⟨line, lines, rfl, hc, hcs⟩ := List.map_eq_cons_iff.1 h
    obtain ⟨text, htext, hread⟩ := exists_of_readLine? hc
    -- a line that is a command is added, and reading goes on
    have hline : r.readLine inbox line = (true, { r with commands := r.commands ++ [c] }) := by
      simp [readLine, htext, hread, hr]
    have hrest : { r with commands := r.commands ++ [c] }.readLines inbox lines =
        (true, { r with commands := r.commands ++ [c] ++ cs }) := ih hr hcs
    simp [readLines, hline, hrest]

/-- What a viewer has written is what the engine gets, command by command. -/
theorem Relay.input_lines {r : Relay} {index : Nat} {subscriber : Subscriber}
    (hindex : r.subscribers[index]? = some subscriber) (hopen : subscriber.isOpen = true)
    (hempty : subscriber.partialLine = []) (hr : r.reading = some subscriber.inbox)
    (cs : List ViewerCommand) :
    (r.input index (Socket.lines ViewerCommand.render cs)).commands = r.commands ++ cs := by
  obtain ⟨lines, hcut, hread⟩ := ViewerCommand.lossless.stream (fun c (_ : c ∈ cs) => trivial) []
  rw [List.append_nil] at hcut
  simp [input, hindex, hopen, hempty, hcut, Text.cutLines, readLines_of_map hr hread, setSubscriber]

end ProofDesk
