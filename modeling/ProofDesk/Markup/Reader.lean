import ProofDesk.Markup.Element
import ProofDesk.Text.Alphanumeric
import ProofDesk.Text.Blank
import ProofDesk.Text.Cut
import ProofDesk.Text.Numeral
import ProofDesk.Text.Quoted
import ProofDesk.Text.Utf8

/-!
# Reading markup from the front of a buffer

A buffer holds the bytes that have arrived so far. `readFirst` reads one element off its front, says
that more bytes are needed, or says where and why no further byte can help. It reads tag by tag and
keeps the elements that are still open in a stack, so what it needs is bounded by what it has read.

Blanks may stand in front of the element, around the equals sign of an attribute and inside the end
of a tag. Entities are the five predefined ones, `nbsp` for a plain space, and numeric references.
-/

namespace ProofDesk.Markup

/-- Why a buffer begins with no element. -/
inductive Cause where
  /-- A fixed character was needed and another stood there. -/
  | expected (wanted found : Char)
  | expectedName
  | mismatch (close opened : String)
  | unquotedValue
  /-- An ampersand without a semicolon behind it, in the given text. -/
  | unterminatedEntity (text : String)
  | unknownEntity (entity : String)
  | notUtf8
  /-- Something follows the element where nothing may. -/
  | trailingData
  | endOfInput
  deriving Repr, DecidableEq

/-- The wording of a cause. -/
def Cause.message : Cause → String
  | expected wanted found =>
    "expected '" ++ wanted.toString ++ "', found '" ++ found.toString ++ "'"
  | expectedName => "expected a name"
  | mismatch close opened => "closing </" ++ close ++ "> does not match <" ++ opened ++ ">"
  | unquotedValue => "attribute value must be quoted"
  | unterminatedEntity text => "unterminated entity in " ++ Text.quoted text
  | unknownEntity entity => "unknown entity &" ++ entity ++ ";"
  | notUtf8 => "invalid UTF-8"
  | trailingData => "trailing data after element"
  | endOfInput => "unexpected end of input"

/-- Malformed markup: the byte offset and the cause. -/
structure ReadError where
  offset : Nat
  cause : Cause
  deriving Repr, DecidableEq

/-- The wording of a read error. -/
def ReadError.message (e : ReadError) : String :=
  s!"malformed XML at byte {e.offset}: {e.cause.message}"

/-- What reading one part comes to. -/
inductive Outcome (α : Type) where
  /-- The part was read and `rest` is left. -/
  | done (value : α) (rest : List Char)
  /-- The characters end before the part does. -/
  | incomplete
  /-- The part cannot be read; `here` is what was left at the fault. -/
  | malformed (here : List Char) (cause : Cause)

/-- Read a second part after the first. -/
def Outcome.bind {α β : Type} (x : Outcome α) (f : α → List Char → Outcome β) : Outcome β :=
  match x with
  | done a rest => f a rest
  | incomplete => incomplete
  | malformed here cause => malformed here cause

/-- Whether `c` may stand in a name. -/
def isNameChar (c : Char) : Bool :=
  Text.isAlphanumeric c || c == '_' || c == '-' || c == '.' || c == ':'

/-- A name. It is complete only when a character that belongs to no name follows. -/
def readName (cs : List Char) : Outcome String :=
  let name := cs.takeWhile isNameChar
  match cs.dropWhile isNameChar with
  | [] => .incomplete
  | c :: rest =>
    if name.isEmpty then .malformed cs .expectedName else .done (String.ofList name) (c :: rest)

/-- The fixed character `wanted`. -/
def readChar (wanted : Char) : List Char → Outcome Unit
  | [] => .incomplete
  | c :: rest => if c = wanted then .done () rest else .malformed (c :: rest) (.expected wanted c)

/-- The character that a numeric reference stands for, where `digits` is what follows the number
sign. -/
def numericChar? (digits : List Char) : Option Char :=
  let code? := match digits with
    | 'x' :: hex | 'X' :: hex => Text.natural? 16 Text.max32 hex
    | decimal => Text.natural? 10 Text.max32 decimal
  code?.bind fun n => if n.isValidChar then some (Char.ofNat n) else none

/-- The character that an entity stands for. -/
def entityChar? (entity : List Char) : Option Char :=
  match entity with
  | '#' :: digits => numericChar? digits
  | _ =>
    match String.ofList entity with
    | "lt" => some '<'
    | "gt" => some '>'
    | "amp" => some '&'
    | "quot" => some '"'
    | "apos" => some '\''
    | "nbsp" => some ' '
    | _ => none

/-- The characters that the rest `cs` of an escaped text means; `whole` is all of that text. -/
def unescapeFrom (whole : List Char) : List Char → Except Cause (List Char)
  | [] => .ok []
  | c :: cs =>
    if c = '&' then
      match _h : cs.dropWhile (· != ';') with
      | [] => .error (.unterminatedEntity (String.ofList whole))
      | _ :: rest =>
        let entity := cs.takeWhile (· != ';')
        match entityChar? entity with
        | none => .error (.unknownEntity (String.ofList entity))
        | some x => (unescapeFrom whole rest).map (x :: ·)
    else (unescapeFrom whole cs).map (c :: ·)
termination_by cs => cs.length
decreasing_by
  · have := (List.dropWhile_suffix (· != ';') (l := cs)).length_le
    simp_all; omega
  · simp

/-- The text that an escaped text means. -/
def unescape (cs : List Char) : Except Cause String :=
  (unescapeFrom cs cs).map String.ofList

/-- A value between quotes of either kind. -/
def readValue : List Char → Outcome String
  | [] => .incomplete
  | quote :: cs =>
    if quote = '"' ∨ quote = '\'' then
      match cs.dropWhile (· != quote) with
      | [] => .incomplete
      | _ :: rest =>
        match unescape (cs.takeWhile (· != quote)) with
        | .ok value => .done value rest
        | .error cause => .malformed cs cause
    else .malformed (quote :: cs) .unquotedValue

/-- An attribute: its key, an equals sign and its value. -/
def readAttr (cs : List Char) : Outcome (String × String) :=
  (readName cs).bind fun key rest =>
    (readChar '=' (Text.trimFront rest)).bind fun _ rest =>
      (readValue (Text.trimFront rest)).bind fun value rest => .done (key, value) rest

/-- Reading a name takes something off the text. -/
theorem readName_length {cs rest : List Char} {name : String} (h : readName cs = .done name rest) :
    rest.length < cs.length := by
  have hl : (cs.takeWhile isNameChar).length + (cs.dropWhile isNameChar).length = cs.length := by
    rw [← List.length_append, List.takeWhile_append_dropWhile]
  simp only [readName] at h
  split at h
  · simp at h
  · next c r hd =>
    split at h
    · simp at h
    · next hne =>
      simp only [Outcome.done.injEq] at h
      obtain ⟨-, rfl⟩ := h
      have : 0 < (cs.takeWhile isNameChar).length := by
        rw [List.length_pos_iff]; simpa using hne
      rw [hd] at hl; omega

theorem readChar_length {wanted : Char} {cs rest : List Char}
    (h : readChar wanted cs = .done () rest) :
    rest.length < cs.length := by
  cases cs with
  | nil => simp [readChar] at h
  | cons c cs =>
    simp only [readChar] at h
    split at h <;> simp_all

theorem readValue_length {cs rest : List Char} {value : String}
    (h : readValue cs = .done value rest) :
    rest.length < cs.length := by
  cases cs with
  | nil => simp [readValue] at h
  | cons quote cs =>
    simp only [readValue] at h
    split at h
    · split at h
      · simp at h
      · next hd =>
        have := (List.dropWhile_suffix (· != quote) (l := cs)).length_le
        rw [hd] at this
        split at h
        · simp_all; omega
        · simp at h
    · simp at h

theorem trimFront_length (cs : List Char) : (Text.trimFront cs).length ≤ cs.length :=
  (List.dropWhile_suffix _).length_le

/-- A result of two steps comes out of the first by way of its result. -/
theorem Outcome.bind_eq_done {α β : Type} {x : Outcome α} {f : α → List Char → Outcome β} {b : β}
    {rest : List Char} (h : x.bind f = .done b rest) :
    ∃ a here, x = .done a here ∧ f a here = .done b rest := by
  cases x with
  | done a here => exact ⟨a, here, rfl, h⟩
  | incomplete => simp [Outcome.bind] at h
  | malformed => simp [Outcome.bind] at h

theorem readAttr_length {cs rest : List Char} {attr : String × String}
    (h : readAttr cs = .done attr rest) : rest.length < cs.length := by
  obtain ⟨key, r1, h1, h⟩ := Outcome.bind_eq_done h
  obtain ⟨_, r2, h2, h⟩ := Outcome.bind_eq_done h
  obtain ⟨value, r3, h3, h⟩ := Outcome.bind_eq_done h
  simp only [Outcome.done.injEq] at h
  obtain ⟨-, rfl⟩ := h
  have := readName_length h1
  have := readChar_length h2
  have := readValue_length h3
  have := trimFront_length r1
  have := trimFront_length r2
  omega

/-- An opening tag: its name, its attributes, and whether it closes itself. -/
structure Tag where
  name : String
  attrs : List (String × String)
  isClosed : Bool

/-- The attributes and the end of an opening tag whose attributes so far are `attrs`, last first. -/
def readTagEnd (name : String) (attrs : List (String × String)) (cs : List Char) : Outcome Tag :=
  match _h : Text.trimFront cs with
  | [] => .incomplete
  | c :: rest =>
    if c = '/' then (readChar '>' rest).bind fun _ rest => .done ⟨name, attrs.reverse, true⟩ rest
    else if c = '>' then .done ⟨name, attrs.reverse, false⟩ rest
    else
      match _h : readAttr (c :: rest) with
      | .done attr rest => readTagEnd name (attr :: attrs) rest
      | .incomplete => .incomplete
      | .malformed here cause => .malformed here cause
termination_by cs.length
decreasing_by
  have := readAttr_length _h
  have := trimFront_length cs
  simp_all; omega

/-- An opening tag. -/
def readTag (cs : List Char) : Outcome Tag :=
  (readChar '<' cs).bind fun _ rest => (readName rest).bind fun name rest => readTagEnd name [] rest

theorem readTagEnd_length {name : String} {attrs : List (String × String)}
    {cs rest : List Char} {tag : Tag}
    (h : readTagEnd name attrs cs = .done tag rest) : rest.length < cs.length := by
  fun_induction readTagEnd name attrs cs with
  | case1 => simp at h
  | case2 attrs cs rest' ht =>
    -- the slash goes, and the bracket behind it
    obtain ⟨_, r, h1, h⟩ := Outcome.bind_eq_done h
    simp only [Outcome.done.injEq] at h
    obtain ⟨-, rfl⟩ := h
    have := readChar_length h1
    have := trimFront_length cs
    simp_all; omega
  | case3 attrs cs rest' ht =>
    have := trimFront_length cs
    simp only [Outcome.done.injEq] at h
    obtain ⟨-, rfl⟩ := h
    rw [ht, List.length_cons] at this
    omega
  | case4 attrs cs c rest' ht _ _ attr r hr ih =>
    -- an attribute goes, and then the rest of the tag
    have := ih h
    have := readAttr_length hr
    have := trimFront_length cs
    simp_all; omega
  | case5 => simp at h
  | case6 => simp at h

theorem readTag_length {cs rest : List Char} {tag : Tag} (h : readTag cs = .done tag rest) :
    rest.length < cs.length := by
  obtain ⟨_, r1, h1, h⟩ := Outcome.bind_eq_done h
  obtain ⟨name, r2, h2, h⟩ := Outcome.bind_eq_done h
  have := readChar_length h1
  have := readName_length h2
  have := readTagEnd_length h
  omega

/-- A closing tag, read from behind its `</`; it must close the element called `opened`. -/
def readClose (opened : String) (cs : List Char) : Outcome Unit :=
  (readName cs).bind fun close rest =>
    if close = opened then readChar '>' (Text.trimFront rest)
    else .malformed rest (.mismatch close opened)

theorem readClose_length {opened : String} {cs rest : List Char}
    (h : readClose opened cs = .done () rest) :
    rest.length < cs.length := by
  obtain ⟨close, r1, h1, h⟩ := Outcome.bind_eq_done h
  have := readName_length h1
  have := trimFront_length r1
  split at h
  · have := readChar_length h; omega
  · simp at h

/-- An element whose opening tag has been read: its name, its attributes, and its content so far,
last first. -/
structure Open where
  name : String
  attrs : List (String × String)
  content : List Node

/-- The element that an open one becomes when it is closed. -/
def Open.close (o : Open) : Element :=
  ⟨o.name, o.attrs, o.content.reverse⟩

/-- The open element with one more piece of content. -/
def Open.push (o : Open) (n : Node) : Open :=
  { o with content := n :: o.content }

/-- Read on inside the element `inner`, which is open inside the elements `outer`, innermost
first. -/
def readContent (inner : Open) (outer : List Open) (cs : List Char) : Outcome Element :=
  match cs with
  | [] => .incomplete
  -- a lone bracket may open or close an element
  | ['<'] => .incomplete
  | '<' :: '/' :: rest =>
    match _h : readClose inner.name rest with
    | .done _ rest =>
      match outer with
      | [] => .done inner.close rest
      | o :: os => readContent (o.push inner.close.toNode) os rest
    | .incomplete => .incomplete
    | .malformed here cause => .malformed here cause
  | '<' :: c :: rest =>
    match _h : readTag ('<' :: c :: rest) with
    | .done tag rest =>
      if tag.isClosed then readContent (inner.push (.element tag.name tag.attrs [])) outer rest
      else readContent ⟨tag.name, tag.attrs, []⟩ (inner :: outer) rest
    | .incomplete => .incomplete
    | .malformed here cause => .malformed here cause
  | c :: rest =>
    match _h : rest.dropWhile (· != '<') with
    -- text is complete, and its faults count, only when a bracket follows
    | [] => .incomplete
    | next :: after =>
      match unescape (c :: rest.takeWhile (· != '<')) with
      | .ok text => readContent (inner.push (.text text)) outer (next :: after)
      | .error cause => .malformed (c :: rest) cause
termination_by cs.length
decreasing_by
  · have := readClose_length _h; simp; omega
  · have := readTag_length _h; simp_all
  · have := readTag_length _h; simp_all
  · have := (List.dropWhile_suffix (· != '<') (l := rest)).length_le
    rw [_h] at this; simp at this ⊢; omega

/-- One element off the front. -/
def readElement (cs : List Char) : Outcome Element :=
  (readTag cs).bind fun tag rest =>
    if tag.isClosed then .done ⟨tag.name, tag.attrs, []⟩ rest
    else readContent ⟨tag.name, tag.attrs, []⟩ [] rest

theorem readContent_length {inner : Open} {outer : List Open} {cs rest : List Char} {e : Element}
    (h : readContent inner outer cs = .done e rest) : rest.length < cs.length := by
  fun_induction readContent inner outer cs with
  | case1 => simp at h
  | case2 => simp at h
  | case3 _ _ _ _ hc =>
    -- the end tag of the outermost element is the end
    simp only [Outcome.done.injEq] at h
    obtain ⟨-, rfl⟩ := h
    have := readClose_length hc
    simp; omega
  | case4 _ _ _ _ hc _ _ ih => have := ih h; have := readClose_length hc; simp; omega
  | case5 => simp at h
  | case6 => simp at h
  | case7 _ _ _ _ _ _ _ hc _ ih => have := ih h; have := readTag_length hc; simp_all; omega
  | case8 _ _ _ _ _ _ _ hc _ ih => have := ih h; have := readTag_length hc; simp_all; omega
  | case9 => simp at h
  | case10 => simp at h
  | case11 => simp at h
  | case12 _ _ _ rest _ _ _ _ _ hd _ _ ih =>
    have := ih h
    -- text goes up to the next bracket, at least its first character
    have := (List.dropWhile_suffix (· != '<') (l := rest)).length_le
    rw [hd] at this; simp at *; omega
  | case13 => simp at h

theorem readElement_length {cs rest : List Char} {e : Element} (h : readElement cs = .done e rest) :
    rest.length < cs.length := by
  obtain ⟨tag, r, h1, h⟩ := Outcome.bind_eq_done h
  have := readTag_length h1
  split at h
  · simp_all
  · have := readContent_length h; omega

/-- The number of bytes between the front of `cs` and its part `rest`. -/
def passed (cs rest : List Char) : Nat :=
  Text.size (cs.take (cs.length - rest.length))

/-- Read one element off the front of a buffer, behind blanks: the element and the number of bytes
that it and the blanks take, or nothing while more bytes are needed. Bytes that are not UTF-8
anywhere in the buffer are an error, unless they may still become a character at its end. -/
def readFirst (buffer : List UInt8) : Except ReadError (Option (Element × Nat)) :=
  match Text.decode buffer with
  | (cs, .invalid _) => .error ⟨Text.size cs, .notUtf8⟩
  | (cs, _) =>
    match Text.trimFront cs with
    | [] => .ok none
    | c :: here =>
      match readElement (c :: here) with
      | .done e rest => .ok (some (e, passed cs rest))
      | .incomplete => .ok none
      | .malformed fault cause => .error ⟨passed cs fault, cause⟩

/-- Reading an element takes at least one byte off a buffer that holds some. -/
theorem readFirst_pos {buffer : List UInt8} {e : Element} {used : Nat}
    (h : readFirst buffer = .ok (some (e, used))) : 0 < used ∧ 0 < buffer.length := by
  have hb : 0 < buffer.length := by
    cases buffer with
    | nil => simp [readFirst, Text.decode, Text.trimFront] at h
    | cons => simp
  refine ⟨?_, hb⟩
  simp only [readFirst] at h
  split at h
  · simp at h
  · next cs _ _ _ =>
    split at h
    · simp at h
    · next c here ht =>
      split at h
      · next rest hr =>
        simp only [Except.ok.injEq, Option.some.injEq, Prod.mk.injEq] at h
        obtain ⟨-, rfl⟩ := h
        -- the element takes a character, and every character has bytes
        have h1 := readElement_length hr
        have h2 := trimFront_length cs
        rw [ht] at h2
        cases cs with
        | nil => simp at h2
        | cons d ds =>
          -- so the characters in front of the rest are not none
          obtain ⟨k, hk⟩ : ∃ k, (d :: ds).length - rest.length = k + 1 :=
            ⟨(d :: ds).length - rest.length - 1, by simp at *; omega⟩
          simp only [passed, hk, List.take_succ_cons, Text.size_cons]
          have := Char.utf8Size_pos d
          omega
      · simp at h
      · simp at h

/-- Read a text that holds exactly one element and blanks around it. -/
def parse (s : String) : Except ReadError Element :=
  let buffer := Text.bytes s
  match readFirst buffer with
  | .error e => .error e
  | .ok none => .error ⟨buffer.length, .endOfInput⟩
  | .ok (some (e, used)) =>
    if (Text.trim (Text.onwards s.toList used)).isEmpty then .ok e else .error ⟨used, .trailingData⟩

end ProofDesk.Markup
