import ProofDesk.Text.Blank
import ProofDesk.Text.Utf8

/-!
# Where sentences end

A document is checked sentence by sentence. A sentence ends with one dot or three that stand before
a blank or the end of the text. A run of one bullet sign (`-`, `+` or `*`) and a single brace are
sentences of their own where a sentence would begin. Comments, which nest, and strings hide what is
inside them.

The scanners work on what is left of the bytes and return what is left after their part; offsets
appear only in `next`, as lengths of what was passed. Each scanner's small lemma says that it
returns a shorter rest.
-/

namespace ProofDesk

/-- A half-open range of byte offsets. -/
structure Span where
  /-- The offset of the first byte. -/
  start : Nat
  /-- The offset after the last byte. -/
  stop : Nat
  deriving Repr, DecidableEq, Inhabited

namespace Span

/-- The number of bytes of a span, none if it is inverted. -/
def length (s : Span) : Nat := s.stop - s.start

/-- The span moved by `delta` bytes, but never in front of the text. -/
def shift (s : Span) (delta : Int) : Span :=
  { start := (s.start + delta).toNat, stop := (s.stop + delta).toNat }

end Span

/-- A delimiter that is opened and never closed, with the offset where it opens. -/
inductive SplitError where
  | comment (start : Nat)
  | string (start : Nat)
  deriving Repr, DecidableEq

namespace SplitError

/-- Where the unclosed delimiter opens. -/
def offset : SplitError → Nat
  | comment start | string start => start

/-- The wording of a split error. -/
def message : SplitError → String
  | comment start => s!"comment opened at offset {start} is never closed"
  | string start => s!"string opened at offset {start} is never closed"

end SplitError

namespace Sentence

/-- Which delimiter was left open, with the bytes from its opening on. -/
inductive Unclosed where
  | comment (opening : List UInt8)
  | string (opening : List UInt8)

/-- Whether a comment opens here: `(*`. -/
def opensComment : List UInt8 → Bool
  | a :: b :: _ => a == '('.toUInt8 && b == '*'.toUInt8
  | _ => false

/-- What is left after `depth` further comment closings, where `(*` opens one more and `*)` closes
one. -/
def closeComment (depth : Nat) : List UInt8 → Option (List UInt8)
  | a :: b :: rest =>
    if a = '('.toUInt8 ∧ b = '*'.toUInt8 then closeComment (depth + 1) rest
    else if a = '*'.toUInt8 ∧ b = ')'.toUInt8 then
      if depth ≤ 1 then some rest else closeComment (depth - 1) rest
    else closeComment depth (b :: rest)
  | _ => none

/-- What is left after the next double quote. -/
def closeString : List UInt8 → Option (List UInt8)
  | [] => none
  | b :: rest => if b = '"'.toUInt8 then some rest else closeString rest

theorem closeComment_length {depth : Nat} {bs rest : List UInt8}
    (h : closeComment depth bs = some rest) :
    rest.length < bs.length := by
  fun_induction closeComment depth bs with
  | case1 _ _ _ _ _ ih => have := ih h; simp; omega
  | case2 =>
    simp only [Option.some.injEq] at h
    subst h
    simp only [List.length_cons]
    omega
  | case3 _ _ _ _ _ _ _ ih => have := ih h; simp; omega
  | case4 _ _ _ _ _ _ ih => have := ih h; simp_all; omega
  | case5 => simp at h

theorem closeString_length {bs rest : List UInt8} (h : closeString bs = some rest) :
    rest.length < bs.length := by
  fun_induction closeString bs with
  | case1 => simp at h
  | case2 => simp_all
  | case3 _ _ _ ih => have := ih h; simp; omega

/-- What is left behind a comment is an end of the bytes. -/
theorem closeComment_suffix {depth : Nat} {bs rest : List UInt8}
    (h : closeComment depth bs = some rest) :
    rest <:+ bs := by
  fun_induction closeComment depth bs with
  | case1 _ _ _ _ _ ih => exact (ih h).trans ((List.suffix_cons ..).trans (List.suffix_cons ..))
  | case2 =>
    simp only [Option.some.injEq] at h
    subst h
    exact (List.suffix_cons ..).trans (List.suffix_cons ..)
  | case3 _ _ _ _ _ _ _ ih => exact (ih h).trans ((List.suffix_cons ..).trans (List.suffix_cons ..))
  | case4 _ _ _ _ _ _ ih => exact (ih h).trans (List.suffix_cons ..)
  | case5 => simp at h

theorem closeString_suffix {bs rest : List UInt8} (h : closeString bs = some rest) :
    rest <:+ bs := by
  fun_induction closeString bs with
  | case1 => simp at h
  | case2 => simp_all
  | case3 _ _ _ ih => exact (ih h).trans (List.suffix_cons ..)

/-- The bytes from the first one that is neither a blank nor part of a comment. -/
def skipBlanks : List UInt8 → Except Unclosed (List UInt8)
  | [] => .ok []
  | b :: rest =>
    if Text.isBlankByte b then skipBlanks rest
    else if opensComment (b :: rest) then
      -- the star of the opening is passed over, so that it cannot also close the comment
      match _h : closeComment 1 (rest.drop 1) with
      | none => .error (.comment (b :: rest))
      | some after => skipBlanks after
    else .ok (b :: rest)
termination_by bs => bs.length
decreasing_by
  · simp
  · have := closeComment_length _h; simp at this ⊢; omega

/-- Whether a sentence may end here: before a blank or at the end of the text. -/
def endsHere : List UInt8 → Bool
  | [] => true
  | b :: _ => Text.isBlankByte b

/-- The number of dots in front. -/
def dotCount (bs : List UInt8) : Nat :=
  (bs.takeWhile (· == '.'.toUInt8)).length

/-- What is left after the dots in front. -/
def afterDots (bs : List UInt8) : List UInt8 :=
  bs.dropWhile (· == '.'.toUInt8)

theorem afterDots_length (bs : List UInt8) : (afterDots bs).length ≤ bs.length :=
  (List.dropWhile_suffix _).length_le

/-- Whether the dots in front end a sentence: one or three of them, where a sentence may end. -/
def terminates (bs : List UInt8) : Bool :=
  (dotCount bs == 1 || dotCount bs == 3) && endsHere (afterDots bs)

/-- What is left after the terminator of the sentence that these bytes are part of, if it has
one. -/
def afterTerminator : List UInt8 → Except Unclosed (Option (List UInt8))
  | [] => .ok none
  | b :: rest =>
    if opensComment (b :: rest) then
      match _h : closeComment 1 (rest.drop 1) with
      | none => .error (.comment (b :: rest))
      | some after => afterTerminator after
    else if b = '"'.toUInt8 then
      match _h : closeString rest with
      | none => .error (.string (b :: rest))
      | some after => afterTerminator after
    else if b = '.'.toUInt8 then
      -- dots are passed over together, so that a run of two or of four never ends a sentence
      if terminates (b :: rest) then .ok (some (afterDots rest))
      else afterTerminator (afterDots rest)
    else afterTerminator rest
termination_by bs => bs.length
decreasing_by
  · have := closeComment_length _h; simp at this ⊢; omega
  · have := closeString_length _h; simp at this ⊢; omega
  · have := afterDots_length rest; simp; omega
  · simp

/-- Whether `b` is a bullet sign. -/
def isBullet (b : UInt8) : Bool :=
  b == '-'.toUInt8 || b == '+'.toUInt8 || b == '*'.toUInt8

/-- Whether `b` is a brace. -/
def isBrace (b : UInt8) : Bool :=
  b == '\x7b'.toUInt8 || b == '\x7d'.toUInt8

/-- What is left after the sentence that begins with these bytes, if one does and it is complete. -/
def afterSentence : List UInt8 → Except Unclosed (Option (List UInt8))
  | [] => .ok none
  | b :: rest =>
    if isBullet b then .ok (some (rest.dropWhile (· == b)))
    else if isBrace b then .ok (some rest)
    else afterTerminator (b :: rest)

theorem skipBlanks_length {bs here : List UInt8} (h : skipBlanks bs = .ok here) :
    here.length ≤ bs.length := by
  fun_induction skipBlanks bs with
  | case1 => simp_all
  | case2 _ _ _ ih => have := ih h; simp; omega
  | case3 => simp at h
  | case4 _ _ _ _ _ hc ih => have := ih h; have := closeComment_length hc; simp at this ⊢; omega
  | case5 => simp_all

theorem afterTerminator_length {bs after : List UInt8} (h : afterTerminator bs = .ok (some after)) :
    after.length < bs.length := by
  fun_induction afterTerminator bs with
  | case1 => simp at h
  | case2 => simp at h
  | case3 _ _ _ _ hc ih => have := ih h; have := closeComment_length hc; simp at this ⊢; omega
  | case4 => simp at h
  | case5 _ _ hc _ ih => have := ih h; have := closeString_length hc; simp at this ⊢; omega
  | case6 rest =>
    have := afterDots_length rest
    simp only [Except.ok.injEq, Option.some.injEq] at h
    subst h; simp; omega
  | case7 rest _ _ _ ih => have := ih h; have := afterDots_length rest; simp; omega
  | case8 _ _ _ _ _ ih => have := ih h; simp; omega

/-- Passing a sentence takes something off the bytes. -/
theorem afterSentence_length {bs after : List UInt8} (h : afterSentence bs = .ok (some after)) :
    after.length < bs.length := by
  match bs with
  | [] => simp [afterSentence] at h
  | b :: rest =>
    simp only [afterSentence] at h
    split at h
    · have := (List.dropWhile_suffix (· == b) (l := rest)).length_le
      simp only [Except.ok.injEq, Option.some.injEq] at h
      subst h; simp; omega
    · split at h
      · simp_all
      · exact afterTerminator_length h

theorem skipBlanks_suffix {bs here : List UInt8} (h : skipBlanks bs = .ok here) : here <:+ bs := by
  fun_induction skipBlanks bs with
  | case1 => simp_all
  | case2 _ _ _ ih => exact (ih h).trans (List.suffix_cons ..)
  | case3 => simp at h
  | case4 _ _ _ _ _ hc ih =>
    exact (ih h).trans
      ((closeComment_suffix hc).trans ((List.drop_suffix ..).trans (List.suffix_cons ..)))
  | case5 => simp_all

theorem afterTerminator_suffix {bs after : List UInt8} (h : afterTerminator bs = .ok (some after)) :
    after <:+ bs := by
  fun_induction afterTerminator bs with
  | case1 => simp at h
  | case2 => simp at h
  | case3 _ _ _ _ hc ih =>
    exact (ih h).trans
      ((closeComment_suffix hc).trans ((List.drop_suffix ..).trans (List.suffix_cons ..)))
  | case4 => simp at h
  | case5 _ _ hc _ ih => exact (ih h).trans ((closeString_suffix hc).trans (List.suffix_cons ..))
  | case6 rest =>
    simp only [Except.ok.injEq, Option.some.injEq] at h
    subst h
    exact (List.dropWhile_suffix _).trans (List.suffix_cons ..)
  | case7 rest _ _ _ ih =>
    exact (ih h).trans ((List.dropWhile_suffix _).trans (List.suffix_cons ..))
  | case8 _ _ _ _ _ ih => exact (ih h).trans (List.suffix_cons ..)

/-- What is left behind a sentence is an end of the bytes. -/
theorem afterSentence_suffix {bs after : List UInt8} (h : afterSentence bs = .ok (some after)) :
    after <:+ bs := by
  match bs with
  | [] => simp [afterSentence] at h
  | b :: rest =>
    simp only [afterSentence] at h
    split at h
    · simp only [Except.ok.injEq, Option.some.injEq] at h
      subst h
      exact (List.dropWhile_suffix _).trans (List.suffix_cons ..)
    · split at h
      · simp only [Except.ok.injEq, Option.some.injEq] at h
        subst h
        exact List.suffix_cons ..
      · exact afterTerminator_suffix h

/-- The error for a delimiter left open in a text of `total` bytes. -/
def Unclosed.at (total : Nat) : Unclosed → SplitError
  | comment opening => .comment (total - opening.length)
  | string opening => .string (total - opening.length)

/-- The first complete sentence of some bytes: what is left at its start and after its end. -/
def scan (bs : List UInt8) : Except Unclosed (Option (List UInt8 × List UInt8)) :=
  match skipBlanks bs with
  | .error e => .error e
  | .ok here =>
    match afterSentence here with
    | .error e => .error e
    | .ok none => .ok none
    | .ok (some after) => .ok (some (here, after))

/-- A sentence is not empty, and starts no earlier than the search. -/
theorem scan_length {bs here after : List UInt8} (h : scan bs = .ok (some (here, after))) :
    here.length ≤ bs.length ∧ after.length < here.length := by
  simp only [scan] at h
  split at h
  · simp at h
  · next hs =>
    split at h
    · simp at h
    · simp at h
    · next ha =>
      simp only [Except.ok.injEq, Option.some.injEq, Prod.mk.injEq] at h
      obtain ⟨rfl, rfl⟩ := h
      exact ⟨skipBlanks_length hs, afterSentence_length ha⟩

/-- What is left behind the sentence that is found is an end of the bytes. -/
theorem scan_suffix {bs here after : List UInt8} (h : scan bs = .ok (some (here, after))) :
    after <:+ bs := by
  simp only [scan] at h
  split at h
  · simp at h
  · next hs =>
    split at h
    · simp at h
    · simp at h
    · next ha =>
      simp only [Except.ok.injEq, Option.some.injEq, Prod.mk.injEq] at h
      obtain ⟨rfl, rfl⟩ := h
      exact (afterSentence_suffix ha).trans (skipBlanks_suffix hs)

/-- Where a sentence stands in a text of `total` bytes, by what is left at its start and after its
end. -/
def spanOf (total : Nat) (here after : List UInt8) : Span :=
  ⟨total - here.length, total - after.length⟩

/-- The first complete sentence at or after an offset; none if nothing but blanks, comments and an
unfinished sentence is left. -/
def next (text : String) (offset : Nat) : Except SplitError (Option Span) :=
  let bs := Text.bytes text
  match scan (bs.drop offset) with
  | .error e => .error (e.at bs.length)
  | .ok none => .ok none
  | .ok (some (here, after)) => .ok (some (spanOf bs.length here after))

/-- A sentence is not empty, begins at or after the offset and ends inside the text. -/
theorem next_bounds {text : String} {offset : Nat} {span : Span}
    (h : next text offset = .ok (some span)) :
    offset ≤ span.start ∧ span.start < span.stop ∧ span.stop ≤ (Text.bytes text).length := by
  simp only [next] at h
  split at h
  · simp at h
  · simp at h
  · next hs =>
    have := scan_length hs
    simp only [List.length_drop] at this
    simp only [Except.ok.injEq, Option.some.injEq] at h
    subst h; simp only [spanOf]; omega

/-- The sentences of the last bytes of a text of `total` bytes, and the error that ended the search,
if one did. -/
def spansIn (total : Nat) (bs : List UInt8) : List Span × Option SplitError :=
  match _h : scan bs with
  | .error e => ([], some (e.at total))
  | .ok none => ([], none)
  | .ok (some (here, after)) =>
    let rest := spansIn total after
    (spanOf total here after :: rest.1, rest.2)
termination_by bs.length
decreasing_by
  have := scan_length _h
  omega

/-- The sentences from an offset on, and the error that ended the search, if one did. -/
def spansFrom (text : String) (offset : Nat) : List Span × Option SplitError :=
  let bs := Text.bytes text
  spansIn bs.length (bs.drop offset)

/-- The sentences from an offset on are the next one and those from its end on. -/
theorem spansFrom_eq (text : String) (offset : Nat) :
    spansFrom text offset =
      match next text offset with
      | .error e => ([], some e)
      | .ok none => ([], none)
      | .ok (some span) =>
        (span :: (spansFrom text span.stop).1, (spansFrom text span.stop).2) := by
  simp only [spansFrom, next]
  rw [spansIn]
  split
  · next hs => simp [hs]
  · next hs => simp [hs]
  · next here after hs =>
    have hd : after = (Text.bytes text).drop ((Text.bytes text).length - after.length) :=
      List.suffix_iff_eq_drop.1 ((scan_suffix hs).trans (List.drop_suffix ..))
    simp only [hs, spanOf]
    rw [← hd]

/-- The sentences of a text, or why it cannot be split to its end. -/
def splitAll (text : String) : Except SplitError (List Span) :=
  match spansFrom text 0 with
  | (spans, none) => .ok spans
  | (_, some e) => .error e

/-- Whether only blanks and comments are left from an offset on. -/
def isBlankFrom (text : String) (offset : Nat) : Except SplitError Bool :=
  let bs := Text.bytes text
  match skipBlanks (bs.drop offset) with
  | .error e => .error (e.at bs.length)
  | .ok here => .ok here.isEmpty

end Sentence

end ProofDesk
