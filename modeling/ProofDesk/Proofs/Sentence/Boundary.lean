import ProofDesk.Proofs.Text.Utf8
import ProofDesk.Sentence.Scan

/-!
# Sentences begin and end between characters

The scanners look at bytes, but every byte that decides where a sentence begins or ends is a
character of its own. So what they leave is again the bytes of a text: bytes are `Aligned` with a
text if they are those of a rest of it, and `Within` it if they may begin inside a character. A byte
below `0x80` leads from the latter back to the former.
-/

namespace ProofDesk

namespace Text

/-- The bytes of a rest of a text. -/
def Aligned (cs : List Char) (bs : List UInt8) : Prop :=
  ∃ rest, rest <:+ cs ∧ bs = encode rest

/-- The bytes of a text from anywhere on, perhaps from inside a character. -/
def Within (cs : List Char) (bs : List UInt8) : Prop :=
  ∃ inner rest, rest <:+ cs ∧ (∀ b ∈ inner, 0x80 ≤ b) ∧ bs = inner ++ encode rest

section Aligned

variable {cs : List Char} {b : UInt8} {bs : List UInt8}

/-- All bytes of a text are those of a rest of it. -/
theorem aligned_encode (cs : List Char) : Aligned cs (encode cs) :=
  ⟨cs, List.suffix_refl _, rfl⟩

/-- The bytes of a rest of a text lie within the text. -/
theorem Aligned.within (h : Aligned cs bs) : Within cs bs := by
  obtain ⟨rest, hrest, rfl⟩ := h
  exact ⟨[], rest, hrest, by simp, rfl⟩

/-- Behind a byte the next character begins, or the byte is one of several of a character. -/
theorem Within.cons_cases (h : Within cs (b :: bs)) : Aligned cs bs ∨ 0x80 ≤ b ∧ Within cs bs := by
  obtain ⟨inner, rest, hrest, hinner, heq⟩ := h
  cases inner with
  | cons i inner =>
    rw [List.cons_append, List.cons.injEq] at heq
    obtain ⟨rfl, heq⟩ := heq
    exact .inr ⟨hinner b List.mem_cons_self, inner, rest, hrest,
      fun b hb => hinner b (List.mem_cons_of_mem _ hb), heq⟩
  | nil =>
    cases rest with
    | nil => simp at heq
    | cons c rest =>
      -- the byte begins a character: the only byte of it, or the first of several
      have hsuffix : rest <:+ cs := (List.suffix_cons c rest).trans hrest
      rw [List.nil_append, encode_cons] at heq
      rcases utf8EncodeChar_cases c with ⟨a, ha⟩ | hhigh
      · rw [ha, List.singleton_append, List.cons.injEq] at heq
        exact .inl ⟨rest, hsuffix, heq.2⟩
      · cases henc : String.utf8EncodeChar c with
        | nil => exact absurd henc String.utf8EncodeChar_ne_nil
        | cons a as =>
          rw [henc, List.cons_append, List.cons.injEq] at heq
          obtain ⟨rfl, heq⟩ := heq
          rw [henc] at hhigh
          exact .inr ⟨hhigh b List.mem_cons_self, as, rest, hsuffix,
            fun b hb => hhigh b (List.mem_cons_of_mem _ hb), heq⟩

/-- What lies within a text still does without its first byte. -/
theorem Within.tail (h : Within cs (b :: bs)) : Within cs bs := by
  rcases h.cons_cases with haligned | ⟨-, hwithin⟩
  · exact haligned.within
  · exact hwithin

/-- Behind a byte that is a character of its own the next character begins. -/
theorem Within.aligned (h : Within cs (b :: bs)) (hb : b < 0x80) : Aligned cs bs :=
  h.cons_cases.resolve_right fun hhigh => absurd hhigh.1 (UInt8.not_le.2 hb)

/-- Behind a run of one ASCII sign stands a rest of the text. -/
theorem Aligned.dropWhile (h : Aligned cs bs) (hb : b < 0x80) :
    Aligned cs (bs.dropWhile (· == b)) := by
  induction bs with
  | nil => exact h
  | cons a as ih =>
    rw [List.dropWhile_cons]
    split
    · next ha =>
      rw [beq_iff_eq] at ha
      exact ih (h.within.aligned (ha ▸ hb))
    · exact h

end Aligned

end Text

namespace Sentence

open Text

variable {cs : List Char} {bs : List UInt8}

/-- Behind a comment stands a rest of the text. -/
theorem closeComment_aligned {depth : Nat} {rest : List UInt8} (hw : Within cs bs)
    (h : closeComment depth bs = some rest) : Aligned cs rest := by
  fun_induction closeComment depth bs with
  | case1 _ _ _ _ _ ih => exact ih hw.tail.tail h
  | case2 depth a b rest' hopen hclose _ =>
    rw [Option.some.injEq] at h
    subst h
    exact hw.tail.aligned (hclose.2 ▸ by decide)
  | case3 _ _ _ _ _ _ _ ih => exact ih hw.tail.tail h
  | case4 _ _ _ _ _ _ ih => exact ih hw.tail h
  | case5 => simp at h

/-- Behind a quoted part stands a rest of the text. -/
private theorem closeString_aligned {rest : List UInt8} (hw : Within cs bs)
    (h : closeString bs = some rest) :
    Aligned cs rest := by
  fun_induction closeString bs with
  | case1 => simp at h
  | case2 =>
    rw [Option.some.injEq] at h
    subst h
    exact hw.aligned (by decide)
  | case3 _ _ _ ih => exact ih hw.tail h

/-- The blanks between sentences are ASCII signs. -/
private theorem isBlankByte_lt {b : UInt8} (h : isBlankByte b = true) : b < 0x80 := by
  simp only [isBlankByte, Bool.or_eq_true, beq_iff_eq] at h
  rcases h with (((rfl | rfl) | rfl) | rfl) | rfl <;> decide

/-- Behind blanks and comments a character begins. -/
theorem skipBlanks_aligned {here : List UInt8} (ha : Aligned cs bs) (h : skipBlanks bs = .ok here) :
    Aligned cs here := by
  fun_induction skipBlanks bs with
  | case1 =>
    rw [Except.ok.injEq] at h
    exact h ▸ ha
  | case2 _ _ hblank ih => exact ih (ha.within.aligned (isBlankByte_lt hblank)) h
  | case3 => simp at h
  | case4 b rest _ _ after hc ih =>
    refine ih (closeComment_aligned ?_ hc) h
    -- the opening bracket and the star behind it are skipped
    cases rest with
    | nil => exact ha.within.tail
    | cons _ _ => exact ha.within.tail.tail
  | case5 =>
    rw [Except.ok.injEq] at h
    exact h ▸ ha

/-- Behind a terminator a character begins. -/
theorem afterTerminator_aligned {after : List UInt8} (hw : Within cs bs)
    (h : afterTerminator bs = .ok (some after)) : Aligned cs after := by
  fun_induction afterTerminator bs with
  | case1 => simp at h
  | case2 => simp at h
  | case3 b rest _ after' hc ih =>
    -- the bytes that open the comment are characters of their own
    refine ih (closeComment_aligned ?_ hc).within h
    cases rest with
    | nil => exact hw.tail
    | cons _ _ => exact hw.tail.tail
  | case4 => simp at h
  | case5 _ _ hc _ ih => exact ih (closeString_aligned hw.tail hc).within h
  | case6 rest =>
    simp only [Except.ok.injEq, Option.some.injEq] at h
    subst h
    -- dots are characters of their own too
    exact (hw.aligned (by decide)).dropWhile (by decide)
  | case7 rest _ _ _ ih => exact ih ((hw.aligned (by decide)).dropWhile (by decide)).within h
  | case8 _ _ _ _ _ ih => exact ih hw.tail h

/-- Behind a sentence a character begins. -/
theorem afterSentence_aligned {after : List UInt8} (ha : Aligned cs bs)
    (h : afterSentence bs = .ok (some after)) :
    Aligned cs after := by
  cases bs with
  | nil => simp [afterSentence] at h
  | cons b rest =>
    simp only [afterSentence] at h
    split at h
    · next hbullet =>
      -- bullets and braces are characters of one byte
      have hb : b < 0x80 := by
        simp only [isBullet, Bool.or_eq_true, beq_iff_eq] at hbullet
        rcases hbullet with (rfl | rfl) | rfl <;> decide
      simp only [Except.ok.injEq, Option.some.injEq] at h
      subst h
      exact (ha.within.aligned hb).dropWhile hb
    · split at h
      · next hbrace =>
        have hb : b < 0x80 := by
          simp only [isBrace, Bool.or_eq_true, beq_iff_eq] at hbrace
          rcases hbrace with rfl | rfl <;> decide
        simp only [Except.ok.injEq, Option.some.injEq] at h
        subst h
        exact ha.within.aligned hb
      · exact afterTerminator_aligned ha.within h

/-- The next sentence after a front part of a text is a part of what follows. -/
theorem exists_append_of_next {text : String} {front rest : List Char}
    (htext : text.toList = front ++ rest) {span : Span}
    (h : next text (Text.size front) = .ok (some span)) :
    ∃ before part after, rest = before ++ part ++ after ∧ span.start = Text.size (front ++ before) ∧
      span.stop = Text.size (front ++ before ++ part) := by
  unfold next scan at h
  have hdrop : (bytes text).drop (Text.size front) = encode rest := by
    rw [bytes, htext, encode_append, ← length_encode, List.drop_left]
  dsimp only at h
  rw [hdrop] at h
  -- both ends are found by skipping bytes, and what is left are the bytes of a rest each time
  cases hskip : skipBlanks (encode rest) with
  | error e => simp [hskip] at h
  | ok here =>
    rw [hskip] at h
    obtain ⟨begun, ⟨before, hbegun⟩, rfl⟩ := skipBlanks_aligned (aligned_encode rest) hskip
    dsimp only at h
    cases hend : afterSentence (encode begun) with
    | error e => simp [hend] at h
    | ok after? =>
      rw [hend] at h
      cases after? with
      | none => simp at h
      | some left =>
        obtain ⟨after, ⟨part, hpart⟩, rfl⟩ := afterSentence_aligned (aligned_encode begun) hend
        simp only [Except.ok.injEq, Option.some.injEq] at h
        have hrest : rest = before ++ part ++ after := by rw [List.append_assoc, hpart, hbegun]
        refine ⟨before, part, after, hrest, ?_, ?_⟩
        · rw [← h, spanOf, bytes, htext, hrest, ← hpart]
          simp only [length_encode, size_append]
          omega
        · rw [← h, spanOf, bytes, htext, hrest]
          simp only [length_encode, size_append]
          omega

end Sentence

end ProofDesk
