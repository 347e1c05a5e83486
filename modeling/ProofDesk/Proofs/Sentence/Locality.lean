import Mathlib.Data.List.TakeWhile
import ProofDesk.Proofs.Sentence.Boundary

/-!
# Sentences depend on their surroundings only

A scanner that passes over a part of the bytes looks at that part and at the byte behind it, and at
nothing else. So where the bytes from an offset to the one behind a sentence stand elsewhere, in the
same text or in another one, the same sentence is found there (`next_congr`, `next_moves_along`).
-/

namespace ProofDesk.Sentence

open Text

variable {bs rest rest' after after' : List UInt8} {b : UInt8}

/-- Bytes of one kind are passed over up to the first of another kind. -/
theorem dropWhile_append_of_head {p : UInt8 → Bool} {run : List UInt8}
    (hrun : ∀ b ∈ run, p b = true)
    (hrest : ∀ b, rest.head? = some b → p b = false) : (run ++ rest).dropWhile p = rest := by
  rw [List.dropWhile_append_of_pos hrun]
  cases rest with
  | nil => rfl
  | cons b bs => rw [List.dropWhile_cons_of_neg (by simp [hrest b rfl])]

/-- A run ends where something else stands. -/
theorem takeWhile_append_of_head {p : UInt8 → Bool} {run : List UInt8}
    (hrun : ∀ b ∈ run, p b = true)
    (hrest : ∀ b, rest.head? = some b → p b = false) : (run ++ rest).takeWhile p = run := by
  rw [List.takeWhile_append_of_pos hrun]
  cases rest with
  | nil => rw [List.takeWhile_nil, List.append_nil]
  | cons b bs => rw [List.takeWhile_cons_of_neg (by simp [hrest b rfl]), List.append_nil]

/-- A run of bytes of one kind is followed by a byte of another kind, or by nothing. -/
theorem of_head?_dropWhile {p : UInt8 → Bool} (h : (bs.dropWhile p).head? = some b) :
    p b = false := by
  have hnot := List.head?_dropWhile_not p bs
  rwa [h] at hnot

/-- What stands behind a part that is not empty does not change its first byte. -/
theorem head?_append_of_ne_nil {part : List UInt8} (hne : part ≠ []) (rest rest' : List UInt8) :
    (part ++ rest').head? = (part ++ rest).head? := by
  obtain ⟨b, part, rfl⟩ := List.exists_cons_of_ne_nil hne
  rfl

/-- Whether a comment opens is told by the first two bytes. -/
theorem opensComment_append {part : List UInt8} (hne : part ≠ []) (h : rest'.head? = rest.head?) :
    opensComment (part ++ rest') = opensComment (part ++ rest) := by
  obtain ⟨a, part, rfl⟩ := List.exists_cons_of_ne_nil hne
  cases part with
  | cons b part => rfl
  | nil =>
    cases rest with
    | nil => rw [List.head?_eq_none_iff.1 h]
    | cons b rest =>
      obtain ⟨rest', rfl⟩ := List.head?_eq_some_iff.1 h
      rfl

/-- Only a parenthesis opens a comment. -/
theorem not_opensComment (hb : b ≠ '('.toUInt8) : ¬ opensComment (b :: bs) = true := by
  cases bs with
  | nil => simp [opensComment]
  | cons c bs => simp [opensComment, hb]

/-- A comment is opened by a bracket and a star. -/
private theorem exists_of_opensComment (h : opensComment (b :: bs) = true) :
    ∃ rest, bs = '*'.toUInt8 :: rest := by
  cases bs with
  | nil => simp [opensComment] at h
  | cons c rest =>
    simp only [opensComment, Bool.and_eq_true, beq_iff_eq] at h
    exact ⟨rest, by rw [h.2]⟩

/-! ## What is passed over, step by step -/

/-- A complete comment is passed over between sentences. -/
theorem skipBlanks_of_comment (hblank : ¬ isBlankByte b = true)
    (hopens : opensComment (b :: bs) = true)
    (hclose : closeComment 1 (bs.drop 1) = some rest) : skipBlanks (b :: bs) = skipBlanks rest := by
  rw [skipBlanks, if_neg hblank, if_pos hopens]
  split
  · next hnone => simp only [hclose, reduceCtorEq] at hnone
  · next after hsome =>
    rw [hclose, Option.some.injEq] at hsome
    rw [hsome]

/-- A complete comment is passed over inside a sentence. -/
theorem afterTerminator_of_comment (hopens : opensComment (b :: bs) = true)
    (hclose : closeComment 1 (bs.drop 1) = some rest) :
    afterTerminator (b :: bs) = afterTerminator rest := by
  rw [afterTerminator, if_pos hopens]
  split
  · next hnone => simp only [hclose, reduceCtorEq] at hnone
  · next after hsome =>
    rw [hclose, Option.some.injEq] at hsome
    rw [hsome]

/-- A complete quoted part is passed over inside a sentence. -/
theorem afterTerminator_of_string (hclose : closeString bs = some rest) :
    afterTerminator ('"'.toUInt8 :: bs) = afterTerminator rest := by
  rw [afterTerminator, if_neg (not_opensComment (by decide)), if_pos rfl]
  split
  · next hnone => simp only [hclose, reduceCtorEq] at hnone
  · next after hsome =>
    rw [hclose, Option.some.injEq] at hsome
    rw [hsome]

/-- What is left behind the dots in front does not begin with a dot. -/
theorem exists_dots (bs : List UInt8) : ∃ dots, bs = dots ++ afterDots bs ∧
    (∀ b ∈ dots, (b == '.'.toUInt8) = true) ∧ ∀ b, (afterDots bs).head? = some b →
    (b == '.'.toUInt8) = false :=
  ⟨bs.takeWhile (· == '.'.toUInt8), List.takeWhile_append_dropWhile.symm, fun _ hb =>
    List.mem_takeWhile_imp (p := (· == '.'.toUInt8)) hb, fun _ hb =>
      of_head?_dropWhile (p := (· == '.'.toUInt8)) hb⟩

section Dots

variable {dots : List UInt8} (hdots : ∀ b ∈ dots, (b == '.'.toUInt8) = true)
  (hrest : ∀ b, rest.head? = some b → (b == '.'.toUInt8) = false)

include hdots hrest

/-- Dots end a sentence or are passed over. -/
theorem afterTerminator_of_dots : afterTerminator ('.'.toUInt8 :: (dots ++ rest)) =
    if terminates ('.'.toUInt8 :: (dots ++ rest)) then .ok (some rest)
    else afterTerminator rest := by
  rw [afterTerminator, if_neg (not_opensComment (by decide)), if_neg (by decide),
    if_pos rfl, afterDots, dropWhile_append_of_head hdots hrest]

/-- Whether a run of dots ends a sentence is told by the run and the byte behind it. -/
theorem terminates_append (h : rest'.head? = rest.head?) :
    terminates (dots ++ rest') = terminates (dots ++ rest) := by
  have hrest' : ∀ b, rest'.head? = some b → (b == '.'.toUInt8) = false := fun b hb =>
    hrest b (h ▸ hb)
  have hends : endsHere rest' = endsHere rest := by
    cases rest with
    | nil => rw [List.head?_eq_none_iff.1 h]
    | cons b rest =>
      obtain ⟨rest', rfl⟩ := List.head?_eq_some_iff.1 h
      rfl
  unfold terminates dotCount afterDots
  rw [takeWhile_append_of_head hdots hrest, takeWhile_append_of_head hdots hrest',
    dropWhile_append_of_head hdots hrest, dropWhile_append_of_head hdots hrest', hends]

end Dots

/-! ## What is looked at -/

/-- Closing a comment looks at the comment only. -/
theorem closeComment_local {depth : Nat} (h : closeComment depth bs = some rest) :
    ∃ part, bs = part ++ rest ∧ part ≠ [] ∧ ∀ rest',
      closeComment depth (part ++ rest') = some rest' := by
  fun_induction closeComment depth bs with
  | case1 depth a b bs hopen ih =>
    obtain ⟨part, rfl, -, hpart⟩ := ih h
    refine ⟨a :: b :: part, rfl, by simp, fun rest' => ?_⟩
    rw [List.cons_append, List.cons_append, closeComment, if_pos hopen]
    exact hpart rest'
  | case2 depth a b bs hopen hclose hdepth =>
    rw [Option.some.injEq] at h
    subst h
    refine ⟨[a, b], rfl, by simp, fun rest' => ?_⟩
    rw [List.cons_append, List.cons_append, closeComment, if_neg hopen, if_pos hclose,
      if_pos hdepth]
    rfl
  | case3 depth a b bs hopen hclose hdepth ih =>
    obtain ⟨part, rfl, -, hpart⟩ := ih h
    refine ⟨a :: b :: part, rfl, by simp, fun rest' => ?_⟩
    rw [List.cons_append, List.cons_append, closeComment, if_neg hopen, if_pos hclose,
      if_neg hdepth]
    exact hpart rest'
  | case4 depth a b bs hopen hclose ih =>
    -- only one byte is passed over, and the next one is the first of what follows
    obtain ⟨part, hbs, hne, hpart⟩ := ih h
    obtain ⟨part, rfl, rfl⟩ := (List.cons_eq_append_iff.1 hbs).resolve_left fun hnil => hne hnil.1
    refine ⟨a :: b :: part, rfl, by simp, fun rest' => ?_⟩
    rw [List.cons_append, List.cons_append, closeComment, if_neg hopen, if_neg hclose]
    exact hpart rest'
  | case5 => simp at h

/-- A comment opens and is closed where it was, whatever follows. -/
theorem comment_local (hopens : opensComment (b :: bs) = true)
    (hclose : closeComment 1 (bs.drop 1) = some rest) :
    ∃ comment, bs = comment ++ rest ∧ ∀ rest', opensComment (b :: (comment ++ rest')) = true ∧
      closeComment 1 ((comment ++ rest').drop 1) = some rest' := by
  obtain ⟨bs, rfl⟩ := exists_of_opensComment hopens
  obtain ⟨part, rfl, -, hpart⟩ := closeComment_local hclose
  exact ⟨'*'.toUInt8 :: part, rfl, fun rest' => ⟨hopens, hpart rest'⟩⟩

/-- Closing a string looks at the string only. -/
theorem closeString_local (h : closeString bs = some rest) :
    ∃ part, bs = part ++ rest ∧ ∀ rest', closeString (part ++ rest') = some rest' := by
  fun_induction closeString bs with
  | case1 => simp at h
  | case2 bs =>
    rw [Option.some.injEq] at h
    subst h
    exact ⟨['"'.toUInt8], rfl, fun rest' => by simp [closeString]⟩
  | case3 b bs hb ih =>
    obtain ⟨part, rfl, hpart⟩ := ih h
    refine ⟨b :: part, rfl, fun rest' => ?_⟩
    rw [List.cons_append, closeString, if_neg hb]
    exact hpart rest'

/-- Passing over blanks and comments looks at them and at whether a comment opens behind them. -/
theorem skipBlanks_local {here : List UInt8} (h : skipBlanks bs = .ok here) :
    ∃ lead, bs = lead ++ here ∧ ∀ here' : List UInt8, here'.head? = here.head? →
      opensComment here' = opensComment here → skipBlanks (lead ++ here') = .ok here' := by
  fun_induction skipBlanks bs with
  | case1 =>
    rw [Except.ok.injEq] at h
    subst h
    refine ⟨[], rfl, fun here' hhead _ => ?_⟩
    rw [List.head?_eq_none_iff.1 hhead, List.append_nil, skipBlanks]
  | case2 b bs hblank ih =>
    obtain ⟨lead, rfl, hlead⟩ := ih h
    refine ⟨b :: lead, rfl, fun here' hhead hopens => ?_⟩
    rw [List.cons_append, skipBlanks, if_pos hblank]
    exact hlead here' hhead hopens
  | case3 => simp at h
  | case4 b bs hblank hopens after hclose ih =>
    obtain ⟨lead, rfl, hlead⟩ := ih h
    -- a comment is passed over whole, whatever stands behind it
    obtain ⟨comment, rfl, hcomment⟩ := comment_local hopens hclose
    refine ⟨b :: (comment ++ lead), by simp, fun here' hhead hopens' => ?_⟩
    obtain ⟨hopens'', hclose'⟩ := hcomment (lead ++ here')
    rw [List.cons_append, List.append_assoc, skipBlanks_of_comment hblank hopens'' hclose']
    exact hlead here' hhead hopens'
  | case5 b bs hblank hopens =>
    rw [Except.ok.injEq] at h
    subst h
    refine ⟨[], rfl, fun here' hhead hopens' => ?_⟩
    -- neither a blank nor a comment begins here, and that is told by the first byte and what it
    -- opens
    obtain ⟨bs', rfl⟩ := List.head?_eq_some_iff.1 hhead
    rw [List.nil_append, skipBlanks, if_neg hblank, if_neg (by rwa [hopens'])]

/-- Passing over a terminator looks at what is passed over and at the byte behind it. -/
theorem afterTerminator_local (h : afterTerminator bs = .ok (some after)) :
    ∃ part, bs = part ++ after ∧ part ≠ [] ∧ ∀ after' : List UInt8, after'.head? = after.head? →
      afterTerminator (part ++ after') = .ok (some after') := by
  fun_induction afterTerminator bs with
  | case1 => simp at h
  | case2 => simp at h
  | case3 b bs hopens left hclose ih =>
    obtain ⟨part, rfl, -, hpart⟩ := ih h
    obtain ⟨comment, rfl, hcomment⟩ := comment_local hopens hclose
    refine ⟨b :: (comment ++ part), by simp, by simp, fun after' hhead => ?_⟩
    obtain ⟨hopens', hclose'⟩ := hcomment (part ++ after')
    rw [List.cons_append, List.append_assoc, afterTerminator_of_comment hopens' hclose']
    exact hpart after' hhead
  | case4 => simp at h
  | case5 bs left hclose hopens ih =>
    obtain ⟨part, rfl, -, hpart⟩ := ih h
    obtain ⟨quoted, rfl, hcloses⟩ := closeString_local hclose
    refine ⟨'"'.toUInt8 :: (quoted ++ part), by simp, by simp, fun after' hhead => ?_⟩
    rw [List.cons_append, List.append_assoc, afterTerminator_of_string (hcloses (part ++ after'))]
    exact hpart after' hhead
  | case6 bs hopens hquote hends =>
    simp only [Except.ok.injEq, Option.some.injEq] at h
    subst h
    obtain ⟨dots, hbs, hdots, hrest⟩ := exists_dots bs
    have hall : ∀ b ∈ '.'.toUInt8 :: dots, (b == '.'.toUInt8) = true := by simpa using hdots
    refine ⟨'.'.toUInt8 :: dots, by rw [List.cons_append, ← hbs], by simp, fun after' hhead => ?_⟩
    have hends' : terminates ('.'.toUInt8 :: dots ++ after') = true := by
      rw [terminates_append hall hrest hhead, List.cons_append, ← hbs]
      exact hends
    rw [List.cons_append, afterTerminator_of_dots hdots fun b hb => hrest b (hhead ▸ hb)]
    exact if_pos hends'
  | case7 bs hopens hquote hends ih =>
    obtain ⟨part, hleft, hne, hpart⟩ := ih h
    obtain ⟨dots, hbs, hdots, hrest⟩ := exists_dots bs
    have hall : ∀ b ∈ '.'.toUInt8 :: dots, (b == '.'.toUInt8) = true := by simpa using hdots
    refine ⟨'.'.toUInt8 :: (dots ++ part), ?_, by simp, fun after' hhead => ?_⟩
    · rw [List.cons_append, List.append_assoc, ← hleft, ← hbs]
    -- the byte behind the dots is the first one that is passed over after them
    · have hsame : (part ++ after').head? = (afterDots bs).head? := by
        rw [hleft]
        exact head?_append_of_ne_nil hne after after'
      have hends' : ¬ terminates ('.'.toUInt8 :: dots ++ (part ++ after')) = true := by
        rw [terminates_append hall hrest hsame, List.cons_append, ← hbs]
        exact hends
      rw [List.cons_append, List.append_assoc,
        afterTerminator_of_dots hdots fun b hb => hrest b (hsame ▸ hb)]
      exact (if_neg hends').trans (hpart after' hhead)
  | case8 b bs hopens hquote hdot ih =>
    obtain ⟨part, rfl, hne, hpart⟩ := ih h
    refine ⟨b :: part, rfl, by simp, fun after' hhead => ?_⟩
    have hopens' : opensComment (b :: (part ++ after')) = opensComment (b :: (part ++ after)) :=
      opensComment_append (List.cons_ne_nil b []) (head?_append_of_ne_nil hne after after')
    rw [List.cons_append, afterTerminator, if_neg (by rwa [hopens']), if_neg hquote, if_neg hdot]
    exact hpart after' hhead

/-- Passing over a sentence looks at the sentence and at the byte behind it. -/
theorem afterSentence_local (h : afterSentence bs = .ok (some after)) :
    ∃ part, bs = part ++ after ∧ part ≠ [] ∧ ∀ after' : List UInt8, after'.head? = after.head? →
      afterSentence (part ++ after') = .ok (some after') := by
  cases bs with
  | nil => simp [afterSentence] at h
  | cons b bs =>
    by_cases hbullet : isBullet b = true
    · rw [afterSentence, if_pos hbullet, Except.ok.injEq, Option.some.injEq] at h
      subst h
      -- a bullet is a run of one byte, and ends where another byte comes
      have hrun : ∀ c ∈ bs.takeWhile (· == b), (c == b) = true := fun c hc =>
        List.mem_takeWhile_imp (p := (· == b)) hc
      refine ⟨b :: bs.takeWhile (· == b), by simp [List.takeWhile_append_dropWhile], by simp,
        fun after' hhead => ?_⟩
      have hend : ∀ c, after'.head? = some c → (c == b) = false := fun c hc =>
        of_head?_dropWhile (p := (· == b)) (hhead ▸ hc)
      simp only [List.cons_append, afterSentence, hbullet, if_true,
        dropWhile_append_of_head hrun hend]
    · by_cases hbrace : isBrace b = true
      · rw [afterSentence, if_neg hbullet, if_pos hbrace, Except.ok.injEq, Option.some.injEq] at h
        subst h
        refine ⟨[b], rfl, by simp, fun after' _ => ?_⟩
        simp [afterSentence, hbullet, hbrace]
      · rw [afterSentence, if_neg hbullet, if_neg hbrace] at h
        obtain ⟨part, hbs, hne, hpart⟩ := afterTerminator_local h
        obtain ⟨part, rfl, rfl⟩ := (List.cons_eq_append_iff.1 hbs).resolve_left fun hnil =>
          hne hnil.1
        refine ⟨b :: part, rfl, hne, fun after' hhead => ?_⟩
        rw [List.cons_append, afterSentence, if_neg hbullet, if_neg hbrace]
        exact hpart after' hhead

/-- Finding a sentence looks at what is in front of it, at the sentence and at the byte behind
it. -/
theorem scan_local {here : List UInt8} (h : scan bs = .ok (some (here, after))) :
    ∃ lead part, bs = lead ++ part ++ after ∧ here = part ++ after ∧ ∀ after' : List UInt8,
      after'.head? = after.head? → scan (lead ++ part ++ after') =
        .ok (some (part ++ after', after')) := by
  unfold scan at h
  cases hskip : skipBlanks bs with
  | error e => simp [hskip] at h
  | ok begun =>
    cases hend : afterSentence begun with
    | error e => simp [hskip, hend] at h
    | ok left? =>
      cases left? with
      | none => simp [hskip, hend] at h
      | some left =>
        simp only [hskip, hend, Except.ok.injEq, Option.some.injEq, Prod.mk.injEq] at h
        obtain ⟨rfl, rfl⟩ := h
        -- what stands behind the sentence has to be the same only as far as its first byte
        obtain ⟨part, rfl, hne, hpart⟩ := afterSentence_local hend
        obtain ⟨lead, rfl, hlead⟩ := skipBlanks_local hskip
        refine ⟨lead, part, (List.append_assoc ..).symm, rfl, fun after' hhead => ?_⟩
        have hskip' :=
          hlead (part ++ after') (head?_append_of_ne_nil hne ..) (opensComment_append hne hhead)
        unfold scan
        rw [List.append_assoc, hskip']
        simp only [hpart after' hhead]

/-- Two lists that agree a little past a front part differ behind it only. -/
private theorem exists_append_of_take_eq {α : Type} {xs ys zs : List α}
    (h : zs.take (xs.length + 1) = (xs ++ ys).take (xs.length + 1)) :
    ∃ ys', zs = xs ++ ys' ∧ ys'.head? = ys.head? := by
  induction xs generalizing zs with
  | nil =>
    refine ⟨zs, rfl, ?_⟩
    have hhead := congrArg List.head? h
    rwa [List.head?_take, List.head?_take, if_neg (by simp), if_neg (by simp)] at hhead
  | cons x xs ih =>
    cases zs with
    | nil => simp at h
    | cons z zs =>
      simp only [List.length_cons, List.take_succ_cons, List.cons_append, List.cons.injEq] at h
      obtain ⟨rfl, h⟩ := h
      obtain ⟨ys', rfl, hhead⟩ := ih h
      exact ⟨ys', rfl, hhead⟩

/-- Where the bytes from an offset to the one behind a sentence stand elsewhere, the sentence is
found there. -/
theorem next_congr {text text' : String} {offset offset' : Nat} {span : Span}
    (h : next text offset = .ok (some span))
    (hsame : ((bytes text').drop offset').take (span.stop + 1 - offset) =
      ((bytes text).drop offset).take (span.stop + 1 - offset)) :
    next text' offset' =
      .ok (some ⟨span.start - offset + offset', span.stop - offset + offset'⟩) := by
  obtain ⟨hstart, hlt, hstop⟩ := next_bounds h
  unfold next at h
  dsimp only at h
  cases hscan : scan ((bytes text).drop offset) with
  | error e => simp [hscan] at h
  | ok found? =>
    rcases found? with _ | ⟨here, after⟩
    · simp [hscan] at h
    · simp only [hscan, Except.ok.injEq, Option.some.injEq] at h
      obtain ⟨lead, part, hbs, rfl, hlocal⟩ := scan_local hscan
      -- the sentence and what is in front of it are passed over in both texts
      have hlength := congrArg List.length hbs
      simp only [List.length_drop, List.length_append] at hlength
      have hbegin : span.start = offset + lead.length := by
        rw [← h]
        simp only [spanOf, List.length_append]
        omega
      have hend : span.stop = offset + (lead ++ part).length := by
        rw [← h]
        simp only [spanOf, List.length_append]
        omega
      have hcount : span.stop + 1 - offset = (lead ++ part).length + 1 := by omega
      rw [hcount, hbs] at hsame
      obtain ⟨after', hbs', hhead⟩ := exists_append_of_take_eq hsame
      have hlength' := congrArg List.length hbs'
      simp only [List.length_drop, List.length_append] at hlength' hend
      unfold next
      dsimp only
      rw [hbs', hlocal after' hhead]
      simp only [spanOf, List.length_append, Except.ok.injEq, Option.some.injEq, Span.mk.injEq]
      omega

/-- A sentence is found wherever the bytes from the offset to the one behind it stand, in whatever
text, and lies as far behind the new offset as it did behind the old one. Where no byte stands
behind it, the new text must end there, too. -/
theorem next_moves_along {text text' : String} {offset offset' : Nat} {span : Span}
    (h : next text offset = .ok (some span))
    (hsame : ∀ i, i ≤ span.stop - offset →
      (bytes text')[offset' + i]? = (bytes text)[offset + i]?) :
    next text' offset' =
      .ok (some ⟨span.start - offset + offset', span.stop - offset + offset'⟩) := by
  have hbounds := next_bounds h
  refine next_congr h (List.ext_getElem? fun i => ?_)
  rw [List.getElem?_take, List.getElem?_take, List.getElem?_drop, List.getElem?_drop]
  split
  · exact hsame i (by omega)
  · rfl

/-- Behind the blank nothing is looked at, not even a comment that is never closed. -/
theorem next_moves_along_of_open :
    next "A. (* x. *) b \"c. \" d... E" 2 = .ok (some ⟨12, 24⟩) ∧
      next "Qed. (* x. *) b \"c. \" d... (*" 4 = .ok (some ⟨14, 26⟩) ∧
      next "A. b." 2 = .ok (some ⟨3, 5⟩) ∧ next "C c. b." 4 = .ok (some ⟨5, 7⟩) := by
  have hquoted : next "A. (* x. *) b \"c. \" d... E" 2 = .ok (some ⟨12, 24⟩) := by cbv
  have hlast : next "A. b." 2 = .ok (some ⟨3, 5⟩) := by cbv
  exact ⟨hquoted, next_moves_along hquoted (by decide), hlast, next_moves_along hlast (by decide)⟩

-- The byte behind a sentence does matter.
example : next "A. " 0 = .ok (some ⟨0, 2⟩) ∧ next "A.b" 0 = .ok none := by
  cbv

end ProofDesk.Sentence
