import Mathlib.Data.Nat.Find
import Mathlib.Logic.Relation
import ProofDesk.Proofs.Sentence.Locality

/-!
# The grammar of sentences

What a sentence is, said of the bytes of a text and of the offsets between them: which comments,
strings and runs of dots stand where (`Comment`, `Token`, `Terminator`), what stands in front of a
sentence (`Skipped`) and what it is made of (`Passed`). `Answer` puts these together to the answer
that a text has at an offset.

The rules count nothing and look for nothing. A comment is closed when everything opened inside it
is, and a token is what stands at an offset, however it is found. The scanners count openings and
pass over bytes; that they find what the rules say, at every offset of every text, is `next_eq_iff`:
what the rules allow is what the scanners do (`Answer.next_eq`), and the rules always allow
something (`exists_answer`).
-/

namespace ProofDesk.Sentence

namespace Grammar

/-! ## The rules -/

/-- A space, a tab, a line feed, a form feed or a carriage return. -/
def IsBlank (b : UInt8) : Prop :=
  b ∈ [' ', '\t', '\n', '\x0c', '\r'].map Char.toUInt8

/-- A byte that is a bullet where a sentence would begin, together with those like it behind it. -/
def IsBullet (b : UInt8) : Prop :=
  b ∈ ['-', '+', '*'].map Char.toUInt8

/-- A byte that is a sentence of its own where one would begin. -/
def IsBrace (b : UInt8) : Prop :=
  b ∈ ['\x7b', '\x7d'].map Char.toUInt8

section Rules

variable (bs : List UInt8)

/-- A comment opens at an offset: `(*`. -/
def Opens (p : Nat) : Prop :=
  bs[p]? = some '('.toUInt8 ∧ bs[p + 1]? = some '*'.toUInt8

/-- A comment is closed at an offset: `*)`. -/
def Closes (p : Nat) : Prop :=
  bs[p]? = some '*'.toUInt8 ∧ bs[p + 1]? = some ')'.toUInt8

/-- What stands from `p` to `q` is the rest of a comment, with its closing sign: any bytes, and
whole comments. -/
inductive Inside : Nat → Nat → Prop
  | close {p : Nat} (hclose : Closes bs p) : Inside p (p + 2)
  | comment {p m q : Nat} (hopen : Opens bs p) (hinner : Inside (p + 2) m) (hlater : Inside m q) :
    Inside p q
  | byte {p q : Nat} (hopen : ¬ Opens bs p) (hclose : ¬ Closes bs p) (hlater : Inside (p + 1) q) :
    Inside p q

/-- A complete comment stands from `p` to `q`. -/
def Comment (p q : Nat) : Prop :=
  Opens bs p ∧ Inside bs (p + 2) q

/-- A string opens at `p`, and its closing quote, which is the next one, stands at `k`. -/
structure Quoted (p k : Nat) : Prop where
  opening : bs[p]? = some '"'.toUInt8
  lt : p < k
  closing : bs[k]? = some '"'.toUInt8
  inner : ∀ j, p < j → j < k → bs[j]? ≠ some '"'.toUInt8

/-- The bytes from `p` to `q` are `b`, and the one behind them, if there is one, is not. -/
structure IsRun (b : UInt8) (p q : Nat) : Prop where
  lt : p < q
  inner : ∀ j, p ≤ j → j < q → bs[j]? = some b
  behind : bs[q]? ≠ some b

/-- What a sentence is made of: comments, strings, runs of dots, and single bytes. -/
inductive Token : Nat → Nat → Prop
  | comment {p q : Nat} (h : Comment bs p q) : Token p q
  | string {p k : Nat} (h : Quoted bs p k) : Token p (k + 1)
  | dots {p q : Nat} (h : IsRun bs '.'.toUInt8 p q) : Token p q
  | byte {p : Nat} {b : UInt8} (hb : bs[p]? = some b) (hopen : ¬ Opens bs p)
      (hquote : b ≠ '"'.toUInt8)
    (hdot : b ≠ '.'.toUInt8) : Token p (p + 1)

/-- A run of exactly one dot or exactly three, before a blank or the end of the text. -/
structure Terminator (p q : Nat) : Prop where
  dots : IsRun bs '.'.toUInt8 p q
  count : q = p + 1 ∨ q = p + 3
  behind : ∀ b, bs[q]? = some b → IsBlank b

/-- What may stand in front of a sentence: blanks and complete comments. -/
inductive Gap : Nat → Nat → Prop
  | blank {p : Nat} {b : UInt8} (hb : bs[p]? = some b) (hblank : IsBlank b) : Gap p (p + 1)
  | comment {p q : Nat} (h : Comment bs p q) : Gap p q

/-- Only blanks and complete comments stand from one offset to the other. -/
def Skipped : Nat → Nat → Prop :=
  Relation.ReflTransGen (Gap bs)

/-- Only tokens that end no sentence stand from one offset to the other. -/
def Passed : Nat → Nat → Prop :=
  Relation.ReflTransGen fun p q => Token bs p q ∧ ¬ Terminator bs p q

/-- What opens at an offset is never closed: a comment, or a string with no quote behind its
first. -/
inductive Dangling : Nat → SplitError → Prop
  | comment {p : Nat} (hopen : Opens bs p) (hnever : ∀ q, ¬ Comment bs p q) :
    Dangling p (.comment p)
  | string {p : Nat} (hopen : bs[p]? = some '"'.toUInt8)
      (hnever : ∀ k, p < k → bs[k]? ≠ some '"'.toUInt8) :
    Dangling p (.string p)

/-- The first byte of a sentence: neither a blank nor the opening of a comment. -/
structure Significant (s : Nat) (b : UInt8) : Prop where
  byte : bs[s]? = some b
  not_blank : ¬ IsBlank b
  not_opens : ¬ Opens bs s

/-- A sentence that ends with dots begins here. -/
structure Begins (s : Nat) (b : UInt8) : Prop extends Significant bs s b where
  not_bullet : ¬ IsBullet b
  not_brace : ¬ IsBrace b

/-- The answer to the search for a sentence from an offset on. -/
inductive Answer (offset : Nat) : Except SplitError (Option Span) → Prop
  /-- Only blanks and comments are left. -/
  | nothing {s : Nat} (hskip : Skipped bs offset s) (hend : bs[s]? = none) :
    Answer offset (.ok none)
  /-- A comment in front of the sentence is never closed. -/
  | hidden {s : Nat} (hskip : Skipped bs offset s) (hopen : Opens bs s)
      (hnever : ∀ q, ¬ Comment bs s q) :
    Answer offset (.error (.comment s))
  | bullet {s e : Nat} {b : UInt8} (hskip : Skipped bs offset s) (hb : Significant bs s b)
      (hbullet : IsBullet b)
    (hrun : IsRun bs b s e) : Answer offset (.ok (some ⟨s, e⟩))
  | brace {s : Nat} {b : UInt8} (hskip : Skipped bs offset s) (hb : Significant bs s b)
      (hbrace : IsBrace b) :
    Answer offset (.ok (some ⟨s, s + 1⟩))
  /-- The sentence reaches to the end of the first run of dots that ends one. -/
  | ended {s p e : Nat} {b : UInt8} (hskip : Skipped bs offset s) (hb : Begins bs s b)
      (hpass : Passed bs s p)
    (hend : Terminator bs p e) : Answer offset (.ok (some ⟨s, e⟩))
  /-- The text ends first. -/
  | unfinished {s p : Nat} {b : UInt8} (hskip : Skipped bs offset s) (hb : Begins bs s b)
      (hpass : Passed bs s p)
    (hend : bs[p]? = none) : Answer offset (.ok none)
  /-- A comment or a string that is never closed is met first. -/
  | dangling {s p : Nat} {b : UInt8} {error : SplitError} (hskip : Skipped bs offset s)
      (hb : Begins bs s b)
    (hpass : Passed bs s p) (hdangling : Dangling bs p error) : Answer offset (.error error)

end Rules

end Grammar

open Grammar Text

variable {bs rest : List UInt8} {p q k s : Nat} {b : UInt8} {depth : Nat}

/-! ## Bytes at offsets -/

/-- The scanner and the grammar agree on blanks. -/
theorem isBlankByte_iff : isBlankByte b = true ↔ IsBlank b := by
  simp only [isBlankByte, IsBlank, Bool.or_eq_true, beq_iff_eq, List.map_cons, List.map_nil,
    List.mem_cons, List.not_mem_nil, or_false, or_assoc]
  exact Iff.rfl

/-- The scanner and the grammar agree on bullets. -/
theorem isBullet_iff : isBullet b = true ↔ IsBullet b := by
  simp [isBullet, IsBullet, or_assoc]

/-- The scanner and the grammar agree on braces. -/
theorem isBrace_iff : isBrace b = true ↔ IsBrace b := by
  simp [isBrace, IsBrace]

theorem drop_eq_cons (h : bs[p]? = some b) : bs.drop p = b :: bs.drop (p + 1) := by
  obtain ⟨hp, rfl⟩ := List.getElem?_eq_some_iff.1 h
  exact List.drop_eq_getElem_cons hp

theorem drop_eq_nil (h : bs[p]? = none) : bs.drop p = [] :=
  List.drop_eq_nil_of_le (List.getElem?_eq_none_iff.1 h)

theorem lt_length (h : bs[p]? = some b) : p < bs.length :=
  (List.getElem?_eq_some_iff.1 h).1

/-- The scanner and the grammar agree on where a comment opens. -/
theorem opensComment_drop : opensComment (bs.drop p) = true ↔ Opens bs p := by
  unfold Opens
  cases hp : bs[p]? with
  | none => simp [drop_eq_nil hp, opensComment]
  | some a =>
    rw [drop_eq_cons hp]
    cases hq : bs[p + 1]? with
    | none => simp [drop_eq_nil hq, opensComment]
    | some b => simp [drop_eq_cons hq, opensComment]

/-! ## Comments -/

/-- Inside a comment another one may open, which must be closed first. -/
theorem closeComment_of_opens (h : Opens bs p) :
    closeComment depth (bs.drop p) = closeComment (depth + 1) (bs.drop (p + 2)) := by
  rw [drop_eq_cons h.1, drop_eq_cons h.2, closeComment, if_pos ⟨rfl, rfl⟩]

/-- A closing sign ends the innermost comment. -/
theorem closeComment_of_closes (h : Closes bs p) : closeComment depth (bs.drop p) =
    if depth ≤ 1 then some (bs.drop (p + 2)) else closeComment (depth - 1) (bs.drop (p + 2)) := by
  rw [drop_eq_cons h.1, drop_eq_cons h.2, closeComment, if_neg (by decide), if_pos ⟨rfl, rfl⟩]

/-- Any other byte inside a comment is passed over. -/
theorem closeComment_of_byte (hopen : ¬ Opens bs p) (hclose : ¬ Closes bs p) :
    closeComment depth (bs.drop p) = closeComment depth (bs.drop (p + 1)) := by
  cases hp : bs[p]? with
  | none =>
    have hle := List.getElem?_eq_none_iff.1 hp
    rw [drop_eq_nil hp, List.drop_eq_nil_of_le (by omega)]
  | some a =>
    rw [drop_eq_cons hp]
    -- two bytes decide, and the text may end in front of either
    cases hq : bs[p + 1]? with
    | none => rw [drop_eq_nil hq, closeComment, closeComment] <;> simp
    | some b =>
      rw [drop_eq_cons hq, closeComment, if_neg, if_neg]
      · rintro ⟨rfl, rfl⟩
        exact hclose ⟨hp, hq⟩
      · rintro ⟨rfl, rfl⟩
        exact hopen ⟨hp, hq⟩

/-- The rest of a comment is not empty. -/
theorem Grammar.Inside.lt (h : Inside bs p q) : p < q := by
  induction h with
  | close => omega
  | comment _ _ _ hinner hlater => omega
  | byte _ _ _ hlater => omega

/-- Behind the inside of a comment one closing less is needed. -/
theorem Grammar.Inside.closeComment_eq (h : Inside bs p q) (depth : Nat) :
    closeComment (depth + 1) (bs.drop p) =
      if depth = 0 then some (bs.drop q) else closeComment depth (bs.drop q) := by
  induction h generalizing depth with
  | close hclose =>
    have hlast : depth + 1 ≤ 1 ↔ depth = 0 := by omega
    rw [closeComment_of_closes hclose, Nat.add_sub_cancel]
    simp only [hlast]
  | comment hopen _ _ hinner hlater =>
    rw [closeComment_of_opens hopen, hinner (depth + 1),
      if_neg (Nat.succ_ne_zero depth), hlater depth]
  | byte hopen hclose _ hlater => rw [closeComment_of_byte hopen hclose, hlater depth]

/-- Where enough closings are found, the first of them that is not needed for a comment inside
closes the comment. -/
private theorem exists_inside (h : closeComment (depth + 1) (bs.drop p) = some rest) :
    ∃ q, Inside bs p q := by
  induction hn : bs.length - p using Nat.strongRecOn generalizing p depth with
  | _ n ih =>
    -- nothing is closed where nothing is left
    have hp : p < bs.length := by
      by_contra hge
      rw [List.drop_eq_nil_of_le (by omega)] at h
      simp [closeComment] at h
    by_cases hopen : Opens bs p
    · rw [closeComment_of_opens hopen] at h
      -- the comment inside is closed first, and then this one
      obtain ⟨m, hinner⟩ := ih _ (by omega) h rfl
      rw [hinner.closeComment_eq, if_neg (Nat.succ_ne_zero depth)] at h
      have hlt := hinner.lt
      obtain ⟨q, hlater⟩ := ih _ (by omega) h rfl
      exact ⟨q, .comment hopen hinner hlater⟩
    · by_cases hclose : Closes bs p
      · exact ⟨p + 2, .close hclose⟩
      · rw [closeComment_of_byte hopen hclose] at h
        obtain ⟨q, hlater⟩ := ih _ (by omega) h rfl
        exact ⟨q, .byte hopen hclose hlater⟩

/-- The scanner closes a comment where the grammar does. -/
theorem Grammar.Comment.closeComment_eq (h : Comment bs p q) :
    closeComment 1 ((bs.drop (p + 1)).drop 1) = some (bs.drop q) := by
  rw [List.drop_drop]
  exact h.2.closeComment_eq 0

/-- A comment that the grammar does not close is not closed by the scanner. -/
theorem closeComment_eq_none (hopen : Opens bs p) (hnever : ∀ q, ¬ Comment bs p q) :
    closeComment 1 ((bs.drop (p + 1)).drop 1) = none := by
  rw [List.drop_drop, Option.eq_none_iff_forall_ne_some]
  intro rest h
  obtain ⟨q, hinside⟩ := exists_inside h
  exact hnever q ⟨hopen, hinside⟩

/-- A comment is not empty. -/
theorem Grammar.Comment.lt (h : Comment bs p q) : p < q := by
  have hlt := h.2.lt
  omega

/-! ## What stands in front of a sentence -/

/-- Where a comment opens the scanner sees that it does. -/
theorem Grammar.Opens.drop_eq (h : Opens bs p) : bs.drop p = '('.toUInt8 :: bs.drop (p + 1) ∧
    opensComment ('('.toUInt8 :: bs.drop (p + 1)) = true := by
  have hdrop := drop_eq_cons h.1
  exact ⟨hdrop, hdrop ▸ opensComment_drop.2 h⟩

/-- The scanner passes over a blank or a comment as the grammar does. -/
theorem Grammar.Gap.skipBlanks_eq (h : Gap bs p q) :
    skipBlanks (bs.drop p) = skipBlanks (bs.drop q) := by
  cases h with
  | blank hb hblank => rw [drop_eq_cons hb, skipBlanks, if_pos (isBlankByte_iff.2 hblank)]
  | comment h =>
    obtain ⟨hdrop, hopens⟩ := h.1.drop_eq
    rw [hdrop, skipBlanks_of_comment (by decide) hopens h.closeComment_eq]

/-- The scanner passes over blanks and comments as the grammar does. -/
theorem Grammar.Skipped.skipBlanks_eq (h : Skipped bs p q) :
    skipBlanks (bs.drop p) = skipBlanks (bs.drop q) := by
  induction h with
  | refl => rfl
  | tail _ hgap ih => rw [ih, hgap.skipBlanks_eq]

/-- The scanner stops where the grammar says that something stands. -/
theorem Grammar.Significant.skipBlanks_eq (h : Significant bs s b) :
    skipBlanks (bs.drop s) = .ok (bs.drop s) := by
  have hopens := mt opensComment_drop.1 h.not_opens
  rw [drop_eq_cons h.byte] at hopens ⊢
  rw [skipBlanks, if_neg (mt isBlankByte_iff.1 h.not_blank), if_neg hopens]

/-- The scanner reports a comment that is never closed. -/
private theorem skipBlanks_of_hidden (hopen : Opens bs s) (hnever : ∀ q, ¬ Comment bs s q) :
    skipBlanks (bs.drop s) = .error (.comment (bs.drop s)) := by
  obtain ⟨hdrop, hopens⟩ := hopen.drop_eq
  have hnone := closeComment_eq_none hopen hnever
  rw [hdrop, skipBlanks, if_neg (by decide), if_pos hopens]
  split
  · rfl
  · next hsome => exact absurd (hnone.symm.trans hsome) (by simp)

/-- A comment that is never closed is reported where it opens. -/
theorem at_comment (h : Opens bs p) : (Unclosed.comment (bs.drop p)).at bs.length = .comment p := by
  rw [Unclosed.at, List.length_drop, Nat.sub_sub_self (lt_length h.1).le]

/-! ## Runs and strings -/

/-- A run of a sign is that sign, as often as the run is long, in front of what follows. -/
theorem Grammar.IsRun.drop_eq (h : IsRun bs b p q) :
    bs.drop p = List.replicate (q - p) b ++ bs.drop q := by
  have hlt := h.lt
  refine List.ext_getElem? fun i => ?_
  rw [List.getElem?_drop, List.getElem?_append, List.length_replicate]
  split
  · next hi => rw [h.inner (p + i) (by omega) (by omega), List.getElem?_replicate, if_pos hi]
  · next hi => rw [List.getElem?_drop, show q + (i - (q - p)) = p + i by omega]

/-- Behind a run of a sign that sign does not stand again. -/
theorem Grammar.IsRun.not_head (h : IsRun bs b p q) :
    ∀ c, (bs.drop q).head? = some c → (c == b) = false := by
  intro c hc
  rw [List.head?_drop] at hc
  rw [beq_eq_false_iff_ne]
  rintro rfl
  exact h.behind hc

/-- The scanner passes over a run to its end. -/
theorem Grammar.IsRun.dropWhile_eq (h : IsRun bs b p q) :
    (bs.drop p).dropWhile (· == b) = bs.drop q := by
  rw [h.drop_eq]
  exact dropWhile_append_of_head (p := (· == b)) (by simp) h.not_head

/-- The scanner counts as many signs as a run has. -/
theorem Grammar.IsRun.length_takeWhile (h : IsRun bs b p q) :
    ((bs.drop p).takeWhile (· == b)).length = q - p := by
  rw [h.drop_eq, takeWhile_append_of_head (p := (· == b)) (by simp) h.not_head,
    List.length_replicate]

/-- A run begins wherever a sign stands. -/
theorem exists_isRun (h : bs[p]? = some b) : ∃ q, IsRun bs b p q := by
  have hex : ∃ n, bs[p + n]? ≠ some b := ⟨bs.length, by simp⟩
  have hpos : Nat.find hex ≠ 0 := by
    intro hzero
    have hspec := Nat.find_spec hex
    rw [hzero] at hspec
    exact hspec h
  refine ⟨p + Nat.find hex, by omega, fun j hle hlt => ?_, Nat.find_spec hex⟩
  have hmin := Nat.find_min hex (show j - p < Nat.find hex by omega)
  rwa [not_not, Nat.add_sub_cancel' hle] at hmin

/-- A string that is opened is closed by the first quote behind it, if there is one. -/
private theorem exists_quoted (h : bs[p]? = some '"'.toUInt8) :
    (∃ k, Quoted bs p k) ∨ ∀ k, p < k → bs[k]? ≠ some '"'.toUInt8 := by
  by_cases hex : ∃ k, p < k ∧ bs[k]? = some '"'.toUInt8
  · obtain ⟨hlt, hk⟩ := Nat.find_spec hex
    exact .inl ⟨_, h, hlt, hk, fun j hlt hj hquote => Nat.find_min hex hj ⟨hlt, hquote⟩⟩
  · exact .inr fun k hlt hk => hex ⟨k, hlt, hk⟩

/-- Inside quotes whatever is no quote is passed over. -/
private theorem closeString_of_ne (h : bs[p]? ≠ some '"'.toUInt8) :
    closeString (bs.drop p) = closeString (bs.drop (p + 1)) := by
  cases hp : bs[p]? with
  | none =>
    have hle := List.getElem?_eq_none_iff.1 hp
    rw [drop_eq_nil hp, List.drop_eq_nil_of_le (by omega)]
  | some b =>
    rw [drop_eq_cons hp, closeString, if_neg]
    rintro rfl
    exact h hp

/-- Bytes that are no quotes are passed over. -/
theorem closeString_eq (hle : p ≤ k) (h : ∀ j, p ≤ j → j < k → bs[j]? ≠ some '"'.toUInt8) :
    closeString (bs.drop p) = closeString (bs.drop k) := by
  induction k, hle using Nat.le_induction with
  | base => rfl
  | succ k hle ih =>
    rw [ih fun j hj hlt => h j hj (by omega)]
    exact closeString_of_ne (h k hle (by omega))

/-- The scanner closes a quoted part where the grammar does. -/
theorem Grammar.Quoted.closeString_eq (h : Quoted bs p k) :
    closeString (bs.drop (p + 1)) = some (bs.drop (k + 1)) := by
  rw [Sentence.closeString_eq (k := k) h.lt fun j hle hlt => h.inner j hle hlt,
    drop_eq_cons h.closing, closeString, if_pos rfl]

/-- A quoted part that the grammar does not close is not closed by the scanner. -/
private theorem closeString_eq_none (h : ∀ k, p < k → bs[k]? ≠ some '"'.toUInt8) :
    closeString (bs.drop (p + 1)) = none := by
  rw [closeString_eq (k := max (p + 1) bs.length) (Nat.le_max_left _ _) fun j hle _ => h j hle,
    List.drop_eq_nil_of_le (Nat.le_max_right _ _), closeString]

/-! ## What a sentence is made of -/

/-- The scanner and the grammar agree on which dots end a sentence. -/
theorem terminates_iff (h : IsRun bs '.'.toUInt8 p q) :
    terminates (bs.drop p) = true ↔ Terminator bs p q := by
  have hlt := h.lt
  -- the run of dots is followed by a blank or by nothing
  have hends : endsHere (bs.drop q) = true ↔ ∀ b, bs[q]? = some b → IsBlank b := by
    cases hq : bs[q]? with
    | none => simp [drop_eq_nil hq, endsHere]
    | some b => simp [drop_eq_cons hq, endsHere, isBlankByte_iff]
  unfold terminates dotCount afterDots
  rw [h.dropWhile_eq, h.length_takeWhile]
  simp only [Bool.and_eq_true, Bool.or_eq_true, beq_iff_eq, hends]
  constructor
  · rintro ⟨hcount, hbehind⟩
    exact ⟨h, by omega, hbehind⟩
  · rintro ⟨-, hcount, hbehind⟩
    exact ⟨by omega, hbehind⟩

/-- Dots are passed over together, unless they end the sentence. -/
theorem Grammar.IsRun.afterTerminator_eq (h : IsRun bs '.'.toUInt8 p q) :
    afterTerminator (bs.drop p) =
    if terminates (bs.drop p) then .ok (some (bs.drop q)) else afterTerminator (bs.drop q) := by
  have hdrop :
      bs.drop p = '.'.toUInt8 :: (List.replicate (q - p - 1) '.'.toUInt8 ++ bs.drop q) := by
    have hlt := h.lt
    rw [h.drop_eq, ← List.cons_append, ← List.replicate_succ, Nat.sub_add_cancel (by omega)]
  rw [hdrop]
  exact afterTerminator_of_dots (by simp) h.not_head

/-- The scanner ends a sentence at its terminator. -/
theorem Grammar.Terminator.afterTerminator_eq (h : Terminator bs p q) :
    afterTerminator (bs.drop p) = .ok (some (bs.drop q)) := by
  rw [h.dots.afterTerminator_eq, if_pos ((terminates_iff h.dots).2 h)]

/-- The scanner passes over one part of a sentence as the grammar does. -/
theorem Grammar.Token.afterTerminator_eq (h : Token bs p q) (hgo : ¬ Terminator bs p q) :
    afterTerminator (bs.drop p) = afterTerminator (bs.drop q) := by
  cases h with
  | comment h =>
    obtain ⟨hdrop, hopens⟩ := h.1.drop_eq
    rw [hdrop, afterTerminator_of_comment hopens h.closeComment_eq]
  | string h => rw [drop_eq_cons h.opening, afterTerminator_of_string h.closeString_eq]
  | dots h => rw [h.afterTerminator_eq, if_neg (mt (terminates_iff h).1 hgo)]
  | byte hb hopen hquote hdot =>
    have hopens := mt opensComment_drop.1 hopen
    rw [drop_eq_cons hb] at hopens ⊢
    rw [afterTerminator, if_neg hopens, if_neg hquote, if_neg hdot]

/-- The scanner passes over the parts of a sentence as the grammar does. -/
theorem Grammar.Passed.afterTerminator_eq (h : Passed bs p q) :
    afterTerminator (bs.drop p) = afterTerminator (bs.drop q) := by
  induction h with
  | refl => rfl
  | tail _ htoken ih => rw [ih, htoken.1.afterTerminator_eq htoken.2]

/-- A text that ends inside a sentence holds no complete one. -/
private theorem afterTerminator_of_end (h : bs[p]? = none) :
    afterTerminator (bs.drop p) = .ok none := by
  rw [drop_eq_nil h, afterTerminator]

/-- An unclosed delimiter is reported with the offset where it opens. -/
theorem Grammar.Dangling.afterTerminator_eq {error : SplitError} (h : Dangling bs p error) :
    ∃ unclosed, afterTerminator (bs.drop p) = .error unclosed ∧ unclosed.at bs.length = error := by
  cases h with
  | comment hopen hnever =>
    obtain ⟨hdrop, hopens⟩ := hopen.drop_eq
    have hnone := closeComment_eq_none hopen hnever
    refine ⟨.comment (bs.drop p), ?_, at_comment hopen⟩
    rw [hdrop, afterTerminator, if_pos hopens]
    split
    · rfl
    · next hsome => exact absurd (hnone.symm.trans hsome) (by simp)
  | string hopen hnever =>
    have hlt := lt_length hopen
    have hnone := closeString_eq_none hnever
    refine ⟨.string (bs.drop p), ?_, ?_⟩
    · rw [drop_eq_cons hopen, afterTerminator, if_neg (not_opensComment (by decide)), if_pos rfl]
      split
      · rfl
      · next hsome => exact absurd (hnone.symm.trans hsome) (by simp)
    · rw [Unclosed.at, List.length_drop, Nat.sub_sub_self hlt.le]

/-! ## The answer that the rules allow is the one that is found -/

/-- The scanner looks for the terminator of a sentence that is no bullet and no brace. -/
theorem Grammar.Begins.afterSentence_eq (h : Begins bs s b) :
    afterSentence (bs.drop s) = afterTerminator (bs.drop s) := by
  rw [drop_eq_cons h.byte, afterSentence, if_neg (mt isBullet_iff.1 h.not_bullet),
    if_neg (mt isBrace_iff.1 h.not_brace)]

/-- A run of a sign ends within the text. -/
theorem Grammar.IsRun.le_length (h : IsRun bs b p q) : q ≤ bs.length := by
  have hlt := h.lt
  have hlast := lt_length (h.inner (q - 1) (by omega) (by omega))
  omega

/-- A bullet reaches as far as bytes like its first. -/
theorem Grammar.IsRun.afterSentence_eq (h : IsRun bs b p q) (hbullet : IsBullet b) :
    afterSentence (bs.drop p) = .ok (some (bs.drop q)) := by
  have hdrop := drop_eq_cons (h.inner p le_rfl h.lt)
  have hrun := h.dropWhile_eq
  rw [hdrop, List.dropWhile_cons_of_pos (p := (· == b)) (beq_self_eq_true b)] at hrun
  rw [hdrop, afterSentence, if_pos (isBullet_iff.2 hbullet), hrun]

/-- A brace is a sentence of its own. -/
private theorem afterSentence_of_brace (hb : bs[s]? = some b) (hbrace : IsBrace b) :
    afterSentence (bs.drop s) = .ok (some (bs.drop (s + 1))) := by
  have hbullet : ¬ isBullet b = true := by
    simp only [IsBrace, List.map_cons, List.map_nil, List.mem_cons, List.not_mem_nil,
      or_false] at hbrace
    rcases hbrace with rfl | rfl <;> decide
  rw [drop_eq_cons hb, afterSentence, if_neg hbullet, if_pos (isBrace_iff.2 hbrace)]

/-- Behind what is skipped the sentence itself is scanned. -/
theorem Grammar.Significant.scan_eq (hskip : Skipped bs p s) (h : Significant bs s b) :
    scan (bs.drop p) = (afterSentence (bs.drop s)).map (Option.map (bs.drop s, ·)) := by
  simp only [scan, hskip.skipBlanks_eq, h.skipBlanks_eq]
  rcases afterSentence (bs.drop s) with e | _ | after <;> rfl

/-- What is left at two offsets tells the offsets. -/
theorem spanOf_drop (hp : p ≤ bs.length) (hq : q ≤ bs.length) :
    spanOf bs.length (bs.drop p) (bs.drop q) = ⟨p, q⟩ := by
  rw [spanOf, List.length_drop, List.length_drop, Nat.sub_sub_self hp, Nat.sub_sub_self hq]

/-- What the rules allow is what is found. -/
theorem Grammar.Answer.next_eq {text : String} {offset : Nat}
    {answer : Except SplitError (Option Span)}
    (h : Answer (bytes text) offset answer) : next text offset = answer := by
  unfold next
  dsimp only
  -- each rule fixes what the scanner passes over and where it stops
  cases h with
  | nothing hskip hend => rw [scan, hskip.skipBlanks_eq, drop_eq_nil hend, skipBlanks]; rfl
  | hidden hskip hopen hnever =>
    rw [scan, hskip.skipBlanks_eq, skipBlanks_of_hidden hopen hnever]
    exact congrArg Except.error (at_comment hopen)
  | bullet hskip hb hbullet hrun =>
    rw [hb.scan_eq hskip, hrun.afterSentence_eq hbullet]
    exact congrArg (Except.ok ∘ some) (spanOf_drop (lt_length hb.byte).le hrun.le_length)
  | brace hskip hb hbrace =>
    rw [hb.scan_eq hskip, afterSentence_of_brace hb.byte hbrace]
    exact congrArg (Except.ok ∘ some) (spanOf_drop (lt_length hb.byte).le (lt_length hb.byte))
  | ended hskip hb hpass hend =>
    rw [hb.scan_eq hskip, hb.afterSentence_eq, hpass.afterTerminator_eq, hend.afterTerminator_eq]
    exact congrArg (Except.ok ∘ some) (spanOf_drop (lt_length hb.byte).le hend.dots.le_length)
  | unfinished hskip hb hpass hend =>
    rw [hb.scan_eq hskip, hb.afterSentence_eq, hpass.afterTerminator_eq,
      afterTerminator_of_end hend]
    rfl
  | dangling hskip hb hpass hdangling =>
    obtain ⟨unclosed, hunclosed, hat⟩ := hdangling.afterTerminator_eq
    rw [hb.scan_eq hskip, hb.afterSentence_eq, hpass.afterTerminator_eq, hunclosed]
    exact congrArg Except.error hat

/-! ## The rules always allow an answer -/

/-- Behind blanks and comments the text ends, a comment is never closed, or a sentence begins. -/
private theorem exists_skipped (bs : List UInt8) (p : Nat) : ∃ s, Skipped bs p s ∧
    (bs[s]? = none ∨ (Opens bs s ∧ ∀ q, ¬ Comment bs s q) ∨ ∃ b, Significant bs s b) := by
  induction hn : bs.length - p using Nat.strongRecOn generalizing p with
  | _ n ih =>
    -- what is skipped first leaves less to skip
    have hgap : ∀ q, p < bs.length → p < q → Gap bs p q → ∃ s, Skipped bs p s ∧
        (bs[s]? = none ∨ (Opens bs s ∧ ∀ q, ¬ Comment bs s q) ∨ ∃ b, Significant bs s b) := by
      intro q hp hlt hgap
      obtain ⟨s, hskip, hs⟩ := ih _ (by omega) q rfl
      exact ⟨s, .head hgap hskip, hs⟩
    cases hb : bs[p]? with
    | none => exact ⟨p, .refl, .inl hb⟩
    | some b =>
      have hp := lt_length hb
      by_cases hblank : IsBlank b
      · exact hgap (p + 1) hp (by omega) (.blank hb hblank)
      · by_cases hopen : Opens bs p
        · by_cases hclosed : ∃ q, Comment bs p q
          · obtain ⟨q, hcomment⟩ := hclosed
            exact hgap q hp hcomment.lt (.comment hcomment)
          · exact ⟨p, .refl, .inr (.inl ⟨hopen, not_exists.1 hclosed⟩)⟩
        · exact ⟨p, .refl, .inr (.inr ⟨b, hb, hblank, hopen⟩)⟩

/-- At a byte a token stands, or what opens there is never closed. -/
private theorem exists_token (hb : bs[p]? = some b) :
    (∃ q, p < q ∧ Token bs p q) ∨ ∃ error, Dangling bs p error := by
  -- the cases are tried in the order in which the tokens take precedence
  by_cases hopen : Opens bs p
  · by_cases hclosed : ∃ q, Comment bs p q
    · obtain ⟨q, hcomment⟩ := hclosed
      exact .inl ⟨q, hcomment.lt, .comment hcomment⟩
    · exact .inr ⟨_, .comment hopen (not_exists.1 hclosed)⟩
  · by_cases hquote : b = '"'.toUInt8
    · subst hquote
      rcases exists_quoted hb with ⟨k, hquoted⟩ | hnever
      · exact .inl ⟨k + 1, Nat.lt_succ_of_lt hquoted.lt, .string hquoted⟩
      · exact .inr ⟨_, .string hb hnever⟩
    · by_cases hdot : b = '.'.toUInt8
      · subst hdot
        obtain ⟨q, hrun⟩ := exists_isRun hb
        exact .inl ⟨q, hrun.lt, .dots hrun⟩
      · exact .inl ⟨p + 1, Nat.lt_succ_self p, .byte hb hopen hquote hdot⟩

/-- Behind tokens that end no sentence one ends it, the text ends, or what opens is never closed. -/
private theorem exists_passed (bs : List UInt8) (p : Nat) : ∃ q, Passed bs p q ∧
    (bs[q]? = none ∨ (∃ error, Dangling bs q error) ∨ ∃ e, Terminator bs q e) := by
  induction hn : bs.length - p using Nat.strongRecOn generalizing p with
  | _ n ih =>
    cases hb : bs[p]? with
    | none => exact ⟨p, .refl, .inl hb⟩
    | some b =>
      have hp := lt_length hb
      rcases exists_token hb with ⟨q, hlt, htoken⟩ | hdangling
      · by_cases hend : Terminator bs p q
        · exact ⟨p, .refl, .inr (.inr ⟨q, hend⟩)⟩
        · obtain ⟨m, hpass, hm⟩ := ih _ (by omega) q rfl
          exact ⟨m, .head ⟨htoken, hend⟩ hpass, hm⟩
      · exact ⟨p, .refl, .inr (.inl hdangling)⟩

/-- Every text has an answer at every offset. -/
theorem exists_answer (bs : List UInt8) (offset : Nat) : ∃ answer, Answer bs offset answer := by
  obtain ⟨s, hskip, hend | ⟨hopen, hnever⟩ | ⟨b, hb⟩⟩ := exists_skipped bs offset
  · exact ⟨_, .nothing hskip hend⟩
  · exact ⟨_, .hidden hskip hopen hnever⟩
  · by_cases hbullet : IsBullet b
    · obtain ⟨e, hrun⟩ := exists_isRun hb.byte
      exact ⟨_, .bullet hskip hb hbullet hrun⟩
    · by_cases hbrace : IsBrace b
      · exact ⟨_, .brace hskip hb hbrace⟩
      · have hbegins : Begins bs s b := ⟨hb, hbullet, hbrace⟩
        obtain ⟨p, hpass, hend | ⟨error, hdangling⟩ | ⟨e, hend⟩⟩ := exists_passed bs s
        · exact ⟨_, .unfinished hskip hbegins hpass hend⟩
        · exact ⟨_, .dangling hskip hbegins hpass hdangling⟩
        · exact ⟨_, .ended hskip hbegins hpass hend⟩

/-- What is found is what the rules allow. -/
theorem answer_next (text : String) (offset : Nat) :
    Answer (bytes text) offset (next text offset) := by
  obtain ⟨answer, hanswer⟩ := exists_answer (bytes text) offset
  rwa [hanswer.next_eq]

/-- Where the search fails, something opens that is never closed. -/
theorem dangling_of_next {text : String} {offset : Nat} {e : SplitError}
    (h : next text offset = .error e) :
    Dangling (bytes text) e.offset e := by
  have hanswer := answer_next text offset
  rw [h] at hanswer
  cases hanswer with
  | hidden hskip hopen hnever => exact .comment hopen hnever
  | dangling hskip hb hpass hdangling =>
    cases hdangling with
    | comment hopen hnever => exact .comment hopen hnever
    | string hopen hnever => exact .string hopen hnever

/-- The search for a sentence answers what the grammar says, and the grammar says one thing at every
offset. -/
theorem next_eq_iff (text : String) (offset : Nat) (answer : Except SplitError (Option Span)) :
    next text offset = answer ↔ Answer (bytes text) offset answer := by
  constructor
  · rintro rfl
    exact answer_next text offset
  · exact Answer.next_eq

end ProofDesk.Sentence
