import Mathlib.Algebra.Group.Nat.Defs
import Mathlib.Order.Bounds.Defs
import ProofDesk.Proofs.Text.Cut
import ProofDesk.Prover.Channel
import ProofDesk.Session.Operation

/-!
# Positions and offsets

Both directions are compared through front parts of the text. A front part ends by a line and a
column if it has fewer line feeds, or as many and no more bytes after the last one. The main lemma
is that a front part ends by a position exactly when it is no longer than the offset of the
position; everything else follows from it: the offset is the greatest boundary whose position is not
behind the given one, going from a boundary to its position and back changes nothing, and later
positions have later offsets.
-/

namespace ProofDesk

namespace Text

/-- The first line goes on behind what holds no line feed. -/
theorem firstLine_append {as : List Char} (h : '\n' ∉ as) (bs : List Char) :
    firstLine (as ++ bs) = as ++ firstLine bs := by
  apply List.takeWhile_append_of_pos
  intro c hc
  simpa using fun heq : c = '\n' => h (heq ▸ hc)

/-- A line feed ends the first line. -/
theorem firstLine_newline (cs : List Char) : firstLine ('\n' :: cs) = [] := rfl

/-- A text without a line feed is one line. -/
private theorem firstLine_of_notMem {as : List Char} (h : '\n' ∉ as) : firstLine as = as := by
  simpa [firstLine] using firstLine_append h []

/-- What follows the first line follows it behind what holds no line feed. -/
theorem afterLine?_append {as : List Char} (h : '\n' ∉ as) (bs : List Char) :
    afterLine? (as ++ bs) = afterLine? bs := by
  induction as with
  | nil => rfl
  | cons a as ih =>
    rw [List.mem_cons, not_or] at h
    rw [List.cons_append, afterLine?, if_neg (Ne.symm h.1), ih h.2]

/-- A text with a line feed is its first line, the line feed and what comes after. -/
theorem exists_lines_of_mem {cs : List Char} (h : '\n' ∈ cs) :
    ∃ line rest, '\n' ∉ line ∧ cs = line ++ '\n' :: rest := by
  obtain ⟨line, rest, hcs, hline⟩ := List.eq_append_cons_of_mem h
  exact ⟨line, rest, hline, hcs⟩

/-- Behind a line feed the next line begins. -/
theorem afterLine?_newline (cs : List Char) : afterLine? ('\n' :: cs) = some cs := by
  rw [afterLine?, if_pos rfl]

end Text

namespace Position

open Text

/-! ### Last lines -/

/-- The last line begins behind the last line feed. -/
private theorem lastLine_newline (as bs : List Char) :
    lastLine (as ++ '\n' :: bs) = lastLine bs := by
  have hcut : ∀ cs, firstLine (cs ++ '\n' :: as.reverse) = firstLine cs := by
    intro cs
    by_cases hmem : '\n' ∈ cs
    · obtain ⟨line, rest, hline, rfl⟩ := exists_lines_of_mem hmem
      rw [List.append_assoc, firstLine_append hline, firstLine_append hline, List.cons_append,
        firstLine_newline, firstLine_newline]
    · rw [firstLine_append hmem, firstLine_newline, List.append_nil, firstLine_of_notMem hmem]
  rw [lastLine, lastLine, List.reverse_append, List.reverse_cons, List.append_assoc,
    List.singleton_append, hcut]

/-- The last line goes on with what holds no line feed. -/
theorem lastLine_append (as : List Char) {bs : List Char} (h : '\n' ∉ bs) :
    lastLine (as ++ bs) = lastLine as ++ bs := by
  have hreverse : '\n' ∉ bs.reverse := by rwa [List.mem_reverse]
  rw [lastLine, lastLine, List.reverse_append, firstLine_append hreverse, List.reverse_append,
    List.reverse_reverse]

/-- A text without a line feed is its own last line. -/
theorem lastLine_of_notMem {cs : List Char} (h : '\n' ∉ cs) : lastLine cs = cs :=
  lastLine_append [] h

/-- The last line ends the text. -/
private theorem lastLine_suffix (cs : List Char) : lastLine cs <:+ cs := by
  rw [← List.reverse_prefix, lastLine, List.reverse_reverse]
  exact List.takeWhile_prefix _

/-! ### Front parts and the offset of a position -/

/-- Whether a text that begins with `cs` has the end of `cs` at or before a line and a column. -/
def EndsBy (line column : Nat) (cs : List Char) : Prop :=
  cs.count '\n' < line ∨ cs.count '\n' = line ∧ size (lastLine cs) ≤ column

variable {line column : Nat} {as bs cs es : List Char} {text : String}

/-- A text ends on the first line by a column if it is one line, of no more bytes. -/
private theorem endsBy_zero_iff : EndsBy 0 column cs ↔ '\n' ∉ cs ∧ size cs ≤ column := by
  rw [EndsBy, List.count_eq_zero]
  constructor
  · rintro (hlt | ⟨hnone, hle⟩)
    · exact absurd hlt (Nat.not_lt_zero _)
    · rw [lastLine_of_notMem hnone] at hle
      exact ⟨hnone, hle⟩
  · rintro ⟨hnone, hle⟩
    refine .inr ⟨hnone, ?_⟩
    rwa [lastLine_of_notMem hnone]

/-- A text of one line ends before any later line. -/
private theorem EndsBy.of_notMem (h : '\n' ∉ cs) : EndsBy (line + 1) column cs := by
  left
  rw [List.count_eq_zero.2 h]
  exact Nat.succ_pos line

/-- Once a line has been passed there is one less to pass. -/
private theorem endsBy_newline_iff (h : '\n' ∉ as) :
    EndsBy (line + 1) column (as ++ '\n' :: cs) ↔ EndsBy line column cs := by
  have hcount : (as ++ '\n' :: cs).count '\n' = cs.count '\n' + 1 := by
    rw [List.count_append, List.count_eq_zero.2 h, List.count_cons_self, Nat.zero_add]
  rw [EndsBy, EndsBy, hcount, lastLine_newline]
  omega

/-- A front part fits in front of a column just when it is not longer than that. -/
private theorem size_le_size_upTo_iff :
    size as ≤ size (upTo (as ++ bs) column) ↔ size as ≤ column := by
  constructor
  · intro hle
    exact Nat.le_trans hle (size_upTo_le _ _)
  · intro hle
    rw [upTo, cut_append as bs hle, size_append]
    exact Nat.le_add_right _ _

/-- An offset on a later line counts from behind the line feed. -/
theorem offsetIn_newline (h : '\n' ∉ as) :
    offsetIn (line + 1) column (as ++ '\n' :: cs) =
      size (as ++ ['\n']) + offsetIn line column cs := by
  rw [offsetIn, afterLine?_append h, afterLine?_newline, List.append_cons, size_append]
  dsimp only
  omega

/-- What follows the first line is not longer than the text. -/
private theorem size_afterLine?_le {rest : List Char} (h : afterLine? cs = some rest) :
    size rest ≤ size cs := by
  by_cases hmem : '\n' ∈ cs
  · obtain ⟨line, after, hline, rfl⟩ := exists_lines_of_mem hmem
    rw [afterLine?_append hline, afterLine?_newline] at h
    obtain rfl := Option.some.inj h
    rw [size_append, size_cons]
    omega
  · rw [← List.append_nil cs, afterLine?_append hmem] at h
    cases h

/-- A front part ends by a position exactly when it is no longer than the offset of the position. -/
theorem size_le_offsetIn_iff (bs : List Char) :
    size as ≤ offsetIn line column (as ++ bs) ↔ EndsBy line column as := by
  -- the induction is on the number of lines in front of the position
  induction line generalizing as with
  | zero =>
    rw [offsetIn, endsBy_zero_iff]
    by_cases hmem : '\n' ∈ as
    · -- the first line ends inside the front part, and the offset with it
      obtain ⟨first, rest, hfirst, rfl⟩ := exists_lines_of_mem hmem
      have hcut : firstLine (first ++ '\n' :: rest ++ bs) = first := by
        rw [List.append_assoc, firstLine_append hfirst, List.cons_append, firstLine_newline,
          List.append_nil]
      have hle : size (upTo first column) ≤ size first := by
        conv => rhs; rw [← upTo_append_onwards first column, size_append]
        exact Nat.le_add_right _ _
      have hpos := Char.utf8Size_pos '\n'
      rw [hcut, size_append, size_cons]
      constructor
      · intro hbad
        omega
      · intro hbad
        exact absurd hmem hbad.1
    · rw [firstLine_append hmem, size_le_size_upTo_iff]
      exact ⟨fun hle => ⟨hmem, hle⟩, And.right⟩
  | succ line ih =>
    by_cases hmem : '\n' ∈ as
    · obtain ⟨first, rest, hfirst, rfl⟩ := exists_lines_of_mem hmem
      rw [endsBy_newline_iff hfirst, ← ih, List.append_assoc, List.cons_append,
        offsetIn_newline hfirst, List.append_cons, size_append]
      omega
    · -- the front part ends on an earlier line
      refine iff_of_true ?_ (.of_notMem hmem)
      rw [offsetIn, afterLine?_append hmem, size_append]
      cases hrest : afterLine? bs with
      | none => exact Nat.le_add_right _ _
      | some rest =>
        have hle := size_afterLine?_le hrest
        dsimp only
        omega

/-- The offset of a position is where a front part ends. -/
theorem exists_size_eq_offsetIn (line column : Nat) (cs : List Char) :
    ∃ as bs, cs = as ++ bs ∧ size as = offsetIn line column cs := by
  induction line generalizing cs with
  | zero =>
    have hcut : upTo (firstLine cs) column <+: firstLine cs := ⟨_, upTo_append_onwards _ _⟩
    obtain ⟨bs, hbs⟩ := hcut.trans (List.takeWhile_prefix _)
    exact ⟨_, bs, hbs.symm, rfl⟩
  | succ line ih =>
    by_cases hmem : '\n' ∈ cs
    · obtain ⟨first, rest, hfirst, rfl⟩ := exists_lines_of_mem hmem
      obtain ⟨as, bs, hrest, hsize⟩ := ih rest
      -- the first line and its end are passed, and the offset is counted from there
      refine ⟨first ++ ['\n'] ++ as, bs, by simp [hrest], ?_⟩
      rw [offsetIn_newline hfirst, size_append _ as, hsize]
    · have hnone : afterLine? cs = none := by simpa [afterLine?] using afterLine?_append hmem []
      exact ⟨cs, [], (List.append_nil cs).symm, by rw [offsetIn, hnone]⟩

/-- A text that ends by a position ends by every later one. -/
theorem EndsBy.mono {line' column' : Nat} (h : EndsBy line column cs)
    (hle : line < line' ∨ line = line' ∧ column ≤ column') : EndsBy line' column' cs := by
  unfold EndsBy at h ⊢
  omega

/-- Nothing longer ends by where a front part ends. -/
private theorem eq_nil_of_endsBy (h : EndsBy (as.count '\n') (size (lastLine as)) (as ++ es)) :
    es = [] := by
  rw [EndsBy, List.count_append] at h
  obtain hlt | ⟨hcount, hsize⟩ := h
  · omega
  · have hnone : '\n' ∉ es := List.count_eq_zero.1 (by omega)
    rw [lastLine_append as hnone, size_append] at hsize
    exact size_eq_zero_iff.1 (by omega)

/-! ### Positions of boundaries -/

/-- Positions are in order by their lines and then by their columns. -/
theorem le_iff {p q : Position} : p ≤ q ↔
    p.line.toNat < q.line.toNat ∨ p.line.toNat = q.line.toNat ∧
    p.character.toNat ≤ q.character.toNat := by
  change p.le q ↔ _
  rw [le, UInt32.lt_iff_toNat_lt, UInt32.le_iff_toNat_le, ← UInt32.toNat_inj]

theorem le_refl (p : Position) : p ≤ p :=
  le_iff.2 (.inr ⟨rfl, Nat.le_refl _⟩)

/-- No sign stands in a text more often than the text has bytes. -/
private theorem count_le_size (cs : List Char) (c : Char) : cs.count c ≤ size cs := by
  refine Nat.le_trans List.count_le_length ?_
  induction cs with
  | nil => exact Nat.le_refl 0
  | cons a cs ih =>
    have hpos := a.utf8Size_pos
    rw [List.length_cons, size_cons]
    omega

/-- Line and column of a boundary, which 32 bits can hold. -/
theorem ofOffset_size (htext : text.toList = as ++ bs) (hsize : size text.toList < 2 ^ 32) :
    (ofOffset text (size as)).line.toNat = as.count '\n' ∧
      (ofOffset text (size as)).character.toNat = size (lastLine as) := by
  -- line and column both fit into 32 bits, as the text does
  have hlast : size (lastLine as) ≤ size as := by
    obtain ⟨front, hfront⟩ := lastLine_suffix as
    conv => rhs; rw [← hfront, size_append]
    exact Nat.le_add_left _ _
  have hcount := count_le_size as '\n'
  rw [htext, size_append] at hsize
  have hmin : min (size as) (size (as ++ bs)) = size as := by
    rw [size_append]
    omega
  simp only [ofOffset, htext, hmin, upTo_append_size]
  rw [UInt32.toNat_ofNat', UInt32.toNat_ofNat', Nat.mod_eq_of_lt (by omega),
    Nat.mod_eq_of_lt (by omega)]
  exact ⟨rfl, by omega⟩

@[simp] theorem ofOffset_zero (text : String) : ofOffset text 0 = zero := by
  simp [ofOffset, upTo, cut_zero, lastLine, firstLine, zero]

/-- The position of a boundary is not behind a position just when the boundary is not behind its
offset. -/
theorem ofOffset_le_iff (htext : text.toList = as ++ bs) (hsize : size text.toList < 2 ^ 32)
    (p : Position) :
    ofOffset text (size as) ≤ p ↔ size as ≤ p.toOffset text := by
  obtain ⟨hline, hcharacter⟩ := ofOffset_size htext hsize
  rw [le_iff, hline, hcharacter, toOffset, htext, size_le_offsetIn_iff, EndsBy]

/-- The offset of a position is a boundary. -/
theorem isBoundary_toOffset (text : String) (p : Position) :
    IsBoundary text.toList (p.toOffset text) := by
  obtain ⟨as, bs, htext, hsize⟩ :=
    exists_size_eq_offsetIn p.line.toNat p.character.toNat text.toList
  rw [toOffset, ← hsize, htext]
  exact isBoundary_append as bs

/-- The offset of a position is the last boundary whose position is not behind it. -/
private theorem isGreatest_toOffset (hsize : size text.toList < 2 ^ 32) (p : Position) :
    IsGreatest {o | IsBoundary text.toList o ∧ ofOffset text o ≤ p} (p.toOffset text) := by
  refine ⟨⟨isBoundary_toOffset text p, ?_⟩, ?_⟩
  · obtain ⟨as, bs, htext, has⟩ := exists_of_isBoundary (isBoundary_toOffset text p)
    rw [← has, ofOffset_le_iff htext hsize]
    exact Nat.le_of_eq has
  · rintro o ⟨hboundary, hle⟩
    obtain ⟨as, bs, htext, rfl⟩ := exists_of_isBoundary hboundary
    exact (ofOffset_le_iff htext hsize p).1 hle

/-- A boundary is found again from its position. -/
theorem toOffset_ofOffset (hsize : size text.toList < 2 ^ 32) {o : Nat}
    (ho : IsBoundary text.toList o) :
    (ofOffset text o).toOffset text = o := by
  obtain ⟨as, bs, htext, rfl⟩ := exists_of_isBoundary ho
  obtain ⟨hline, hcharacter⟩ := ofOffset_size htext hsize
  have hle : size as ≤ (ofOffset text (size as)).toOffset text :=
    (ofOffset_le_iff htext hsize _).1 (le_refl _)
  obtain ⟨as', bs', htext', has'⟩ :=
    exists_of_isBoundary (isBoundary_toOffset text (ofOffset text (size as)))
  obtain ⟨es, rfl, -⟩ := exists_append_of_size_le (htext.symm.trans htext') (by rwa [has'])
  -- the front part that is found cannot be longer, since its end would be behind the position
  have hends : EndsBy (as.count '\n') (size (lastLine as)) (as ++ es) := by
    rw [← hline, ← hcharacter, ← size_le_offsetIn_iff bs', ← htext']
    exact Nat.le_of_eq has'
  rw [← has', eq_nil_of_endsBy hends, List.append_nil]

/-- Later positions have later offsets. -/
theorem toOffset_mono (text : String) {p q : Position} (h : p ≤ q) :
    p.toOffset text ≤ q.toOffset text := by
  obtain ⟨as, bs, htext, hsize⟩ :=
    exists_size_eq_offsetIn p.line.toNat p.character.toNat text.toList
  have hends : EndsBy p.line.toNat p.character.toNat as := by
    rw [← size_le_offsetIn_iff bs, ← htext]
    exact Nat.le_of_eq hsize
  rw [toOffset, toOffset, ← hsize]
  conv_rhs => rw [htext]
  exact (size_le_offsetIn_iff bs).2 (hends.mono (le_iff.1 h))

end Position

/-! ### Edits between positions -/

/-- A replacement between two positions in order is never refused, wherever they point. -/
theorem Session.applyEdit_of_le {σ : Type} [Link σ] (s : Session σ) {start stop : Position}
    (h : start ≤ stop)
    (replacement : String) : ∃ outcome, (s.applyEdit start stop replacement).1 = .ok outcome := by
  have hmono := Position.toOffset_mono s.document.text h
  have hstart := Position.isBoundary_toOffset s.document.text start
  have hstop := Position.isBoundary_toOffset s.document.text stop
  obtain ⟨outcome, document, htaken⟩ : ∃ outcome document, s.document.replace
      ⟨start.toOffset s.document.text, stop.toOffset s.document.text⟩ replacement =
        .ok (outcome, document) :=
    ⟨_, _, if_pos ⟨hmono, hstart, hstop⟩⟩
  refine ⟨outcome, ?_⟩
  rw [applyEdit, htaken]

/-- Positions and offsets are adjoint. In a text whose size has 32 bits the offset of a position is
the greatest boundary whose position is not behind it. So boundaries are found again from their
positions, the order of positions is kept, and an edit between two positions in order is always
taken. -/
theorem Position.adjoint_offset {text : String} (hsize : Text.size text.toList < 2 ^ 32) :
    (∀ p : Position,
      IsGreatest {o | Text.IsBoundary text.toList o ∧ ofOffset text o ≤ p} (p.toOffset text)) ∧
      (∀ o, Text.IsBoundary text.toList o → (ofOffset text o).toOffset text = o) ∧
      (∀ p q : Position, p ≤ q → p.toOffset text ≤ q.toOffset text) ∧
      ∀ (σ : Type) [Link σ] (s : Session σ), s.document.text = text → ∀ start stop : Position,
        start ≤ stop →
        ∀ replacement, ∃ outcome, (s.applyEdit start stop replacement).1 = .ok outcome := by
  refine ⟨isGreatest_toOffset hsize, fun o ho => toOffset_ofOffset hsize ho,
    fun p q h => toOffset_mono text h, ?_⟩
  intro σ _ s _ start stop h replacement
  exact s.applyEdit_of_le h replacement

/-- Column 2 of the first line is inside a character that begins after one byte, line 7 is behind
the text, and removing what is between the two is taken. -/
theorem Position.adjoint_offset_of_split_character : Text.size "a≤\nb".toList < 2 ^ 32 ∧
    IsGreatest {o | Text.IsBoundary "a≤\nb".toList o ∧ ofOffset "a≤\nb" o ≤ ⟨0, 2⟩} 1 ∧
      Text.IsBoundary "a≤\nb".toList 5 ∧ ofOffset "a≤\nb" 5 = ⟨1, 0⟩ ∧
      (ofOffset "a≤\nb" 5).toOffset "a≤\nb" = 5 ∧
      (⟨0, 2⟩ : Position) ≤ ⟨7, 0⟩ ∧
      (⟨0, 2⟩ : Position).toOffset "a≤\nb" ≤ (⟨7, 0⟩ : Position).toOffset "a≤\nb" ∧
      (Session.start Channel.opened "a≤\nb" .default).document.text = "a≤\nb" ∧
      ∃ outcome,
        ((Session.start Channel.opened "a≤\nb" .default).applyEdit ⟨0, 2⟩ ⟨7, 0⟩ "").1 =
          .ok outcome := by
  have hsize : Text.size "a≤\nb".toList < 2 ^ 32 := by decide
  have hboundary : Text.IsBoundary "a≤\nb".toList 5 := by decide
  have hle : (⟨0, 2⟩ : Position) ≤ ⟨7, 0⟩ := by decide
  obtain ⟨hgreatest, hround, hmono, hedit⟩ := adjoint_offset hsize
  exact ⟨hsize, hgreatest ⟨0, 2⟩, hboundary, by decide, hround 5 hboundary, hle, hmono _ _ hle, rfl,
    hedit Channel (Session.start Channel.opened "a≤\nb" .default) rfl ⟨0, 2⟩ ⟨7, 0⟩ hle ""⟩

end ProofDesk
