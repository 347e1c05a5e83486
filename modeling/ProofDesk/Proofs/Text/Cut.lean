import Mathlib.Data.List.Basic
import Mathlib.Tactic.Common
import ProofDesk.Text.Cut

/-!
# Cutting texts at boundaries

An offset is a boundary of a text exactly when it is the size of a front part, so statements about
slices and replacements are statements about lists put together.
-/

namespace ProofDesk.Text

theorem size_eq_zero_iff {cs : List Char} : size cs = 0 ↔ cs = [] := by
  cases cs with
  | nil => simp
  | cons c cs =>
    have hpos := c.utf8Size_pos
    simp only [size_cons, reduceCtorEq, iff_false]
    omega

/-- Cutting at the start leaves all behind the cut. -/
theorem cut_zero (cs : List Char) : cut cs 0 = ([], cs) := by
  cases cs with
  | nil => rfl
  | cons c cs =>
    have hpos := c.utf8Size_pos
    rw [cut, if_neg (by omega)]

theorem cut_append (as bs : List Char) {n : Nat} (h : size as ≤ n) :
    cut (as ++ bs) n = (as ++ (cut bs (n - size as)).1, (cut bs (n - size as)).2) := by
  induction as generalizing n with
  | nil => simp
  | cons a as ih =>
    rw [size_cons] at h
    rw [List.cons_append, cut, if_pos (by omega), ih (by omega), size_cons, Nat.sub_sub]
    rfl

theorem cut_append_size (as bs : List Char) : cut (as ++ bs) (size as) = (as, bs) := by
  rw [cut_append as bs (Nat.le_refl _), Nat.sub_self, cut_zero, List.append_nil]

@[simp] theorem upTo_append_size (as bs : List Char) : upTo (as ++ bs) (size as) = as := by
  rw [upTo, cut_append_size]

@[simp] theorem onwards_append_size (as bs : List Char) : onwards (as ++ bs) (size as) = bs := by
  rw [onwards, cut_append_size]

theorem isBoundary_append (as bs : List Char) : IsBoundary (as ++ bs) (size as) := by
  rw [IsBoundary, upTo_append_size]

/-- At a boundary a text falls into two. -/
theorem exists_of_isBoundary {cs : List Char} {n : Nat} (h : IsBoundary cs n) :
    ∃ as bs, cs = as ++ bs ∧ size as = n :=
  ⟨upTo cs n, onwards cs n, (upTo_append_onwards cs n).symm, h⟩

theorem slice_append (as cs bs : List Char) :
    slice (as ++ cs ++ bs) (size as) (size as + size cs) = cs := by
  rw [slice, ← size_append, upTo_append_size, onwards_append_size]

/-- Replacing the middle of three texts leaves the others. -/
theorem splice_append (as cs ds bs : List Char) :
    splice (as ++ cs ++ bs) (size as) (size as + size cs) ds = as ++ ds ++ bs := by
  rw [splice, ← size_append, onwards_append_size, List.append_assoc as, upTo_append_size]

/-- Of two front parts of a text the one that is not larger is a front part of the other. -/
theorem exists_append_of_size_le {as bs cs ds : List Char} (h : as ++ bs = cs ++ ds)
    (hle : size as ≤ size cs) :
    ∃ es, cs = as ++ es ∧ bs = es ++ ds := by
  rcases List.append_eq_append_iff.1 h with ⟨es, hcs, hbs⟩ | ⟨es, has, hds⟩
  · exact ⟨es, hcs, hbs⟩
  · rw [has, size_append] at hle
    have hnil : es = [] := size_eq_zero_iff.1 (by omega)
    exact ⟨[], by simp [has, hnil], by simp [hds, hnil]⟩

end ProofDesk.Text
