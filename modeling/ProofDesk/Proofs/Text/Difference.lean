import Mathlib.Data.Set.Basic
import Mathlib.Order.Bounds.Defs
import ProofDesk.Proofs.Text.Utf8
import ProofDesk.Text.Difference

/-!
# What two texts have in common at their ends

`commonEnds?` compares bytes and then lowers what it found until whole characters are left. What
comes out is the longest common front of whole characters and, of what that leaves, the longest
common back (`commonEnds?_eq_some_iff`). So either text is the common front, a part of its own and
the common back (`exists_parts`).
-/

namespace ProofDesk.Text

/-- The numbers of bytes that are a common front of two texts: both can be cut behind them, and
agree so far. -/
def commonFronts (old new : List Char) : Set Nat :=
  {n | IsBoundary old n ∧ IsBoundary new n ∧ (encode old).take n = (encode new).take n}

/-- The numbers of bytes that are a common back of two texts, and reach into the first `front` bytes
of neither. -/
def commonBacks (old new : List Char) (front : Nat) : Set Nat :=
  {n | front + n ≤ min (size old) (size new) ∧ IsBoundary old (size old - n) ∧
    IsBoundary new (size new - n) ∧
    (encode old).drop (size old - n) = (encode new).drop (size new - n)}

/-- No two texts have the same bytes. -/
theorem encode_injective {as bs : List Char} (h : encode as = encode bs) : as = bs := by
  have hdecode := congrArg decode h
  rw [decode_encode, decode_encode] at hdecode
  exact congrArg Prod.fst hdecode

/-- No boundary lies past the end of a text. -/
theorem IsBoundary.le_size {cs : List Char} {n : Nat} (h : IsBoundary cs n) : n ≤ size cs := by
  obtain ⟨front, rest, rfl, rfl⟩ := exists_of_isBoundary h
  rw [size_append]
  exact Nat.le_add_right _ _

/-- Two sequences agree in as many bytes from the front as can be taken from both alike. -/
theorem le_agreement_iff {as bs : List UInt8} {n : Nat} :
    n ≤ agreement as bs ↔ n ≤ min as.length bs.length ∧ as.take n = bs.take n := by
  induction as generalizing bs n with
  | nil => simp +contextual [agreement]
  | cons a as ih =>
    cases bs with
    | nil => simp +contextual [agreement]
    | cons b bs =>
      cases n with
      | zero => simp
      | succ n =>
        -- the agreement goes on behind equal bytes and ends at others
        by_cases hab : a = b
        · subst hab
          have hcons : agreement (a :: as) (a :: bs) = agreement as bs + 1 := by simp [agreement]
          simp [hcons, ih]
        · have hcons : agreement (a :: as) (b :: bs) = 0 := by simp [agreement, hab]
          simp [hcons, hab]

/-- Where every number can be judged, lowering finds the greatest that is accepted. -/
theorem lower?_eq_some_iff_isGreatest {accepts? : Nat → Option Bool} {n m : Nat}
    (hjudged : ∀ k ≤ n, (accepts? k).isSome) :
    lower? accepts? n = some m ↔ IsGreatest {k | k ≤ n ∧ accepts? k = some true} m := by
  rw [lower?_eq_some_iff]
  constructor
  · rintro ⟨haccepted, hle, hpassed⟩
    refine ⟨⟨hle, haccepted⟩, fun k hk => Nat.le_of_not_lt fun hlt => ?_⟩
    have hrefused := hpassed k hlt hk.1
    rw [hk.2] at hrefused
    exact absurd hrefused (by simp)
  · rintro ⟨⟨hle, haccepted⟩, hgreatest⟩
    refine ⟨haccepted, hle, fun k hlt hk => ?_⟩
    obtain ⟨b, hb⟩ := Option.isSome_iff_exists.1 (hjudged k hk)
    cases b with
    | false => exact hb
    | true => exact absurd (hgreatest ⟨hk, hb⟩) (Nat.not_le_of_lt hlt)

section Ends

variable {old new : List Char} {front back n : Nat}

/-- Two texts agree from the front in as many bytes as they begin with in common. -/
private theorem le_frontAgreement_iff :
    n ≤ frontAgreement old new ↔
    n ≤ min (size old) (size new) ∧ (encode old).take n = (encode new).take n := by
  rw [frontAgreement, le_agreement_iff, length_encode, length_encode]

/-- Two texts agree from the back in as many bytes as they end with in common, as far as is
looked. -/
private theorem le_backAgreement_iff {room : Nat} (hroom : room ≤ min (size old) (size new)) :
    n ≤ backAgreement old new room ↔
      n ≤ room ∧ (encode old).drop (size old - n) = (encode new).drop (size new - n) := by
  have hlength : min ((encode old).reverse.take room).length
      ((encode new).reverse.take room).length = room := by
    simp only [List.length_take, List.length_reverse, length_encode]
    omega
  rw [backAgreement, le_agreement_iff, hlength]
  refine and_congr_right fun hle => ?_
  rw [List.take_take, List.take_take, Nat.min_eq_left hle, List.take_reverse, List.take_reverse,
    List.reverse_inj, length_encode, length_encode]

/-- Lowering the common front to a boundary gives the longest front of whole characters. -/
private theorem lower?_cutsFront_iff :
    lower? (fun n => some (cutsFront old new n)) (frontAgreement old new) = some front ↔
      IsGreatest (commonFronts old new) front := by
  rw [lower?_eq_some_iff_isGreatest fun _ _ => rfl]
  -- within the agreement the fronts are equal, and what is left is that both are boundaries
  have hset : {n | n ≤ frontAgreement old new ∧ some (cutsFront old new n) = some true} =
      commonFronts old new := by
    ext n
    simp only [Set.mem_ofPred_eq, commonFronts, le_frontAgreement_iff, Option.some.injEq, cutsFront,
      decide_eq_true_eq]
    constructor
    · rintro ⟨⟨-, hsame⟩, hnew, hold⟩
      exact ⟨hold, hnew, hsame⟩
    · rintro ⟨hold, hnew, hsame⟩
      exact ⟨⟨Nat.le_min.2 ⟨hold.le_size, hnew.le_size⟩, hsame⟩, hnew, hold⟩
  rw [hset]

/-- Lowering the common back to a boundary gives the longest back of whole characters. -/
theorem lower?_cutsBack?_iff (hfront : front ≤ min (size old) (size new)) :
    lower? (cutsBack? old new) (backAgreement old new (min (size old) (size new) - front)) =
        some back ↔
      IsGreatest (commonBacks old new front) back := by
  -- no common end is longer than what the common front leaves of either text
  have hfits : ∀ n ≤ backAgreement old new (min (size old) (size new) - front),
      n ≤ min (size old) (size new) :=
    fun n hn => Nat.le_trans (Nat.le_trans hn (backAgreement_le old new _)) (Nat.sub_le _ _)
  have hjudged : ∀ n ≤ backAgreement old new (min (size old) (size new) - front),
      (cutsBack? old new n).isSome := fun n hn => by
    rw [cutsBack?_eq_some (hfits n hn), Option.isSome_some]
  rw [lower?_eq_some_iff_isGreatest hjudged]
  have hset :
      {n | n ≤ backAgreement old new (min (size old) (size new) - front) ∧
        cutsBack? old new n = some true} =
      commonBacks old new front := by
    ext n
    simp only [Set.mem_ofPred_eq, commonBacks, le_backAgreement_iff (Nat.sub_le _ front)]
    constructor
    · rintro ⟨⟨hle, hsame⟩, hcut⟩
      rw [cutsBack?_eq_some (by omega), Option.some.injEq, decide_eq_true_eq] at hcut
      exact ⟨by omega, hcut.2, hcut.1, hsame⟩
    · rintro ⟨hle, hold, hnew, hsame⟩
      rw [cutsBack?_eq_some (by omega), decide_eq_true ⟨hnew, hold⟩]
      exact ⟨⟨by omega, hsame⟩, rfl⟩
  rw [hset]

/-- Comparing two texts finds their longest common front, and behind that their longest common
back. -/
private theorem commonEnds?_eq_some_iff :
    commonEnds? old new = some ⟨front, back⟩ ↔
      IsGreatest (commonFronts old new) front ∧ IsGreatest (commonBacks old new front) back := by
  simp only [commonEnds?, Option.bind_eq_bind, Option.bind_eq_some_iff, Option.pure_def,
    Option.some.injEq, Ends.mk.injEq, lower?_cutsFront_iff, minus?_eq_some_iff]
  constructor
  · rintro ⟨_, hfront, _, ⟨hle, rfl⟩, _, hback, rfl, rfl⟩
    exact ⟨hfront, (lower?_cutsBack?_iff hle).1 hback⟩
  · rintro ⟨hfront, hback⟩
    have hle : front ≤ min (size old) (size new) := Nat.le_of_add_right_le hback.1.1
    exact ⟨front, hfront, _, ⟨hle, rfl⟩, back, (lower?_cutsBack?_iff hle).2 hback, rfl, rfl⟩

-- text that is repeated counts for the front
example : commonEnds? "aa".toList "aaa".toList = some ⟨2, 0⟩ := by decide

/-- The ends that are found are the longest that two texts have in common. -/
theorem isGreatest_commonEnds (old new : List Char) :
    IsGreatest (commonFronts old new) (commonEnds old new).front ∧
    IsGreatest (commonBacks old new (commonEnds old new).front) (commonEnds old new).back :=
  commonEnds?_eq_some_iff.1 (commonEnds?_eq_some old new)

/-- Only texts that are the same have all of either in common. -/
theorem front_commonEnds_eq_iff :
    (commonEnds old new).front = size old ∧ (commonEnds old new).front = size new ↔ old = new := by
  obtain ⟨⟨hfront, hgreatest⟩, -⟩ := isGreatest_commonEnds old new
  constructor
  · rintro ⟨hold, hnew⟩
    have hsame := hfront.2.2
    rw [List.take_of_length_le (by simp [hold]), List.take_of_length_le (by simp [hnew])] at hsame
    exact encode_injective hsame
  · rintro rfl
    have hle := hgreatest ⟨isBoundary_size old, isBoundary_size old, rfl⟩
    have heq := Nat.le_antisymm hfront.1.le_size hle
    exact ⟨heq, heq⟩

/-- Two texts are their common front, a part of their own and their common back. -/
theorem exists_parts (hfront : front ∈ commonFronts old new)
    (hback : back ∈ commonBacks old new front) :
    ∃ before mid mid' behind, old = before ++ mid ++ behind ∧ new = before ++ mid' ++ behind ∧
      size before = front ∧ size behind = back := by
  obtain ⟨hfrontOld, hfrontNew, hsameFront⟩ := hfront
  obtain ⟨hroom, hbackOld, hbackNew, hsameBack⟩ := hback
  obtain ⟨before, rest, hold, hbefore⟩ := exists_of_isBoundary hfrontOld
  obtain ⟨before', rest', hnew, hbefore'⟩ := exists_of_isBoundary hfrontNew
  obtain ⟨upTo, behind, hold', hupTo⟩ := exists_of_isBoundary hbackOld
  obtain ⟨upTo', behind', hnew', hupTo'⟩ := exists_of_isBoundary hbackNew
  -- what spells the same bytes is the same
  obtain rfl : before = before' := by
    refine encode_injective ?_
    rwa [hold, hnew, encode_append, encode_append, List.take_left' (by simp [hbefore]),
      List.take_left' (by simp [hbefore'])] at hsameFront
  obtain rfl : behind = behind' := by
    refine encode_injective ?_
    rwa [← hupTo, ← hupTo', hold', hnew', encode_append, encode_append, List.drop_left' (by simp),
      List.drop_left' (by simp)] at hsameBack
  -- the front ends before the back begins, in either text
  obtain ⟨mid, rfl, -⟩ := exists_append_of_size_le (hold.symm.trans hold') (by omega)
  obtain ⟨mid', rfl, -⟩ := exists_append_of_size_le (hnew.symm.trans hnew') (by omega)
  have hsize := congrArg size hold'
  rw [size_append] at hsize
  exact ⟨before, mid, mid', behind, hold', hnew', hbefore, by omega⟩

end Ends

end ProofDesk.Text
