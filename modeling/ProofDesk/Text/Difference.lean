import ProofDesk.Text.Cut
import ProofDesk.Text.Utf8

/-!
# Where two texts differ

Two texts are compared byte by byte, from the front and then, behind what that found, from the back.
The bytes in which they agree may stop inside a character, so either number is lowered until it cuts
between characters of both texts. Sizes are subtracted with a check: a result is missing where one
would fall below zero, and `isSome_commonEnds?` says that it never is.
-/

namespace ProofDesk.Text

/-- The difference of two numbers, unless it falls below zero. -/
def minus? (m n : Nat) : Option Nat :=
  if n ≤ m then some (m - n) else none

/-- Lower a number until it is accepted. The result is missing if a number cannot be judged, or
would have to fall below zero. -/
def lower? (accepts? : Nat → Option Bool) : Nat → Option Nat
  | 0 => do if ← accepts? 0 then return 0 else none
  | n + 1 => do if ← accepts? (n + 1) then return n + 1 else lower? accepts? n

/-- The number of bytes in which two sequences agree from the front. -/
def agreement (as bs : List UInt8) : Nat :=
  ((as.zip bs).takeWhile fun pair => pair.1 == pair.2).length

/-- The number of bytes in which two texts agree from the front. -/
def frontAgreement (old new : List Char) : Nat :=
  agreement (encode old) (encode new)

/-- The number of bytes in which two texts agree from the back, where at most `room` bytes are
looked at. -/
def backAgreement (old new : List Char) (room : Nat) : Nat :=
  agreement ((encode old).reverse.take room) ((encode new).reverse.take room)

/-- Whether both texts can be cut behind their first `n` bytes. -/
def cutsFront (old new : List Char) (n : Nat) : Bool :=
  IsBoundary new n ∧ IsBoundary old n

/-- Whether both texts can be cut in front of their last `n` bytes. -/
def cutsBack? (old new : List Char) (n : Nat) : Option Bool := do
  let inNew ← minus? (size new) n
  let inOld ← minus? (size old) n
  return IsBoundary new inNew ∧ IsBoundary old inOld

/-- How many bytes two texts have in common, at the front and at the back. -/
structure Ends where
  front : Nat
  back : Nat
  deriving Repr, DecidableEq

/-- What two texts have in common at their ends. The back of either text is looked for behind the
front. -/
def commonEnds? (old new : List Char) : Option Ends := do
  let front ← lower? (fun n => some (cutsFront old new n)) (frontAgreement old new)
  let room ← minus? (min (size old) (size new)) front
  let back ← lower? (cutsBack? old new) (backAgreement old new room)
  return ⟨front, back⟩

/-- A difference is checked just where it does not fall below zero. -/
theorem minus?_eq_some_iff {m n k : Nat} : minus? m n = some k ↔ n ≤ m ∧ m - n = k := by
  unfold minus?
  split <;> simp <;> omega

/-- What a number is lowered to is accepted, and all numbers that were passed are refused. -/
theorem lower?_eq_some_iff {accepts? : Nat → Option Bool} {n m : Nat} :
    lower? accepts? n = some m ↔
      accepts? m = some true ∧ m ≤ n ∧ ∀ k, m < k → k ≤ n → accepts? k = some false := by
  induction n with
  | zero =>
    cases h : accepts? 0 with
    | none => grind [lower?]
    | some accepted => cases accepted <;> grind [lower?]
  | succ n ih =>
    cases h : accepts? (n + 1) with
    | none => grind [lower?]
    | some accepted => cases accepted <;> grind [lower?]

/-- Lowering ends where zero is accepted and everything on the way to it can be judged. -/
theorem isSome_lower? {accepts? : Nat → Option Bool} {n : Nat} (hzero : accepts? 0 = some true)
    (hjudged : ∀ k ≤ n, (accepts? k).isSome) : (lower? accepts? n).isSome := by
  induction n with
  | zero => simp [lower?, hzero]
  | succ n ih =>
    obtain ⟨accepted, haccepted⟩ := Option.isSome_iff_exists.1 (hjudged (n + 1) (Nat.le_refl _))
    cases accepted with
    | true => simp [lower?, haccepted]
    | false =>
      have hrest := ih fun k hk => hjudged k (Nat.le_succ_of_le hk)
      simpa [lower?, haccepted] using hrest

/-- Bytes agree in no more places than there are. -/
theorem agreement_le (as bs : List UInt8) : agreement as bs ≤ min as.length bs.length := by
  rw [← List.length_zip]
  exact (List.takeWhile_sublist _).length_le

/-- Two texts agree from the front in no more bytes than either has. -/
theorem frontAgreement_le (old new : List Char) :
    frontAgreement old new ≤ min (size old) (size new) := by
  rw [← length_encode, ← length_encode]
  exact agreement_le _ _

/-- Two texts agree from the back in no more bytes than are looked at. -/
theorem backAgreement_le (old new : List Char) (room : Nat) :
    backAgreement old new room ≤ room := by
  refine Nat.le_trans (agreement_le _ _) (Nat.le_trans (Nat.min_le_left _ _) ?_)
  rw [List.length_take]
  exact Nat.min_le_left _ _

/-- An empty front cuts between characters. -/
theorem cutsFront_zero (old new : List Char) : cutsFront old new 0 = true :=
  decide_eq_true ⟨isBoundary_zero new, isBoundary_zero old⟩

/-- A back that fits into both texts is judged by where it cuts them. -/
theorem cutsBack?_eq_some {old new : List Char} {n : Nat} (h : n ≤ min (size old) (size new)) :
    cutsBack? old new n =
      some (decide (IsBoundary new (size new - n) ∧ IsBoundary old (size old - n))) := by
  obtain ⟨hold, hnew⟩ := Nat.le_min.1 h
  simp [cutsBack?, minus?, hold, hnew]

/-- An empty back cuts between characters. -/
theorem cutsBack?_zero (old new : List Char) : cutsBack? old new 0 = some true := by
  rw [cutsBack?_eq_some (Nat.zero_le _)]
  exact congrArg some (decide_eq_true ⟨isBoundary_size new, isBoundary_size old⟩)

/-- No size falls below zero when two texts are compared. -/
theorem isSome_commonEnds? (old new : List Char) : (commonEnds? old new).isSome := by
  have hfront : (lower? (fun n => some (cutsFront old new n)) (frontAgreement old new)).isSome :=
    isSome_lower? (congrArg some (cutsFront_zero old new)) fun _ _ => rfl
  obtain ⟨front, hfront⟩ := Option.isSome_iff_exists.1 hfront
  have hfits := Nat.le_trans (lower?_eq_some_iff.1 hfront).2.1 (frontAgreement_le old new)
  have hroom := minus?_eq_some_iff.2 ⟨hfits, rfl⟩
  have hback :
      (lower? (cutsBack? old new)
        (backAgreement old new (min (size old) (size new) - front))).isSome := by
    refine isSome_lower? (cutsBack?_zero old new) fun k hk => ?_
    -- no more is looked for from the back than there is room for
    have hfits := Nat.le_trans hk (backAgreement_le old new _)
    rw [cutsBack?_eq_some (Nat.le_trans hfits (Nat.sub_le _ _)), Option.isSome_some]
  obtain ⟨back, hback⟩ := Option.isSome_iff_exists.1 hback
  simp [commonEnds?, hfront, hroom, hback]

/-- What two texts have in common at their ends. -/
def commonEnds (old new : List Char) : Ends :=
  (commonEnds? old new).get (isSome_commonEnds? old new)

/-- The common ends are those that are found. -/
theorem commonEnds?_eq_some (old new : List Char) :
    commonEnds? old new = some (commonEnds old new) :=
  (Option.some_get _).symm

end ProofDesk.Text
