import Mathlib.Data.List.Basic
import Mathlib.Tactic.Common
import ProofDesk.Text.Blank
import ProofDesk.Text.Numeral

/-!
# Numerals there and back

The decimal numeral of a number is read back as that number. It holds digits only, so that no blank
is trimmed off it and no sign is mistaken for a part of it.
-/

namespace ProofDesk.Text

/-! ## Digits -/

/-- Further digits are read on from the number that the first ones make. -/
theorem digitsFrom_append (base n : Nat) (cs ds : List Char) :
    digitsFrom base n (cs ++ ds) = (digitsFrom base n cs).bind fun m => digitsFrom base m ds := by
  induction cs generalizing n with
  | nil => rfl
  | cons c cs ih =>
    rw [List.cons_append, digitsFrom, digitsFrom, Option.bind_assoc]
    exact congrArg _ (funext fun d => ih _)

/-- Decimal digits are read back. -/
theorem digit?_digitChar : ∀ d < 10, digit? 10 (Nat.digitChar d) = some d := by
  decide

/-- The digits of a number make that number. -/
theorem digitsFrom_decimal (n : Nat) : digitsFrom 10 0 (decimal n) = some n := by
  unfold decimal
  induction n using Nat.strongRecOn with
  | _ n ih =>
    by_cases hn : n < 10
    · rw [Nat.toDigits_of_lt_base hn, digitsFrom, digit?_digitChar n hn]
      simp [digitsFrom]
    · -- the last digit is the remainder
      have hlast : n % 10 < 10 := Nat.mod_lt n (by decide)
      rw [Nat.toDigits_of_base_le (by decide) (by omega), digitsFrom_append, ih (n / 10) (by omega),
        Option.bind_some, digitsFrom, digit?_digitChar _ hlast, Option.bind_some, digitsFrom,
        Nat.div_add_mod']

theorem decimal_ne_nil (n : Nat) : decimal n ≠ [] :=
  Nat.toDigits_ne_nil

/-- A number is read back from its digits. -/
theorem digits?_decimal (n : Nat) : digits? 10 (decimal n) = some n := by
  have hempty : (decimal n).isEmpty = false := by simpa using decimal_ne_nil n
  rw [digits?, hempty]
  exact digitsFrom_decimal n

/-- A numeral begins with a digit, not with a sign. -/
theorem exists_decimal (n : Nat) : ∃ c cs, decimal n = c :: cs ∧ c ≠ '+' ∧ c ≠ '-' := by
  obtain ⟨c, cs, hcs⟩ := List.exists_cons_of_ne_nil (decimal_ne_nil n)
  have hdigit : c.isDigit = true := by
    refine Nat.isDigit_of_mem_toDigits (b := 10) (n := n) (by decide) (by decide) ?_
    rw [← decimal, hcs]
    exact List.mem_cons_self
  refine ⟨c, cs, hcs, ?_, ?_⟩ <;> rintro rfl <;> exact absurd hdigit (by decide)

@[simp] theorem unsignedDigits_decimal (n : Nat) : unsignedDigits (decimal n) = decimal n := by
  obtain ⟨c, cs, hcs, hplus, -⟩ := exists_decimal n
  rw [hcs, unsignedDigits]
  simpa using hplus

/-- A number up to the limit is read back off its numeral. -/
theorem natural?_decimal {n limit : Nat} (h : n ≤ limit) :
    natural? 10 limit (decimal n) = some n := by
  rw [natural?, unsignedDigits_decimal, digits?_decimal]
  simp [h]

/-- A signed 64-bit number is read back off its numeral. -/
theorem integer64?_signedDecimal {i : Int} (hlower : -0x8000000000000000 ≤ i)
    (hupper : i < 0x8000000000000000) :
    integer64? (signedDecimal i) = some i := by
  cases i with
  | ofNat n =>
    -- a numeral without a sign does not begin with one
    obtain ⟨c, cs, hcs, -, hminus⟩ := exists_decimal n
    have hn : n < 0x8000000000000000 := by
      have hcast : Int.ofNat n = (n : Int) := rfl
      omega
    rw [signedDecimal, integer64?.eq_def]
    split
    · next heq =>
      rw [hcs, List.cons.injEq] at heq
      exact absurd heq.1 hminus
    · rw [unsignedDigits_decimal, digits?_decimal]
      simp [Option.filter, hn]
  | negSucc n =>
    have hn : n + 1 ≤ 0x8000000000000000 := by omega
    rw [signedDecimal, integer64?, digits?_decimal]
    simp [Option.filter, hn, Int.negSucc_eq]

/-! ## Blanks -/

/-- Nothing is trimmed off a text without blanks. -/
theorem trim_of_forall {cs : List Char} (h : ∀ c ∈ cs, isBlank c = false) : trim cs = cs := by
  have hdrop : ∀ ds : List Char, (∀ c ∈ ds, isBlank c = false) → ds.dropWhile isBlank = ds := by
    intro ds hds
    cases ds with
    | nil => rfl
    | cons c ds => exact List.dropWhile_cons_of_neg (by simp [hds c])
  rw [trim, trimFront, hdrop cs h, hdrop cs.reverse (by simpa using h), List.reverse_reverse]

/-- A digit is no blank. -/
theorem isBlank_of_isDigit {c : Char} (h : c.isDigit = true) : isBlank c = false := by
  simp only [Char.isDigit, ge_iff_le, Bool.and_eq_true, decide_eq_true_eq,
    UInt32.le_iff_toNat_le] at h
  change 48 ≤ c.toNat ∧ c.toNat ≤ 57 at h
  unfold isBlank
  simp only [Bool.or_eq_false_iff, Bool.and_eq_false_iff, decide_eq_false_iff_not,
    beq_eq_false_iff_ne]
  omega

@[simp] theorem trim_decimal (n : Nat) : trim (decimal n) = decimal n :=
  trim_of_forall fun c hc =>
    isBlank_of_isDigit (Nat.isDigit_of_mem_toDigits (by decide) (by decide) hc)

@[simp] theorem trim_signedDecimal (i : Int) : trim (signedDecimal i) = signedDecimal i := by
  cases i with
  | ofNat n => exact trim_decimal n
  | negSucc n =>
    refine trim_of_forall fun c hc => ?_
    rcases List.mem_cons.1 hc with rfl | hc
    · decide
    · exact isBlank_of_isDigit (Nat.isDigit_of_mem_toDigits (by decide) (by decide) hc)

end ProofDesk.Text
