import Mathlib.Data.List.Basic
import Mathlib.Tactic.Common
import ProofDesk.Json.Printer
import ProofDesk.Json.Reader

/-!
# JSON there and back

What is written of a value is read back as that value, and holds no line feed. This is shown for the
values that the protocols exchange (`Plain`): their numbers are natural numbers of 64 bits, and they
are nested less deep than the reader allows. A value ends where the text ends or a comma or a
closing bracket stands (`Closed`), so its reading does not depend on what comes behind.
-/

namespace ProofDesk.Json

/-! ## Strings -/

/-- Hexadecimal digits are read back. -/
theorem hexValue?_hexDigit : ∀ n < 16, hexValue? (hexDigit n) = some n := by
  decide

/-- A control character is read back from its four hexadecimal digits. -/
private theorem escape?_control {c : Char} (hc : c.toNat < 0x20) (rest : List Char) :
    escape? ('u' :: '0' :: '0' :: hexDigit (c.toNat / 16) :: hexDigit (c.toNat % 16) :: rest) =
      some (c, rest) := by
  have hhigh := hexValue?_hexDigit (c.toNat / 16) (by omega)
  have hlow := hexValue?_hexDigit (c.toNat % 16) (by omega)
  have hzero : hexValue? '0' = some 0 := by decide
  have hunit : unit? ('0' :: '0' :: hexDigit (c.toNat / 16) :: hexDigit (c.toNat % 16) :: rest) =
      some (c.toNat, rest) := by
    simp only [unit?, hzero, hhigh, hlow, Option.bind_eq_bind, Option.bind_some, Option.some.injEq,
      Prod.mk.injEq, and_true]
    omega
  rw [escape?, unicodeEscape?, hunit, Option.bind_eq_bind, Option.bind_some]
  dsimp only
  rw [if_neg (by omega), if_neg (by omega), Char.ofNat_toNat]

/-- A written character is read back. -/
private theorem stringBody?_writeChar (fuel : Nat) (read : List Char) (c : Char)
    (rest : List Char) :
    stringBody? (fuel + 1) read (writeChar c ++ rest) = stringBody? fuel (c :: read) rest := by
  have hescape : ∀ {cs : List Char}, escape? cs = some (c, rest) →
      stringBody? (fuel + 1) read ('\\' :: cs) = stringBody? fuel (c :: read) rest := by
    intro cs hcs
    rw [stringBody?, if_neg (by decide), if_pos rfl, hcs, Option.bind_some]
  unfold writeChar
  -- eight kinds of characters are written as escapes, all others as they are
  split_ifs with hquote hback hfeed hreturn htab hbell hform hcontrol
  · exact hescape (by rw [hquote]; rfl)
  · exact hescape (by rw [hback]; rfl)
  · exact hescape (by rw [hfeed]; rfl)
  · exact hescape (by rw [hreturn]; rfl)
  · exact hescape (by rw [htab]; rfl)
  · exact hescape (by rw [hbell]; rfl)
  · exact hescape (by rw [hform]; rfl)
  · exact hescape (escape?_control hcontrol rest)
  · rw [List.singleton_append, stringBody?, if_neg hquote, if_neg hback, if_neg hcontrol]

/-- A written text is read back up to its closing quote. -/
theorem stringBody?_write {fuel : Nat} {cs : List Char} (h : cs.length < fuel)
    (read rest : List Char) :
    stringBody? fuel read (cs.flatMap writeChar ++ '"' :: rest) =
      some (read.reverse ++ cs, rest) := by
  -- the induction is on the characters that are left
  induction cs generalizing fuel read with
  | nil =>
    obtain ⟨fuel, rfl⟩ := Nat.exists_eq_add_one_of_ne_zero (Nat.pos_iff_ne_zero.1 h)
    rw [List.flatMap_nil, List.nil_append, stringBody?, if_pos rfl, List.append_nil]
  | cons c cs ih =>
    obtain ⟨fuel, rfl⟩ := Nat.exists_eq_add_one_of_ne_zero (Nat.ne_zero_of_lt h)
    rw [List.flatMap_cons, List.append_assoc, stringBody?_writeChar, ih (Nat.lt_of_succ_lt_succ h),
      List.reverse_cons, List.append_assoc, List.singleton_append]

/-- Every character is written with at least one. -/
private theorem length_writeChar_pos (c : Char) : 0 < (writeChar c).length := by
  unfold writeChar
  split_ifs <;> simp

/-- A text is not written with fewer characters than it has. -/
private theorem length_le_flatMap_writeChar (cs : List Char) :
    cs.length ≤ (cs.flatMap writeChar).length := by
  induction cs with
  | nil => exact Nat.le_refl _
  | cons c cs ih =>
    have := length_writeChar_pos c
    rw [List.flatMap_cons, List.length_append, List.length_cons]
    omega

/-- A string is read back. -/
theorem string?_write (s : String) (rest : List Char) :
    string? (s.toList.flatMap writeChar ++ '"' :: rest) = some (s, rest) := by
  have hlength := length_le_flatMap_writeChar s.toList
  rw [string?, stringBody?_write (by simp only [List.length_append]; omega)]
  simp

/-! ## Numbers -/

/-- What a value may stand in front of. -/
def Closed (rest : List Char) : Prop :=
  ∀ c ∈ rest.head?, c = ',' ∨ c = ']' ∨ c = '\x7d'

/-- The value of decimal digits is the number that they are made from. -/
private theorem digitsValue_eq (ds : List Char) : digitsValue ds = Nat.ofDigitChars 10 ds 0 := by
  simp only [digitsValue, Nat.ofDigitChars_eq_foldl, Nat.mul_comm]

/-- Further digits do not make a number smaller. -/
private theorem le_ofDigitChars (ds : List Char) (n : Nat) : n ≤ Nat.ofDigitChars 10 ds n := by
  induction ds generalizing n with
  | nil => exact Nat.le_refl _
  | cons d ds ih =>
    rw [Nat.ofDigitChars_cons]
    exact Nat.le_trans (by omega) (ih _)

/-- No digits of a number that fits into 64 bits are dropped. -/
private theorem absorb_eq {ds : List Char} {n : Nat} (h : Nat.ofDigitChars 10 ds n ≤ Text.max64) :
    absorb n ds = (Nat.ofDigitChars 10 ds n, []) := by
  induction ds generalizing n with
  | nil => rfl
  | cons d ds ih =>
    rw [Nat.ofDigitChars_cons, Nat.mul_comm] at h ⊢
    rw [absorb, if_pos (Nat.le_trans (le_ofDigitChars ds _) h), ih h]

/-- Rounding adds at most the number itself. -/
theorem roundDouble_le (n : Nat) : roundDouble n ≤ 2 * n + 1 := by
  -- a unit is no larger than the number, unless that is zero
  have hunit : 1 <<< (Nat.log2 n - 52) ≤ n + 1 := by
    rw [Nat.shiftLeft_eq, Nat.one_mul]
    by_cases hn : n = 0
    · subst hn
      decide
    · exact Nat.le_succ_of_le
        (Nat.le_trans (Nat.pow_le_pow_right (by decide) (Nat.sub_le _ _)) (Nat.log2_self_le hn))
  unfold roundDouble
  generalize 1 <<< (Nat.log2 n - 52) = unit at hunit ⊢
  have hlow : n / unit * unit ≤ n := Nat.div_mul_le_self n unit
  dsimp only
  split
  · omega
  · rw [Nat.add_mul]
    omega

/-- A number of 64 bits is not too large. -/
private theorem overflows_toDigits {n : Nat} (hn : n ≤ Text.max64) :
    NumberParts.overflows ⟨false, Nat.toDigits 10 n, none, none⟩ = false := by
  have habsorb : absorb 0 (Nat.toDigits 10 n) = (n, []) := by
    have hvalue := Nat.ofDigitChars_ten_toDigits (n := n)
    rw [absorb_eq (by rwa [hvalue]), hvalue]
  have hscaled : NumberParts.scaled ⟨false, Nat.toDigits 10 n, none, none⟩ = (n, 0) := by
    unfold NumberParts.scaled
    rw [habsorb]
    rfl
  -- rounding to a double at most triples a number, and there is room for that
  have hproduct : roundDouble n * roundDouble (Nat.pow 10 0) ≤ (2 * Text.max64 + 1) * 3 :=
    Nat.mul_le_mul (Nat.le_trans (roundDouble_le n) (by omega)) (roundDouble_le 1)
  have hlarge : (2 * Text.max64 + 1) * 3 < (1 <<< 1024) - (1 <<< 970) := by decide +kernel
  unfold NumberParts.overflows
  rw [hscaled]
  dsimp only
  split_ifs with hzero hlong
  · rfl
  · simp at hlong
  · exact decide_eq_false (Nat.not_le.2 (Nat.lt_of_le_of_lt hproduct hlarge))

/-- Where a value ends, no fraction follows. -/
private theorem fraction?_of_closed {rest : List Char} (hrest : Closed rest) :
    fraction? rest = some (none, rest) := by
  cases rest with
  | nil => rfl
  | cons c rest =>
    rcases hrest c rfl with rfl | rfl | rfl <;> rfl

/-- Where a value ends, no exponent follows. -/
private theorem exponent?_of_closed {rest : List Char} (hrest : Closed rest) :
    exponent? rest = some (none, rest) := by
  cases rest with
  | nil => rfl
  | cons c rest =>
    rcases hrest c rfl with rfl | rfl | rfl <;> rfl

/-- A numeral has no zeros in front. -/
private theorem head?_toDigits {n : Nat} (h : (Nat.toDigits 10 n).head? = some '0') :
    (Nat.toDigits 10 n).length = 1 := by
  induction n using Nat.strongRecOn with
  | _ n ih =>
    by_cases hn : n < 10
    · rw [Nat.toDigits_of_lt_base hn, List.length_singleton]
    · rw [Nat.toDigits_of_base_le (by decide) (by omega),
        List.head?_append_of_ne_nil _ Nat.toDigits_ne_nil] at h
      -- all digits but the last one would be a zero, and the number less than ten
      have hfront :=
        (Nat.length_toDigits_le_iff (by decide) (by decide)).1
          (Nat.le_of_eq (ih (n / 10) (by omega) h))
      rw [Nat.toDigits_of_lt_base hfront, List.head?_cons, Option.some.injEq,
        Nat.digitChar_eq_zero] at h
      omega

/-- A number is written with at least one digit. -/
theorem exists_toDigits (n : Nat) : ∃ c cs, Nat.toDigits 10 n = c :: cs ∧ c.isDigit = true := by
  obtain ⟨c, cs, hcs⟩ := List.exists_cons_of_ne_nil (Nat.toDigits_ne_nil (n := n) (b := 10))
  refine ⟨c, cs, hcs, Nat.isDigit_of_mem_toDigits (b := 10) (n := n) (by decide) (by decide) ?_⟩
  rw [hcs]
  exact List.mem_cons_self

/-- A number of 64 bits is read back. -/
theorem number?_toDigits {n : Nat} (hn : n ≤ Text.max64) {rest : List Char} (hrest : Closed rest) :
    number? (Nat.toDigits 10 n ++ rest) = some (.nat n, rest) := by
  have hdigits : ∀ d ∈ Nat.toDigits 10 n, d.isDigit = true := fun d hd =>
    Nat.isDigit_of_mem_toDigits (by decide) (by decide) hd
  -- no digit stands behind the digits
  have hend : rest.takeWhile Char.isDigit = [] ∧ rest.dropWhile Char.isDigit = rest := by
    cases rest with
    | nil => exact ⟨rfl, rfl⟩
    | cons c rest => rcases hrest c rfl with rfl | rfl | rfl <;> exact ⟨rfl, rfl⟩
  have htake : (Nat.toDigits 10 n ++ rest).takeWhile Char.isDigit = Nat.toDigits 10 n := by
    rw [List.takeWhile_append_of_pos hdigits, hend.1, List.append_nil]
  have hdrop : (Nat.toDigits 10 n ++ rest).dropWhile Char.isDigit = rest := by
    rw [List.dropWhile_append_of_pos hdigits, hend.2]
  -- no digit is missing, and there is no zero in front
  have hlead : ¬ ((Nat.toDigits 10 n).isEmpty ∨
      (Nat.toDigits 10 n).head? = some '0' ∧ 1 < (Nat.toDigits 10 n).length) := by
    rintro (hempty | ⟨hzero, hlong⟩)
    · exact Nat.toDigits_ne_nil (List.isEmpty_iff.1 hempty)
    · exact Nat.ne_of_gt hlong (head?_toDigits hzero)
  have hunsigned : ∀ cs, Nat.toDigits 10 n ++ rest ≠ '-' :: cs := by
    intro cs heq
    obtain ⟨c, ds, hds, hdigit⟩ := exists_toDigits n
    rw [hds, List.cons_append, List.cons.injEq] at heq
    rw [heq.1] at hdigit
    exact absurd hdigit (by decide)
  -- neither a fraction nor an exponent follows
  unfold number?
  split
  · next negative unsigned hsign =>
    obtain ⟨rfl, rfl⟩ : negative = false ∧ unsigned = Nat.toDigits 10 n ++ rest := by
      split at hsign
      · next heq => exact absurd heq (hunsigned _)
      · simpa [eq_comm] using hsign
    dsimp only
    rw [htake, hdrop, if_neg hlead, fraction?_of_closed hrest, Option.bind_eq_bind,
      Option.bind_some]
    dsimp only
    rw [exponent?_of_closed hrest, Option.bind_eq_bind, Option.bind_some]
    dsimp only
    rw [overflows_toDigits hn, if_neg (by decide), if_neg (by simp), digitsValue_eq,
      Nat.ofDigitChars_ten_toDigits]

/-! ## Values -/

/-- The values that the protocols exchange, no deeper than `depth`. -/
inductive Plain : Nat → Json → Prop
  | null (depth : Nat) : Plain depth null
  | bool (depth : Nat) (b : Bool) : Plain depth (bool b)
  | nat (depth : Nat) {n : Nat} (h : n ≤ Text.max64) : Plain depth (nat n)
  | str (depth : Nat) (s : String) : Plain depth (str s)
  | arr {depth : Nat} {items : List Json} (h : ∀ v ∈ items, Plain depth v) :
    Plain (depth + 1) (arr items)
  | obj {depth : Nat} {members : List (String × Json)} (h : ∀ m ∈ members, Plain depth m.2) :
    Plain (depth + 1) (obj members)

/-- Items are nested as deep as the deepest of them. -/
private theorem depthItems_le {n : Nat} {vs : List Json} (h : ∀ v ∈ vs, depth v ≤ n) :
    depthItems vs ≤ n := by
  induction vs with
  | nil => exact Nat.zero_le n
  | cons v vs ih =>
    rw [List.forall_mem_cons] at h
    exact Nat.max_le.2 ⟨h.1, ih h.2⟩

/-- Members are nested as deep as the deepest of them. -/
private theorem depthMembers_le {n : Nat} {ms : List (String × Json)}
    (h : ∀ m ∈ ms, depth m.2 ≤ n) :
    depthMembers ms ≤ n := by
  induction ms with
  | nil => exact Nat.zero_le n
  | cons m ms ih =>
    rw [List.forall_mem_cons] at h
    exact Nat.max_le.2 ⟨h.1, ih h.2⟩

/-- A plain value is nested no deeper than it says. -/
theorem Plain.depth_le {n : Nat} {v : Json} (h : Plain n v) : depth v ≤ n := by
  induction h with
  | null | bool | nat | str => exact Nat.zero_le _
  | arr _ ih => exact Nat.succ_le_succ (depthItems_le ih)
  | obj _ ih => exact Nat.succ_le_succ (depthMembers_le ih)

/-- A value is read back from what is written of it, whatever it stands in front of. Each character
costs at most two units of fuel. -/
def ReadsBack (v : Json) : Prop :=
  ∀ {fuel : Nat} {rest : List Char}, 2 * (write v).length ≤ fuel → Closed rest →
    value? fuel (write v ++ rest) = some (v, rest)

theorem skipSpaces_cons {c : Char} (h : isSpace c = false) (cs : List Char) :
    skipSpaces (c :: cs) = c :: cs :=
  List.dropWhile_cons_of_neg (by simp [h])

/-- Behind the items of a list no number goes on. -/
theorem closed_writeItems (vs : List Json) (rest : List Char) : Closed (writeItems vs ++ rest) := by
  cases vs with
  | nil => exact fun c hc => .inr (.inl (Option.some.inj hc).symm)
  | cons v vs => exact fun c hc => .inl (Option.some.inj hc).symm

/-- Behind the members of an object no number goes on. -/
theorem closed_writeMembers (ms : List (String × Json)) (rest : List Char) :
    Closed (writeMembers ms ++ rest) := by
  cases ms with
  | nil => exact fun c hc => .inr (.inr (Option.some.inj hc).symm)
  | cons m ms => exact fun c hc => .inl (Option.some.inj hc).symm

/-- A digit is no space. -/
theorem isSpace_of_isDigit {c : Char} (h : c.isDigit = true) : isSpace c = false := by
  cases hspace : isSpace c with
  | false => rfl
  | true =>
    simp only [isSpace, Bool.or_eq_true, beq_iff_eq] at hspace
    rcases hspace with ((rfl | rfl) | rfl) | rfl <;> exact absurd h (by decide)

/-- A written value begins neither with a blank nor with a closing bracket. -/
theorem Plain.exists_write {n : Nat} {v : Json} (h : Plain n v) :
    ∃ c cs, write v = c :: cs ∧ isSpace c = false ∧ c ≠ ']' := by
  cases h with
  | null => exact ⟨_, _, rfl, rfl, by decide⟩
  | bool _ b => cases b <;> exact ⟨_, _, rfl, rfl, by decide⟩
  | @nat _ n h =>
    obtain ⟨c, cs, hcs, hdigit⟩ := exists_toDigits n
    refine ⟨c, cs, hcs, isSpace_of_isDigit hdigit, ?_⟩
    rintro rfl
    exact absurd hdigit (by decide)
  | str => exact ⟨_, _, rfl, rfl, by decide⟩
  | @arr _ items h => cases items <;> exact ⟨_, _, rfl, rfl, by decide⟩
  | @obj _ members h => cases members <;> exact ⟨_, _, rfl, rfl, by decide⟩

/-- One item is read back, and then what stands behind it is looked at. -/
theorem items?_item {v : Json} {fuel : Nat} {tail : List Char}
    (hvalue : value? fuel (write v ++ tail) = some (v, tail)) :
    items? (fuel + 1) (write v ++ tail) =
      match skipSpaces tail with
      | ',' :: rest => (items? fuel rest).map fun (vs, rest) => (v :: vs, rest)
      | ']' :: rest => some ([v], rest)
      | _ => none := by
  rw [items?, hvalue]
  rfl

/-- The items of an array are read back one by one. -/
theorem items?_write {v : Json} {vs : List Json} (hv : ReadsBack v)
    (hvs : ∀ w ∈ vs, ReadsBack w) {fuel : Nat}
    (hfuel : 2 * ((write v).length + (writeItems vs).length) ≤ fuel) (rest : List Char) :
    items? fuel (write v ++ (writeItems vs ++ rest)) = some (v :: vs, rest) := by
  -- the induction is on the items behind the first
  induction vs generalizing v fuel with
  | nil =>
    simp only [writeItems, List.length_singleton] at hfuel
    obtain ⟨fuel, rfl⟩ := Nat.exists_eq_add_one_of_ne_zero (n := fuel) (by omega)
    rw [items?_item (hv (by omega) (closed_writeItems [] rest))]
    rfl
  | cons w ws ih =>
    rw [List.forall_mem_cons] at hvs
    simp only [writeItems, List.length_cons, List.length_append] at hfuel
    obtain ⟨fuel, rfl⟩ := Nat.exists_eq_add_one_of_ne_zero (n := fuel) (by omega)
    have hnext : writeItems (w :: ws) ++ rest = ',' :: (write w ++ (writeItems ws ++ rest)) := by
      simp only [writeItems, List.cons_append, List.append_assoc]
    have hrest : items? fuel (write w ++ (writeItems ws ++ rest)) = some (w :: ws, rest) :=
      ih hvs.1 hvs.2 (by omega)
    rw [items?_item (hv (by omega) (closed_writeItems _ rest)), hnext, skipSpaces_cons rfl]
    show (items? fuel _).map _ = _
    rw [hrest, Option.map_some]

/-- One member is read back, and then what stands behind it is looked at. -/
theorem members?_member {k : String} {v : Json} {fuel : Nat} {tail : List Char}
    (hvalue : value? fuel (write v ++ tail) = some (v, tail)) :
    members? (fuel + 1) (writeString k ++ ':' :: (write v ++ tail)) =
      match skipSpaces tail with
      | ',' :: rest => (members? fuel rest).map fun (ms, rest) => ((k, v) :: ms, rest)
      | '\x7d' :: rest => some ([(k, v)], rest)
      | _ => none := by
  simp only [writeString, List.cons_append, List.append_assoc, List.nil_append, members?,
    skipSpaces_cons (c := '"') rfl, string?_write, Option.bind_some, skipSpaces_cons (c := ':') rfl]
  rw [hvalue]
  rfl

/-- The members of an object are read back one by one. -/
theorem members?_write {k : String} {v : Json} {ms : List (String × Json)} (hv : ReadsBack v)
    (hms : ∀ m ∈ ms, ReadsBack m.2) {fuel : Nat}
    (hfuel : 2 * ((write v).length + (writeMembers ms).length) ≤ fuel) (rest : List Char) :
    members? fuel (writeString k ++ ':' :: (write v ++ (writeMembers ms ++ rest))) =
      some ((k, v) :: ms, rest) := by
  -- the induction is on the members behind the first
  induction ms generalizing k v fuel with
  | nil =>
    simp only [writeMembers, List.length_singleton] at hfuel
    obtain ⟨fuel, rfl⟩ := Nat.exists_eq_add_one_of_ne_zero (n := fuel) (by omega)
    rw [members?_member (hv (by omega) (closed_writeMembers [] rest))]
    rfl
  | cons m ms ih =>
    obtain ⟨k', w⟩ := m
    rw [List.forall_mem_cons] at hms
    simp only [writeMembers, List.length_cons, List.length_append] at hfuel
    obtain ⟨fuel, rfl⟩ := Nat.exists_eq_add_one_of_ne_zero (n := fuel) (by omega)
    have hnext : writeMembers ((k', w) :: ms) ++ rest =
        ',' :: (writeString k' ++ ':' :: (write w ++ (writeMembers ms ++ rest))) := by
      simp only [writeMembers, List.cons_append, List.append_assoc]
    have hw : ReadsBack w := hms.1
    have hrest : members? fuel (writeString k' ++ ':' :: (write w ++ (writeMembers ms ++ rest))) =
        some ((k', w) :: ms, rest) := ih hw hms.2 (by omega)
    rw [members?_member (hv (by omega) (closed_writeMembers _ rest)), hnext, skipSpaces_cons rfl]
    show (members? fuel _).map _ = _
    rw [hrest, Option.map_some]

/-- A text is read back. -/
theorem readsBack_str (s : String) : ReadsBack (str s) := by
  intro fuel rest hfuel _
  simp only [write, writeString, List.length_cons] at hfuel
  obtain ⟨fuel, rfl⟩ := Nat.exists_eq_add_one_of_ne_zero (n := fuel) (by omega)
  simp only [write, writeString, List.cons_append, List.append_assoc, List.nil_append, value?,
    skipSpaces_cons (c := '"') rfl, string?_write, Option.map_some]

/-- A number of 64 bits is read back. -/
theorem readsBack_nat {n : Nat} (hn : n ≤ Text.max64) : ReadsBack (nat n) := by
  intro fuel rest hfuel hrest
  obtain ⟨c, cs, hcs, hdigit⟩ := exists_toDigits n
  simp only [write, hcs, List.length_cons] at hfuel
  obtain ⟨fuel, rfl⟩ := Nat.exists_eq_add_one_of_ne_zero (n := fuel) (by omega)
  have hnumber := number?_toDigits hn hrest
  rw [hcs, List.cons_append] at hnumber
  -- a digit begins nothing but a number
  have hne : ∀ d : Char, d.isDigit = false → c ≠ d := by
    rintro d hd rfl
    rw [hdigit] at hd
    cases hd
  simp only [write, hcs, List.cons_append, value?, skipSpaces_cons (isSpace_of_isDigit hdigit)]
  split
  all_goals first
    | exact hnumber
    | next heq => exact absurd (List.cons.inj heq).1 (hne _ rfl)

/-- Behind an opening bracket stand the items, unless the closing bracket does. -/
private theorem value?_bracket {c : Char} (hspace : isSpace c = false) (hne : c ≠ ']') (fuel : Nat)
    (cs : List Char) :
    value? (fuel + 1) ('[' :: c :: cs) =
      (items? fuel (c :: cs)).map fun (vs, rest) => (.arr vs, rest) := by
  simp only [value?, skipSpaces_cons (c := '[') rfl, skipSpaces_cons hspace]
  split
  · next heq => exact absurd (List.cons.inj heq).1 hne
  · rfl

/-- A list is read back if its items are. -/
theorem Plain.readsBack_arr {n : Nat} {vs : List Json} (h : ∀ v ∈ vs, Plain n v)
    (ih : ∀ v ∈ vs, ReadsBack v) :
    ReadsBack (.arr vs) := by
  intro fuel rest hfuel _
  cases vs with
  | nil =>
    simp only [write, List.length_cons] at hfuel
    obtain ⟨fuel, rfl⟩ := Nat.exists_eq_add_one_of_ne_zero (n := fuel) (by omega)
    rfl
  | cons v vs =>
    rw [List.forall_mem_cons] at h ih
    simp only [write, List.length_cons, List.length_append] at hfuel
    obtain ⟨fuel, rfl⟩ := Nat.exists_eq_add_one_of_ne_zero (n := fuel) (by omega)
    obtain ⟨c, cs, hcs, hspace, hbracket⟩ := h.1.exists_write
    have hitems : items? fuel (write v ++ (writeItems vs ++ rest)) = some (v :: vs, rest) :=
      items?_write ih.1 ih.2 (by omega) rest
    rw [write, List.cons_append, List.append_assoc]
    -- the first character of the first item tells the array from an empty one
    rw [hcs, List.cons_append] at hitems ⊢
    rw [value?_bracket hspace hbracket, hitems, Option.map_some]

/-- An object is read back if its members are. -/
theorem readsBack_obj {ms : List (String × Json)} (ih : ∀ m ∈ ms, ReadsBack m.2) :
    ReadsBack (.obj ms) := by
  intro fuel rest hfuel _
  cases ms with
  | nil =>
    simp only [write, List.length_cons] at hfuel
    obtain ⟨fuel, rfl⟩ := Nat.exists_eq_add_one_of_ne_zero (n := fuel) (by omega)
    rfl
  | cons m ms =>
    obtain ⟨k, v⟩ := m
    rw [List.forall_mem_cons] at ih
    have hv : ReadsBack v := ih.1
    simp only [write, List.length_cons, List.length_append] at hfuel
    obtain ⟨fuel, rfl⟩ := Nat.exists_eq_add_one_of_ne_zero (n := fuel) (by omega)
    have hmembers : members? fuel (writeString k ++ ':' :: (write v ++ (writeMembers ms ++ rest))) =
        some ((k, v) :: ms, rest) := members?_write hv ih.2 (by omega) rest
    have hwritten : write (.obj ((k, v) :: ms)) ++ rest =
        '\x7b' :: (writeString k ++ ':' :: (write v ++ (writeMembers ms ++ rest))) := by
      simp only [write, List.cons_append, List.append_assoc]
    rw [hwritten, value?, skipSpaces_cons rfl]
    -- a member begins with a quote
    show (members? fuel (writeString k ++ ':' :: (write v ++ (writeMembers ms ++ rest)))).map _ = _
    rw [hmembers, Option.map_some]

/-- What is written of a value is read back. -/
theorem Plain.readsBack {n : Nat} {v : Json} (h : Plain n v) : ReadsBack v := by
  induction h with
  | null =>
    intro fuel rest hfuel _
    simp only [write, List.length_cons] at hfuel
    obtain ⟨fuel, rfl⟩ := Nat.exists_eq_add_one_of_ne_zero (n := fuel) (by omega)
    rfl
  | bool _ b =>
    intro fuel rest hfuel _
    cases b <;>
    · simp only [write, List.length_cons] at hfuel
      obtain ⟨fuel, rfl⟩ := Nat.exists_eq_add_one_of_ne_zero (n := fuel) (by omega)
      rfl
  | nat _ hn => exact readsBack_nat hn
  | str _ s => exact readsBack_str s
  | arr h ih => exact Plain.readsBack_arr h ih
  | obj _ ih => exact readsBack_obj ih

/-- A value that is written as a text is read back from it. -/
theorem Plain.parse?_render {n : Nat} {v : Json} (h : Plain n v) (hn : n ≤ maxDepth) :
    parse? (render v) = some v := by
  have hread : value? (2 * (write v).length + 2) (write v ++ []) = some (v, []) :=
    h.readsBack (by omega) (fun c hc => by simp at hc)
  rw [List.append_nil] at hread
  unfold parse? render
  simp only [String.toList_ofList, hread]
  rw [if_pos ⟨rfl, Nat.le_trans h.depth_le hn⟩]

/-! ## Lines -/

/-- Characters none of which is a control character. -/
def Shown (cs : List Char) : Prop :=
  ∀ c ∈ cs, 0x20 ≤ c.toNat

/-- Characters that are no control characters are shown. -/
theorem shown_of_all {cs : List Char} (h : cs.all (0x20 ≤ ·.toNat) = true) : Shown cs := by
  simpa [Shown] using h

theorem shown_cons {c : Char} {cs : List Char} (hc : 0x20 ≤ c.toNat) (hcs : Shown cs) :
    Shown (c :: cs) :=
  List.forall_mem_cons.2 ⟨hc, hcs⟩

/-- Two texts without control characters make one. -/
theorem Shown.append {cs ds : List Char} (hcs : Shown cs) (hds : Shown ds) : Shown (cs ++ ds) :=
  List.forall_mem_append.2 ⟨hcs, hds⟩

/-- A hexadecimal digit is no control character. -/
theorem le_toNat_hexDigit : ∀ n < 16, 0x20 ≤ (hexDigit n).toNat := by
  decide

/-- A character is written without control characters, also one that is a control character. -/
theorem shown_writeChar (c : Char) : Shown (writeChar c) := by
  unfold writeChar
  split_ifs with _ _ _ _ _ _ _ hcontrol
  · exact shown_of_all rfl
  · exact shown_of_all rfl
  · exact shown_of_all rfl
  · exact shown_of_all rfl
  · exact shown_of_all rfl
  · exact shown_of_all rfl
  · exact shown_of_all rfl
  · have hhigh := le_toNat_hexDigit (c.toNat / 16) (by omega)
    have hlow := le_toNat_hexDigit (c.toNat % 16) (by omega)
    simp [Shown, hhigh, hlow]
  · simpa [Shown] using hcontrol

/-- A text is written without control characters. -/
theorem shown_writeString (s : String) : Shown (writeString s) := by
  refine shown_cons (by decide) (Shown.append (fun c hc => ?_) (shown_of_all rfl))
  obtain ⟨d, -, hd⟩ := List.mem_flatMap.1 hc
  exact shown_writeChar d c hd

theorem shown_writeItems {vs : List Json} (h : ∀ v ∈ vs, Shown (write v)) :
    Shown (writeItems vs) := by
  induction vs with
  | nil => exact shown_cons (by decide) (shown_of_all rfl)
  | cons v vs ih =>
    rw [List.forall_mem_cons] at h
    rw [writeItems]
    exact shown_cons (by decide) (h.1.append (ih h.2))

theorem shown_writeMembers {ms : List (String × Json)} (h : ∀ m ∈ ms, Shown (write m.2)) :
    Shown (writeMembers ms) := by
  induction ms with
  | nil => exact shown_cons (by decide) (shown_of_all rfl)
  | cons m ms ih =>
    rw [List.forall_mem_cons] at h
    rw [writeMembers]
    exact shown_cons (by decide)
      ((shown_writeString m.1).append (shown_cons (by decide) (h.1.append (ih h.2))))

/-- What is written of a value holds no control characters, and so neither a line feed nor a
carriage return. -/
theorem Plain.shown {n : Nat} {v : Json} (h : Plain n v) : Shown (write v) := by
  induction h with
  | null => exact shown_of_all rfl
  | bool _ b => cases b <;> exact shown_of_all rfl
  | nat _ hn =>
    intro c hc
    -- digits come behind the control characters
    have hdigit := Nat.isDigit_of_mem_toDigits (by decide) (by decide) hc
    simp only [Char.isDigit, Bool.and_eq_true, decide_eq_true_eq, ge_iff_le,
      UInt32.le_iff_toNat_le] at hdigit
    exact Nat.le_trans (by decide) hdigit.1
  | str _ s => exact shown_writeString s
  | @arr _ vs _ ih =>
    cases vs with
    | nil => exact shown_of_all rfl
    | cons v vs =>
      rw [List.forall_mem_cons] at ih
      exact shown_cons (by decide) (ih.1.append (shown_writeItems ih.2))
  | @obj _ ms _ ih =>
    cases ms with
    | nil => exact shown_of_all rfl
    | cons m ms =>
      rw [List.forall_mem_cons] at ih
      exact shown_cons (by decide)
        ((shown_writeString m.1).append
          (shown_cons (by decide) (ih.1.append (shown_writeMembers ih.2))))

end ProofDesk.Json
