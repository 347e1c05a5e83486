import ProofDesk.Proofs.Text.Cut
import ProofDesk.Text.Utf8

/-!
# What bytes can be read as

Reading the bytes of a text gives the text back, and so does reading them piece by piece: the bytes
that have arrived of a text hold its first characters and perhaps the beginning of one more, and are
never taken for bytes that are no text (`Begins.exists_eq`), while those that are taken for such
begin none (`begins_iff`). What carries this is the shape of one character (`Spells`): its first
byte says how many follow, so that a part of it is always seen to be unfinished.
-/

namespace ProofDesk.Text

/-! ## Bytes of a text -/

/-- A character is one byte below `0x80` or several bytes none of which is. -/
theorem utf8EncodeChar_cases (c : Char) :
    (∃ b, String.utf8EncodeChar c = [b]) ∨ ∀ b ∈ String.utf8EncodeChar c, 0x80 ≤ b := by
  -- each byte of several has its highest bit set
  have hhigh : ∀ m n k : Nat, 0x80 ≤ n → m % k + n < 256 →
      (0x80 : UInt8) ≤ UInt8.ofNat (m % k + n) := by
    intro m n k hn hlt
    rw [UInt8.le_iff_toNat_le, UInt8.toNat_ofNat_of_lt' hlt]
    exact Nat.le_trans hn (Nat.le_add_left _ _)
  unfold String.utf8EncodeChar
  dsimp only
  split
  · exact .inl ⟨_, rfl⟩
  · right
    split
    · simp only [List.mem_cons, List.not_mem_nil, or_false, forall_eq_or_imp, forall_eq]
      exact ⟨hhigh _ _ _ (by omega) (by omega), hhigh _ _ _ (by omega) (by omega)⟩
    · split
      · simp only [List.mem_cons, List.not_mem_nil, or_false, forall_eq_or_imp, forall_eq]
        exact ⟨hhigh _ _ _ (by omega) (by omega), hhigh _ _ _ (by omega) (by omega),
          hhigh _ _ _ (by omega) (by omega)⟩
      · simp only [List.mem_cons, List.not_mem_nil, or_false, forall_eq_or_imp, forall_eq]
        exact ⟨hhigh _ _ _ (by omega) (by omega), hhigh _ _ _ (by omega) (by omega),
          hhigh _ _ _ (by omega) (by omega), hhigh _ _ _ (by omega) (by omega)⟩

/-! ## Characters -/

/-- The byte sequences that spell a character, by their length: the range of the first byte, what
may stand second, and the character that the bytes stand for. -/
inductive Spells (c : Char) : List UInt8 → Prop
  | one {a : UInt8} (hupper : a < 0x80) (hchar : Char.ofNat a.toNat = c) : Spells c [a]
  | two {a b : UInt8} (hlower : 0xC2 ≤ a) (hupper : a < 0xE0) (hb : isSecond a b = true)
    (hchar : char2 a b = c) : Spells c [a, b]
  | three {a b d : UInt8} (hlower : 0xE0 ≤ a) (hupper : a < 0xF0) (hb : isSecond a b = true)
    (hd : isContinuation d = true) (hchar : char3 a b d = c) : Spells c [a, b, d]
  | four {a b d e : UInt8} (hlower : 0xF0 ≤ a) (hupper : a ≤ 0xF4) (hb : isSecond a b = true)
    (hd : isContinuation d = true) (he : isContinuation e = true) (hchar : char4 a b d e = c) :
    Spells c [a, b, d, e]

section Spells

variable {c : Char}

/-- A byte made of a remainder and a base stands for their sum. -/
theorem toNat_ofNat_add {m k base : Nat} (hk : 0 < k) (hlt : k + base ≤ 256) :
    (UInt8.ofNat (m % k + base)).toNat = m % k + base := by
  have hmod := Nat.mod_lt m hk
  exact UInt8.toNat_ofNat_of_lt' (by rw [UInt8.size]; omega)

/-- Which bytes may stand second depends on the first one. -/
theorem isSecond_iff (a b : UInt8) : isSecond a b = true ↔
    0x80 ≤ b.toNat ∧ b.toNat ≤ 0xBF ∧ (a.toNat = 0xE0 → 0xA0 ≤ b.toNat) ∧
    (a.toNat = 0xED → b.toNat ≤ 0x9F) ∧
      (a.toNat = 0xF0 → 0x90 ≤ b.toNat) ∧ (a.toNat = 0xF4 → b.toNat ≤ 0x8F) := by
  unfold isSecond isContinuation
  simp only [← UInt8.toNat_inj, UInt8.reduceToNat]
  split_ifs <;>
    simp only [Bool.and_eq_true, decide_eq_true_eq, UInt8.le_iff_toNat_le, UInt8.reduceToNat] <;>
    omega

/-- The bytes that go on with a character are those from 0x80 to 0xBF. -/
theorem isContinuation_iff (b : UInt8) :
    isContinuation b = true ↔ 0x80 ≤ b.toNat ∧ b.toNat ≤ 0xBF := by
  simp only [isContinuation, Bool.and_eq_true, decide_eq_true_eq, UInt8.le_iff_toNat_le,
    UInt8.reduceToNat]

/-- The bytes that encode a character spell it. -/
theorem spells_utf8EncodeChar (c : Char) : Spells c (String.utf8EncodeChar c) := by
  have hvalid := c.valid
  have hof : Char.ofNat c.val.toNat = c := Char.ofNat_toNat c
  simp only [UInt32.isValidChar, Nat.isValidChar] at hvalid
  unfold String.utf8EncodeChar
  dsimp only
  generalize c.val.toNat = n at hvalid hof ⊢
  -- the first byte carries the highest bits, each other byte six
  have hsix : ∀ m, (UInt8.ofNat (m % 64 + 128)).toNat = m % 64 + 128 := fun m =>
    toNat_ofNat_add (by omega) (by omega)
  split
  · have ha : (UInt8.ofNat n).toNat = n := UInt8.toNat_ofNat_of_lt' (by rw [UInt8.size]; omega)
    refine .one ?_ (by rw [ha, hof])
    rw [UInt8.lt_iff_toNat_lt, ha]
    simp only [UInt8.reduceToNat]
    omega
  · split
    · have ha : (UInt8.ofNat (n / 64 % 32 + 192)).toNat = _ := toNat_ofNat_add (by omega) (by omega)
      have hb := hsix n
      generalize UInt8.ofNat (n / 64 % 32 + 192) = a at ha ⊢
      generalize UInt8.ofNat (n % 64 + 128) = b at hb ⊢
      refine .two ?_ ?_ ((isSecond_iff a b).2 (by omega)) ?_
      · simp only [UInt8.le_iff_toNat_le, UInt8.reduceToNat]; omega
      · simp only [UInt8.lt_iff_toNat_lt, UInt8.reduceToNat]; omega
      · have hvalue : (a.toNat - 0xC0) * 64 + (b.toNat - 0x80) = n := by omega
        unfold char2 payload
        rw [hvalue, hof]
    · split
      · have ha : (UInt8.ofNat (n / 4096 % 16 + 224)).toNat = _ :=
          toNat_ofNat_add (by omega) (by omega)
        have hb := hsix (n / 64)
        have hd := hsix n
        generalize UInt8.ofNat (n / 4096 % 16 + 224) = a at ha ⊢
        generalize UInt8.ofNat (n / 64 % 64 + 128) = b at hb ⊢
        generalize UInt8.ofNat (n % 64 + 128) = d at hd ⊢
        refine .three ?_ ?_ ((isSecond_iff a b).2 (by omega))
          ((isContinuation_iff d).2 (by omega)) ?_
        · simp only [UInt8.le_iff_toNat_le, UInt8.reduceToNat]; omega
        · simp only [UInt8.lt_iff_toNat_lt, UInt8.reduceToNat]; omega
        · have hvalue : ((a.toNat - 0xE0) * 64 + (b.toNat - 0x80)) * 64 + (d.toNat - 0x80) = n := by
            omega
          unfold char3 payload
          rw [hvalue, hof]
      · have ha : (UInt8.ofNat (n / 262144 % 8 + 240)).toNat = _ :=
          toNat_ofNat_add (by omega) (by omega)
        have hb := hsix (n / 4096)
        have hd := hsix (n / 64)
        have he := hsix n
        generalize UInt8.ofNat (n / 262144 % 8 + 240) = a at ha ⊢
        generalize UInt8.ofNat (n / 4096 % 64 + 128) = b at hb ⊢
        generalize UInt8.ofNat (n / 64 % 64 + 128) = d at hd ⊢
        generalize UInt8.ofNat (n % 64 + 128) = e at he ⊢
        refine .four ?_ ?_ ((isSecond_iff a b).2 (by omega)) ((isContinuation_iff d).2 (by omega))
          ((isContinuation_iff e).2 (by omega)) ?_
        · simp only [UInt8.le_iff_toNat_le, UInt8.reduceToNat]; omega
        · simp only [UInt8.le_iff_toNat_le, UInt8.reduceToNat]; omega
        · have hvalue : (((a.toNat - 0xF0) * 64 + (b.toNat - 0x80)) * 64 + (d.toNat - 0x80)) * 64 +
              (e.toNat - 0x80) = n := by omega
          unfold char4 payload
          rw [hvalue, hof]

/-- No other bytes spell a character than those that encode it. -/
theorem Spells.utf8EncodeChar_eq {bs : List UInt8} (h : Spells c bs) :
    String.utf8EncodeChar c = bs := by
  have hbyte : ∀ (b : UInt8) (n : Nat), n = b.toNat → UInt8.ofNat n = b := by
    rintro b _ rfl
    exact UInt8.ofNat_toNat
  have hvalue : ∀ n : Nat, n.isValidChar → Char.ofNat n = c → c.val.toNat = n := by
    rintro n hn rfl
    rw [Char.ofNat, dif_pos hn]
    rfl
  unfold String.utf8EncodeChar
  dsimp only
  -- the ranges of the bytes put the value of the character into the range of their form
  cases h with
  | @one a hupper hchar =>
    simp only [UInt8.lt_iff_toNat_lt, UInt8.reduceToNat] at hupper
    have hn := hvalue _ (.inl (by omega)) hchar
    generalize c.val.toNat = n at hn ⊢
    rw [if_pos (by omega), hbyte a _ hn]
  | @two a b hlower hupper hb hchar =>
    simp only [UInt8.lt_iff_toNat_lt, UInt8.le_iff_toNat_le, UInt8.reduceToNat, isSecond_iff]
      at hlower hupper hb
    unfold char2 payload at hchar
    have hn := hvalue _ (.inl (by omega)) hchar
    generalize c.val.toNat = n at hn ⊢
    rw [if_neg (by omega), if_pos (by omega), hbyte a _ (by omega), hbyte b _ (by omega)]
  | @three a b d hlower hupper hb hd hchar =>
    simp only [UInt8.lt_iff_toNat_lt, UInt8.le_iff_toNat_le, UInt8.reduceToNat, isSecond_iff,
      isContinuation_iff] at hlower hupper hb hd
    unfold char3 payload at hchar
    have hn := hvalue _ (by simp only [Nat.isValidChar]; omega) hchar
    generalize c.val.toNat = n at hn ⊢
    rw [if_neg (by omega), if_neg (by omega), if_pos (by omega), hbyte a _ (by omega),
      hbyte b _ (by omega), hbyte d _ (by omega)]
  | @four a b d e hlower hupper hb hd he hchar =>
    simp only [UInt8.le_iff_toNat_le, UInt8.reduceToNat, isSecond_iff, isContinuation_iff]
      at hlower hupper hb hd he
    unfold char4 payload at hchar
    have hn := hvalue _ (by simp only [Nat.isValidChar]; omega) hchar
    generalize c.val.toNat = n at hn ⊢
    rw [if_neg (by omega), if_neg (by omega), if_neg (by omega), hbyte a _ (by omega),
      hbyte b _ (by omega), hbyte d _ (by omega), hbyte e _ (by omega)]

/-- A character is written with the bytes that spell it. -/
theorem Spells.encode_eq {bs : List UInt8} (h : Spells c bs) : encode [c] = bs := by
  rw [encode_cons, h.utf8EncodeChar_eq, encode_nil, List.append_nil]

/-- The first byte of a character of several bytes is told apart from all that begins none. -/
theorem of_lead {a : UInt8} (hlower : 0xC2 ≤ a) (hupper : a ≤ 0xF4) :
    ¬ a < 0x80 ∧ ¬ a < 0xC2 ∧ ¬ 0xF4 < a := by
  grind

/-- Bytes that spell a character are read as it, in front of what follows. -/
theorem Spells.decode_append {front : List UInt8} (h : Spells c front) (bs : List UInt8) :
    decode (front ++ bs) = withChar c (decode bs) := by
  -- the decoder tells the length from the first byte, and the bytes of each length are tested in
  -- turn
  cases h with
  | one hupper hchar =>
    rw [List.singleton_append, decode.eq_def]
    simp only [if_pos hupper, hchar]
  | two hlower hupper hb hchar =>
    obtain ⟨h1, h2, h3⟩ := of_lead hlower (by grind)
    rw [List.cons_append, List.singleton_append, decode.eq_def]
    simp only [if_neg h1, if_neg h2, if_neg h3, if_pos hb, if_pos hupper, hchar]
  | @three a _ _ hlower hupper hb hd hchar =>
    obtain ⟨h1, h2, h3⟩ := of_lead (a := a) (by grind) (by grind)
    have h4 := UInt8.not_lt.2 hlower
    rw [List.cons_append, List.cons_append, List.singleton_append, decode.eq_def]
    simp only [if_neg h1, if_neg h2, if_neg h3, if_neg h4, if_pos hb, if_pos hd,
      if_pos hupper, hchar]
  | @four a _ _ _ hlower hupper hb hd he hchar =>
    obtain ⟨h1, h2, h3⟩ := of_lead (a := a) (by grind) hupper
    have h4 : ¬ a < 0xE0 := by grind
    have h5 := UInt8.not_lt.2 hlower
    rw [List.cons_append, List.cons_append, List.cons_append, List.singleton_append, decode.eq_def]
    simp only [if_neg h1, if_neg h2, if_neg h3, if_neg h4, if_neg h5, if_pos hb, if_pos hd,
      if_pos he, hchar]

/-- A first byte alone is a cut character. -/
theorem decode_lead {a : UInt8} (hlower : 0xC2 ≤ a) (hupper : a ≤ 0xF4) :
    decode [a] = ([], .cut) := by
  obtain ⟨h1, h2, h3⟩ := of_lead hlower hupper
  rw [decode.eq_def]
  simp only [if_neg h1, if_neg h2, if_neg h3]

/-- Two bytes of a character of three or four are a cut character. -/
theorem decode_pair {a b : UInt8} (hlower : 0xE0 ≤ a) (hupper : a ≤ 0xF4)
    (hb : isSecond a b = true) :
    decode [a, b] = ([], .cut) := by
  obtain ⟨h1, h2, h3⟩ := of_lead (a := a) (by grind) hupper
  rw [decode.eq_def]
  simp only [if_neg h1, if_neg h2, if_neg h3, if_neg (UInt8.not_lt.2 hlower), if_pos hb]

/-- Three bytes of a character of four are a cut character. -/
private theorem decode_triple {a b d : UInt8} (hlower : 0xF0 ≤ a) (hupper : a ≤ 0xF4)
    (hb : isSecond a b = true) (hd : isContinuation d = true) : decode [a, b, d] = ([], .cut) := by
  obtain ⟨h1, h2, h3⟩ := of_lead (a := a) (by grind) hupper
  have h4 : ¬ a < 0xE0 := by grind
  rw [decode.eq_def]
  simp only [if_neg h1, if_neg h2, if_neg h3, if_neg h4, if_neg (UInt8.not_lt.2 hlower),
    if_pos hb, if_pos hd]

/-- Some but not all of the bytes of a character are a cut character. -/
theorem Spells.decode_cut {front back : List UInt8} (h : Spells c (front ++ back))
    (hfront : front ≠ []) (hback : back ≠ []) : decode front = ([], .cut) := by
  obtain ⟨a, front, rfl⟩ := List.exists_cons_of_ne_nil hfront
  obtain ⟨z, back, rfl⟩ := List.exists_cons_of_ne_nil hback
  generalize hbytes : a :: front ++ z :: back = bytes at h
  -- a proper front of a character is its first byte, its first two or its first three
  cases h with
  | one hupper hchar => simp at hbytes
  | two hlower hupper hb hchar =>
    rcases front with _ | ⟨b, front⟩ <;> simp at hbytes
    exact decode_lead (by grind) (by grind)
  | three hlower hupper hb hd hchar =>
    rcases front with _ | ⟨b, _ | ⟨d, front⟩⟩ <;> simp at hbytes
    · exact decode_lead (by grind) (by grind)
    · exact decode_pair (by grind) (by grind) (by grind)
  | four hlower hupper hb hd he hchar =>
    rcases front with _ | ⟨b, _ | ⟨d, _ | ⟨e, front⟩⟩⟩ <;> simp at hbytes
    · exact decode_lead (by grind) (by grind)
    · exact decode_pair (by grind) (by grind) (by grind)
    · exact decode_triple (by grind) (by grind) (by grind) (by grind)

end Spells

/-! ## Texts -/

/-- A text is read back in front of any bytes. -/
theorem decode_encode_append (cs : List Char) (bs : List UInt8) :
    decode (encode cs ++ bs) = (cs ++ (decode bs).1, (decode bs).2) := by
  induction cs with
  | nil => rfl
  | cons c cs ih =>
    rw [encode_cons, List.append_assoc, (spells_utf8EncodeChar c).decode_append, ih]; rfl

/-- The bytes of a text spell it. -/
@[simp] theorem decode_encode (cs : List Char) : decode (encode cs) = (cs, .complete) := by
  have h := decode_encode_append cs []
  rwa [List.append_nil, decode, List.append_nil] at h

/-- Bytes that a text may begin with. -/
def Begins (bs : List UInt8) : Prop :=
  ∃ cs, bs <+: encode cs

section Begins

variable {bs more : List UInt8}

/-- The bytes of a text begin a text. -/
theorem begins_encode (cs : List Char) : Begins (encode cs) :=
  ⟨cs, List.prefix_refl _⟩

/-- A front part of bytes that begin a text begins one. -/
theorem Begins.front (h : Begins (bs ++ more)) : Begins bs := by
  obtain ⟨cs, hcs⟩ := h
  exact ⟨cs, (List.prefix_append bs more).trans hcs⟩

/-- Bytes that begin a text begin one behind a text. -/
theorem Begins.behind (front : List Char) (h : Begins bs) : Begins (encode front ++ bs) := by
  obtain ⟨cs, hcs⟩ := h
  exact ⟨front ++ cs, by rw [encode_append]; exact (List.prefix_append_right_inj _).2 hcs⟩

/-- What follows the bytes of a text in bytes that begin a text begins one. -/
theorem Begins.of_append {front : List Char} (h : Begins (encode front ++ bs)) : Begins bs := by
  obtain ⟨cs, more, hcs⟩ := h
  have hdecode := decode_encode cs
  rw [← hcs, List.append_assoc, decode_encode_append, Prod.mk.injEq] at hdecode
  refine ⟨(decode (bs ++ more)).1, more, ?_⟩
  rw [← hdecode.1, encode_append, List.append_assoc] at hcs
  exact List.append_cancel_left hcs

/-- Bytes that begin a text hold its first characters, and what is left of them may still become a
character. -/
theorem Begins.exists_eq (h : Begins bs) :
    ∃ front tail, bs = encode front ++ tail ∧ (decode bs).1 = front ∧ ∀ n,
      (decode bs).2 ≠ .invalid n := by
  obtain ⟨cs, more, h⟩ := h
  induction cs generalizing bs with
  | nil =>
    obtain ⟨rfl, -⟩ := List.append_eq_nil_iff.1 h
    exact ⟨[], [], rfl, rfl, by simp [decode]⟩
  | cons c cs ih =>
    have hspells := spells_utf8EncodeChar c
    rw [encode_cons] at h
    -- either the bytes end with the first character or inside it, or they hold all of it
    rcases List.append_eq_append_iff.1 h with ⟨back, hc, -⟩ | ⟨later, hbs, hcs⟩
    · rw [hc] at hspells
      by_cases hback : back = []
      · -- the bytes are those of the first character
        rw [hback, List.append_nil] at hc hspells
        have hdecode := hspells.decode_append []
        rw [List.append_nil] at hdecode
        rw [hdecode]
        exact ⟨[c], [], by simp [hc], rfl, by simp [withChar, decode]⟩
      · refine ⟨[], bs, rfl, ?_⟩
        by_cases hbs : bs = []
        · rw [hbs]
          exact ⟨rfl, by simp [decode]⟩
        · -- the bytes stop inside the first character
          rw [hspells.decode_cut hbs hback]
          exact ⟨rfl, by simp⟩
    · obtain ⟨front, tail, rfl, hfront, hvalid⟩ := ih hcs.symm
      rw [hbs, hspells.decode_append]
      exact ⟨c :: front, tail, by rw [encode_cons, List.append_assoc],
        congrArg (c :: ·) hfront, hvalid⟩

/-- Some of the bytes that spell a character begin a text. -/
theorem Spells.begins {c : Char} {front : List UInt8} (back : List UInt8)
    (h : Spells c (front ++ back)) :
    Begins front :=
  ⟨[c], back, h.encode_eq.symm⟩

/-- Behind a complete character bytes begin a text if they do by themselves. -/
theorem Spells.begins_append {c : Char} {front : List UInt8} (h : Spells c front)
    (hbs : Begins bs) :
    Begins (front ++ bs) :=
  h.encode_eq ▸ hbs.behind [c]

/-- Three bytes of a character of four begin a text. -/
theorem begins_triple {a b d : UInt8} (hlower : 0xF0 ≤ a) (hupper : a ≤ 0xF4)
    (hb : isSecond a b = true) (hd : isContinuation d = true) : Begins [a, b, d] :=
  Spells.begins [0x80] (.four hlower hupper hb hd (by decide) rfl)

/-- Two bytes of a character of three or four begin a text. -/
theorem begins_pair {a b : UInt8} (hlower : 0xE0 ≤ a) (hupper : a ≤ 0xF4)
    (hb : isSecond a b = true) :
    Begins [a, b] := by
  have hlast : isContinuation 0x80 = true := by decide
  by_cases hthree : a < 0xF0
  · exact Spells.begins [0x80] (.three hlower hthree hb hlast rfl)
  · have htriple : Begins ([a, b] ++ [0x80]) :=
      begins_triple (UInt8.not_lt.1 hthree) hupper hb hlast
    exact htriple.front

/-- Behind the first byte of a character of several bytes there is one that may come second. -/
private theorem exists_isSecond (a : UInt8) : ∃ b, isSecond a b = true := by
  by_cases hlow : a = 0xE0 ∨ a = 0xF0
  -- behind these two the lowest continuation byte would make an overlong form
  · exact ⟨0xA0, by rcases hlow with rfl | rfl <;> decide⟩
  · refine ⟨0x80, (isSecond_iff a _).2 ?_⟩
    simp only [← UInt8.toNat_inj, UInt8.reduceToNat] at hlow ⊢
    omega

/-- The first byte of a character of several bytes begins a text. -/
theorem begins_lead {a : UInt8} (hlower : 0xC2 ≤ a) (hupper : a ≤ 0xF4) : Begins [a] := by
  obtain ⟨b, hb⟩ := exists_isSecond a
  by_cases htwo : a < 0xE0
  · exact Spells.begins [b] (.two hlower htwo hb rfl)
  · have hpair : Begins ([a] ++ [b]) := begins_pair (UInt8.not_lt.1 htwo) hupper hb
    exact hpair.front

/-- Unless they hold some that begin no character, bytes begin a text. -/
private theorem begins_of_decode (h : ∀ n, (decode bs).2 ≠ .invalid n) : Begins bs := by
  fun_induction decode bs with
  | case1 => exact begins_encode []
  | case2 a rest hone ih => exact (Spells.one hone rfl).begins_append (ih h)
  | case5 a _ hlower hupper => exact begins_lead (UInt8.not_lt.1 hlower) (UInt8.not_lt.1 hupper)
  | case6 a _ hlower _ b rest hb htwo ih =>
    exact (Spells.two (UInt8.not_lt.1 hlower) htwo hb rfl).begins_append (ih h)
  | case7 a _ _ hupper b hb hlower =>
    exact begins_pair (UInt8.not_lt.1 hlower) (UInt8.not_lt.1 hupper) hb
  | case8 a _ _ _ b hb hlower d rest hd hthree ih =>
    exact (Spells.three (UInt8.not_lt.1 hlower) hthree hb hd rfl).begins_append (ih h)
  | case9 a _ _ hupper b hb _ d hd hlower =>
    exact begins_triple (UInt8.not_lt.1 hlower) (UInt8.not_lt.1 hupper) hb hd
  | case10 a _ _ hupper b hb _ d hd hlower e rest he ih =>
    exact (Spells.four (UInt8.not_lt.1 hlower) (UInt8.not_lt.1 hupper) hb hd he rfl).begins_append
      (ih h)
  -- the bytes that are left begin no character
  | case3 => exact absurd rfl (h 1)
  | case4 => exact absurd rfl (h 1)
  | case11 => exact absurd rfl (h 3)
  | case12 => exact absurd rfl (h 2)
  | case13 => exact absurd rfl (h 1)

/-- What is read as no text is what no text begins with. -/
theorem begins_iff : Begins bs ↔ ∀ n, (decode bs).2 ≠ .invalid n := by
  constructor
  · intro h
    obtain ⟨-, -, -, -, hvalid⟩ := h.exists_eq
    exact hvalid
  · exact begins_of_decode

/-- The characters that bytes hold are the first ones when more bytes follow. -/
theorem Begins.decode_prefix (h : Begins bs) (more : List UInt8) :
    (decode bs).1 <+: (decode (bs ++ more)).1 := by
  obtain ⟨front, tail, rfl, hfront, -⟩ := h.exists_eq
  rw [hfront, List.append_assoc, decode_encode_append]
  exact List.prefix_append front _

end Begins

end ProofDesk.Text
