/-!
# Byte offsets into a text

Offsets count UTF-8 bytes. `cut` divides a list of characters at the last character boundary that an
offset reaches, so an offset is a boundary exactly when the front part has that size. Slices and
replacements are stated through cuts.
-/

namespace ProofDesk.Text

/-- The number of UTF-8 bytes of a list of characters. -/
def size : List Char → Nat
  | [] => 0
  | c :: cs => c.utf8Size + size cs

/-- Divide a text at the last character boundary at or before byte `n`. -/
def cut : List Char → Nat → List Char × List Char
  | [], _ => ([], [])
  | c :: cs, n =>
    if c.utf8Size ≤ n then
      let rest := cut cs (n - c.utf8Size)
      (c :: rest.1, rest.2)
    else ([], c :: cs)

/-- The characters before byte `n`, as far as they are whole. -/
def upTo (cs : List Char) (n : Nat) : List Char :=
  (cut cs n).1

/-- The characters from the last boundary at or before byte `n` on. -/
def onwards (cs : List Char) (n : Nat) : List Char :=
  (cut cs n).2

/-- Whether byte `n` is where a character begins or the text ends. -/
def IsBoundary (cs : List Char) (n : Nat) : Prop :=
  size (upTo cs n) = n

instance (cs : List Char) (n : Nat) : Decidable (IsBoundary cs n) :=
  inferInstanceAs (Decidable (size (upTo cs n) = n))

/-- The characters between two byte offsets. -/
def slice (cs : List Char) (start stop : Nat) : List Char :=
  onwards (upTo cs stop) start

/-- The text with the bytes from `start` to `stop` replaced. -/
def splice (cs : List Char) (start stop : Nat) (replacement : List Char) : List Char :=
  upTo cs start ++ replacement ++ onwards cs stop

@[simp] theorem size_nil : size [] = 0 := rfl

@[simp] theorem size_cons (c : Char) (cs : List Char) : size (c :: cs) = c.utf8Size + size cs := rfl

@[simp] theorem size_append (as bs : List Char) : size (as ++ bs) = size as + size bs := by
  induction as with
  | nil => simp
  | cons a as ih => simp [ih, Nat.add_assoc]

/-- A cut loses nothing. -/
@[simp] theorem upTo_append_onwards (cs : List Char) (n : Nat) :
    upTo cs n ++ onwards cs n = cs := by
  induction cs generalizing n with
  | nil => rfl
  | cons c cs ih =>
    have h := ih (n - c.utf8Size)
    simp only [upTo, onwards, cut] at h ⊢
    split <;> simp [h]

/-- The front part never passes the offset. -/
theorem size_upTo_le (cs : List Char) (n : Nat) : size (upTo cs n) ≤ n := by
  induction cs generalizing n with
  | nil => simp [upTo, cut]
  | cons c cs ih =>
    have h := ih (n - c.utf8Size)
    simp only [upTo, cut] at h ⊢
    split
    · simp only [size_cons]
      omega
    · exact Nat.zero_le n

/-- The start of a text is a boundary. -/
theorem isBoundary_zero (cs : List Char) : IsBoundary cs 0 :=
  Nat.le_zero.1 (size_upTo_le cs 0)

/-- The end of a text is a boundary. -/
theorem isBoundary_size (cs : List Char) : IsBoundary cs (size cs) := by
  induction cs with
  | nil => rfl
  | cons c cs ih =>
    simp only [IsBoundary, upTo] at ih ⊢
    rw [size_cons, cut, if_pos (Nat.le_add_right _ _), Nat.add_sub_cancel_left, size_cons, ih]

end ProofDesk.Text
