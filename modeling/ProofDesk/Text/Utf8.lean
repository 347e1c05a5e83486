import ProofDesk.Text.Cut

/-!
# Texts as bytes

A text is a list of characters; the prover and the editors count its UTF-8 bytes. `encode` writes
the bytes, `decode` reads as many characters as the bytes hold and says how they end, so that a
buffer cut inside a character is told apart from one that no further byte can mend.
-/

namespace ProofDesk.Text

/-- The UTF-8 bytes of a list of characters. -/
def encode (cs : List Char) : List UInt8 :=
  cs.flatMap String.utf8EncodeChar

/-- The UTF-8 bytes of a text. -/
def bytes (s : String) : List UInt8 :=
  encode s.toList

@[simp] theorem encode_nil : encode [] = [] := rfl

@[simp] theorem encode_cons (c : Char) (cs : List Char) :
    encode (c :: cs) = String.utf8EncodeChar c ++ encode cs :=
  rfl

@[simp] theorem encode_append (as bs : List Char) : encode (as ++ bs) = encode as ++ encode bs := by
  simp [encode]

@[simp] theorem length_encode (cs : List Char) : (encode cs).length = size cs := by
  induction cs with
  | nil => rfl
  | cons c cs ih => simp [ih]

/-- How a sequence of bytes ends after its last readable character. -/
inductive Ending where
  /-- Nothing is left over. -/
  | complete
  /-- The bytes stop inside a character that more bytes could finish. -/
  | cut
  /-- The next `length` bytes begin no character. -/
  | invalid (length : Nat)
  deriving Repr, DecidableEq

/-- A byte that continues a character: `10xxxxxx`. -/
def isContinuation (b : UInt8) : Bool :=
  0x80 ≤ b && b ≤ 0xBF

/-- Whether `b` may stand second in a character whose first byte is `lead`. Overlong forms,
surrogates and code points above the last one are ruled out here. -/
def isSecond (lead b : UInt8) : Bool :=
  if lead = 0xE0 then 0xA0 ≤ b && b ≤ 0xBF
  else if lead = 0xED then 0x80 ≤ b && b ≤ 0x9F
  else if lead = 0xF0 then 0x90 ≤ b && b ≤ 0xBF
  else if lead = 0xF4 then 0x80 ≤ b && b ≤ 0x8F
  else isContinuation b

/-- The value of a continuation byte. -/
def payload (b : UInt8) : Nat :=
  b.toNat - 0x80

/-- The character of a two-byte form. -/
def char2 (a b : UInt8) : Char :=
  Char.ofNat ((a.toNat - 0xC0) * 64 + payload b)

/-- The character of a three-byte form. -/
def char3 (a b c : UInt8) : Char :=
  Char.ofNat (((a.toNat - 0xE0) * 64 + payload b) * 64 + payload c)

/-- The character of a four-byte form. -/
def char4 (a b c d : UInt8) : Char :=
  Char.ofNat ((((a.toNat - 0xF0) * 64 + payload b) * 64 + payload c) * 64 + payload d)

/-- Put a character in front of what has been read. -/
def withChar (c : Char) (read : List Char × Ending) : List Char × Ending :=
  (c :: read.1, read.2)

/-- Read characters from the front of `bs` until the bytes run out or begin no character. -/
def decode : List UInt8 → List Char × Ending
  | [] => ([], .complete)
  | a :: rest =>
    if a < 0x80 then withChar (Char.ofNat a.toNat) (decode rest)
    -- a continuation without a beginning, or the beginning of an overlong form of two bytes
    else if a < 0xC2 then ([], .invalid 1)
    -- past the last code point
    else if 0xF4 < a then ([], .invalid 1)
    else match rest with
      | [] => ([], .cut)
      | b :: rest =>
        if isSecond a b then
          if a < 0xE0 then withChar (char2 a b) (decode rest)
          else match rest with
            | [] => ([], .cut)
            | c :: rest =>
              if isContinuation c then
                if a < 0xF0 then withChar (char3 a b c) (decode rest)
                else match rest with
                  | [] => ([], .cut)
                  | d :: rest =>
                    if isContinuation d then withChar (char4 a b c d) (decode rest)
                    else ([], .invalid 3)
              else ([], .invalid 2)
        else ([], .invalid 1)

/-- The text that the bytes spell, if they spell one. -/
def ofBytes? (bs : List UInt8) : Option String :=
  match decode bs with
  | (cs, .complete) => some (String.ofList cs)
  | _ => none

end ProofDesk.Text
