/-!
# Decimal numerals

Numbers in frames and on the command line are written in decimal digits. Reading accepts a plus sign
and leading zeros, refuses blanks and an empty text, and refuses a number outside the range asked
for.
-/

namespace ProofDesk.Text

/-- The largest value of an unsigned 32-bit number. -/
def max32 : Nat := 0xffffffff

/-- The largest value of an unsigned 64-bit number. -/
def max64 : Nat := 0xffffffffffffffff

/-- The value of a digit in a base up to 16. -/
def digit? (base : Nat) (c : Char) : Option Nat :=
  let value :=
    if '0' ≤ c ∧ c ≤ '9' then some (c.toNat - '0'.toNat)
    else if 'a' ≤ c ∧ c ≤ 'f' then some (c.toNat - 'a'.toNat + 10)
    else if 'A' ≤ c ∧ c ≤ 'F' then some (c.toNat - 'A'.toNat + 10)
    else none
  value.filter (· < base)

/-- Read digits after a number that has the value `n` so far. -/
def digitsFrom (base : Nat) (n : Nat) : List Char → Option Nat
  | [] => some n
  | c :: cs => (digit? base c).bind fun d => digitsFrom base (n * base + d) cs

/-- Read one or more digits. -/
def digits? (base : Nat) (cs : List Char) : Option Nat :=
  if cs.isEmpty then none else digitsFrom base 0 cs

/-- The digits of an unsigned numeral: what follows a plus sign, if there is one. -/
def unsignedDigits : List Char → List Char
  | '+' :: cs => cs
  | cs => cs

/-- Read an unsigned number that is at most `limit`. -/
def natural? (base limit : Nat) (cs : List Char) : Option Nat :=
  (digits? base (unsignedDigits cs)).filter (· ≤ limit)

/-- Read a signed 64-bit number. -/
def integer64? : List Char → Option Int
  | '-' :: cs => ((digits? 10 cs).filter (· ≤ 0x8000000000000000)).map fun n => -(n : Int)
  | cs => ((digits? 10 (unsignedDigits cs)).filter (· < 0x8000000000000000)).map fun n => (n : Int)

/-- The decimal numeral of a number. -/
def decimal (n : Nat) : List Char :=
  Nat.toDigits 10 n

/-- The decimal numeral of an integer. -/
def signedDecimal : Int → List Char
  | .ofNat n => decimal n
  | .negSucc n => '-' :: decimal (n + 1)

end ProofDesk.Text
