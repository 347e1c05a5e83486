import ProofDesk.Json.Value
import ProofDesk.Text.Numeral

/-!
# Reading JSON

Reads one value from a text that holds nothing else but blanks around it. Refused are, besides what
the grammar refuses: raw control characters in strings, halves of surrogate pairs, numbers that come
out too large for a double-precision value, and nesting deeper than `maxDepth`.

The value reader takes fuel, which `parse?` sets so high that it never runs out: each step down the
text costs at most two units per character.
-/

namespace ProofDesk.Json

/-- The deepest nesting of arrays and objects that is read. -/
def maxDepth : Nat := 127

/-- Whether `c` is a blank between tokens. -/
def isSpace (c : Char) : Bool :=
  c == ' ' || c == '\n' || c == '\t' || c == '\r'

/-- What is left after the blanks in front. -/
def skipSpaces (cs : List Char) : List Char :=
  cs.dropWhile isSpace

/-- The value of a hexadecimal digit. -/
def hexValue? (c : Char) : Option Nat :=
  if '0' ≤ c ∧ c ≤ '9' then some (c.toNat - '0'.toNat)
  else if 'a' ≤ c ∧ c ≤ 'f' then some (c.toNat - 'a'.toNat + 10)
  else if 'A' ≤ c ∧ c ≤ 'F' then some (c.toNat - 'A'.toNat + 10)
  else none

/-- The number that four hexadecimal digits spell, and what is left after them. -/
def unit? : List Char → Option (Nat × List Char)
  | a :: b :: c :: d :: rest => do
    let a ← hexValue? a
    let b ← hexValue? b
    let c ← hexValue? c
    let d ← hexValue? d
    some (((a * 16 + b) * 16 + c) * 16 + d, rest)
  | _ => none

/-- The character that stands for `u` and four hexadecimal digits; a high surrogate needs the low
one behind. -/
def unicodeEscape? (cs : List Char) : Option (Char × List Char) := do
  let (high, rest) ← unit? cs
  if 0xD800 ≤ high ∧ high < 0xDC00 then
    match rest with
    | '\\' :: 'u' :: more => do
      let (low, rest) ← unit? more
      if 0xDC00 ≤ low ∧ low < 0xE000 then
        some (Char.ofNat (0x10000 + (high - 0xD800) * 0x400 + (low - 0xDC00)), rest)
      else none
    | _ => none
  else if 0xDC00 ≤ high ∧ high < 0xE000 then none
  else some (Char.ofNat high, rest)

/-- The character that an escape stands for, read from what follows the backslash. -/
def escape? : List Char → Option (Char × List Char)
  | 'u' :: rest => unicodeEscape? rest
  | '"' :: rest => some ('"', rest)
  | '\\' :: rest => some ('\\', rest)
  | '/' :: rest => some ('/', rest)
  | 'b' :: rest => some ('\x08', rest)
  | 'f' :: rest => some ('\x0c', rest)
  | 'n' :: rest => some ('\n', rest)
  | 'r' :: rest => some ('\r', rest)
  | 't' :: rest => some ('\t', rest)
  | _ => none

/-- The characters up to the closing quote of a string, in front of those in `read`, which is
reversed. -/
def stringBody? (fuel : Nat) (read : List Char) (cs : List Char) : Option (List Char × List Char) :=
  match fuel, cs with
  | 0, _ => none
  | _, [] => none
  | fuel + 1, c :: rest =>
    if c = '"' then some (read.reverse, rest)
    else if c = '\\' then
      (escape? rest).bind fun (e, rest) => stringBody? fuel (e :: read) rest
    else if c.toNat < 0x20 then none
    else stringBody? fuel (c :: read) rest

/-- A string, read from what follows its opening quote. -/
def string? (cs : List Char) : Option (String × List Char) :=
  (stringBody? (cs.length + 1) [] cs).map fun (s, rest) => (String.ofList s, rest)

/-- The value of a run of digits. -/
def digitsValue (ds : List Char) : Nat :=
  ds.foldl (fun n d => n * 10 + (d.toNat - '0'.toNat)) 0

/-- A number taken apart: sign, digits in front of the point, digits behind it, exponent. -/
structure NumberParts where
  negative : Bool
  whole : List Char
  fraction : Option (List Char)
  exponent : Option Int

/-- Append digits to a significand as long as it fits into 64 bits: the significand, and the digits
that are left. -/
def absorb (significand : Nat) : List Char → Nat × List Char
  | [] => (significand, [])
  | d :: ds =>
    let longer := significand * 10 + (d.toNat - '0'.toNat)
    if longer ≤ Text.max64 then absorb longer ds else (significand, d :: ds)

/-- The nearest number with at most 53 significant binary digits, as a double-precision value has;
of two that are equally near the even one. -/
def roundDouble (n : Nat) : Nat :=
  let unit := 1 <<< (Nat.log2 n - 52)
  let low := n / unit
  let rest := n % unit
  (if 2 * rest < unit ∨ (2 * rest = unit ∧ low % 2 = 0) then low else low + 1) * unit

/-- A number as a significand that fits into 64 bits and a power of ten. Digits that do not fit
count as zeros, and those behind the point are only taken as long as they fit. -/
def NumberParts.scaled (p : NumberParts) : Nat × Int :=
  let fraction := p.fraction.getD []
  let (significand, dropped) := absorb 0 p.whole
  let (significand, untaken) := absorb significand fraction
  (significand, p.exponent.getD 0 + dropped.length - (fraction.length - untaken.length : Nat))

/-- Whether a number is too large for a double-precision value: the product of the significand and
the power of ten, each rounded first, would round up to `2 ^ 1024`. -/
def NumberParts.overflows (p : NumberParts) : Bool :=
  let (significand, scale) := p.scaled
  if significand = 0 ∨ scale < 0 then false
  else if 308 < scale then true
  -- from half a unit above the largest value on, rounding goes up
  else (1 <<< 1024) - (1 <<< 970) ≤ roundDouble significand * roundDouble (Nat.pow 10 scale.toNat)

/-- The digits behind a decimal point, if there is one; a point needs one. -/
def fraction? : List Char → Option (Option (List Char) × List Char)
  | '.' :: rest =>
    let ds := rest.takeWhile Char.isDigit
    if ds.isEmpty then none else some (some ds, rest.dropWhile Char.isDigit)
  | rest => some (none, rest)

/-- The exponent that follows an `e`, if there is one. -/
def exponent? : List Char → Option (Option Int × List Char)
  | [] => some (none, [])
  | c :: rest =>
    if c = 'e' ∨ c = 'E' then
      let (sign, rest) : Int × List Char := match rest with
        | '+' :: rest => (1, rest)
        | '-' :: rest => (-1, rest)
        | rest => (1, rest)
      let ds := rest.takeWhile Char.isDigit
      if ds.isEmpty then none else some (some (sign * digitsValue ds), rest.dropWhile Char.isDigit)
    else some (none, c :: rest)

/-- A number and what is left after it. -/
def number? (cs : List Char) : Option (Json × List Char) := do
  let (negative, unsigned) := match cs with
    | '-' :: rest => (true, rest)
    | rest => (false, rest)
  let whole := unsigned.takeWhile Char.isDigit
  let rest := unsigned.dropWhile Char.isDigit
  if whole.isEmpty ∨ (whole.head? = some '0' ∧ 1 < whole.length) then none
  else
    let (fraction, rest) ← fraction? rest
    let (exponent, rest) ← exponent? rest
    let parts : NumberParts := ⟨negative, whole, fraction, exponent⟩
    if parts.overflows then none
    else if negative ∨ fraction.isSome ∨ exponent.isSome then
      some (.number (String.ofList (cs.take (cs.length - rest.length))), rest)
    else some (.nat (digitsValue whole), rest)

mutual

/-- One value and what is left after it. -/
def value? : Nat → List Char → Option (Json × List Char)
  | 0, _ => none
  | fuel + 1, cs =>
    match skipSpaces cs with
    | '"' :: rest => (string? rest).map fun (s, rest) => (.str s, rest)
    | '[' :: rest =>
      match skipSpaces rest with
      | ']' :: rest => some (.arr [], rest)
      | rest => (items? fuel rest).map fun (vs, rest) => (.arr vs, rest)
    | '\x7b' :: rest =>
      match skipSpaces rest with
      | '\x7d' :: rest => some (.obj [], rest)
      | rest => (members? fuel rest).map fun (ms, rest) => (.obj ms, rest)
    | 'n' :: 'u' :: 'l' :: 'l' :: rest => some (.null, rest)
    | 't' :: 'r' :: 'u' :: 'e' :: rest => some (.bool true, rest)
    | 'f' :: 'a' :: 'l' :: 's' :: 'e' :: rest => some (.bool false, rest)
    | rest => number? rest

/-- The items up to a closing bracket. -/
def items? : Nat → List Char → Option (List Json × List Char)
  | 0, _ => none
  | fuel + 1, cs =>
    (value? fuel cs).bind fun (v, rest) =>
      match skipSpaces rest with
      | ',' :: rest => (items? fuel rest).map fun (vs, rest) => (v :: vs, rest)
      | ']' :: rest => some ([v], rest)
      | _ => none

/-- The members up to a closing brace. -/
def members? : Nat → List Char → Option (List (String × Json) × List Char)
  | 0, _ => none
  | fuel + 1, cs =>
    match skipSpaces cs with
    | '"' :: rest =>
      (string? rest).bind fun (k, rest) =>
        match skipSpaces rest with
        | ':' :: rest =>
          (value? fuel rest).bind fun (v, rest) =>
            match skipSpaces rest with
            | ',' :: rest => (members? fuel rest).map fun (ms, rest) => ((k, v) :: ms, rest)
            | '\x7d' :: rest => some ([(k, v)], rest)
            | _ => none
        | _ => none
    | _ => none

end

/-- The value that a text spells, if it spells one. -/
def parse? (s : String) : Option Json :=
  let cs := s.toList
  match value? (2 * cs.length + 2) cs with
  | some (v, rest) => if (skipSpaces rest).isEmpty ∧ v.depth ≤ maxDepth then some v else none
  | none => none

end ProofDesk.Json
