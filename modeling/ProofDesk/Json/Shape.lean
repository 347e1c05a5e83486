import ProofDesk.Json.Value
import ProofDesk.Text.Numeral

/-!
# Reading records and choices out of JSON values

The protocols write a record as an object and also read it from an array of its fields in order. An
object may hold members that nobody asks for, but every field must stand in it exactly once. A
choice is an object whose tag names the alternative, or an array that begins with that name. A word
out of a fixed list is a string, or an object with that word as its only member and nothing in it.
-/

namespace ProofDesk

/-- A finite type whose values are written as words. -/
class Worded (α : Type) where
  /-- All values. -/
  all : List α
  /-- The word for a value. -/
  word : α → String

namespace Json

/-- A value as the word for it. -/
def ofWord {α : Type} [Worded α] (a : α) : Json :=
  .str (Worded.word a)

/-- The value that a word stands for. -/
def findWord? {α : Type} [Worded α] (s : String) : Option α :=
  Worded.all.find? (Worded.word · == s)

/-- Read a word inside a tagged value. -/
def word? {α : Type} [Worded α] : Json → Option α
  | str s => findWord? s
  | obj [(s, null)] | obj [(s, obj [])] => findWord? s
  | _ => none

/-- Read a word that stands alone. -/
def wordAlone? {α : Type} [Worded α] : Json → Option α
  | str s => findWord? s
  | obj [(s, null)] => findWord? s
  | _ => none

/-- Read a string. -/
def str? : Json → Option String
  | str s => some s
  | _ => none

/-- Read a truth value. -/
def bool? : Json → Option Bool
  | bool b => some b
  | _ => none

/-- Read a natural number that is at most `limit`. -/
def nat? (limit : Nat) : Json → Option Nat
  | nat n => if n ≤ limit then some n else none
  | _ => none

/-- Read a 32-bit number. -/
def word32? (v : Json) : Option UInt32 :=
  (v.nat? Text.max32).map UInt32.ofNat

/-- Read a list. -/
def list? {α : Type} (item : Json → Option α) : Json → Option (List α)
  | arr vs => vs.mapM item
  | _ => none

/-- Read a value that may be missing. -/
def optional? {α : Type} (inner : Json → Option α) : Json → Option (Option α)
  | null => some none
  | v => (inner v).map some

/-- The only member with a name. -/
def member? (name : String) (ms : List (String × Json)) : Option Json :=
  match ms.filter (·.1 == name) with
  | [(_, v)] => some v
  | _ => none

/-- The only member with a name, or null if there is none. -/
def memberOrNull? (name : String) (ms : List (String × Json)) : Option Json :=
  match ms.filter (·.1 == name) with
  | [] => some null
  | [(_, v)] => some v
  | _ => none

/-- The fields of a record, in the order of their names; those in `optional` may be missing from an
object. -/
def record? (names : List String) (optional : List String) : Json → Option (List Json)
  | obj ms => names.mapM fun name =>
      if optional.contains name then memberOrNull? name ms else member? name ms
  | arr vs => if vs.length = names.length then some vs else none
  | _ => none

/-- The fields of a record that allows no further members. -/
def strictRecord? (names : List String) : Json → Option (List Json)
  | obj ms => if ms.all (names.contains ·.1) then record? names [] (obj ms) else none
  | v => record? names [] v

/-- The alternative that a value is tagged with, and the value without its tag. -/
def tagged? (tag : String) : Json → Option (String × Json)
  | obj ms => do
    let name ← (← member? tag ms).str?
    return (name, obj (ms.filter (·.1 != tag)))
  | arr (str name :: vs) => some (name, arr vs)
  | _ => none

/-- Read an alternative without fields. -/
def noFields? : Json → Option Unit
  | obj _ | arr [] => some ()
  | _ => none

end Json

end ProofDesk
