/-!
# JSON values

The values that the line protocols exchange. Every number the protocols mean is a natural number
written in plain digits, so those are kept as numbers; any other number is kept as it was written.
An object is the list of its members in the order of writing, and may name a member twice: what that
means is up to its reader.
-/

namespace ProofDesk

/-- A JSON value. -/
inductive Json where
  | null
  | bool (b : Bool)
  /-- A number written in digits alone. -/
  | nat (n : Nat)
  /-- A number written with a sign, a fraction or an exponent, as it was written. -/
  | number (literal : String)
  | str (s : String)
  | arr (items : List Json)
  | obj (members : List (String × Json))
  deriving Inhabited

namespace Json

mutual

/-- How deep arrays and objects are nested in a value. -/
def depth : Json → Nat
  | arr items => depthItems items + 1
  | obj members => depthMembers members + 1
  | _ => 0

/-- The depth of the deepest item. -/
def depthItems : List Json → Nat
  | [] => 0
  | v :: vs => max (depth v) (depthItems vs)

/-- The depth of the deepest member. -/
def depthMembers : List (String × Json) → Nat
  | [] => 0
  | (_, v) :: ms => max (depth v) (depthMembers ms)

end

end Json

end ProofDesk
