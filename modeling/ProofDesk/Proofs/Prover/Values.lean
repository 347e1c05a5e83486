import ProofDesk.Proofs.Text.Numeral
import ProofDesk.Prover.Decode
import ProofDesk.Prover.Encode

/-!
# Values there and back

The element of a value is decoded to that value: the text of a string is its content, a number is
told by its numeral, and a pair by its two children.
-/

namespace ProofDesk

open Markup

/-! ## Elements -/

namespace Markup.Element

variable (name : String) (attrs : List (String × String))

@[simp] theorem elements_node (es : List Element) : (node name attrs es).elements = es := by
  simp only [elements, node, List.filterMap_map]
  exact List.filterMap_some

@[simp] theorem child?_node (es : List Element) (index : Nat) :
    (node name attrs es).child? index = es[index]? := by
  rw [child?, elements_node]

/-- The content of an element for a text is that text. -/
@[simp] theorem innerText_ofText (text : String) : (ofText name text).innerText = text := by
  unfold innerText ofText
  split
  · next hempty => simp_all [innerTexts]
  · simp [innerTexts, Node.innerText]

end Markup.Element

/-! ## Values -/

namespace Decode

open Prover

/-- Texts are decoded from their elements. -/
@[simp] theorem string_stringElement (s : String) : string (stringElement s) = .ok s :=
  congrArg Except.ok (Element.innerText_ofText "string" s)

/-- A number up to the limit is decoded from its numeral. -/
theorem natural_numeral {n limit : Nat} (what : String) (h : n ≤ limit) :
    natural limit what (numeral n) = .ok n := by
  rw [natural, numeral, String.toList_ofList, Text.trim_decimal, Text.natural?_decimal h]

/-- Identifiers of states are decoded from their elements. -/
@[simp] theorem state_stateElement (s : StateId) : state (stateElement s) = .ok s := by
  have hlimit : s.val.toNat ≤ Text.max32 := Nat.le_of_lt_succ s.val.toNat_lt
  have hvalue : state (stateElement s) =
      (natural Text.max32 "state id" (numeral s.val.toNat)).map fun n => ⟨.ofNat n⟩ := rfl
  rw [hvalue, natural_numeral _ hlimit]
  simp [Except.map]

/-- Numbers are decoded from their elements. -/
@[simp] theorem int_intElement (i : Int64) : int (intElement i) = .ok i := by
  have hname : (intElement i).name = "int" := rfl
  have htext : (intElement i).innerText.toList = Text.signedDecimal i.toInt := by simp [intElement]
  have hread := Text.integer64?_signedDecimal i.le_toInt i.toInt_lt
  simp only [int, expectTag, hname, htext, Text.trim_signedDecimal, hread, if_true,
    Int64.ofInt_toInt]
  rfl

/-- A pair is decoded part by part. -/
@[simp] theorem pair_pairElement {α β : Type} (first : Element → Decoded α)
    (second : Element → Decoded β)
    (a b : Element) : pair first second (pairElement a b) = do return (← first a, ← second b) :=
  rfl

/-- A truth value. -/
def truth (e : Element) : Decoded Bool := do
  expectTag "bool" e
  match ← attr e "val" with
  | "true" => return true
  | "false" => return false
  | other => .error (.invalidChoice "bool" other)

/-- Truth values are decoded from their elements. -/
@[simp] theorem truth_boolElement (b : Bool) : truth (boolElement b) = .ok b := by
  cases b <;> rfl

end Decode

/-! ## Calls -/

/-- The argument of a call to check a sentence: the sentence, its number, the state below it and
whether to be verbose. -/
def Decode.addition : Element → Decoded ((String × Int64) × StateId × Bool) :=
  pair (pair string int) (pair state truth)

/-- The call that an element sends. -/
def Call.ofElement (e : Element) : Decoded Call := do
  Decode.expectTag "call" e
  let argument ← Decode.child e 0
  match ← Decode.attr e "val" with
  | "Init" => return .init
  | "Add" => (Decode.addition argument).map fun a => .add a.1.1 a.1.2 a.2.1 a.2.2
  | "Edit_at" => (Decode.state argument).map .editAt
  | "Goal" => return .goal
  | "Status" => return .status
  | "Quit" => return .quit
  | other => .error (.invalidChoice "call" other)

/-- A call is told by its element. -/
theorem Call.ofElement_toElement (call : Call) : ofElement call.toElement = .ok call := by
  cases call with
  | init | goal | status | quit => rfl
  | editAt target =>
    have hargument (e : Element) : ofElement (.node "call" [("val", "Edit_at")] [e]) =
        (Decode.state e).map .editAt := rfl
    rw [toElement, hargument, Decode.state_stateElement]
    rfl
  | add command editId parent verbose =>
    have hargument (e : Element) : ofElement (.node "call" [("val", "Add")] [e]) =
        (Decode.addition e).map fun a => .add a.1.1 a.1.2 a.2.1 a.2.2 := rfl
    rw [toElement, hargument, Decode.addition, Decode.pair_pairElement, Decode.pair_pairElement,
      Decode.pair_pairElement, Decode.string_stringElement, Decode.int_intElement,
      Decode.state_stateElement, Decode.truth_boolElement]
    rfl

end ProofDesk
