import ProofDesk.Proofs.Markup.Written
import ProofDesk.Proofs.Prover.Values

/-!
# The calls that are sent

Calls are written one after the other with nothing between them. Read element by element, their
bytes give back the elements of the calls and nothing is left, whatever the sentences in them hold;
and a call is told by its element. So what is sent can be taken for nothing else.
-/

namespace ProofDesk

open Markup Prover

/-! ## Elements one after the other -/

namespace Markup

/-- All elements that a buffer begins with, read one after the other, and the bytes that are
left. -/
def readAll (buffer : List UInt8) : List Element × List UInt8 :=
  match _h : readFirst buffer with
  | .ok (some (e, used)) => (e :: (readAll (buffer.drop used)).1, (readAll (buffer.drop used)).2)
  | _ => ([], buffer)
termination_by buffer.length
decreasing_by
  all_goals
    have := readFirst_pos _h
    simp; omega

private theorem readAll_nil : readAll [] = ([], []) := by
  rw [readAll]
  rfl

/-- A written element is the first that is read, in front of what follows. -/
theorem readAll_write {e : Element} {more : List UInt8} (h : e.Named) (hnormal : e.Normal)
    (hmore : Text.Begins more) :
    readAll (Text.encode e.write ++ more) = (e :: (readAll more).1, (readAll more).2) := by
  have hread := readFirst_write h hmore
  rw [Element.normal_iff.1 hnormal] at hread
  rw [readAll]
  split
  · next heq =>
    rw [hread] at heq
    obtain ⟨rfl, rfl⟩ : e = _ ∧ (Text.encode e.write).length = _ := by simpa using heq
    rw [List.drop_left]
  · next hnot => exact absurd hread (hnot _ _)

end Markup

/-! ## Calls -/

namespace Call

/-- The element of a call holds names where names are read. -/
theorem named_toElement (call : Call) : call.toElement.Named := by
  have hnames : IsName "call" ∧ IsName "val" ∧ IsName "option" ∧ IsName "pair" ∧ IsName "string" ∧
      IsName "int" ∧ IsName "state_id" ∧ IsName "bool" ∧ IsName "unit" := by
    decide +kernel
  cases call <;>
    simp [toElement, optionElement, pairElement, stringElement, intElement, stateElement,
      boolElement, unitElement, Element.named_node, Element.named_ofText, hnames]

/-- The element of a call is its own normal form: a text that is empty is left out. -/
theorem normal_toElement (call : Call) : call.toElement.Normal := by
  cases call <;>
    simp [toElement, optionElement, pairElement, stringElement, intElement, stateElement,
      boolElement, unitElement, Element.normal_node, Element.normal_ofText]

/-- What is sent is the bytes of a text. -/
theorem flatMap_bytes (calls : List Call) :
    calls.flatMap bytes = Text.encode (calls.flatMap fun call => call.toElement.write) := by
  induction calls with
  | nil => rfl
  | cons call calls ih => rw [List.flatMap_cons, ih, List.flatMap_cons, Text.encode_append, bytes]

/-- What calls are written to is read as their elements, and nothing is left. -/
theorem readAll_flatMap_bytes (calls : List Call) :
    readAll (calls.flatMap bytes) = (calls.map toElement, []) := by
  induction calls with
  | nil => exact readAll_nil
  | cons call calls ih =>
    have hmore : Text.Begins (calls.flatMap bytes) := by
      rw [flatMap_bytes]
      exact Text.begins_encode _
    rw [List.flatMap_cons, bytes, readAll_write call.named_toElement call.normal_toElement hmore,
      ih, List.map_cons]

/-- No two calls have the same element. -/
theorem toElement_injective : Function.Injective toElement := by
  intro call call' h
  have hcall := ofElement_toElement call
  rw [h, ofElement_toElement, Except.ok.injEq] at hcall
  exact hcall.symm

end Call

/-- What is sent is unambiguous. The bytes of calls written one after the other are cut back into
the elements of the calls, in order and with nothing left; a call, with its sentence, its number,
its state and its flag, is told by its element; so neither two calls have one element nor two lists
of calls the same bytes. -/
theorem calls_unambiguous :
    (∀ calls : List Call, readAll (calls.flatMap Call.bytes) = (calls.map Call.toElement, [])) ∧
      (∀ call : Call, Call.ofElement call.toElement = .ok call) ∧
      Function.Injective Call.toElement ∧
      Function.Injective fun calls : List Call => calls.flatMap Call.bytes := by
  refine ⟨Call.readAll_flatMap_bytes, Call.ofElement_toElement, Call.toElement_injective,
    fun calls calls' h => ?_⟩
  have hread := congrArg readAll h
  rw [Call.readAll_flatMap_bytes, Call.readAll_flatMap_bytes, Prod.mk.injEq] at hread
  exact Call.toElement_injective.list_map hread.1

end ProofDesk
