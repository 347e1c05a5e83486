import ProofDesk.Prover.Basic
import ProofDesk.Text.Blank
import ProofDesk.Text.Numeral
import ProofDesk.Text.Quoted

/-!
# Decoding elements

Values are decoded by position: children are found by number, text between them is passed over, and
what is not asked for is ignored. A response is decoded in two steps, since its payload can only be
understood once the call it answers is known: `Inbound.ofElement?` takes the frame apart,
`Reply.ofElement` reads the payload.
-/

namespace ProofDesk

open Markup

/-- Why an element is not the value it should be. -/
inductive DecodeError where
  | unexpectedTag (wanted found : String)
  | missingChild (name : String) (index : Nat)
  | missingAttr (name key : String)
  /-- `raw` is no number of the kind called `what`. -/
  | invalidNumber (what raw : String)
  /-- `raw` is none of the words that the choice called `what` offers. -/
  | invalidChoice (what raw : String)
  | notText (name : String)
  | notResponse (name : String)
  deriving Repr, DecidableEq

/-- The wording of a decode error. -/
def DecodeError.message : DecodeError → String
  | unexpectedTag wanted found => "expected <" ++ wanted ++ ">, found <" ++ found ++ ">"
  | missingChild name index => s!"<{name}> is missing child {index}"
  | missingAttr name key => s!"<{name}> is missing attribute {key}"
  | invalidNumber what raw => s!"invalid {what}: {Text.quoted raw}"
  | invalidChoice what raw => s!"invalid {what} {Text.quoted raw}"
  | notText name => "expected text, found <" ++ name ++ ">"
  | notResponse name => "<" ++ name ++ "> is not a response"

/-- A decoded value, or why there is none. -/
abbrev Decoded (α : Type) := Except DecodeError α

namespace Decode

/-- Make sure that an element has the name `tag`. -/
def expectTag (tag : String) (e : Element) : Decoded Unit :=
  if e.name = tag then .ok () else .error (.unexpectedTag tag e.name)

/-- The child element at a position. -/
def child (e : Element) (index : Nat) : Decoded Element :=
  match e.child? index with
  | some c => .ok c
  | none => .error (.missingChild e.name index)

/-- The value of an attribute. -/
def attr (e : Element) (key : String) : Decoded String :=
  match e.attr? key with
  | some value => .ok value
  | none => .error (.missingAttr e.name key)

/-- An unsigned number up to `limit`, with blanks around it. -/
def natural (limit : Nat) (what raw : String) : Decoded Nat :=
  match Text.natural? 10 limit (Text.trim raw.toList) with
  | some n => .ok n
  | none => .error (.invalidNumber what raw)

/-- A state. -/
def state (e : Element) : Decoded StateId := do
  expectTag "state_id" e
  let n ← natural Text.max32 "state id" (← attr e "val")
  return ⟨UInt32.ofNat n⟩

/-- An integer. -/
def int (e : Element) : Decoded Int64 := do
  expectTag "int" e
  let raw := e.innerText
  match Text.integer64? (Text.trim raw.toList) with
  | some i => .ok (Int64.ofInt i)
  | none => .error (.invalidNumber "int" raw)

/-- A text. -/
def string (e : Element) : Decoded String := do
  expectTag "string" e
  return e.innerText

/-- A text that may carry markup, which is dropped. -/
def text (e : Element) : Decoded String :=
  if e.name = "string" ∨ e.name = "richpp" then .ok e.innerText else .error (.notText e.name)

/-- An optional value. -/
def option {α : Type} (inner : Element → Decoded α) (e : Element) : Decoded (Option α) := do
  expectTag "option" e
  match ← attr e "val" with
  | "none" => return none
  | "some" => return some (← inner (← child e 0))
  | other => .error (.invalidChoice "option tag" other)

/-- A list of values. -/
def list {α : Type} (item : Element → Decoded α) (e : Element) : Decoded (List α) := do
  expectTag "list" e
  e.elements.mapM item

/-- A pair of values. -/
def pair {α β : Type} (first : Element → Decoded α) (second : Element → Decoded β) (e : Element) :
    Decoded (α × β) := do
  expectTag "pair" e
  let a ← first (← child e 0)
  let b ← second (← child e 1)
  return (a, b)

/-- One of two alternatives. -/
def union {α β : Type} (left : Element → Decoded α) (right : Element → Decoded β) (e : Element) :
    Decoded (α ⊕ β) := do
  expectTag "union" e
  match ← attr e "val" with
  | "in_l" => return .inl (← left (← child e 0))
  | "in_r" => return .inr (← right (← child e 0))
  | other => .error (.invalidChoice "union tag" other)

/-- The value without content. -/
def unit (e : Element) : Decoded Unit :=
  expectTag "unit" e

/-- An offset into a sentence. -/
def offset (raw : String) : Decoded UInt64 :=
  (natural Text.max64 "location" raw).map UInt64.ofNat

/-- A place in a sentence. -/
def location (e : Element) : Decoded Location := do
  expectTag "loc" e
  let start ← offset (← attr e "start")
  let stop ← offset (← attr e "stop")
  return ⟨start, stop⟩

/-- A goal. -/
def goal (e : Element) : Decoded Goal := do
  expectTag "goal" e
  let id ← string (← child e 0)
  let hypotheses ← list text (← child e 1)
  let conclusion ← text (← child e 2)
  return ⟨id, hypotheses, conclusion⟩

/-- All goals. -/
def goals (e : Element) : Decoded Goals := do
  expectTag "goals" e
  let foreground ← list goal (← child e 0)
  let background ← list (pair (list goal) (list goal)) (← child e 1)
  let shelved ← list goal (← child e 2)
  let givenUp ← list goal (← child e 3)
  return ⟨foreground, background, shelved, givenUp⟩

/-- A prover's status. -/
def status (e : Element) : Decoded ProverStatus := do
  expectTag "status" e
  let path ← list string (← child e 0)
  let proofName ← option string (← child e 1)
  let allProofs ← list string (← child e 2)
  let proofNumber ← int (← child e 3)
  return ⟨path, proofName, allProofs, proofNumber⟩

/-- A refusal. It has a place only if both ends are given. -/
def failure (e : Element) : Decoded Failure := do
  let location ← match e.attr? "loc_s", e.attr? "loc_e" with
    | some start, some stop => do
      let start ← offset start
      let stop ← offset stop
      pure (some (⟨start, stop⟩ : Location))
    | _, _ => pure none
  let state ← state (← child e 0)
  let message ← text (← child e 1)
  return ⟨state, location, message⟩

/-- A response. -/
def response (e : Element) : Decoded Response := do
  match ← attr e "val" with
  | "good" => return .good (← child e 0)
  | "fail" => return .fail (← failure e)
  | other => .error (.invalidChoice "value tag" other)

/-- A message in feedback. The place may be left out, and then the text is the second of two
children. -/
def message (e : Element) : Decoded FeedbackContent := do
  expectTag "message" e
  let levelElement ← child e 0
  expectTag "message_level" levelElement
  let word ← attr levelElement "val"
  match MessageLevel.ofWord? word with
  | none => .error (.invalidChoice "message level" word)
  | some level =>
    if e.elements.length = 2 then
      return .message level none (← text (← child e 1))
    else
      let place ← option location (← child e 1)
      return .message level place (← text (← child e 2))

/-- What feedback says. -/
def feedbackContent (e : Element) : Decoded FeedbackContent := do
  expectTag "feedback_content" e
  match ← attr e "val" with
  | "addedaxiom" => return .addedAxiom
  | "processed" => return .processed
  | "incomplete" => return .incomplete
  | "inprogress" => return .inProgress (← int (← child e 0))
  | "processingin" => return .processingIn (← string (← child e 0))
  | "errormsg" =>
    let place ← location (← child e 0)
    return .errorMsg (some place) (← text (← child e 1))
  | "message" => message (← child e 0)
  | "filedependency" =>
    let source ← option string (← child e 0)
    return .fileDependency source (← string (← child e 1))
  | "fileloaded" =>
    let module ← string (← child e 0)
    return .fileLoaded module (← string (← child e 1))
  | other => return .unknown other

end Decode

/-- The frame that an element is, or none for an element that the engine has no use for: feedback
about anything but a state, and elements of other names. -/
def Inbound.ofElement? (e : Element) : Decoded (Option Inbound) :=
  if e.name = "value" then (Decode.response e).map fun r => some (.response r)
  else if e.name = "feedback" then
    if e.attr? "object" = some "state" then do
      let state ← Decode.state (← Decode.child e 0)
      let content ← Decode.feedbackContent (← Decode.child e 1)
      return some (.feedback ⟨state, content⟩)
    else .ok none
  else .ok none

/-- The reply that a payload means as the answer to a call of a kind. -/
def Reply.ofElement : (kind : CallKind) → Element → Decoded (Reply kind)
  | .init, e => (Decode.state e).map Reply.init
  | .add, e => do
    let (state, closed, message) ←
      Decode.pair Decode.state (Decode.pair (Decode.union Decode.unit Decode.state) Decode.text) e
    return Reply.add state (match closed with | .inl () => none | .inr next => some next) message
  | .editAt, e => do
    let focus ←
      Decode.union Decode.unit (Decode.pair Decode.state (Decode.pair Decode.state Decode.state)) e
    match focus with
    | .inl () => return Reply.editAt none
    | .inr (proof, qed, previous) => return Reply.editAt (some ⟨proof, qed, previous⟩)
  | .goal, e => (Decode.option Decode.goals e).map Reply.goal
  | .status, e => (Decode.status e).map Reply.status
  | .quit, e => (Decode.unit e).map fun _ => Reply.quit

end ProofDesk
