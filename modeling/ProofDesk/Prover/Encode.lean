import ProofDesk.Markup.Printer
import ProofDesk.Prover.Basic
import ProofDesk.Text.Numeral
import ProofDesk.Text.Utf8

/-!
# Elements for values, calls and answers

Each value that the protocol carries has one element form. `Call.toElement` is what the engine
sends. `Reply.toElement` and `Inbound.toElement` are the forms in which a prover answers; the
decoder is measured against them.
-/

namespace ProofDesk

open Markup

namespace Prover

/-- A numeral as a text. -/
def numeral (n : Nat) : String :=
  String.ofList (Text.decimal n)

/-- A text as a value. -/
def stringElement (s : String) : Element :=
  .ofText "string" s

/-- An integer as a value. -/
def intElement (i : Int64) : Element :=
  .ofText "int" (String.ofList (Text.signedDecimal i.toInt))

/-- A truth value as a value. -/
def boolElement (b : Bool) : Element :=
  .node "bool" [("val", if b then "true" else "false")] []

/-- A state as a value. -/
def stateElement (s : StateId) : Element :=
  .node "state_id" [("val", numeral s.val.toNat)] []

/-- A pair as a value. -/
def pairElement (a b : Element) : Element :=
  .node "pair" [] [a, b]

/-- The value without content. -/
def unitElement : Element :=
  .node "unit" [] []

/-- An optional value. -/
def optionElement {α : Type} (f : α → Element) : Option α → Element
  | none => .node "option" [("val", "none")] []
  | some a => .node "option" [("val", "some")] [f a]

/-- A list of values. -/
def listElement {α : Type} (f : α → Element) (as : List α) : Element :=
  .node "list" [] (as.map f)

/-- The first of two alternatives. -/
def leftElement (e : Element) : Element :=
  .node "union" [("val", "in_l")] [e]

/-- The second of two alternatives. -/
def rightElement (e : Element) : Element :=
  .node "union" [("val", "in_r")] [e]

/-- A place in a sentence as a value. -/
def locationElement (l : Location) : Element :=
  .node "loc" [("start", numeral l.start.toNat), ("stop", numeral l.stop.toNat)] []

/-- A goal as a value. -/
def goalElement (g : Goal) : Element :=
  .node "goal" []
    [stringElement g.id, listElement stringElement g.hypotheses, stringElement g.conclusion]

/-- All goals as a value. -/
def goalsElement (g : Goals) : Element :=
  .node "goals" []
    [ listElement goalElement g.foreground
    , listElement (fun level => pairElement (listElement goalElement level.1)
        (listElement goalElement level.2)) g.background
    , listElement goalElement g.shelved
    , listElement goalElement g.givenUp ]

/-- A prover's status as a value. -/
def statusElement (s : ProverStatus) : Element :=
  .node "status" []
    [ listElement stringElement s.path
    , optionElement stringElement s.proofName
    , listElement stringElement s.allProofs
    , intElement s.proofNumber ]

end Prover

open Prover

/-- The element that sends a call. -/
def Call.toElement (call : Call) : Element :=
  let (name, argument) : String × Element := match call with
    | .init => ("Init", optionElement (fun e : Element => e) none)
    | .add command editId parent verbose =>
      ("Add", pairElement (pairElement (stringElement command) (intElement editId))
        (pairElement (stateElement parent) (boolElement verbose)))
    | .editAt target => ("Edit_at", stateElement target)
    | .goal => ("Goal", unitElement)
    | .status => ("Status", boolElement false)
    | .quit => ("Quit", unitElement)
  .node "call" [("val", name)] [argument]

/-- The text that sends a call. -/
def Call.render (call : Call) : String :=
  call.toElement.render

/-- The bytes that send a call. -/
def Call.bytes (call : Call) : List UInt8 :=
  Text.encode call.toElement.write

/-- The payload that carries a reply. -/
def Reply.toElement : {kind : CallKind} → Reply kind → Element
  | _, .init state => stateElement state
  | _, .add state closedProof message =>
    pairElement (stateElement state)
      (pairElement
        (match closedProof with
          | none => leftElement unitElement
          | some next => rightElement (stateElement next))
        (stringElement message))
  | _, .editAt none => leftElement unitElement
  | _, .editAt (some focus) =>
    rightElement (pairElement (stateElement focus.proof)
      (pairElement (stateElement focus.qed) (stateElement focus.previous)))
  | _, .goal answer => optionElement goalsElement answer
  | _, .status answer => statusElement answer
  | _, .quit => unitElement

/-- The element that reports what feedback says. -/
def FeedbackContent.toElement (content : FeedbackContent) : Element :=
  let form (kind : String) (children : List Element) : Element :=
    .node "feedback_content" [("val", kind)] children
  match content with
  | .addedAxiom => form "addedaxiom" []
  | .processed => form "processed" []
  | .incomplete => form "incomplete" []
  | .inProgress value => form "inprogress" [intElement value]
  | .processingIn worker => form "processingin" [stringElement worker]
  | .errorMsg location text =>
    form "errormsg" [locationElement (location.getD ⟨0, 0⟩), stringElement text]
  | .message level location text =>
    form "message" [.node "message" []
      [ .node "message_level" [("val", level.word)] []
      , optionElement locationElement location
      , stringElement text ]]
  | .fileDependency source dependency =>
    form "filedependency" [optionElement stringElement source, stringElement dependency]
  | .fileLoaded module voFile => form "fileloaded" [stringElement module, stringElement voFile]
  | .unknown name => form name []

/-- The element that a frame arrives as. -/
def Inbound.toElement : Inbound → Element
  | .response (.good payload) => .node "value" [("val", "good")] [payload]
  | .response (.fail failure) =>
    let places := match failure.location with
      | none => []
      | some l => [("loc_s", numeral l.start.toNat), ("loc_e", numeral l.stop.toNat)]
    .node "value" (("val", "fail") :: places) [stateElement failure.state,
      stringElement failure.message]
  | .feedback f =>
    .node "feedback" [("object", "state"), ("route", "0")] [stateElement f.state,
      f.content.toElement]

end ProofDesk
