import ProofDesk.Fault
import ProofDesk.Sentence.Scan
import ProofDesk.Text.Cut

/-!
# A document and its sentences

A document is a text and the sentences that have been split off its front so far. They come in three
groups, in the order of the text:

* `live`: sent to the prover and still part of the text as sent;
* `doomed`: sent, but made invalid by an edit, and waiting for the rollback that discards them;
* `unsent`: split off and not sent.

The sentences that have been sent are the locked part of the document. Operations that can be
refused say why; the wording is in `Refusal.message`.
-/

namespace ProofDesk

/-- Identifies a sentence for its whole lifetime. -/
abbrev SentenceId := Nat

/-- How an accepted sentence was proved. -/
inductive Validity where
  | ordinary
  /-- Accepted through an axiom. -/
  | byAxiom
  deriving Repr, DecidableEq, Inhabited

/-- What the prover has said about a sentence. -/
inductive SentenceState where
  | unprocessed
  | pending
  | valid (validity : Validity)
  /-- Refused, with the faulty range counted from the start of the sentence. -/
  | error (range : Span) (message : String)
  deriving Repr, DecidableEq, Inhabited

/-- One sentence of a document. -/
structure Sentence where
  id : SentenceId
  /-- Where the sentence stands in the text. -/
  span : Span
  /-- The text of the sentence when it was split off. -/
  text : String
  state : SentenceState
  /-- The prover's state after the sentence, once it is accepted. -/
  stateId : Option StateId
  /-- Whether the prover has finished checking the sentence. -/
  processed : Bool
  deriving Repr, DecidableEq, Inhabited

namespace Sentence

/-- Whether the prover refused the sentence. -/
def isError (s : Sentence) : Bool :=
  match s.state with
  | .error .. => true
  | _ => false

/-- The sentence moved by `delta` bytes. -/
def shift (s : Sentence) (delta : Int) : Sentence :=
  { s with span := s.span.shift delta }

/-- The number of bytes of the sentence. -/
def size (s : Sentence) : Nat :=
  Text.size s.text.toList

end Sentence

/-- A document: the text and its sentences so far. -/
structure Document where
  text : String
  live : List Sentence
  doomed : List Sentence
  unsent : List Sentence
  /-- The prover's state before the first sentence. -/
  root : Option StateId
  /-- Why the last attempt to split off a sentence failed, while the text has not changed since. -/
  parseError : Option SplitError
  /-- The identifier that the next sentence gets. -/
  nextId : SentenceId
  deriving Inhabited

namespace Document

/-- Why an operation on a document is refused. -/
inductive Refusal where
  | noSentence (id : SentenceId)
  | neverSent (id : SentenceId)
  | notNext (id : SentenceId)
  | outside (range : Span)
  deriving Repr, DecidableEq

/-- The wording of a refusal. -/
def Refusal.message : Refusal → String
  | noSentence id => s!"no sentence {id}"
  | neverSent id => s!"sentence {id} was never sent"
  | notNext id => s!"sentence {id} does not follow the locked prefix"
  | outside range => s!"edit range {range.start}..{range.stop} is outside the document"

/-- The fault that a refusal amounts to. -/
def Refusal.toFault (r : Refusal) : Fault :=
  .invalidOperation r.message

/-- A document of which nothing has been split off. -/
def ofText (text : String) : Document :=
  { text, live := [], doomed := [], unsent := [], root := none, parseError := none, nextId := 0 }

/-- All sentences, in the order of the text. -/
def sentences (d : Document) : List Sentence :=
  d.live ++ d.doomed ++ d.unsent

/-- The number of sentences that have been sent. -/
def locked (d : Document) : Nat :=
  d.live.length + d.doomed.length

/-- Where the last of some sentences ends; the start of the text if there are none. -/
def endOf (ss : List Sentence) : Nat :=
  match ss.getLast? with
  | some s => s.span.stop
  | none => 0

/-- Where the live sentences end. -/
def lockedEnd (d : Document) : Nat :=
  endOf d.live

/-- The position of a sentence in the list of all sentences. -/
def indexOf? (d : Document) (id : SentenceId) : Option Nat :=
  d.sentences.findIdx? (·.id == id)

/-- The sentence with an identifier. -/
def sentence? (d : Document) (id : SentenceId) : Option Sentence :=
  d.sentences.find? (·.id == id)

/-- The position of the sentence after which the prover is in a state. -/
def indexOfState? (d : Document) (state : StateId) : Option Nat :=
  d.sentences.findIdx? (·.stateId == some state)

/-- The state that the prover is in before the sentence at a position: the last state known in front
of it. -/
def stateBefore (d : Document) (index : Nat) : Option StateId :=
  ((d.sentences.take index).reverse.findSome? (·.stateId)) <|> d.root

/-- The state that the prover is in after all locked sentences. -/
def tip (d : Document) : Option StateId :=
  d.stateBefore d.locked

/-- The last live sentence, if it is in error. -/
def blockingError? (d : Document) : Option Sentence :=
  d.live.getLast?.filter (·.isError)

/-- The position of the first live sentence that ends past an offset. -/
def firstLockedPast? (d : Document) (offset : Nat) : Option Nat :=
  d.live.findIdx? (offset < ·.span.stop)

/-- The document with its first state known. -/
def setRoot (d : Document) (state : StateId) : Document :=
  { d with root := some state }

/-! ## Splitting sentences off -/

/-- The sentences that spans of the text become, numbered from `id` on. -/
def sentencesOf (text : String) (id : SentenceId) : List Span → List Sentence
  | [] => []
  | span :: spans =>
    { id, span, text := String.ofList (Text.slice text.toList span.start span.stop),
      state := .unprocessed, stateId := none,
      processed := false } :: sentencesOf text (id + 1) spans

/-- The document with the sentences of further spans. -/
def push (d : Document) (spans : List Span) : Document :=
  { d with
    unsent := d.unsent ++ sentencesOf d.text d.nextId spans
    nextId := d.nextId + spans.length }

/-- The identifiers that `n` further sentences get. -/
def nextIds (d : Document) (n : Nat) : List SentenceId :=
  (List.range n).map (d.nextId + ·)

/-- The fault that a split error amounts to. -/
def splitFault (e : SplitError) : Fault :=
  .ambiguousSplit e.offset e.message

/-- Split one more sentence off the text: its identifier, or none if the text holds no further
one. -/
def splitNext (d : Document) : Except Fault (Option SentenceId) × Document :=
  match Sentence.next d.text (endOf d.sentences) with
  | .ok (some span) => (.ok (some d.nextId), { d.push [span] with parseError := none })
  | .ok none => (.ok none, { d with parseError := none })
  | .error e => (.error (splitFault e), { d with parseError := some e })

/-- The first sentence that has not been sent, split off the text if need be. -/
def extendNext (d : Document) : Except Fault (Option SentenceId) × Document :=
  match d.unsent with
  | s :: _ => (.ok (some s.id), d)
  | [] => d.splitNext

/-- Split sentences off until one ends at or past `offset`: the identifiers of the new ones. Those
found before the text turns out to be ambiguous are kept. -/
def extendTo (d : Document) (offset : Nat) : Except Fault (List SentenceId) × Document :=
  if d.sentences ≠ [] ∧ offset ≤ endOf d.sentences then (.ok [], d)
  else
    let (spans, error?) := Sentence.spansFrom d.text (endOf d.sentences)
    let short := spans.takeWhile (·.stop < offset)
    match spans.dropWhile (·.stop < offset), error? with
    -- a later error does not matter, for nobody looked that far
    | last :: _, _ =>
      (.ok (d.nextIds (short.length + 1)), { d.push (short ++ [last]) with parseError := none })
    | [], none => (.ok (d.nextIds short.length), { d.push short with parseError := none })
    | [], some e => (.error (splitFault e), { d.push short with parseError := some e })

/-! ## What the prover says about sentences -/

/-- Change the sentence at a position. -/
def modifyAt (d : Document) (index : Nat) (f : Sentence → Sentence) : Document :=
  if index < d.live.length then { d with live := d.live.modify index f }
  else if index < d.locked then { d with doomed := d.doomed.modify (index - d.live.length) f }
  else { d with unsent := d.unsent.modify (index - d.locked) f }

/-- The position of a sentence that has been sent. -/
def lockedIndex (d : Document) (id : SentenceId) : Except Refusal Nat :=
  match d.indexOf? id with
  | some index => if index < d.locked then .ok index else .error (.neverSent id)
  | none => .error (.noSentence id)

/-- Record that the first unsent sentence is sent. Nothing is sent while sentences wait for a
rollback. -/
def markPending (d : Document) (id : SentenceId) : Except Refusal Document :=
  match d.indexOf? id with
  | none => .error (.noSentence id)
  | some index =>
    match d.unsent with
    | [] => .error (.notNext id)
    | s :: rest =>
      if index = d.locked ∧ d.doomed = [] then
        .ok { d with live := d.live ++ [{ s with state := .pending }], unsent := rest }
      else .error (.notNext id)

/-- Record that the prover accepted a sentence and is in `state` after it. -/
def markValid (d : Document) (id : SentenceId) (state : StateId) (validity : Validity) :
    Except Refusal Document :=
  (d.lockedIndex id).map fun index =>
    d.modifyAt index fun s => { s with state := .valid validity, stateId := some state }

/-- Record that an accepted sentence relies on an axiom; a sentence in another state keeps it. -/
def markAxiom (d : Document) (index : Nat) : Document :=
  d.modifyAt index fun s =>
    match s.state with
    | .valid _ => { s with state := .valid .byAxiom }
    | _ => s

/-- Record that the prover has finished checking a sentence. -/
def markProcessed (d : Document) (index : Nat) : Document :=
  d.modifyAt index fun s => { s with processed := true }

/-- The part of a sentence of `size` bytes that an error at a location marks: the location as far as
it lies in the sentence, or all of the sentence if the location is missing or empty. -/
def errorRange (size : Nat) : Option Location → Span
  | some l =>
    if l.isEmpty then ⟨0, size⟩ else ⟨min l.start.toNat size, min l.stop.toNat size⟩
  | none => ⟨0, size⟩

/-- Record that the prover refused a sentence. -/
def markError (d : Document) (id : SentenceId) (location : Option Location) (message : String) :
    Except Refusal Document :=
  (d.lockedIndex id).map fun index =>
    d.modifyAt index fun s => { s with state := .error (errorRange s.size location) message }

/-! ## Discarding sentences -/

/-- Discard the sentences from a position on: the discarded ones, the last first. -/
def truncateAt (d : Document) (index : Nat) : List Sentence × Document :=
  ((d.sentences.drop index).reverse,
    { d with
      live := d.live.take index
      doomed := d.doomed.take (index - d.live.length)
      unsent := d.unsent.take (index - d.locked) })

/-- Discard the sentences from the one with an identifier on; nothing if there is none. -/
def truncateTo (d : Document) (id : SentenceId) : List Sentence × Document :=
  match d.indexOf? id with
  | some index => d.truncateAt index
  | none => ([], d)

end Document

end ProofDesk
