import ProofDesk.Session.Basic

/-!
# Frames in a session

What the prover's answers and its feedback do to a session. An answer belongs to the call that waits
for it and frees the slot before it is looked at. A refused sentence is put in error; a refused
rollback still discards its sentences, so that the document shows what the user asked for. An error
about a sentence that was accepted earlier discards the sentences behind it.
-/

namespace ProofDesk.Session

variable {σ : Type}

/-- The session with a changed document. -/
def withDocument (s : Session σ) : Except Document.Refusal Document → Except Fault (Session σ)
  | .ok document => .ok { s with document }
  | .error refusal => .error refusal.toFault

/-- Apply a good answer. -/
def applyReply (s : Session σ) : (request : Request) → Reply request.kind → Except Fault (Session σ)
  | .init, .init state => .ok { s with document := s.document.setRoot state, status := .ready }
  | .add id, .add state _ message =>
    if (s.document.sentence? id).isNone then .ok s
    else do
      let s ← s.withDocument (s.document.markValid id state .ordinary)
      return { s.log .info message with goalsStale := true }
  | .editAt id, .editAt _ =>
    .ok { s with document := (s.document.truncateTo id).2, goalsStale := true }
  | .goal, .goal goals => .ok { s with goals }
  | .status, .status status => .ok { s with proverStatus := some status }
  | .quit, .quit => .ok s

/-- Apply a refusal. -/
def applyFailure (s : Session σ) (request : Request) (failure : Failure) :
    Except Fault (Session σ) :=
  match request with
  | .init => .error failure.toFault
  | .add id => do
    let s ←
      if (s.document.sentence? id).isSome then
        s.withDocument (s.document.markError id failure.location failure.message)
      else .ok s
    return log { s.dropAdvances with goalsStale := true } .error failure.message
  | .editAt id =>
    .ok (log { s with document := (s.document.truncateTo id).2, goalsStale := true } .error
      failure.message)
  | .goal | .status | .quit => .ok (s.log .error failure.message)

/-- Apply an answer to the call that waits for it. -/
def handleResponse (s : Session σ) (response : Response) : Except Fault (Session σ) :=
  match s.request with
  | none => .error (.desync "response without an outstanding request")
  | some outstanding =>
    let s := { s with request := none }
    match response with
    | .good payload =>
      match Reply.ofElement outstanding.request.kind payload with
      | .ok reply => s.applyReply outstanding.request reply
      | .error e => .error (.desync e.message)
    | .fail failure => s.applyFailure outstanding.request failure

/-- Apply an error about the sentence at a position, which was accepted earlier. -/
def sentenceError (s : Session σ) (index : Option Nat) (location : Option Location)
    (message : String) :
    Session σ :=
  let s := match index.bind (s.document.sentences[·]?) with
    | none => s
    | some sentence =>
      match s.document.markError sentence.id location message with
      | .error _ => s
      | .ok document =>
        { s.dropAdvances with
          document := (document.truncateAt (index.getD 0 + 1)).2
          goalsStale := true }
  s.log .error message

/-- Apply feedback. -/
def handleFeedback (s : Session σ) (feedback : Feedback) : Session σ :=
  let index := s.document.indexOfState? feedback.state
  match feedback.content with
  | .addedAxiom =>
    match index with
    | some i => { s with document := s.document.markAxiom i }
    | none => s
  | .processed =>
    match index with
    | some i => { s with document := s.document.markProcessed i }
    | none => s
  | .errorMsg location message | .message .error location message =>
    s.sentenceError index location message
  | .message level _ text => s.log level text
  | _ => s

variable [Link σ]

/-- Apply one frame. A frame that cannot be applied breaks the session. -/
def handleFrame (s : Session σ) (frame : Inbound) : Session σ :=
  match frame with
  | .feedback feedback => s.handleFeedback feedback
  | .response response =>
    match s.handleResponse response with
    | .ok s => s
    | .error fault => s.fail fault

end ProofDesk.Session
