import ProofDesk.Markup.Element

/-!
# The conversation with the prover

The engine sends calls and the prover answers each with one response, in order. In between it sends
feedback about states it has already accepted. A good response carries an element that means
something only together with the call it answers, so replies are indexed by the kind of that call.
-/

namespace ProofDesk

/-- The prover's name for a point in its history. -/
structure StateId where
  val : UInt32
  deriving Repr, DecidableEq, Inhabited

/-- The text by which messages refer to a state. -/
def StateId.label (s : StateId) : String :=
  s!"#{s.val.toNat}"

/-- A byte range inside a sentence, as the prover reports it. -/
structure Location where
  start : UInt64
  stop : UInt64
  deriving Repr, DecidableEq, Inhabited

/-- Whether a location covers nothing. -/
def Location.isEmpty (l : Location) : Bool :=
  l.stop ≤ l.start

/-- How serious a message is. -/
inductive MessageLevel where
  | debug | info | notice | warning | error
  deriving Repr, DecidableEq, Inhabited

namespace MessageLevel

/-- All levels, the least serious first. -/
def all : List MessageLevel := [debug, info, notice, warning, error]

/-- The word for a level. -/
def word : MessageLevel → String
  | debug => "debug"
  | info => "info"
  | notice => "notice"
  | warning => "warning"
  | error => "error"

/-- The level that a word stands for. -/
def ofWord? (s : String) : Option MessageLevel :=
  all.find? (·.word == s)

end MessageLevel

/-- One proof obligation. -/
structure Goal where
  id : String
  hypotheses : List String
  conclusion : String
  deriving Repr, DecidableEq, Inhabited

/-- The goals at the tip of the checked text. -/
structure Goals where
  /-- The goals in focus. -/
  foreground : List Goal
  /-- The goals out of focus, one pair per level: those before the focus and those after it. -/
  background : List (List Goal × List Goal)
  shelved : List Goal
  givenUp : List Goal
  deriving Repr, DecidableEq, Inhabited

/-- Where the prover is when a rollback leads into a proof that was already closed. -/
structure FocusedProof where
  proof : StateId
  qed : StateId
  previous : StateId
  deriving Repr, DecidableEq, Inhabited

/-- What the prover says about itself. -/
structure ProverStatus where
  path : List String
  proofName : Option String
  allProofs : List String
  proofNumber : Int64
  deriving Repr, DecidableEq, Inhabited

/-- A request to the prover. -/
inductive Call where
  | init
  /-- Check one sentence on top of the state `parent`. -/
  | add (command : String) (editId : Int64) (parent : StateId) (verbose : Bool)
  /-- Go back to a state. -/
  | editAt (target : StateId)
  | goal
  | status
  | quit
  deriving Repr, DecidableEq, Inhabited

/-- The kinds of requests. -/
inductive CallKind where
  | init | add | editAt | goal | status | quit
  deriving Repr, DecidableEq, Inhabited

/-- The kind of a call. -/
def Call.kind : Call → CallKind
  | init => .init
  | add .. => .add
  | editAt _ => .editAt
  | goal => .goal
  | status => .status
  | quit => .quit

/-- What a good response to a call of a kind says. -/
inductive Reply : CallKind → Type where
  | init (state : StateId) : Reply .init
  /-- The new state, the state after the proof that the sentence closed, if it closed one, and a
  message. -/
  | add (state : StateId) (closedProof : Option StateId) (message : String) : Reply .add
  | editAt (focus : Option FocusedProof) : Reply .editAt
  | goal (goals : Option Goals) : Reply .goal
  | status (status : ProverStatus) : Reply .status
  | quit : Reply .quit

/-- A refused call. -/
structure Failure where
  state : StateId
  location : Option Location
  message : String
  deriving Repr, DecidableEq, Inhabited

/-- An answer to a call. -/
inductive Response where
  | good (payload : Markup.Element)
  | fail (failure : Failure)
  deriving Inhabited

/-- What feedback says about a state. -/
inductive FeedbackContent where
  | addedAxiom
  | processed
  | incomplete
  | inProgress (value : Int64)
  | processingIn (worker : String)
  | errorMsg (location : Option Location) (message : String)
  | message (level : MessageLevel) (location : Option Location) (text : String)
  | fileDependency (source : Option String) (dependency : String)
  | fileLoaded (module : String) (voFile : String)
  | unknown (name : String)
  deriving Repr, DecidableEq, Inhabited

/-- News about a state that the prover accepted earlier. -/
structure Feedback where
  state : StateId
  content : FeedbackContent
  deriving Repr, DecidableEq, Inhabited

/-- One frame from the prover. -/
inductive Inbound where
  | response (r : Response)
  | feedback (f : Feedback)
  deriving Inhabited

end ProofDesk
