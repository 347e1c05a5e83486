import ProofDesk.Link
import ProofDesk.Prover.Decode
import ProofDesk.Session.Display
import ProofDesk.Session.Navigation

/-!
# Sessions

A session binds one document to one prover. Navigation is queued, at most one call waits for its
answer, and `pump` sends the next one as soon as the slot is free. When the queue is empty and the
state has changed since the goals were last asked for, it asks for them again.

Operations return their result first and the new session second.
-/

namespace ProofDesk

/-- The call that waits for its answer. -/
structure Outstanding where
  request : Request
  /-- Milliseconds since the call was sent. -/
  age : Nat
  /-- Whether a timeout has been reported for the call. -/
  timedOut : Bool
  deriving Repr, DecidableEq, Inhabited

/-- A document bound to a prover over a link whose state is `σ`. -/
structure Session (σ : Type) where
  link : σ
  settings : Settings
  document : Document
  status : SessionStatus
  /-- The fault that broke the session. -/
  fatal : Option Fault
  request : Option Outstanding
  queue : List Navigation
  /-- Whether the goals have to be asked for again. -/
  goalsStale : Bool
  goals : Option Goals
  proverStatus : Option ProverStatus
  messages : List MessageEntry
  /-- Notifications that nobody has taken yet. -/
  notifications : List Notification

namespace Session

variable {σ : Type}

/-- Whether a call waits for its answer or something is still to be sent. -/
def isBusy (s : Session σ) : Bool :=
  s.request.isSome || !s.queue.isEmpty || s.goalsStale

/-- Whether the session still takes part in the conversation with its prover. -/
def isAlive (s : Session σ) : Bool :=
  s.fatal.isNone && s.status != .closed

/-- Why the session takes no further orders, if it does not. -/
def refusal? (s : Session σ) : Option Fault :=
  match s.fatal with
  | some fault => some fault
  | none => if s.status = .closed then some (.invalidOperation "session is closed") else none

/-- Raise a notification. -/
def notify (s : Session σ) (kind : NotificationKind) (message : String) : Session σ :=
  { s with notifications := s.notifications ++ [⟨kind, message⟩] }

/-- Add a message to the panel, unless it is empty or repeats the last one. -/
def log (s : Session σ) (level : MessageLevel) (text : String) : Session σ :=
  if text.isEmpty ∨ s.messages.getLast? = some ⟨level, text⟩ then s
  else { s with messages := s.messages ++ [⟨level, text⟩] }

/-- Take the notifications that have been raised. -/
def takeNotifications (s : Session σ) : List Notification × Session σ :=
  (s.notifications, { s with notifications := [] })

/-- Empty the message panel. -/
def clearMessages (s : Session σ) : Session σ :=
  { s with messages := [] }

/-- Let time pass for the call that waits for its answer. -/
def elapse (s : Session σ) (milliseconds : Nat) : Session σ :=
  { s with request := s.request.map fun r => { r with age := r.age + milliseconds } }

/-- Cancel what may send sentences. -/
def dropAdvances (s : Session σ) : Session σ :=
  { s with queue := Navigation.dropAdvances s.queue }

/-- Everything that is drawn for the document. -/
def snapshot (s : Session σ) : Snapshot :=
  let text := s.document.text
  { status := s.status
    busy := s.isBusy
    highlights := s.document.highlights
    lockedEnd := .ofOffset text s.document.lockedEnd
    goals := renderGoals s.goals
    messages := s.messages
    parseError := s.document.parseError.map fun e => ⟨.ofOffset text e.offset, e.message⟩ }

/-- Take note of why sentences cannot be sent, and cancel what would send more. -/
def refuse (s : Session σ) (fault : Fault) : Session σ :=
  let s := s.dropAdvances
  let s := match fault with
    | .ambiguousSplit .. => s.log .error fault.message
    | _ => s
  s.notify .blocked fault.message

/-- Refusing an operation drops what goes forward from the queue. -/
theorem queue_refuse (s : Session σ) (fault : Fault) :
    (s.refuse fault).queue = Navigation.dropAdvances s.queue := by
  simp only [refuse, dropAdvances, notify]
  split <;> simp only [log]
  split <;> rfl

variable [Link σ]

/-- Break the session: the connection is given up and nothing is left to do. -/
def fail (s : Session σ) (fault : Fault) : Session σ :=
  { (s.notify .fatal fault.message) with
    status := .broken
    request := none
    queue := []
    goalsStale := false
    fatal := some fault
    link := Link.close s.link }

/-- Send a call and wait for its answer. -/
def send (s : Session σ) (request : Request) (call : Call) : Session σ :=
  match Link.send call s.link with
  | (.ok (), link) => { s with link, request := some ⟨request, 0, false⟩ }
  | (.error fault, link) => fail { s with link } fault

/-- Send calls until one waits for its answer or nothing is left to send. -/
def pump (s : Session σ) : Session σ :=
  if s.request.isNone ∧ s.status = .ready then
    match _hq : s.queue with
    | [] => if s.goalsStale then send { s with goalsStale := false } .goal .goal else s
    | op :: rest =>
      match _h : Navigation.step s.settings.axiomPolicy s.document op rest with
      | .send request call document queue => send { s with document, queue } request call
      | .proceed document queue => pump { s with document, queue }
      | .refuse document fault => pump (refuse { s with document } fault)
  else s
termination_by (s.queue.length, s.document.live.length)
decreasing_by
  -- the operation was carried out without a call
  · rcases Navigation.step_proceed _h with h | ⟨h, h'⟩
    · exact Prod.Lex.left _ _ (by rw [_hq]; exact h)
    · simp only [_hq, h]
      exact Prod.Lex.right _ h'
  -- the operation was refused, and refusing drops it
  · refine Prod.Lex.left _ _ ?_
    rw [queue_refuse, _hq]
    simp only [Navigation.dropAdvances, List.filter_cons, Navigation.advances_of_step_refuse _h,
      Bool.not_true, Bool.false_eq_true, if_false, List.length_cons]
    exact Nat.lt_succ_of_le (List.length_filter_le _ _)

/-- A session on a text, with the first call sent. -/
def start (link : σ) (text : String) (settings : Settings) : Session σ :=
  let s : Session σ :=
    { link, settings, document := .ofText text, status := .starting, fatal := none, request := none,
      queue := [], goalsStale := false, goals := none, proverStatus := none, messages := [],
      notifications := [] }
  s.send .init .init

end Session

end ProofDesk
