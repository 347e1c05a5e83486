import ProofDesk.Session.Inbound

/-!
# Operations of a session

What an editor can ask of a session. Navigation is refused when the session is dead, and going
forward also when the last sentence blocks progress and nothing is about to take it back. Edits are
always taken into the text; a dead session only sends nothing because of them.
-/

namespace ProofDesk.Session

variable {σ : Type}

/-- Whether something that waits for its answer or in the queue may take sentences back. -/
def rewindPending (s : Session σ) : Bool :=
  (match s.request with
    | some ⟨.editAt _, _, _⟩ => true
    | _ => false) || s.queue.any (·.retreats)

/-- Report a timeout if the waiting call is too old and none was reported for it: whether one
was. -/
def checkTimeout (s : Session σ) : Bool × Session σ :=
  match s.request with
  | none => (false, s)
  | some r =>
    if r.timedOut ∨ r.age < s.settings.timeout then (false, s)
    else
      (true, notify { s with request := some { r with timedOut := true } } .timeout
        (Fault.timeout r.age).message)

variable [Link σ]

/-- Send the next sentence. -/
def forward (s : Session σ) : Except Fault Unit × Session σ :=
  match s.refusal? with
  | some fault => (.error fault, s)
  | none =>
    if s.document.isBlocked s.settings.axiomPolicy ∧ ¬ s.rewindPending then (.error .blocked, s)
    else (.ok (), pump { s with queue := Navigation.enqueueForward s.queue })

/-- Take back the last sentence; nothing happens if there is none and none is on its way. -/
def backward (s : Session σ) : Except Fault Unit × Session σ :=
  match s.refusal? with
  | some fault => (.error fault, s)
  | none =>
    if s.document.live = [] ∧ ¬ s.queue.any (·.advances) ∧ s.request.isNone then (.ok (), s)
    else (.ok (), pump { s with queue := Navigation.enqueueBackward s.queue })

/-- Lock the sentences that end at or before a position. This replaces the navigation that is
queued, except for rollbacks that edits have caused. -/
def toCursor (s : Session σ) (position : Position) : Except Fault Unit × Session σ :=
  match s.refusal? with
  | some fault => (.error fault, s)
  | none =>
    let offset := position.toOffset s.document.text
    (.ok (), pump { s with queue := s.queue.filter (·.isRewind) ++ [.cursor offset] })

/-- Put the rollback that an edit requires in front of everything else. An earlier one is not needed
any more, since documents never diverge later than before. -/
def afterEdit (s : Session σ) (outcome : Reconciliation) : Session σ :=
  match outcome with
  | .rollback id =>
    if s.refusal?.isSome then s
    else pump { s with queue := .rewind id :: s.queue.filter (!·.isRewind) }
  | _ => s

/-- Replace the text between two positions. -/
def applyEdit (s : Session σ) (start stop : Position) (replacement : String) :
    Except Fault Reconciliation × Session σ :=
  let text := s.document.text
  match s.document.replace ⟨start.toOffset text, stop.toOffset text⟩ replacement with
  | .error refusal => (.error refusal.toFault, s)
  | .ok (outcome, document) => (.ok outcome, afterEdit { s with document } outcome)

/-- Replace the whole text. -/
def setText (s : Session σ) (text : String) : Reconciliation × Session σ :=
  let (outcome, document) := s.document.setText text
  (outcome, afterEdit { s with document } outcome)

/-- Ask the prover for its status. -/
def requestStatus (s : Session σ) : Except Fault Unit × Session σ :=
  match s.refusal? with
  | some fault => (.error fault, s)
  | none =>
    if s.request.isSome then (.error (.invalidOperation "a request is already outstanding"), s)
    else (.ok (), s.send .status .status)

/-- Apply frames in order, as long as the session is alive. -/
def handleFrames (s : Session σ) (frames : List Inbound) : Session σ :=
  frames.foldl (fun s frame => if s.isAlive then s.handleFrame frame else s) s

/-- Apply what has arrived: whether there was anything. -/
def receive (s : Session σ) : Bool × Session σ :=
  if s.isAlive then
    let (arrivals, link) := Link.receive s.link
    let s := handleFrames { s with link } arrivals.frames
    match arrivals.fault with
    | none => (!arrivals.frames.isEmpty, s)
    -- a frame may have broken the session already, and then the fault comes too late
    | some fault => (true, if s.isAlive then s.fail fault else s)
  else (false, s)

/-- Apply what has arrived, then send what comes next: whether anything visible changed. -/
def poll (s : Session σ) : Bool × Session σ :=
  let (received, s) := s.receive
  let (timedOut, s) := s.checkTimeout
  (received || timedOut, s.pump)

/-- Quit the prover, if it is listening, and give up the connection. -/
def close (s : Session σ) : Session σ :=
  if s.status = .closed then s
  else
    let s := if s.fatal.isNone ∧ s.request.isNone then s.send .quit .quit else s
    { s with queue := [], request := none, status := .closed, link := Link.close s.link }

end ProofDesk.Session
