import ProofDesk.Prover.Basic

/-!
# Faults

What can go wrong in a session, grouped by how the session recovers, and what can go wrong around
it. The texts are shown to users and scripts.
-/

namespace ProofDesk

/-- A failure of a session. -/
inductive Fault where
  /-- The text cannot be split into sentences at an offset. -/
  | ambiguousSplit (offset : Nat) (reason : String)
  /-- The prover refused a call. -/
  | rejected (message : String) (location : Option Location)
  /-- The prover sent what the protocol does not allow. -/
  | desync (reason : String)
  | connectionLost
  /-- A call stayed unanswered for `elapsed` milliseconds. -/
  | timeout (elapsed : Nat)
  | invalidOperation (reason : String)
  /-- The last sentence blocks progress. -/
  | blocked
  deriving Repr, DecidableEq, Inhabited

namespace Fault

/-- Whether the session can no longer talk to its prover. -/
def isFatal : Fault → Bool
  | desync _ | connectionLost => true
  | _ => false

/-- The wording of a fault. -/
def message : Fault → String
  | ambiguousSplit offset reason => s!"Cannot split sentence at offset {offset}: {reason}"
  | rejected message (some l) => s!"Rejected at {l.start.toNat}-{l.stop.toNat}: {message}"
  | rejected message none => s!"Rejected: {message}"
  | desync reason => s!"Protocol out of sync: {reason}"
  | connectionLost => "Connection to coqtop lost"
  | timeout elapsed => s!"No response from coqtop after {elapsed} ms"
  | invalidOperation reason => s!"Invalid operation: {reason}"
  | blocked => "Fix the error first"

end Fault

/-- The fault that a refused call amounts to. -/
def Failure.toFault (f : Failure) : Fault :=
  .rejected f.message f.location

/-- A failure of a command or of the program around the sessions. -/
inductive Trouble where
  | io (reason : String)
  | json (reason : String)
  | session (fault : Fault)
  deriving Repr, DecidableEq, Inhabited

namespace Trouble

/-- The wording of a trouble. -/
def message : Trouble → String
  | io reason => "IO error: " ++ reason
  | json reason => "JSON error: " ++ reason
  | session fault => fault.message

/-- The wording of what lies behind a trouble. -/
def source : Trouble → String
  | io reason | json reason => reason
  | session fault => fault.message

end Trouble

end ProofDesk
