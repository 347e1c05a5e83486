/-!
# Settings

How sessions are run: which prover is started, how long a call may stay unanswered, and what an
axiom means for progress.
-/

namespace ProofDesk

/-- What a sentence that relies on an axiom means for progress. -/
inductive AxiomPolicy where
  /-- It is marked, and the next sentence may be sent. -/
  | annotate
  /-- It blocks progress like an error. -/
  | block
  deriving Repr, DecidableEq, Inhabited

/-- The settings of a session. -/
structure Settings where
  /-- The program to start. -/
  prover : String
  proverArgs : List String
  /-- Milliseconds that a call may stay unanswered before a timeout is reported. -/
  timeout : Nat
  axiomPolicy : AxiomPolicy
  deriving Repr, DecidableEq, Inhabited

namespace Settings

/-- The arguments that make the prover speak the protocol on its standard streams. -/
def defaultArgs : List String :=
  ["-ideslave", "-main-channel", "stdfds", "-async-proofs", "on"]

/-- The settings that hold when nothing is asked for. -/
def default : Settings :=
  { prover := "coqtop", proverArgs := defaultArgs, timeout := 10000, axiomPolicy := .annotate }

end Settings

end ProofDesk
