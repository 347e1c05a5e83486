import ProofDesk.Fault

/-!
# Connections to a prover

A session talks to its prover through a link. Nothing waits: sending hands a call over, receiving
takes what has arrived, in the order in which the prover wrote it.
-/

namespace ProofDesk

/-- What has arrived on a link: frames in order, and the fault that ended them, if one did. -/
structure Arrivals where
  frames : List Inbound
  fault : Option Fault
  deriving Inhabited

/-- Nothing has arrived. -/
def Arrivals.none : Arrivals :=
  ⟨[], .none⟩

/-- A connection to a prover whose state is `σ`. -/
class Link (σ : Type) where
  /-- Hand a call over, or say why that is not possible. -/
  send : Call → σ → Except Fault Unit × σ
  /-- Take everything that has arrived since the last time. -/
  receive : σ → Arrivals × σ
  /-- Stop talking to the prover. -/
  close : σ → σ

end ProofDesk
