import ProofDesk.Text.Input
import ProofDesk.Viewer.Message

/-!
# A viewer's end of the socket

The engine may start after the viewer, restart, or go away. A dialer tries to reach it, again and
again with a pause after each failure, and at once after the engine was lost. It reports every loss,
so that nothing outdated stays on the screen. Commands are kept until there is an engine. When the
viewer hangs up, what it has ordered is still written to the engine that is there, or to the next
one that is reached.
-/

namespace ProofDesk

/-- What a viewer hears. -/
inductive Heard where
  | message (m : ViewerMessage)
  /-- The engine closed the connection. -/
  | lost
  deriving Repr, DecidableEq, Inhabited

/-- Where a dialer stands. -/
inductive DialerPhase where
  /-- It dials again in this many milliseconds. -/
  | dialing (pause : Nat)
  /-- It is connected; a line may have arrived in part. -/
  | connected (partialLine : List UInt8)
  | ended
  deriving Repr, DecidableEq, Inhabited

/-- A viewer's end of the socket. -/
structure Dialer where
  phase : DialerPhase
  /-- Commands that have not been written. -/
  commands : List ViewerCommand
  /-- Whether the viewer is still there. -/
  isWanted : Bool
  deriving Repr, DecidableEq, Inhabited

namespace Dialer

/-- Milliseconds between a failure to reach the engine and the next try. -/
def redialPause : Nat := 1000

/-- A dialer that has not tried yet. -/
def start : Dialer :=
  { phase := .dialing 0, commands := [], isWanted := true }

/-- Keep commands for the engine. -/
def order (d : Dialer) (cs : List ViewerCommand) : Dialer :=
  if d.isWanted then { d with commands := d.commands ++ cs } else d

/-- Let time pass. -/
def elapse (d : Dialer) (milliseconds : Nat) : Dialer :=
  match d.phase with
  | .dialing pause => { d with phase := .dialing (pause - milliseconds) }
  | _ => d

/-- Whether it is time to dial. -/
def isDue (d : Dialer) : Bool :=
  d.phase = .dialing 0

/-- Whether there is a connection. -/
def isConnected (d : Dialer) : Bool :=
  match d.phase with
  | .connected _ => true
  | _ => false

/-- Take note that nobody answered. -/
def refused (d : Dialer) : Dialer :=
  { d with phase := .dialing redialPause }

/-- Take note that the engine answered. -/
def accepted (d : Dialer) : Dialer :=
  { d with phase := .connected [] }

/-- Write the commands, if there is somebody to write to. A viewer that is gone has nothing more to
say then. -/
def takeOutput (d : Dialer) : List ViewerCommand × Dialer :=
  if d.isConnected then
    (d.commands, { d with commands := [], phase := if d.isWanted then d.phase else .ended })
  else ([], d)

/-- Take note that the viewer is gone. -/
def hangUp (d : Dialer) : Dialer :=
  { d with isWanted := false }

/-- What the viewer gets to hear; one that is gone hears nothing. -/
def audible (d : Dialer) (heard : List Heard) : List Heard :=
  if d.isWanted then heard else []

/-- The messages in lines, up to the first line that is not UTF-8: whether there was none. -/
def readLines : List (List UInt8) → List Heard × Bool
  | [] => ([], true)
  | line :: lines =>
    match Text.lineText line with
    | .error _ => ([], false)
    | .ok text =>
      let (heard, good) := readLines lines
      ((ViewerMessage.parse? text).toList.map .message ++ heard, good)

/-- Give the engine up, and dial again at once if the viewer is still there. -/
def lose (d : Dialer) : Dialer :=
  { d with phase := if d.isWanted then .dialing 0 else .ended }

/-- Take in bytes from the engine. A line that is not UTF-8 counts as a loss. -/
def input (d : Dialer) (bs : List UInt8) : List Heard × Dialer :=
  match d.phase with
  | .connected partialLine =>
    let (lines, rest) := Text.cutLines (partialLine ++ bs)
    let (heard, good) := readLines lines
    if good then (d.audible heard, { d with phase := .connected rest })
    else (d.audible (heard ++ [.lost]), d.lose)
  | _ => ([], d)

/-- Take note that the engine has closed the connection. -/
def endOfInput (d : Dialer) : List Heard × Dialer :=
  match d.phase with
  | .connected partialLine =>
    let (heard, _) := readLines (if partialLine.isEmpty then [] else [partialLine])
    (d.audible (heard ++ [.lost]), d.lose)
  | _ => ([], d)

end Dialer

end ProofDesk
