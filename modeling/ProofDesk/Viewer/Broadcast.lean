import ProofDesk.Viewer.Message

/-!
# Broadcasts

The engine sends every message to all viewers. Only the most recent messages are kept: a reader is a
position in the sequence of all messages, and one that is too far behind goes on at the oldest
message that is kept. The latest message that is no error is kept for viewers that come later.
-/

namespace ProofDesk

/-- What the engine has sent to viewers, as far as it is kept. -/
structure Broadcast where
  /-- How many messages have been sent. -/
  count : Nat
  /-- The most recent of them, the oldest first. -/
  recent : List ViewerMessage
  /-- The latest message that is no error. -/
  latest : Option ViewerMessage
  deriving Repr, DecidableEq, Inhabited

namespace Broadcast

/-- How many messages are kept. -/
def capacity : Nat := 16

/-- Nothing has been sent. -/
def empty : Broadcast :=
  ⟨0, [], none⟩

/-- Keep a message for viewers that come later, unless it is an error. -/
def store (b : Broadcast) (m : ViewerMessage) : Broadcast :=
  if m.isError then b else { b with latest := some m }

/-- Make a message available to the readers. -/
def push (b : Broadcast) (m : ViewerMessage) : Broadcast :=
  { b with count := b.count + 1, recent := (b.recent ++ [m]).drop (b.recent.length + 1 - capacity) }

/-- Send a message: it is kept first and made available then. -/
def send (b : Broadcast) (m : ViewerMessage) : Broadcast :=
  (b.store m).push m

/-- The position of the oldest message that is kept. -/
def oldest (b : Broadcast) : Nat :=
  b.count - b.recent.length

/-- Read the next message from a position on, if there is one. -/
def read (b : Broadcast) (position : Nat) : Option ViewerMessage × Nat :=
  let here := max position b.oldest
  match b.recent[here - b.oldest]? with
  | some m => (some m, here + 1)
  | none => (none, here)

/-- Read all messages from a position on. -/
def readAll (b : Broadcast) (position : Nat) : List ViewerMessage × Nat :=
  (b.recent.drop (position - b.oldest), max position b.count)

end Broadcast

end ProofDesk
