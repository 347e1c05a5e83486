import ProofDesk.Text.Input
import ProofDesk.Viewer.Broadcast

/-!
# The engine's end of the viewer socket

A viewer that connects is greeted, told the latest message that was kept, and from then on told
everything that is sent. What it writes is read as one command per line; lines that are no commands
are passed over. A line that is not UTF-8 closes its connection.

Each time the engine begins to listen it opens an inbox, and the viewers that connect to that place
write their commands into it. Only the inbox that was opened last is ever read, and not even that
one once the engine ignores commands. The first command for an inbox that nobody reads closes the
connection.
-/

namespace ProofDesk

/-- A connection of a viewer, as the engine sees it. -/
structure Subscriber where
  /-- The inbox that its commands go to. -/
  inbox : Nat
  /-- The position of the next message for it. -/
  position : Nat
  /-- The bytes of a line that has not ended. -/
  partialLine : List UInt8
  isOpen : Bool
  deriving Repr, DecidableEq, Inhabited

/-- The engine's end of the socket. -/
structure Relay where
  broadcast : Broadcast
  /-- The connections, in the order in which they were made. -/
  subscribers : List Subscriber
  /-- Commands that nobody has taken yet. -/
  commands : List ViewerCommand
  /-- How many inboxes have been opened. -/
  inboxes : Nat
  /-- The inbox that is read. -/
  reading : Option Nat
  deriving Inhabited

namespace Relay

/-- A relay without viewers. -/
def start : Relay :=
  { broadcast := .empty, subscribers := [], commands := [], inboxes := 0, reading := none }

/-- Send a message to all viewers. -/
def send (r : Relay) (m : ViewerMessage) : Relay :=
  { r with broadcast := r.broadcast.send m }

/-- Take the commands since the last time. -/
def takeCommands (r : Relay) : List ViewerCommand × Relay :=
  (r.commands, { r with commands := [] })

/-- Open an inbox and read it instead of the one before. -/
def openInbox (r : Relay) : Relay :=
  { r with commands := [], inboxes := r.inboxes + 1, reading := some r.inboxes }

/-- Take no more commands. -/
def ignoreCommands (r : Relay) : Relay :=
  { r with commands := [], reading := none }

/-- Let a viewer connect that writes into an inbox: what it is told first. -/
def connect (r : Relay) (inbox : Nat) : List ViewerMessage × Relay :=
  (.connected :: r.broadcast.latest.toList,
    { r with subscribers := r.subscribers ++ [⟨inbox, r.broadcast.count, [], true⟩] })

/-- Change a connection. -/
def setSubscriber (r : Relay) (index : Nat) (subscriber : Subscriber) : Relay :=
  { r with subscribers := r.subscribers.set index subscriber }

/-- Whether a connection is open. -/
def isOpen (r : Relay) (index : Nat) : Bool :=
  r.subscribers[index]?.any (·.isOpen)

/-- What a viewer is to be told by now. -/
def deliver (r : Relay) (index : Nat) : List ViewerMessage × Relay :=
  match r.subscribers[index]? with
  | none => ([], r)
  | some subscriber =>
    if subscriber.isOpen then
      let (messages, position) := r.broadcast.readAll subscriber.position
      (messages, r.setSubscriber index { subscriber with position })
    else ([], r)

/-- Read a line from a viewer that writes into an inbox: whether its connection stays open. -/
def readLine (r : Relay) (inbox : Nat) (bs : List UInt8) : Bool × Relay :=
  match Text.lineText bs with
  | .error _ => (false, r)
  | .ok line =>
    match ViewerCommand.parse? line with
    | none => (true, r)
    | some c =>
      if r.reading = some inbox then (true, { r with commands := r.commands ++ [c] })
        else (false, r)

/-- Read lines from a viewer as long as its connection stays open. -/
def readLines (r : Relay) (inbox : Nat) : List (List UInt8) → Bool × Relay
  | [] => (true, r)
  | line :: lines =>
    match r.readLine inbox line with
    | (true, r) => r.readLines inbox lines
    | (false, r) => (false, r)

/-- Take in bytes from a viewer. -/
def input (r : Relay) (index : Nat) (bs : List UInt8) : Relay :=
  match r.subscribers[index]? with
  | none => r
  | some subscriber =>
    if subscriber.isOpen then
      let (lines, rest) := Text.cutLines (subscriber.partialLine ++ bs)
      let (isOpen, r) := r.readLines subscriber.inbox lines
      r.setSubscriber index { subscriber with partialLine := rest, isOpen }
    else r

/-- Take note that a viewer has hung up. -/
def hangUp (r : Relay) (index : Nat) : Relay :=
  match r.subscribers[index]? with
  | none => r
  | some subscriber =>
    -- a line that the connection ends with is a line, too
    let r :=
      if subscriber.isOpen && !subscriber.partialLine.isEmpty then
        (r.readLine subscriber.inbox subscriber.partialLine).2
      else r
    r.setSubscriber index { subscriber with partialLine := [], isOpen := false }

end Relay

end ProofDesk
