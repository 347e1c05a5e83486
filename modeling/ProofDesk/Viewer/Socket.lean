import ProofDesk.Viewer.Dialer
import ProofDesk.Viewer.Relay

/-!
# The viewer socket

The place where viewers and the engine meet. Whoever dials it reaches what answers at the time, and
a connection is a pair of byte streams that keeps what has been written and not been read. The ends
are a dialer on the viewer's side and a subscriber of the relay on the engine's side, or programs of
which nothing is known.

`settle` moves bytes until nothing is left to move, so it shows what everybody has heard once all is
quiet.
-/

namespace ProofDesk

/-- Two byte streams between a viewer's side and the engine's side. -/
structure Connection where
  /-- The dialer on the viewer's side; a program of its own if there is none. -/
  dialer : Option Nat
  /-- The subscriber of the relay on the engine's side; a program of its own if there is none. -/
  subscriber : Option Nat
  /-- What the viewer's side has written and the other has not read. -/
  up : List UInt8
  /-- Whether the viewer's side has closed the connection. -/
  upEnded : Bool
  /-- What the engine's side has written and the other has not read. -/
  down : List UInt8
  /-- Whether the engine's side has closed the connection. -/
  downEnded : Bool
  deriving Repr, DecidableEq, Inhabited

/-- A connection on which nothing was written. -/
def Connection.opened (dialer subscriber : Option Nat) : Connection :=
  ⟨dialer, subscriber, [], false, [], false⟩

/-- What answers at the path of the socket. -/
inductive Answerer where
  | nobody
  /-- The engine; commands go to this inbox. -/
  | relay (inbox : Nat)
  /-- A program that is not the engine. -/
  | stranger
  deriving Repr, DecidableEq, Inhabited

/-- A dialer with what its viewer has not taken yet. -/
structure Listener where
  dialer : Dialer
  heard : List Heard
  deriving Repr, DecidableEq, Inhabited

/-- The socket with everybody who uses it. -/
structure Socket where
  relay : Relay
  answerer : Answerer
  listeners : List Listener
  connections : List Connection
  deriving Inhabited

namespace Socket

/-- Nobody has used the socket. -/
def unused : Socket :=
  { relay := .start, answerer := .nobody, listeners := [], connections := [] }

/-- The bytes of lines. -/
def lines {α : Type} (render : α → String) (values : List α) : List UInt8 :=
  values.flatMap fun a => Text.bytes (render a ++ "\n")

/-- Change a dialer. -/
def onDialer (s : Socket) (index : Nat) (f : Dialer → Dialer) : Socket :=
  { s with listeners := s.listeners.modify index fun l => { l with dialer := f l.dialer } }

/-- Add a viewer. -/
def addViewer (s : Socket) : Socket :=
  { s with listeners := s.listeners ++ [⟨.start, []⟩] }

/-- Let the engine listen. -/
def listen (s : Socket) : Socket :=
  { s with relay := s.relay.openInbox, answerer := .relay s.relay.inboxes }

/-- Let the engine try to listen where it cannot. Whoever answered before still does, but commands
are awaited in an inbox that nobody writes into. -/
def listenInVain (s : Socket) : Socket :=
  { s with relay := s.relay.openInbox }

/-- Connect to what answers, if anything does. -/
def connect (s : Socket) (dialer : Option Nat) : Option Socket :=
  match s.answerer with
  | .nobody => none
  | .relay inbox =>
    let (greeting, relay) := s.relay.connect inbox
    let c := Connection.opened dialer (some s.relay.subscribers.length)
    some { s with
      relay
      connections := s.connections ++ [{ c with down := lines ViewerMessage.render greeting }] }
  | .stranger => some { s with connections := s.connections ++ [.opened dialer none] }

/-- Let a dialer dial if it is time. -/
def dial (s : Socket) (index : Nat) : Socket :=
  if s.listeners[index]?.any (·.dialer.isDue) then
    match s.connect (some index) with
    | some s => s.onDialer index .accepted
    | none => s.onDialer index .refused
  else s

/-- What the relay does about a connection: it reads what was written and writes what is due. -/
def serve (r : Relay) (c : Connection) : Connection × Relay :=
  match c.subscriber with
  | none => (c, r)
  | some subscriber =>
    if c.downEnded then (c, r)
    else
      -- what was written last still counts when the viewer's side has closed the connection
      let r := r.input subscriber c.up
      let (messages, r) := (if c.upEnded then r.hangUp subscriber else r).deliver subscriber
      ({ c with
        up := []
        down := c.down ++ lines ViewerMessage.render messages
        downEnded := !r.isOpen subscriber }, r)

/-- What a viewer does about its connection: it reads what was written and writes its commands. -/
def view (l : Listener) (c : Connection) : Connection × Listener :=
  if c.upEnded then (c, l)
  else
    let (heard, d) := l.dialer.input c.down
    let (more, d) := if c.downEnded then d.endOfInput else ([], d)
    let (commands, d) := d.takeOutput
    ({ c with
      down := []
      up := c.up ++ lines ViewerCommand.render commands
      upEnded := !d.isConnected }, ⟨d, l.heard ++ heard ++ more⟩)

/-- Move what is to be moved over a connection. -/
def move (s : Socket) (index : Nat) : Socket :=
  match s.connections[index]? with
  | none => s
  | some c =>
    let (c, relay) := serve s.relay c
    let s := { s with relay, connections := s.connections.set index c }
    match c.dialer with
    | none => s
    | some i =>
      match s.listeners[i]? with
      | none => s
      | some l =>
        let (c, l) := view l c
        { s with listeners := s.listeners.set i l, connections := s.connections.set index c }

/-- Let all dialers dial that are due, and move what is to be moved over all connections. -/
def round (s : Socket) : Socket :=
  let s := (List.range s.listeners.length).foldl dial s
  (List.range s.connections.length).foldl move s

/-- Let everything run until it is quiet. Four rounds suffice: a command may close a connection, its
viewer dials again, and is greeted. -/
def settle (s : Socket) : Socket :=
  s.round.round.round.round

/-- Let time pass, then let everything run. -/
def elapse (milliseconds : Nat) (s : Socket) : Socket :=
  settle { s with
    listeners := s.listeners.map fun l => { l with dialer := l.dialer.elapse milliseconds } }

/-- Take what all viewers have heard since the last time. -/
def takeHeard (s : Socket) : List (List Heard) × Socket :=
  (s.listeners.map (·.heard),
    { s with listeners := s.listeners.map fun l => { l with heard := [] } })

end Socket

end ProofDesk
