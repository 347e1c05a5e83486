import ProofDesk.Link
import ProofDesk.Prover.Encode
import ProofDesk.Prover.Frame

/-!
# Channels

A channel is a link to a prover over two byte streams. Neither direction waits for the other: calls
are queued until they can be written, and what is read is queued until the session receives it.
Whoever owns the streams moves the channel forward, with `writeNext` and `readNext` as the smallest
steps. Both directions report their faults in the queue of what was read.

The first fault that the session receives closes the channel for it, as does closing it itself:
nothing more can be sent or received. Calls that were handed over before are still written.
-/

namespace ProofDesk

/-- What the session receives one of: a frame, or why there are no more. -/
abbrev Delivery := Except Fault Inbound

/-- The frames in front of the first fault, and that fault. -/
def Arrivals.ofDeliveries : List Delivery → Arrivals
  | [] => .none
  | .ok frame :: later =>
    let more := ofDeliveries later
    ⟨frame :: more.frames, more.fault⟩
  | .error fault :: _ => ⟨[], some fault⟩

/-- A connection to a prover over two byte streams. -/
structure Channel where
  /-- Calls that wait to be written. -/
  calls : List Call
  /-- Whether the prover has taken every call so far. -/
  isWriting : Bool
  /-- Bytes that have arrived and have not been used. -/
  buffer : List UInt8
  /-- Whether arriving bytes are still read. -/
  isReading : Bool
  /-- What has been read and the session has not received. -/
  deliveries : List Delivery
  /-- Whether the session has closed the channel or received a fault. -/
  isClosed : Bool

namespace Channel

/-- A channel on which nothing has happened. -/
def opened : Channel :=
  { calls := [], isWriting := true, buffer := [], isReading := true, deliveries := [],
    isClosed := false }

/-- Queue something for the session. -/
def deliver (c : Channel) (ds : List Delivery) : Channel :=
  { c with deliveries := c.deliveries ++ ds }

/-! ## Writing -/

/-- Write the call that waits longest: the bytes, and the channel after the prover has taken
them. -/
def writeNext (c : Channel) : List UInt8 × Channel :=
  match c.calls with
  | [] => ([], c)
  | call :: rest => (call.bytes, { c with calls := rest })

/-- Write all calls that wait. -/
def writeAll (c : Channel) : List UInt8 × Channel :=
  (c.calls.flatMap Call.bytes, { c with calls := [] })

/-- Write the call that waits longest to a prover that takes only the first `taken` bytes of it and
then nothing more. -/
def writeCut (c : Channel) (taken : Nat) : List UInt8 × Channel :=
  match c.calls with
  | [] => ([], c)
  | call :: _ =>
    (call.bytes.take taken,
      { c with calls := [], isWriting := false }.deliver [.error .connectionLost])

/-! ## Reading -/

/-- Take note of bytes that have arrived. -/
def arrive (c : Channel) (bs : List UInt8) : Channel :=
  { c with buffer := c.buffer ++ bs }

/-- Read the next frame, if the bytes that have arrived hold one. -/
def readNext (c : Channel) : Channel :=
  if c.isReading then
    let pull := Frame.pull c.buffer
    let c := { c with buffer := pull.rest }
    match pull.outcome with
    | .ok none => c
    | .ok (some frame) => c.deliver [.ok frame]
    | .error fault => { c with isReading := false }.deliver [.error fault]
  else c

/-- What a drained buffer delivers. -/
def drained (d : Frame.Drained) : List Delivery :=
  d.frames.map .ok ++ d.fault.toList.map .error

/-- Read all frames that the bytes that have arrived hold. -/
def readAll (c : Channel) : Channel :=
  if c.isReading then
    let d := Frame.drain c.buffer
    { c with buffer := d.rest, isReading := d.fault.isNone }.deliver (drained d)
  else c

/-- Read to the end of what the prover writes. The connection is lost then, even if it ended between
frames. -/
def readLast (c : Channel) : Channel :=
  if c.isReading then
    let d := Frame.drainLast c.buffer
    let d := { d with fault := some (d.fault.getD .connectionLost) }
    { c with buffer := d.rest, isReading := false }.deliver (drained d)
  else c

/-- Give up reading because the stream has failed. -/
def readCut (c : Channel) : Channel :=
  if c.isReading then { c with isReading := false }.deliver [.error .connectionLost] else c

/-! ## The session's side -/

/-- Queue a call. -/
def send (call : Call) (c : Channel) : Except Fault Unit × Channel :=
  if c.isClosed || !c.isWriting then (.error .connectionLost, c)
  else (.ok (), { c with calls := c.calls ++ [call] })

/-- Receive one frame, if there is one. -/
def tryReceive (c : Channel) : Except Fault (Option Inbound) × Channel :=
  if c.isClosed then (.error .connectionLost, c)
  else match c.deliveries with
    | [] => (.ok none, c)
    | .ok frame :: later => (.ok (some frame), { c with deliveries := later })
    | .error fault :: later => (.error fault, { c with deliveries := later, isClosed := true })

/-- Receive everything that has been read. -/
def receive (c : Channel) : Arrivals × Channel :=
  if c.isClosed then (⟨[], some .connectionLost⟩, c)
  else
    let arrivals := Arrivals.ofDeliveries c.deliveries
    (arrivals, { c with deliveries := [], isClosed := arrivals.fault.isSome })

/-- Stop reading and take no more calls. -/
def close (c : Channel) : Channel :=
  { c with isReading := false, isClosed := true }

instance : Link Channel where
  send := send
  receive := receive
  close := close

end Channel

end ProofDesk
