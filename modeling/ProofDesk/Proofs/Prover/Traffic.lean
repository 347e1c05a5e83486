import Mathlib.Data.List.Basic
import Mathlib.Tactic.Common
import ProofDesk.Proofs.Prover.Chunks
import ProofDesk.Prover.Channel

/-!
# What passes over a channel

Three parties move a channel, each at its own pace: a writer hands the bytes of one call after the
other to the prover, a reader takes bytes from the prover and frames off them, and the session
sends, receives and closes. `Writes`, `Reads` and `Uses` say what each of them does in one step. A
step touches at most one thing that the others see, so a `Run` is any interleaving of the three, and
both streams may fail at any point of it. What the channel does in one go is made of these steps
(`steps_writeAll`, `steps_writeCut`, `steps_readAll`, `steps_receive`).
-/

namespace ProofDesk

open ProofDesk.Frame (Drained)

/-- What the writer of a channel is at. -/
inductive Writer where
  /-- It waits for a call. -/
  | idle
  /-- It has taken a call, and the prover has not taken these bytes of it. -/
  | busy (left : List UInt8)
  /-- The prover takes nothing any more. -/
  | failed
  /-- It has reported that. Calls can still be queued. -/
  | reported
  | stopped
  deriving Repr, DecidableEq

/-- The bytes that are left of the call that the writer is at, unless the prover takes nothing any
more. -/
def Writer.left? : Writer → Option (List UInt8)
  | idle => some []
  | busy left => some left
  | failed | reported | stopped => none

/-- A channel and its writer. The reader is told by the channel. -/
structure Traffic where
  channel : Channel
  writer : Writer

namespace Traffic

/-- A channel on which nothing has happened. -/
def opened : Traffic :=
  ⟨.opened, .idle⟩

/-- What the session or the prover sees of a channel. -/
inductive Event where
  /-- The session has sent a call, with this result. -/
  | sent (call : Call) (result : Except Fault Unit)
  /-- The session has received this. -/
  | received (result : Except Fault (Option Inbound))
  /-- The session has closed the channel. -/
  | closed
  /-- The prover has been given bytes. -/
  | wrote (bs : List UInt8)
  /-- Bytes have been taken from the prover. -/
  | read (bs : List UInt8)

namespace Event

/-- The call that was accepted, if one was. -/
def accepted? : Event → Option Call
  | sent call (.ok ()) => some call
  | _ => none

/-- The frame that was received, if one was. -/
def frame? : Event → Option Inbound
  | received (.ok frame?) => frame?
  | _ => none

/-- The bytes that the prover was given. -/
def given : Event → List UInt8
  | wrote bs => bs
  | _ => []

/-- The bytes that were taken from the prover, if any were. -/
def piece? : Event → Option (List UInt8)
  | read bs => some bs
  | _ => none

/-- Whether the channel is at its end for the session: it has received a fault, or has closed the
channel. -/
def Ends : Event → Prop
  | received (.error _) | closed => True
  | _ => False

/-- Nothing was sent or received, since the connection counts as lost. -/
def Refused : Event → Prop
  | sent _ result => result = .error .connectionLost
  | received result => result = .error .connectionLost
  | _ => True

end Event

/-- The calls that were accepted, in order. -/
def accepted (es : List Event) : List Call :=
  es.filterMap Event.accepted?

/-- The frames that were received, in order. -/
def frames (es : List Event) : List Inbound :=
  es.filterMap Event.frame?

/-- The bytes that the prover was given. -/
def written (es : List Event) : List UInt8 :=
  es.flatMap Event.given

/-- The bytes that were taken from the prover, piece by piece. -/
def pieces (es : List Event) : List (List UInt8) :=
  es.filterMap Event.piece?

/-- What the prover has written comes to, read piece by piece as it arrived. -/
def output (es : List Event) : Drained :=
  (pieces es).foldl Drained.feed .untouched

section Append

variable (es es' : List Event)

@[simp]
theorem accepted_append : accepted (es ++ es') = accepted es ++ accepted es' :=
  List.filterMap_append

@[simp]
theorem frames_append : frames (es ++ es') = frames es ++ frames es' :=
  List.filterMap_append

@[simp]
theorem written_append : written (es ++ es') = written es ++ written es' :=
  List.flatMap_append

@[simp]
theorem pieces_append : pieces (es ++ es') = pieces es ++ pieces es' :=
  List.filterMap_append

/-- What is made of the bytes goes on from where the first stretch of traffic left it. -/
theorem output_append : output (es ++ es') = (pieces es').foldl Drained.feed (output es) := by
  rw [output, pieces_append, List.foldl_append, output]

end Append

/-! ## Steps -/

/-- The reader has taken off all it can and waits for bytes. -/
def Waits (c : Channel) : Prop :=
  c.isReading = true ∧ Frame.pull c.buffer = ⟨.ok none, c.buffer⟩

/-- One step of the writer. -/
inductive Writes : Traffic → List Event → Traffic → Prop
  | take {c : Channel} {call : Call} {rest : List Call} (h : c.calls = call :: rest) :
      Writes ⟨c, .idle⟩ [] ⟨c.writeNext.2, .busy c.writeNext.1⟩
  /-- The prover may take any number of bytes at a time. -/
  | put (c : Channel) (bs left : List UInt8) :
    Writes ⟨c, .busy (bs ++ left)⟩ [.wrote bs] ⟨c, .busy left⟩
  | finish (c : Channel) : Writes ⟨c, .busy []⟩ [] ⟨c, .idle⟩
  | fail (c : Channel) (left : List UInt8) : Writes ⟨c, .busy left⟩ [] ⟨c, .failed⟩
  | report (c : Channel) : Writes ⟨c, .failed⟩ [] ⟨c.deliver [.error .connectionLost], .reported⟩
  /-- What waits to be written is given up. -/
  | stop (c : Channel) :
    Writes ⟨c, .reported⟩ [] ⟨{ c with calls := [], isWriting := false }, .stopped⟩

/-- One step of the reader. -/
inductive Reads : Traffic → List Event → Traffic → Prop
  | arrive {c : Channel} (w : Writer) (bs : List UInt8) (h : Waits c) :
    Reads ⟨c, w⟩ [.read bs] ⟨c.arrive bs, w⟩
  | next (c : Channel) (w : Writer) : Reads ⟨c, w⟩ [] ⟨c.readNext, w⟩
  /-- The stream has ended. -/
  | last {c : Channel} (w : Writer) (h : Waits c) : Reads ⟨c, w⟩ [] ⟨c.readLast, w⟩
  /-- The stream has failed. -/
  | cut {c : Channel} (w : Writer) (h : Waits c) : Reads ⟨c, w⟩ [] ⟨c.readCut, w⟩
  /-- What the reader is at when the channel is closed may still be delivered. -/
  | straggle {c : Channel} (w : Writer) (ds : List Delivery) (h : c.isClosed = true) :
      Reads ⟨c, w⟩ [] ⟨c.deliver ds, w⟩

/-- One step of the session. -/
inductive Uses : Traffic → List Event → Traffic → Prop
  | send (c : Channel) (w : Writer) (call : Call) :
      Uses ⟨c, w⟩ [.sent call (c.send call).1] ⟨(c.send call).2, w⟩
  | receive (c : Channel) (w : Writer) : Uses ⟨c, w⟩ [.received c.tryReceive.1] ⟨c.tryReceive.2, w⟩
  | close (c : Channel) (w : Writer) : Uses ⟨c, w⟩ [.closed] ⟨c.close, w⟩

/-- One step of one of the three. -/
inductive Step (t : Traffic) (es : List Event) (t' : Traffic) : Prop
  | writer (h : Writes t es t')
  | reader (h : Reads t es t')
  | session (h : Uses t es t')

/-- Steps one after the other, with all that is seen of them. -/
inductive Steps (step : Traffic → List Event → Traffic → Prop) :
    Traffic → List Event → Traffic → Prop
  | refl (t : Traffic) : Steps step t [] t
  | tail {t u v : Traffic} {es es' : List Event} (h : Steps step t es u) (hstep : step u es' v) :
      Steps step t (es ++ es') v

/-- What a channel has come to from its beginning, with all that was seen of it. -/
abbrev Run (es : List Event) (t : Traffic) : Prop :=
  Steps Step opened es t

section Steps

variable {step step' : Traffic → List Event → Traffic → Prop} {t u v : Traffic}
  {es es' : List Event}

/-- One step is a way. -/
theorem Steps.single (h : step t es u) : Steps step t es u :=
  .tail (.refl t) h

/-- Two ways, one behind the other, are one. -/
theorem Steps.trans (h : Steps step t es u) (h' : Steps step u es' v) :
    Steps step t (es ++ es') v := by
  induction h' with
  | refl => simpa using h
  | tail _ hstep ih =>
    rw [← List.append_assoc]
    exact ih.tail hstep

/-- A step and a way that goes on from it are a way. -/
theorem Steps.head (h : step t es u) (h' : Steps step u es' v) : Steps step t (es ++ es') v :=
  (Steps.single h).trans h'

/-- A way of steps of one kind is a way of steps of a wider kind. -/
theorem Steps.mono (hsub : ∀ {t es u}, step t es u → step' t es u) (h : Steps step t es u) :
    Steps step' t es u := by
  induction h with
  | refl => exact .refl _
  | tail _ hstep ih => exact ih.tail (hsub hstep)

end Steps

/-! ## What is done in one go -/

section Whole

variable {c : Channel} {call : Call} {rest : List Call}

/-- The next thing to be written is the call that has waited longest. -/
theorem writeNext_of_cons (h : c.calls = call :: rest) :
    c.writeNext = (call.bytes, { c with calls := rest }) := by
  simp [Channel.writeNext, h]

/-- A call is written in three steps, or in more if the prover takes it in parts. -/
theorem steps_writeNext (h : c.calls = call :: rest) :
    Steps Writes ⟨c, .idle⟩ [.wrote c.writeNext.1] ⟨c.writeNext.2, .idle⟩ := by
  have hput := Writes.put c.writeNext.2 c.writeNext.1 []
  rw [List.append_nil] at hput
  exact .head (.take h) (.head hput (.single (.finish _)))

/-- All calls that wait can be written, and the writer waits again. -/
theorem steps_writeAll (c : Channel) :
    ∃ es, Steps Writes ⟨c, .idle⟩ es ⟨c.writeAll.2, .idle⟩ ∧ written es = c.writeAll.1 := by
  -- the induction is on the calls that wait
  induction hcalls : c.calls generalizing c with
  | nil =>
    refine ⟨[], ?_, by simp [Channel.writeAll, hcalls, written]⟩
    have hsame : c.writeAll.2 = c := by rw [Channel.writeAll, ← hcalls]
    rw [hsame]
    exact .refl _
  | cons call rest ih =>
    obtain ⟨es, hsteps, hwritten⟩ := ih { c with calls := rest } rfl
    have hfirst := steps_writeNext hcalls
    rw [writeNext_of_cons hcalls] at hfirst
    refine ⟨[.wrote call.bytes] ++ es, hfirst.trans hsteps, ?_⟩
    rw [written_append, hwritten]
    simp [written, Event.given, Channel.writeAll, hcalls]

/-- A prover takes only the first bytes of a call. -/
theorem steps_writeCut (h : c.calls = call :: rest) (taken : Nat) :
    Steps Writes ⟨c, .idle⟩ [.wrote (c.writeCut taken).1] ⟨(c.writeCut taken).2, .stopped⟩ := by
  have htake := Writes.take h
  have hput := Writes.put { c with calls := rest } (call.bytes.take taken) (call.bytes.drop taken)
  rw [writeNext_of_cons h] at htake
  rw [List.take_append_drop] at hput
  have hsteps :=
    Steps.head htake (.head hput (.head (.fail _ _) (.head (.report _) (.single (.stop _)))))
  simpa [Channel.writeCut, h, Channel.deliver] using hsteps

/-- All frames that have arrived are read one by one. -/
theorem steps_readAll (c : Channel) (w : Writer) : Steps Reads ⟨c, w⟩ [] ⟨c.readAll, w⟩ := by
  have hnext := Reads.next c w
  unfold Channel.readNext at hnext
  unfold Channel.readAll
  split at hnext
  · next hreading =>
    rw [if_pos hreading, Frame.drain_eq]
    dsimp only at hnext ⊢
    split at hnext
    · next hpull =>
      simpa [hreading, hpull, Channel.drained, Channel.deliver] using Steps.single hnext
    · next frame hpull =>
      -- one frame less is left in the buffer
      have hless := Frame.length_rest_pull hpull
      have hmore :=
        steps_readAll (Channel.deliver { c with buffer := (Frame.pull c.buffer).rest } [.ok frame])
          w
      have hsteps := Steps.head hnext hmore
      simpa [Channel.readAll, hreading, hpull, Channel.drained, Channel.deliver,
        Drained.cons] using hsteps
    · next hpull => simpa [hpull, Channel.drained, Channel.deliver] using Steps.single hnext
  · next hstopped =>
    rw [if_neg hstopped]
    exact .refl _
termination_by c.buffer.length
decreasing_by exact hless

/-- The session receives all that has been read one by one. What is left behind a fault is never
received. -/
theorem steps_receive (c : Channel) (w : Writer) :
    ∃ es c', Steps Uses ⟨c, w⟩ es ⟨c', w⟩ ∧ frames es = c.receive.1.frames ∧
      { c' with deliveries := [] } = { c.receive.2 with deliveries := [] } := by
  cases hclosed : c.isClosed with
  | true =>
    exact ⟨[], c, .refl _, by simp [Channel.receive, hclosed, frames],
      by simp [Channel.receive, hclosed]⟩
  | false =>
    -- the induction is on what has been read
    induction hds : c.deliveries generalizing c with
    | nil =>
      exact ⟨[], c, .refl _,
        by simp [Channel.receive, hclosed, hds, Arrivals.ofDeliveries, Arrivals.none, frames],
        by simp [Channel.receive, hclosed, hds, Arrivals.ofDeliveries, Arrivals.none]⟩
    | cons d ds ih =>
      have hfirst := Uses.receive c w
      cases d with
      | ok frame =>
        have hnext : c.tryReceive = (.ok (some frame), { c with deliveries := ds }) := by
          simp [Channel.tryReceive, hclosed, hds]
        rw [hnext] at hfirst
        obtain ⟨es, c', hsteps, hframes, hsame⟩ := ih { c with deliveries := ds } hclosed rfl
        refine ⟨_, c', .head hfirst hsteps, ?_, ?_⟩
        · rw [frames_append, hframes]
          simp [frames, Event.frame?, Channel.receive, hclosed, hds, Arrivals.ofDeliveries]
        · rw [hsame]
          simp [Channel.receive, hclosed, hds, Arrivals.ofDeliveries]
      | error fault =>
        have hnext :
            c.tryReceive = (.error fault, { c with deliveries := ds, isClosed := true }) := by
          simp [Channel.tryReceive, hclosed, hds]
        rw [hnext] at hfirst
        refine ⟨_, _, .single hfirst, ?_, ?_⟩
        · simp [frames, Event.frame?, Channel.receive, hclosed, hds, Arrivals.ofDeliveries]
        · simp [Channel.receive, hclosed, hds, Arrivals.ofDeliveries]

end Whole

end Traffic

end ProofDesk
