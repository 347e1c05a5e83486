import ProofDesk.Proofs.Prover.Traffic

/-!
# Order and finality on a channel

Whatever the writer, the reader and the session of a channel do, and at whatever point the streams
fail (`Traffic.Run.delivers_in_order`): the frames that the session receives are the first of those
that the prover has written; after the first fault, or after closing, nothing is sent or received
any more; and the prover is given the calls that were accepted, those that wait when the channel is
closed among them, until it ceases to take bytes.
-/

namespace ProofDesk

open ProofDesk.Frame (Drained)

namespace Traffic

/-! ## What the session receives -/

/-- The frames among what has been read. -/
def readFrames (c : Channel) : List Inbound :=
  c.deliveries.filterMap Except.toOption

/-- What was received, what has been read and what the buffer holds is the output of the prover so
far. -/
structure Delivers (es : List Event) (c : Channel) : Prop where
  received : frames es <+: (output es).frames
  queued : c.isClosed = false → frames es ++ readFrames c <+: (output es).frames
  reading : c.isClosed = false → c.isReading = true →
    Drained.andThen ⟨frames es ++ readFrames c, none, c.buffer⟩ Frame.drain = output es
  /-- A reader that has stopped has left a fault behind what it has read, so the session never finds
  nothing there. -/
  stopped : c.isClosed = false → c.isReading = false → ∃ fault, .error fault ∈ c.deliveries

/-- The reader has used up the bytes that it waits behind. -/
theorem Waits.drain_eq {c : Channel} (h : Waits c) :
    Frame.drain c.buffer = ⟨[], none, c.buffer⟩ := by
  rw [Frame.drain_eq, h.2]

/-- What is left behind the elements that are passed over holds no frame. -/
private theorem pull_rest {buffer : List UInt8} (h : (Frame.pull buffer).outcome = .ok none) :
    Frame.pull (Frame.pull buffer).rest = ⟨.ok none, (Frame.pull buffer).rest⟩ := by
  fun_induction Frame.pull buffer with
  | case1 | case3 | case4 => simp at h
  | case2 buffer hread => rw [Frame.pull_eq, hread]
  | case5 _ _ _ _ _ ih => exact ih h

/-- Frames that have been taken off stay, whatever arrives. -/
theorem prefix_feed (d : Drained) (piece : List UInt8) : d.frames <+: (d.feed piece).frames := by
  unfold Drained.feed Drained.andThen
  split
  · exact List.prefix_rfl
  · exact List.prefix_append _ _

/-- A new channel has delivered what has arrived on it, which is nothing. -/
theorem delivers_opened : Delivers [] .opened where
  received := List.prefix_rfl
  queued _ := List.prefix_rfl
  reading _ _ := by
    simp [Drained.andThen, frames, readFrames, Channel.opened, Frame.drain_nil, Drained.untouched,
      output, pieces]
  stopped _ h := by simp [Channel.opened] at h

section Delivers

variable {es es' : List Event} {c c' : Channel} {t t' : Traffic}

/-- Nothing changes for the session and the reader. -/
theorem Delivers.of_eq (hd : Delivers es c) (hframes : frames es' = []) (hpieces : pieces es' = [])
    (hread : readFrames c' = readFrames c)
    (hfaults : ∀ fault, .error fault ∈ c.deliveries → .error fault ∈ c'.deliveries)
    (hbuffer : c'.buffer = c.buffer) (hreading : c'.isReading = c.isReading)
    (hclosed : c'.isClosed = c.isClosed) :
    Delivers (es ++ es') c' := by
  -- the pieces that arrived are the same, and so is what is read off them
  have houtput : output (es ++ es') = output es := by rw [output_append, hpieces, List.foldl_nil]
  have hsame : frames (es ++ es') = frames es := by rw [frames_append, hframes, List.append_nil]
  refine ⟨?_, ?_, ?_, ?_⟩
  · rw [hsame, houtput]
    exact hd.received
  · rw [hsame, houtput, hread, hclosed]
    exact hd.queued
  · rw [hsame, houtput, hread, hclosed, hreading, hbuffer]
    exact hd.reading
  · rw [hclosed, hreading]
    intro hopen hstopped
    obtain ⟨fault, hfault⟩ := hd.stopped hopen hstopped
    exact ⟨fault, hfaults fault hfault⟩

/-- The session has closed the channel, or has received a fault. -/
theorem Delivers.of_closed (hd : Delivers es c) (hframes : frames es' = [])
    (hpieces : pieces es' = []) (hclosed : c'.isClosed = true) : Delivers (es ++ es') c' := by
  refine ⟨?_, by simp [hclosed], by simp [hclosed], by simp [hclosed]⟩
  rw [frames_append, hframes, List.append_nil, output_append, hpieces, List.foldl_nil]
  exact hd.received

/-- The reader stops and says why. -/
theorem Delivers.of_stopped (hd : Delivers es c) {fault : Fault} (hstopped : c'.isReading = false)
    (hdeliveries : c'.deliveries = c.deliveries ++ [.error fault])
    (hclosed : c'.isClosed = c.isClosed) :
    Delivers es c' := by
  have hread : readFrames c' = readFrames c := by
    simp [readFrames, hdeliveries, Except.toOption]
  refine ⟨hd.received, ?_, by simp [hstopped], fun _ _ => ⟨fault, by simp [hdeliveries]⟩⟩
  rw [hread, hclosed]
  exact hd.queued

/-- Writing changes nothing about what has been delivered. -/
theorem Delivers.writes (hd : Delivers es t.channel) (h : Writes t es' t') :
    Delivers (es ++ es') t'.channel := by
  cases h with
  | take h =>
    rw [writeNext_of_cons h]
    exact hd.of_eq rfl rfl rfl (fun _ => id) rfl rfl rfl
  | put | finish | fail | stop => exact hd.of_eq rfl rfl rfl (fun _ => id) rfl rfl rfl
  | report c =>
    refine hd.of_eq rfl rfl ?_ ?_ rfl rfl rfl
    · simp [readFrames, Channel.deliver, Except.toOption]
    · intro fault hfault
      exact List.mem_append_left _ hfault

/-- A frame that the reader takes off the buffer has been read and is no longer in the buffer. -/
theorem Delivers.readNext (hd : Delivers es c) (hopen : c.isClosed = false) :
    Delivers es c.readNext := by
  unfold Channel.readNext
  split
  · next hreading =>
    have hrest := hd.reading hopen hreading
    rw [Drained.andThen, Frame.drain_eq] at hrest
    dsimp only at hrest ⊢
    split
    · next hpull =>
      -- only elements that are passed over
      rw [hpull] at hrest
      refine ⟨hd.received, hd.queued, fun _ _ => ?_, by simp [hreading]⟩
      rw [Drained.andThen, Frame.drain_eq (Frame.pull c.buffer).rest, pull_rest hpull]
      exact hrest
    · next frame hpull =>
      rw [hpull] at hrest
      have hread :
          readFrames (Channel.deliver { c with buffer := (Frame.pull c.buffer).rest } [.ok frame]) =
          readFrames c ++ [frame] := by
        simp [readFrames, Channel.deliver, Except.toOption]
      refine ⟨hd.received, fun _ => ?_, fun _ _ => ?_, by simp [Channel.deliver, hreading]⟩
      · rw [hread, ← hrest]
        exact ⟨(Frame.drain (Frame.pull c.buffer).rest).frames, by simp [Drained.cons]⟩
      · rw [hread, ← hrest]
        simp [Drained.andThen, Channel.deliver, Drained.cons]
    · exact hd.of_stopped rfl rfl rfl
  · exact hd

/-- Bytes arrive when all that had arrived is used up. -/
theorem Delivers.arrive (hd : Delivers es c) (hwaits : Waits c) (bs : List UInt8) :
    Delivers (es ++ [.read bs]) (c.arrive bs) := by
  have hframes : frames (es ++ [.read bs]) = frames es := by simp [frames, Event.frame?]
  have houtput : output (es ++ [.read bs]) = (output es).feed bs := by
    rw [output_append]
    rfl
  have hmore : (output es).frames <+: (output (es ++ [.read bs])).frames :=
    houtput ▸ prefix_feed _ _
  refine ⟨?_, fun hopen => ?_, fun hopen hreading => ?_, fun _ hstopped => ?_⟩
  · rw [hframes]
    exact hd.received.trans hmore
  · rw [hframes]
    exact (hd.queued hopen).trans hmore
  · -- what was output so far leaves the buffer to be read
    have hrest := hd.reading hopen hwaits.1
    rw [Drained.andThen, hwaits.drain_eq, List.append_nil] at hrest
    rw [hframes, houtput, ← hrest]
    rfl
  · simp [Channel.arrive, hwaits.1] at hstopped

/-- The stream ends with nothing in the buffer but what cannot be a frame any more. -/
theorem Delivers.readLast (hd : Delivers es c) (hwaits : Waits c) : Delivers es c.readLast := by
  obtain ⟨fault, hlast⟩ : ∃ fault, Frame.drainLast c.buffer = ⟨[], fault, c.buffer⟩ := by
    unfold Frame.drainLast
    rw [hwaits.drain_eq]
    dsimp only
    split
    · exact ⟨_, rfl⟩
    · exact ⟨_, rfl⟩
  unfold Channel.readLast
  rw [if_pos hwaits.1, hlast]
  exact hd.of_stopped rfl rfl rfl

/-- Reading does not close a channel. -/
theorem isClosed_readNext (c : Channel) : c.readNext.isClosed = c.isClosed := by
  unfold Channel.readNext
  split
  · dsimp only
    split <;> rfl
  · rfl

/-- What is read next is delivered behind all that was delivered before. -/
theorem Delivers.reads (hd : Delivers es t.channel) (h : Reads t es' t') :
    Delivers (es ++ es') t'.channel := by
  cases h with
  | arrive w bs h => exact hd.arrive h bs
  | next c w =>
    cases hclosed : c.isClosed with
    | false =>
      rw [List.append_nil]
      exact hd.readNext hclosed
    | true => exact hd.of_closed rfl rfl ((isClosed_readNext c).trans hclosed)
  | last w h =>
    rw [List.append_nil]
    exact hd.readLast h
  | cut w h =>
    rw [List.append_nil, Channel.readCut, if_pos h.1]
    exact hd.of_stopped rfl rfl rfl
  | straggle w ds h => exact hd.of_closed rfl rfl h

/-- The session receives the frame that was read first. -/
theorem Delivers.tryReceive (hd : Delivers es c) :
    Delivers (es ++ [.received c.tryReceive.1]) c.tryReceive.2 := by
  unfold Channel.tryReceive
  split
  · next hclosed => exact hd.of_closed rfl rfl hclosed
  · next hopen =>
    split
    · exact hd.of_eq rfl rfl rfl (fun _ => id) rfl rfl rfl
    · next frame later hds =>
      -- the frame goes from those that are queued to those that are received
      have hread : readFrames c = frame :: readFrames { c with deliveries := later } := by
        simp [readFrames, hds, Except.toOption]
      have hframes : frames (es ++ [.received (.ok (some frame))]) = frames es ++ [frame] := by
        simp [frames, Event.frame?]
      have houtput : output (es ++ [.received (.ok (some frame))]) = output es := by
        rw [output_append]
        rfl
      have hqueued := hd.queued (by simpa using hopen)
      rw [hread, List.append_cons] at hqueued
      refine ⟨?_, fun _ => ?_, fun hclosed hreading => ?_, fun hclosed hstopped => ?_⟩
      · rw [hframes, houtput]
        exact (List.prefix_append _ _).trans hqueued
      · rw [hframes, houtput]
        exact hqueued
      · rw [hframes, houtput, ← hd.reading hclosed hreading, hread, List.append_assoc]
        rfl
      · obtain ⟨fault, hfault⟩ := hd.stopped hclosed hstopped
        rw [hds, List.mem_cons] at hfault
        exact ⟨fault, hfault.resolve_left (by simp)⟩
    · exact hd.of_closed rfl rfl rfl

/-- What the session does with a channel takes what was delivered, in order. -/
theorem Delivers.uses (hd : Delivers es t.channel) (h : Uses t es' t') :
    Delivers (es ++ es') t'.channel := by
  cases h with
  | send c w call =>
    unfold Channel.send
    split
    · exact hd.of_eq rfl rfl rfl (fun _ => id) rfl rfl rfl
    · exact hd.of_eq rfl rfl rfl (fun _ => id) rfl rfl rfl
  | receive c w => exact hd.tryReceive
  | close c w => exact hd.of_closed rfl rfl rfl

/-- A channel delivers what arrives on it, in order, on every run. -/
theorem Run.delivers (h : Run es t) : Delivers es t.channel := by
  induction h with
  | refl => exact delivers_opened
  | tail _ hstep ih =>
    cases hstep with
    | writer h => exact ih.writes h
    | reader h => exact ih.reads h
    | session h => exact ih.uses h

end Delivers

/-! ## What the prover is given -/

/-- The prover has been given the first bytes of the calls that were accepted. As long as it takes
any, the others are those that are left of the call that the writer is at, and those of the calls
that wait. -/
structure Owes (es : List Event) (t : Traffic) : Prop where
  written : written es <+: (accepted es).flatMap Call.bytes
  owed : ∀ left, t.writer.left? = some left →
    Traffic.written es ++ (left ++ t.channel.calls.flatMap Call.bytes) =
      (accepted es).flatMap Call.bytes

section Owes

variable {es es' : List Event} {t t' : Traffic}

/-- A new channel owes nothing. -/
theorem owes_opened : Owes [] opened where
  written := List.prefix_rfl
  owed left h := by
    obtain rfl := Option.some.inj h
    rfl

/-- The prover is given some of the bytes that it is to be given. -/
theorem Owes.of_left (ho : Owes es t) {left : List UInt8} (hleft : t.writer.left? = some left)
    (haccepted : accepted es' = [])
    (hwritten : Traffic.written es' <+: left ++ t.channel.calls.flatMap Call.bytes)
    (howed : ∀ left', t'.writer.left? = some left' →
      Traffic.written es' ++ (left' ++ t'.channel.calls.flatMap Call.bytes) =
        left ++ t.channel.calls.flatMap Call.bytes) : Owes (es ++ es') t' := by
  have hall := ho.owed left hleft
  refine ⟨?_, fun left' hleft' => ?_⟩
  · rw [written_append, accepted_append, haccepted, List.append_nil, ← hall]
    exact (List.prefix_append_right_inj _).2 hwritten
  · rw [written_append, accepted_append, haccepted, List.append_nil, ← hall, List.append_assoc,
      howed left' hleft']

/-- The prover takes nothing any more. -/
private theorem Owes.of_none (ho : Owes es t) (hleft : t'.writer.left? = none)
    (hwritten : Traffic.written es' = []) :
    Owes (es ++ es') t' := by
  refine ⟨?_, fun left h => by simp [hleft] at h⟩
  rw [written_append, hwritten, List.append_nil, accepted_append, List.flatMap_append]
  exact ho.written.trans (List.prefix_append _ _)

/-- Nothing is written and nothing new is accepted. -/
theorem Owes.of_eq (ho : Owes es t) (haccepted : accepted es' = [])
    (hwritten : Traffic.written es' = []) (hwriter : t'.writer = t.writer)
    (hcalls : t'.channel.calls = t.channel.calls) :
    Owes (es ++ es') t' := by
  refine ⟨?_, fun left h => ?_⟩
  · rw [written_append, hwritten, List.append_nil, accepted_append, haccepted, List.append_nil]
    exact ho.written
  · rw [written_append, hwritten, List.append_nil, accepted_append, haccepted,
      List.append_nil, hcalls]
    exact ho.owed left (hwriter ▸ h)

/-- What is written is what was owed first. -/
theorem Owes.writes (ho : Owes es t) (h : Writes t es' t') : Owes (es ++ es') t' := by
  cases h with
  | take h =>
    -- the call that is taken up is owed byte by byte from now on
    rw [writeNext_of_cons h]
    refine ho.of_left rfl rfl (List.nil_prefix) fun left' hleft' => ?_
    obtain rfl := Option.some.inj hleft'
    simp [h, Traffic.written]
  | put c bs left =>
    -- what is put is taken off what is left
    have hgiven : Traffic.written [.wrote bs] = bs := by simp [Traffic.written, Event.given]
    refine ho.of_left rfl rfl ?_ fun left' hleft' => ?_
    · rw [hgiven, List.append_assoc]
      exact List.prefix_append _ _
    · obtain rfl := Option.some.inj hleft'
      rw [hgiven, List.append_assoc]
  | finish c =>
    refine ho.of_left rfl rfl (List.nil_prefix) fun left' hleft' => ?_
    obtain rfl := Option.some.inj hleft'
    rfl
  | fail | report | stop => exact ho.of_none rfl rfl

/-- Reading does not touch the calls that wait to be written. -/
private theorem calls_readNext (c : Channel) : c.readNext.calls = c.calls := by
  unfold Channel.readNext
  split
  · dsimp only
    split <;> rfl
  · rfl

/-- Reading changes nothing about what is owed. -/
theorem Owes.reads (ho : Owes es t) (h : Reads t es' t') : Owes (es ++ es') t' := by
  cases h with
  | arrive w bs h => exact ho.of_eq rfl rfl rfl rfl
  | next c w => exact ho.of_eq rfl rfl rfl (calls_readNext c)
  | last w h =>
    refine ho.of_eq rfl rfl rfl ?_
    unfold Channel.readLast
    split <;> rfl
  | cut w h =>
    refine ho.of_eq rfl rfl rfl ?_
    unfold Channel.readCut
    split <;> rfl
  | straggle w ds h => exact ho.of_eq rfl rfl rfl rfl

/-- What the session sends is owed behind all that was owed before. -/
theorem Owes.uses (ho : Owes es t) (h : Uses t es' t') : Owes (es ++ es') t' := by
  cases h with
  | send c w call =>
    unfold Channel.send
    split
    · exact ho.of_eq rfl rfl rfl rfl
    · -- what is accepted is owed from now on
      have haccepted : accepted (es ++ [.sent call (.ok ())]) = accepted es ++ [call] := by
        simp [accepted, Event.accepted?]
      -- a call that is only sent has not been written yet
      have hwritten : Traffic.written (es ++ [.sent call (.ok ())]) = Traffic.written es := by
        simp [Traffic.written, Event.given]
      refine ⟨?_, fun left hleft => ?_⟩
      · rw [haccepted, hwritten, List.flatMap_append]
        exact ho.written.trans (List.prefix_append _ _)
      · rw [haccepted, hwritten, List.flatMap_append, List.flatMap_append, ← ho.owed left hleft]
        simp only [List.append_assoc]
  | receive c w =>
    refine ho.of_eq rfl rfl rfl ?_
    unfold Channel.tryReceive
    split
    · rfl
    · split <;> rfl
  | close c w => exact ho.of_eq rfl rfl rfl rfl

/-- What was sent has been written or is still owed, in order, on every run. -/
theorem Run.owes (h : Run es t) : Owes es t := by
  induction h with
  | refl => exact owes_opened
  | tail _ hstep ih =>
    cases hstep with
    | writer h => exact ih.writes h
    | reader h => exact ih.reads h
    | session h => exact ih.uses h

/-- A writer whose prover takes bytes can give it all that it is to be given, also when the channel
has been closed. -/
private theorem exists_writes (t : Traffic) {left : List UInt8} (h : t.writer.left? = some left) :
    ∃ es t', Steps Writes t es t' ∧
      Traffic.written es = left ++ t.channel.calls.flatMap Call.bytes := by
  obtain ⟨c, writer⟩ := t
  obtain ⟨es, hsteps, hwritten⟩ := steps_writeAll c
  cases writer with
  | idle =>
    obtain rfl := Option.some.inj h
    exact ⟨es, _, hsteps, hwritten⟩
  | busy bs =>
    obtain rfl := Option.some.inj h
    -- the rest of the call that is being written goes first
    have hput := Writes.put c bs []
    rw [List.append_nil] at hput
    refine ⟨_, _, .head hput (.head (.finish c) hsteps), ?_⟩
    rw [written_append, written_append, hwritten]
    simp [Traffic.written, Event.given, Channel.writeAll]
  | failed | reported | stopped => simp [Writer.left?] at h

end Owes

/-! ## The end -/

section Ended

variable {es es' : List Event} {t t' : Traffic}

/-- What has come to an end stays there, and refuses what is sent or received. -/
theorem refused_of_closed (h : Step t es t') (hclosed : t.channel.isClosed = true) :
    t'.channel.isClosed = true ∧ ∀ e ∈ es, e.Refused := by
  cases h with
  | writer h =>
    cases h with
    | take h =>
      rw [writeNext_of_cons h]
      exact ⟨hclosed, by simp⟩
    | put => exact ⟨hclosed, by simp [Event.Refused]⟩
    | finish | fail | report | stop => exact ⟨hclosed, by simp⟩
  | reader h =>
    cases h with
    | arrive => exact ⟨hclosed, by simp [Event.Refused]⟩
    | next c w => exact ⟨(isClosed_readNext c).trans hclosed, by simp⟩
    | last w h =>
      rw [Channel.readLast, if_pos h.1]
      exact ⟨hclosed, by simp⟩
    | cut w h =>
      rw [Channel.readCut, if_pos h.1]
      exact ⟨hclosed, by simp⟩
    | straggle => exact ⟨hclosed, by simp⟩
  | session h =>
    cases h with
    | send c w call =>
      -- nothing is queued
      have hsend : c.send call = (.error .connectionLost, c) := by
        rw [Channel.send, hclosed, Bool.true_or, if_pos rfl]
      rw [hsend]
      exact ⟨hclosed, by simp [Event.Refused]⟩
    | receive c w =>
      have hreceive : c.tryReceive = (.error .connectionLost, c) := by
        rw [Channel.tryReceive, if_pos hclosed]
      rw [hreceive]
      exact ⟨hclosed, by simp [Event.Refused]⟩
    | close => exact ⟨rfl, by simp [Event.Refused]⟩

/-- A fault that is received brings the channel to its end, and so does closing it. A step is seen
at most once. -/
private theorem closed_of_ends (h : Step t es t') :
    es.length ≤ 1 ∧ ∀ e ∈ es, e.Ends → t'.channel.isClosed = true := by
  cases h with
  | writer h => cases h <;> simp [Event.Ends]
  | reader h => cases h <;> simp [Event.Ends]
  | session h =>
    cases h with
    | send => simp [Event.Ends]
    | receive c w =>
      refine ⟨Nat.le_refl 1, fun e he hends => ?_⟩
      -- of what can be received, only a fault ends the channel
      obtain rfl := List.mem_singleton.1 he
      unfold Channel.tryReceive at hends ⊢
      split at hends
      · next hclosed => rwa [if_pos hclosed]
      · next hopen =>
        rw [if_neg hopen]
        split at hends
        · simp [Event.Ends] at hends
        · simp [Event.Ends] at hends
        · rfl
    | close => simp [Channel.close]

/-- After the end everything is refused. -/
structure Ended (es : List Event) (t : Traffic) : Prop where
  refused : es.Pairwise fun e later => e.Ends → later.Refused
  closed : ∀ e ∈ es, e.Ends → t.channel.isClosed = true

/-- Once a channel has ended it stays so, and accepts nothing more. -/
theorem Ended.step (he : Ended es t) (h : Step t es' t') : Ended (es ++ es') t' := by
  obtain ⟨hlength, hends⟩ := closed_of_ends h
  refine ⟨List.pairwise_append.2 ⟨he.refused, ?_, fun e hmem later hlater hend => ?_⟩,
    fun e hmem hend => ?_⟩
  · -- there is no second event in a step
    rcases es' with _ | ⟨e, _ | ⟨e', es'⟩⟩
    · exact .nil
    · exact List.pairwise_singleton _ _
    · simp at hlength
  · exact (refused_of_closed h (he.closed e hmem hend)).2 later hlater
  · rcases List.mem_append.1 hmem with hmem | hmem
    · exact (refused_of_closed h (he.closed e hmem hend)).1
    · exact hends e hmem hend

/-- On every run a channel that has ended accepts nothing more. -/
theorem Run.ended (h : Run es t) : Ended es t := by
  induction h with
  | refl => exact ⟨.nil, by simp⟩
  | tail _ hstep ih => exact ih.step hstep

end Ended

/-! ## All together -/

section Orderly

variable {es : List Event} {t : Traffic}

/-- However the output of a prover that writes text is cut into pieces, and whatever it goes on
with, the frames that have been taken off are the first of those that it all holds. -/
private theorem output_prefix_drain {cs : List Char} {more : List UInt8}
    (h : (pieces es).flatten ++ more <+: Text.encode cs) :
    (output es).frames <+: (Frame.drain ((pieces es).flatten ++ more)).frames := by
  have hbegins : Text.Begins ((pieces es).flatten ++ more) := ⟨cs, h⟩
  have hpieces := (Frame.agrees_feed_pieces ((List.prefix_append _ _).trans h)).1
  have hwhole := Frame.agrees_drain_append hbegins
  rw [output, hpieces.frames, ← hwhole.frames]
  have hstart : Drained.untouched.feed (pieces es).flatten = Frame.drain (pieces es).flatten := by
    simp [Drained.feed, Drained.andThen, Drained.untouched]
  rw [hstart]
  exact prefix_feed _ _

/-- Whatever the writer, the reader and the session do and whenever the streams fail, the following
holds of a channel.

* The frames that the session has received are the first of those that the prover's output comes to
  as it arrived, in order and each of them once. If the prover writes text, they are the first of
  those that all of its output holds, however it arrived and whatever follows.
* After the first fault that is received, or after closing, nothing is sent or received any more:
  the connection counts as lost.
* The prover is given the bytes of the calls that were accepted, in order and from the first on.
  Unless it has ceased to take bytes, what it has not been given yet still waits and can be written,
  also after closing. -/
theorem Run.delivers_in_order (h : Run es t) :
    frames es <+: (output es).frames ∧
      (∀ {cs : List Char} {more : List UInt8}, (pieces es).flatten ++ more <+: Text.encode cs →
        frames es <+: (Frame.drain ((pieces es).flatten ++ more)).frames) ∧
      (es.Pairwise fun e later => e.Ends → later.Refused) ∧
      written es <+: (accepted es).flatMap Call.bytes ∧
      ∀ left, t.writer.left? = some left →
        written es ++ (left ++ t.channel.calls.flatMap Call.bytes) =
          (accepted es).flatMap Call.bytes ∧
        ∃ es' t', Steps Writes t es' t' ∧
          written (es ++ es') = (accepted es).flatMap Call.bytes := by
  have hdelivers := h.delivers
  have howes := h.owes
  refine ⟨hdelivers.received, fun hcs => hdelivers.received.trans (output_prefix_drain hcs),
    h.ended.refused, howes.written, fun left hleft => ⟨howes.owed left hleft, ?_⟩⟩
  obtain ⟨es', t', hsteps, hwritten⟩ := exists_writes t hleft
  exact ⟨es', t', hsteps, by rw [written_append, hwritten, howes.owed left hleft]⟩

end Orderly

/-- The first call is written and answered, and the session receives the answer. The second call
still waits when the channel is closed, and the third is refused. -/
theorem delivers_in_order_of_closing :
    let response := Markup.Element.node "value" [("val", "good")] [.ofText "string" "∀ &"]
    let bytes := Text.encode response.write
    let frame := Inbound.response (.good (.ofText "string" "∀ &"))
    let es : List Event :=
      [.sent .init (.ok ()), .wrote Call.init.bytes, .read bytes, .received (.ok (some frame)),
        .sent .quit (.ok ()), .closed, .sent .goal (.error .connectionLost)]
    ∃ t, Run es t ∧ t.channel.isClosed = true ∧ t.writer.left? = some [] ∧
      bytes <+: Text.encode response.write ∧ frames es = [frame] ∧
      [frame] <+: (Frame.drain bytes).frames ∧
      Call.init.bytes ++ t.channel.calls.flatMap Call.bytes = Call.init.bytes ++ Call.quit.bytes ∧
      ∃ es' t', Steps Writes t es' t' ∧
        written (es ++ es') = Call.init.bytes ++ Call.quit.bytes := by
  intro response bytes frame es
  have hnames : Markup.IsName "value" ∧ Markup.IsName "val" ∧ Markup.IsName "string" := by
    decide +kernel
  have hnamed : response.Named := by
    rw [Markup.Element.named_node]
    simp [Markup.Element.named_ofText, hnames]
  have hdrain : Frame.drain bytes = ⟨[frame], none, []⟩ := by
    have hwritten := Frame.drain_write hnamed (Text.begins_encode [])
      (show Inbound.ofElement? response.normalize = .ok (some frame) from rfl)
    rw [Text.encode_nil, List.append_nil, Frame.drain_nil] at hwritten
    exact hwritten
  -- the first call is sent and written
  have hsend :
      Steps Step opened [.sent .init (.ok ())] ⟨{ Channel.opened with calls := [.init] }, .idle⟩ :=
    .single (.session (.send _ _ _))
  have hwrite :
      Steps Step ⟨{ Channel.opened with calls := [.init] }, .idle⟩ [.wrote Call.init.bytes]
        opened :=
    (steps_writeNext rfl).mono .writer
  -- its answer arrives, is read and is received
  have hwaits : Waits .opened := by
    refine ⟨rfl, ?_⟩
    rw [Frame.pull_eq]
    rfl
  have harrive : Steps Step opened [.read bytes] ⟨Channel.opened.arrive bytes, .idle⟩ :=
    .single (.reader (.arrive _ _ hwaits))
  have hread : Steps Step ⟨Channel.opened.arrive bytes, .idle⟩ []
      ⟨{ Channel.opened with deliveries := [.ok frame] }, .idle⟩ := by
    have hall : (Channel.opened.arrive bytes).readAll =
        { Channel.opened with deliveries := [.ok frame] } := by
      rw [Channel.readAll, if_pos (show (Channel.opened.arrive bytes).isReading = true from rfl),
        show (Channel.opened.arrive bytes).buffer = bytes from rfl, hdrain]
      rfl
    exact hall ▸ (steps_readAll (Channel.opened.arrive bytes) .idle).mono .reader
  have hreceive : Steps Step ⟨{ Channel.opened with deliveries := [.ok frame] }, .idle⟩
      [.received (.ok (some frame))] opened :=
    .single (.session (.receive _ _))
  -- the second call waits, the channel is closed, and the third call is refused
  have hclose :
      Steps Step opened [.sent .quit (.ok ()), .closed, .sent .goal (.error .connectionLost)]
      ⟨{ Channel.opened with calls := [.quit] }.close, .idle⟩ :=
    .head (Step.session (.send _ _ _))
      (.head (Step.session (.close _ _)) (.single (Step.session (.send _ _ _))))
  have hrun : Run es ⟨{ Channel.opened with calls := [.quit] }.close, .idle⟩ :=
    hsend.trans (hwrite.trans (harrive.trans (hread.trans (hreceive.trans hclose))))
  obtain ⟨-, hframes, -, -, hleft⟩ := hrun.delivers_in_order
  obtain ⟨howed, hmore⟩ := hleft [] rfl
  refine ⟨_, hrun, rfl, rfl, List.prefix_rfl, rfl, ?_, howed, hmore⟩
  have hpieces : (pieces es).flatten ++ [] = bytes := by
    rw [List.append_nil]
    exact List.append_nil bytes
  have hwhole : (pieces es).flatten ++ [] <+: Text.encode response.write :=
    hpieces ▸ List.prefix_rfl
  have hprefix := hframes hwhole
  rwa [hpieces] at hprefix

end Traffic

end ProofDesk
