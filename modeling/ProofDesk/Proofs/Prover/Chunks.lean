import ProofDesk.Proofs.Markup.Written
import ProofDesk.Prover.Frame

/-!
# A stream in pieces

What the prover writes arrives in pieces, cut anywhere. A reader that takes all frames off after
each piece gets the frames, and the fault, that it would get from the whole stream at once, and has
the same bytes left (`Drained.agrees_feed_pieces`). What it has taken off so far stands, since a
frame or a fault that the first bytes of a text show is the one that the whole text shows.
-/

namespace ProofDesk.Frame

/-! ## Taking frames off -/

/-- A pull takes elements off until one of them is a frame, is no frame that may be, or has not
arrived. -/
theorem pull_eq (buffer : List UInt8) : pull buffer =
    match Markup.readFirst buffer with
    | .error e => ⟨.error (.desync e.message), buffer⟩
    | .ok none => ⟨.ok none, buffer⟩
    | .ok (some (e, used)) =>
      match Inbound.ofElement? e with
      | .error e => ⟨.error (.desync e.message), buffer.drop used⟩
      | .ok (some frame) => ⟨.ok (some frame), buffer.drop used⟩
      | .ok none => pull (buffer.drop used) := by
  rw [pull]
  split
  · next h => rw [h]
  · next h => rw [h]
  · next h => exact h ▸ rfl

/-- What has been taken off, behind one more frame. -/
def Drained.cons (frame : Inbound) (d : Drained) : Drained :=
  ⟨frame :: d.frames, d.fault, d.rest⟩

/-- Draining a buffer is pulling frames off it until none is left. -/
theorem drain_eq (buffer : List UInt8) : drain buffer =
    match (pull buffer).outcome with
    | .error fault => ⟨[], some fault, (pull buffer).rest⟩
    | .ok none => ⟨[], none, (pull buffer).rest⟩
    | .ok (some frame) => (drain (pull buffer).rest).cons frame := by
  rw [drain]
  split
  · next h => rw [h]
  · next h => rw [h]
  · next h => exact h ▸ rfl

section Append

variable {bs more : List UInt8}

/-- What a pull leaves begins a text again. -/
private theorem begins_pull (h : Text.Begins (bs ++ more)) :
    Text.Begins ((pull bs).rest ++ more) := by
  fun_induction pull bs with
  | case1 | case2 => exact h
  | case3 bs e used hr error he | case4 bs e used hr frame he => exact (Markup.begins_drop h hr).2
  | case5 bs e used hr he ih => exact ih (Markup.begins_drop h hr).2

/-- A frame, or a fault, that the first bytes of a text show is the first that more of them show. -/
theorem pull_append (h : Text.Begins (bs ++ more)) (hne : (pull bs).outcome ≠ .ok none) :
    pull (bs ++ more) = ⟨(pull bs).outcome, (pull bs).rest ++ more⟩ := by
  -- what has been read off the buffer stays so when more bytes follow it
  fun_induction pull bs with
  | case1 bs e hr => rw [pull_eq, Markup.readFirst_append h (by simp [hr]), hr]
  | case2 => simp at hne
  | case3 bs e used hr error he | case4 bs e used hr error he =>
    rw [pull_eq, Markup.readFirst_append h (by simp [hr]), hr]
    dsimp only
    rw [he, List.drop_append_of_le_length (Markup.begins_drop h hr).1]
  | case5 bs e used hr he ih =>
    obtain ⟨hused, hback⟩ := Markup.begins_drop h hr
    rw [pull_eq, Markup.readFirst_append h (by simp [hr]), hr]
    dsimp only
    rw [he, List.drop_append_of_le_length hused]
    -- an element that is no frame is skipped, in the longer buffer too
    exact ih hback hne

/-- Where the first bytes of a text show no frame yet, the elements passed over in them are passed
over for good. -/
private theorem pull_append_of_none (h : Text.Begins (bs ++ more))
    (hnone : (pull bs).outcome = .ok none) :
    pull (bs ++ more) = pull ((pull bs).rest ++ more) := by
  fun_induction pull bs with
  | case1 | case3 | case4 => simp at hnone
  | case2 => rfl
  | case5 bs e used hr he ih =>
    obtain ⟨hused, hback⟩ := Markup.begins_drop h hr
    rw [pull_eq (bs ++ more), Markup.readFirst_append h (by simp [hr]), hr]
    dsimp only
    rw [he, List.drop_append_of_le_length hused]
    exact ih hback hnone

end Append

/-! ## Pieces -/

namespace Drained

/-- Nothing has arrived. -/
def untouched : Drained :=
  ⟨[], none, []⟩

/-- What has been taken off, with what is taken off the bytes that are left; a fault ends the
stream. -/
def andThen (d : Drained) (take : List UInt8 → Drained) : Drained :=
  match d.fault with
  | some _ => d
  | none => ⟨d.frames ++ (take d.rest).frames, (take d.rest).fault, (take d.rest).rest⟩

/-- A piece of the stream arrives, and all frames are taken off. -/
def feed (d : Drained) (piece : List UInt8) : Drained :=
  d.andThen fun rest => drain (rest ++ piece)

/-- The stream ends. -/
def finish (d : Drained) : Drained :=
  d.andThen drainLast

/-- The same frames and the same fault, and without a fault the same bytes left. -/
structure Agrees (d d' : Drained) : Prop where
  frames : d.frames = d'.frames
  fault : d.fault = d'.fault
  rest : d'.fault = none → d.rest = d'.rest

theorem Agrees.refl (d : Drained) : d.Agrees d :=
  ⟨rfl, rfl, fun _ => rfl⟩

theorem Agrees.trans {d d' d'' : Drained} (h : d.Agrees d') (h' : d'.Agrees d'') : d.Agrees d'' :=
  ⟨h.frames.trans h'.frames, h.fault.trans h'.fault, fun hnone =>
    (h.rest (h'.fault.trans hnone)).trans (h'.rest hnone)⟩

/-- What goes on from the bytes left goes on alike. -/
theorem Agrees.andThen {d d' : Drained} (h : d.Agrees d') (take : List UInt8 → Drained) :
    (d.andThen take).Agrees (d'.andThen take) := by
  unfold Drained.andThen
  cases hfault : d'.fault with
  | some fault =>
    rw [h.fault, hfault]
    exact h
  | none =>
    rw [h.fault, hfault, h.frames, h.rest hfault]
    exact .refl _

/-- A frame that was read first stays in front of all that is read afterwards. -/
private theorem cons_andThen (frame : Inbound) (d : Drained) (take : List UInt8 → Drained) :
    (d.cons frame).andThen take = (d.andThen take).cons frame := by
  unfold andThen cons
  cases hfault : d.fault <;> simp [hfault]

/-- Two ways of reading that agree do so behind one more frame. -/
theorem Agrees.cons {d d' : Drained} (h : d.Agrees d') (frame : Inbound) :
    (d.cons frame).Agrees (d'.cons frame) :=
  ⟨congrArg (frame :: ·) h.frames, h.fault, h.rest⟩

end Drained

/-- What the first bytes of a text are drained to, and then more of them, is what all of these are
drained to. -/
theorem agrees_drain_append {bs more : List UInt8} (h : Text.Begins (bs ++ more)) :
    ((drain bs).feed more).Agrees (drain (bs ++ more)) := by
  -- the induction is on the frames that the first bytes hold
  rw [drain_eq bs]
  cases hp : (pull bs).outcome with
  | error fault =>
    rw [drain_eq (bs ++ more), pull_append h (by simp [hp]), hp]
    exact ⟨rfl, rfl, by simp⟩
  | ok frame? =>
    cases frame? with
    | none =>
      -- the elements passed over in the first bytes are gone from the buffer, and are passed over
      -- at once as well
      rw [drain_eq (bs ++ more), pull_append_of_none h hp, ← drain_eq]
      exact ⟨rfl, rfl, fun _ => rfl⟩
    | some frame =>
      have hshorter := length_rest_pull hp
      have hagrees := agrees_drain_append (begins_pull h)
      rw [drain_eq (bs ++ more), pull_append h (by simp [hp]), hp]
      dsimp only
      rw [Drained.feed, Drained.cons_andThen]
      exact hagrees.cons frame
termination_by bs.length

theorem drain_nil : drain [] = .untouched := by
  rw [drain_eq, pull_eq]
  rfl

private theorem drainLast_nil : drainLast [] = .untouched := by
  rw [drainLast, drain_nil]
  rfl

/-- A stream that arrives in pieces is drained to what it is drained to at once. -/
private theorem agrees_foldl_feed {d : Drained} {bs : List UInt8} (pieces : List (List UInt8))
    (hd : d.Agrees (drain bs)) (h : Text.Begins (bs ++ pieces.flatten)) :
    (pieces.foldl Drained.feed d).Agrees (drain (bs ++ pieces.flatten)) := by
  induction pieces generalizing d bs with
  | nil => simpa using hd
  | cons piece pieces ih =>
    rw [List.flatten_cons, ← List.append_assoc] at h ⊢
    exact ih ((hd.andThen _).trans (agrees_drain_append h.front)) h

/-- However a stream of text is cut into pieces, also inside a character, reading it piece by piece
gives the frames and the fault that reading it at once gives, and leaves the same bytes if there is
no fault; and so it is when the stream ends there. -/
theorem agrees_feed_pieces {cs : List Char} {pieces : List (List UInt8)}
    (h : pieces.flatten <+: Text.encode cs) :
    (pieces.foldl Drained.feed .untouched).Agrees (Drained.untouched.feed pieces.flatten) ∧
      (pieces.foldl Drained.feed .untouched).finish.Agrees
        (Drained.untouched.feed pieces.flatten).finish := by
  have hstart : Drained.untouched.Agrees (drain []) := by
    rw [drain_nil]
    exact .refl _
  have hagrees :
      (pieces.foldl Drained.feed .untouched).Agrees (Drained.untouched.feed pieces.flatten) :=
    agrees_foldl_feed pieces hstart ⟨cs, h⟩
  exact ⟨hagrees, hagrees.andThen drainLast⟩

/-- A written element that is a frame is taken off as that frame, in front of what follows. -/
theorem drain_write {e : Markup.Element} {frame : Inbound} {more : List UInt8} (h : e.Named)
    (hmore : Text.Begins more) (hframe : Inbound.ofElement? e.normalize = .ok (some frame)) :
    drain (Text.encode e.write ++ more) = (drain more).cons frame := by
  have hpull : pull (Text.encode e.write ++ more) = ⟨.ok (some frame), more⟩ := by
    rw [pull_eq, Markup.readFirst_write h hmore]
    dsimp only
    rw [hframe, List.drop_left]
  rw [drain_eq, hpull]

/-- A response whose bytes arrive in four pieces, cut inside a tag, inside a character and inside an
entity. -/
theorem agrees_feed_pieces_response :
    let response := Markup.Element.node "value" [("val", "good")] [.ofText "string" "∀ &"]
    let bytes := Text.encode response.write
    let pieces := [bytes.take 3, (bytes.take 27).drop 3, (bytes.take 32).drop 27, bytes.drop 32]
    let drained := pieces.foldl Drained.feed .untouched
    drained.frames = [.response (.good (.ofText "string" "∀ &"))] ∧ drained.rest = [] ∧
    drained.finish.fault = none := by
  intro response bytes pieces drained
  have hbytes : pieces.flatten = bytes := by decide +kernel
  have hnames : Markup.IsName "value" ∧ Markup.IsName "val" ∧ Markup.IsName "string" := by
    decide +kernel
  have hnamed : response.Named := by
    rw [Markup.Element.named_node]
    simp [Markup.Element.named_ofText, hnames]
  -- all bytes at once are read as the one response, with nothing left over
  have hwhole :
      Drained.untouched.feed bytes = ⟨[.response (.good (.ofText "string" "∀ &"))], none, []⟩ := by
    have hwritten := drain_write hnamed (Text.begins_encode [])
      (show Inbound.ofElement? response.normalize =
        .ok (some (.response (.good (.ofText "string" "∀ &")))) from rfl)
    rw [Text.encode_nil, List.append_nil, drain_nil] at hwritten
    exact hwritten
  obtain ⟨hagrees, hlast⟩ :=
    agrees_feed_pieces (show pieces.flatten <+:
      Text.encode response.write from ⟨[], by rw [hbytes, List.append_nil]⟩)
  rw [hbytes, hwhole] at hagrees hlast
  refine ⟨hagrees.frames, hagrees.rest rfl, hlast.fault.trans ?_⟩
  simp [Drained.finish, Drained.andThen, drainLast_nil, Drained.untouched]

end ProofDesk.Frame
