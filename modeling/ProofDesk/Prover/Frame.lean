import ProofDesk.Fault
import ProofDesk.Markup.Reader
import ProofDesk.Prover.Decode

/-!
# Frames in a byte stream

The prover writes elements one after the other with nothing between them but blanks. A buffer holds
what has arrived and not been used; `Frame.pull` takes the next frame off it, passing over elements
that the engine has no use for. At the end of the stream a buffer that holds more than blanks was
cut in the middle of a frame.
-/

namespace ProofDesk.Frame

/-- What taking a frame off a buffer comes to, with the bytes that are left. -/
structure Pull where
  /-- The frame, nothing if more bytes are needed, or why the stream cannot go on. -/
  outcome : Except Fault (Option Inbound)
  rest : List UInt8

/-- Take the next frame off the buffer. -/
def pull (buffer : List UInt8) : Pull :=
  match _h : Markup.readFirst buffer with
  | .error e => ⟨.error (.desync e.message), buffer⟩
  | .ok none => ⟨.ok none, buffer⟩
  | .ok (some (e, used)) =>
    match Inbound.ofElement? e with
    | .error e => ⟨.error (.desync e.message), buffer.drop used⟩
    | .ok (some frame) => ⟨.ok (some frame), buffer.drop used⟩
    | .ok none => pull (buffer.drop used)
termination_by buffer.length
decreasing_by
  have := Markup.readFirst_pos _h
  simp; omega

/-- A frame takes at least one byte off the buffer. -/
theorem length_rest_pull {buffer : List UInt8} {frame : Inbound}
    (h : (pull buffer).outcome = .ok (some frame)) : (pull buffer).rest.length < buffer.length := by
  fun_induction pull buffer with
  | case1 => simp at h
  | case2 => simp at h
  | case3 => simp at h
  | case4 _ _ _ hr => have := Markup.readFirst_pos hr; simp; omega
  | case5 _ _ _ hr _ ih => have := Markup.readFirst_pos hr; have := ih h; simp at this; omega

/-- Everything that a buffer holds: its frames in order, the fault that ended them, if one did, and
the bytes that are left. -/
structure Drained where
  frames : List Inbound
  fault : Option Fault
  rest : List UInt8

/-- Take all frames off a buffer. -/
def drain (buffer : List UInt8) : Drained :=
  match _h : (pull buffer).outcome with
  | .error fault => ⟨[], some fault, (pull buffer).rest⟩
  | .ok none => ⟨[], none, (pull buffer).rest⟩
  | .ok (some frame) =>
    let more := drain (pull buffer).rest
    ⟨frame :: more.frames, more.fault, more.rest⟩
termination_by buffer.length
decreasing_by exact length_rest_pull _h

/-- Take all frames off a buffer at the end of the stream. -/
def drainLast (buffer : List UInt8) : Drained :=
  let drained := drain buffer
  if drained.fault.isNone ∧ ¬ drained.rest.all Text.isBlankByte then
    { drained with fault := some (.desync "coqtop closed its output in the middle of a frame") }
  else drained

/-- Read a text that holds exactly one frame. -/
def parse (s : String) : Except Fault Inbound :=
  match Markup.parse s with
  | .error e => .error (.desync e.message)
  | .ok e =>
    match Inbound.ofElement? e with
    | .error error => .error (.desync error.message)
    | .ok none => .error (.desync (DecodeError.notResponse e.name).message)
    | .ok (some frame) => .ok frame

end ProofDesk.Frame
