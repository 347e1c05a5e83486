import ProofDesk.Proofs.Agreement.Branch
import ProofDesk.Proofs.Session.Turns

/-!
# A session and its prover

A prover keeps the states that it has accepted on a branch. It takes up one call after the other: a
sentence is refused, or it is accepted and a new state is put on the branch; going back to a state
of the branch cuts the branch off behind it; questions change nothing. Answers and feedback reach
the session in the order in which they were written, and feedback of any kind may be written at any
time.

A `Conversation` is whatever can become of a session that talks to such a prover, with the steps of
the two in any order. Operations of an editor are steps of a conversation (`Conversation.operate`).
-/

namespace ProofDesk

/-- A prover that keeps its states on a branch, and what is on its way between it and a session. -/
structure Dialogue where
  /-- The state that the prover started in. -/
  root : StateId
  branch : Branch
  /-- The states that there ever were. -/
  used : List StateId
  /-- Calls that the prover has not taken up. -/
  calls : List Call
  /-- Frames that the prover has written and that are on their way. -/
  written : List Inbound
  /-- Frames that have arrived and that the session has not received. -/
  arrived : List Inbound
  /-- Every call that was handed over, with the states of the prover at that time. -/
  record : List (Call × List StateId)

namespace Dialogue

/-- A prover that has not been started. -/
def opened (root : StateId) : Dialogue :=
  { root, branch := [], used := [root], calls := [], written := [], arrived := [], record := [] }

/-- The states that the prover can go back to. -/
def states (d : Dialogue) : List StateId :=
  d.root :: d.branch.map (·.1)

/-- The commands that led to the prover's last state. -/
def commands (d : Dialogue) : List String :=
  d.branch.map (·.2)

/-- The branch cut off behind a state. -/
def upTo (d : Dialogue) (target : StateId) : Branch :=
  d.branch.take (d.states.idxOf target)

/-- The frames that the session has not received, in order. -/
def frames (d : Dialogue) : List Inbound :=
  d.arrived ++ d.written

/-- A frame is written. -/
def write (d : Dialogue) (frame : Inbound) : Dialogue :=
  { d with written := d.written ++ [frame] }

instance : Link Dialogue where
  send call d :=
    (.ok (), { d with calls := d.calls ++ [call], record := d.record ++ [(call, d.states)] })
  receive d := (⟨d.arrived, none⟩, { d with arrived := [] })
  close d := d

/-- What the prover can do, and how frames travel. -/
inductive Steps (d : Dialogue) : Dialogue → Prop
  /-- The prover is started. -/
  | init {rest : List Call} {payload : Markup.Element} (hcalls : d.calls = .init :: rest)
      (hreply : Reply.ofElement .init payload = .ok (.init d.root)) :
    Steps d ({ d with calls := rest }.write (.response (.good payload)))
  /-- A sentence is refused. -/
  | refuse {command : String} {editId : Int64} {parent : StateId} {verbose : Bool}
      {rest : List Call} (hcalls : d.calls = .add command editId parent verbose :: rest)
      (failure : Failure) :
    Steps d ({ d with calls := rest }.write (.response (.fail failure)))
  /-- A sentence is accepted, and a state that there never was is put on the branch. -/
  | accept {command : String} {editId : Int64} {parent : StateId} {verbose : Bool}
      {rest : List Call} {payload : Markup.Element} {state : StateId} {closed : Option StateId}
      {message : String} (hcalls : d.calls = .add command editId parent verbose :: rest)
      (hfresh : state ∉ d.used)
      (hreply : Reply.ofElement .add payload = .ok (.add state closed message)) :
    Steps d ({ d with
      calls := rest
      branch := d.branch ++ [(state, command)]
      used := state :: d.used }.write (.response (.good payload)))
  /-- The prover goes back to a state of the branch. -/
  | editAt {target : StateId} {rest : List Call} {payload : Markup.Element}
      (hcalls : d.calls = .editAt target :: rest) (htarget : target ∈ d.states)
      (hreply : Reply.ofElement .editAt payload = .ok (.editAt none)) :
    Steps d ({ d with calls := rest, branch := d.upTo target }.write (.response (.good payload)))
  /-- A question is answered. -/
  | tell {call : Call} {rest : List Call} (hcalls : d.calls = call :: rest)
      (hcall : call = .goal ∨ call = .status ∨ call = .quit) (response : Response) :
    Steps d ({ d with calls := rest }.write (.response response))
  /-- Feedback is written. -/
  | feedback (feedback : Feedback) : Steps d (d.write (.feedback feedback))
  /-- A frame arrives. -/
  | arrive {frame : Inbound} {rest : List Inbound} (hwritten : d.written = frame :: rest) :
    Steps d { d with written := rest, arrived := d.arrived ++ [frame] }

/-- The prover never touches the record of what was sent to it. -/
theorem Steps.record_eq {d d' : Dialogue} (h : d.Steps d') : d'.record = d.record := by
  cases h <;> rfl

/-- The calls that a prover is handed are recorded. -/
theorem record_of_becomes {d d' : Dialogue} {calls : List Call} (h : Link.Becomes d calls d') :
    d'.record.map (·.1) = d.record.map (·.1) ++ calls := by
  induction h with
  | refl => rw [List.append_nil]
  | @send calls d' _ call ih =>
    rw [← List.append_assoc, ← ih]
    exact List.map_append
  | receive _ ih => exact ih
  | close _ ih => exact ih

end Dialogue

namespace Session

variable {s s' : Session Dialogue}

/-- Closing the link to a prover changes nothing, so that taking up a frame leaves it alone. -/
theorem Takes.dialogue_eq {frame : Inbound} (ht : Takes s frame s') : s'.link = s.link := by
  rcases ht.link_eq with h | h <;> exact h

end Session

/-- What can become of a session that talks to a prover, and the frames that it has received and not
yet taken up. -/
inductive Conversation : List Inbound → Session Dialogue → Prop
  | start (root : StateId) (text : String) (settings : Settings) :
    Conversation [] (Session.start (Dialogue.opened root) text settings)
  | prover {fs : List Inbound} {s : Session Dialogue} {link : Dialogue} (hc : Conversation fs s)
      (hp : s.link.Steps link) : Conversation fs { s with link }
  | act {fs : List Inbound} {s t : Session Dialogue} {es : History} (hc : Conversation fs s)
      (ha : Session.Act s es t) : Conversation fs t
  | receive {s : Session Dialogue} (hc : Conversation [] s) :
    Conversation s.link.arrived { s with link := (Link.receive s.link).2 }
  | frame {frame : Inbound} {fs : List Inbound} {s : Session Dialogue}
      (hc : Conversation (frame :: fs) s)
      (halive : s.isAlive = true) : Conversation fs (s.handleFrame frame)
  | ignore {frame : Inbound} {fs : List Inbound} {s : Session Dialogue}
      (hc : Conversation (frame :: fs) s) (hdead : ¬ s.isAlive = true) : Conversation fs s
  | lose {fs : List Inbound} {s : Session Dialogue} (hc : Conversation fs s) (fault : Fault)
      (halive : s.isAlive = true) : Conversation fs (s.fail fault)

namespace Conversation

open Session

variable {fs : List Inbound} {s t : Session Dialogue}

/-- The session of a conversation is on a run, and the calls of its history are those that the
prover was handed. -/
theorem exists_run (hc : Conversation fs s) :
    ∃ h, Run h s ∧ s.link.record.map (·.1) = h.calls.map (·.2) := by
  -- what the session hands over is recorded as it is sent, and nothing else is
  induction hc with
  | start root text settings => exact ⟨_, Run.start _ text settings, rfl⟩
  | prover _ hp ih =>
    obtain ⟨h, hr, hcalls⟩ := ih
    exact ⟨h, hr.silent (.outside _), by rw [← hcalls, hp.record_eq]⟩
  | act _ ha ih =>
    obtain ⟨h, hr, hcalls⟩ := ih
    refine ⟨_, hr.move (.act ha), ?_⟩
    rw [Dialogue.record_of_becomes ha.becomes, hcalls, History.calls_append, List.map_append]
  | receive _ ih =>
    obtain ⟨h, hr, hcalls⟩ := ih
    exact ⟨h, hr.silent (.outside _), hcalls⟩
  | frame hc halive ih =>
    obtain ⟨h, hr, hcalls⟩ := ih
    refine ⟨_, hr.move (.frame _ halive), ?_⟩
    rw [(hr.orderly.takes_handleFrame _).dialogue_eq, hcalls, History.calls_received]
  | ignore _ _ ih => exact ih
  | lose _ fault halive ih =>
    obtain ⟨h, hr, hcalls⟩ := ih
    exact ⟨h, hr.silent (.lose fault halive), hcalls⟩

/-- In every conversation the session is in order. -/
theorem orderly (hc : Conversation fs s) : s.Orderly := by
  obtain ⟨h, hr, -⟩ := hc.exists_run
  exact hr.orderly

/-- A conversation goes on with anything that the session does. -/
theorem acts (hc : Conversation fs s) {es : History} (ha : Acts s es t) : Conversation fs t := by
  induction ha with
  | refl => exact hc
  | head ha _ ih => exact ih (hc.act ha)

/-- A conversation goes on with all the frames that have arrived, one after the other. -/
theorem handleFrames (hc : Conversation fs s) : Conversation [] (s.handleFrames fs) := by
  induction fs generalizing s with
  | nil => exact hc
  | cons frame fs ih =>
    rw [Session.handleFrames, List.foldl_cons]
    by_cases halive : s.isAlive = true
    · rw [if_pos halive]
      exact ih (hc.frame halive)
    · rw [if_neg halive]
      exact ih (hc.ignore halive)

/-- Operations of an editor continue a conversation. -/
theorem operate (hc : Conversation [] s) (op : Operation) : Conversation [] (s.perform op) := by
  by_cases hop : op = .poll
  · subst hop
    have hreceived : Conversation [] s.receive.2 := by
      unfold Session.receive
      split
      · exact hc.receive.handleFrames
      · exact hc
    obtain ⟨es, hes⟩ := (Act.quiet (quiet_checkTimeout s.receive.2)).exists_acts_pump
    exact hreceived.acts hes
  · obtain ⟨es, hes⟩ := Session.exists_acts s hop
    exact hc.acts hes

end Conversation

end ProofDesk
