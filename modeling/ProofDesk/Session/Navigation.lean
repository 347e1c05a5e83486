import ProofDesk.Document.Edit
import ProofDesk.Settings

/-!
# Navigation

What the user asked for and the session has not carried out yet waits in a queue. `Navigation.step`
looks at the operation at the head of the queue and says what comes next: a call to send, a change
of the document that needs no call, or why the operation cannot go on.
-/

namespace ProofDesk

/-- A queued movement of the locked part of the document. -/
inductive Navigation where
  /-- Send this many more sentences. -/
  | forward (count : Nat)
  /-- Lock exactly the sentences that end at or before an offset. -/
  | cursor (offset : Nat)
  /-- Take back this many sentences. -/
  | backward (count : Nat)
  /-- Go back before a sentence that an edit made invalid. -/
  | rewind (id : SentenceId)
  deriving Repr, DecidableEq, Inhabited

namespace Navigation

/-- Whether an operation may send sentences. -/
def advances : Navigation → Bool
  | forward _ | cursor _ => true
  | _ => false

/-- Whether an operation may take sentences back. -/
def retreats : Navigation → Bool
  | forward _ => false
  | _ => true

/-- Whether an operation is a rollback that an edit caused. -/
def isRewind : Navigation → Bool
  | rewind _ => true
  | _ => false

/-- The queue with `op` behind it, where `merge` may join it with the last operation. -/
def enqueue (op : Navigation) (merge : Navigation → Option Navigation) (queue : List Navigation) :
    List Navigation :=
  match queue.getLast?.bind merge with
  | some joined => queue.dropLast ++ [joined]
  | none => queue ++ [op]

/-- The queue with one more sentence to send. -/
def enqueueForward : List Navigation → List Navigation :=
  enqueue (forward 1) fun
    | forward n => some (forward (n + 1))
    | _ => none

/-- The queue with one more sentence to take back. -/
def enqueueBackward : List Navigation → List Navigation :=
  enqueue (backward 1) fun
    | backward n => some (backward (n + 1))
    | _ => none

/-- The queue without the operations that may send sentences. -/
def dropAdvances (queue : List Navigation) : List Navigation :=
  queue.filter (!·.advances)

end Navigation

/-- A call that waits for its answer, with what the answer is needed for. -/
inductive Request where
  | init
  | add (id : SentenceId)
  /-- A rollback: the sentences from this one on are discarded when it is answered. -/
  | editAt (id : SentenceId)
  | goal
  | status
  | quit
  deriving Repr, DecidableEq, Inhabited

/-- The kind of call that a request is. -/
def Request.kind : Request → CallKind
  | init => .init
  | add _ => .add
  | editAt _ => .editAt
  | goal => .goal
  | status => .status
  | quit => .quit

/-- Whether the last live sentence blocks progress: it is in error, or it relies on an axiom where
that blocks. -/
def Document.isBlocked (d : Document) (policy : AxiomPolicy) : Bool :=
  match d.live.getLast? with
  | none => false
  | some s =>
    match s.state with
    | .error .. => true
    | .valid .byAxiom => policy == .block
    | _ => false

/-- What comes next for the operation at the head of the queue. -/
inductive Step where
  /-- Send a call; what is left to do stays in the queue. -/
  | send (request : Request) (call : Call) (document : Document) (queue : List Navigation)
  /-- Go on with a changed document and queue. -/
  | proceed (document : Document) (queue : List Navigation)
  /-- Sentences cannot be sent for the given reason. -/
  | refuse (document : Document) (fault : Fault)

namespace Navigation

/-- The prover ignores edit numbers of plain additions; this one is sent with all of them. -/
def noEdit : Int64 := -1

/-- Send a sentence on top of the last locked one. -/
def sendSentence (d : Document) (id : SentenceId) (queue : List Navigation) : Step :=
  match d.tip with
  | none => .refuse d (.invalidOperation "no initial state")
  | some parent =>
    match d.markPending id with
    | .error refusal => .refuse d refusal.toFault
    | .ok pending =>
      let command := ((pending.sentence? id).map (·.text)).getD ""
      .send (.add id) (.add command noEdit parent false) pending queue

/-- Go back to the state before the sentence at a position. Without a known state there is nothing
to tell the prover, and the sentences are discarded at once. -/
def rewindTo (d : Document) (index : Nat) (queue : List Navigation) : Step :=
  match d.sentences[index]? with
  | none => .proceed d queue
  | some s =>
    match d.stateBefore index with
    | some target => .send (.editAt s.id) (.editAt target) d queue
    | none => .proceed (d.truncateTo s.id).2 queue

/-- What comes next for `op`, where `rest` is the queue behind it. -/
def step (policy : AxiomPolicy) (d : Document) (op : Navigation) (rest : List Navigation) : Step :=
  match op with
  | forward 0 => .proceed d rest
  | forward (n + 1) =>
    if d.isBlocked policy then .refuse d .blocked
    else match d.extendNext with
      | (.error fault, d) => .refuse d fault
      | (.ok none, d) => .proceed d rest
      | (.ok (some id), d) => sendSentence d id (if n = 0 then rest else forward n :: rest)
  | cursor offset =>
    -- back to the offset first, then forward as far as sentences fit; the operation stays until
    -- neither is left
    match d.firstLockedPast? offset with
    | some index => rewindTo d index (cursor offset :: rest)
    | none =>
      if d.isBlocked policy then .proceed d rest
      else match d.extendNext with
        | (.error fault, d) => .refuse d fault
        | (.ok none, d) => .proceed d rest
        | (.ok (some id), d) =>
          if (d.sentence? id).any (·.span.stop ≤ offset) then
            sendSentence d id (cursor offset :: rest)
          else .proceed d rest
  | backward n =>
    if d.live = [] then .proceed d rest else rewindTo d (d.live.length - n) rest
  | rewind id =>
    match d.indexOf? id with
    | some index => rewindTo d index rest
    | none => .proceed d rest

/-- Discarding from the sentence at a live position on leaves fewer live sentences. -/
theorem length_live_truncateTo {d : Document} {index : Nat} {s : Sentence}
    (hi : index < d.live.length)
    (hs : d.sentences[index]? = some s) : (d.truncateTo s.id).2.live.length < d.live.length := by
  have hlt : index < d.sentences.length := (List.getElem?_eq_some_iff.1 hs).1
  have hget : d.sentences[index] = s := (List.getElem?_eq_some_iff.1 hs).2
  cases hj : d.indexOf? s.id with
  | none =>
    have := (List.findIdx?_eq_none_iff.1 hj) s (hget ▸ List.getElem_mem hlt)
    simp at this
  | some j =>
    have hle : j ≤ index := by
      obtain ⟨_, _, hmin⟩ := List.findIdx?_eq_some_iff_getElem.1 hj
      by_cases h : j ≤ index
      · exact h
      · have := hmin index (by omega)
        simp [hget] at this
    simp only [Document.truncateTo, hj, Document.truncateAt, List.length_take]
    omega

/-- Going on without a call shortens the queue, or else leaves fewer live sentences. -/
theorem step_proceed {policy : AxiomPolicy} {d d' : Document} {op : Navigation}
    {rest queue : List Navigation} (h : step policy d op rest = .proceed d' queue) :
    queue.length < (op :: rest).length ∨
      queue.length = (op :: rest).length ∧ d'.live.length < d.live.length := by
  -- going back never touches the queue
  have hr : ∀ {d d' : Document} {i : Nat} {q queue : List Navigation},
      rewindTo d i q = .proceed d' queue → queue = q := by
    intro d d' i q queue h
    simp only [rewindTo] at h
    split at h
    · simp_all
    · split at h <;> simp_all
  -- sending a sentence never goes on without a call
  have hs : ∀ {d d' : Document} {id : SentenceId} {q queue : List Navigation},
      sendSentence d id q ≠ .proceed d' queue := by
    intro d d' id q queue h
    simp only [sendSentence] at h
    split at h
    · simp at h
    · split at h <;> simp at h
  cases op with
  | forward n =>
    left
    cases n with
    | zero => simp_all [step]
    | succ n =>
      simp only [step] at h
      split at h
      · simp at h
      · split at h
        · simp at h
        · simp_all
        · exact absurd h hs
  | cursor offset =>
    simp only [step] at h
    split at h
    -- only a cursor may stay at the head, and then it has discarded sentences
    · next index hf =>
      right
      have hq := hr h
      subst hq
      refine ⟨rfl, ?_⟩
      have hi : index < d.live.length := by
        obtain ⟨hi, _⟩ := List.findIdx?_eq_some_iff_getElem.1 hf
        exact hi
      simp only [rewindTo] at h
      split at h
      · next hnone =>
        have : index < d.sentences.length := by simp [Document.sentences]; omega
        rw [List.getElem?_eq_none_iff] at hnone
        omega
      · next s hsome =>
        split at h
        · simp at h
        · simp only [Step.proceed.injEq] at h
          rw [← h.1]
          exact length_live_truncateTo hi hsome
    · left
      split at h
      · simp_all
      · split at h
        · simp at h
        · simp_all
        · split at h
          · exact absurd h hs
          · simp_all
  | backward n =>
    left
    simp only [step] at h
    split at h
    · simp_all
    · rw [hr h]; simp
  | rewind id =>
    left
    simp only [step] at h
    split at h
    · rw [hr h]; simp
    · simp_all

/-- Only an operation that sends sentences is ever refused. -/
theorem advances_of_step_refuse {policy : AxiomPolicy} {d d' : Document} {op : Navigation}
    {rest : List Navigation} {fault : Fault} (h : step policy d op rest = .refuse d' fault) :
    op.advances = true := by
  -- going back is never refused
  have hr : ∀ {d d' : Document} {i : Nat} {q : List Navigation} {fault : Fault},
      rewindTo d i q ≠ .refuse d' fault := by
    intro d d' i q fault h
    simp only [rewindTo] at h
    split at h
    · simp at h
    · split at h <;> simp at h
  cases op with
  | forward | cursor => rfl
  | backward n =>
    simp only [step] at h
    split at h
    · simp at h
    · exact absurd h hr
  | rewind id =>
    simp only [step] at h
    split at h
    · exact absurd h hr
    · simp at h

end Navigation

end ProofDesk
