import ProofDesk.Proofs.Session.Drift

/-!
# What does not depend on the text

The outline of a session leaves out what its sentences say and where they stand, and what is only
shown. What a session does with a frame is told by its outline (`outline_handleFrame`), and so is
what it sends, as long as no sentence has to be split off its text or compared with an offset
(`outline_sendSentence`, `outline_rewindTo`).
-/

namespace ProofDesk

/-- The state of a sentence without the range of an error. -/
def SentenceState.outline : SentenceState → SentenceState
  | error _ message => error ⟨0, 0⟩ message
  | state => state

/-- The sentence without its text and place. -/
def Sentence.outline (x : Sentence) : Sentence :=
  { x with span := ⟨0, 0⟩, text := "", state := x.state.outline }

/-- The document without its text and the places in it. -/
@[simps]
def Document.outline (d : Document) : Document :=
  { d with
    text := ""
    live := d.live.map (·.outline)
    doomed := d.doomed.map (·.outline)
    unsent := d.unsent.map (·.outline)
    parseError := none }

/-- The call without the text of a sentence. -/
def Call.outline : Call → Call
  | add _ editId parent verbose => add "" editId parent verbose
  | call => call

/-- What comes next, without texts and reasons. -/
def Step.outline : Step → Step
  | send request call document queue => send request call.outline document.outline queue
  | proceed document queue => proceed document.outline queue
  | refuse document _ => refuse document.outline .blocked

/-! ## Sentences -/

namespace SentenceState

@[simp] theorem outline_outline (state : SentenceState) :
    state.outline.outline = state.outline := by
  cases state <;> rfl

end SentenceState

namespace Sentence

@[simp] theorem id_outline (x : Sentence) : x.outline.id = x.id := rfl

@[simp] theorem stateId_outline (x : Sentence) : x.outline.stateId = x.stateId := rfl

@[simp] theorem state_outline (x : Sentence) : x.outline.state = x.state.outline := rfl

@[simp] theorem outline_outline (x : Sentence) : x.outline.outline = x.outline := by
  simp [outline]

end Sentence

/-! ## Documents -/

namespace Document

variable (d : Document)

@[simp] theorem outline_outline : d.outline.outline = d.outline := by
  simp [outline]

@[simp] theorem sentences_outline : d.outline.sentences = d.sentences.map (·.outline) := by
  simp [sentences]

@[simp] theorem locked_outline : d.outline.locked = d.locked := by
  simp [locked]

@[simp] theorem indexOf?_outline (id : SentenceId) : d.outline.indexOf? id = d.indexOf? id := by
  simp [indexOf?, List.findIdx?_map, Function.comp_def]

@[simp] theorem indexOfState?_outline (state : StateId) :
    d.outline.indexOfState? state = d.indexOfState? state := by
  simp [indexOfState?, List.findIdx?_map, Function.comp_def]

@[simp] theorem sentence?_outline (id : SentenceId) :
    d.outline.sentence? id = (d.sentence? id).map (·.outline) := by
  simp [sentence?, List.find?_map, Function.comp_def]

@[simp] theorem stateBefore_outline (index : Nat) :
    d.outline.stateBefore index = d.stateBefore index := by
  unfold stateBefore
  rw [sentences_outline, ← List.map_take, ← List.map_reverse, List.findSome?_map]
  rfl

@[simp] theorem tip_outline : d.outline.tip = d.tip := by
  simp [tip]

@[simp] theorem isBlocked_outline (policy : AxiomPolicy) :
    d.outline.isBlocked policy = d.isBlocked policy := by
  unfold isBlocked
  rw [outline_live, List.getLast?_map]
  cases d.live.getLast? with
  | none => rfl
  | some x =>
    simp only [Option.map_some, Sentence.state_outline]
    cases x.state <;> rfl

@[simp] theorem lockedIndex_outline (id : SentenceId) :
    d.outline.lockedIndex id = d.lockedIndex id := by
  simp [lockedIndex]

@[simp] theorem outline_setRoot (state : StateId) :
    (d.setRoot state).outline = d.outline.setRoot state := rfl

/-- Changing a sentence changes the outline of it. -/
theorem outline_modifyAt (index : Nat) {f g : Sentence → Sentence}
    (h : ∀ x, (f x).outline = g x.outline) :
    (d.modifyAt index f).outline = d.outline.modifyAt index g := by
  unfold modifyAt
  simp only [outline_live, List.length_map, locked_outline]
  split
  · simp [outline, map_modify_of_comm h]
  · split
    · simp [outline, map_modify_of_comm h]
    · simp [outline, map_modify_of_comm h]

theorem outline_markValid (id : SentenceId) (state : StateId) (validity : Validity) :
    (d.markValid id state validity).map outline = d.outline.markValid id state validity := by
  unfold markValid
  rw [lockedIndex_outline]
  cases d.lockedIndex id with
  | error refusal => rfl
  | ok index =>
    refine congrArg Except.ok (outline_modifyAt d index ?_)
    exact fun _ => rfl

theorem outline_markAxiom (index : Nat) :
    (d.markAxiom index).outline = d.outline.markAxiom index := by
  refine outline_modifyAt d index fun x => ?_
  cases hstate : x.state <;> simp [Sentence.outline, SentenceState.outline, hstate]

theorem outline_markProcessed (index : Nat) :
    (d.markProcessed index).outline = d.outline.markProcessed index := by
  refine outline_modifyAt d index ?_
  exact fun _ => rfl

/-- The range of an error depends on the length of the sentence, and is left out. -/
theorem outline_markError (id : SentenceId) (location : Option Location) (message : String) :
    (d.markError id location message).map outline =
      (d.outline.markError id location message).map outline := by
  unfold markError
  rw [lockedIndex_outline]
  cases d.lockedIndex id with
  | error refusal => rfl
  | ok index =>
    -- the range is read off the texts, and the outline leaves it out
    have hblank : ∀ c : Document, (c.modifyAt index (·.refused location message)).outline =
        c.outline.modifyAt index fun x => { x with state := .error ⟨0, 0⟩ message } := by
      intro c
      refine outline_modifyAt c index ?_
      exact fun _ => rfl
    have houtline := hblank d.outline
    rw [outline_outline] at houtline
    exact congrArg Except.ok ((hblank d).trans houtline.symm)

theorem outline_truncateAt (index : Nat) :
    (d.truncateAt index).2.outline = (d.outline.truncateAt index).2 := by
  unfold truncateAt
  rw [locked_outline]
  simp [outline]

theorem outline_truncateTo (id : SentenceId) :
    (d.truncateTo id).2.outline = (d.outline.truncateTo id).2 := by
  unfold truncateTo
  rw [indexOf?_outline]
  split
  · exact outline_truncateAt d _
  · rfl

theorem outline_markPending (id : SentenceId) :
    (d.markPending id).map outline = d.outline.markPending id := by
  unfold markPending
  rw [indexOf?_outline]
  cases d.indexOf? id with
  | none => rfl
  | some index =>
    cases hunsent : d.unsent with
    | nil => simp [hunsent, Except.map]
    | cons x rest =>
      simp only [outline_unsent, hunsent, List.map_cons, locked_outline, outline_doomed,
        List.map_eq_nil_iff]
      split
      · simp [outline, Except.map, Sentence.outline, SentenceState.outline]
      · rfl

end Document

/-! ## Steps -/

namespace Navigation

/-- What is sent next depends on the outline alone. -/
theorem outline_sendSentence (d : Document) (id : SentenceId) (queue : List Navigation) :
    (sendSentence d id queue).outline = (sendSentence d.outline id queue).outline := by
  unfold sendSentence
  rw [Document.tip_outline, ← Document.outline_markPending]
  cases d.tip with
  | none => simp [Step.outline]
  | some parent => cases d.markPending id <;> simp [Except.map, Step.outline, Call.outline]

/-- What a rollback sends depends on the outline alone. -/
theorem outline_rewindTo (d : Document) (index : Nat) (queue : List Navigation) :
    (rewindTo d index queue).outline = (rewindTo d.outline index queue).outline := by
  unfold rewindTo
  rw [Document.sentences_outline, List.getElem?_map, Document.stateBefore_outline]
  cases d.sentences[index]? with
  | none => simp [Step.outline]
  | some x =>
    cases d.stateBefore index with
    | none => simp [Step.outline, Document.outline_truncateTo]
    | some target => simp [Step.outline]

end Navigation

/-! ## Sessions -/

/-- The channel without the texts of calls. -/
def Channel.outline (c : Channel) : Channel :=
  { c with calls := c.calls.map (·.outline) }

@[simp] theorem Call.outline_outline (call : Call) : call.outline.outline = call.outline := by
  cases call <;> rfl

@[simp] theorem Channel.outline_outline (c : Channel) : c.outline.outline = c.outline := by
  simp [outline]

/-- What has arrived does not depend on the calls that were handed over. -/
theorem Channel.receive_outline (c : Channel) :
    Link.receive c.outline = ((Link.receive c).1, (Link.receive c).2.outline) := by
  cases h : c.isClosed <;> simp [Link.receive, Channel.receive, Channel.outline, h]

namespace Session

/-- The session without texts, places in them, and what is only shown. -/
@[simps]
def outline (s : Session Channel) : Session Channel :=
  { s with
    link := s.link.outline, document := s.document.outline, messages := [], notifications := [] }

/-- The outline of a session, field by field. -/
theorem outline_mk (link : Channel) (settings : Settings) (document : Document)
    (status : SessionStatus) (fatal : Option Fault) (request : Option Outstanding)
    (queue : List Navigation)
    (goalsStale : Bool) (goals : Option Goals) (proverStatus : Option ProverStatus)
    (messages : List MessageEntry)
    (notifications : List Notification) :
    outline ⟨link, settings, document, status, fatal, request, queue, goalsStale, goals,
        proverStatus, messages, notifications⟩ =
      ⟨link.outline, settings, document.outline, status, fatal, request, queue, goalsStale, goals,
        proverStatus, [], []⟩ :=
  rfl

variable (s : Session Channel)

@[simp] theorem outline_outline : s.outline.outline = s.outline := by
  simp [outline]

@[simp] theorem outline_notify (kind : NotificationKind) (message : String) :
    (s.notify kind message).outline = s.outline := rfl

@[simp] theorem outline_log (level : MessageLevel) (text : String) :
    (s.log level text).outline = s.outline := by
  unfold log
  split <;> rfl

/-- A refused operation shows in the outline as what is dropped from the queue. -/
theorem outline_refuse (fault : Fault) : (s.refuse fault).outline = s.outline.dropAdvances := by
  unfold refuse
  cases fault <;> simp [outline_log] <;> rfl

theorem outline_fail (fault : Fault) : (s.fail fault).outline = (s.outline.fail fault).outline := by
  have hclose : (Link.close s.link).outline = (Link.close s.link.outline).outline := by
    simp [Link.close, Channel.close, Channel.outline]
  simp [fail, outline, notify, hclose]

/-- Whether a call can be sent does not depend on the text of a sentence. -/
theorem outline_send (request : Request) (call : Call) :
    (s.send request call).outline = (s.outline.send request call.outline).outline := by
  unfold send
  -- the channel looks at its flags alone to tell whether it takes the call
  by_cases hopen : (s.link.isClosed || !s.link.isWriting) = true
  · have hlink : Link.send call s.link = (.error .connectionLost, s.link) := if_pos hopen
    have hlink' : Link.send call.outline s.link.outline =
        (.error .connectionLost, s.link.outline) := if_pos hopen
    rw [hlink, show s.outline.link = s.link.outline from rfl, hlink']
    exact outline_fail _ _
  · have hlink : Link.send call s.link =
        (.ok (), { s.link with calls := s.link.calls ++ [call] }) := if_neg hopen
    have hlink' : Link.send call.outline s.link.outline =
        (.ok (), { s.link.outline with calls := s.link.outline.calls ++ [call.outline] }) :=
      if_neg hopen
    rw [hlink, show s.outline.link = s.link.outline from rfl, hlink']
    simp [outline, Channel.outline]

/-! ### Frames -/

/-- Results that come to the same have failed in the same way, or none has failed. -/
theorem map_eq_map_cases {ε α β : Type} {x y : Except ε α} {f : α → β} (h : x.map f = y.map f) :
    (∃ e, x = .error e ∧ y = .error e) ∨ ∃ a b, x = .ok a ∧ y = .ok b ∧ f a = f b := by
  cases x with
  | error e =>
    cases y with
    | error e' => exact .inl ⟨e, rfl, congrArg Except.error (Except.error.inj h).symm⟩
    | ok b => cases h
  | ok a =>
    cases y with
    | error e => cases h
    | ok b => exact .inr ⟨a, b, rfl, rfl, Except.ok.inj h⟩

/-- What a reply does to the outline depends on the outline alone. -/
theorem outline_applyReply (request : Request) (reply : Reply request.kind) :
    (s.applyReply request reply).map outline =
      (s.outline.applyReply request reply).map outline := by
  cases request with
  | init =>
    cases reply
    simp [applyReply, Except.map, outline_mk]
  | add id =>
    cases reply with
    | add state closedProof message =>
    simp only [applyReply, outline_document, Document.sentence?_outline, Option.isNone_map]
    split
    · simp [Except.map]
    · -- whether the sentence can be marked does not depend on what is not in the outline
      rw [← Document.outline_markValid]
      cases s.document.markValid id state .ordinary with
      | error refusal => rfl
      | ok document =>
        -- logging and the flag of the goals are outside the outline on both sides
        refine congrArg Except.ok ?_
        show ({ (log { s with document } .info message).outline with goalsStale := true } :
            Session Channel) =
          { (log { s.outline with document := document.outline } .info message).outline with
            goalsStale := true }
        rw [outline_log, outline_log]
        simp [outline_mk]
  | editAt id =>
    cases reply
    simp [applyReply, Except.map, outline_mk, Document.outline_truncateTo]
  | goal | status =>
    cases reply
    simp [applyReply, Except.map, outline_mk]
  | quit =>
    cases reply
    simp [applyReply, Except.map]

theorem outline_applyFailure (request : Request) (failure : Failure) :
    (s.applyFailure request failure).map outline =
      (s.outline.applyFailure request failure).map outline := by
  cases request with
  | init => rfl
  | add id =>
    simp only [applyFailure, outline_document, Document.sentence?_outline, Option.isSome_map]
    split
    · obtain ⟨refusal, h, h'⟩ | ⟨document, document', h, h', hmark⟩ :=
        map_eq_map_cases (Document.outline_markError s.document id failure.location failure.message)
      · -- no sentence can be marked, on either side
        rw [h, h']
        rfl
      · rw [h, h']
        simp [withDocument, Except.map, bind, Except.bind, pure, Except.pure, outline_mk,
          dropAdvances, hmark]
    · simp [Except.map, bind, Except.bind, pure, Except.pure, outline_mk, dropAdvances]
  | editAt id => simp [applyFailure, Except.map, outline_mk, Document.outline_truncateTo]
  | goal | status | quit => simp [applyFailure, Except.map]

theorem outline_handleResponse (response : Response) :
    (s.handleResponse response).map outline = (s.outline.handleResponse response).map outline := by
  unfold handleResponse
  rw [show s.outline.request = s.request from rfl]
  cases s.request with
  | none => rfl
  | some outstanding =>
    have hfree : ({ s.outline with request := none } : Session Channel) =
      { s with request := none }.outline := rfl
    dsimp only
    rw [hfree]
    cases response with
    | good payload =>
      dsimp only
      split
      · exact outline_applyReply _ _ _
      · rfl
    | fail failure => exact outline_applyFailure _ _ _

theorem outline_sentenceError (index : Option Nat) (location : Option Location) (message : String) :
    (s.sentenceError index location message).outline =
      (s.outline.sentenceError index location message).outline := by
  unfold sentenceError
  rw [outline_log, outline_log, outline_document, Document.sentences_outline]
  cases index with
  | none => simp
  | some i =>
    simp only [Option.bind_some, List.getElem?_map, Option.getD_some]
    cases s.document.sentences[i]? with
    | none => simp
    | some x =>
      simp only [Option.map_some, Sentence.id_outline]
      obtain ⟨refusal, h, h'⟩ | ⟨document, document', h, h', hmark⟩ :=
        map_eq_map_cases (Document.outline_markError s.document x.id location message)
      · -- no sentence can be marked, on either side
        rw [h, h']
        simp
      · rw [h, h']
        simp [outline_mk, dropAdvances, Document.outline_truncateAt, hmark]

theorem outline_handleFeedback (feedback : Feedback) :
    (s.handleFeedback feedback).outline = (s.outline.handleFeedback feedback).outline := by
  unfold handleFeedback
  rw [outline_document, Document.indexOfState?_outline]
  dsimp only
  split
  · cases s.document.indexOfState? feedback.state <;> simp [outline_mk, Document.outline_markAxiom]
  · cases s.document.indexOfState? feedback.state <;>
      simp [outline_mk, Document.outline_markProcessed]
  · exact outline_sentenceError _ _ _ _
  · exact outline_sentenceError _ _ _ _
  · simp
  · simp

/-- What a session does with a frame is told by its outline. -/
theorem outline_handleFrame (frame : Inbound) :
    (s.handleFrame frame).outline = (s.outline.handleFrame frame).outline := by
  cases frame with
  | feedback feedback => exact outline_handleFeedback s feedback
  | response response =>
    unfold handleFrame
    -- both break, or neither does
    obtain ⟨fault, h, h'⟩ | ⟨t, t', h, h', hsame⟩ :=
      map_eq_map_cases (outline_handleResponse s response)
    · simp only [h, h']
      exact outline_fail s fault
    · simp only [h, h']
      exact hsame

/-- Sessions of the same outline are alive together. -/
theorem isAlive_eq {s t : Session Channel} (h : t.outline = s.outline) : t.isAlive = s.isAlive := by
  have halive : t.outline.isAlive = s.outline.isAlive := by rw [h]
  exact halive

theorem outline_handleFrames (frames : List Inbound) :
    (s.handleFrames frames).outline = (s.outline.handleFrames frames).outline := by
  -- with the outline in front of both, the induction goes through
  suffices ∀ t : Session Channel, t.outline = s.outline →
      (t.handleFrames frames).outline =
        (s.handleFrames frames).outline from (this s.outline s.outline_outline).symm
  induction frames generalizing s with
  | nil => exact fun t ht => ht
  | cons frame frames ih =>
    intro t ht
    have halive : t.isAlive = s.isAlive := isAlive_eq ht
    rw [handleFrames, handleFrames, List.foldl_cons, List.foldl_cons, halive]
    split
    · refine ih _ _ ?_
      rw [outline_handleFrame t, ht, ← outline_handleFrame s]
    · exact ih _ _ ht

theorem outline_receive : s.receive.2.outline = s.outline.receive.2.outline := by
  unfold receive
  rw [show s.outline.isAlive = s.isAlive from rfl, outline_link, Channel.receive_outline]
  split
  · have hframes : ∀ frames,
        (handleFrames { s with link := (Link.receive s.link).2 } frames).outline =
        (handleFrames { s.outline with link := (Link.receive s.link).2.outline } frames).outline :=
      outline_handleFrames { s with link := (Link.receive s.link).2 }
    dsimp only
    split
    · exact hframes _
    · -- whether the fault still counts is asked of sessions with one outline
      rw [isAlive_eq (hframes _)]
      split
      · rw [outline_fail, hframes, ← outline_fail]
      · exact hframes _
  · simp

theorem outline_checkTimeout : s.checkTimeout.2.outline = s.outline.checkTimeout.2.outline := by
  unfold checkTimeout
  rw [outline_request]
  cases s.request with
  | none => simp
  | some r =>
    rw [outline_settings]
    dsimp only
    split
    · simp
    · rw [outline_notify, outline_notify]
      simp [outline_mk]

end Session

end ProofDesk
