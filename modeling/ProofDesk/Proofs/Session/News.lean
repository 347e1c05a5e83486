import ProofDesk.Proofs.Session.Drift
import ProofDesk.Proofs.Session.Shape

/-!
# News about sentences

Feedback comes in no particular order, and more than once. What it says about a sentence (`News`)
marks the sentence, and an error discards the sentences behind it; which of two items comes first
makes no difference, unless both report an error of one sentence, and repeating an item makes none
(`Run.hears_any_order`).

News is looked up by the state that it is about, in the list of all sentences. So the argument is an
induction over that list (`Sentence.hearIn`), and the parts of a document are as long as what is
left of the list makes them.
-/

namespace ProofDesk

/-- The state of a sentence that turns out to rely on an axiom: it matters only where the sentence
is accepted. -/
def SentenceState.admitted : SentenceState → SentenceState
  | valid _ => .valid .byAxiom
  | state => state

@[simp] theorem SentenceState.admitted_admitted (state : SentenceState) :
    state.admitted.admitted = state.admitted := by
  cases state <;> rfl

/-- What feedback says about a sentence. -/
inductive News where
  /-- The sentence relies on an axiom. -/
  | admitted
  /-- The sentence has been checked. -/
  | checked
  /-- The sentence is in error. -/
  | failed (location : Option Location) (message : String)
  deriving Repr, DecidableEq

namespace FeedbackContent

/-- What is said about the sentence, if anything is. -/
def news? : FeedbackContent → Option News
  | addedAxiom => some .admitted
  | processed => some .checked
  | errorMsg location text | message .error location text => some (.failed location text)
  | _ => none

/-- What is shown. -/
def logged? : FeedbackContent → Option MessageEntry
  | errorMsg _ text => some ⟨.error, text⟩
  | message level _ text => some ⟨level, text⟩
  | _ => none

end FeedbackContent

namespace News

/-- Whether the sentence is in error. -/
def isFailure : News → Bool
  | failed .. => true
  | _ => false

/-- The sentence that the news is about, once it has been heard. -/
def mark (news : News) (x : Sentence) : Sentence :=
  match news with
  | admitted => { x with state := x.state.admitted }
  | checked => { x with processed := true }
  | failed location message => x.refused location message

variable (news other : News) (x : Sentence)

@[simp] theorem stateId_mark : (news.mark x).stateId = x.stateId := by
  cases news <;> rfl

@[simp] theorem mark_mark : news.mark (news.mark x) = news.mark x := by
  cases news with
  | admitted => simp [mark]
  | checked | failed => rfl

/-- Unless both are errors, either may be heard first. -/
theorem mark_comm (h : ¬ (news.isFailure = true ∧ other.isFailure = true)) :
    other.mark (news.mark x) = news.mark (other.mark x) := by
  cases news with
  | admitted | checked => cases other <;> rfl
  | failed =>
    cases other with
    | failed => simp [isFailure] at h
    | admitted | checked => rfl

end News

/-- Feedback reports an error just when its news is a failure. -/
theorem Feedback.reportsError_eq (feedback : Feedback) :
    feedback.reportsError = feedback.content.news?.any News.isFailure := by
  unfold reportsError FeedbackContent.news?
  cases feedback.content with
  | message level => cases level <;> rfl
  | _ => rfl

/-! ## News in a list of sentences -/

namespace Sentence

/-- The sentences once news about the first one with a state has been heard. -/
def hearIn (state : StateId) (news : News) : List Sentence → List Sentence
  | [] => []
  | x :: later =>
    if x.stateId = some state then news.mark x :: (if news.isFailure then [] else later)
    else x :: hearIn state news later

variable (state other : StateId) (news newer : News) (l : List Sentence)

/-- The sentence is marked where it is found. -/
theorem hearIn_eq :
    hearIn state news l =
      match l.findIdx? (·.stateId == some state) with
      | none => l
      | some i =>
        if news.isFailure then (l.modify i news.mark).take (i + 1) else l.modify i news.mark := by
  -- the sentence is the first one with the state, and the news go to no other
  induction l with
  | nil => rfl
  | cons x later ih =>
    by_cases hx : x.stateId = some state
    · have hfound : (x :: later).findIdx? (·.stateId == some state) = some 0 := by
        simp [List.findIdx?_cons, hx]
      rw [hfound, hearIn, if_pos hx]
      cases hf : news.isFailure <;> simp
    · have hfound : (x :: later).findIdx? (·.stateId == some state) =
          (later.findIdx? (·.stateId == some state)).map (· + 1) := by
        simp [List.findIdx?_cons, hx]
      rw [hfound, hearIn, if_neg hx, ih]
      cases later.findIdx? (·.stateId == some state) with
      | none => rfl
      | some i => cases hf : news.isFailure <;> simp

/-- News never adds a sentence. -/
private theorem length_hearIn_le : (hearIn state news l).length ≤ l.length := by
  induction l with
  | nil => exact Nat.le_refl _
  | cons x later ih =>
    rw [hearIn]
    split
    · split <;> simp
    · exact Nat.succ_le_succ ih

/-- Unless an error is found, the states stay as they are. -/
private theorem map_stateId_hearIn (h : news.isFailure = false ∨ ∀ x ∈ l, x.stateId ≠ some state) :
    (hearIn state news l).map (·.stateId) = l.map (·.stateId) := by
  induction l with
  | nil => rfl
  | cons x later ih =>
    rw [hearIn]
    split
    · next hx =>
      rcases h with h | h
      · simp [h]
      · exact absurd hx (h x List.mem_cons_self)
    · have hlater := h.imp_right fun h y hy => h y (List.mem_cons_of_mem _ hy)
      rw [List.map_cons, List.map_cons, ih hlater]

/-- Hearing the same news twice is hearing it once. -/
theorem hearIn_hearIn : hearIn state news (hearIn state news l) = hearIn state news l := by
  induction l with
  | nil => rfl
  | cons x later ih =>
    rw [hearIn]
    split
    · next hx =>
      rw [hearIn, News.stateId_mark, if_pos hx, News.mark_mark]
      split <;> rfl
    · next hx => rw [hearIn, if_neg hx, ih]

/-- Two items of news can be heard in either order, unless both are failures of one sentence. -/
theorem hearIn_comm (h : ¬ (news.isFailure = true ∧ newer.isFailure = true ∧ state = other)) :
    hearIn other newer (hearIn state news l) = hearIn state news (hearIn other newer l) := by
  induction l with
  | nil => rfl
  | cons x later ih =>
    by_cases hx : x.stateId = some state
    · by_cases hx' : x.stateId = some other
      · -- both are about this sentence, so that one of them is no error
        obtain rfl : state = other := Option.some.inj (hx.symm.trans hx')
        have hmarks := News.mark_comm news newer x fun hboth => h ⟨hboth.1, hboth.2, rfl⟩
        cases hf : news.isFailure <;> cases hf' : newer.isFailure <;>
          simp [hearIn, hx, hf, hf', hmarks]
      · -- the other is about a later sentence, which an error discards in either order
        cases hf : news.isFailure <;> simp [hearIn, hx', if_pos hx, hf]
    · by_cases hx' : x.stateId = some other
      · cases hf : newer.isFailure <;> simp [hearIn, hx, if_pos hx', hf]
      · simp only [hearIn, if_neg hx, if_neg hx', ih]

end Sentence

/-! ## News in a document -/

namespace Document

/-- The document with other sentences: its parts are as long as they were, as far as the sentences
reach. -/
def withSentences (d : Document) (l : List Sentence) : Document :=
  { d with
    live := l.take d.live.length
    doomed := (l.drop d.live.length).take d.doomed.length
    unsent := l.drop d.locked }

/-- The document once news about the sentence with a state has been heard: an error discards the
sentences behind it. -/
def hear (d : Document) (state : StateId) (news : News) : Document :=
  match d.indexOfState? state with
  | none => d
  | some i =>
    if news.isFailure then ((d.modifyAt i news.mark).truncateAt (i + 1)).2
    else d.modifyAt i news.mark

variable (d : Document) (l l' : List Sentence)

@[simp] theorem sentences_withSentences : (d.withSentences l).sentences = l := by
  unfold withSentences sentences locked
  rw [← List.drop_drop, List.append_assoc, List.take_append_drop, List.take_append_drop]

/-- A document is put together from its sentences. -/
@[simp] theorem withSentences_self : d.withSentences d.sentences = d := by
  unfold withSentences sentences locked
  simp [List.append_assoc]

/-- Parts that have been cut short stay so. -/
theorem withSentences_withSentences (h : l'.length ≤ l.length) :
    (d.withSentences l).withSentences l' = d.withSentences l' := by
  have hlive : l'.take (min d.live.length l.length) = l'.take d.live.length := by
    rw [List.take_eq_take_iff]
    omega
  have hdoomed :
      (l'.drop (min d.live.length l.length)).take (min d.doomed.length (l.length - d.live.length)) =
      (l'.drop d.live.length).take d.doomed.length := by
    rcases Nat.le_total d.live.length l.length with hle | hle
    · rw [Nat.min_eq_left hle, List.take_eq_take_iff, List.length_drop]
      omega
    · -- nothing is left of the doomed sentences
      rw [List.drop_of_length_le (by omega), List.drop_of_length_le (by omega), List.take_nil,
        List.take_nil]
  have hunsent :
      l'.drop (min d.live.length l.length + min d.doomed.length (l.length - d.live.length)) =
      l'.drop (d.live.length + d.doomed.length) := by
    rw [List.drop_eq_drop_iff]
    omega
  simp [withSentences, locked, hlive, hdoomed, hunsent]

/-- Marking a sentence marks it in the list of all. -/
theorem modifyAt_eq_withSentences (i : Nat) (f : Sentence → Sentence) :
    d.modifyAt i f = d.withSentences (d.sentences.modify i f) := by
  rw [← sentences_modifyAt, ← withSentences_self (d.modifyAt i f), sentences_withSentences]
  unfold withSentences locked
  rw [length_live_modifyAt, length_doomed_modifyAt]
  -- which part the sentence is in makes no difference to the rest of the document
  unfold modifyAt
  split
  · rfl
  · split <;> rfl

/-- Taking sentences off the end takes them off the list of all. -/
theorem truncateAt_eq_withSentences (i : Nat) :
    (d.truncateAt i).2 = d.withSentences (d.sentences.take i) := by
  have hlive : (d.sentences.take i).take d.live.length = d.live.take i := by
    rw [List.take_take, sentences, List.append_assoc,
      List.take_append_of_le_length (Nat.min_le_left ..), List.take_eq_take_iff]
    omega
  have hdoomed : ((d.sentences.take i).drop d.live.length).take d.doomed.length =
      d.doomed.take (i - d.live.length) := by
    rw [List.drop_take, sentences, List.append_assoc, List.drop_left, List.take_take,
      List.take_append_of_le_length (Nat.min_le_left ..), List.take_eq_take_iff]
    omega
  have hunsent : (d.sentences.take i).drop d.locked = d.unsent.take (i - d.locked) := by
    rw [List.drop_take, sentences_eq, ← length_sent, List.drop_left]
  rw [truncateAt, withSentences, hlive, hdoomed, hunsent]

/-- A document hears news in the list of its sentences. -/
theorem hear_eq (state : StateId) (news : News) :
    d.hear state news = d.withSentences (Sentence.hearIn state news d.sentences) := by
  have hfind : d.indexOfState? state = d.sentences.findIdx? (·.stateId == some state) := rfl
  unfold hear
  rw [Sentence.hearIn_eq, hfind]
  cases d.sentences.findIdx? (·.stateId == some state) with
  | none => exact (withSentences_self d).symm
  | some i =>
    dsimp only
    cases news.isFailure with
    | false => exact modifyAt_eq_withSentences ..
    | true =>
      simp only [if_true]
      -- a failure marks the sentence and discards those behind it
      rw [truncateAt_eq_withSentences, sentences_modifyAt, modifyAt_eq_withSentences,
        withSentences_withSentences _ _ _ (by simp)]

variable (state other : StateId) (news newer : News)

/-- Hearing two items is hearing them one after the other in the list of sentences. -/
theorem hear_hear_eq :
    (d.hear state news).hear other newer =
      d.withSentences (Sentence.hearIn other newer (Sentence.hearIn state news d.sentences)) := by
  rw [hear_eq, hear_eq, sentences_withSentences,
    withSentences_withSentences _ _ _ (Sentence.length_hearIn_le ..)]

/-- News that is repeated is no news. -/
theorem hear_hear : (d.hear state news).hear state news = d.hear state news := by
  rw [hear_hear_eq, Sentence.hearIn_hearIn, hear_eq]

/-- Which news comes first makes no difference, unless both are errors of one sentence. -/
theorem hear_comm (h : ¬ (news.isFailure = true ∧ newer.isFailure = true ∧ state = other)) :
    (d.hear state news).hear other newer = (d.hear other newer).hear state news := by
  rw [hear_hear_eq, hear_hear_eq, Sentence.hearIn_comm _ _ _ _ _ h]

/-- Whether news is an error of a sentence that is there. -/
def isStruck : Bool :=
  news.isFailure && (d.indexOfState? state).isSome

/-- News that is no error of a sentence leaves it open which other news is. -/
private theorem isStruck_hear (h : d.isStruck state news = false) :
    (d.hear state news).isStruck other newer = d.isStruck other newer := by
  have hstates : (d.hear state news).sentences.map (·.stateId) = d.sentences.map (·.stateId) := by
    rw [hear_eq, sentences_withSentences]
    refine Sentence.map_stateId_hearIn _ _ _ ?_
    simpa [isStruck, indexOfState?, imp_iff_not_or] using h
  have hfound : ∀ d : Document,
      (d.indexOfState? other).isSome = (d.sentences.map (·.stateId)).contains (some other) := by
    intro d
    rw [Bool.eq_iff_iff]
    simp [indexOfState?]
  rw [isStruck, isStruck, hfound, hfound, hstates]

end Document

/-! ## News in a session -/

namespace Session

variable {σ : Type}

/-- The session once news about the sentence with a state has been heard: an error cancels what may
send sentences. -/
def hear (s : Session σ) (state : StateId) (news : News) : Session σ :=
  { s with
    document := s.document.hear state news
    queue := if s.document.isStruck state news then Navigation.dropAdvances s.queue else s.queue
    goalsStale := s.goalsStale || s.document.isStruck state news }

/-- The session once a message, if there is one, is shown. -/
def note (s : Session σ) (logged : Option MessageEntry) : Session σ :=
  match logged with
  | some entry => s.log entry.level entry.text
  | none => s

/-- The session once what feedback says about a sentence has been heard. -/
def heed (s : Session σ) (feedback : Feedback) : Session σ :=
  feedback.content.news?.elim s (s.hear feedback.state)

variable (s : Session σ)

/-- A sentence that is there takes the news, and an error discards those behind it. -/
theorem hear_eq_of_indexOfState? {state : StateId} {i : Nat}
    (hi : s.document.indexOfState? state = some i) (news : News) :
    s.hear state news =
      if news.isFailure then
        { s.dropAdvances with
          document := ((s.document.modifyAt i news.mark).truncateAt (i + 1)).2
          goalsStale := true }
      else { s with document := s.document.modifyAt i news.mark } := by
  unfold hear Document.hear Document.isStruck
  rw [hi]
  cases hf : news.isFailure with
  | false => simp
  | true => simp [dropAdvances]

/-- News about a state that no sentence has is lost. -/
theorem hear_eq_self {state : StateId} (hi : s.document.indexOfState? state = none) (news : News) :
    s.hear state news = s := by
  unfold hear Document.hear Document.isStruck
  simp [hi]

/-- Feedback is heard, and what it says is shown. -/
theorem handleFeedback_eq (hc : s.document.Coherent) (feedback : Feedback) :
    s.handleFeedback feedback = (s.heed feedback).note feedback.content.logged? := by
  have herror : ∀ location message,
      s.sentenceError (s.document.indexOfState? feedback.state) location message =
        (s.hear feedback.state (.failed location message)).log .error message := by
    intro location message
    unfold sentenceError
    cases hi : s.document.indexOfState? feedback.state with
    | none => rw [hear_eq_self s hi]; rfl
    | some i =>
      -- a state belongs to a sentence that has been sent, so marking it cannot fail
      obtain ⟨x, hx, -⟩ := Document.sent_of_indexOfState? hc.stateId_unsent hi
      have hlt := Document.lt_locked_of_sent hx
      rw [hear_eq_of_indexOfState? s hi, Option.bind_some,
        Document.getElem?_sentences_of_lt hlt, hx]
      dsimp only
      rw [Document.markError_eq hc.numbered hx]
      rfl
  unfold handleFeedback heed FeedbackContent.news? FeedbackContent.logged?
  dsimp only
  cases feedback.content with
  | addedAxiom =>
    cases hi : s.document.indexOfState? feedback.state with
    | none => exact (hear_eq_self s hi _).symm
    | some i =>
      have hmark : s.document.markAxiom i = s.document.modifyAt i News.admitted.mark := by
        refine congrArg _ (funext fun x => ?_)
        obtain ⟨id, span, text, state, stateId, processed⟩ := x
        cases state <;> rfl
      simp only [Option.elim, hear_eq_of_indexOfState? s hi, note, hmark]
      rfl
  | processed =>
    cases hi : s.document.indexOfState? feedback.state with
    | none => exact (hear_eq_self s hi _).symm
    | some i =>
      simp only [Option.elim, hear_eq_of_indexOfState? s hi, note]
      rfl
  | errorMsg location message => exact herror location message
  | message level location text =>
    cases level with
    | error => exact herror location text
    | _ => rfl
  | _ => rfl

/-- Hearing two items: the queue and the need for goals depend on whether either is an error of a
sentence. -/
theorem hear_hear_eq (state other : StateId) (news newer : News) :
    (s.hear state news).hear other newer =
      { s with
        document := (s.document.hear state news).hear other newer
        queue :=
          if s.document.isStruck state news || s.document.isStruck other newer then
            Navigation.dropAdvances s.queue
          else s.queue
        goalsStale := s.goalsStale ||
          (s.document.isStruck state news || s.document.isStruck other newer) } := by
  unfold hear
  dsimp only
  cases hstruck : s.document.isStruck state news with
  | false => simp [Document.isStruck_hear _ _ _ _ _ hstruck]
  | true =>
    -- whatever the other item is, the queue has been cut down
    have hagain : Navigation.dropAdvances (Navigation.dropAdvances s.queue) =
        Navigation.dropAdvances s.queue := by
      simp [Navigation.dropAdvances]
    simp [hagain]

/-- News that is repeated is no news. -/
theorem hear_hear (state : StateId) (news : News) :
    (s.hear state news).hear state news = s.hear state news := by
  rw [hear_hear_eq, Document.hear_hear, Bool.or_self, hear]

/-- A session hears two items of news in either order, unless both are failures of one sentence. -/
theorem hear_comm {state other : StateId} {news newer : News}
    (h : ¬ (news.isFailure = true ∧ newer.isFailure = true ∧ state = other)) :
    (s.hear state news).hear other newer = (s.hear other newer).hear state news := by
  rw [hear_hear_eq, hear_hear_eq, Document.hear_comm _ _ _ _ _ h, Bool.or_comm]

/-- A message that is repeated is shown once. -/
private theorem note_note (logged : Option MessageEntry) :
    (s.note logged).note logged = s.note logged := by
  cases logged with
  | none => rfl
  | some entry =>
    simp only [note, log]
    split
    · rfl
    · simp

/-- What is shown has no bearing on what is heard. -/
private theorem hear_note (logged : Option MessageEntry) (state : StateId) (news : News) :
    (s.note logged).hear state news = (s.hear state news).note logged := by
  cases logged with
  | none => rfl
  | some entry =>
    simp only [note, log_eq]
    rfl

/-- Showing something more does not count as a difference. -/
theorem Agrees.note {s s' : Session σ} (h : s.Agrees s') (logged : Option MessageEntry) :
    s.Agrees (s'.note logged) := by
  cases logged with
  | none => exact h
  | some entry => exact h.log entry.level entry.text

/-! ## Feedback in any order -/

/-- What is logged has no part in what feedback does. -/
theorem heed_note (logged : Option MessageEntry) (feedback : Feedback) :
    (s.note logged).heed feedback = (s.heed feedback).note logged := by
  unfold heed
  cases feedback.content.news? with
  | none => rfl
  | some news => exact hear_note s logged feedback.state news

/-- The same feedback twice is the same as once. -/
theorem heed_heed (feedback : Feedback) : (s.heed feedback).heed feedback = s.heed feedback := by
  unfold heed
  cases feedback.content.news? with
  | none => rfl
  | some news => exact hear_hear s feedback.state news

/-- Two items of feedback can come in either order, unless both report an error on one state. -/
theorem heed_comm {first second : Feedback}
    (h : ¬ (first.reportsError = true ∧ second.reportsError = true ∧ first.state = second.state)) :
    (s.heed first).heed second = (s.heed second).heed first := by
  rw [Feedback.reportsError_eq, Feedback.reportsError_eq] at h
  unfold heed
  cases hnews : first.content.news? with
  | none => rfl
  | some news =>
    cases hnewer : second.content.news? with
    | none => rfl
    | some newer =>
      rw [hnews, hnewer, Option.any_some, Option.any_some] at h
      exact hear_comm s h

variable {s} {h : History} [Link σ]

/-- Of two items in a row both are heard, and then both are shown. -/
theorem Run.handleFeedback_handleFeedback (hr : Run h s) (halive : s.isAlive = true)
    (first second : Feedback) :
    (s.handleFeedback first).handleFeedback second =
      (((s.heed first).heed second).note first.content.logged?).note second.content.logged? := by
  have hcoherent : (s.handleFeedback first).document.Coherent :=
    (hr.move (.frame (.feedback first) halive)).orderly.coherent
  rw [handleFeedback_eq _ hcoherent, handleFeedback_eq s hr.orderly.coherent, heed_note]

/-- Feedback may come in any order and more than once: which of two items comes first makes no
difference to the document, to the queue or to whether the goals have to be asked for, unless both
report an error of one state, and an item that is repeated changes nothing. -/
theorem Run.hears_any_order (hr : Run h s) (halive : s.isAlive = true) :
    (∀ first second : Feedback,
      ¬ (first.reportsError = true ∧ second.reportsError = true ∧ first.state = second.state) →
      ((s.handleFeedback first).handleFeedback second).document =
          ((s.handleFeedback second).handleFeedback first).document ∧
        ((s.handleFeedback first).handleFeedback second).queue =
          ((s.handleFeedback second).handleFeedback first).queue ∧
        ((s.handleFeedback first).handleFeedback second).goalsStale =
          ((s.handleFeedback second).handleFeedback first).goalsStale) ∧
    ∀ feedback : Feedback, (s.handleFeedback feedback).handleFeedback feedback =
      s.handleFeedback feedback := by
  refine ⟨fun first second hdistinct => ?_, fun feedback => ?_⟩
  · rw [hr.handleFeedback_handleFeedback halive, hr.handleFeedback_handleFeedback halive,
      heed_comm s hdistinct]
    -- both sides have heard the same, and differ in what they show
    have hshown := fun logged logged' : Option MessageEntry =>
      ((Agrees.refl ((s.heed second).heed first)).note logged).note logged'
    exact ⟨(hshown _ _).document.trans (hshown _ _).document.symm,
      (hshown _ _).queue.trans (hshown _ _).queue.symm,
      (hshown _ _).goalsStale.trans (hshown _ _).goalsStale.symm⟩
  · rw [hr.handleFeedback_handleFeedback halive, heed_heed, note_note,
      handleFeedback_eq s hr.orderly.coherent]

/-- The prover accepts the second sentence too. -/
private theorem handleFrame_bothAnswered :
    (onTwo bothSent (some ⟨.add 1, 0, false⟩) true []).handleFrame (replyFrame (.add ⟨3⟩ none "")) =
      onTwo bothAccepted none true [] := by
  cbv

/-- The second sentence has been checked and the first one is in error, so that it is discarded:
news about it comes before, or too late. -/
theorem hears_any_order_of_bothAccepted :
    ∃ (h : History) (s : Session Channel), Run h s ∧ s.isAlive = true ∧ s.document.ids = [0, 1] ∧
      ((s.handleFeedback ⟨⟨3⟩, .processed⟩).handleFeedback ⟨⟨2⟩,
        .errorMsg none "no"⟩).document.ids = [0] ∧
      ((s.handleFeedback ⟨⟨3⟩, .processed⟩).handleFeedback ⟨⟨2⟩, .errorMsg none "no"⟩).document =
        ((s.handleFeedback ⟨⟨2⟩, .errorMsg none "no"⟩).handleFeedback ⟨⟨3⟩, .processed⟩).document ∧
      (s.handleFeedback ⟨⟨2⟩, .errorMsg none "no"⟩).handleFeedback ⟨⟨2⟩, .errorMsg none "no"⟩ =
        s.handleFeedback ⟨⟨2⟩, .errorMsg none "no"⟩ := by
  obtain ⟨h, hsent⟩ := exists_run_bothSent
  have hr := hsent.move (.frame (replyFrame (.add ⟨3⟩ none "")) rfl)
  rw [handleFrame_bothAnswered] at hr
  obtain ⟨hany, htwice⟩ := hr.hears_any_order rfl
  refine ⟨_, _, hr, rfl, rfl, by cbv, (hany _ _ ?_).1, htwice _⟩
  simp [Feedback.reportsError]

end Session

end ProofDesk
