import ProofDesk.Proofs.Document.WellFormed

/-!
# The sentences of a document as one list with two counters

The parts of a document can be told as the list of all its sentences and two counters: how many of
them have been sent, and where the doomed ones start. The counters cut the list into the parts
(`live_eq_take`, `doomed_eq_drop`, `unsent_eq_drop`). Splitting sentences off and news about them
leave both counters alone, sending a sentence raises the first, discarding from a position on lowers
both to it, and an edit can only move the second one forward (`counts_perform`).
-/

namespace ProofDesk.Document

variable {d d' : Document}

/-- The position of the first doomed sentence, if there is one. -/
def doomedFrom? (d : Document) : Option Nat :=
  if d.doomed = [] then none else some d.live.length

/-- The counter is missing just when nothing waits for a rollback. -/
theorem doomedFrom?_eq_none_iff (d : Document) : d.doomedFrom? = none ↔ d.doomed = [] := by
  simp [doomedFrom?]

/-- The live sentences stand in front of the doomed ones, or are all that have been sent. -/
theorem doomedFrom?_getD (d : Document) : d.doomedFrom?.getD d.locked = d.live.length := by
  unfold doomedFrom?
  split
  · next hd => rw [Option.getD_none, locked, hd, List.length_nil, Nat.add_zero]
  · rfl

/-! ## The parts are cut out by the counters -/

/-- The sentences that have been sent are as many as the first counter says. -/
private theorem sent_eq_take (d : Document) : d.sent = d.sentences.take d.locked := by
  rw [sentences_eq, List.take_left' d.length_sent]

/-- The sentences that have not been sent are those behind the counter of the locked ones. -/
theorem unsent_eq_drop (d : Document) : d.unsent = d.sentences.drop d.locked := by
  rw [sentences_eq, List.drop_left' d.length_sent]

/-- The live sentences are those in front of the first doomed one, or all locked ones. -/
theorem live_eq_take (d : Document) :
    d.live = d.sentences.take (d.doomedFrom?.getD d.locked) := by
  rw [doomedFrom?_getD, sentences, List.append_assoc, List.take_left' rfl]

/-- The doomed sentences are the locked ones from the counter on. -/
theorem doomed_eq_drop (d : Document) :
    d.doomed = (d.sentences.take d.locked).drop (d.doomedFrom?.getD d.locked) := by
  rw [← sent_eq_take, doomedFrom?_getD, sent, List.drop_left' rfl]

/-! ## What operations do to the counters -/

/-- The counters of two documents are the same. -/
structure SameCounters (d d' : Document) : Prop where
  locked : d'.locked = d.locked
  doomedFrom? : d'.doomedFrom? = d.doomedFrom?

/-- The counters tell how many live and how many doomed sentences there are, and no more. -/
theorem sameCounters_of_length (hlive : d'.live.length = d.live.length)
    (hdoomed : d'.doomed.length = d.doomed.length) : d.SameCounters d' := by
  refine ⟨by rw [Document.locked, Document.locked, hlive, hdoomed], ?_⟩
  have hnil : d'.doomed = [] ↔ d.doomed = [] := by
    rw [← List.length_eq_zero_iff, hdoomed, List.length_eq_zero_iff]
  simp only [Document.doomedFrom?, hnil, hlive]

/-- Recording the first state leaves both counters alone. -/
theorem sameCounters_setRoot (d : Document) (state : StateId) : d.SameCounters (d.setRoot state) :=
  ⟨rfl, rfl⟩

/-- Sentences that are split off are not sent yet. -/
theorem Grows.sameCounters (hg : d.Grows d') : d.SameCounters d' := by
  cases hg with
  | refl | push hs he => exact ⟨rfl, rfl⟩

/-- Splitting off a sentence leaves both counters alone. -/
theorem sameCounters_extendNext (d : Document) : d.SameCounters d.extendNext.2 :=
  (grows_extendNext d).sameCounters

/-- Splitting off sentences up to an offset leaves both counters alone. -/
theorem sameCounters_extendTo (d : Document) (offset : Nat) :
    d.SameCounters (d.extendTo offset).2 :=
  (grows_extendTo d offset).sameCounters

/-- News about a sentence leaves it where it is. -/
theorem sameCounters_modifyAt (d : Document) (i : Nat) (f : Sentence → Sentence) :
    d.SameCounters (d.modifyAt i f) :=
  sameCounters_of_length (length_live_modifyAt d i f) (length_doomed_modifyAt d i f)

/-- Marking an axiom leaves both counters alone. -/
theorem sameCounters_markAxiom (d : Document) (i : Nat) : d.SameCounters (d.markAxiom i) :=
  sameCounters_modifyAt d i _

/-- Marking a sentence as checked leaves both counters alone. -/
theorem sameCounters_markProcessed (d : Document) (i : Nat) : d.SameCounters (d.markProcessed i) :=
  sameCounters_modifyAt d i _

/-- Accepting a sentence leaves both counters alone. -/
theorem sameCounters_markValid {id : SentenceId} {state : StateId} {validity : Validity}
    (h : d.markValid id state validity = .ok d') : d.SameCounters d' := by
  obtain ⟨i, -, rfl⟩ := exists_of_lockedIndex h
  exact sameCounters_modifyAt d i _

/-- Refusing a sentence leaves both counters alone. -/
theorem sameCounters_markError {id : SentenceId} {location : Option Location} {message : String}
    (h : d.markError id location message = .ok d') : d.SameCounters d' := by
  obtain ⟨i, -, rfl⟩ := exists_of_lockedIndex h
  exact sameCounters_modifyAt d i _

/-- One more sentence has been sent, and none is doomed. -/
theorem counters_withPending (hd : d.doomed = []) (x : Sentence) (later : List Sentence) :
    (d.withPending x later).locked = d.locked + 1 ∧ d.doomedFrom? = none ∧
      (d.withPending x later).doomedFrom? = none := by
  refine ⟨?_, (doomedFrom?_eq_none_iff d).2 hd, (doomedFrom?_eq_none_iff _).2 hd⟩
  rw [withPending, locked, locked, List.length_append, List.length_singleton, Nat.add_right_comm]

/-- Sending a sentence locks one more, and happens only while nothing is doomed. -/
theorem counters_markPending {id : SentenceId} (h : d.markPending id = .ok d') :
    d'.locked = d.locked + 1 ∧ d.doomedFrom? = none ∧ d'.doomedFrom? = none := by
  obtain ⟨x, later, -, -, hd, rfl⟩ := markPending_eq h
  exact counters_withPending hd x later

/-- No more sentences have been sent than are left. -/
theorem locked_truncateAt (d : Document) (i : Nat) :
    (d.truncateAt i).2.locked = min d.locked i := by
  rw [← length_sent, sent_truncateAt, List.length_take, length_sent, Nat.min_comm]

/-- What is doomed starts where it did, if that is still there. -/
theorem doomedFrom?_truncateAt (d : Document) (i : Nat) :
    (d.truncateAt i).2.doomedFrom? = d.doomedFrom?.filter (· < i) := by
  unfold doomedFrom?
  rw [length_live_truncateAt]
  by_cases hd : d.doomed = []
  · rw [if_pos hd, if_pos (by simp [truncateAt, hd]), Option.filter_none]
  · rw [if_neg hd, Option.filter_some]
    -- the first doomed sentence stands where the live ones end
    by_cases hi : d.live.length < i
    · have hleft : (d.truncateAt i).2.doomed ≠ [] := by
        simp only [truncateAt, Ne, List.take_eq_nil_iff, not_or]
        exact ⟨Nat.sub_ne_zero_of_lt hi, hd⟩
      rw [if_neg hleft, Nat.min_eq_right (Nat.le_of_lt hi), if_pos (by simpa using hi)]
    · have hnone : (d.truncateAt i).2.doomed = [] := by
        simp [truncateAt, Nat.sub_eq_zero_of_le (Nat.not_lt.1 hi)]
      rw [if_pos hnone, if_neg (by simpa using hi)]

/-- Taking the document back to a sentence takes both counters back to its position, if it has
one. -/
theorem counters_truncateTo (d : Document) (id : SentenceId) :
    (d.truncateTo id).2.locked = (d.indexOf? id).elim d.locked (min d.locked) ∧
      (d.truncateTo id).2.doomedFrom? =
        (d.indexOf? id).elim d.doomedFrom? fun i => d.doomedFrom?.filter (· < i) := by
  unfold truncateTo
  cases d.indexOf? id with
  | none => exact ⟨rfl, rfl⟩
  | some i => exact ⟨locked_truncateAt d i, doomedFrom?_truncateAt d i⟩

/-- An edit takes nothing back that has been sent. -/
theorem Edits.locked {outcome : Reconciliation} (he : d.Edits outcome d') :
    d'.locked = d.locked := by
  rw [← length_trail, he.reconciled.trail, length_trail]

/-- Sentences become doomed only by an edit that requires a rollback, and then from the sentence on
that it names, which was live. -/
theorem Edits.doomedFrom? {outcome : Reconciliation} (he : d.Edits outcome d') :
    match outcome with
    | .rollback id => ∃ i x, d'.doomedFrom? = some i ∧ i < d.doomedFrom?.getD d.locked ∧
        d'.sentences[i]? = some x ∧ x.id = id
    | _ => d'.doomedFrom? = d.doomedFrom? := by
  have hlocked := he.locked
  have houtcome := he.reconciled.outcome
  -- where as many sentences are live as before, as many are doomed
  have hsame : d'.live.length = d.live.length → d'.doomedFrom? = d.doomedFrom? := by
    intro hlive
    refine (sameCounters_of_length hlive ?_).doomedFrom?
    unfold Document.locked at hlocked
    omega
  cases outcome with
  | rollback id =>
    obtain ⟨x, hx, hid, hlt, -⟩ := houtcome
    have hdoomed : d'.doomed ≠ [] := by
      intro hnone
      have hle := d.length_live_le
      rw [← hlocked, Document.locked, hnone, List.length_nil] at hle
      exact absurd hlt (Nat.not_lt.2 hle)
    refine ⟨d'.live.length, x, if_neg hdoomed, by rwa [doomedFrom?_getD], ?_, hid⟩
    rw [getElem?_sentences_of_lt (lt_locked_of_sent hx), hx]
  | shifted => exact hsame houtcome
  | dropped => exact hsame houtcome

/-- What can become of the counters of a document. -/
inductive Counts (d d' : Document) : Prop
  /-- They stay as they are. -/
  | same (h : d.SameCounters d')
  /-- One more sentence is sent. -/
  | send (hlocked : d'.locked = d.locked + 1) (hbefore : d.doomedFrom? = none)
    (hafter : d'.doomedFrom? = none)
  /-- The sentences from a position on are discarded. -/
  | cut (i : Nat) (hlocked : d'.locked = min d.locked i)
    (hdoomed : d'.doomedFrom? = d.doomedFrom?.filter (· < i))
  /-- The live sentences from a position on become doomed. -/
  | doom (i : Nat) (hlocked : d'.locked = d.locked) (hdoomed : d'.doomedFrom? = some i)
    (hlt : i < d.doomedFrom?.getD d.locked)

/-- Whatever changes a document changes its counters in one of these ways. -/
theorem Changes.counts (hc : d.Changes d') : d.Counts d' := by
  cases hc with
  | aside root parseError => exact .same ⟨rfl, rfl⟩
  | grow parseError hd hs => exact .same ⟨rfl, rfl⟩
  | send hd hx =>
    obtain ⟨hlocked, hbefore, hafter⟩ := counters_withPending hd _ _
    exact .send hlocked hbefore hafter
  | mark hf hunsent => exact .same (sameCounters_modifyAt d _ _)
  | cut i => exact .cut i (locked_truncateAt d i) (doomedFrom?_truncateAt d i)
  | @edit outcome _ he =>
    have hdoomed := he.doomedFrom?
    cases outcome with
    | rollback id =>
      obtain ⟨i, -, hfrom, hlt, -⟩ := hdoomed
      exact .doom i he.locked hfrom hlt
    | shifted => exact .same ⟨he.locked, hdoomed⟩
    | dropped => exact .same ⟨he.locked, hdoomed⟩

/-- Every operation changes the counters of a document in one of these ways. -/
theorem counts_perform (op : Operation) (hop : op.splits = true → d.doomed = []) :
    d.Counts (d.perform op) :=
  (changes_perform op hop).counts

end ProofDesk.Document
