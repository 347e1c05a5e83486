import Mathlib
import ProofDesk.Proofs.Document.Survival

/-!
# Documents as their operations leave them

Whatever is done to a document, in any order and with any identifiers, positions, offsets and texts,
is one of a few changes (`Changes`): sentences are added behind the last one, sent, marked, taken
off the end, or brought in line with a new text. Each of them keeps a document `WellFormed` and
never gives an identifier to another sentence (`Continues`), so both hold of every document that
operations lead to (`Reached.represents`). Only splitting has a condition: nothing may wait for a
rollback.
-/

namespace ProofDesk

open Text

namespace Document

/-- What can be done to a document. -/
inductive Operation where
  | setRoot (state : StateId)
  | extendNext
  | extendTo (offset : Nat)
  | markPending (id : SentenceId)
  | markValid (id : SentenceId) (state : StateId) (validity : Validity)
  | markAxiom (index : Nat)
  | markProcessed (index : Nat)
  | markError (id : SentenceId) (location : Option Location) (message : String)
  | truncateTo (id : SentenceId)
  | truncateAt (index : Nat)
  | replace (range : Span) (replacement : String)
  | setText (text : String)
  deriving Repr, DecidableEq

/-- Whether an operation splits sentences off the text. -/
def Operation.splits : Operation → Bool
  | extendNext | extendTo _ => true
  | _ => false

/-- The document after an operation. One that is refused leaves it as it was. -/
def perform (d : Document) : Operation → Document
  | .setRoot state => d.setRoot state
  | .extendNext => d.extendNext.2
  | .extendTo offset => (d.extendTo offset).2
  | .markPending id => (d.markPending id).toOption.getD d
  | .markValid id state validity => (d.markValid id state validity).toOption.getD d
  | .markAxiom index => d.markAxiom index
  | .markProcessed index => d.markProcessed index
  | .markError id location message => (d.markError id location message).toOption.getD d
  | .truncateTo id => (d.truncateTo id).2
  | .truncateAt index => (d.truncateAt index).2
  | .replace range replacement => ((d.replace range replacement).toOption.map (·.2)).getD d
  | .setText text => (d.setText text).2

/-- The documents that operations lead to, where nothing is split off while sentences wait for a
rollback. -/
inductive Reached (d : Document) : Document → Prop
  | refl : Reached d d
  | perform {d' : Document} (hr : Reached d d') (op : Operation)
      (hop : op.splits = true → d'.doomed = []) :
    Reached d (d'.perform op)

/-! ## What an operation can do -/

/-- Changing a sentence keeps what it is and where it stands, and that it has been sent. -/
structure Marks (f : Sentence → Sentence) : Prop where
  id : ∀ x, (f x).id = x.id
  place : ∀ x, (f x).place = x.place
  sent : ∀ x, x.state ≠ .unprocessed → (f x).state ≠ .unprocessed

/-- What an operation can do to a document. -/
inductive Changes (d : Document) : Document → Prop
  /-- No sentence changes. -/
  | aside (root : Option StateId) (parseError : Option SplitError) :
    Changes d { d with root, parseError }
  /-- Sentences are split off the text. -/
  | grow {spans : List Span} (parseError : Option SplitError) (hd : d.doomed = [])
    (hs : Sentence.Splits d.text (endOf d.sentences) spans) :
    Changes d { d.push spans with parseError }
  /-- The first unsent sentence is sent. -/
  | send {x : Sentence} {later : List Sentence} (hd : d.doomed = []) (hx : d.unsent = x :: later) :
    Changes d (d.withPending x later)
  /-- There is news about a sentence. -/
  | mark {i : Nat} {f : Sentence → Sentence} (hf : Marks f)
    (hunsent : i < d.locked ∨ ∀ x, x.state = .unprocessed →
      (f x).state = .unprocessed ∧ (f x).stateId = x.stateId) :
    Changes d (d.modifyAt i f)
  /-- Sentences are discarded. -/
  | cut (i : Nat) : Changes d (d.truncateAt i).2
  /-- The text changes. -/
  | edit {outcome : Reconciliation} {d' : Document} (he : d.Edits outcome d') : Changes d d'

/-- What splitting sentences off can do to a document. -/
inductive Grows (d : Document) : Document → Prop
  /-- No sentence is looked for. -/
  | refl : Grows d d
  /-- Sentences are found, and an error that is reported is met behind them. -/
  | push {spans : List Span} {parseError : Option SplitError}
      (hs : Sentence.Splits d.text (endOf d.sentences) spans)
    (he : ∀ e, parseError = some e →
      Sentence.next d.text (Sentence.reach (endOf d.sentences) spans) = .error e) :
    Grows d { d.push spans with parseError }

section Perform

variable {d d' : Document}

theorem push_nil (d : Document) : d.push [] = d := by
  simp [push, sentencesOf]

/-- Where no sentence is found, only what is reported can change. -/
theorem grows_parseError {parseError : Option SplitError}
    (he : ∀ e, parseError = some e → Sentence.next d.text (endOf d.sentences) = .error e) :
    d.Grows { d with parseError } := by
  have hg : d.Grows { d.push [] with parseError } := .push (Sentence.splits_nil _ _) he
  rwa [push_nil] at hg

/-- Splitting off one more sentence adds sentences that stand next in the text. -/
theorem grows_extendNext (d : Document) : d.Grows d.extendNext.2 := by
  unfold extendNext
  split
  · exact .refl
  · unfold splitNext
    split
    · next span hnext =>
      exact .push (Sentence.splits_cons.2 ⟨hnext, Sentence.splits_nil _ _⟩) (by simp)
    · exact grows_parseError (by simp)
    · next e hnext =>
      refine grows_parseError ?_
      rintro _ ⟨⟩
      exact hnext

/-- However far splitting goes, what it finds are the first sentences behind the last one. -/
theorem grows_extendTo (d : Document) (offset : Nat) : d.Grows (d.extendTo offset).2 := by
  unfold extendTo
  split
  · exact .refl
  · generalize hspans : Sentence.spansFrom d.text (endOf d.sentences) = found
    obtain ⟨spans, error?⟩ := found
    -- any first part of what is found could have been found on its own
    have hsplits : ∀ more, more <+: spans → Sentence.Splits d.text (endOf d.sentences) more := by
      intro more hmore
      rwa [Sentence.Splits, hspans]
    -- the sentences that end before the offset, and those behind them
    have hall :=
      List.takeWhile_append_dropWhile (p := fun span : Span => decide (span.stop < offset))
        (l := spans)
    dsimp only
    split
    · next last later hlast =>
      refine .push (hsplits _ ⟨later, ?_⟩) (by simp)
      rw [List.append_assoc, List.singleton_append, ← hlast, hall]
    · exact .push (hsplits _ (List.takeWhile_prefix _)) (by simp)
    · next e hnone =>
      rw [hnone, List.append_nil] at hall
      rw [hall]
      refine .push (hsplits _ (List.prefix_refl _)) ?_
      rintro _ ⟨⟩
      have hnext := Sentence.next_of_snd_eq_some (congrArg Prod.snd hspans)
      rwa [hspans] at hnext

/-- Doing nothing is a change of the least kind. -/
theorem changes_self (d : Document) : d.Changes d :=
  .aside d.root d.parseError

/-- Growing is a change, as long as nothing waits for a rollback. -/
theorem Grows.changes (hg : d.Grows d') (hd : d.doomed = []) : d.Changes d' := by
  cases hg with
  | refl => exact changes_self d
  | push hs he => exact .grow _ hd hs

/-- News from the prover about a sentence changes one that has been sent. -/
theorem exists_of_lockedIndex {id : SentenceId} {f : Sentence → Sentence}
    (h : (d.lockedIndex id).map (d.modifyAt · f) = .ok d') :
    ∃ i, i < d.locked ∧ d' = d.modifyAt i f := by
  unfold lockedIndex at h
  split at h
  · split at h
    · next i _ hi =>
      rw [Except.map, Except.ok.injEq] at h
      exact ⟨i, hi, h.symm⟩
    · simp [Except.map] at h
  · simp [Except.map] at h

/-- Marking a sentence that its identifier finds is a change. -/
theorem changes_of_lockedIndex {id : SentenceId} {f : Sentence → Sentence}
    (h : (d.lockedIndex id).map (d.modifyAt · f) = .ok d') (hf : Marks f) : d.Changes d' := by
  obtain ⟨i, hi, rfl⟩ := exists_of_lockedIndex h
  exact .mark hf (.inl hi)

/-- What is refused changes nothing. -/
theorem of_getD {motive : Document → Prop} {result : Except Refusal Document} (h : motive d)
    (hok : ∀ d', result = .ok d' → motive d') : motive (result.toOption.getD d) := by
  cases result with
  | error refusal => exact h
  | ok d' => exact hok d' rfl

/-- Where there is no sentence with an identifier, nothing is discarded. -/
theorem of_truncateTo {motive : Document → Prop} (id : SentenceId) (h : motive d)
    (hcut : ∀ i, motive (d.truncateAt i).2) : motive (d.truncateTo id).2 := by
  unfold Document.truncateTo
  split
  · exact hcut _
  · exact h

/-- What holds of a document and of every edit of it holds after a replacement, also a refused
one. -/
theorem of_replace {motive : Document → Prop} (range : Span) (replacement : String) (h : motive d)
    (hedit : ∀ outcome d', d.Edits outcome d' → motive d') :
    motive (d.perform (.replace range replacement)) := by
  unfold perform
  dsimp only
  cases hresult : d.replace range replacement with
  | error refusal => exact h
  | ok result => exact hedit _ _ (.replace hresult)

/-- Every operation is one of the changes. -/
theorem changes_perform (op : Operation) (hop : op.splits = true → d.doomed = []) :
    d.Changes (d.perform op) := by
  cases op with
  | setRoot state => exact .aside (some state) d.parseError
  | extendNext => exact (grows_extendNext d).changes (hop rfl)
  | extendTo offset => exact (grows_extendTo d offset).changes (hop rfl)
  | markPending id =>
    refine of_getD (changes_self d) fun d' h => ?_
    obtain ⟨x, later, hx, -, hd, rfl⟩ := markPending_eq h
    exact .send hd hx
  | markValid id state validity =>
    refine of_getD (changes_self d) fun d' h => changes_of_lockedIndex h ?_
    exact ⟨fun _ => rfl, fun _ => rfl, fun _ _ => by simp⟩
  | markError id location message =>
    refine of_getD (changes_self d) fun d' h => changes_of_lockedIndex h ?_
    exact ⟨fun _ => rfl, fun _ => rfl, fun _ _ => by simp⟩
  | markAxiom index =>
    -- a sentence that has not been sent is not marked
    refine .mark ⟨fun x => ?_, fun x => ?_, fun x hx => ?_⟩ (.inr fun x hx => ?_)
    · cases x.state <;> rfl
    · cases x.state <;> rfl
    · cases hstate : x.state <;> simp_all
    · simp [hx]
  | markProcessed index =>
    exact .mark ⟨fun _ => rfl, fun _ => rfl, fun _ hx => hx⟩ (.inr fun _ hx => ⟨hx, rfl⟩)
  | truncateTo id => exact of_truncateTo id (changes_self d) fun i => .cut i
  | truncateAt index => exact .cut index
  | replace range replacement =>
    exact of_replace range replacement (changes_self d) fun _ _ he => .edit he
  | setText text => exact .edit (.setText text)

end Perform

/-! ## What stays true -/

/-- What every operation keeps true of a document. -/
structure WellFormed (d : Document) : Prop where
  numbered : d.Numbered
  sent : ∀ x ∈ d.sent, x.state ≠ .unprocessed
  unsent : ∀ x ∈ d.unsent, x.state = .unprocessed ∧ x.stateId = none
  /-- Nothing is left to be sent behind doomed sentences. -/
  clear : d.doomed ≠ [] → d.unsent = []
  laid : d.Laid
  splits : Sentence.Splits d.text 0 ((d.live ++ d.unsent).map (·.span))

/-- Sentences that are made of spans have those spans. -/
theorem map_span_sentencesOf (text : String) (id : SentenceId) (spans : List Span) :
    (sentencesOf text id spans).map (·.span) = spans := by
  induction spans generalizing id with
  | nil => rfl
  | cons span spans ih => rw [sentencesOf, List.map_cons, ih]

/-- The sentences that splitting finds behind laid ones are laid behind them. -/
theorem Laid.append {text : String} {ss : List Sentence} {spans : List Span}
    (h : ProofDesk.Laid text ss) (hs : Sentence.Splits text (endOf ss) spans) (id : SentenceId) :
    ProofDesk.Laid text (ss ++ sentencesOf text id spans) := by
  induction spans generalizing ss id with
  | nil => rwa [sentencesOf, List.append_nil]
  | cons span spans ih =>
    obtain ⟨hnext, hspans⟩ := Sentence.splits_cons.1 hs
    have hend : endOf (ss ++ sentencesOf text id [span]) = span.stop := by
      simp [endOf, sentencesOf]
    have hmore := ih (h.concat hnext id) (by rwa [hend]) (id + 1)
    rwa [List.append_assoc] at hmore

namespace WellFormed

variable {d d' : Document}

/-- A new document is well-formed. -/
theorem ofText (text : String) : (ofText text).WellFormed :=
  ⟨numbered_ofText text, by simp [Document.sent, Document.ofText], by simp [Document.ofText],
    by simp [Document.ofText], .ofText text, Sentence.splits_nil _ _⟩

/-- A document stays well-formed when sentences that stand next in its text are split off. -/
theorem grow (h : d.WellFormed) (hd : d.doomed = []) {spans : List Span}
    (parseError : Option SplitError) (hs : Sentence.Splits d.text (endOf d.sentences) spans) :
    { d.push spans with parseError }.WellFormed := by
  have hn := numbered_push h.numbered spans
  have hall : d.sentences = d.live ++ d.unsent := by rw [sentences, hd, List.append_nil]
  rw [hall] at hs
  refine ⟨⟨hn.increasing, hn.fresh⟩, h.sent, fun x hx => ?_, fun hne => absurd hd hne, ?_, ?_⟩
  · rcases List.mem_append.1 hx with hx | hx
    · exact h.unsent x hx
    · -- a sentence that has just been split off was never sent
      have hu := untouched_of_mem_sentencesOf hx
      exact ⟨hu.state, hu.stateId⟩
  · show ProofDesk.Laid d.text (d.live ++ (d.unsent ++ sentencesOf d.text d.nextId spans))
    rw [← List.append_assoc]
    exact Laid.append h.laid hs _
  · show Sentence.Splits d.text 0
      ((d.live ++ (d.unsent ++ sentencesOf d.text d.nextId spans)).map (·.span))
    rw [← List.append_assoc, List.map_append, map_span_sentencesOf, Sentence.splits_append,
      Sentence.reach_map_span]
    exact ⟨h.splits, hs⟩

/-- A document stays well-formed when its first unsent sentence is sent. -/
theorem withPending (h : d.WellFormed) (hd : d.doomed = []) {x : Sentence} {later : List Sentence}
    (hx : d.unsent = x :: later) : (d.withPending x later).WellFormed := by
  refine ⟨numbered_withPending h.numbered hd hx, fun y hy => ?_, fun y hy => ?_,
    fun hne => absurd hd hne, h.laid.withPending hx, ?_⟩
  · simp only [Document.sent, Document.withPending, hd, List.append_nil, List.mem_append,
      List.mem_singleton] at hy
    rcases hy with hy | rfl
    · exact h.sent y (List.mem_append_left _ hy)
    · simp
  · exact h.unsent y (hx ▸ List.mem_cons_of_mem _ hy)
  · have hs := h.splits
    rw [hx] at hs
    simpa [Document.withPending] using hs

/-- A document stays well-formed when a sentence is marked, unless it would pass for sent. -/
theorem modifyAt (h : d.WellFormed) {i : Nat} {f : Sentence → Sentence} (hf : Marks f)
    (hunsent : i < d.locked ∨ ∀ x, x.state = .unprocessed →
      (f x).state = .unprocessed ∧ (f x).stateId = x.stateId) :
    (d.modifyAt i f).WellFormed := by
  refine ⟨h.numbered.modifyAt i hf.id, fun y hy => ?_, fun y hy => ?_, fun hne => ?_,
    h.laid.modifyAt i hf.place, ?_⟩
  · rcases Nat.lt_or_ge i d.locked with hi | hi
    · rw [sent_modifyAt hi] at hy
      obtain ⟨x, hx, rfl | rfl⟩ := exists_of_mem_modify hy
      · exact h.sent y hx
      · exact hf.sent x (h.sent x hx)
    · rw [sent_modifyAt_of_le hi] at hy
      exact h.sent y hy
  · rcases Nat.lt_or_ge i d.locked with hi | hi
    · rw [unsent_modifyAt hi] at hy
      exact h.unsent y hy
    · -- only an unsent sentence could pass for sent, which the hypothesis excludes
      rw [unsent_modifyAt_of_le hi] at hy
      obtain ⟨x, hx, rfl | rfl⟩ := exists_of_mem_modify hy
      · exact h.unsent y hx
      · obtain ⟨hstate, hid⟩ := h.unsent x hx
        obtain ⟨hstate', hid'⟩ := hunsent.resolve_left (Nat.not_lt.2 hi) x hstate
        exact ⟨hstate', hid'.trans hid⟩
  · -- marking changes no lengths, so what was clear stays clear
    have hempty := h.clear fun he => hne ((doomed_modifyAt_eq_nil_iff ..).2 he)
    rw [← List.length_eq_zero_iff] at hempty ⊢
    rcases Nat.lt_or_ge i d.locked with hi | hi
    · rwa [unsent_modifyAt hi]
    · rwa [unsent_modifyAt_of_le hi, List.length_modify]
  · have hspan : ∀ x, (f x).span = x.span := fun x => congrArg Prod.fst (hf.place x)
    rw [text_modifyAt, map_live_append_unsent_modifyAt hspan]
    exact h.splits

/-- A document stays well-formed when sentences are taken off its end. -/
theorem truncateAt (h : d.WellFormed) (i : Nat) : (d.truncateAt i).2.WellFormed := by
  refine ⟨h.numbered.truncateAt i, fun x hx => ?_, fun x hx => h.unsent x (List.mem_of_mem_take hx),
    clear_truncateAt h.clear i, h.laid.truncateAt i,
    h.splits.of_prefix ((live_append_unsent_truncateAt d i).map _)⟩
  rw [sent_truncateAt] at hx
  exact h.sent x (List.mem_of_mem_take hx)

/-- What an edit leaves live or unsent is found first in the new text. -/
theorem edit (h : d.WellFormed) {outcome : Reconciliation} (he : d.Edits outcome d') :
    d'.WellFormed := by
  have hr := he.reconciled
  refine ⟨hr.numbered h.numbered, fun y hy => ?_, fun y hy => ?_, hr.clear h.clear,
    he.laid h.clear h.laid, ?_⟩
  · -- an edit moves sentences and drops some; what has become of them stays
    obtain ⟨x, hx, hxy⟩ := hr.exists_of_mem_sent hy
    have hstate : x.unplaced.state = y.unplaced.state := congrArg Sentence.state hxy
    exact hstate ▸ h.sent x hx
  · obtain ⟨x, hx, hxy⟩ := hr.exists_of_mem_unsent hy
    have hstate : x.unplaced.state = y.unplaced.state := congrArg Sentence.state hxy
    have hid : x.unplaced.stateId = y.unplaced.stateId := congrArg Sentence.stateId hxy
    exact ⟨hstate.symm.trans (h.unsent x hx).1, hid.symm.trans (h.unsent x hx).2⟩
  · rcases he.eq_or_turns with ⟨-, rfl⟩ | ⟨text, e, hturns, hreconcile⟩
    · exact h.splits
    · -- what survives the comparison is what a fresh split of the new text finds first
      have hactive := active_eq (d := { d with text }) h.clear
      have hlaid : ProofDesk.Laid d.text ({ d with text } : Document).active := hactive ▸ h.laid
      have hsplits : Sentence.Splits d.text 0 (({ d with text } : Document).active.map (·.span)) :=
        hactive ▸ h.splits
      have hkept := splits_comparison hturns hsplits
      rw [← live_append_unsent_reconcile (d := { d with text }) h.clear hlaid, hreconcile] at hkept
      have htext := text_reconcile { d with text } e
      rw [hreconcile] at htext
      rwa [htext]

/-- Every change keeps a document well-formed. -/
theorem changes (h : d.WellFormed) (hc : d.Changes d') : d'.WellFormed := by
  cases hc with
  | aside root parseError =>
    exact ⟨⟨h.numbered.increasing, h.numbered.fresh⟩, h.sent, h.unsent, h.clear, h.laid, h.splits⟩
  | grow parseError hd hs => exact h.grow hd parseError hs
  | send hd hx => exact h.withPending hd hx
  | mark hf hunsent => exact h.modifyAt hf hunsent
  | cut i => exact h.truncateAt i
  | edit he => exact h.edit he

end WellFormed

/-- Whatever is done to a well-formed document leaves it well-formed. -/
theorem Reached.wellFormed {d d' : Document} (hr : Reached d d') (h : d.WellFormed) :
    d'.WellFormed := by
  induction hr with
  | refl => exact h
  | perform _ op hop ih => exact ih.changes (changes_perform op hop)

/-! ## Identifiers -/

namespace Changes

variable {d d' : Document}

/-- No change takes back a number that was given out. -/
theorem nextId_le (hc : d.Changes d') : d.nextId ≤ d'.nextId := by
  cases hc with
  | aside | send | cut => exact Nat.le_refl _
  | grow => exact Nat.le_add_right _ _
  | mark => exact Nat.le_of_eq (nextId_modifyAt ..).symm
  | edit he => exact Nat.le_of_eq he.reconciled.nextId.symm

/-- A sentence is one that there was, or has just been split off and been given an identifier. -/
theorem same_or_new (hc : d.Changes d') : ∀ y ∈ d'.sentences,
    (∃ x ∈ d.sentences, x.id = y.id ∧ x.text = y.text) ∨ d.nextId ≤ y.id ∧ y ∈ d'.unsent := by
  intro y hy
  cases hc with
  | aside root parseError => exact .inl ⟨y, hy, rfl, rfl⟩
  | @grow spans parseError hd hs =>
    have hall : ({ d.push spans with parseError } : Document).sentences =
        d.sentences ++ sentencesOf d.text d.nextId spans := sentences_push d spans
    rw [hall] at hy
    rcases List.mem_append.1 hy with hy | hy
    · exact .inl ⟨y, hy, rfl, rfl⟩
    -- what is new is numbered from `nextId` on
    · have hid := List.mem_map_of_mem (f := (·.id)) hy
      rw [map_id_sentencesOf] at hid
      exact .inr ⟨(List.mem_range'_1.1 hid).1, List.mem_append_right _ hy⟩
  | @send x later hd hx =>
    simp only [sentences, withPending, hd, List.append_nil, List.append_assoc, List.mem_append,
      List.mem_singleton] at hy
    have hmem : ∀ z, z ∈ d.live ∨ z ∈ x :: later → z ∈ d.sentences := by
      intro z hz
      rwa [sentences, hd, List.append_nil, hx, List.mem_append]
    rcases hy with hy | rfl | hy
    · exact .inl ⟨y, hmem y (.inl hy), rfl, rfl⟩
    · exact .inl ⟨x, hmem x (.inr List.mem_cons_self), rfl, rfl⟩
    · exact .inl ⟨y, hmem y (.inr (List.mem_cons_of_mem _ hy)), rfl, rfl⟩
  | @mark i f hf hunsent =>
    rw [sentences_modifyAt] at hy
    obtain ⟨x, hx, rfl | rfl⟩ := exists_of_mem_modify hy
    · exact .inl ⟨_, hx, rfl, rfl⟩
    · exact .inl ⟨x, hx, (hf.id x).symm, (congrArg Prod.snd (hf.place x)).symm⟩
  | cut i =>
    rw [sentences_truncateAt] at hy
    exact .inl ⟨y, List.mem_of_mem_take hy, rfl, rfl⟩
  | edit he =>
    -- an edit only moves sentences
    obtain ⟨x, hx, hxy⟩ := he.reconciled.exists_of_mem_sentences hy
    have hid : x.unplaced.id = y.unplaced.id := congrArg Sentence.id hxy
    have htext : x.unplaced.text = y.unplaced.text := congrArg Sentence.text hxy
    exact .inl ⟨x, hx, hid, htext⟩

end Changes

/-- The sentences of `d'` are sentences of `d` or have identifiers that `d` has not given yet. -/
structure Continues (d d' : Document) : Prop where
  nextId_le : d.nextId ≤ d'.nextId
  same : ∀ y ∈ d'.sentences, (∃ x ∈ d.sentences, x.id = y.id ∧ x.text = y.text) ∨ d.nextId ≤ y.id

namespace Continues

variable {d d' d'' : Document}

/-- A document goes on from itself. -/
theorem refl (d : Document) : d.Continues d :=
  ⟨Nat.le_refl _, fun y hy => .inl ⟨y, hy, rfl, rfl⟩⟩

/-- Going on and on is going on. -/
theorem trans (h : d.Continues d') (h' : d'.Continues d'') : d.Continues d'' := by
  refine ⟨Nat.le_trans h.nextId_le h'.nextId_le, fun z hz => ?_⟩
  rcases h'.same z hz with ⟨y, hy, hid, htext⟩ | hfresh
  · rw [← hid, ← htext]
    exact h.same y hy
  · exact .inr (Nat.le_trans h.nextId_le hfresh)

/-- A document that was changed goes on from the one before. -/
theorem of_changes (hc : d.Changes d') : d.Continues d' :=
  ⟨hc.nextId_le, fun y hy => (hc.same_or_new y hy).imp_right And.left⟩

/-- An identifier that has been given does not return once its sentence is gone. -/
theorem not_mem_ids (h : d.Continues d') {id : SentenceId} (hid : id < d.nextId)
    (hgone : id ∉ d.ids) :
    id ∉ d'.ids := by
  intro hmem
  obtain ⟨y, hy, rfl⟩ := List.mem_map.1 hmem
  rcases h.same y hy with ⟨x, hx, hxy, -⟩ | hfresh
  · exact hgone (hxy ▸ List.mem_map_of_mem hx)
  · exact absurd hid (Nat.not_lt.2 hfresh)

/-- An identifier that is still there belongs to the sentence that it was given to. -/
theorem text_eq (h : d.Continues d') (hn : d.Numbered) {x y : Sentence} (hx : x ∈ d.sentences)
    (hy : y ∈ d'.sentences) (hid : x.id = y.id) : x.text = y.text := by
  rcases h.same y hy with ⟨x', hx', hid', htext⟩ | hfresh
  · obtain ⟨i, hi⟩ := List.mem_iff_getElem?.1 hx
    obtain ⟨j, hj⟩ := List.mem_iff_getElem?.1 hx'
    -- only one sentence has the identifier
    have hsame := hn.sentence? hi
    rw [hid, ← hid', hn.sentence? hj, Option.some.injEq] at hsame
    rw [← hsame, htext]
  · have hlt := hn.fresh _ (List.mem_map_of_mem hx)
    rw [hid] at hlt
    exact absurd hlt (Nat.not_lt.2 hfresh)

end Continues

/-- A document that operations lead to goes on from the one where they started. -/
theorem Reached.continues {d d' : Document} (hr : Reached d d') : d.Continues d' := by
  induction hr with
  | refl => exact .refl d
  | perform _ op hop ih => exact ih.trans (.of_changes (changes_perform op hop))

/-! ## What a document promises -/

/-- What the parts of a document promise of each other. -/
structure Represents (d : Document) : Prop where
  locked_le : d.locked ≤ d.sentences.length
  /-- Doomed sentences begin among those that have been sent. -/
  doomed : d.doomed ≠ [] → d.live.length < d.locked
  increasing : d.ids.Pairwise (· < ·)
  sent : ∀ (i : Nat) (x : Sentence), d.sentences[i]? = some x → i < d.locked →
    x.state ≠ .unprocessed
  unsent : ∀ (i : Nat) (x : Sentence), d.sentences[i]? = some x → d.locked ≤ i →
    x.state = .unprocessed ∧ x.stateId = none
  /-- The sentences in front of the doomed ones are the first that splitting the text finds. -/
  spans : d.active.map (·.span) <+: (Sentence.spansFrom d.text 0).1
  reads : ∀ x ∈ d.active, IsBoundary d.text.toList x.span.start ∧
    IsBoundary d.text.toList x.span.stop ∧
    slice d.text.toList x.span.start x.span.stop = x.text.toList

/-- The parts of a well-formed document fit each other. -/
theorem represents_of_wellFormed {d : Document} (h : d.WellFormed) : d.Represents := by
  -- the live and the unsent sentences are what stands in the text
  have hactive := active_eq h.clear
  refine ⟨?_, fun hd => ?_, h.numbered.increasing, fun i x hx hi => ?_, fun i x hx hi => ?_, ?_,
    fun x hx => ?_⟩
  · rw [sentences_eq, List.length_append, length_sent]
    exact Nat.le_add_right _ _
  · have hpos := List.length_pos_of_ne_nil hd
    rw [locked]
    omega
  · rw [getElem?_sentences_of_lt hi] at hx
    exact h.sent x (List.mem_of_getElem? hx)
  · rw [sentences_eq, List.getElem?_append_right (by rwa [length_sent])] at hx
    exact h.unsent x (List.mem_of_getElem? hx)
  · rw [hactive]
    exact h.splits
  · rw [hactive] at hx
    exact (h.laid.placed x hx).reads

/-- Whatever is done to a new document, its parts fit each other, and an identifier stays with the
sentence that it was given to, also after that is discarded. -/
theorem Reached.represents {text : String} {d : Document} (hr : Reached (ofText text) d) :
    d.Represents ∧
    (∀ d' d'', Reached d d' → Reached d' d'' → ∀ id ∈ d.ids, id ∉ d'.ids → id ∉ d''.ids) ∧
    ∀ d', Reached d d' → ∀ x ∈ d.sentences, ∀ y ∈ d'.sentences, x.id = y.id → x.text = y.text := by
  have h := hr.wellFormed (.ofText text)
  refine ⟨represents_of_wellFormed h, fun d' d'' hr' hr'' id hid hgone => ?_,
    fun d' hr' x hx y hy hxy => ?_⟩
  · have hlt := Nat.lt_of_lt_of_le (h.numbered.fresh id hid) hr'.continues.nextId_le
    exact hr''.continues.not_mem_ids hlt hgone
  · exact hr'.continues.text_eq h.numbered hx hy hxy

/-! ## A document with two sentences -/

/-- The text "A. B." with its first sentence sent. -/
def sentFirst : Document :=
  { ofText "A. B." with live := [⟨0, ⟨0, 2⟩, "A.", .pending, none, false⟩], nextId := 1 }

/-- The text "A. B." with its first sentence sent and its second one split off. -/
def sentFirstOfTwo : Document :=
  { sentFirst with unsent := [⟨1, ⟨3, 5⟩, "B.", .unprocessed, none, false⟩], nextId := 2 }

private theorem perform_sentFirst :
    ((ofText "A. B.").perform .extendNext).perform (.markPending 0) = sentFirst := by
  cbv

private theorem perform_sentFirstOfTwo : sentFirst.perform .extendNext = sentFirstOfTwo := by
  cbv

/-- Operations lead to the document of which the first sentence was sent. -/
theorem reached_sentFirst : Reached (ofText "A. B.") sentFirst := by
  have hstart : Reached (ofText "A. B.") (ofText "A. B.") := .refl
  have hfirst :=
    (hstart.perform .extendNext fun _ => rfl).perform (.markPending 0) (by simp [Operation.splits])
  rwa [perform_sentFirst] at hfirst

/-- Operations lead to the document of two sentences of which the first was sent. -/
theorem reached_sentFirstOfTwo : Reached (ofText "A. B.") sentFirstOfTwo := by
  have hsecond := reached_sentFirst.perform .extendNext fun _ => rfl
  rwa [perform_sentFirstOfTwo] at hsecond

/-- The text "A.B." that is left when the blank between two sentences is deleted, with the first of
them doomed. -/
def joined : Document :=
  { sentFirst with text := "A.B.", live := [], doomed := sentFirst.live, nextId := 2 }

/-- Deleting the blank requires a rollback of the first sentence. -/
theorem replace_joined : sentFirstOfTwo.replace ⟨2, 3⟩ "" = .ok (.rollback 0, joined) := by
  cbv

/-- Deleting the blank leads on to the joined text. -/
theorem reached_joined {d : Document} (hr : Reached d sentFirstOfTwo) : Reached d joined := by
  have hedit := hr.perform (.replace ⟨2, 3⟩ "") (by simp [Operation.splits])
  rwa [perform, replace_joined] at hedit

/-- Two sentences become one: the first one is doomed, and the second one is gone for good. -/
theorem represents_of_joined :
    ∃ d, Reached (ofText "A. B.") d ∧ d.text = "A.B." ∧ d.doomed ≠ [] ∧ d.Represents ∧
    ∀ d', Reached d d' → 1 ∉ d'.ids := by
  obtain ⟨hrepresents, -, -⟩ := (reached_joined reached_sentFirstOfTwo).represents
  obtain ⟨-, hgone, -⟩ := reached_sentFirstOfTwo.represents
  refine ⟨joined, reached_joined reached_sentFirstOfTwo, rfl, by simp [joined, sentFirst],
    hrepresents, ?_⟩
  exact fun d' hr => hgone joined d' (reached_joined .refl) hr 1 (by decide) (by decide)

end Document

end ProofDesk
