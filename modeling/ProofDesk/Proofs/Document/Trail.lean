import Mathlib.Data.List.Basic
import Mathlib.Tactic.Common
import ProofDesk.Document.Edit

/-!
# What has been sent of a document

The conversation with the prover knows a sentence by its identifier, its text, the state after it,
how far it has got and whether it has been checked, and not by its place. `Document.trail` is the
list of these entries for the sentences that have been sent. Every operation of a document has a
short description in terms of the trail:

* edits, splitting and news about axioms leave it alone (`Reconciled.trail`, `Extends.trail`,
  `trail_markAxiom`);
* sending a sentence appends an entry (`trail_withPending`);
* an answer, or the news that a sentence has been checked, changes one entry (`trail_modifyAt`);
* discarding sentences cuts it off (`trail_truncateAt`).

How much of the trail is live is told by the number of live sentences.
-/

namespace ProofDesk

/-- How far a sentence has got, without the details. -/
inductive Phase where
  | unprocessed | pending | valid | error
  deriving Repr, DecidableEq, Inhabited

/-- The phase of a state. -/
def SentenceState.phase : SentenceState → Phase
  | unprocessed => .unprocessed
  | pending => .pending
  | valid _ => .valid
  | error .. => .error

/-- A sentence without its place in the text. -/
structure Entry where
  id : SentenceId
  text : String
  stateId : Option StateId
  phase : Phase
  processed : Bool
  deriving Repr, DecidableEq, Inhabited

namespace Entry

/-- The entry has been accepted, and the state after it is known. -/
def Settled (e : Entry) : Prop :=
  e.phase = .valid ∧ e.stateId.isSome

/-- What an entry says of a sentence that has been sent: a state is known once it is accepted, and
there is no news while it waits for its answer. -/
def Sound (e : Entry) : Prop :=
  match e.phase with
  | .unprocessed => False
  | .pending => e.stateId = none ∧ e.processed = false
  | .valid => e.stateId.isSome
  | .error => True

/-- The entry with the prover in `state` after it. -/
def accepted (e : Entry) (state : StateId) : Entry :=
  { e with phase := .valid, stateId := some state }

/-- The entry in error. -/
def refused (e : Entry) : Entry :=
  { e with phase := .error }

/-- The entry once it has been checked. -/
def checked (e : Entry) : Entry :=
  { e with processed := true }

/-- An accepted entry with a state says what such an entry must. -/
theorem Settled.sound {e : Entry} (h : e.Settled) : e.Sound := by
  rw [Sound, h.1]
  exact h.2

end Entry

namespace Sentence

/-- The entry of a sentence. -/
def entry (x : Sentence) : Entry :=
  ⟨x.id, x.text, x.stateId, x.state.phase, x.processed⟩

/-- The sentence without its place. -/
def unplaced (x : Sentence) : Sentence :=
  { x with span := default }

/-- The sentence with the prover in `state` after it. -/
def accepted (x : Sentence) (state : StateId) : Sentence :=
  { x with state := .valid .ordinary, stateId := some state }

/-- The sentence in error. -/
def refused (x : Sentence) (location : Option Location) (message : String) : Sentence :=
  { x with state := .error (Document.errorRange x.size location) message }

@[simp] theorem id_entry (x : Sentence) : x.entry.id = x.id := rfl

@[simp] theorem text_entry (x : Sentence) : x.entry.text = x.text := rfl

@[simp] theorem stateId_entry (x : Sentence) : x.entry.stateId = x.stateId := rfl

@[simp] theorem phase_entry (x : Sentence) : x.entry.phase = x.state.phase := rfl

@[simp] theorem processed_entry (x : Sentence) : x.entry.processed = x.processed := rfl

@[simp] theorem entry_unplaced (x : Sentence) : x.unplaced.entry = x.entry := rfl

@[simp] theorem id_unplaced (x : Sentence) : x.unplaced.id = x.id := rfl

@[simp] theorem unplaced_shift (x : Sentence) (delta : Int) :
    (x.shift delta).unplaced = x.unplaced := rfl

/-- A sentence is in error exactly when its phase says so. -/
theorem isError_iff (x : Sentence) : x.isError = true ↔ x.entry.phase = .error := by
  unfold isError entry SentenceState.phase
  cases x.state <;> simp

end Sentence

/-! ## Lists that are changed at one place -/

/-- Changing an element and mapping is mapping and changing the image. -/
theorem map_modify_of_comm {α β : Type} {f : α → α} {g : β → β} {m : α → β}
    (h : ∀ a, m (f a) = g (m a))
    (l : List α) (i : Nat) : (l.modify i f).map m = (l.map m).modify i g := by
  refine List.ext_getElem? fun j => ?_
  rw [List.getElem?_map, List.getElem?_modify, List.getElem?_modify, List.getElem?_map]
  by_cases hij : i = j
  -- at the place that is changed, and at any other
  · cases l[j]? <;> simp [hij, h]
  · cases l[j]? <;> simp [hij]

theorem map_modify_of_eq {α β : Type} {f : α → α} {m : α → β} (h : ∀ a, m (f a) = m a)
    (l : List α) (i : Nat) :
    (l.modify i f).map m = l.map m := by
  rw [map_modify_of_comm (g := id) h, List.modify_id]

theorem modify_append_eq {α : Type} (f : α → α) (as bs : List α) (i : Nat) :
    (as ++ bs).modify i f =
      if i < as.length then as.modify i f ++ bs else as ++ bs.modify (i - as.length) f := by
  -- the lists are compared place by place, on either side of the seam
  refine List.ext_getElem? fun j => ?_
  split
  · next h =>
    rw [List.getElem?_modify, List.getElem?_append, List.getElem?_append, List.length_modify]
    by_cases hj : j < as.length
    · rw [if_pos hj, if_pos hj, List.getElem?_modify]
    · have hij : i ≠ j := by omega
      simp [hj, hij]
  · next h =>
    rw [List.getElem?_modify, List.getElem?_append, List.getElem?_append]
    by_cases hj : j < as.length
    · have hij : i ≠ j := by omega
      simp [hj, hij]
    · have hij : i = j ↔ i - as.length = j - as.length := by omega
      rw [if_neg hj, if_neg hj, List.getElem?_modify]
      simp only [hij]

/-- What is changed in a list is changed in its last element, once what follows is cut off. -/
theorem take_succ_modify {α : Type} {f : α → α} {l : List α} {i : Nat} {a : α}
    (h : l[i]? = some a) :
    (l.modify i f).take (i + 1) = l.take i ++ [f a] := by
  obtain ⟨hi, rfl⟩ := List.getElem?_eq_some_iff.1 h
  -- the element is the last one of what is taken
  have hlen : (l.take i).length = i := by
    rw [List.length_take, Nat.min_eq_left (Nat.le_of_lt hi)]
  rw [List.modify_eq_take_cons_drop hi, List.take_append, hlen, Nat.add_sub_cancel_left,
    List.take_of_length_le (by omega)]
  rfl

/-- An element of a changed list is an old one, or the image of one. -/
theorem exists_of_mem_modify {α : Type} {f : α → α} {l : List α} {i : Nat} {b : α}
    (h : b ∈ l.modify i f) :
    ∃ a ∈ l, b = a ∨ b = f a := by
  obtain ⟨j, hj⟩ := List.mem_iff_getElem?.1 h
  rw [List.getElem?_modify] at hj
  obtain ⟨a, ha, rfl⟩ := Option.map_eq_some_iff.1 hj
  refine ⟨a, List.mem_of_getElem? ha, ?_⟩
  split
  · exact .inr rfl
  · exact .inl rfl

/-- What stands at a position of a front part stands there in the whole, behind the same items. -/
theorem getElem?_of_front {α : Type} {l l' : List α} (h : l' <+: l) {i : Nat} {a : α}
    (ha : l'[i]? = some a) :
    l[i]? = some a ∧ l.take i = l'.take i := by
  obtain ⟨rest, rfl⟩ := h
  have hi := (List.getElem?_eq_some_iff.1 ha).1
  exact ⟨by rw [List.getElem?_append_left hi, ha], List.take_append_of_le_length (Nat.le_of_lt hi)⟩

/-- What stands at a position of a list with one item more is of the list, or that item. -/
theorem eq_or_eq_of_concat {α : Type} {l : List α} {a b : α} {i : Nat}
    (h : (l ++ [b])[i]? = some a) :
    i < l.length ∧ l[i]? = some a ∨ i = l.length ∧ a = b := by
  rcases Nat.lt_trichotomy i l.length with hlt | rfl | hgt
  · rw [List.getElem?_append_left hlt] at h
    exact .inl ⟨hlt, h⟩
  · rw [List.getElem?_concat_length, Option.some.injEq] at h
    exact .inr ⟨rfl, h.symm⟩
  · rw [List.getElem?_eq_none (by simpa using Nat.succ_le_of_lt hgt)] at h
    simp at h

namespace Document

/-! ## The sentences that have been sent -/

/-- The sentences that have been sent, whether or not they are still part of the text as sent. -/
def sent (d : Document) : List Sentence :=
  d.live ++ d.doomed

/-- The entries of the sentences that have been sent. -/
def trail (d : Document) : List Entry :=
  d.sent.map Sentence.entry

/-- The identifiers of all sentences, in order. -/
def ids (d : Document) : List SentenceId :=
  d.sentences.map (·.id)

/-- The sentences of a document are those that were sent, followed by those that were not. -/
theorem sentences_eq (d : Document) : d.sentences = d.sent ++ d.unsent := rfl

@[simp] theorem length_sent (d : Document) : d.sent.length = d.locked := by
  rw [sent, List.length_append, locked]

@[simp] theorem length_trail (d : Document) : d.trail.length = d.locked := by
  rw [trail, List.length_map, length_sent]

/-- No more sentences are live than have been sent. -/
theorem length_live_le (d : Document) : d.live.length ≤ d.locked :=
  Nat.le_add_right _ _

/-- Nothing is doomed just when all sentences that were sent are live. -/
theorem doomed_eq_nil_iff (d : Document) : d.doomed = [] ↔ d.live.length = d.trail.length := by
  rw [length_trail, locked, ← List.length_eq_zero_iff]
  omega

/-- The trail tells the identifiers of the sentences that were sent. -/
theorem map_id_trail (d : Document) : d.trail.map (·.id) = d.sent.map (·.id) := by
  rw [trail, List.map_map]
  rfl

/-- The identifiers of a document are those of the trail, followed by those of the unsent
sentences. -/
theorem ids_eq (d : Document) : d.ids = d.trail.map (·.id) ++ d.unsent.map (·.id) := by
  rw [ids, sentences_eq, List.map_append, map_id_trail]

/-- The trail holds at each position the entry of the sentence that was sent there. -/
theorem getElem?_trail (d : Document) (i : Nat) : d.trail[i]? = d.sent[i]?.map Sentence.entry := by
  rw [trail, List.getElem?_map]

/-- In front of the unsent sentences stand those that were sent. -/
theorem getElem?_sentences_of_lt {d : Document} {i : Nat} (h : i < d.locked) :
    d.sentences[i]? = d.sent[i]? := by
  rw [sentences_eq, List.getElem?_append_left (by simpa using h)]

/-- A sentence that was sent stands in the locked part. -/
theorem lt_locked_of_sent {d : Document} {i : Nat} {x : Sentence} (hx : d.sent[i]? = some x) :
    i < d.locked := by
  rw [← length_sent]
  exact (List.getElem?_eq_some_iff.1 hx).1

/-- A document of which nothing has been split off has no trail. -/
@[simp] theorem trail_ofText (text : String) : (ofText text).trail = [] := rfl

/-! ## The state before a sentence -/

/-- The last state known among some entries; `root` if there is none. -/
def lastState (root : Option StateId) (es : List Entry) : Option StateId :=
  es.reverse.findSome? (·.stateId) <|> root

@[simp] theorem lastState_nil (root : Option StateId) : lastState root [] = root := by
  cases root <;> rfl

/-- The last state is that of the last entry, if it has one. -/
theorem lastState_concat (root : Option StateId) (es : List Entry) (e : Entry) :
    lastState root (es ++ [e]) = (e.stateId <|> lastState root es) := by
  unfold lastState
  rw [List.reverse_concat, List.findSome?_cons]
  cases e.stateId <;> rfl

/-- The state before a sentence that has been sent, or is the next to be sent, is told by the
trail. -/
theorem stateBefore_eq {d : Document} {index : Nat} (h : index ≤ d.locked) :
    d.stateBefore index = lastState d.root (d.trail.take index) := by
  unfold stateBefore lastState
  -- nothing unsent stands in front of the index
  rw [sentences_eq, List.take_append_of_le_length (by simpa using h), trail, ← List.map_take,
    ← List.map_reverse, List.findSome?_map]
  rfl

/-- The state on top of which the next sentence goes is the last one of the trail. -/
theorem tip_eq (d : Document) : d.tip = lastState d.root d.trail := by
  rw [tip, stateBefore_eq (Nat.le_refl _), ← length_trail, List.take_length]

/-! ## Changing one sentence -/

/-- Changing a sentence at a position changes it in the list of all sentences. -/
theorem sentences_modifyAt (d : Document) (i : Nat) (f : Sentence → Sentence) :
    (d.modifyAt i f).sentences = d.sentences.modify i f := by
  unfold modifyAt sentences
  -- the index lies in one of the three parts of the list
  rw [modify_append_eq, modify_append_eq, List.length_append]
  unfold locked
  split
  · next h => rw [if_pos (by omega)]
  · split
    · rfl
    · rfl

/-- Changing a sentence that was sent changes it among those. -/
theorem sent_modifyAt {d : Document} {i : Nat} (h : i < d.locked) (f : Sentence → Sentence) :
    (d.modifyAt i f).sent = d.sent.modify i f := by
  unfold modifyAt sent
  rw [modify_append_eq]
  split
  · rfl
  · rfl

/-- Changing a sentence that was sent leaves the unsent ones alone. -/
theorem unsent_modifyAt {d : Document} {i : Nat} (h : i < d.locked) (f : Sentence → Sentence) :
    (d.modifyAt i f).unsent = d.unsent := by
  unfold modifyAt
  split
  · rfl
  · rfl

/-- Behind the sentences that have been sent an unsent one changes. -/
theorem sent_modifyAt_of_le {d : Document} {i : Nat} (h : d.locked ≤ i) (f : Sentence → Sentence) :
    (d.modifyAt i f).sent = d.sent := by
  unfold modifyAt
  rw [if_neg (Nat.not_lt.2 (Nat.le_trans d.length_live_le h)), if_neg (Nat.not_lt.2 h)]
  rfl

/-- Changing an unsent sentence changes it among those. -/
theorem unsent_modifyAt_of_le {d : Document} {i : Nat} (h : d.locked ≤ i)
    (f : Sentence → Sentence) :
    (d.modifyAt i f).unsent = d.unsent.modify (i - d.locked) f := by
  unfold modifyAt
  rw [if_neg (Nat.not_lt.2 (Nat.le_trans d.length_live_le h)), if_neg (Nat.not_lt.2 h)]

@[simp] theorem length_live_modifyAt (d : Document) (i : Nat) (f : Sentence → Sentence) :
    (d.modifyAt i f).live.length = d.live.length := by
  unfold modifyAt
  split
  · exact List.length_modify ..
  · split <;> rfl

@[simp] theorem length_doomed_modifyAt (d : Document) (i : Nat) (f : Sentence → Sentence) :
    (d.modifyAt i f).doomed.length = d.doomed.length := by
  unfold modifyAt
  split
  · rfl
  · split
    · exact List.length_modify ..
    · rfl

/-- Changing a sentence dooms none and saves none. -/
theorem doomed_modifyAt_eq_nil_iff (d : Document) (i : Nat) (f : Sentence → Sentence) :
    (d.modifyAt i f).doomed = [] ↔ d.doomed = [] := by
  rw [← List.length_eq_zero_iff, length_doomed_modifyAt, List.length_eq_zero_iff]

@[simp] theorem root_modifyAt (d : Document) (i : Nat) (f : Sentence → Sentence) :
    (d.modifyAt i f).root = d.root := by
  unfold modifyAt
  split
  · rfl
  · split <;> rfl

@[simp] theorem nextId_modifyAt (d : Document) (i : Nat) (f : Sentence → Sentence) :
    (d.modifyAt i f).nextId = d.nextId := by
  unfold modifyAt
  split
  · rfl
  · split <;> rfl

@[simp] theorem text_modifyAt (d : Document) (i : Nat) (f : Sentence → Sentence) :
    (d.modifyAt i f).text = d.text := by
  unfold modifyAt
  split
  · rfl
  · split <;> rfl

/-- A change that a map does not see is not seen among the live and unsent sentences. -/
theorem map_live_append_unsent_modifyAt {β : Type} {f : Sentence → Sentence} {m : Sentence → β}
    (h : ∀ x, m (f x) = m x) (d : Document) (i : Nat) :
    ((d.modifyAt i f).live ++ (d.modifyAt i f).unsent).map m = (d.live ++ d.unsent).map m := by
  rw [List.map_append, List.map_append]
  -- the index may lie among the live sentences, the doomed ones or the unsent ones
  unfold modifyAt
  split
  · rw [map_modify_of_eq h]
  · split
    · rfl
    · rw [map_modify_of_eq h]

/-- A change that keeps identifiers keeps the list of them. -/
theorem ids_modifyAt (d : Document) (i : Nat) {f : Sentence → Sentence} (h : ∀ x, (f x).id = x.id) :
    (d.modifyAt i f).ids = d.ids := by
  rw [ids, ids, sentences_modifyAt]
  exact map_modify_of_eq h _ _

/-- Changing a sentence that was sent changes its entry in the trail accordingly. -/
theorem trail_modifyAt {d : Document} {i : Nat} (hi : i < d.locked) {f : Sentence → Sentence}
    {g : Entry → Entry} (h : ∀ x, (f x).entry = g x.entry) :
    (d.modifyAt i f).trail = d.trail.modify i g := by
  rw [trail, trail, sent_modifyAt hi]
  exact map_modify_of_comm h _ _

/-- News about an axiom changes no entry. -/
@[simp] theorem trail_markAxiom (d : Document) (i : Nat) : (d.markAxiom i).trail = d.trail := by
  by_cases hi : i < d.locked
  · rw [trail, trail, markAxiom, sent_modifyAt hi]
    -- an accepted sentence stays accepted, and any other is left alone
    refine map_modify_of_eq (fun x => ?_) _ _
    unfold Sentence.entry
    cases hx : x.state <;> simp [hx, SentenceState.phase]
  · rw [trail, trail, markAxiom, sent_modifyAt_of_le (Nat.not_lt.1 hi)]

/-- The news that a sentence has been checked changes its entry. -/
theorem trail_markProcessed {d : Document} {i : Nat} (hi : i < d.locked) :
    (d.markProcessed i).trail = d.trail.modify i Entry.checked :=
  trail_modifyAt hi fun _ => rfl

/-! ## Discarding -/

/-- Taking the document back to a position leaves the sentences in front of it. -/
theorem sentences_truncateAt (d : Document) (i : Nat) :
    (d.truncateAt i).2.sentences = d.sentences.take i := by
  unfold truncateAt sentences
  rw [List.take_append, List.take_append, List.length_append]
  rfl

/-- Of the sentences that were sent, taking back leaves those in front of the position. -/
theorem sent_truncateAt (d : Document) (i : Nat) : (d.truncateAt i).2.sent = d.sent.take i := by
  unfold truncateAt sent
  rw [List.take_append]

/-- Of the trail, taking back leaves the entries in front of the position. -/
theorem trail_truncateAt (d : Document) (i : Nat) : (d.truncateAt i).2.trail = d.trail.take i := by
  rw [trail, trail, sent_truncateAt, List.map_take]

@[simp] theorem length_live_truncateAt (d : Document) (i : Nat) :
    (d.truncateAt i).2.live.length = min i d.live.length := by
  unfold truncateAt
  rw [List.length_take]

/-- Nothing unsent is left behind discarded sentences. -/
theorem unsent_truncateAt {d : Document} {i : Nat} (h : i ≤ d.locked) :
    (d.truncateAt i).2.unsent = [] := by
  unfold truncateAt
  rw [Nat.sub_eq_zero_of_le h, List.take_zero]

/-- What is doomed after discarding was doomed before, so nothing is left to be sent behind it. -/
theorem clear_truncateAt {d : Document} (h : d.doomed ≠ [] → d.unsent = []) (i : Nat)
    (hd : (d.truncateAt i).2.doomed ≠ []) : (d.truncateAt i).2.unsent = [] := by
  have hd' : d.doomed ≠ [] := fun he => hd (by simp [truncateAt, he])
  simp [truncateAt, h hd']

/-- Discarding takes live and unsent sentences off the end. -/
theorem live_append_unsent_truncateAt (d : Document) (i : Nat) :
    (d.truncateAt i).2.live ++ (d.truncateAt i).2.unsent <+: d.live ++ d.unsent := by
  unfold truncateAt
  dsimp only
  by_cases hi : i ≤ d.live.length
  · rw [Nat.sub_eq_zero_of_le (Nat.le_trans hi d.length_live_le), List.take_zero, List.append_nil]
    exact (List.take_prefix _ _).trans (List.prefix_append _ _)
  · rw [List.take_of_length_le (by omega)]
    exact (List.prefix_append_right_inj _).2 (List.take_prefix _ _)

@[simp] theorem root_truncateAt (d : Document) (i : Nat) : (d.truncateAt i).2.root = d.root := rfl

@[simp] theorem nextId_truncateAt (d : Document) (i : Nat) : (d.truncateAt i).2.nextId = d.nextId :=
  rfl

@[simp] theorem text_truncateAt (d : Document) (i : Nat) : (d.truncateAt i).2.text = d.text := rfl

/-- Going back to a sentence leaves a front part of the trail. -/
theorem trail_truncateTo_front (d : Document) (id : SentenceId) :
    (d.truncateTo id).2.trail <+: d.trail := by
  unfold truncateTo
  split
  · rw [trail_truncateAt]
    exact List.take_prefix _ _
  · exact List.prefix_refl _

@[simp] theorem root_truncateTo (d : Document) (id : SentenceId) :
    (d.truncateTo id).2.root = d.root := by
  unfold truncateTo
  split <;> rfl

end Document

end ProofDesk
