import ProofDesk.Proofs.Document.Trail

/-!
# Identifiers of sentences

Identifiers increase along the list of sentences and are never given twice, so a sentence is found
where it stands, and marking it changes it and nothing else. An identifier is *spent* when no
sentence still to be sent can ever have it; those of sent sentences are, and stay so when the
sentences are discarded.
-/

namespace ProofDesk

namespace Document

/-! ## Identifiers -/

/-- Identifiers increase along the list of sentences, and none of them will be given again. -/
structure Numbered (d : Document) : Prop where
  increasing : d.ids.Pairwise (· < ·)
  fresh : ∀ id ∈ d.ids, id < d.nextId

/-- An identifier that no sentence has that is still to be sent, now or later. -/
def Spent (d : Document) (id : SentenceId) : Prop :=
  id < d.nextId ∧ ∀ x ∈ d.unsent, id < x.id

/-- A new document has no identifiers out of order. -/
theorem numbered_ofText (text : String) : (ofText text).Numbered :=
  ⟨List.Pairwise.nil, by simp [ids, sentences, ofText]⟩

/-- A document with fewer sentences, in front or at the end, is numbered if the longer one is. -/
theorem Numbered.of_sublist {d d' : Document} (hn : d.Numbered) (hids : d'.ids.Sublist d.ids)
    (hnext : d.nextId ≤ d'.nextId) : d'.Numbered :=
  ⟨hn.increasing.sublist hids,
    fun id hid => Nat.lt_of_lt_of_le (hn.fresh id (hids.subset hid)) hnext⟩

/-- No identifier is given to two sentences of a document. -/
theorem Numbered.nodup {d : Document} (hn : d.Numbered) : d.ids.Nodup :=
  hn.increasing.imp fun h => Nat.ne_of_lt h

theorem mem_ids_of_getElem? {d : Document} {i : Nat} {x : Sentence}
    (hx : d.sentences[i]? = some x) :
    x.id ∈ d.ids :=
  List.mem_map_of_mem (List.mem_of_getElem? hx)

/-- Where an identifier is found stands the sentence that it belongs to. -/
theorem exists_of_indexOf? {d : Document} {id : SentenceId} {i : Nat} (h : d.indexOf? id = some i) :
    ∃ x, d.sentences[i]? = some x ∧ x.id = id := by
  obtain ⟨hi, hid, -⟩ := List.findIdx?_eq_some_iff_getElem.1 h
  exact ⟨d.sentences[i], List.getElem?_eq_getElem hi, by simpa using hid⟩

/-- A sentence is found where it stands. -/
theorem Numbered.indexOf? {d : Document} (hn : d.Numbered) {i : Nat} {x : Sentence}
    (hx : d.sentences[i]? = some x) : d.indexOf? x.id = some i := by
  obtain ⟨hi, rfl⟩ := List.getElem?_eq_some_iff.1 hx
  -- whatever stands in front of it has a smaller identifier
  refine List.findIdx?_eq_some_iff_getElem.2 ⟨hi, by simp, fun j hji => ?_⟩
  have hlt :=
    List.pairwise_iff_getElem.1 hn.increasing j i (by simp [ids]; omega)
      (by simpa [ids] using hi) hji
  simp only [ids, List.getElem_map] at hlt
  simpa using Nat.ne_of_lt hlt

/-- An identifier that the document does not have is found nowhere. -/
theorem indexOf?_eq_none {d : Document} {id : SentenceId} (h : id ∉ d.ids) :
    d.indexOf? id = none := by
  refine List.findIdx?_eq_none_iff.2 fun x hx => ?_
  have hne : x.id ≠ id := fun he => h (he ▸ List.mem_map_of_mem hx)
  simpa using hne

/-- A sentence is looked up by its identifier. -/
theorem Numbered.sentence? {d : Document} (hn : d.Numbered) {i : Nat} {x : Sentence}
    (hx : d.sentences[i]? = some x) : d.sentence? x.id = some x := by
  -- it is the first with its identifier, so that searching for it ends there
  obtain ⟨hlt, -, hmin⟩ := List.findIdx?_eq_some_iff_getElem.1 (hn.indexOf? hx)
  obtain ⟨_, hget⟩ := List.getElem?_eq_some_iff.1 hx
  exact List.find?_eq_some_iff_getElem.2 ⟨by simp, i, hlt, hget,
    fun j hj => by simpa using hmin j hj⟩

/-- There is no sentence for an identifier that the document does not have. -/
theorem sentence?_eq_none {d : Document} {id : SentenceId} (h : id ∉ d.ids) :
    d.sentence? id = none := by
  unfold sentence?
  rw [List.find?_eq_none]
  intro x hx
  have hne : x.id ≠ id := fun he => h (he ▸ List.mem_map_of_mem hx)
  simpa using hne

/-- A spent identifier belongs to a sentence that has been sent, if to any. -/
theorem Spent.mem_trail {d : Document} {id : SentenceId} (hs : d.Spent id) (h : id ∈ d.ids) :
    ∃ (i : Nat) (x : Sentence), d.sent[i]? = some x ∧ x.id = id := by
  -- an unsent sentence would have a larger identifier
  rw [ids, sentences_eq, List.map_append, List.mem_append] at h
  rcases h with h | h
  · obtain ⟨x, hx, rfl⟩ := List.mem_map.1 h
    obtain ⟨i, hi⟩ := List.mem_iff_getElem?.1 hx
    exact ⟨i, x, hi, rfl⟩
  · obtain ⟨x, hx, rfl⟩ := List.mem_map.1 h
    exact absurd (hs.2 x hx) (Nat.lt_irrefl _)

/-- An identifier on the trail is found at its position. -/
theorem Numbered.indexOf?_of_trail {d : Document} (hn : d.Numbered) {i : Nat} {id : SentenceId}
    (h : (d.trail.map (·.id))[i]? = some id) : d.indexOf? id = some i := by
  rw [map_id_trail, List.getElem?_map] at h
  obtain ⟨x, hx, rfl⟩ := Option.map_eq_some_iff.1 h
  exact hn.indexOf? ((getElem?_sentences_of_lt (lt_locked_of_sent hx)).trans hx)

/-- The identifiers of sentences that have been sent are spent. -/
theorem Numbered.spent {d : Document} (hn : d.Numbered) {x : Sentence} (hx : x ∈ d.sent) :
    d.Spent x.id := by
  have hinc := hn.increasing
  rw [ids, sentences_eq, List.map_append, List.pairwise_append] at hinc
  refine ⟨hn.fresh _ ?_, fun y hy => hinc.2.2 _ (List.mem_map_of_mem hx) _ (List.mem_map_of_mem hy)⟩
  exact List.mem_map_of_mem (by rw [sentences_eq]; exact List.mem_append_left _ hx)

/-- What has been sent and what is still to be sent have different identifiers. -/
theorem Numbered.id_ne_of_unsent {d : Document} (hn : d.Numbered) {e : Entry} {x : Sentence}
    (he : e ∈ d.trail) (hx : x ∈ d.unsent) : e.id ≠ x.id := by
  obtain ⟨y, hy, rfl⟩ := List.mem_map.1 he
  exact Nat.ne_of_lt ((hn.spent hy).2 x hx)

/-- An identifier that has been used up stays so while fewer sentences are unsent and more numbers
given out. -/
theorem Spent.of_sublist {d d' : Document} {id : SentenceId} (hs : d.Spent id)
    (hids : (d'.unsent.map (·.id)).Sublist (d.unsent.map (·.id))) (hnext : d.nextId ≤ d'.nextId) :
    d'.Spent id := by
  refine ⟨Nat.lt_of_lt_of_le hs.1 hnext, fun x hx => ?_⟩
  obtain ⟨y, hy, hxy⟩ := List.mem_map.1 (hids.subset (List.mem_map_of_mem hx))
  exact hxy ▸ hs.2 y hy

/-- A state that the prover speaks of belongs to a sentence that has been sent. -/
theorem sent_of_indexOfState? {d : Document} (hunsent : ∀ x ∈ d.unsent, x.stateId = none)
    {state : StateId} {i : Nat} (h : d.indexOfState? state = some i) :
    ∃ x, d.sent[i]? = some x ∧ x.stateId = some state := by
  obtain ⟨hi, hstate, -⟩ := List.findIdx?_eq_some_iff_getElem.1 h
  -- behind what has been sent no sentence has a state
  have hlt : i < d.locked := by
    by_contra hge
    have hmem : d.sentences[i] ∈ d.unsent := by
      have hget : d.sentences[i]? = d.unsent[i - d.locked]? := by
        rw [sentences_eq, List.getElem?_append_right (by simpa using hge), length_sent]
      rw [List.getElem?_eq_getElem hi] at hget
      exact List.mem_of_getElem? hget.symm
    rw [beq_iff_eq, hunsent _ hmem] at hstate
    exact absurd hstate (by simp)
  refine ⟨d.sentences[i], ?_, by simpa using hstate⟩
  rw [← getElem?_sentences_of_lt hlt, List.getElem?_eq_getElem hi]

/-! ## Splitting and sending -/

/-- What splitting a sentence off leaves as it was. -/
structure Extends (d d' : Document) : Prop where
  text : d'.text = d.text
  live : d'.live = d.live
  doomed : d'.doomed = d.doomed
  root : d'.root = d.root
  numbered : d.Numbered → d'.Numbered
  spent : ∀ id, d.Spent id → d'.Spent id
  /-- What is new is the sentence that follows those that there were. -/
  unsent : d'.unsent = d.unsent ∨ ∃ span,
    Sentence.next d.text (endOf d.sentences) = .ok (some span) ∧
    d'.unsent = d.unsent ++ sentencesOf d.text d.nextId [span]

/-- A document that only grew has the same trail. -/
theorem Extends.trail {d d' : Document} (h : d.Extends d') : d'.trail = d.trail := by
  rw [Document.trail, Document.trail, sent, sent, h.live, h.doomed]

theorem Extends.refl (d : Document) : d.Extends d :=
  ⟨rfl, rfl, rfl, rfl, id, fun _ => id, .inl rfl⟩

/-- New sentences are numbered from `nextId` on. -/
theorem map_id_sentencesOf (text : String) (id : SentenceId) (spans : List Span) :
    (sentencesOf text id spans).map (·.id) = List.range' id spans.length := by
  induction spans generalizing id with
  | nil => rfl
  | cons span spans ih => simp [sentencesOf, ih, List.range'_succ]

/-- The sentences that are split off stand behind all others. -/
theorem sentences_push (d : Document) (spans : List Span) :
    (d.push spans).sentences = d.sentences ++ sentencesOf d.text d.nextId spans := by
  simp only [sentences, push, List.append_assoc]

/-- Sentences that are split off get identifiers in order. -/
theorem numbered_push {d : Document} (hn : d.Numbered) (spans : List Span) :
    (d.push spans).Numbered := by
  -- the new identifiers are those from `nextId` on
  have hids : (d.push spans).ids = d.ids ++ List.range' d.nextId spans.length := by
    rw [ids, sentences_push, List.map_append, map_id_sentencesOf]
    rfl
  refine ⟨?_, fun id hid => ?_⟩
  · rw [hids, List.pairwise_append]
    refine ⟨hn.increasing, List.pairwise_lt_range', fun a ha b hb => ?_⟩
    exact Nat.lt_of_lt_of_le (hn.fresh a ha) (List.mem_range'_1.1 hb).1
  · show id < d.nextId + spans.length
    rw [hids] at hid
    rcases List.mem_append.1 hid with h | h
    · exact Nat.lt_of_lt_of_le (hn.fresh id h) (Nat.le_add_right _ _)
    · exact (List.mem_range'_1.1 h).2

/-- An identifier that has been used up is given to none of the sentences split off. -/
theorem Spent.push {d : Document} {id : SentenceId} (hs : d.Spent id) (spans : List Span) :
    (d.push spans).Spent id := by
  refine ⟨Nat.lt_of_lt_of_le hs.1 (Nat.le_add_right _ _), fun x hx => ?_⟩
  rcases List.mem_append.1 hx with h | h
  · exact hs.2 x h
  · have hmem : x.id ∈ List.range' d.nextId spans.length := by
      rw [← map_id_sentencesOf d.text d.nextId spans]
      exact List.mem_map_of_mem h
    exact Nat.lt_of_lt_of_le hs.1 (List.mem_range'_1.1 hmem).1

/-- What is shown of splitting does not change the sentences. -/
theorem extends_parseError (d : Document) (parseError : Option SplitError) :
    d.Extends { d with parseError } :=
  ⟨rfl, rfl, rfl, rfl, fun hn => ⟨hn.increasing, hn.fresh⟩, fun _ hs => hs, .inl rfl⟩

/-- Splitting off one more sentence only lets the document grow. -/
theorem extends_extendNext (d : Document) : d.Extends d.extendNext.2 := by
  unfold extendNext
  split
  · exact Extends.refl d
  · unfold splitNext
    split
    · next span hnext =>
      refine ⟨rfl, rfl, rfl, rfl, fun hn => ?_, fun id hs => hs.push [span],
        .inr ⟨span, hnext, rfl⟩⟩
      have hp := numbered_push hn [span]
      exact ⟨hp.increasing, hp.fresh⟩
    · exact extends_parseError d none
    · next e _ => exact extends_parseError d (some e)

/-- A document got by splitting off one more sentence extends the one before. -/
theorem extends_of_extendNext {d d' : Document} {result : Except Fault (Option SentenceId)}
    (h : d.extendNext = (result, d')) : d.Extends d' := by
  have he := d.extends_extendNext
  rwa [h] at he

/-- The document with a sentence behind the live ones and `later` left unsent. -/
def withPending (d : Document) (x : Sentence) (later : List Sentence) : Document :=
  { d with live := d.live ++ [{ x with state := .pending }], unsent := later }

/-- Sending moves the first unsent sentence behind the live ones, and is refused while sentences are
doomed. -/
theorem markPending_eq {d d' : Document} {id : SentenceId} (h : d.markPending id = .ok d') :
    ∃ x later, d.unsent = x :: later ∧ x.id = id ∧ d.doomed = [] ∧ d' = d.withPending x later := by
  unfold markPending at h
  split at h
  · simp at h
  · next index hindex =>
    split at h
    · simp at h
    · next x rest hu =>
      split at h
      · next hc =>
        obtain ⟨rfl, hd⟩ := hc
        -- the sentence found is the one behind all that have been sent, which is the first unsent
        -- one
        obtain ⟨y, hy, hyid⟩ := exists_of_indexOf? hindex
        have hxy : d.sentences[d.locked]? = some x := by
          rw [sentences_eq, List.getElem?_append_right (by simp), length_sent, Nat.sub_self, hu]
          rfl
        rw [hxy] at hy
        simp only [Option.some.injEq] at hy
        simp only [Except.ok.injEq] at h
        exact ⟨x, rest, hu, by rw [hy, hyid], hd, h.symm⟩
      · simp at h

section Pending

variable {d : Document} {x : Sentence} {later : List Sentence}

/-- A sentence that is sent joins the trail at its end, and waits. -/
theorem trail_withPending (hd : d.doomed = []) :
    (d.withPending x later).trail =
      d.trail ++ [⟨x.id, x.text, x.stateId, .pending, x.processed⟩] := by
  simp [withPending, trail, sent, hd, Sentence.entry, SentenceState.phase]

/-- Sending a sentence keeps the identifiers in order. -/
theorem numbered_withPending (hn : d.Numbered) (hd : d.doomed = []) (hx : d.unsent = x :: later) :
    (d.withPending x later).Numbered := by
  -- the sentence only moves from one part of the list to the next
  have hids : (d.withPending x later).ids = d.ids := by
    simp [withPending, ids, sentences, hx, hd]
  refine hn.of_sublist ?_ (Nat.le_refl _)
  rw [hids]

/-- Sending a sentence keeps used identifiers used. -/
theorem spent_withPending (hx : d.unsent = x :: later) {id : SentenceId} (hs : d.Spent id) :
    (d.withPending x later).Spent id := by
  refine hs.of_sublist ?_ (Nat.le_refl _)
  rw [hx]
  exact (List.sublist_cons_self _ _).map _

/-- A sentence that is sent stands behind the live ones. -/
theorem getElem?_sentences_withPending :
    (d.withPending x later).sentences[d.live.length]? = some { x with state := .pending } := by
  simp [withPending, sentences]

end Pending

/-! ## Marking -/

/-- A sentence that was sent is found by its identifier. -/
theorem lockedIndex_eq {d : Document} (hn : d.Numbered) {i : Nat} {x : Sentence}
    (hx : d.sent[i]? = some x) :
    d.lockedIndex x.id = .ok i := by
  have hi := lt_locked_of_sent hx
  unfold lockedIndex
  rw [hn.indexOf? ((getElem?_sentences_of_lt hi).trans hx)]
  simp only [hi, if_true]

/-- The document with the sentence at a position accepted. -/
def acceptAt (d : Document) (i : Nat) (state : StateId) : Document :=
  d.modifyAt i (·.accepted state)

/-- The document with the sentence at a position refused. -/
def refuseAt (d : Document) (i : Nat) (location : Option Location) (message : String) : Document :=
  d.modifyAt i (·.refused location message)

/-- A sentence that has been sent can be accepted. -/
theorem exists_markValid {d : Document} (hn : d.Numbered) {i : Nat} {x : Sentence}
    (hx : d.sent[i]? = some x)
    (state : StateId) (validity : Validity) : ∃ d', d.markValid x.id state validity = .ok d' := by
  unfold markValid
  rw [lockedIndex_eq hn hx]
  exact ⟨_, rfl⟩

/-- Accepting a sentence by its identifier marks the sentence at its position. -/
theorem markValid_eq {d : Document} (hn : d.Numbered) {i : Nat} {x : Sentence}
    (hx : d.sent[i]? = some x)
    (state : StateId) : d.markValid x.id state .ordinary = .ok (d.acceptAt i state) := by
  unfold markValid
  rw [lockedIndex_eq hn hx]
  rfl

/-- Refusing a sentence by its identifier marks the sentence at its position. -/
theorem markError_eq {d : Document} (hn : d.Numbered) {i : Nat} {x : Sentence}
    (hx : d.sent[i]? = some x) (location : Option Location) (message : String) :
    d.markError x.id location message = .ok (d.refuseAt i location message) := by
  unfold markError
  rw [lockedIndex_eq hn hx]
  rfl

/-- Accepting a sentence changes its entry in the trail and nothing else there. -/
theorem trail_acceptAt {d : Document} {i : Nat} (hi : i < d.locked) (state : StateId) :
    (d.acceptAt i state).trail = d.trail.modify i (·.accepted state) :=
  trail_modifyAt hi fun _ => rfl

/-- Refusing a sentence changes its entry in the trail and nothing else there. -/
theorem trail_refuseAt {d : Document} {i : Nat} (hi : i < d.locked) (location : Option Location)
    (message : String) : (d.refuseAt i location message).trail = d.trail.modify i (·.refused) :=
  trail_modifyAt hi fun _ => rfl

/-- Cutting the list of sentences off keeps it numbered. -/
theorem Numbered.truncateAt {d : Document} (hn : d.Numbered) (i : Nat) :
    (d.truncateAt i).2.Numbered := by
  refine hn.of_sublist ?_ (Nat.le_refl _)
  rw [ids, sentences_truncateAt, ids]
  exact (List.take_sublist _ _).map _

/-- Taking sentences off the end keeps used identifiers used. -/
theorem Spent.truncateAt {d : Document} {id : SentenceId} (hs : d.Spent id) (i : Nat) :
    (d.truncateAt i).2.Spent id :=
  hs.of_sublist ((List.take_sublist _ _).map _) (Nat.le_refl _)

/-- Going back to a sentence keeps used identifiers used. -/
theorem Spent.truncateTo {d : Document} {id : SentenceId} (hs : d.Spent id) (id' : SentenceId) :
    (d.truncateTo id').2.Spent id := by
  unfold Document.truncateTo
  split
  · exact hs.truncateAt _
  · exact hs

/-- Marking a sentence keeps the identifiers in order. -/
theorem Numbered.modifyAt {d : Document} (hn : d.Numbered) (i : Nat) {f : Sentence → Sentence}
    (h : ∀ x, (f x).id = x.id) : (d.modifyAt i f).Numbered := by
  refine hn.of_sublist ?_ (Nat.le_of_eq (nextId_modifyAt ..).symm)
  rw [ids_modifyAt d i h]

/-- Marking a sentence keeps used identifiers used. -/
theorem Spent.modifyAt {d : Document} {id : SentenceId} (hs : d.Spent id) {i : Nat}
    (hi : i < d.locked) (f : Sentence → Sentence) : (d.modifyAt i f).Spent id := by
  unfold Spent
  rw [unsent_modifyAt hi, nextId_modifyAt]
  exact hs

end Document

end ProofDesk
