import ProofDesk.Proofs.Session.Documents

/-!
# Going forward in a well-formed document

The live and unsent sentences of a well-formed document are the first ones that splitting its text
finds, and so is what is sent next (`WellFormed.of_extendNext`). Whether the next one ends in front
of an offset is seen from how many of all do (`WellFormed.any_extendNext`).
-/

namespace ProofDesk

namespace Document

variable {d d₁ : Document}

/-- A change that a map does not see is not seen among the live sentences. -/
theorem map_live_modifyAt {β : Type} {f : Sentence → Sentence} {g : Sentence → β}
    (h : ∀ x, g (f x) = g x)
    (d : Document) (i : Nat) : (d.modifyAt i f).live.map g = d.live.map g := by
  unfold modifyAt
  split
  · exact map_modify_of_eq h _ _
  · split <;> rfl

/-- No live sentence ends past an offset just when none is found. -/
theorem firstLockedPast?_eq_none_iff {offset : Nat} :
    d.firstLockedPast? offset = none ↔ ∀ x ∈ d.live, x.span.stop ≤ offset := by
  simp [firstLockedPast?]

/-- If none is found all live spans end by the offset. -/
theorem stop_le_of_firstLockedPast? {offset : Nat} (h : d.firstLockedPast? offset = none) :
    ∀ span ∈ d.live.map (·.span), span.stop ≤ offset := by
  intro span hspan
  obtain ⟨x, hx, rfl⟩ := List.mem_map.1 hspan
  exact firstLockedPast?_eq_none_iff.1 h x hx

/-- If none is found all live sentences count as ending by the offset. -/
theorem countP_live_of_firstLockedPast? {offset : Nat} (h : d.firstLockedPast? offset = none) :
    (d.live.map (·.span)).countP (·.stop ≤ offset) = d.live.length := by
  rw [← List.length_map (f := (·.span)), List.countP_eq_length]
  simpa using stop_le_of_firstLockedPast? h

/-- Nothing is left to be sent when no sentence is split off. -/
theorem next_of_extendNext_none (h : d.extendNext = (.ok none, d₁)) :
    d.unsent = [] ∧ Sentence.next d.text (endOf d.sentences) = .ok none := by
  unfold extendNext at h
  split at h
  · simp at h
  · next hunsent =>
    unfold splitNext at h
    split at h
    · simp at h
    · next hnext => exact ⟨hunsent, hnext⟩
    · simp at h

/-- Splitting fails on the text behind the last sentence. -/
theorem next_of_extendNext_error {fault : Fault} (h : d.extendNext = (.error fault, d₁)) :
    d.unsent = [] ∧ ∃ e, Sentence.next d.text (endOf d.sentences) = .error e := by
  unfold extendNext at h
  split at h
  · simp at h
  · next hunsent =>
    unfold splitNext at h
    split at h
    · simp at h
    · simp at h
    · next e hnext => exact ⟨hunsent, e, hnext⟩

/-- No sentence is split off only where the text cannot be split. -/
theorem fault_of_extendNext {fault : Fault} (h : d.extendNext = (.error fault, d₁)) :
    ∃ e, fault = splitFault e := by
  unfold extendNext at h
  split at h
  · simp at h
  · unfold splitNext at h
    split at h
    · simp at h
    · simp at h
    · next e _ =>
      simp only [Prod.mk.injEq, Except.error.injEq] at h
      exact ⟨e, h.1.symm⟩

/-- A sentence is sent, or split off, as long as there is one. -/
theorem exists_of_extendNext {id : SentenceId} (h : d.extendNext = (.ok (some id), d₁)) :
    ∃ x later, d₁.unsent = x :: later ∧ x.id = id := by
  unfold extendNext at h
  split at h
  · next x later hx =>
    simp only [Prod.mk.injEq, Except.ok.injEq, Option.some.injEq] at h
    exact ⟨x, later, h.2 ▸ hx, h.1⟩
  · next hx =>
    unfold splitNext at h
    split at h
    · next span _ =>
      simp only [Prod.mk.injEq, Except.ok.injEq, Option.some.injEq] at h
      obtain ⟨rfl, rfl⟩ := h
      -- the sentence that is split off is the only unsent one
      have hunsent : (d.push [span]).unsent = sentencesOf d.text d.nextId [span] := by
        rw [push, hx, List.nil_append]
      exact ⟨_, [], hunsent, rfl⟩
    · simp at h
    · simp at h

end Document

namespace Document.WellFormed

variable {d d' : Document} {offset : Nat}

/-- A document stays well-formed while it only grows. -/
theorem extend (h : d.WellFormed) (hd : d.doomed = []) (he : d.Extends d') : d'.WellFormed := by
  have hd' : d'.doomed = [] := he.doomed.trans hd
  have hall : d.sentences = d.live ++ d.unsent := by rw [sentences, hd, List.append_nil]
  refine ⟨he.numbered h.numbered, fun x hx => ?_, fun x hx => ?_, fun hne => absurd hd' hne,
    h.laid.extend hd he, ?_⟩
  · rw [Document.sent, he.live, he.doomed] at hx
    exact h.sent x hx
  · -- at most one sentence has been split off, and nothing has happened to it
    rcases he.unsent with hsame | ⟨span, -, hspan⟩
    · exact h.unsent x (hsame ▸ hx)
    · rw [hspan] at hx
      rcases List.mem_append.1 hx with hx | hx
      · exact h.unsent x hx
      · have hu := untouched_of_mem_sentencesOf hx
        exact ⟨hu.state, hu.stateId⟩
  · rw [he.text, he.live]
    rcases he.unsent with hsame | ⟨span, hnext, hspan⟩
    · rw [hsame]
      exact h.splits
    · rw [hall] at hnext
      -- the new sentence is found behind all that are there
      rw [hspan, ← List.append_assoc, List.map_append, map_span_sentencesOf, Sentence.splits_append,
        Sentence.reach_map_span]
      exact ⟨h.splits, Sentence.splits_cons.2 ⟨hnext, Sentence.splits_nil _ _⟩⟩

/-- The next sentence to be sent stands behind the live ones, among the first of the text. -/
theorem of_extendNext (h : d.WellFormed) (hd : d.doomed = []) {id : SentenceId}
    (hext : d.extendNext = (.ok (some id), d')) : ∃ x later, d'.unsent = x :: later ∧ x.id = id ∧
      d'.sentence? id = some x ∧
      Sentence.Splits d.text 0 (d.live.map (·.span) ++ x.span :: later.map (·.span)) := by
  have he := extends_of_extendNext hext
  obtain ⟨x, later, hx, rfl⟩ := exists_of_extendNext hext
  have hsplits := (h.extend hd he).splits
  rw [he.text, he.live, hx] at hsplits
  have hget : d'.sentences[d'.locked]? = some x := by
    rw [sentences_eq, ← length_sent, List.getElem?_append_right (Nat.le_refl _), Nat.sub_self, hx]
    rfl
  exact ⟨x, later, hx, rfl, (he.numbered h.numbered).sentence? hget, by simpa using hsplits⟩

/-- The first live sentence past an offset comes behind those that end up to it. -/
theorem firstLockedPast?_eq (hw : d.WellFormed) (offset : Nat) :
    d.firstLockedPast? offset =
      if (Sentence.spansFrom d.text 0).1.countP (·.stop ≤ offset) < d.live.length then
        some ((Sentence.spansFrom d.text 0).1.countP (·.stop ≤ offset))
      else none := by
  have hlive : Sentence.Splits d.text 0 (d.live.map (·.span)) := by
    refine hw.splits.of_prefix ?_
    rw [List.map_append]
    exact List.prefix_append _ _
  obtain ⟨more, hmore⟩ := hlive
  have hsplits : Sentence.Splits d.text 0 (d.live.map (·.span) ++ more) := by
    rw [Sentence.Splits, hmore]
  rw [← hmore]
  cases hfind : d.firstLockedPast? offset with
  | none =>
    rw [List.countP_append, countP_live_of_firstLockedPast? hfind, if_neg (by omega)]
  | some i =>
    obtain ⟨hi, hpast, hfit⟩ := List.findIdx?_eq_some_iff_getElem.1 hfind
    -- the live sentences in front of the first one past the offset end up to it, and the spans
    -- behind it do not
    have hcut : d.live.map (·.span) ++ more =
        (d.live.take i).map (·.span) ++ ((d.live.drop i).map (·.span) ++ more) := by
      rw [← List.append_assoc, ← List.map_append, List.take_append_drop]
    have hcount : (d.live.map (·.span) ++ more).countP (·.stop ≤ offset) = i := by
      rw [hcut] at hsplits ⊢
      rw [Sentence.countP_spans hsplits, List.length_map, List.length_take,
        Nat.min_eq_left (Nat.le_of_lt hi)]
      · intro span hspan
        obtain ⟨x, hx, rfl⟩ := List.mem_map.1 hspan
        obtain ⟨j, hj, rfl⟩ := List.mem_take_iff_getElem.1 hx
        simpa using hfit j (by omega)
      · intro span hspan
        rw [List.drop_eq_getElem_cons hi, List.map_cons, List.cons_append, List.head?_cons,
          Option.some.injEq] at hspan
        simpa [← hspan] using hpast
    rw [hcount, if_pos hi]

/-- The next sentence to be sent ends up to an offset if more sentences than the live ones do. -/
theorem any_extendNext (hw : d.WellFormed) (hd : d.doomed = []) {id : SentenceId}
    (hext : d.extendNext = (.ok (some id), d')) (hfit : d.firstLockedPast? offset = none) :
    (d'.sentence? id).any (·.span.stop ≤ offset) =
      decide (d.live.length < (Sentence.spansFrom d.text 0).1.countP (·.stop ≤ offset)) := by
  obtain ⟨x, later, -, rfl, hfound, hsplits⟩ := hw.of_extendNext hd hext
  obtain ⟨more, hmore⟩ := hsplits
  rw [hfound, Option.any_some, decide_eq_decide, ← hmore, List.append_assoc]
  constructor
  · intro hle
    -- the live sentences and this one
    rw [List.countP_append, countP_live_of_firstLockedPast? hfit, List.cons_append,
      List.countP_cons, if_pos (by simpa using hle)]
    omega
  · intro hlt
    by_contra hpast
    have hsplits :
        Sentence.Splits d.text 0 (d.live.map (·.span) ++
          (x.span :: later.map (·.span) ++ more)) := by
      rw [Sentence.Splits, ← hmore, List.append_assoc]
    rw [Sentence.countP_spans hsplits (stop_le_of_firstLockedPast? hfit) (by simpa using hpast),
      List.length_map] at hlt
    exact Nat.lt_irrefl _ hlt

end Document.WellFormed

namespace Document

/-- Once the first state is known, there is a state on top of which the next sentence can be
sent. -/
theorem tip_isSome {d : Document} (hroot : d.root.isSome) : d.tip.isSome :=
  stateBefore_isSome hroot d.locked

/-- The first unsent sentence can be marked as sent while nothing waits for a rollback. -/
theorem markPending_of_unsent {d : Document} (hn : d.Numbered) (hd : d.doomed = []) {x : Sentence}
    {later : List Sentence} (hx : d.unsent = x :: later) :
    d.markPending x.id = .ok (d.withPending x later) := by
  have hlocked : d.locked = d.live.length := by rw [locked, hd]; rfl
  have hget : d.sentences[d.locked]? = some x := by
    rw [sentences, hd, List.append_nil, hx, hlocked,
      List.getElem?_append_right (Nat.le_refl _), Nat.sub_self]
    rfl
  unfold markPending
  rw [hn.indexOf? hget, hx]
  exact if_pos ⟨rfl, hd⟩

end Document

namespace Navigation

variable {d d' : Document} {rest : List Navigation} {fault : Fault}

/-- A sentence that has been split off can be sent, once the first state is known. -/
theorem sendSentence_ne_refuse (hn : d.Numbered) (hd : d.doomed = []) (hroot : d.root.isSome)
    {d₁ : Document} {id : SentenceId} (hext : d.extendNext = (.ok (some id), d₁)) :
    sendSentence d₁ id rest ≠ .refuse d' fault := by
  intro h
  have he := Document.extends_of_extendNext hext
  obtain ⟨x, later, hx, rfl⟩ := Document.exists_of_extendNext hext
  obtain ⟨tip, htip⟩ := Option.isSome_iff_exists.1 (Document.tip_isSome (he.root ▸ hroot))
  unfold sendSentence at h
  simp [htip, Document.markPending_of_unsent (he.numbered hn) (he.doomed.trans hd) hx] at h

/-- A move to an offset that has nothing to go back to is past all live sentences. -/
theorem stop_le_of_stays {offset : Nat} (hstays : ∀ index, ¬ GoesBackTo d (.cursor offset) index) :
    ∀ x ∈ d.live, x.span.stop ≤ offset :=
  Document.firstLockedPast?_eq_none_iff.1 (Option.eq_none_iff_forall_ne_some.2 hstays)

end Navigation

end ProofDesk
