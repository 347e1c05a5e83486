import ProofDesk.Proofs.Document.Reconcile

/-!
# Documents as a conversation leaves them

Sentences are sent one at a time and only on top of accepted ones, so of the sentences that have
been sent all but the last are settled (`WellShaped`). A document is `Coherent` if this holds, its
sentences are numbered, those still to be sent carry no news, and nothing is left to be sent behind
doomed sentences. Every change that a conversation makes keeps documents coherent.
-/

namespace ProofDesk

/-- All entries but the last are settled, and each is sound. -/
structure WellShaped (t : List Entry) : Prop where
  settled : ∀ (i : Nat) (e : Entry), t[i]? = some e → i + 1 < t.length → e.Settled
  sound : ∀ e ∈ t, e.Sound

namespace WellShaped

variable {t : List Entry} {e : Entry} {i : Nat}

/-- The trail of a document of which nothing was sent has the right shape. -/
theorem nil : WellShaped [] :=
  ⟨by simp, by simp⟩

/-- What is in front of the last entry is settled. -/
theorem settled_take (h : WellShaped t) (hi : i < t.length) : ∀ e ∈ t.take i, e.Settled := by
  intro e he
  obtain ⟨j, hj⟩ := List.mem_iff_getElem?.1 he
  obtain ⟨hlt, -⟩ := List.getElem?_eq_some_iff.1 hj
  rw [List.length_take] at hlt
  rw [List.getElem?_take_of_lt (by omega)] at hj
  exact h.settled j e hj (by omega)

/-- On top of settled entries anything sound may stand. -/
theorem concat (h : ∀ e ∈ t, e.Settled) (he : e.Sound) : WellShaped (t ++ [e]) := by
  refine ⟨fun j e' hj hlt => ?_, fun e' he' => ?_⟩
  · rw [List.length_append, List.length_singleton] at hlt
    rw [List.getElem?_append_left (by omega)] at hj
    exact h e' (List.mem_of_getElem? hj)
  · rcases List.mem_append.1 he' with hmem | hmem
    · exact (h e' hmem).sound
    · rw [List.mem_singleton.1 hmem]
      exact he

/-- Cutting entries off at the end keeps the shape. -/
theorem take (h : WellShaped t) (i : Nat) : WellShaped (t.take i) := by
  refine ⟨fun j e hj hlt => ?_, fun e he => h.sound e (List.mem_of_mem_take he)⟩
  rw [List.length_take] at hlt
  rw [List.getElem?_take_of_lt (by omega)] at hj
  exact h.settled j e hj (by omega)

/-- An entry with a known state may be checked. -/
private theorem modify_checked (h : WellShaped t) (hi : t[i]? = some e) (he : e.stateId.isSome) :
    WellShaped (t.modify i Entry.checked) := by
  refine ⟨fun j e' hj hlt => ?_, fun e' he' => ?_⟩
  · rw [List.length_modify] at hlt
    rw [List.getElem?_modify] at hj
    obtain ⟨e₀, he₀, rfl⟩ := Option.map_eq_some_iff.1 hj
    -- being checked has no part in being settled
    have hs := h.settled j e₀ he₀ hlt
    split <;> exact hs
  · obtain ⟨j, hj⟩ := List.mem_iff_getElem?.1 he'
    rw [List.getElem?_modify] at hj
    obtain ⟨e₀, he₀, rfl⟩ := Option.map_eq_some_iff.1 hj
    have hs := h.sound e₀ (List.mem_of_getElem? he₀)
    split
    · next hij =>
      subst hij
      rw [hi, Option.some.injEq] at he₀
      subst he₀
      -- an entry that waits for its answer has no state, so it is not the one that is checked
      unfold Entry.Sound at hs ⊢
      cases hp : e.phase <;> simp_all [Entry.checked]
    · exact hs

/-- An entry that is not settled is the last one. -/
theorem last_of_not_settled (h : WellShaped t) (hi : t[i]? = some e) (he : ¬ e.Settled) :
    i + 1 = t.length := by
  have hlt := (List.getElem?_eq_some_iff.1 hi).1
  by_contra hne
  exact he (h.settled i e hi (by omega))

/-- Only the last sentence that was sent can wait for its answer. -/
theorem last_of_pending (h : WellShaped t) (hi : t[i]? = some e) (he : e.phase = .pending) :
    i + 1 = t.length :=
  h.last_of_not_settled hi fun hs => by simp [hs.1] at he

/-- A trail that neither waits for an answer nor is in error is settled. -/
theorem all_settled (h : WellShaped t) (hpending : ∀ e ∈ t, e.phase ≠ .pending)
    (herror : ∀ e, t.getLast? = some e → e.phase ≠ .error) : ∀ e ∈ t, e.Settled := by
  intro e he
  obtain ⟨i, hi⟩ := List.mem_iff_getElem?.1 he
  by_contra hns
  have hlast := h.last_of_not_settled hi hns
  -- the entry that is not settled is the last one, so it is neither in error nor waits for an
  -- answer
  have hne : e.phase ≠ .error := by
    refine herror e ?_
    rw [List.getLast?_eq_getElem?, ← hlast, Nat.add_sub_cancel]
    exact hi
  have hsound := h.sound e he
  unfold Entry.Sound at hsound
  cases hp : e.phase with
  | unprocessed => simp [hp] at hsound
  | pending => exact hpending e he hp
  | valid =>
    rw [hp] at hsound
    exact hns ⟨hp, hsound⟩
  | error => exact hne hp

end WellShaped

/-- A sentence as it was split off. -/
structure Sentence.Untouched (x : Sentence) : Prop where
  state : x.state = .unprocessed
  stateId : x.stateId = none
  processed : x.processed = false

namespace Document

/-- A sentence that was just split off is as splitting makes it. -/
theorem untouched_of_mem_sentencesOf {text : String} {id : SentenceId} {spans : List Span}
    {x : Sentence} (hx : x ∈ sentencesOf text id spans) : x.Untouched := by
  induction spans generalizing id with
  | nil => simp [sentencesOf] at hx
  | cons span spans ih =>
    rw [sentencesOf, List.mem_cons] at hx
    rcases hx with rfl | hx
    · exact ⟨rfl, rfl, rfl⟩
    · exact ih hx

/-- What every conversation keeps true of its document. -/
structure Coherent (d : Document) : Prop where
  numbered : d.Numbered
  untouched : ∀ x ∈ d.unsent, x.Untouched
  shape : WellShaped d.trail
  /-- Nothing is left to be sent behind doomed sentences. -/
  clear : d.doomed ≠ [] → d.unsent = []

namespace Coherent

variable {d d' : Document}

/-- A new document is coherent. -/
theorem ofText (text : String) : (ofText text).Coherent :=
  ⟨numbered_ofText text, by simp [Document.ofText], .nil, by simp [Document.ofText]⟩

/-- A document stays coherent when the prover says where it starts. -/
theorem setRoot (h : d.Coherent) (state : StateId) : (d.setRoot state).Coherent :=
  ⟨⟨h.numbered.increasing, h.numbered.fresh⟩, h.untouched, h.shape, h.clear⟩

/-- No sentence has a state before it is sent. -/
theorem stateId_unsent (h : d.Coherent) : ∀ x ∈ d.unsent, x.stateId = none :=
  fun x hx => (h.untouched x hx).stateId

/-- Splitting goes on where nothing is doomed. -/
theorem extend (h : d.Coherent) (hd : d.doomed = []) (he : d.Extends d') : d'.Coherent := by
  refine ⟨he.numbered h.numbered, fun x hx => ?_, he.trail ▸ h.shape, fun hne => ?_⟩
  · rcases he.unsent with hsame | ⟨span, -, hspan⟩
    · exact h.untouched x (hsame ▸ hx)
    · rw [hspan, List.mem_append] at hx
      rcases hx with hx | hx
      · exact h.untouched x hx
      · exact untouched_of_mem_sentencesOf hx
  · rw [he.doomed] at hne
    exact absurd hd hne

/-- A sentence is sent on top of settled ones. -/
theorem withPending (h : d.Coherent) (hd : d.doomed = []) (hsettled : ∀ e ∈ d.trail, e.Settled)
    {x : Sentence}
    {later : List Sentence} (hx : d.unsent = x :: later) : (d.withPending x later).Coherent := by
  have hmem : ∀ y ∈ x :: later, y.Untouched := fun y hy => h.untouched y (hx ▸ hy)
  refine ⟨numbered_withPending h.numbered hd hx,
    fun y hy => hmem y (List.mem_cons_of_mem _ hy), ?_, ?_⟩
  · rw [trail_withPending hd]
    have hx' := hmem x List.mem_cons_self
    exact .concat hsettled ⟨hx'.stateId, hx'.processed⟩
  · exact fun hne => absurd hd hne

/-- Discarding sentences keeps a document coherent. -/
theorem truncateAt (h : d.Coherent) (i : Nat) : (d.truncateAt i).2.Coherent := by
  refine ⟨h.numbered.truncateAt i, fun x hx => h.untouched x (List.mem_of_mem_take hx), ?_,
    clear_truncateAt h.clear i⟩
  rw [trail_truncateAt]
  exact h.shape.take i

/-- Changing a sentence that has been sent leaves those still to be sent alone. -/
theorem modifyAt (h : d.Coherent) {i : Nat} (hi : i < d.locked) {f : Sentence → Sentence}
    (hf : ∀ x, (f x).id = x.id) (hshape : WellShaped (d.modifyAt i f).trail) :
    (d.modifyAt i f).Coherent := by
  refine ⟨h.numbered.modifyAt i hf, ?_, hshape, fun hne => ?_⟩
  · rw [unsent_modifyAt hi]
    exact h.untouched
  · rw [unsent_modifyAt hi]
    exact h.clear fun he => hne ((doomed_modifyAt_eq_nil_iff ..).2 he)

/-- A document stays coherent when a sentence is marked as relying on an axiom. -/
theorem markAxiom (h : d.Coherent) {i : Nat} (hi : i < d.locked) : (d.markAxiom i).Coherent := by
  refine h.modifyAt hi (fun x => ?_) ?_
  · cases x.state <;> rfl
  · show WellShaped (d.markAxiom i).trail
    rw [trail_markAxiom]
    exact h.shape

section Answers

variable {i : Nat} {x : Sentence}

/-- The entry of a sentence stands in the trail where the sentence stands in the document. -/
theorem trail_of_sent (hx : d.sent[i]? = some x) : d.trail[i]? = some x.entry := by
  rw [getElem?_trail, hx]
  rfl

/-- A sentence whose state is known may be checked. -/
theorem markProcessed (h : d.Coherent) (hx : d.sent[i]? = some x) (hstate : x.stateId.isSome) :
    (d.markProcessed i).Coherent := by
  have hi := lt_locked_of_sent hx
  refine h.modifyAt hi (fun x => rfl) ?_
  show WellShaped (d.markProcessed i).trail
  rw [trail_markProcessed hi]
  exact h.shape.modify_checked (trail_of_sent hx) hstate

/-- The sentence that waits for its answer is the last one that has been sent. -/
theorem last_of_pending (h : d.Coherent) (hx : d.sent[i]? = some x)
    (hp : x.entry.phase = .pending) :
    i + 1 = d.locked := by
  rw [← length_trail]
  exact h.shape.last_of_pending (trail_of_sent hx) hp

/-- Changing the last entry of a trail leaves those in front of it alone. -/
theorem modify_last (hx : d.sent[i]? = some x) (hlast : i + 1 = d.locked) (f : Entry → Entry) :
    d.trail.modify i f = d.trail.take i ++ [f x.entry] := by
  rw [← take_succ_modify (trail_of_sent hx)]
  exact (List.take_of_length_le (by simp [hlast])).symm

/-- The last sentence that has been sent may be accepted. -/
theorem acceptAt (h : d.Coherent) (hx : d.sent[i]? = some x) (hlast : i + 1 = d.locked)
    (state : StateId) :
    (d.acceptAt i state).Coherent := by
  have hi := lt_locked_of_sent hx
  refine h.modifyAt hi (fun x => rfl) ?_
  show WellShaped (d.acceptAt i state).trail
  rw [trail_acceptAt hi, modify_last hx hlast]
  exact .concat (h.shape.settled_take (by simpa using hi)) rfl

/-- The last sentence that has been sent may be refused. -/
theorem refuseAt (h : d.Coherent) (hx : d.sent[i]? = some x) (hlast : i + 1 = d.locked)
    (location : Option Location) (message : String) : (d.refuseAt i location message).Coherent := by
  have hi := lt_locked_of_sent hx
  refine h.modifyAt hi (fun x => rfl) ?_
  show WellShaped (d.refuseAt i location message).trail
  rw [trail_refuseAt hi, modify_last hx hlast]
  exact .concat (h.shape.settled_take (by simpa using hi)) trivial

/-- The trail once a sentence has been put in error and those behind it are discarded. -/
theorem trail_refuseAt_truncateAt (hx : d.sent[i]? = some x) (location : Option Location)
    (message : String) :
    ((d.refuseAt i location message).truncateAt (i + 1)).2.trail =
      d.trail.take i ++ [x.entry.refused] := by
  rw [trail_truncateAt, trail_refuseAt (lt_locked_of_sent hx), take_succ_modify (trail_of_sent hx)]

/-- Any sentence that has been sent may be put in error, if those behind it are discarded. -/
theorem refuseAt_truncateAt (h : d.Coherent) (hx : d.sent[i]? = some x) (location : Option Location)
    (message : String) : ((d.refuseAt i location message).truncateAt (i + 1)).2.Coherent := by
  have hi := lt_locked_of_sent hx
  have hlocked : i + 1 ≤ (d.refuseAt i location message).locked := by
    rw [← length_trail, trail_refuseAt hi, List.length_modify, length_trail]
    exact hi
  -- discarding reaches back among the sentences that have been sent, so nothing unsent is left
  have hunsent := unsent_truncateAt hlocked
  have hn : (d.refuseAt i location message).Numbered := h.numbered.modifyAt i fun x => rfl
  refine ⟨hn.truncateAt _, by simp [hunsent], ?_, fun _ => hunsent⟩
  rw [trail_refuseAt_truncateAt hx]
  exact .concat (h.shape.settled_take (by simpa using hi)) trivial

end Answers

/-- Without a pending sentence, and with the last live one not in error, everything sent is
settled. -/
theorem all_settled (h : d.Coherent) (hd : d.doomed = [])
    (hpending : ∀ e ∈ d.trail, e.phase ≠ .pending)
    (herror : ∀ x, d.live.getLast? = some x → x.isError = false) : ∀ e ∈ d.trail, e.Settled := by
  -- nothing is doomed, so the last sentence that has been sent is the last live one
  refine h.shape.all_settled hpending fun e he hphase => ?_
  rw [trail, sent, hd, List.append_nil, List.getLast?_map] at he
  obtain ⟨x, hx, rfl⟩ := Option.map_eq_some_iff.1 he
  have hfalse := herror x hx
  rw [(Sentence.isError_iff x).2 hphase] at hfalse
  simp at hfalse

/-- An edit keeps a document coherent. -/
theorem reconciled (h : d.Coherent) {outcome : Reconciliation} (hr : d.Reconciled outcome d') :
    d'.Coherent := by
  refine ⟨hr.numbered h.numbered, fun x hx => ?_, hr.trail ▸ h.shape, hr.clear h.clear⟩
  obtain ⟨y, hy, hxy⟩ := hr.exists_of_mem_unsent hx
  have hu := h.untouched y hy
  exact ⟨(congrArg Sentence.state hxy).symm.trans hu.state,
    (congrArg Sentence.stateId hxy).symm.trans hu.stateId,
    (congrArg Sentence.processed hxy).symm.trans hu.processed⟩

end Coherent

end Document

end ProofDesk
