import ProofDesk.Proofs.Session.Answer

/-!
# Rollbacks come first

Once an edit has doomed sentences, the rollback that discards them is outstanding or next in the
queue, and until they are gone the session only waits: nothing is added, nothing is split off and no
sentence becomes pending (`Run.rollbackFirst`).
-/

namespace ProofDesk

/-- Whether an exchange hands a sentence to the prover. -/
def Exchange.IsAdd : Exchange → Prop
  | .sent _ (.add ..) => True
  | _ => False

namespace Document

/-- No sentence is new, and none has become pending. -/
structure NothingNew (d d' : Document) : Prop where
  nextId : d'.nextId = d.nextId
  ids : d'.ids.Sublist d.ids
  pending : ∀ x ∈ d'.sentences, x.state = .pending → ∃ y ∈ d.sentences,
    y.id = x.id ∧ y.state = .pending

namespace NothingNew

variable {d d' d'' : Document}

theorem refl (d : Document) : d.NothingNew d :=
  ⟨rfl, List.Sublist.refl _, fun x hx hp => ⟨x, hx, rfl, hp⟩⟩

/-- A document that stays as it is brings nothing new. -/
theorem of_eq (h : d' = d) : d.NothingNew d' :=
  h ▸ refl d'

/-- What brings nothing new twice brings nothing new. -/
theorem trans (h : d.NothingNew d') (h' : d'.NothingNew d'') : d.NothingNew d'' := by
  refine ⟨h'.nextId.trans h.nextId, h'.ids.trans h.ids, fun x hx hp => ?_⟩
  obtain ⟨y, hy, hyx, hyp⟩ := h'.pending x hx hp
  obtain ⟨z, hz, hzy, hzp⟩ := h.pending y hy hyp
  exact ⟨z, hz, hzy.trans hyx, hzp⟩

/-- Taking sentences off the end brings nothing new. -/
theorem truncateAt (d : Document) (i : Nat) : d.NothingNew (d.truncateAt i).2 := by
  refine ⟨rfl, ?_, fun x hx hp => ?_⟩
  · rw [Document.ids, sentences_truncateAt, Document.ids]
    exact (List.take_sublist _ _).map _
  · rw [sentences_truncateAt] at hx
    exact ⟨x, List.mem_of_mem_take hx, rfl, hp⟩

/-- Going back to a sentence brings nothing new. -/
theorem truncateTo (d : Document) (id : SentenceId) : d.NothingNew (d.truncateTo id).2 := by
  unfold Document.truncateTo
  split
  · exact truncateAt d _
  · exact refl d

/-- A change that makes nothing pending makes nothing new. -/
theorem modifyAt (d : Document) (i : Nat) {f : Sentence → Sentence} (hid : ∀ x, (f x).id = x.id)
    (hf : ∀ x, (f x).state = .pending → x.state = .pending) : d.NothingNew (d.modifyAt i f) := by
  refine ⟨nextId_modifyAt .., ?_, fun x hx hp => ?_⟩
  · rw [ids_modifyAt d i hid]
  · rw [sentences_modifyAt] at hx
    -- a sentence of the new document stands where one of the old does
    obtain ⟨j, hj⟩ := List.mem_iff_getElem?.1 hx
    rw [List.getElem?_modify] at hj
    obtain ⟨y, hy, rfl⟩ := Option.map_eq_some_iff.1 hj
    refine ⟨y, List.mem_of_getElem? hy, ?_, ?_⟩
    · split
      · exact (hid y).symm
      · rfl
    · split at hp
      · exact hf y hp
      · exact hp

/-- Refusing a sentence brings nothing new. -/
theorem refuseAt (d : Document) (i : Nat) (location : Option Location) (message : String) :
    d.NothingNew (d.refuseAt i location message) :=
  modifyAt d i (fun _ => rfl) fun x hp => by simp [Sentence.refused] at hp

/-- An edit brings nothing new. -/
theorem reconciled {outcome : Reconciliation} (hr : d.Reconciled outcome d') : d.NothingNew d' := by
  refine ⟨hr.nextId, hr.ids_prefix.sublist, fun x hx hp => ?_⟩
  -- up to their places the sentences were there before
  have hmem : x.unplaced ∈ d.sentences.map (·.unplaced) := by
    have hx' := List.mem_map_of_mem (f := (·.unplaced)) hx
    rw [sentences_eq, List.map_append, List.mem_append] at hx' ⊢
    exact hx'.imp (fun h => hr.sent ▸ h) fun h => hr.unsent.subset h
  obtain ⟨y, hy, hyx⟩ := List.mem_map.1 hmem
  have hid : y.unplaced.id = x.unplaced.id := congrArg Sentence.id hyx
  have hstate : y.unplaced.state = x.unplaced.state := congrArg Sentence.state hyx
  exact ⟨y, hy, hid, hstate.trans hp⟩

end NothingNew

end Document

namespace Session

variable {σ : Type} {s s' : Session σ}

variable [Link σ]

/-- While sentences are doomed, a small step makes nothing new. -/
theorem Orderly.act_nothingNew (h : s.Orderly) (hd : s.document.doomed ≠ []) {es : History}
    (ha : Act s es s') :
    (∀ e ∈ es, ¬ e.IsAdd) ∧ s.document.NothingNew s'.document := by
  cases ha with
  | quiet hs => exact ⟨by simp, Document.NothingNew.of_eq hs.document⟩
  | order halive ho => exact ⟨by simp, .refl _⟩
  | edit he => exact ⟨by simp, (document_noteEdit _ _).symm ▸ .reconciled he.reconciled⟩
  | round hround =>
    cases hround with
    | send hfree hready hqueue hstep =>
      cases Navigation.of_step_send h.coherent.numbered hstep with
      | add hop hblocked hnone he hx htip => exact absurd hnone hd
      | editAt hindex hy htarget =>
        exact ⟨by simp [Exchange.IsAdd], Document.NothingNew.of_eq (document_send ..)⟩
    | proceed hfree hready hqueue hstep =>
      -- while sentences are doomed a rollback is at the head, and it always makes a call
      exact absurd (h.doomed_eq_nil_of_proceed hfree hready hqueue hstep) hd
    | refuse hfree hready hqueue hstep =>
      exact absurd (h.doomed_eq_nil_of_refuse hfree hready hqueue hstep) hd
    | goal hfree hready hqueue hstale =>
      exact ⟨by simp [Exchange.IsAdd], Document.NothingNew.of_eq (document_send ..)⟩
  | status halive hfree =>
    exact ⟨by simp [Exchange.IsAdd], Document.NothingNew.of_eq (document_send ..)⟩
  | close =>
    refine ⟨?_, Document.NothingNew.of_eq (document_close s)⟩
    unfold farewell
    split <;> simp [Exchange.IsAdd]

/-- A frame makes nothing new. -/
theorem Takes.nothingNew {frame : Inbound} (ht : Takes s frame s') :
    s.document.NothingNew s'.document := by
  cases ht with
  | broken fault => exact .refl _
  | started hslot hreply hs =>
    exact hs.document ▸ ⟨rfl, List.Sublist.refl _, fun x hx hp => ⟨x, hx, rfl, hp⟩⟩
  | accepted hslot hx hreply hs =>
    exact hs.document ▸ .modifyAt _ _ (fun _ => rfl) fun x hp => by simp [Sentence.accepted] at hp
  | refused hslot hx hs => exact hs.document ▸ .refuseAt ..
  | acceptedLate hslot hid hs => exact Document.NothingNew.of_eq hs.document
  | refusedLate hslot hid hs => exact Document.NothingNew.of_eq hs.document
  | rolledBack hslot hs => exact hs.document ▸ .truncateTo ..
  | told hslot hrequest hs => exact Document.NothingNew.of_eq hs.document
  | admitted hi =>
    refine .modifyAt _ _ (fun x => ?_) fun x hp => ?_
    · cases x.state <;> rfl
    · cases hx : x.state <;> simp_all
  | processed hcontent hi => exact .modifyAt _ _ (fun _ => rfl) fun _ => id
  | failed hi hx hs => exact hs.document ▸ .trans (.refuseAt ..) (.truncateAt ..)
  | heard hs => exact Document.NothingNew.of_eq hs.document

/-- While sentences are doomed, nothing that happens makes anything new. -/
theorem Orderly.move_nothingNew (h : s.Orderly) (hd : s.document.doomed ≠ []) {es : History}
    (hm : Moves s es s') :
    (∀ e ∈ es, ¬ e.IsAdd) ∧ s.document.NothingNew s'.document := by
  cases hm with
  | outside link => exact ⟨by simp, .refl _⟩
  | act ha => exact h.act_nothingNew hd ha
  | frame frame halive => exact ⟨by simp [Exchange.IsAdd], (h.takes_handleFrame frame).nothingNew⟩
  | lose fault halive => exact ⟨by simp, .refl _⟩

/-- The answer to a rollback discards the sentences from the one it was sent for on. -/
theorem Orderly.truncates (h : s.Orderly) {id : SentenceId} {index : Nat}
    (hslot : s.slot = some (.editAt id)) (hindex : s.document.indexOf? id = some index)
    {response : Response}
    (ha : (s.handleFrame (.response response)).Active) :
    (s.handleFrame (.response response)).document = (s.document.truncateAt index).2 := by
  have ht := h.takes_handleFrame (.response response)
  -- the slot holds a rollback, so no other kind of answer is possible
  generalize s.handleFrame (.response response) = t at ht ha ⊢
  cases ht with
  | broken fault => simp [Active, fail] at ha
  | rolledBack hslot' hs =>
    rw [hslot, Option.some.injEq, Request.editAt.injEq] at hslot'
    rw [hs.document, ← hslot']
    show (s.document.truncateTo id).2 = _
    rw [Document.truncateTo, hindex]
  | told hslot' hrequest =>
    rw [hslot, Option.some.injEq] at hslot'
    rcases hrequest with rfl | rfl | rfl <;> simp at hslot'
  | started hslot' | accepted hslot' | refused hslot' | acceptedLate hslot' | refusedLate hslot' =>
    simp [hslot] at hslot'

/-- Rollbacks come first in a session: none that an edit caused is lost, and until its sentences are
gone nothing else is done. -/
structure RollbackFirst (s : Session σ) : Prop where
  /-- The queue holds at most one rollback. -/
  single : (s.queue.filter (·.isRewind)).length ≤ 1
  /-- While sentences are doomed, the session waits for the answer to a rollback that discards the
  first of them, or one in front of it, or else the rollback to the first of them comes next. -/
  present : s.Active → s.document.doomed ≠ [] →
    (∃ id index, s.slot = some (.editAt id) ∧ s.document.indexOf? id = some index ∧
      index ≤ s.document.live.length ∧
      ∀ response, (s.handleFrame (.response response)).Active →
        (s.handleFrame (.response response)).document = (s.document.truncateAt index).2) ∨
    ∃ x, s.document.sentences[s.document.live.length]? = some x ∧
      s.queue.head? = some (.rewind x.id)
  /-- Whatever happens next, while sentences are doomed, adds none, splits none off and makes none
  pending. -/
  quiet : s.document.doomed ≠ [] → ∀ es t, Moves s es t →
    (∀ e ∈ es, ¬ e.IsAdd) ∧ s.document.NothingNew t.document

/-- Rollbacks come first where a session is in order. -/
theorem rollbackFirst_of_orderly (ho : s.Orderly) : RollbackFirst s := by
  refine ⟨ho.tidy.rewinds, fun ha hd => ?_, fun hd es t hm => ho.move_nothingNew hd hm⟩
  -- outstanding, or next in the queue
  rcases ho.rollback ha hd with ⟨index, id, hle, hget, hslot⟩ | ⟨id, hget, hnext⟩
  · have hindex := ho.coherent.numbered.indexOf?_of_trail hget
    exact .inl ⟨id, index, hslot, hindex, hle, fun response hact => ho.truncates hslot hindex hact⟩
  · obtain ⟨x, hx, rfl⟩ := Document.exists_of_indexOf? (ho.coherent.numbered.indexOf?_of_trail hget)
    exact .inr ⟨x, hx, hnext⟩

/-- Rollbacks come first on every run. -/
theorem Run.rollbackFirst {h : History} (hr : Run h s) : RollbackFirst s :=
  rollbackFirst_of_orderly hr.orderly

/-- Rollbacks come first, whatever operations have led to a session. -/
theorem rollbackFirst_of_reachable (hr : Reachable s) : RollbackFirst s :=
  rollbackFirst_of_orderly hr.orderly

/-- A sentence is changed while its answer is awaited. -/
theorem rollbackFirst_of_overtaken :
    ∃ (h : History) (s : Session Channel),
      Run h s ∧ s.Active ∧ s.document.doomed ≠ [] ∧ RollbackFirst s := by
  have hedited : (waiting sentCalls).perform (.setText "B.") = { waiting sentCalls with
      document := { sentText with text := "B.", live := [], doomed := sentText.live }
      queue := [.rewind 0] } := by cbv
  obtain ⟨es, hr, -⟩ := run_waiting.operate (.setText "B.")
  rw [hedited] at hr
  exact ⟨_, _, hr, .inr rfl, List.cons_ne_nil _ _, hr.rollbackFirst⟩

end Session

end ProofDesk
