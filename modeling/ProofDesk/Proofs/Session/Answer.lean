import ProofDesk.Proofs.Session.Orderly

/-!
# The invariant when a frame is taken up

An answer frees the slot, so that a rollback which is not the call answered must come next; the
answer to a rollback discards every doomed sentence, and an error found later never discards the
first of them.
-/

namespace ProofDesk

namespace Document

/-- Marking a sentence that was sent keeps the identifiers of the trail. -/
theorem map_id_trail_modifyAt {d : Document} {i : Nat} (hi : i < d.locked) {f : Sentence → Sentence}
    (hf : ∀ x, (f x).id = x.id) : (d.modifyAt i f).trail.map (·.id) = d.trail.map (·.id) := by
  rw [map_id_trail, map_id_trail, sent_modifyAt hi]
  exact map_modify_of_eq hf _ _

/-- Taking the document back leaves nothing doomed if nothing was or no doomed sentence is left. -/
theorem doomed_truncateAt_eq_nil_iff (d : Document) (i : Nat) :
    (d.truncateAt i).2.doomed = [] ↔ d.doomed = [] ∨ i ≤ d.live.length := by
  show d.doomed.take (i - d.live.length) = [] ↔ _
  rw [List.take_eq_nil_iff, Nat.sub_eq_zero_iff_le, or_comm]

end Document

namespace Session

variable {σ : Type} {s s' : Session σ}

/-- The invariant for a session that is ready and waits for nothing. -/
theorem orderly_of_free (hc : s.document.Coherent) (hstatus : s.status = .ready)
    (hfatal : s.fatal = none) (hslot : s.slot = none) (hroot : s.document.root.isSome)
    (htidy : Tidy s.document s.queue)
    (hpending : ∀ e ∈ s.document.trail, e.phase ≠ .pending)
    (hnext : s.document.doomed ≠ [] →
      ∃ id, (s.document.trail.map (·.id))[s.document.live.length]? = some id ∧
        s.queue.head? = some (.rewind id)) : s.Orderly :=
  orderly_of_ready hc hstatus hfatal (by simp [hslot]) hroot htidy (by simp [hslot])
    (awaits_of_none (by simp [hslot]) hpending) fun hd => .inr (hnext hd)

/-- A session stays in order when the prover says that it has started. -/
private theorem orderly_started (h : s.Orderly) (ha : s.Active) (hslot : s.slot = some .init)
    (state : StateId) :
    Orderly { s.freed with document := s.document.setRoot state, status := .ready } := by
  have htrail : s.document.trail = [] := h.fresh (h.starting.2 hslot)
  -- before the first answer nothing has been sent
  have hd : s.document.doomed = [] := by
    rw [Document.doomed_eq_nil_iff, htrail]
    have hle := s.document.length_live_le
    rw [← Document.length_trail, htrail] at hle
    exact Nat.le_zero.1 hle
  refine orderly_of_free (h.coherent.setRoot state) rfl (h.fatal_eq_none ha) rfl rfl
    ⟨h.tidy.positive, h.tidy.rewinds, h.tidy.spent⟩ ?_ fun hne => absurd hd hne
  intro e he
  have hmem : e ∈ s.document.trail := he
  simp [htrail] at hmem

/-- The sentence that the slot waits for is the last one that was sent. -/
theorem Orderly.last_of_slot (h : s.Orderly) (ha : s.Active) {i : Nat} {x : Sentence}
    (hslot : s.slot = some (.add x.id)) (hx : s.document.sent[i]? = some x) :
    i + 1 = s.document.locked := by
  have hmem : x.entry ∈ s.document.trail :=
    List.mem_of_getElem? (Document.Coherent.trail_of_sent hx)
  exact h.coherent.last_of_pending hx ((h.awaits ha _ hmem).2 hslot)

/-- An answer changes the sentence that was waiting for it. -/
theorem Orderly.answered (h : s.Orderly) (ha : s.Active) {i : Nat} {x : Sentence}
    (hslot : s.slot = some (.add x.id)) (hx : s.document.sent[i]? = some x)
    {f : Sentence → Sentence} {g : Entry → Entry} (hid : ∀ x, (f x).id = x.id)
    (hentry : ∀ x, (f x).entry = g x.entry) (hphase : (g x.entry).phase ≠ .pending)
    (hc : (s.document.modifyAt i f).Coherent) {queue : List Navigation}
    (htidy : Tidy s.document queue)
    (hhead : ∀ id, s.queue.head? = some (.rewind id) → queue.head? = some (.rewind id)) :
    Orderly { s.freed with document := s.document.modifyAt i f, queue, goalsStale := true } := by
  have hi := Document.lt_locked_of_sent hx
  have hready := h.ready ha (by simp [hslot])
  have hlast := h.last_of_slot ha hslot hx
  refine orderly_of_free hc hready (h.fatal_eq_none ha) rfl ?_
    (htidy.of_spent fun _ hs => hs.modifyAt hi f) ?_ ?_
  · rw [Document.root_modifyAt]
    exact h.root hready
  · rw [Document.trail_modifyAt hi hentry, Document.Coherent.modify_last hx hlast]
    intro e he
    rcases List.mem_append.1 he with he | he
    -- what stands in front of the sentence is settled, and the sentence waits no longer
    · have hsettled := h.coherent.shape.settled_take (by simpa using hi) e he
      simp [hsettled.1]
    · rw [List.mem_singleton.1 he]
      exact hphase
  · intro hd
    dsimp only at hd ⊢
    rw [Ne, Document.doomed_modifyAt_eq_nil_iff] at hd
    -- the answer was to no rollback, so the rollback comes next
    obtain ⟨id, hget, hnext⟩ := (h.rollback ha hd).head (by simp [hslot])
    rw [Document.map_id_trail_modifyAt hi hid, Document.length_live_modifyAt]
    exact ⟨id, hget, hhead id hnext⟩

/-- An answer that changes no sentence only frees the slot. -/
theorem Orderly.released (h : s.Orderly) (ha : s.Active) (hinit : s.slot ≠ some .init)
    (hedit : ∀ id, s.slot ≠ some (.editAt id))
    (hpending : ∀ e ∈ s.document.trail, e.phase ≠ .pending)
    {queue : List Navigation} (htidy : Tidy s.document queue)
    (hhead : ∀ id, s.queue.head? = some (.rewind id) → queue.head? = some (.rewind id))
    (goalsStale : Bool) :
    Orderly { s.freed with queue, goalsStale } := by
  have hready := h.ready ha hinit
  refine orderly_of_free h.coherent hready (h.fatal_eq_none ha) rfl (h.root hready) htidy
    hpending fun hd => ?_
  obtain ⟨id, hget, hnext⟩ := (h.rollback ha hd).head hedit
  exact ⟨id, hget, hhead id hnext⟩

/-- The sentence that the slot waits for is pending, if it is still there. -/
theorem Orderly.not_pending_of_discarded (h : s.Orderly) (ha : s.Active) {id : SentenceId}
    (hslot : s.slot = some (.add id)) (hid : id ∉ s.document.ids) :
    ∀ e ∈ s.document.trail, e.phase ≠ .pending := by
  intro e he hp
  have heq := (h.awaits ha e he).1 hp
  rw [hslot, Option.some.injEq, Request.add.injEq] at heq
  refine hid ?_
  rw [heq, Document.ids_eq]
  exact List.mem_append_left _ (List.mem_map_of_mem he)

/-- The answer to a rollback discards every doomed sentence, unless another rollback comes next. -/
theorem Orderly.rolledBack (h : s.Orderly) (ha : s.Active) {id : SentenceId}
    (hslot : s.slot = some (.editAt id)) :
    (s.freed.changed (s.document.truncateTo id).2).Orderly := by
  have hready := h.ready ha (by simp [hslot])
  have hpending := (h.awaits ha).not_pending (by simp [hslot])
  have hn := h.coherent.numbered
  unfold Document.truncateTo
  split
  · next index hindex =>
    refine orderly_of_free (h.coherent.truncateAt index) hready (h.fatal_eq_none ha) rfl
      (h.root hready)
      (h.tidy.of_spent fun _ hs => hs.truncateAt index) ?_ fun hd => ?_
    · intro e he
      have hmem : e ∈ (s.document.truncateAt index).2.trail := he
      rw [Document.trail_truncateAt] at hmem
      exact hpending e (List.mem_of_mem_take hmem)
    · have hd' : (s.document.truncateAt index).2.doomed ≠ [] := hd
      rw [Ne, Document.doomed_truncateAt_eq_nil_iff, not_or, Nat.not_le] at hd'
      rcases h.rollback ha hd'.1 with ⟨j, id', hle, hget, heq⟩ | ⟨id', hget, hnext⟩
      · -- the call answered was the rollback to a sentence that is not behind the first doomed one
        have hfound := hn.indexOf?_of_trail hget
        rw [hslot, Option.some.injEq, Request.editAt.injEq] at heq
        rw [← heq, hindex, Option.some.injEq] at hfound
        omega
      · refine ⟨id', ?_, hnext⟩
        show ((s.document.truncateAt index).2.trail.map
          (·.id))[(s.document.truncateAt index).2.live.length]? = _
        rw [Document.trail_truncateAt, Document.length_live_truncateAt,
          Nat.min_eq_right (Nat.le_of_lt hd'.2), List.map_take, List.getElem?_take_of_lt hd'.2]
        exact hget
  · next hindex =>
    refine orderly_of_free h.coherent hready (h.fatal_eq_none ha) rfl (h.root hready) h.tidy
      hpending fun hd => ?_
    rcases h.rollback ha hd with ⟨j, id', -, hget, heq⟩ | hnext
    -- the rollback was to a sentence that is gone, so it was not the one that an edit asked for
    · have hfound := hn.indexOf?_of_trail hget
      rw [hslot, Option.some.injEq, Request.editAt.injEq] at heq
      rw [← heq, hindex] at hfound
      simp at hfound
    · exact hnext

/-- Which sentence waits for its answer is told by the identifiers and phases of the trail. -/
private theorem awaits_congr {t t' : List Entry} {slot : Option Request}
    (h : t'.map (fun e => (e.id, e.phase)) = t.map (fun e => (e.id, e.phase)))
    (ha : Awaits t slot) :
    Awaits t' slot := by
  intro e he
  have hmem : (e.id, e.phase) ∈ t.map (fun e => (e.id, e.phase)) := h ▸ List.mem_map_of_mem he
  obtain ⟨e₀, he₀, heq⟩ := List.mem_map.1 hmem
  rw [Prod.mk.injEq] at heq
  rw [← heq.1, ← heq.2]
  exact ha e₀ he₀

/-- News that changes neither identifier nor phase keeps the invariant. -/
theorem Orderly.marked (h : s.Orderly) {i : Nat} (hi : i < s.document.locked)
    {f : Sentence → Sentence} (hc : (s.document.modifyAt i f).Coherent) (hid : ∀ x, (f x).id = x.id)
    (hphase : ∀ x, (f x).state.phase = x.state.phase) :
    Orderly { s with document := s.document.modifyAt i f } := by
  have hs : ∀ id, s.document.Spent id → (s.document.modifyAt i f).Spent id := fun _ hs =>
    hs.modifyAt hi f
  -- what waits for an answer is told by identifiers and phases
  have hpairs : (s.document.modifyAt i f).trail.map (fun e => (e.id, e.phase)) =
      s.document.trail.map (fun e => (e.id, e.phase)) := by
    rw [Document.trail, Document.trail, Document.sent_modifyAt hi, List.map_map, List.map_map]
    exact map_modify_of_eq (fun x => by simp [hid, hphase]) _ _
  refine ⟨hc, h.alive, h.idle, h.starting, fun hst => ?_, fun hr => ?_, h.tidy.of_spent hs,
    fun id hid => hs id (h.addressed id hid), fun ha =>
      awaits_congr hpairs (h.awaits ha), fun ha hd => ?_⟩
  · rw [h.fresh hst] at hpairs
    exact List.map_eq_nil_iff.1 hpairs
  · rw [Document.root_modifyAt]
    exact h.root hr
  · dsimp only at hd ⊢
    rw [Ne, Document.doomed_modifyAt_eq_nil_iff] at hd
    rw [Document.map_id_trail_modifyAt hi hid, Document.length_live_modifyAt]
    exact h.rollback ha hd

/-- An error found later discards what is behind the sentence, and never the first doomed one. -/
theorem Orderly.failed (h : s.Orderly) (ha : s.Active) {i : Nat} {x : Sentence} {state : StateId}
    (hi : s.document.indexOfState? state = some i) (hx : s.document.sent[i]? = some x)
    (location : Option Location) (message : String) :
    (s.dropAdvances.changed ((s.document.refuseAt i location message).truncateAt
      (i + 1)).2).Orderly := by
  have hlt := Document.lt_locked_of_sent hx
  have hstate : x.stateId = some state := by
    obtain ⟨y, hy, hstate⟩ := Document.sent_of_indexOfState? h.coherent.stateId_unsent hi
    rw [hx, Option.some.injEq] at hy
    rwa [hy]
  have hmem : x.entry ∈ s.document.trail :=
    List.mem_of_getElem? (Document.Coherent.trail_of_sent hx)
  have hready : s.status = .ready := by
    -- a session that is starting has sent no sentence
    refine ha.resolve_left fun hstarting => ?_
    rw [h.fresh hstarting] at hmem
    simp at hmem
  have htrail := Document.Coherent.trail_refuseAt_truncateAt hx location message
  have hlive : ((s.document.refuseAt i location message).truncateAt (i + 1)).2.live.length =
      min (i + 1) s.document.live.length := by
    rw [Document.length_live_truncateAt, Document.refuseAt, Document.length_live_modifyAt]
  have hs : ∀ id, s.document.Spent id →
      ((s.document.refuseAt i location message).truncateAt (i + 1)).2.Spent id :=
    fun _ hs => (hs.modifyAt hlt _).truncateAt _
  refine orderly_of_ready (h.coherent.refuseAt_truncateAt hx location message) hready
    (h.fatal_eq_none ha) ?_ ?_
    (h.tidy.dropAdvances.of_spent hs) (fun id hid => hs id (h.addressed id hid)) ?_ fun hd => ?_
  · intro hinit
    rw [h.starting.2 hinit] at hready
    simp at hready
  · show (s.document.refuseAt i location message).root.isSome
    rw [Document.refuseAt, Document.root_modifyAt]
    exact h.root hready
  · show Awaits ((s.document.refuseAt i location message).truncateAt (i + 1)).2.trail s.slot
    rw [htrail]
    intro e he
    rcases List.mem_append.1 he with he | he
    · exact h.awaits ha e (List.mem_of_mem_take he)
    · -- an accepted sentence waits for no answer
      rw [List.mem_singleton.1 he]
      refine ⟨fun hp => by simp [Entry.refused] at hp, fun hslot => ?_⟩
      have hnone := (h.pending_sound ha hmem hslot).1
      simp [hstate] at hnone
  · have hd' : ((s.document.refuseAt i location message).truncateAt (i + 1)).2.doomed ≠ [] := hd
    rw [Ne, Document.doomed_truncateAt_eq_nil_iff, not_or, Document.refuseAt,
      Document.doomed_modifyAt_eq_nil_iff, Document.length_live_modifyAt, Nat.not_le] at hd'
    have hids : ((s.document.refuseAt i location message).truncateAt (i + 1)).2.trail.map (·.id) =
        (s.document.trail.map (·.id)).take (i + 1) := by
      rw [Document.trail_truncateAt, List.map_take, Document.refuseAt,
        Document.map_id_trail_modifyAt (f := (·.refused location message)) hlt fun _ => rfl]
    show RollsBack
      (((s.document.refuseAt i location message).truncateAt (i + 1)).2.trail.map (·.id))
      ((s.document.refuseAt i location message).truncateAt (i + 1)).2.live.length s.slot
      (Navigation.dropAdvances s.queue)
    rw [hids, hlive, Nat.min_eq_right (Nat.le_of_lt hd'.2)]
    exact ((h.rollback ha hd'.1).take hd'.2).of_queue fun _ => head?_dropAdvances

variable [Link σ]

/-- Taking up a frame keeps the invariant. -/
theorem Orderly.takes (h : s.Orderly) (ha : s.Active) {frame : Inbound} (ht : Takes s frame s') :
    s'.Orderly := by
  have hkeep : ∀ id, s.queue.head? = some (.rewind id) → s.queue.head? = some (.rewind id) :=
    fun _ => id
  have hdrop : ∀ id, s.queue.head? = some (.rewind id) →
      (Navigation.dropAdvances s.queue).head? = some (.rewind id) := fun _ => head?_dropAdvances
  -- what was queued may be dropped along with a refusal, but no rollback
  cases ht with
  | broken fault => exact orderly_fail (s := s.freed) h.coherent fault
  | started hslot hreply hs => exact (orderly_started h ha hslot _).of_agrees hs
  | accepted hslot hx hreply hs =>
    -- the sentence that is awaited is the last one that has been sent
    have hc := h.coherent.acceptAt hx (h.last_of_slot ha hslot hx)
    refine Orderly.of_agrees ?_ hs
    exact h.answered ha hslot hx (f := (·.accepted _)) (g := (·.accepted _)) (fun _ => rfl)
      (fun _ => rfl) (by simp [Entry.accepted])
      (hc _) h.tidy hkeep
  | refused hslot hx hs =>
    have hc := h.coherent.refuseAt hx (h.last_of_slot ha hslot hx)
    refine Orderly.of_agrees ?_ hs
    exact h.answered ha hslot hx (f := (·.refused _ _)) (g := (·.refused)) (fun _ => rfl)
      (fun _ => rfl) (by simp [Entry.refused])
      (hc _ _) h.tidy.dropAdvances hdrop
  | acceptedLate hslot hid hs =>
    refine Orderly.of_agrees ?_ hs
    exact h.released ha (by simp [hslot]) (by simp [hslot])
      (h.not_pending_of_discarded ha hslot hid) h.tidy hkeep
      s.goalsStale
  | refusedLate hslot hid hs =>
    refine Orderly.of_agrees ?_ hs
    exact h.released ha (by simp [hslot]) (by simp [hslot])
      (h.not_pending_of_discarded ha hslot hid)
      h.tidy.dropAdvances hdrop true
  | rolledBack hslot hs => exact (h.rolledBack ha hslot).of_agrees hs
  | told hslot hrequest hs =>
    refine Orderly.of_agrees ?_ hs
    refine h.released ha ?_ ?_ ((h.awaits ha).not_pending ?_) h.tidy hkeep s.goalsStale <;>
      rcases hrequest with rfl | rfl | rfl <;> simp [hslot]
  | admitted hi =>
    obtain ⟨x, hx, -⟩ := Document.sent_of_indexOfState? h.coherent.stateId_unsent hi
    have hlt := Document.lt_locked_of_sent hx
    refine h.marked hlt (h.coherent.markAxiom hlt) (fun x => ?_) fun x => ?_
    · cases x.state <;> rfl
    · cases hx : x.state <;> simp [hx, SentenceState.phase]
  | processed hcontent hi =>
    obtain ⟨x, hx, hstate⟩ := Document.sent_of_indexOfState? h.coherent.stateId_unsent hi
    exact h.marked (Document.lt_locked_of_sent hx) (h.coherent.markProcessed hx (by simp [hstate]))
      (fun _ => rfl) fun _ => rfl
  | failed hi hx hs => exact (h.failed ha hi hx _ _).of_agrees hs
  | heard hs => exact h.of_agrees hs

/-- What a frame does to a session on which the invariant holds. -/
theorem Orderly.takes_handleFrame (h : s.Orderly) (frame : Inbound) :
    s.Takes frame (s.handleFrame frame) :=
  Session.takes_handleFrame h.coherent.numbered h.coherent.stateId_unsent
    (fun id hid => h.addressed id (.inl hid)) frame

/-- A session stays in order whatever frame it takes up. -/
theorem Orderly.handleFrame (h : s.Orderly) (halive : s.isAlive = true) (frame : Inbound) :
    (s.handleFrame frame).Orderly :=
  h.takes (h.alive.1 halive) (h.takes_handleFrame frame)

/-- A new session is in order. -/
theorem orderly_start (link : σ) (text : String) (settings : Settings) :
    (start link text settings).Orderly := by
  have htrail : (Document.ofText text).trail = [] := rfl
  refine orderly_send fun link => ?_
  refine ⟨.ofText text, by simp [isAlive, Active], fun hn => absurd (.inl rfl) hn, by simp [slot],
    fun _ => htrail, by simp, .nil _, by simp [slot], fun _ => ?_, fun _ hd => absurd rfl hd⟩
  exact awaits_of_none (by simp [slot]) (by simp [Document.trail_ofText])

/-- Whatever happens keeps the invariant. -/
theorem Orderly.move (h : s.Orderly) {es : History} (hm : Moves s es s') : s'.Orderly := by
  cases hm with
  | outside link =>
    exact ⟨h.coherent, h.alive, h.idle, h.starting, h.fresh, h.root, h.tidy, h.addressed,
      h.awaits, h.rollback⟩
  | act ha => exact h.act ha
  | frame frame halive => exact h.handleFrame halive frame
  | lose fault halive => exact orderly_fail h.coherent fault

/-- The invariant holds on every run. -/
theorem Run.orderly {h : History} (hr : Run h s) : s.Orderly := by
  induction hr with
  | start link text settings => exact orderly_start link text settings
  | move _ hm ih => exact ih.move hm

/-- Whatever operations have led to a session, it is in order. -/
theorem Reachable.orderly (hr : Reachable s) : s.Orderly := by
  obtain ⟨h, hrun⟩ := hr.exists_run
  exact hrun.orderly

end Session

end ProofDesk
