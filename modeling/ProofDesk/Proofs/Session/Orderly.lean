import ProofDesk.Proofs.Session.Frame
import ProofDesk.Proofs.Session.Queue

/-!
# The invariant of a session

`Orderly` ties the document, the slot and the queue of a session together: a session in conversation
has exactly the sentence pending whose answer it waits for, and a rollback is under way whenever
sentences are doomed. The invariant holds on every run (`Run.orderly`). It is shown for one small
step at a time (`Orderly.act`) and for one frame at a time (`Orderly.takes`).
-/

namespace ProofDesk.Session

variable {σ : Type}

/-- A sentence is pending exactly while the slot waits for the answer to it. -/
def Awaits (t : List Entry) (slot : Option Request) : Prop :=
  ∀ e ∈ t, e.phase = .pending ↔ slot = some (.add e.id)

/-- What holds of a session between any two small steps. -/
structure Orderly (s : Session σ) : Prop where
  coherent : s.document.Coherent
  alive : s.isAlive = true ↔ s.Active
  idle : ¬ s.Active → s.slot = none ∧ s.queue = []
  starting : s.status = .starting ↔ s.slot = some .init
  fresh : s.status = .starting → s.document.trail = []
  root : s.status = .ready → s.document.root.isSome
  tidy : Tidy s.document s.queue
  addressed : ∀ id, s.slot = some (.add id) ∨ s.slot = some (.editAt id) → s.document.Spent id
  awaits : s.Active → Awaits s.document.trail s.slot
  rollback : s.Active → s.document.doomed ≠ [] →
    RollsBack (s.document.trail.map (·.id)) s.document.live.length s.slot s.queue

section Awaits

variable {t : List Entry} {slot : Option Request}

/-- Nothing is awaited where nothing is pending and no sentence is in the slot. -/
theorem awaits_of_none (hslot : ∀ id, slot ≠ some (.add id)) (h : ∀ e ∈ t, e.phase ≠ .pending) :
    Awaits t slot :=
  fun e he => ⟨fun hp => absurd hp (h e he), fun hs => absurd hs (hslot e.id)⟩

/-- Without a sentence in the slot none waits for its answer. -/
theorem Awaits.not_pending (h : Awaits t slot) (hslot : ∀ id, slot ≠ some (.add id)) :
    ∀ e ∈ t, e.phase ≠ .pending :=
  fun e he hp => hslot e.id ((h e he).1 hp)

end Awaits

/-! ## Sessions that have ended -/

section Basics

variable {s s' : Session σ}

/-- A session is alive until it breaks or is closed. -/
theorem isAlive_iff (s : Session σ) : s.isAlive = true ↔ s.fatal = none ∧ s.status ≠ .closed := by
  simp [isAlive]

/-- Navigation is refused just where a session is not alive. -/
theorem refusal?_eq_none_iff (s : Session σ) : s.refusal? = none ↔ s.isAlive = true := by
  rw [isAlive_iff]
  unfold refusal?
  cases s.fatal <;> simp

/-- Nothing is asked of a session that has ended. -/
theorem orderly_of_ended (hc : s.document.Coherent)
    (hstatus : s.status = .broken ∨ s.status = .closed) (hdead : s.isAlive = false)
    (hslot : s.slot = none) (hqueue : s.queue = []) : s.Orderly := by
  have hactive : ¬ s.Active := by
    unfold Active
    rcases hstatus with h | h <;> simp [h]
  have hstarting : s.status ≠ .starting := fun h => hactive (.inl h)
  refine ⟨hc, ?_, fun _ => ⟨hslot, hqueue⟩, ?_, fun h => absurd h hstarting,
    fun h => absurd (.inr h) hactive, ?_, ?_, fun h => absurd h hactive, fun h => absurd h hactive⟩
  · simp [hdead, hactive]
  · simp [hstarting, hslot]
  · rw [hqueue]
    exact .nil _
  · simp [hslot]

/-- What makes a session whose prover has started one in order. -/
theorem orderly_of_ready (hc : s.document.Coherent) (hstatus : s.status = .ready)
    (hfatal : s.fatal = none) (hslot : s.slot ≠ some .init) (hroot : s.document.root.isSome)
    (htidy : Tidy s.document s.queue)
    (haddressed : ∀ id, s.slot = some (.add id) ∨ s.slot = some (.editAt id) → s.document.Spent id)
    (hawaits : Awaits s.document.trail s.slot)
    (hrollback : s.document.doomed ≠ [] →
      RollsBack (s.document.trail.map (·.id)) s.document.live.length s.slot s.queue) :
    s.Orderly := by
  have hactive : s.Active := .inr hstatus
  refine ⟨hc, ?_, fun h => absurd hactive h, ?_, fun h => ?_, fun _ => hroot, htidy, haddressed,
    fun _ => hawaits, fun _ => hrollback⟩
  · rw [isAlive_iff]
    simp [hfatal, hstatus, hactive]
  · simp [hstatus, hslot]
  · simp [hstatus] at h

/-- What is shown does not matter to the invariant. -/
theorem Orderly.of_agrees (h : s.Orderly) (ha : s.Agrees s') : s'.Orderly := by
  -- every clause speaks of fields that both sessions have in common
  have hactive := ha.active_iff
  have halive : s'.isAlive = s.isAlive := by rw [isAlive, isAlive, ha.fatal, ha.status]
  refine ⟨?_, ?_, ?_, ?_, ?_, ?_, ?_, ?_, ?_, ?_⟩
  · exact ha.document ▸ h.coherent
  · rw [halive, hactive]
    exact h.alive
  · rw [hactive, ha.slot, ha.queue]
    exact h.idle
  · rw [ha.status, ha.slot]
    exact h.starting
  · rw [ha.status, ha.document]
    exact h.fresh
  · rw [ha.status, ha.document]
    exact h.root
  · rw [ha.document, ha.queue]
    exact h.tidy
  · rw [ha.slot, ha.document]
    exact h.addressed
  · rw [hactive, ha.document, ha.slot]
    exact h.awaits
  · rw [hactive, ha.document, ha.slot, ha.queue]
    exact h.rollback

/-- A session in order that refuses no navigation is in conversation. -/
theorem Orderly.active (h : s.Orderly) (halive : s.refusal? = none) : s.Active :=
  h.alive.1 ((refusal?_eq_none_iff s).1 halive)

/-- A session in order and in conversation has no fault. -/
theorem Orderly.fatal_eq_none (h : s.Orderly) (ha : s.Active) : s.fatal = none :=
  ((isAlive_iff s).1 (h.alive.2 ha)).1

/-- A session in conversation whose slot holds anything but the first call is ready. -/
theorem Orderly.ready (h : s.Orderly) (ha : s.Active) (hslot : s.slot ≠ some .init) :
    s.status = .ready :=
  ha.resolve_left fun hstarting => hslot (h.starting.1 hstarting)

/-- Nothing is doomed if no rollback is outstanding and none to a sentence that is there comes
next. -/
theorem Orderly.doomed_eq_nil (h : s.Orderly) (ha : s.Active)
    (hslot : ∀ id, s.slot ≠ some (.editAt id))
    (hhead : ∀ id, s.queue.head? = some (.rewind id) → s.document.indexOf? id = none) :
    s.document.doomed = [] := by
  by_contra hd
  -- a rollback comes next, and it names a sentence that is still there
  obtain ⟨id, hid, hnext⟩ := (h.rollback ha hd).head hslot
  have hindex := h.coherent.numbered.indexOf?_of_trail hid
  rw [hhead id hnext] at hindex
  simp at hindex

/-- No answer to an accepted sentence is awaited, nor any news before its answer. -/
theorem Orderly.pending_sound (h : s.Orderly) (ha : s.Active) {e : Entry}
    (he : e ∈ s.document.trail)
    (hslot : s.slot = some (.add e.id)) : e.stateId = none ∧ e.processed = false := by
  have hsound := h.coherent.shape.sound e he
  rwa [Entry.Sound, (h.awaits ha e he).2 hslot] at hsound

end Basics

/-! ## Orders and edits -/

variable {s s' : Session σ}

/-- A session stays in order when navigation is queued. -/
theorem Orderly.order (h : s.Orderly) (ha : s.Active) {queue : List Navigation}
    (ho : Orders s.queue queue) :
    Orderly { s with queue } :=
  ⟨h.coherent, h.alive, fun hn => absurd ha hn, h.starting, h.fresh, h.root, h.tidy.orders ho,
    h.addressed, h.awaits, fun ha hd => (h.rollback ha hd).of_queue fun _ => ho.head?⟩

/-- An edit that asks for no rollback. -/
theorem Orderly.shift (h : s.Orderly) {outcome : Reconciliation} {document : Document}
    (hr : s.document.Reconciled outcome document)
    (hlive : document.live.length = s.document.live.length) :
    Orderly { s with document } := by
  refine ⟨h.coherent.reconciled hr, h.alive, h.idle, h.starting, fun hs => ?_, fun hs => ?_,
    h.tidy.of_spent fun _ => hr.spent, fun id hid => hr.spent (h.addressed id hid),
    fun ha => ?_, fun ha hd => ?_⟩
  · exact hr.trail ▸ h.fresh hs
  · exact hr.root ▸ h.root hs
  · -- an edit leaves the trail, which is what an answer is matched with
    rw [hr.trail]
    exact h.awaits ha
  · dsimp only at hd ⊢
    rw [hr.trail, hlive]
    refine h.rollback ha ?_
    rwa [Ne, Document.doomed_eq_nil_iff, ← hlive, ← hr.trail, ← Document.doomed_eq_nil_iff]

/-- A session stays in order when its text is edited. -/
theorem Orderly.edit (h : s.Orderly) {outcome : Reconciliation} {document : Document}
    (he : s.document.Edits outcome document) : (noteEdit { s with document } outcome).Orderly := by
  have hr := he.reconciled
  have ho := hr.outcome
  cases outcome with
  | shifted => exact h.shift hr ho
  | dropped => exact h.shift hr ho
  | rollback id =>
    obtain ⟨y, hy, rfl, hlt, -⟩ := ho
    unfold noteEdit
    dsimp only
    split
    · next hdead =>
      -- nobody listens any more, and the document is all that matters
      have hactive : ¬ s.Active := fun ha => by
        rw [Option.isSome_iff_ne_none] at hdead
        exact hdead ((refusal?_eq_none_iff s).2 (h.alive.2 ha))
      exact ⟨h.coherent.reconciled hr, h.alive, h.idle, h.starting, fun hs => hr.trail ▸ h.fresh hs,
        fun hs => hr.root ▸ h.root hs, h.tidy.of_spent fun _ => hr.spent,
        fun id hid => hr.spent (h.addressed id hid), fun ha => absurd ha hactive, fun ha =>
          absurd ha hactive⟩
    · next halive =>
      -- the rollback takes its place in front, and names the first doomed sentence
      have ha : s.Active := h.active (Option.not_isSome_iff_eq_none.1 halive)
      have hspent : document.Spent y.id :=
        (hr.numbered h.coherent.numbered).spent (List.mem_of_getElem? hy)
      refine ⟨h.coherent.reconciled hr, h.alive, fun hn => absurd ha hn, h.starting,
        fun hs => ?_, fun hs => ?_, (h.tidy.of_spent fun _ => hr.spent).rewind hspent, fun id hid =>
          hr.spent (h.addressed id hid),
        fun ha => ?_, fun ha hd => .inr ⟨y.id, ?_, rfl⟩⟩
      · exact hr.trail ▸ h.fresh hs
      · exact hr.root ▸ h.root hs
      · dsimp only
        rw [hr.trail]
        exact h.awaits ha
      · rw [Document.map_id_trail, List.getElem?_map, hy]
        rfl

/-! ## Small steps -/

section Steps

variable {op : Navigation} {rest queue : List Navigation} {policy : AxiomPolicy}
  {document : Document} {fault : Fault}

/-- A step goes on without a call only where nothing is doomed. -/
theorem Orderly.doomed_eq_nil_of_proceed (h : s.Orderly) (hfree : s.request = none)
    (hready : s.status = .ready) (hqueue : s.queue = op :: rest)
    (hstep : Navigation.step policy s.document op rest = .proceed document queue) :
    s.document.doomed = [] := by
  have hslot : s.slot = none := (slot_eq_none_iff s).2 hfree
  obtain ⟨-, -, hgone, -⟩ :=
    Navigation.of_step_proceed (h.root hready) (hqueue ▸ h.tidy).ne_backward_zero hstep
  refine h.doomed_eq_nil (.inr hready) (by simp [hslot]) fun id hid => hgone id ?_
  simpa [hqueue] using hid

/-- Nothing is doomed where an operation that may send sentences comes next. -/
theorem Orderly.doomed_eq_nil_of_advances (h : s.Orderly) (hfree : s.request = none)
    (hready : s.status = .ready)
    (hqueue : s.queue = op :: rest) (hop : op.advances = true) : s.document.doomed = [] := by
  have hslot : s.slot = none := (slot_eq_none_iff s).2 hfree
  refine h.doomed_eq_nil (.inr hready) (by simp [hslot]) fun id hid => ?_
  rw [hqueue, List.head?_cons, Option.some.injEq] at hid
  rw [hid] at hop
  simp [Navigation.advances] at hop

/-- A step is refused only where nothing is doomed. -/
theorem Orderly.doomed_eq_nil_of_refuse (h : s.Orderly) (hfree : s.request = none)
    (hready : s.status = .ready) (hqueue : s.queue = op :: rest)
    (hstep : Navigation.step policy s.document op rest = .refuse document fault) :
    s.document.doomed = [] :=
  h.doomed_eq_nil_of_advances hfree hready hqueue (Navigation.advances_of_step_refuse hstep)

/-- A step that goes on without a call at most splits a sentence off, and is done with its
operation. -/
theorem Orderly.of_step_proceed (h : s.Orderly) (hfree : s.request = none)
    (hready : s.status = .ready) (hqueue : s.queue = op :: rest)
    (hstep : Navigation.step policy s.document op rest = .proceed document queue) :
    s.document.doomed = [] ∧ s.document.Extends document ∧ queue = rest := by
  obtain ⟨he, hrest, -, -⟩ :=
    Navigation.of_step_proceed (h.root hready) (hqueue ▸ h.tidy).ne_backward_zero hstep
  exact ⟨h.doomed_eq_nil_of_proceed hfree hready hqueue hstep, he, hrest⟩

/-- A session stays in order when its queue calls for a change of the document. -/
theorem Orderly.proceed (h : s.Orderly) (hfree : s.request = none) (hready : s.status = .ready)
    (hqueue : s.queue = op :: rest)
    (hstep : Navigation.step policy s.document op rest = .proceed document queue) :
    Orderly { s with document, queue } := by
  have ha : s.Active := .inr hready
  have hslot : s.slot = none := (slot_eq_none_iff s).2 hfree
  obtain ⟨hd, he, rfl⟩ := h.of_step_proceed hfree hready hqueue hstep
  refine orderly_of_ready (h.coherent.extend hd he) hready (h.fatal_eq_none ha) ?_ ?_ ?_ ?_ ?_ ?_
  · show s.slot ≠ some .init
    simp [hslot]
  · exact he.root ▸ h.root hready
  · exact ((hqueue ▸ h.tidy).of_sublist (List.sublist_cons_self _ _)).of_spent he.spent
  · exact fun id hid => he.spent id (h.addressed id hid)
  · dsimp only
    rw [he.trail]
    exact h.awaits ha
  · -- nothing is doomed, so no rollback is wanted
    exact fun hne => absurd (he.doomed.trans hd) hne

/-- A session stays in order when the head of its queue is refused. -/
theorem Orderly.refuse (h : s.Orderly) (hfree : s.request = none) (hready : s.status = .ready)
    (hqueue : s.queue = op :: rest)
    (hstep : Navigation.step policy s.document op rest = .refuse document fault) :
    (Session.refuse { s with document } fault).Orderly := by
  have ha : s.Active := .inr hready
  have hslot : s.slot = none := (slot_eq_none_iff s).2 hfree
  have hd := h.doomed_eq_nil_of_refuse hfree hready hqueue hstep
  -- nothing but splitting a sentence off has happened, and the queue is cut
  have he := Navigation.of_step_refuse hstep
  refine Orderly.of_agrees ?_ (quiet_refuse _ fault).toAgrees
  refine orderly_of_ready (h.coherent.extend hd he) hready (h.fatal_eq_none ha) ?_ ?_ ?_ ?_ ?_ ?_
  · show s.slot ≠ some .init
    simp [hslot]
  · exact he.root ▸ h.root hready
  · exact h.tidy.dropAdvances.of_spent he.spent
  · exact fun id hid => he.spent id (h.addressed id hid)
  · show Awaits document.trail s.slot
    rw [he.trail]
    exact h.awaits ha
  · exact fun hne => absurd (he.doomed.trans hd) hne

end Steps

variable [Link σ]

/-- A session that has failed is in order. -/
theorem orderly_fail (hc : s.document.Coherent) (fault : Fault) : (s.fail fault).Orderly :=
  orderly_of_ended hc (.inl rfl) rfl rfl rfl

/-- Whether or not the link takes a call, the invariant holds afterwards. -/
theorem orderly_send {request : Request} {call : Call}
    (h : ∀ link : σ, ({ s with link, request := some ⟨request, 0, false⟩ } : Session σ).Orderly) :
    (s.send request call).Orderly := by
  unfold send
  split
  · exact h _
  · next link _ => exact orderly_fail (h link).coherent _

/-- A session stays in order when it is closed. -/
theorem Orderly.close (h : s.Orderly) : s.close.Orderly := by
  obtain ⟨-, heq⟩ | ⟨t, ht, heq⟩ := close_cases s
  · rwa [heq]
  · have hdocument : t.document = s.document := by
      rcases ht with rfl | rfl
      · rfl
      · exact document_send ..
    rw [heq]
    exact orderly_of_ended (hdocument ▸ h.coherent) (.inr rfl) (by simp [isAlive]) rfl rfl

/-- A session stays in order when its queue calls for something to be sent. -/
theorem Orderly.sends (h : s.Orderly) (hfree : s.request = none) (hready : s.status = .ready)
    {op : Navigation} {rest queue : List Navigation} (hqueue : s.queue = op :: rest)
    {policy : AxiomPolicy} {request : Request} {call : Call}
    {document : Document}
    (hs : Navigation.Sends policy s.document op rest request call document queue) :
    (send { s with document, queue } request call).Orderly := by
  have ha : s.Active := .inr hready
  have hslot : s.slot = none := (slot_eq_none_iff s).2 hfree
  have hpending := (h.awaits ha).not_pending (by simp [hslot])
  have htidy : Tidy s.document (op.remaining ++ rest) := (hqueue ▸ h.tidy).remaining
  refine orderly_send fun link => ?_
  cases hs with
  | @add d₁ x later parent hop hblocked hd he hx htip =>
    have hsettled := h.coherent.all_settled hd hpending fun _ =>
      Document.isError_of_isBlocked hblocked
    have hc := h.coherent.extend hd he
    rw [← he.trail] at hsettled
    have hd₁ : d₁.doomed = [] := he.doomed.trans hd
    refine orderly_of_ready (hc.withPending hd₁ hsettled hx) hready (h.fatal_eq_none ha)
      (by simp [slot]) ?_
      ((htidy.of_spent he.spent).of_spent fun _ => Document.spent_withPending hx) ?_ ?_
        (fun hne => absurd hd₁ hne)
    · show d₁.root.isSome
      rw [he.root]
      exact h.root hready
    · -- the sentence that is pending now has been sent
      simp only [slot, Option.map_some, Option.some.injEq, Request.add.injEq,
        reduceCtorEq, or_false]
      rintro id rfl
      have hmem : { x with state := .pending } ∈ (d₁.withPending x later).sent := by
        simp [Document.withPending, Document.sent]
      have hspent := (Document.numbered_withPending hc.numbered hd₁ hx).spent hmem
      exact hspent
    · dsimp only
      rw [Document.trail_withPending hd₁]
      intro e hmem
      simp only [slot, Option.map_some, Option.some.injEq, Request.add.injEq]
      rcases List.mem_append.1 hmem with hmem | hmem
      -- sentences sent before are settled, and have other identifiers
      · have hne := hc.numbered.id_ne_of_unsent hmem (hx ▸ List.mem_cons_self)
        simp [(hsettled e hmem).1, hne.symm]
      · simp [List.mem_singleton.1 hmem]
  | @editAt index y target hindex hy htarget =>
    have hlt : index < s.document.locked := (hqueue ▸ h.tidy).lt_locked h.coherent.numbered hindex
    have hsent : s.document.sent[index]? = some y :=
      (Document.getElem?_sentences_of_lt hlt).symm.trans hy
    refine orderly_of_ready h.coherent hready (h.fatal_eq_none ha) (by simp [slot])
      (h.root hready) htidy ?_ ?_
      fun hd => .inl ⟨index, y.id, ?_, ?_, rfl⟩
    · simp only [slot, Option.map_some, Option.some.injEq, reduceCtorEq,
        Request.editAt.injEq, false_or]
      rintro id rfl
      exact h.coherent.numbered.spent (List.mem_of_getElem? hsent)
    · exact awaits_of_none (by simp [slot]) hpending
    · -- the rollback that an edit has caused is the operation in front
      obtain ⟨id, hid, hnext⟩ := (h.rollback ha hd).head (by simp [hslot])
      rw [hqueue, List.head?_cons, Option.some.injEq] at hnext
      subst hnext
      have hfound := h.coherent.numbered.indexOf?_of_trail hid
      rw [Navigation.GoesBackTo, hfound, Option.some.injEq] at hindex
      exact Nat.le_of_eq hindex.symm
    · rw [Document.map_id_trail, List.getElem?_map, hsent]
      rfl

/-- A question may be asked whenever the slot is free. -/
theorem Orderly.ask (h : s.Orderly) (ha : s.Active) (hfree : s.request = none)
    {request : Request} {call : Call} (hrequest : request = .goal ∨ request = .status)
    (goalsStale : Bool) :
    (send { s with goalsStale } request call).Orderly := by
  have hslot : s.slot = none := (slot_eq_none_iff s).2 hfree
  have hready := h.ready ha (by simp [hslot])
  refine orderly_send fun link => ?_
  -- the question is about no sentence
  have hadd : ∀ id, request ≠ .add id := by rcases hrequest with rfl | rfl <;> simp
  have hedit : ∀ id, request ≠ .editAt id := by rcases hrequest with rfl | rfl <;> simp
  refine orderly_of_ready h.coherent hready (h.fatal_eq_none ha) ?_ (h.root hready) h.tidy ?_
    ?_ fun hd => ?_
  · rcases hrequest with rfl | rfl <;> simp [slot]
  · intro id hid
    simp only [slot, Option.map_some, Option.some.injEq] at hid
    exact (hid.elim (hadd id) (hedit id)).elim
  · exact awaits_of_none (by simpa [slot] using hadd) ((h.awaits ha).not_pending (by simp [hslot]))
  · exact (h.rollback ha hd).of_head (by simp [hslot]) _

/-- A session stays in order with each of its acts. -/
theorem Orderly.act (h : s.Orderly) {es : History} (ha : Act s es s') : s'.Orderly := by
  cases ha with
  | quiet hs => exact h.of_agrees hs.toAgrees
  | order halive ho => exact h.order (h.active halive) ho
  | edit he => exact h.edit he
  | round hround =>
    cases hround with
    | send hfree hready hqueue hstep =>
      exact h.sends hfree hready hqueue (Navigation.of_step_send h.coherent.numbered hstep)
    | proceed hfree hready hqueue hstep => exact h.proceed hfree hready hqueue hstep
    | refuse hfree hready hqueue hstep => exact h.refuse hfree hready hqueue hstep
    | goal hfree hready hqueue hstale => exact h.ask (.inr hready) hfree (.inl rfl) false
  | status halive hfree => exact h.ask (h.active halive) hfree (.inr rfl) s.goalsStale
  | close => exact h.close

end ProofDesk.Session
