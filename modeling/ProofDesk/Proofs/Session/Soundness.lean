import ProofDesk.Proofs.Session.Backing
import ProofDesk.Proofs.Session.Documents

/-!
# What is shown as checked

A live sentence that is shown as accepted stands in the text as it was sent, was sent on top of the
state after the sentence in front of it, and has its own state from the answer to that
(`Run.faithful`). The invariant behind it (`Grounded`) is that the history backs the trail, and that
it has the call for the sentence that waits for its answer, with no answer behind it.
-/

namespace ProofDesk

open Document (lastState)

/-- Only an accepted sentence that has been checked is marked as verified, and it is marked as a
whole. -/
theorem Sentence.of_verified {text : String} {x : Sentence} {mark : Highlight}
    (hmark : mark ∈ x.highlights text) (hverified : mark.cls = .verified) :
    x.state = .valid .ordinary ∧ x.processed = true ∧ mark.range = x.span := by
  unfold Sentence.highlights at hmark
  split at hmark
  · simp at hmark
  · -- a sentence that is not valid has a mark of another class
    rw [List.mem_singleton.1 hmark] at hverified
    simp [Highlight.ofRange] at hverified
  · rw [List.mem_singleton.1 hmark] at hverified
    simp [Highlight.ofRange] at hverified
  · next hstate =>
    rw [List.mem_singleton.1 hmark] at hverified ⊢
    refine ⟨hstate, ?_, rfl⟩
    -- unchecked, it would be shown as accepted
    by_contra hp
    simp [Highlight.ofRange, hp] at hverified
  · rcases List.mem_cons.1 hmark with rfl | hmark
    · simp [Highlight.ofRange] at hverified
    · split at hmark
      · rw [List.mem_singleton.1 hmark] at hverified
        simp [Highlight.ofRange] at hverified
      · simp at hmark

namespace Session

variable {σ : Type} {s s' : Session σ} {h es : History}

/-- What the history of a session says about its document and its slot. -/
structure Grounded (h : History) (s : Session σ) : Prop where
  root : ∀ state, s.document.root = some state → ∃ payload later,
    h.responses = .good payload :: later ∧
    Reply.ofElement .init payload = .ok (.init state)
  backed : Backed h s.document.root s.document.trail
  asked : s.Active → ∀ (i : Nat) (e : Entry), s.document.trail[i]? = some e →
    s.slot = some (.add e.id) →
    ∃ parent, lastState s.document.root (s.document.trail.take i) = some parent ∧
      h.Asked e.id e.text parent
  /-- Only sentences that have been sent have calls. -/
  spent : ∀ id, h.callsFor id ≠ [] → s.document.Spent id
  once : ∀ id, (h.callsFor id).length ≤ 1

namespace Grounded

/-- Where no sentence is sent and the state before the first one stays as it is, only the trail
matters. -/
theorem step (hg : Grounded h s) (hroot : s'.document.root = s.document.root)
    (hspent : ∀ id, s.document.Spent id → s'.document.Spent id) (hadds : ∀ id, es.callsFor id = [])
    (hbacked : Backed (h ++ es) s.document.root s'.document.trail)
    (hasked : s'.Active → ∀ (i : Nat) (e : Entry), s'.document.trail[i]? = some e →
      s'.slot = some (.add e.id) →
      ∃ parent, lastState s.document.root (s'.document.trail.take i) = some parent ∧
        (h ++ es).Asked e.id e.text parent) : Grounded (h ++ es) s' := by
  -- nothing that happened in between asked about a sentence
  have hcalls : ∀ id, (h ++ es).callsFor id = h.callsFor id := by
    intro id
    rw [History.callsFor_append, hadds, List.append_nil]
  refine ⟨fun state hstate => ?_, hroot ▸ hbacked, hroot ▸ hasked, fun id hid => ?_, fun id => ?_⟩
  · obtain ⟨payload, later, hresponses, hreply⟩ := hg.root state (hroot ▸ hstate)
    refine ⟨payload, later ++ es.responses, ?_, hreply⟩
    rw [History.responses_append, hresponses, List.cons_append]
  · rw [hcalls] at hid
    exact hspent id (hg.spent id hid)
  · rw [hcalls]
    exact hg.once id

/-- What at most cuts the trail off and leaves the slot alone, or empties it, keeps the history in
line. -/
theorem keep (hg : Grounded h s) (htrail : s'.document.trail <+: s.document.trail)
    (hroot : s'.document.root = s.document.root)
    (hspent : ∀ id, s.document.Spent id → s'.document.Spent id) (hadds : ∀ id, es.callsFor id = [])
    (hslot : ∀ id, s'.Active → s'.slot = some (.add id) →
      s.Active ∧ s.slot = some (.add id) ∧ es.responses = []) :
    Grounded (h ++ es) s' := by
  refine hg.step hroot hspent hadds ((hg.backed.append es).of_front htrail) fun ha i e hi hs => ?_
  obtain ⟨ha', hs', hes⟩ := hslot e.id ha hs
  obtain ⟨hget, htake⟩ := getElem?_of_front htrail hi
  obtain ⟨parent, hparent, hasked⟩ := hg.asked ha' i e hget hs'
  exact ⟨parent, htake ▸ hparent, hasked.append hes⟩

/-- What leaves document and slot alone keeps the history in line. -/
theorem of_eq (hg : Grounded h s) (hdocument : s'.document = s.document)
    (hadds : ∀ id, es.callsFor id = [])
    (hslot : ∀ id, s'.Active → s'.slot = some (.add id) →
      s.Active ∧ s.slot = some (.add id) ∧ es.responses = []) :
    Grounded (h ++ es) s' := by
  refine hg.keep ?_ (congrArg Document.root hdocument) (fun _ hid => hdocument ▸ hid) hadds hslot
  simp only [hdocument, List.prefix_refl]

/-- A sentence is sent on top of the last state. -/
theorem add (hg : Grounded h s) (hc : s.document.Coherent) {d : Document}
    (hd : s.document.doomed = []) (he : s.document.Extends d) {x : Sentence} {later : List Sentence}
    (hx : d.unsent = x :: later) {parent : StateId}
    (htip : d.tip = some parent)
    (hdocument : s'.document = d.withPending x later)
    (hslot : s'.Active → s'.slot = some (.add x.id)) :
    Grounded (h ++ [Exchange.add x.id x.text parent]) s' := by
  have hd₁ : d.doomed = [] := he.doomed.trans hd
  have hu : x.Untouched := (hc.extend hd he).untouched x (hx ▸ List.mem_cons_self)
  have htrail : s'.document.trail =
      s.document.trail ++ [⟨x.id, x.text, x.stateId, .pending, x.processed⟩] := by
    rw [hdocument, Document.trail_withPending hd₁, he.trail]
  have hroot : s'.document.root = s.document.root := by
    rw [hdocument]
    exact he.root
  have hlast : lastState s.document.root s.document.trail = some parent := by
    rw [← htip, Document.tip_eq, he.root, he.trail]
  have hn : s'.document.Numbered :=
    hdocument ▸ Document.numbered_withPending (he.numbered hc.numbered) hd₁ hx
  -- until now the sentence had no call
  have hnone : h.callsFor x.id = [] := by
    by_contra hne
    have hlt := (he.spent x.id (hg.spent x.id hne)).2 x (hx ▸ List.mem_cons_self)
    exact Nat.lt_irrefl _ hlt
  have hcalls : ∀ id, History.callsFor [Exchange.add x.id x.text parent] id =
      if x.id = id then [.add x.text Navigation.noEdit parent false] else [] := by
    intro id
    by_cases hid : x.id = id <;>
      simp [History.callsFor, History.calls, Exchange.call?, Exchange.add, hid]
  refine ⟨fun state hstate => ?_, ?_, fun ha i e hi hs => ?_, fun id hid => ?_, fun id => ?_⟩
  · obtain ⟨payload, more, hresponses, hreply⟩ := hg.root state (hroot ▸ hstate)
    exact ⟨payload, more, by rw [Exchange.add, History.responses_sent, hresponses], hreply⟩
  · rw [hroot, htrail]
    refine (hg.backed.append _).concat fun state hstate => ?_
    rw [hu.stateId] at hstate
    simp at hstate
  · rw [hslot ha, Option.some.injEq, Request.add.injEq] at hs
    rw [htrail] at hi
    rcases eq_or_eq_of_concat hi with ⟨hlt, hi⟩ | ⟨rfl, rfl⟩
    · have hmem : e ∈ d.trail := he.trail ▸ List.mem_of_getElem? hi
      exact absurd hs.symm ((he.numbered hc.numbered).id_ne_of_unsent hmem
        (hx ▸ List.mem_cons_self))
    · rw [hroot, htrail, List.take_left]
      exact ⟨parent, hlast, History.asked_concat ..⟩
  · rw [History.callsFor_append, hcalls] at hid
    by_cases hne : h.callsFor id = []
    · obtain rfl : x.id = id := by
        by_contra hxid
        rw [hne, if_neg hxid] at hid
        exact hid rfl
      refine hn.spent (x := { x with state := .pending }) ?_
      rw [hdocument]
      simp [Document.withPending, Document.sent]
    · rw [hdocument]
      exact Document.spent_withPending hx (he.spent id (hg.spent id hne))
  · rw [History.callsFor_append, hcalls]
    by_cases hid : x.id = id
    · rw [if_pos hid, ← hid, hnone]
      exact Nat.le_refl _
    · rw [if_neg hid, List.append_nil]
      exact hg.once id

end Grounded

/-- The first answer tells the state in front of the first sentence. -/
theorem Grounded.started (hg : Grounded h s) (ho : s.Orderly) (hturns : Turns h s)
    (hstarting : s.status = .starting) {payload : Markup.Element} {state : StateId}
    (hreply : Reply.ofElement .init payload = .ok (.init state))
    (hdocument : s'.document = s.document.setRoot state) :
    Grounded (h ++ [.received (.response (.good payload))]) s' := by
  -- nothing has been sent before the prover has started
  have htrail : s'.document.trail = [] := by
    rw [hdocument]
    exact ho.fresh hstarting
  have hcalls : ∀ id, History.callsFor (h ++ [.received (.response (.good payload))]) id =
      h.callsFor id := by
    intro id
    rw [History.callsFor, History.calls_received]
    rfl
  refine ⟨fun state' hstate => ⟨payload, [], ?_, ?_⟩, ?_, fun _ i e hi => ?_,
    fun id hid => ?_, fun id => ?_⟩
  · rw [History.responses_response, hturns.silent hstarting, List.nil_append]
  · rw [hdocument] at hstate
    rw [hreply, Option.some.inj hstate]
  · rw [htrail]
    intro i e hi
    simp at hi
  · rw [htrail] at hi
    simp at hi
  · rw [hcalls] at hid
    rw [hdocument]
    exact hg.spent id hid
  · rw [hcalls]
    exact hg.once id

variable [Link σ]

/-- What a session holds stays what its history says, with each of its acts. -/
theorem Grounded.act (hg : Grounded h s) (ho : s.Orderly) (ha : Act s es s') :
    Grounded (h ++ es) s' := by
  -- a session that goes on with the slot as it was
  have hsame : ∀ {t : Session σ}, t.slot = s.slot → t.status = s.status → ∀ id, t.Active →
      t.slot = some (.add id) →
      s.Active ∧ s.slot = some (.add id) ∧ History.responses [] = [] := by
    intro t hslot hstatus id hactive ht
    exact ⟨by rwa [Active, hstatus] at hactive, hslot ▸ ht, rfl⟩
  cases ha with
  | quiet hs => exact hg.of_eq hs.document (fun _ => rfl) (hsame hs.slot hs.status)
  | order halive horder => exact hg.of_eq rfl (fun _ => rfl) (hsame rfl rfl)
  | edit he =>
    have hr := he.reconciled
    refine hg.keep ?_ ?_ ?_ (fun _ => rfl) (hsame (slot_noteEdit ..) (status_noteEdit ..)) <;>
      rw [document_noteEdit]
    · simp only [hr.trail, List.prefix_refl]
    · exact hr.root
    · exact fun _ => hr.spent
  | round hround =>
    cases hround with
    | send hfree hready hqueue hstep =>
      cases Navigation.of_step_send ho.coherent.numbered hstep with
      | add hop hblocked hd he hx htip =>
        exact hg.add ho.coherent hd he hx htip (document_send ..) fun ha => (slot_send ha).1
      | editAt hindex hy htarget =>
        refine hg.of_eq (document_send ..) (fun _ => rfl) fun id ha hs => ?_
        rw [(slot_send ha).1] at hs
        simp at hs
    | proceed hfree hready hqueue hstep =>
      obtain ⟨-, he, -⟩ := ho.of_step_proceed hfree hready hqueue hstep
      refine hg.keep ?_ he.root he.spent (fun _ => rfl) (hsame rfl rfl)
      simp only [he.trail, List.prefix_refl]
    | @refuse op rest document fault hfree hready hqueue hstep =>
      have he := Navigation.of_step_refuse hstep
      have hs := quiet_refuse { s with document } fault
      have hdocument : (Session.refuse { s with document } fault).document = document := hs.document
      refine hg.keep ?_ ?_ ?_ (fun _ => rfl) (hsame hs.slot hs.status) <;> rw [hdocument]
      · simp only [he.trail, List.prefix_refl]
      · exact he.root
      · exact he.spent
    | goal hfree hready hqueue hstale =>
      refine hg.of_eq (document_send ..) (fun _ => rfl) fun id ha hs => ?_
      rw [(slot_send ha).1] at hs
      simp at hs
  | status halive hfree =>
    refine hg.of_eq (document_send ..) (fun _ => rfl) fun id ha hs => ?_
    rw [(slot_send ha).1] at hs
    simp at hs
  | close =>
    refine hg.of_eq (document_close s) (fun id => ?_) fun id ha hs => ?_
    · unfold farewell
      split <;> rfl
    · simp [Active, status_close] at ha

/-- After an answer nothing waits for one. -/
private theorem Takes.slot_ne {response : Response} (ht : Takes s (.response response) s')
    (ha : s'.Active) (id : SentenceId) :
    s'.slot ≠ some (.add id) := by
  obtain ⟨request, -, hnone⟩ := ht.slot_of_response ha
  simp [hnone]

/-- An answer leaves nothing to look for but what backs the trail. -/
theorem Grounded.response (hg : Grounded h s) {response : Response}
    (ht : Takes s (.response response) s') {d : Document} (hdocument : s'.document = d)
    (hroot : d.root = s.document.root)
    (hspent : ∀ id, s.document.Spent id → d.Spent id)
    (hbacked : Backed (h ++ [.received (.response response)]) s.document.root d.trail) :
    Grounded (h ++ [.received (.response response)]) s' := by
  subst hdocument
  exact hg.step hroot hspent (fun _ => rfl) hbacked fun ha i e _ hs =>
    absurd hs (ht.slot_ne ha e.id)

/-- What a session holds stays what its history says, with each frame that it takes up. -/
theorem Grounded.takes (hg : Grounded h s) (ho : s.Orderly) (hturns : Turns h s) (ha : s.Active)
    {frame : Inbound} (ht : Takes s frame s') : Grounded (h ++ [.received frame]) s' := by
  have hfront : ∀ {t : List Entry}, t <+: s.document.trail →
      Backed (h ++ [.received frame]) s.document.root t :=
    fun hp => (hg.backed.append _).of_front hp
  cases ht with
  | broken fault => exact hg.of_eq rfl (fun _ => rfl) fun id ha => absurd ha (not_active_fail _ _)
  | started hslot hreply hs => exact hg.started ho hturns (ho.starting.2 hslot) hreply hs.document
  | @accepted payload state closed message i x s' hslot hx hreply hs =>
    have hlt := Document.lt_locked_of_sent hx
    have hget := Document.Coherent.trail_of_sent hx
    -- the call is the last thing that was sent, so the answer is to it
    obtain ⟨parent, hparent, hasked⟩ := hg.asked ha i _ hget hslot
    refine hg.response (.accepted hslot hx hreply hs) hs.document (Document.root_modifyAt ..)
      (fun id hs => hs.modifyAt hlt _) ?_
    show Backed _ _ (s.document.acceptAt i state).trail
    rw [Document.trail_acceptAt hlt, Document.Coherent.modify_last hx (ho.last_of_slot ha hslot hx)]
    refine (hfront (List.take_prefix _ _)).concat fun state' hstate =>
      ⟨parent, [], hparent, ?_, fun hp => ?_⟩
    · obtain rfl : state = state' := Option.some.inj hstate
      exact ⟨h, payload, closed, message, rfl, hasked, hreply⟩
    · -- there is no news of a sentence that waits for its answer
      have hfalse : x.entry.processed = true := hp
      rw [(ho.pending_sound ha (List.mem_of_getElem? hget) hslot).2] at hfalse
      simp at hfalse
  | @refused failure i x s' hslot hx hs =>
    have hlt := Document.lt_locked_of_sent hx
    have hget := Document.Coherent.trail_of_sent hx
    refine hg.response (.refused hslot hx hs) hs.document (Document.root_modifyAt ..)
      (fun id hs => hs.modifyAt hlt _) ?_
    show Backed _ _ (s.document.refuseAt i _ _).trail
    rw [Document.trail_refuseAt hlt, Document.Coherent.modify_last hx (ho.last_of_slot ha hslot hx)]
    exact (hfront (List.take_prefix _ _)).concat ((hg.backed i _ hget).append _)
  | acceptedLate hslot hid hs =>
    exact hg.response (.acceptedLate hslot hid hs) hs.document rfl (fun _ hs => hs)
      (hfront (List.prefix_refl _))
  | refusedLate hslot hid hs =>
    exact hg.response (.refusedLate hslot hid hs) hs.document rfl (fun _ hs => hs)
      (hfront (List.prefix_refl _))
  | @rolledBack response id s' hslot hs =>
    refine hg.response (.rolledBack hslot hs) hs.document (Document.root_truncateTo ..)
      (fun _ hs => hs.truncateTo id) (hfront (Document.trail_truncateTo_front _ id))
  | told hslot hrequest hs =>
    exact hg.response (.told hslot hrequest hs) hs.document rfl (fun _ hs => hs)
      (hfront (List.prefix_refl _))
  | @admitted feedback i hi =>
    obtain ⟨x, hx, -⟩ := Document.sent_of_indexOfState? ho.coherent.stateId_unsent hi
    refine hg.keep ?_ (Document.root_modifyAt ..)
      (fun _ hs => hs.modifyAt (Document.lt_locked_of_sent hx) _)
      (fun _ => rfl) fun id ha hs => ⟨ha, hs, rfl⟩
    simp only [Document.trail_markAxiom, List.prefix_refl]
  | @processed feedback i hcontent hi =>
    obtain ⟨x, hx, hstate⟩ := Document.sent_of_indexOfState? ho.coherent.stateId_unsent hi
    have hlt := Document.lt_locked_of_sent hx
    have htrail := Document.trail_markProcessed hlt
    refine hg.step (Document.root_modifyAt ..) (fun _ hs => hs.modifyAt hlt _) (fun _ => rfl) ?_
      fun ha j e hj hs => ?_
    · rw [htrail]
      exact hg.backed.checked (Document.Coherent.trail_of_sent hx) hstate hcontent
    · rw [htrail] at hj ⊢
      rw [List.getElem?_modify] at hj
      obtain ⟨e₀, he₀, rfl⟩ := Option.map_eq_some_iff.1 hj
      rw [lastState_take_checked]
      have hsame : ∀ e : Entry, (if i = j then e.checked else e).id = e.id ∧
          (if i = j then e.checked else e).text = e.text := by
        intro e
        split <;> exact ⟨rfl, rfl⟩
      rw [(hsame e₀).1] at hs ⊢
      rw [(hsame e₀).2]
      obtain ⟨parent, hparent, hasked⟩ := hg.asked ha j e₀ he₀ hs
      exact ⟨parent, hparent, hasked.append rfl⟩
  | @failed feedback i x location message s' hi hx hs =>
    obtain ⟨y, hy, hstate⟩ := Document.sent_of_indexOfState? ho.coherent.stateId_unsent hi
    obtain rfl : x = y := Option.some.inj (hx.symm.trans hy)
    have hlt := Document.lt_locked_of_sent hx
    have hget := Document.Coherent.trail_of_sent hx
    have htrail : s'.document.trail = s.document.trail.take i ++ [x.entry.refused] := by
      rw [hs.document]
      exact Document.Coherent.trail_refuseAt_truncateAt hx location message
    refine hg.step ?_ (fun id hid => ?_) (fun _ => rfl) ?_ fun ha j e hj hslot => ?_
    · rw [hs.document]
      exact Document.root_modifyAt ..
    · rw [hs.document]
      exact (hid.modifyAt hlt _).truncateAt _
    · rw [htrail]
      exact (hfront (List.take_prefix _ _)).concat ((hg.backed i _ hget).append _)
    · rw [htrail] at hj ⊢
      rw [hs.slot] at hslot
      rcases eq_or_eq_of_concat hj with ⟨hlt, hj⟩ | ⟨-, rfl⟩
      · obtain ⟨hget, htake⟩ := getElem?_of_front (List.take_prefix _ _) hj
        rw [List.take_append_of_le_length (Nat.le_of_lt hlt), ← htake]
        obtain ⟨parent, hparent, hasked⟩ := hg.asked (hs.active_iff.1 ha) j e hget hslot
        exact ⟨parent, hparent, hasked.append rfl⟩
      · -- an accepted sentence waits for no answer
        have hnone := (ho.pending_sound (hs.active_iff.1 ha) (List.mem_of_getElem? hget) hslot).1
        simp [hstate] at hnone
  | heard hs =>
    exact hg.of_eq hs.document (fun _ => rfl) fun id ha hslot =>
      ⟨hs.active_iff.1 ha, hs.slot ▸ hslot, rfl⟩

/-- What a new session holds is what its history says. -/
theorem grounded_start (link : σ) (text : String) (settings : Settings) :
    Grounded [.sent .init .init] (start link text settings) := by
  have hdocument : (start link text settings).document = .ofText text := document_send ..
  have hcalls : ∀ id, History.callsFor [.sent .init .init] id = [] := fun _ => rfl
  refine ⟨fun state hstate => ?_, ?_, fun _ i e hi => ?_,
    fun id hid => absurd (hcalls id) hid, fun id => ?_⟩
  · rw [hdocument] at hstate
    simp [Document.ofText] at hstate
  · rw [hdocument]
    intro i e hi
    simp at hi
  · rw [hdocument] at hi
    simp at hi
  · rw [hcalls]
    exact Nat.zero_le _

/-- On every run the history backs what the document says. -/
theorem Run.grounded (hr : Run h s) : Grounded h s := by
  induction hr with
  | start link text settings => exact grounded_start link text settings
  | move hr hm ih =>
    have ho := hr.orderly
    cases hm with
    | outside link => exact ih.of_eq rfl (fun _ => rfl) fun _ ha hs => ⟨ha, hs, rfl⟩
    | act ha => exact ih.act ho ha
    | frame frame halive =>
      exact ih.takes ho hr.turns (ho.alive.1 halive) (ho.takes_handleFrame frame)
    | lose fault halive =>
      exact ih.of_eq rfl (fun _ => rfl) fun _ ha => absurd ha (not_active_fail _ _)

/-! ## What accepted sentences can rely on -/

/-- The live sentence `x` at position `i` was accepted: it was sent on top of `parent`, and the
answer to that said that the prover is in `state`. What has happened since then is `after`. -/
structure Vouched (h : History) (d : Document) (i : Nat) (x : Sentence) (parent state : StateId)
    (after : History) : Prop where
  /-- The text still says what was split off, where the sentence stands. -/
  start : Text.IsBoundary d.text.toList x.span.start
  stop : Text.IsBoundary d.text.toList x.span.stop
  text : Text.slice d.text.toList x.span.start x.span.stop = x.text.toList
  /-- The sentence was sent once, as it is. -/
  sent : h.callsFor x.id = [.add x.text Navigation.noEdit parent false]
  answered : h.Answered x.id x.text parent state after
  stateId : x.stateId = some state
  /-- The first sentence was sent on top of the state that the prover started in. -/
  first : i = 0 → d.root = some parent ∧ ∃ payload later, h.responses = .good payload :: later ∧
    Reply.ofElement .init payload = .ok (.init parent)
  /-- Any other was sent on top of the state after the sentence in front of it. -/
  next : ∀ j, i = j + 1 → ∃ y, d.live[j]? = some y ∧ y.stateId = some parent
  /-- A sentence is taken for checked once feedback has said so of its state. -/
  processed : x.processed = true → after.Checked state

/-- What is drawn of a session is true to its history `h`. -/
structure Faithful (h : History) (s : Session σ) : Prop where
  /-- Accepted sentences were accepted as they stand in the text, one on top of the other. -/
  accepted : ∀ (i : Nat) (x : Sentence) (validity : Validity), s.document.live[i]? = some x →
    x.state = .valid validity → ∃ parent state after, Vouched h s.document i x parent state after
  /-- What is marked as verified is a live sentence that was accepted and then checked. -/
  verified : ∀ mark ∈ s.snapshot.highlights, mark.cls = .verified →
    ∃ (i : Nat) (x : Sentence) (parent state : StateId) (after : History),
      s.document.live[i]? = some x ∧ x.state = .valid .ordinary ∧
      mark.range = x.span ∧
      Vouched h s.document i x parent state after ∧
      after.Checked state

/-- In front of a settled entry the last state known is that of the entry before it, or the first
one. -/
private theorem lastState_take_succ {root : Option StateId} {t : List Entry} {j : Nat} {e : Entry}
    (hj : t[j]? = some e)
    (he : e.stateId.isSome) : lastState root (t.take (j + 1)) = e.stateId := by
  rw [List.take_add_one, hj]
  show lastState root (t.take j ++ [e]) = e.stateId
  rw [Document.lastState_concat]
  obtain ⟨state, hstate⟩ := Option.isSome_iff_exists.1 he
  rw [hstate]
  rfl

/-- On every run an accepted live sentence was accepted by an answer on top of the right state. -/
theorem Run.vouched (hr : Run h s) {i : Nat} {x : Sentence} {validity : Validity}
    (hx : s.document.live[i]? = some x) (hvalid : x.state = .valid validity) :
    ∃ parent state after, Vouched h s.document i x parent state after := by
  have ho := hr.orderly
  have hg := hr.grounded
  have hi := (List.getElem?_eq_some_iff.1 hx).1
  have hsent : s.document.sent[i]? = some x := by
    rw [Document.sent, List.getElem?_append_left hi, hx]
  have hget := Document.Coherent.trail_of_sent hsent
  have hsound := ho.coherent.shape.sound _ (List.mem_of_getElem? hget)
  have hphase : x.entry.phase = .valid := by
    rw [Sentence.phase_entry, hvalid]
    rfl
  rw [Entry.Sound, hphase] at hsound
  obtain ⟨state, hstate⟩ := Option.isSome_iff_exists.1 hsound
  obtain ⟨parent, after, hparent, hanswered, hchecked⟩ := hg.backed i _ hget state hstate
  obtain ⟨hstart, hstop, htext⟩ :=
    (hr.laid.placed x (List.mem_append_left _ (List.mem_of_getElem? hx))).reads
  refine ⟨parent, state, after, hstart, hstop, htext, ?_, hanswered, hstate, ?_, ?_, hchecked⟩
  -- there is one call for the sentence, and it is the one that was answered
  · obtain ⟨call, hcall⟩ := List.length_eq_one_iff.1
      (Nat.le_antisymm (hg.once x.id) (List.length_pos_of_mem hanswered.mem_callsFor))
    have hmem := hanswered.mem_callsFor
    rw [Sentence.id_entry, hcall, List.mem_singleton] at hmem
    rw [hcall, ← hmem]
    rfl
  · rintro rfl
    rw [List.take_zero, Document.lastState_nil] at hparent
    exact ⟨hparent, hg.root parent hparent⟩
  · rintro j rfl
    have hj : j < s.document.live.length := Nat.lt_of_succ_lt hi
    refine ⟨s.document.live[j], List.getElem?_eq_getElem hj, ?_⟩
    have hsent' : s.document.sent[j]? = some s.document.live[j] := by
      rw [Document.sent, List.getElem?_append_left hj, List.getElem?_eq_getElem hj]
    have hget' := Document.Coherent.trail_of_sent hsent'
    -- the sentence in front is not the last one that was sent, so it is settled and has a state
    have hsettled := ho.coherent.shape.settled j _ hget' (List.getElem?_eq_some_iff.1 hget).1
    rw [lastState_take_succ hget' hsettled.2] at hparent
    exact hparent

omit [Link σ] in
/-- Where the history vouches for accepted sentences, what is drawn of the session is true to it. -/
theorem faithful_of_vouched
    (hvouched : ∀ (i : Nat) (x : Sentence) (validity : Validity), s.document.live[i]? = some x →
      x.state = .valid validity → ∃ parent state after,
      Vouched h s.document i x parent state after) :
    Faithful h s := by
  refine ⟨hvouched, fun mark hmark hverified => ?_⟩
  obtain ⟨x, hmem, hdrawn⟩ := List.mem_flatMap.1 hmark
  obtain ⟨i, hx⟩ := List.mem_iff_getElem?.1 hmem
  obtain ⟨hvalid, hprocessed, hrange⟩ := Sentence.of_verified hdrawn hverified
  obtain ⟨parent, state, after, hv⟩ := hvouched i x .ordinary hx hvalid
  exact ⟨i, x, parent, state, after, hx, hvalid, hrange, hv, hv.processed hprocessed⟩

/-- On every run what is drawn is true to the history. -/
theorem Run.faithful (hr : Run h s) : Faithful h s :=
  faithful_of_vouched fun _ _ _ => hr.vouched

/-- Whatever operations have led to a session, what is drawn of it is true to what has happened. -/
theorem faithful_of_reachable (hr : Reachable s) : ∃ h, Run h s ∧ Faithful h s := by
  obtain ⟨h, hrun⟩ := hr.exists_run
  exact ⟨h, hrun, faithful_of_vouched fun _ _ _ => hrun.vouched⟩

/-- The sentence of "A." is accepted and then checked. -/
theorem faithful_of_checked :
    ∃ (h : History) (s : Session Channel),
      Run h s ∧ s.snapshot.highlights.map (·.cls) = [.verified] ∧
      Faithful h s := by
  have haccepted := run_waiting.move (.frame (replyFrame (.add ⟨2⟩ none "")) rfl)
  rw [handleFrame_waiting] at haccepted
  have hchecked := haccepted.move (.frame (.feedback ⟨⟨2⟩, .processed⟩) rfl)
  exact ⟨_, _, hchecked, by cbv, hchecked.faithful⟩

end Session

end ProofDesk
