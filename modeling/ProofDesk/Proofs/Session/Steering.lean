import ProofDesk.Proofs.Session.Destination
import ProofDesk.Proofs.Session.Drift
import ProofDesk.Proofs.Session.Rest

/-!
# Orders that are queued

An editor asks for movements faster than a prover answers, and what cannot be sent yet is queued,
joined with what was queued before, or dropped. None of this is seen in the end: with a prover that
accepts everything, the sentences that are live once nothing is left to do are those that the orders
lead to when they are carried out one by one (`Steered.transparent`).

Every session leads somewhere (`Session.destination`): what the outstanding call leaves, followed by
the queued operations. Whatever the session does by itself does not change that (`Bound.drifts`),
and an order changes it as it should (`Bound.order`).
-/

namespace ProofDesk

/-! ## Where orders lead -/

/-- A movement that an editor asks for. -/
inductive Order where
  | forward
  | backward
  | toCursor (position : Position)
  deriving Repr, DecidableEq

/-- What is asked of a session. -/
def Order.operation : Order → Operation
  | forward => .forward
  | backward => .backward
  | toCursor position => .toCursor position

/-- How many of the sentences of a text an order leaves locked, where `m` are locked and nothing
else is under way. -/
def Order.goal (text : String) (spans : List Span) (m : Nat) : Order → Nat
  | forward => min (m + 1) spans.length
  | backward => m - 1
  | toCursor position => spans.countP (·.stop ≤ position.toOffset text)

/-- Whether a frame is a good answer, or feedback without an error. -/
def Inbound.accepts : Inbound → Bool
  | .response (.good _) => true
  | .response (.fail _) => false
  | .feedback news => !news.reportsError

/-! ## Sessions -/

namespace Session

variable {σ : Type} {s t : Session σ} {text : String} {spans : List Span} {m : Nat}

/-- How many sentences are live once the call that waits for its answer has been answered. -/
def settled (s : Session σ) : Nat :=
  match s.slot with
  | some (.editAt id) => s.document.live.findIdx (·.id == id)
  | _ => s.document.live.length

/-- How many sentences are live once everything that is queued has been carried out as well. -/
def destination (spans : List Span) (s : Session σ) : Nat :=
  s.queue.foldl (Navigation.leads spans) s.settled

/-- Unless a rollback waits for its answer all live sentences stay. -/
theorem settled_of_slot (h : ∀ id, s.slot ≠ some (.editAt id)) :
    s.settled = s.document.live.length := by
  unfold settled
  split
  · next id hslot => exact absurd hslot (h id)
  · rfl

/-- With a free slot all live sentences stay. -/
theorem settled_of_free (h : s.request = none) : s.settled = s.document.live.length :=
  settled_of_slot (by simp [(slot_eq_none_iff s).2 h])

/-- Identifiers tell what a rollback leaves. -/
private theorem settled_congr (hslot : t.slot = s.slot)
    (hids : t.document.live.map (·.id) = s.document.live.map (·.id)) : t.settled = s.settled := by
  have hlen := congrArg List.length hids
  rw [List.length_map, List.length_map] at hlen
  have hfind : ∀ id, t.document.live.findIdx (·.id == id) =
      s.document.live.findIdx (·.id == id) := by
    intro id
    have hmap := congrArg (List.findIdx (· == id)) hids
    rwa [List.findIdx_map, List.findIdx_map] at hmap
  unfold settled
  rw [hslot]
  split
  · exact hfind _
  · exact hlen

/-- The session is about a text that nobody has changed, and its prover has accepted everything. -/
structure Steady (text : String) (s : Session σ) : Prop where
  text : s.document.text = text
  policy : s.settings.axiomPolicy = .annotate
  doomed : s.document.doomed = []
  sound : ∀ x ∈ s.document.live, x.isError = false
  /-- No edit has asked for a rollback. -/
  orders : ∀ op ∈ s.queue, op.isRewind = false

/-- Unless the session has ended, it is steady and leads to `m` locked sentences. -/
def Bound (text : String) (spans : List Span) (m : Nat) (s : Session σ) : Prop :=
  s.Active → s.Steady text ∧ s.destination spans = m

/-- What is shown does not matter to where a session leads. -/
theorem Bound.of_agrees (hb : Bound text spans m s) (ha : s.Agrees t) : Bound text spans m t := by
  intro hactive
  obtain ⟨hs, hdest⟩ := hb (ha.active_iff.1 hactive)
  refine ⟨⟨?_, ?_, ?_, ?_, ?_⟩, ?_⟩
  · exact ha.document ▸ hs.text
  · exact ha.settings ▸ hs.policy
  · exact ha.document ▸ hs.doomed
  · exact ha.document ▸ hs.sound
  · exact ha.queue ▸ hs.orders
  · rw [← hdest, destination, destination, settled, settled, ha.queue, ha.slot, ha.document]

/-- News about sentences changes neither how many there are nor where they stand. -/
theorem Steady.modifyAt (hs : s.Steady text) (i : Nat) {f : Sentence → Sentence}
    (hf : ∀ x, x.isError = false → (f x).isError = false) :
    ∀ x ∈ (s.document.modifyAt i f).live, x.isError = false := by
  intro y hy
  unfold Document.modifyAt at hy
  split at hy
  · obtain ⟨x, hx, rfl | rfl⟩ := exists_of_mem_modify hy
    · exact hs.sound y hx
    · exact hf x (hs.sound x hx)
  · split at hy <;> exact hs.sound y hy

/-- In a steady session all sentences that were sent are live. -/
theorem Steady.locked_eq (hs : s.Steady text) : s.document.locked = s.document.live.length := by
  rw [Document.locked, hs.doomed, List.length_nil, Nat.add_zero]

/-- The link does not matter to where a session leads. -/
theorem Bound.outside (hb : Bound text spans m s) (link : σ) :
    Bound text spans m { s with link } := by
  intro ha
  obtain ⟨hs, hdest⟩ := hb ha
  exact ⟨⟨hs.text, hs.policy, hs.doomed, hs.sound, hs.orders⟩, hdest⟩

variable [Link σ] {h : History}

/-- Sending a call leaves a session bound where it was. -/
theorem bound_send {request : Request} {call : Call}
    (hb : ∀ link : σ, Bound text spans m { s with link, request := some ⟨request, 0, false⟩ }) :
    Bound text spans m (s.send request call) :=
  fun ha => of_active_send hb ha ha

/-- Sending what comes next leads where the session was led before. -/
theorem Bound.pumps (hr : Run h s) (hsplit : Sentence.spansFrom text 0 = (spans, none))
    (hb : Bound text spans m s) (hp : Pumps s t) : Bound text spans m t := by
  have ho := hr.orderly
  have hw := hr.wellFormed
  -- the operation in front is carried out from where the session stands
  have hfront : ∀ {op : Navigation} {rest : List Navigation}, s.request = none →
      s.queue = op :: rest →
      s.destination spans = rest.foldl (Navigation.leads spans)
        (Navigation.leads spans s.document.live.length op) := by
    intro op rest hfree hqueue
    rw [destination, settled_of_free hfree, hqueue, List.foldl_cons]
  obtain ⟨es, hround⟩ := hp
  cases hround with
  | @send op rest queue request call document hfree hready hqueue hstep =>
    obtain ⟨hs, hdest⟩ := hb (.inr hready)
    rw [hfront hfree hqueue] at hdest
    have hop := hs.orders op (hqueue ▸ List.mem_cons_self)
    have hrest : ∀ op' ∈ op.remaining ++ rest, op'.isRewind = false := by
      intro op' hmem
      rcases List.mem_append.1 hmem with hmem | hmem
      · exact (Navigation.advances_of_mem_remaining hmem).1
      · exact hs.orders op' (hqueue ▸ List.mem_cons_of_mem _ hmem)
    refine bound_send fun link _ => ?_
    cases Navigation.of_step_send ho.coherent.numbered hstep with
    | @add d₁ x later parent hadvances hblocked hd he hx htip =>
      have hlive : (d₁.withPending x later).live.length = s.document.live.length + 1 := by
        rw [Document.withPending, List.length_append, he.live, List.length_singleton]
      have hle : s.document.live.length + 1 ≤ spans.length := by
        have hsplits := (hw.extend hd he).splits
        rw [Sentence.Splits, he.text, hs.text, hsplit, he.live, hx] at hsplits
        have hlen := hsplits.length_le
        simp only [List.map_append, List.map_cons, List.length_append, List.length_cons,
          List.length_map] at hlen
        omega
      have hpos : op ≠ .forward 0 := by
        rintro rfl
        simp [Navigation.step] at hstep
      refine ⟨⟨he.text.trans hs.text, hs.policy, he.doomed.trans hd, fun y hy => ?_, hrest⟩, ?_⟩
      · rcases List.mem_append.1 hy with hy | hy
        · exact hs.sound y (he.live ▸ hy)
        · rw [List.mem_singleton.1 hy]
          rfl
      · rw [destination, settled_of_slot (by simp [slot]), hlive, List.foldl_append,
          Navigation.foldl_remaining_succ hadvances hpos hle]
        exact hdest
    | @editAt index y target hindex hy htarget =>
      have hlt : index < s.document.live.length := by
        rw [← hs.locked_eq]
        exact (hqueue ▸ ho.tidy).lt_locked ho.coherent.numbered hindex
      refine ⟨⟨hs.text, hs.policy, hs.doomed, hs.sound, hrest⟩, ?_⟩
      have hsettled :
          settled { s with
            link
            queue := op.remaining ++ rest
            request := some ⟨.editAt y.id, 0, false⟩ } = index :=
        ho.coherent.numbered.findIdx_live hlt hy
      rw [destination, hsettled, List.foldl_append,
        Navigation.foldl_remaining_goesBackTo hindex hop]
      exact hdest
  | @proceed op rest queue document hfree hready hqueue hstep =>
    obtain ⟨hs, hdest⟩ := hb (.inr hready)
    rw [hfront hfree hqueue] at hdest
    have hpos := (hqueue ▸ ho.tidy).ne_backward_zero
    have hop := hs.orders op (hqueue ▸ List.mem_cons_self)
    obtain ⟨-, he, rfl⟩ := ho.of_step_proceed hfree hready hqueue hstep
    rw [hs.policy] at hstep
    have hleads :=
      Navigation.leads_of_step_proceed hw (hs.text ▸ hsplit) hs.doomed (ho.root hready) hs.sound
        hop hpos hstep
    intro _
    refine ⟨⟨he.text.trans hs.text, hs.policy, he.doomed.trans hs.doomed, ?_, fun op' hmem => ?_⟩,
      ?_⟩
    · rw [he.live]
      exact hs.sound
    · exact hs.orders op' (hqueue ▸ List.mem_cons_of_mem _ hmem)
    · have hsettled : settled { s with document, queue } = document.live.length :=
        settled_of_free hfree
      rw [hleads] at hdest
      rw [destination, hsettled, he.live]
      exact hdest
  | @refuse op rest document fault hfree hready hqueue hstep =>
    obtain ⟨hs, -⟩ := hb (.inr hready)
    rw [hs.policy] at hstep
    exact absurd hstep (Navigation.step_ne_refuse hw (hs.text ▸ hsplit) hs.doomed
      (ho.root hready) hs.sound)
  | goal hfree hready hqueue hstale =>
    obtain ⟨hs, hdest⟩ := hb (.inr hready)
    rw [destination, settled_of_free hfree] at hdest
    refine bound_send fun link _ => ⟨⟨hs.text, hs.policy, hs.doomed, hs.sound, hs.orders⟩, ?_⟩
    rw [destination, settled_of_slot (by simp [slot])]
    exact hdest

omit [Link σ] in
/-- An answer that leaves the sentences that the session has settled for leads on to where it was
led. -/
theorem Steady.answered (hs : s.Steady text) (hdest : s.destination spans = m)
    (hfree : t.request = none) (hqueue : t.queue = s.queue) (hsettings : t.settings = s.settings)
    (htext : t.document.text = s.document.text) (hdoomed : t.document.doomed = [])
    (hsound : ∀ x ∈ t.document.live, x.isError = false)
    (hlive : t.document.live.length = s.settled) : Bound text spans m t := by
  intro _
  refine ⟨⟨htext.trans hs.text, hsettings ▸ hs.policy, hdoomed, hsound, hqueue ▸ hs.orders⟩, ?_⟩
  rw [destination, settled_of_free hfree, hlive, hqueue]
  exact hdest

/-- A frame that is no refusal and reports no error does not change where the session is led. -/
theorem Bound.handleFrame (hr : Run h s) (hb : Bound text spans m s) (halive : s.isAlive = true)
    {frame : Inbound} (hok : frame.accepts = true) : Bound text spans m (s.handleFrame frame) := by
  have ho := hr.orderly
  obtain ⟨hs, hdest⟩ := hb (ho.alive.1 halive)
  cases frame with
  | feedback news =>
    -- a mark that reports no error leaves the live sentences where they are
    have hmark : ∀ (i : Nat) {f : Sentence → Sentence}, (∀ x, (f x).id = x.id) →
        (∀ x, x.isError = false → (f x).isError = false) →
        Bound text spans m { s with document := s.document.modifyAt i f } := by
      intro i f hid herror _
      refine ⟨⟨(Document.text_modifyAt ..).trans hs.text, hs.policy, ?_, hs.modifyAt i herror,
          hs.orders⟩, ?_⟩
      · exact (Document.doomed_modifyAt_eq_nil_iff ..).2 hs.doomed
      · have hsettled : settled { s with document := s.document.modifyAt i f } = s.settled :=
          settled_congr rfl (Document.map_live_modifyAt hid s.document i)
        rw [destination, hsettled]
        exact hdest
    simp only [Inbound.accepts, Bool.not_eq_eq_eq_not, Bool.not_true] at hok
    rcases s.handleFeedback_cases hok with ⟨i, -, heq | heq⟩ | hagrees
    · rw [Session.handleFrame, heq]
      refine hmark i (fun x => ?_) fun x hx => ?_
      · cases x.state <;> rfl
      · cases hstate : x.state <;> simp_all [Sentence.isError]
    · rw [Session.handleFrame, heq]
      exact hmark i (fun _ => rfl) fun _ hx => hx
    · exact hb.of_agrees hagrees
  | response response =>
    cases response with
    | fail failure => simp [Inbound.accepts] at hok
    | good payload =>
      have ht := ho.takes_handleFrame (.response (.good payload))
      generalize s.handleFrame (.response (.good payload)) = s' at ht ⊢
      cases ht with
      -- what breaks the session leaves nothing to be led
      | broken fault => exact fun ha => absurd ha (not_active_fail _ _)
      | started hslot hreply hagrees =>
        have hsettled : s.settled = s.document.live.length := settled_of_slot (by simp [hslot])
        refine Bound.of_agrees ?_ hagrees
        exact hs.answered hdest rfl rfl rfl rfl hs.doomed hs.sound hsettled.symm
      | @accepted _ state _ _ i x _ hslot hx hreply hagrees =>
        refine Bound.of_agrees ?_ hagrees
        refine hs.answered hdest rfl rfl rfl (Document.text_modifyAt ..) ?_
          (hs.modifyAt i fun _ _ => rfl) ?_
        · exact (Document.doomed_modifyAt_eq_nil_iff ..).2 hs.doomed
        · rw [settled_of_slot (by simp [hslot])]
          exact Document.length_live_modifyAt ..
      | acceptedLate hslot hid hagrees =>
        have hsettled : s.settled = s.document.live.length := settled_of_slot (by simp [hslot])
        refine Bound.of_agrees ?_ hagrees
        exact hs.answered hdest rfl rfl rfl rfl hs.doomed hs.sound hsettled.symm
      | @rolledBack _ id _ hslot hagrees =>
        -- what was to be taken back counted as gone, and now it is
        obtain ⟨htext, hdoomed, hlive⟩ := Document.truncateTo_parts s.document id
        refine Bound.of_agrees ?_ hagrees
        refine hs.answered hdest rfl rfl rfl htext ?_ (fun x hx => hs.sound x (hlive.subset hx)) ?_
        · rwa [hs.doomed, List.prefix_nil] at hdoomed
        · rw [settled, hslot]
          exact Document.length_live_truncateTo ..
      | told hslot hrequest hagrees =>
        have hsettled : s.settled = s.document.live.length := by
          refine settled_of_slot fun id => ?_
          rw [hslot]
          rcases hrequest with rfl | rfl | rfl <;> simp
        refine Bound.of_agrees ?_ hagrees
        exact hs.answered hdest rfl rfl rfl rfl hs.doomed hs.sound hsettled.symm

/-- Whatever happens by itself, the session is led where it was led. -/
theorem Bound.drifts (hr : Run h s) (hsplit : Sentence.spansFrom text 0 = (spans, none))
    (hb : Bound text spans m s)
    (hd : Drifts (fun _ frame => frame.accepts = true) s t) : Bound text spans m t := by
  refine hd.keep hr hb fun hr' hb' hd' => ?_
  cases hd' with
  | outside link => exact hb'.outside link
  | quiet hagrees => exact hb'.of_agrees hagrees.toAgrees
  | pump hp => exact hb'.pumps hr' hsplit hp
  | frame halive hok => exact hb'.handleFrame hr' halive hok
  | lose fault halive => exact fun ha => absurd ha (not_active_fail _ _)

/-- Once an order has been queued, what can be sent is sent. -/
theorem Bound.pump {queue : List Navigation} (hr : Run h s)
    (hsplit : Sentence.spansFrom text 0 = (spans, none)) (hactive : s.Active)
    (ho : Orders s.queue queue) (hb : Bound text spans m { s with queue }) :
    Bound text spans m (Session.pump { s with queue }) := by
  have halive : s.refusal? = none := (refusal?_eq_none_iff s).2 (hr.orderly.alive.2 hactive)
  have hrun := hr.silent (.act (.order halive ho))
  exact hb.drifts hrun hsplit (Drifts.pump .refl)

/-- An order leads on from where the session was led. -/
theorem Bound.order (hr : Run h s) (hsplit : Sentence.spansFrom text 0 = (spans, none))
    (hb : Bound text spans m s)
    (order : Order) : Bound text spans (order.goal text spans m) (s.perform order.operation) := by
  have ho := hr.orderly
  -- a session that refuses orders has ended
  have hended : ∀ fault, s.refusal? = some fault →
      Bound text spans (order.goal text spans m) s := by
    intro fault hrefusal ha
    rw [(refusal?_eq_none_iff s).2 (ho.alive.2 ha)] at hrefusal
    simp at hrefusal
  have hpump : ∀ {queue : List Navigation}, s.refusal? = none → Orders s.queue queue →
      (s.Steady text → (∀ op ∈ queue, op.isRewind = false) ∧
        queue.foldl (Navigation.leads spans) s.settled =
          order.goal text spans (s.destination spans)) →
      Bound text spans (order.goal text spans m) (Session.pump { s with queue }) := by
    intro queue halive horders hqueue
    refine Bound.pump hr hsplit (ho.active halive) horders fun ha => ?_
    obtain ⟨hs, hdest⟩ := hb ha
    obtain ⟨hrewinds, hgoal⟩ := hqueue hs
    exact ⟨⟨hs.text, hs.policy, hs.doomed, hs.sound, hrewinds⟩, hdest ▸ hgoal⟩
  -- what is asked for is no rollback
  have hrewinds : ∀ {queue : List Navigation}, Orders s.queue queue → s.Steady text →
      ∀ op ∈ queue, op.isRewind = false := by
    intro queue horders hs op hop
    obtain ⟨front, last, rfl, hlast, -, hkeeps⟩ := horders.exists_eq
    rcases List.mem_append.1 hop with hop | hop
    · exact hs.orders op (hkeeps.sublist.subset hop)
    · rwa [List.mem_singleton.1 hop]
  cases order with
  | forward =>
    simp only [Order.operation, Session.perform, Session.forward]
    split
    · next fault hrefusal => exact hended fault hrefusal
    · next halive =>
      split
      · next hblocked =>
        -- nothing blocks where nothing is in error
        obtain ⟨hs, -⟩ := hb (ho.active halive)
        rw [hs.policy, Document.isBlocked_eq_false hs.sound] at hblocked
        simp at hblocked
      · exact hpump halive .forward fun hs =>
          ⟨hrewinds .forward hs, Navigation.foldl_enqueueForward ..⟩
  | backward =>
    simp only [Order.operation, Session.perform, Session.backward]
    split
    · next fault hrefusal => exact hended fault hrefusal
    · next halive =>
      split
      · next hnothing =>
        -- nothing is live, and nothing will be
        obtain ⟨hlive, hqueue, hfree⟩ := hnothing
        intro ha
        obtain ⟨hs, hdest⟩ := hb ha
        have hzero : s.destination spans = 0 := by
          rw [destination, settled_of_free (Option.isNone_iff_eq_none.1 hfree), hlive]
          exact Navigation.foldl_leads_zero (by simpa using hqueue)
        refine ⟨hs, ?_⟩
        rw [hzero, ← hdest, hzero]
        rfl
      · exact hpump halive .backward fun hs =>
          ⟨hrewinds .backward hs, Navigation.foldl_enqueueBackward ..⟩
  | toCursor position =>
    simp only [Order.operation, Session.perform, Session.toCursor]
    split
    · next fault hrefusal => exact hended fault hrefusal
    · next halive =>
      refine hpump halive (.toCursor _) fun hs => ⟨hrewinds (.toCursor _) hs, ?_⟩
      rw [List.foldl_append, hs.text]
      rfl

/-- The sessions on a text to which orders lead, with the orders so far. Between two of them the
session may be polled whenever frames have arrived, as long as the prover accepts everything. -/
inductive Steered (text : String) : List Order → Session σ → Prop
  | start (link : σ) {settings : Settings} (hpolicy : settings.axiomPolicy = .annotate) :
    Steered text [] (start link text settings)
  | outside {orders : List Order} {s : Session σ} (link : σ) (hs : Steered text orders s) :
    Steered text orders { s with link }
  | order {orders : List Order} {s : Session σ} (order : Order) (hs : Steered text orders s) :
    Steered text (orders ++ [order]) (s.perform order.operation)
  | poll {orders : List Order} {s : Session σ}
    (hok : ∀ frame ∈ (Link.receive s.link).1.frames, frame.accepts = true)
    (hs : Steered text orders s) :
    Steered text orders s.poll.2
  | elapse {orders : List Order} {s : Session σ} (milliseconds : Nat) (hs : Steered text orders s) :
    Steered text orders (s.elapse milliseconds)

/-- A session that is only steered is bound for where its orders lead. -/
theorem Steered.bound {orders : List Order} (hs : Steered text orders s)
    (hsplit : Sentence.spansFrom text 0 = (spans, none)) :
    (∃ h, Run h s) ∧ Bound text spans (orders.foldl (Order.goal text spans) 0) s := by
  -- every order moves the goal, and all that happens between orders leaves it
  induction hs with
  | start link hpolicy =>
    refine ⟨⟨_, .start link text _⟩, bound_send fun link' _ => ⟨⟨rfl, hpolicy, rfl, ?_, ?_⟩, rfl⟩⟩
    · exact fun x hx => absurd hx List.not_mem_nil
    · exact fun op hop => absurd hop List.not_mem_nil
  | outside link _ ih =>
    obtain ⟨⟨h, hr⟩, hb⟩ := ih
    exact ⟨⟨_, hr.silent (.outside link)⟩, hb.outside link⟩
  | order order _ ih =>
    obtain ⟨⟨h, hr⟩, hb⟩ := ih
    obtain ⟨es, hes, -⟩ := hr.operate order.operation
    refine ⟨⟨_, hes⟩, ?_⟩
    rw [List.foldl_append]
    exact hb.order hr hsplit order
  | poll hok _ ih =>
    obtain ⟨⟨h, hr⟩, hb⟩ := ih
    obtain ⟨es, hes, -⟩ := hr.operate .poll
    exact ⟨⟨_, hes⟩, hb.drifts hr hsplit (drifts_poll fun frame hframe _ _ => hok frame hframe)⟩
  | elapse milliseconds _ ih =>
    obtain ⟨⟨h, hr⟩, hb⟩ := ih
    exact ⟨⟨_, hr.silent (.act (.quiet (quiet_elapse _ _)))⟩,
      hb.of_agrees (quiet_elapse _ _).toAgrees⟩

/-- Once nothing is left to do, the live sentences are those that the orders lead to when they are
carried out one by one, however they were queued. -/
theorem Steered.transparent {orders : List Order} (hs : Steered text orders s)
    (hsplit : Sentence.splitAll text = .ok spans) (hready : s.status = .ready)
    (hidle : s.isBusy = false) :
    s.document.doomed = [] ∧
      s.document.live.map (·.span) = spans.take (orders.foldl (Order.goal text spans) 0) := by
  have hspans := Sentence.spansFrom_of_splitAll hsplit
  obtain ⟨⟨h, hr⟩, hb⟩ := hs.bound hspans
  obtain ⟨hsteady, hdest⟩ := hb (.inr hready)
  simp only [isBusy, Bool.or_eq_false_iff, Bool.not_eq_eq_eq_not, Bool.not_false, List.isEmpty_iff,
    Option.isSome_eq_false_iff, Option.isNone_iff_eq_none] at hidle
  obtain ⟨⟨hfree, hqueue⟩, -⟩ := hidle
  rw [destination, hqueue, List.foldl_nil, settled_of_free hfree] at hdest
  -- the live sentences are the first of the text, and as many as the orders lead to
  have hfront := (hr.wellFormed.next_eq (hsteady.text ▸ hspans) hsteady.doomed).1
  rw [List.map_append] at hfront
  have htake := List.prefix_iff_eq_take.1 ((List.prefix_append _ _).trans hfront)
  rw [List.length_map, hdest] at htake
  exact ⟨hsteady.doomed, htake⟩

/-! ## Orders on two sentences -/

/-- Polling once a good frame has arrived goes on with the orders. -/
theorem Steered.deliver {orders : List Order} {s : Session Channel} (hs : Steered text orders s)
    (frame : Inbound) (t : Session Channel) (hok : frame.accepts = true)
    (ht : ({ s with link := delivering frame } : Session Channel).poll.2 = t.pump) :
    Steered text orders t.pump := by
  refine ht ▸ (hs.outside (delivering frame)).poll fun other hother => ?_
  rw [frames_delivering, List.mem_singleton] at hother
  rw [hother]
  exact hok

/-- The text "A. B." once the prover has started. -/
def rooted : Document :=
  { Document.ofText "A. B." with root := some ⟨1⟩ }

/-- The text "A. B." with its second sentence taken back. -/
def secondGone : Document :=
  { firstAccepted with nextId := 2 }

private theorem pump_rooted : (underway [] rooted none [.forward 2, .backward 1] false []).pump =
    underway [.add "A." Navigation.noEdit ⟨1⟩ false] firstSent (some (.add 0))
    [.forward 1, .backward 1] false [] := by
  rw [pump_eq]
  cbv

private theorem pump_firstAccepted :
    (underway [] firstAccepted none [.forward 1, .backward 1] true []).pump =
    underway [.add "B." Navigation.noEdit ⟨2⟩ false] bothSent (some (.add 1))
    [.backward 1] true [] := by
  rw [pump_eq]
  cbv

private theorem pump_bothAccepted : (underway [] bothAccepted none [.backward 1] true []).pump =
    underway [.editAt ⟨2⟩] bothAccepted (some (.editAt 1)) [] true [] := by
  rw [pump_eq]
  cbv

private theorem pump_secondGone : (underway [] secondGone none [] true []).pump =
    underway [.goal] secondGone (some .goal) [] false [] := by
  rw [pump_eq]
  cbv

private theorem pump_idle :
    (underway [] secondGone none [] false []).pump = underway [] secondGone none [] false [] := by
  rw [pump_eq]
  rfl

/-- The text of two sentences is split into the two. -/
private theorem splitAll_two : Sentence.splitAll "A. B." = .ok [⟨0, 2⟩, ⟨3, 5⟩] := by
  have hfirst : Sentence.next "A. B." 0 = .ok (some ⟨0, 2⟩) := by cbv
  have hsecond : Sentence.next "A. B." 2 = .ok (some ⟨3, 5⟩) := by cbv
  have hend : Sentence.next "A. B." 5 = .ok none := by cbv
  simp only [Sentence.splitAll, Sentence.spansFrom_eq, hfirst, hsecond, hend]

/-- Two sentences are asked for and one of them is taken back, all before the prover has started. -/
theorem transparent_of_queued :
    ∃ s : Session Channel, Steered "A. B." [.forward, .forward, .backward] s ∧
    s.status = .ready ∧ s.isBusy = false ∧ s.document.doomed = [] ∧
    s.document.live.map (·.span) = [⟨0, 2⟩] := by
  have hstart : Steered "A. B." [] (opening Channel.opened "A. B.") :=
    (Steered.start Channel.opened rfl).outside Channel.opened
  have hqueued : (((opening Channel.opened "A. B.").forward.2).forward.2).backward.2 =
      { opening Channel.opened "A. B." with queue := [.forward 2, .backward 1] } := by
    cbv
  -- the orders are queued, and the answers are taken up one after the other
  have hordered := ((hstart.order .forward).order .forward).order .backward
  simp only [Order.operation, perform, hqueued] at hordered
  have hstarted := hordered.deliver (replyFrame (.init ⟨1⟩))
    (underway [] rooted none [.forward 2, .backward 1] false []) rfl (by cbv)
  rw [pump_rooted] at hstarted
  have hfirst := hstarted.deliver (replyFrame (.add ⟨2⟩ none ""))
    (underway [] firstAccepted none [.forward 1, .backward 1] true []) rfl (by cbv)
  rw [pump_firstAccepted] at hfirst
  have hsecond :=
    hfirst.deliver (replyFrame (.add ⟨3⟩ none ""))
      (underway [] bothAccepted none [.backward 1] true [])
    rfl (by cbv)
  rw [pump_bothAccepted] at hsecond
  have hback :=
    hsecond.deliver (replyFrame (.editAt none))
      (underway [] secondGone none [] true []) rfl (by cbv)
  rw [pump_secondGone] at hback
  have hdrained :=
    hback.deliver (replyFrame (.goal none)) (underway [] secondGone none [] false []) rfl (by cbv)
  rw [pump_idle] at hdrained
  obtain ⟨hdoomed, hlive⟩ := hdrained.transparent splitAll_two rfl rfl
  exact ⟨_, hdrained, rfl, rfl, hdoomed, hlive⟩

end Session

end ProofDesk
