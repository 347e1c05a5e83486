import ProofDesk.Proofs.Session.Onward
import ProofDesk.Proofs.Session.Outline

/-!
# Sessions side by side

Two sessions of the same outline do the same with the same frames, even if their texts differ, as
long as the operation in front of their queues finds the same in both texts (`Twins.exists_pumps`).
An edit that only moves sentences leaves the outline of a session as it was
(`Edits.outline_of_shifted`).
-/

namespace ProofDesk

/-! ## What is queued in front of two texts -/

/-- The texts are split into as many sentences, and both to the end or neither. -/
def Sentence.AsMany (old new : String) : Prop :=
  (spansFrom new 0).1.length = (spansFrom old 0).1.length ∧
    (spansFrom new 0).2.isSome = (spansFrom old 0).2.isSome

/-- As many sentences of both texts end at or before an offset. -/
def Sentence.AsManyBy (offset : Nat) (old new : String) : Prop :=
  (spansFrom new 0).1.countP (·.stop ≤ offset) = (spansFrom old 0).1.countP (·.stop ≤ offset)

/-- A queued operation aims at the same sentence in both texts, counted from the start. -/
def Navigation.Unmoved (old new : String) : Navigation → Prop
  | forward _ => Sentence.AsMany old new
  | cursor offset => Sentence.AsMany old new ∧ Sentence.AsManyBy offset old new
  | backward _ | rewind _ => True

/-- In front of the queue, an operation does the same with a document as with another of the same
outline on the text `old`. A move to an offset that goes back only depends on the sentences in front
of the offset. -/
def Navigation.Alike (old : String) (d : Document) : Navigation → Prop
  | forward _ => Sentence.AsMany old d.text
  | cursor offset => Sentence.AsManyBy offset old d.text ∧
    (d.firstLockedPast? offset = none → Sentence.AsMany old d.text)
  | backward _ | rewind _ => True

/-- An operation that an edit does not move does the same before and after it. -/
theorem Navigation.Unmoved.alike {old : String} {d : Document} {op : Navigation}
    (h : op.Unmoved old d.text) :
    op.Alike old d := by
  cases op with
  | forward n => exact h
  | cursor offset => exact ⟨h.2, fun _ => h.1⟩
  | backward n | rewind id => trivial

/-- What is left of an operation aims where the operation aims. -/
theorem Navigation.Unmoved.remaining {old new : String} {op op' : Navigation}
    (h : op.Unmoved old new) (hmem : op' ∈ op.remaining) : op'.Unmoved old new := by
  cases op with
  | forward n =>
    rcases n with - | - | n
    · simp [Navigation.remaining] at hmem
    · simp [Navigation.remaining] at hmem
    · rw [Navigation.remaining, List.mem_singleton] at hmem
      rw [hmem]
      exact h
  | cursor offset =>
    rw [Navigation.remaining, List.mem_singleton] at hmem
    rw [hmem]
    exact h
  | backward n | rewind id => simp [Navigation.remaining] at hmem

/-! ## Documents -/

namespace Document

variable {d d' : Document}

/-- An edit after which all is in place keeps the unsent sentences. -/
private theorem length_unsent_of_reconcile {e : Edit} (h : d.reconcile e = (.shifted, d')) :
    d'.unsent.length = d.unsent.length := by
  have hlen := length_comparison d e
  rw [reconcile_eq] at h
  generalize d.comparison e = parts at h hlen
  obtain ⟨kept, lost⟩ := parts
  cases lost with
  | nil =>
    simp only [Prod.mk.injEq, true_and] at h
    rw [← h]
    -- nothing is lost, so as many are unsent as were; with doomed sentences none is compared
    by_cases hd : d.doomed = []
    · rw [active, if_pos hd] at hlen
      simp only [hd, if_true, List.length_drop, List.length_append, List.length_nil] at hlen ⊢
      omega
    · simp [hd]
  | cons x rest =>
    dsimp only at h
    split at h <;> simp at h

/-- An edit that shifts sentences drops none. -/
private theorem Edits.length_unsent_of_shifted (h : d.Edits .shifted d') :
    d'.unsent.length = d.unsent.length := by
  rcases h.eq_or_turns with ⟨-, rfl⟩ | ⟨text, e, -, hreconcile⟩
  · rfl
  · have hlen := length_unsent_of_reconcile hreconcile
    exact hlen

/-- An edit that shifts sentences leaves the outline of the document as it is. -/
theorem Edits.outline_of_shifted (h : d.Edits .shifted d') : d'.outline = d.outline := by
  have hr := h.reconciled
  have hlen : d'.live.length = d.live.length := hr.outcome
  -- where a sentence stands is not part of its outline
  have houtline : ∀ {ss ss' : List Sentence}, ss'.map (·.unplaced) = ss.map (·.unplaced) →
      ss'.map (·.outline) = ss.map (·.outline) := by
    intro ss ss' hmap
    have hmap' := congrArg (List.map (·.outline)) hmap
    rwa [List.map_map, List.map_map] at hmap'
  have hsent := hr.sent
  rw [sent, sent, List.map_append, List.map_append] at hsent
  obtain ⟨hlive, hdoomed⟩ := List.append_inj hsent (by rw [List.length_map, List.length_map, hlen])
  have hunsent :=
    hr.unsent.eq_of_length (by rw [List.length_map, List.length_map, h.length_unsent_of_shifted])
  simp [outline, houtline hlive, houtline hdoomed, houtline hunsent, hr.root, hr.nextId]

/-- Where nothing is left to be sent, the live sentences tell which one comes next. -/
theorem WellFormed.next_of_unsent (hw : d.WellFormed) (hd : d.doomed = []) (hu : d.unsent = []) :
    Sentence.next d.text (endOf d.sentences) = Sentence.upcoming
      ((Sentence.spansFrom d.text 0).1.drop d.live.length, (Sentence.spansFrom d.text 0).2) := by
  have hsplits := hw.splits
  rw [hu, List.append_nil] at hsplits
  rw [sentences, hd, hu, List.append_nil, List.append_nil, ← Sentence.reach_map_span,
    Sentence.next_eq, Sentence.spansFrom_reach hsplits, List.length_map]

/-- A sentence that is split off is known by its identifier. -/
theorem outline_push (d : Document) (span : Span) :
    ({ d.push [span] with parseError := none } : Document).outline =
    { d.outline with
      unsent := d.outline.unsent ++ [⟨d.outline.nextId, ⟨0, 0⟩, "", .unprocessed, none, false⟩]
      nextId := d.outline.nextId + 1 } := by
  simp [outline, push, sentencesOf, Sentence.outline, SentenceState.outline]

/-- Which sentence comes next does not depend on what the text says, as long as there are as
many. -/
theorem outline_extendNext (hw : d.WellFormed) (hw' : d'.WellFormed) (ho : d'.outline = d.outline)
    (hd : d.doomed = [])
    (hmany : Sentence.AsMany d.text d'.text) : d'.extendNext.2.outline = d.extendNext.2.outline ∧
      d'.extendNext.1.toOption = d.extendNext.1.toOption := by
  have hunsent : d'.unsent.map (·.outline) = d.unsent.map (·.outline) := congrArg Document.unsent ho
  have hlen : d'.live.length = d.live.length := by
    simpa using congrArg (fun c : Document => c.live.length) ho
  have hnextId : d'.nextId = d.nextId := by simpa using congrArg Document.nextId ho
  unfold extendNext
  cases hu : d.unsent with
  | cons x later =>
    -- a sentence has been split off already, and the outline knows its identifier
    rw [hu] at hunsent
    obtain ⟨x', later', hu', hx, -⟩ := List.map_eq_cons_iff.1 hunsent
    rw [hu']
    have hid : x'.id = x.id := by simpa using congrArg Sentence.id hx
    exact ⟨ho, by simp only [hid]⟩
  | nil =>
    have hu' : d'.unsent = [] := by
      rw [hu] at hunsent
      simpa using hunsent
    -- everything split off is live, so what comes next is told by how many there are
    have hnext := hw.next_of_unsent hd hu
    have hnext' := hw'.next_of_unsent (by simpa [hd] using congrArg Document.doomed ho) hu'
    rw [hlen] at hnext'
    obtain ⟨hcount, hends⟩ := hmany
    rw [hu']
    simp only [splitNext, hnext, hnext']
    generalize Sentence.spansFrom d.text 0 = found at *
    generalize Sentence.spansFrom d'.text 0 = found' at *
    obtain ⟨spans, error?⟩ := found
    obtain ⟨spans', error?'⟩ := found'
    dsimp only at hcount hends ⊢
    cases hdrop : spans.drop d.live.length with
    | cons span later =>
      have hlt : d.live.length < spans.length := by
        have hlen := congrArg List.length hdrop
        rw [List.length_drop, List.length_cons] at hlen
        omega
      rw [List.drop_eq_getElem_cons (i := d.live.length) (l := spans') (by omega)]
      refine ⟨?_, ?_⟩
      · show ({ d'.push [_] with parseError := none } : Document).outline =
          ({ d.push [span] with parseError := none } : Document).outline
        rw [outline_push, outline_push, ho]
      · simp [Sentence.upcoming, hnextId]
    | nil =>
      have hdrop' : spans'.drop d.live.length = [] := by
        rw [List.drop_eq_nil_iff] at hdrop ⊢
        omega
      rw [hdrop']
      rcases error? with - | e <;> rcases error?' with - | e' <;> simp at hends
      · exact ⟨ho, rfl⟩
      · exact ⟨ho, rfl⟩

end Document

/-! ## Steps -/

namespace Navigation

variable {policy : AxiomPolicy} {d d' : Document} {op : Navigation} {rest : List Navigation}

/-- What comes next does not depend on what the text says, as long as the operation finds the same
in both. -/
theorem outline_step (hw : d.WellFormed) (hw' : d'.WellFormed) (ho : d'.outline = d.outline)
    (hd : op.isRewind = false → d.doomed = []) (hu : op.Alike d.text d') :
    (step policy d' op rest).outline = (step policy d op rest).outline := by
  have hblocked : d'.isBlocked policy = d.isBlocked policy := by
    rw [← Document.isBlocked_outline d', ho, Document.isBlocked_outline]
  have hlen : d'.live.length = d.live.length := by
    simpa using congrArg (fun c : Document => c.live.length) ho
  have hback : ∀ (index : Nat) (queue : List Navigation),
      (rewindTo d' index queue).outline = (rewindTo d index queue).outline := by
    intro index queue
    rw [outline_rewindTo d', ho, ← outline_rewindTo d]
  have hsend : ∀ {e e' : Document} (id : SentenceId) (queue : List Navigation),
      e'.outline = e.outline →
      (sendSentence e' id queue).outline = (sendSentence e id queue).outline := by
    intro e e' id queue he
    rw [outline_sendSentence e', he, ← outline_sendSentence e]
  cases op with
  | forward n =>
    cases n with
    | zero => simp [step, Step.outline, ho]
    | succ n =>
      obtain ⟨hdoc, hresult⟩ := Document.outline_extendNext hw hw' ho (hd rfl) hu
      simp only [step, hblocked]
      split
      · simp [Step.outline, ho]
      · generalize d.extendNext = found at hdoc hresult ⊢
        generalize d'.extendNext = found' at hdoc hresult ⊢
        obtain ⟨fault | _ | id, e⟩ := found <;> obtain ⟨fault' | _ | id', e'⟩ := found' <;>
          simp only [Except.toOption, Option.some.injEq, reduceCtorEq] at hresult
        · simp [Step.outline, hdoc]
        · simp [Step.outline, hdoc]
        · rw [hresult]
          exact hsend _ _ hdoc
  | cursor offset =>
    obtain ⟨hcount, hmany⟩ := hu
    -- going back depends on how many sentences end by the offset, and on how many there are
    have hpast : d'.firstLockedPast? offset = d.firstLockedPast? offset := by
      rw [hw.firstLockedPast?_eq, hw'.firstLockedPast?_eq, hcount, hlen]
    simp only [step, hpast, hblocked]
    cases hfit : d.firstLockedPast? offset with
    | some index => exact hback _ _
    | none =>
      rw [hfit] at hpast
      obtain ⟨hdoc, hresult⟩ := Document.outline_extendNext hw hw' ho (hd rfl) (hmany hpast)
      dsimp only
      split
      · simp [Step.outline, ho]
      · have hd' : d'.doomed = [] := by simpa [hd rfl] using congrArg Document.doomed ho
        rcases hext : d.extendNext with ⟨fault | _ | id, e⟩ <;>
          rcases hext' : d'.extendNext with ⟨fault' | _ | id', e'⟩ <;>
          simp only [hext, hext', Except.toOption, Option.some.injEq, reduceCtorEq] at hdoc hresult
        · simp [Step.outline, hdoc]
        · simp [Step.outline, hdoc]
        · subst hresult
          dsimp only
          rw [hw.any_extendNext (hd rfl) hext hfit,
            hw'.any_extendNext hd' hext' hpast, hcount, hlen]
          split
          · exact hsend _ _ hdoc
          · simp [Step.outline, hdoc]
  | backward n =>
    have hlive : d'.live = [] ↔ d.live = [] := by
      rw [← List.length_eq_zero_iff, ← List.length_eq_zero_iff, hlen]
    simp only [step, hlive, hlen]
    split
    · simp [Step.outline, ho]
    · exact hback _ _
  | rewind id =>
    have hindex : d'.indexOf? id = d.indexOf? id := by
      rw [← Document.indexOf?_outline d', ho, Document.indexOf?_outline]
    simp only [step, hindex]
    split
    · exact hback _ _
    · simp [Step.outline, ho]

end Navigation

/-! ## Sessions -/

namespace Session

section Narrows

variable {σ : Type} {s t : Session σ} {old new : String}

/-- The text is the same, and what is queued was queued before, or is left of what was. -/
structure Narrows (s t : Session σ) : Prop where
  text : t.document.text = s.document.text
  queue : ∀ op ∈ t.queue, ∃ op' ∈ s.queue, op = op' ∨ op ∈ op'.remaining

/-- A session narrows when operations leave its queue. -/
theorem Narrows.of_sublist (htext : t.document.text = s.document.text)
    (hqueue : t.queue.Sublist s.queue) :
    s.Narrows t :=
  ⟨htext, fun op hop => ⟨op, hqueue.subset hop, .inl rfl⟩⟩

/-- What an edit does not move in the queue of a session it does not move as that narrows. -/
theorem Narrows.unmoved (hn : s.Narrows t) (hu : ∀ op ∈ s.queue, op.Unmoved old new) :
    ∀ op ∈ t.queue, op.Unmoved old new := by
  intro op hop
  obtain ⟨op', hop', rfl | hremains⟩ := hn.queue op hop
  · exact hu op hop'
  · exact (hu op' hop').remaining hremains

/-- Whether a session narrows is nothing that agreeing sessions differ in. -/
theorem Narrows.of_agrees {u : Session σ} (ha : t.Agrees u) (hn : s.Narrows t) : s.Narrows u :=
  ⟨ha.document ▸ hn.text, ha.queue ▸ hn.queue⟩

/-- A step leaves of the queue what stands behind its operation, and what is left of that. -/
theorem narrows_of_step {d : Document} {op : Navigation} {rest queue : List Navigation}
    (hqueue : s.queue = op :: rest) (htext : d.text = s.document.text)
    (hleft : ∀ op' ∈ queue, op' ∈ op.remaining ++ rest) :
    s.Narrows { s with document := d, queue } := by
  refine ⟨htext, fun op' hop' => ?_⟩
  rw [hqueue]
  rcases List.mem_append.1 (hleft op' hop') with hmem | hmem
  · exact ⟨op, List.mem_cons_self, .inr hmem⟩
  · exact ⟨op', List.mem_cons_of_mem _ hmem, .inl rfl⟩

variable [Link σ] {h : History} {ok : Session σ → Inbound → Prop}

/-- Sending a call lets a session narrow. -/
theorem Narrows.send {request : Request} {call : Call} (hn : s.Narrows t) :
    s.Narrows (t.send request call) := by
  refine ⟨(congrArg _ (document_send t request call)).trans hn.text, fun op hop => hn.queue op ?_⟩
  unfold Session.send at hop
  split at hop
  · exact hop
  · simp [fail] at hop

/-- A round lets a session narrow. -/
theorem Pumps.narrows (hr : Run h s) (hp : Pumps s t) : s.Narrows t := by
  have ho := hr.orderly
  obtain ⟨es, hround⟩ := hp
  -- each round takes from the queue and adds nothing that is not an order's remainder
  cases hround with
  | send hfree hready hqueue hstep =>
    refine Narrows.send ?_
    cases Navigation.of_step_send ho.coherent.numbered hstep with
    | add hop hblocked hd he hx htip => exact narrows_of_step hqueue he.text fun _ hmem => hmem
    | editAt hindex hy htarget => exact narrows_of_step hqueue rfl fun _ hmem => hmem
  | proceed hfree hready hqueue hstep =>
    obtain ⟨-, he, rfl⟩ := ho.of_step_proceed hfree hready hqueue hstep
    exact narrows_of_step hqueue he.text fun _ hmem => List.mem_append_right _ hmem
  | @refuse op rest document fault hfree hready hqueue hstep =>
    refine Narrows.of_agrees (quiet_refuse { s with document } fault).toAgrees ?_
    exact .of_sublist (Navigation.of_step_refuse hstep).text List.filter_sublist
  | goal hfree hready hqueue hstale => exact Narrows.send (.of_sublist rfl (.refl _))

/-- What a session does by itself lets it narrow. -/
theorem Drift.narrows (hr : Run h s) (hd : Drift ok s t) : s.Narrows t := by
  cases hd with
  | outside link => exact .of_sublist rfl (.refl _)
  | quiet hs => exact Narrows.of_agrees hs.toAgrees (.of_sublist rfl (.refl _))
  | pump hp => exact hp.narrows hr
  | @frame frame halive hok =>
    have hs := (hr.orderly.takes_handleFrame frame).shrinks
    exact .of_sublist hs.text hs.queue
  | lose fault halive => exact .of_sublist rfl (List.nil_sublist _)

/-- No session changes its text by itself. -/
theorem Drifts.text_eq (hr : Run h s) (hd : Drifts ok s t) : t.document.text = s.document.text :=
  hd.keep (P := fun u => u.document.text = s.document.text) hr rfl fun hr' hkept hd' =>
    (hd'.narrows hr').text.trans hkept

/-- What an edit does not move in the queue of a session it does not move while that goes on by
itself. -/
theorem Drifts.unmoved (hr : Run h s) (hd : Drifts ok s t)
    (hu : ∀ op ∈ s.queue, op.Unmoved old new) :
    ∀ op ∈ t.queue, op.Unmoved old new :=
  hd.keep (P := fun u => ∀ op ∈ u.queue, op.Unmoved old new) hr hu fun hr' hkept hd' =>
    (hd'.narrows hr').unmoved hkept

end Narrows

/-! ### Sending side by side -/

/-- Two sessions of the same outline on runs. -/
structure Twins (s s' : Session Channel) : Prop where
  run : ∃ h, Run h s
  run' : ∃ h, Run h s'
  outline : s'.outline = s.outline

namespace Twins

variable {s s' t t' : Session Channel}

/-- What happens to both without telling them apart leaves them twins. -/
theorem drifts (hs : Twins s s') (ht : Drifts (fun _ _ => True) s t)
    (ht' : Drifts (fun _ _ => True) s' t') (ho : t'.outline = t.outline) : Twins t t' := by
  obtain ⟨h, hr⟩ := hs.run
  obtain ⟨h', hr'⟩ := hs.run'
  exact ⟨hr.exists_of_drifts ht, hr'.exists_of_drifts ht', ho⟩

/-- Twins have the same request, status, queue and settings, and the same is due to them. -/
theorem fields (hs : Twins s s') :
    s'.request = s.request ∧ s'.status = s.status ∧ s'.queue = s.queue ∧
    s'.goalsStale = s.goalsStale ∧ s'.settings = s.settings := by
  refine ⟨?_, ?_, ?_, ?_, ?_⟩
  · simpa using congrArg Session.request hs.outline
  · simpa using congrArg Session.status hs.outline
  · simpa using congrArg Session.queue hs.outline
  · simpa using congrArg Session.goalsStale hs.outline
  · simpa using congrArg Session.settings hs.outline

/-- Twins stay twins with documents of the same outline. -/
theorem outline_setDocument (hs : Twins s s') {d d' : Document} (hd : d'.outline = d.outline) :
    ({ s' with document := d' } : Session Channel).outline =
      ({ s with document := d } : Session Channel).outline := by
  have hsame := congrArg (fun t : Session Channel => { t with document := d.outline }) hs.outline
  rw [outline_mk, hd]
  exact hsame

/-- What comes next for both is the same but for the document. -/
theorem outline_step (hs : Twins s s') {op : Navigation} {rest : List Navigation}
    (hfree : s.request = none) (hready : s.status = .ready) (hqueue : s.queue = op :: rest)
    (hop : op.Alike s.document.text s'.document) :
    (Navigation.step s.settings.axiomPolicy s'.document op rest).outline =
      (Navigation.step s.settings.axiomPolicy s.document op rest).outline := by
  obtain ⟨h, hr⟩ := hs.run
  obtain ⟨h', hr'⟩ := hs.run'
  have hslot : s.slot = none := (slot_eq_none_iff s).2 hfree
  have hdocument : s'.document.outline = s.document.outline := congrArg Session.document hs.outline
  refine Navigation.outline_step hr.wellFormed hr'.wellFormed hdocument (fun hforward => ?_) hop
  refine hr.orderly.doomed_eq_nil (.inr hready) (by simp [hslot]) fun id hid => ?_
  rw [hqueue, List.head?_cons, Option.some.injEq] at hid
  simp [hid, Navigation.isRewind] at hforward

/-- A step that one of two sessions can take, the other can take as well. -/
theorem exists_pumps (hs : Twins s s')
    (hfront : ∀ op ∈ s.queue.head?, op.Alike s.document.text s'.document)
    (hp : Pumps s t) : ∃ t', Pumps s' t' ∧ Twins t t' := by
  obtain ⟨hrequest, hstatus, hqueue', hstale', hsettings⟩ := hs.fields
  -- it is enough that the sessions look alike afterwards
  suffices ∃ t', Pumps s' t' ∧ t'.outline = t.outline by
    obtain ⟨t', hp', ho⟩ := this
    exact ⟨t', hp', hs.drifts (.single (.pump hp)) (.single (.pump hp')) ho⟩
  obtain ⟨es, hround⟩ := hp
  cases hround with
  | @send op rest queue request call document hfree hready hqueue hstep =>
    have hnext :=
      hs.outline_step hfree hready hqueue (hfront op (by rw [hqueue, List.head?_cons]; exact rfl))
    rw [hstep, ← hsettings] at hnext
    cases hstep' : Navigation.step s'.settings.axiomPolicy s'.document op rest with
    | send request' call' document' queue' =>
      simp only [hstep', Step.outline, Step.send.injEq] at hnext
      obtain ⟨rfl, hcall, hdocument, rfl⟩ := hnext
      refine ⟨_,
        ⟨_, .send (hrequest.trans hfree) (hstatus.trans hready) (hqueue'.trans hqueue) hstep'⟩, ?_⟩
      have hsame :=
        congrArg (fun u : Session Channel => { u with queue := queue' })
          (hs.outline_setDocument hdocument)
      rw [outline_send, hcall]
      refine Eq.trans ?_ (outline_send _ _ _).symm
      exact congrArg (fun u : Session Channel => (u.send request' call.outline).outline) hsame
    | proceed document' queue' | refuse document' fault' => simp [hstep', Step.outline] at hnext
  | @proceed op rest queue document hfree hready hqueue hstep =>
    have hnext :=
      hs.outline_step hfree hready hqueue (hfront op (by rw [hqueue, List.head?_cons]; exact rfl))
    rw [hstep, ← hsettings] at hnext
    cases hstep' : Navigation.step s'.settings.axiomPolicy s'.document op rest with
    | proceed document' queue' =>
      simp only [hstep', Step.outline, Step.proceed.injEq] at hnext
      obtain ⟨hdocument, rfl⟩ := hnext
      refine ⟨_,
        ⟨_, .proceed (hrequest.trans hfree) (hstatus.trans hready) (hqueue'.trans hqueue) hstep'⟩,
        ?_⟩
      exact congrArg (fun u : Session Channel => { u with queue := queue' })
        (hs.outline_setDocument hdocument)
    | send request' call' document' queue' | refuse document' fault' =>
      simp [hstep', Step.outline] at hnext
  | @refuse op rest document fault hfree hready hqueue hstep =>
    have hnext :=
      hs.outline_step hfree hready hqueue (hfront op (by rw [hqueue, List.head?_cons]; exact rfl))
    rw [hstep, ← hsettings] at hnext
    cases hstep' : Navigation.step s'.settings.axiomPolicy s'.document op rest with
    | refuse document' fault' =>
      simp only [hstep', Step.outline, Step.refuse.injEq, and_true] at hnext
      refine ⟨_,
        ⟨_, .refuse (hrequest.trans hfree) (hstatus.trans hready) (hqueue'.trans hqueue) hstep'⟩,
        ?_⟩
      rw [outline_refuse, outline_refuse, hs.outline_setDocument hnext]
    | send request' call' document' queue' | proceed document' queue' =>
      simp [hstep', Step.outline] at hnext
  | goal hfree hready hqueue hstale =>
    refine ⟨_,
      ⟨_, .goal (hrequest.trans hfree) (hstatus.trans hready) (hqueue'.trans hqueue)
        (hstale'.trans hstale)⟩, ?_⟩
    have hsame := congrArg (fun u : Session Channel => { u with goalsStale := false }) hs.outline
    rw [outline_send]
    refine Eq.trans ?_ (outline_send _ _ _).symm
    exact congrArg (fun u : Session Channel => (u.send .goal .goal).outline) hsame

end Twins

end Session

end ProofDesk
