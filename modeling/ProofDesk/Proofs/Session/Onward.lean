import ProofDesk.Proofs.Session.Destination
import ProofDesk.Proofs.Session.Drift
import ProofDesk.Proofs.Session.Turns

/-!
# Sessions that only go forward

A session goes forward where nothing queued goes back, and where no live sentence is behind the
offset of a queued move (`Session.Onward`). It stays one, whatever the prover answers
(`Onward.drifts`), and never asks the prover to go back (`Onward.rollbacks_pumps`).
-/

namespace ProofDesk

/-- The state that a call goes back to. -/
def Call.target? : Call → Option StateId
  | editAt target => some target
  | _ => none

/-- The states that the prover has been asked to go back to, one after the other. -/
def Channel.rollbacks (c : Channel) : List StateId :=
  c.calls.filterMap Call.target?

/-- What is queued takes no live sentence back. -/
inductive Document.Onward (d : Document) : List Navigation → Prop
  | forwards {queue : List Navigation} (h : ∀ op ∈ queue, op.retreats = false) : d.Onward queue
  /-- Everything live is in front of the offset. -/
  | cursor {offset : Nat} {rest : List Navigation} (hlive : ∀ x ∈ d.live, x.span.stop ≤ offset)
      (h : ∀ op ∈ rest, op.retreats = false) : d.Onward (.cursor offset :: rest)

/-! ## Steps -/

/-- What is left of an operation goes back if the operation does. -/
theorem Navigation.retreats_of_mem_remaining {op op' : Navigation} (h : op' ∈ op.remaining) :
    op'.retreats = op.retreats := by
  unfold Navigation.remaining at h
  split at h
  · rw [List.mem_singleton.1 h]
    rfl
  · rw [List.mem_singleton.1 h]
  · simp at h

/-- A document that only grew has no live sentence where it had none. -/
theorem Document.Extends.spans_subset {d d' : Document} (he : d.Extends d') :
    d'.live.map (·.span) ⊆ d.live.map (·.span) := by
  rw [he.live]
  exact List.Subset.refl _

namespace Document.Onward

variable {d d' : Document} {queue queue' : List Navigation}

/-- A queue without operations takes nothing back. -/
theorem nil : d.Onward [] :=
  .forwards (by simp)

/-- Fewer live sentences and fewer operations go forward as well. -/
theorem of_sublist (ho : d.Onward queue) (hlive : d'.live.map (·.span) ⊆ d.live.map (·.span))
    (hqueue : queue'.Sublist queue) : d'.Onward queue' := by
  cases ho with
  | forwards h => exact .forwards fun op hop => h op (hqueue.subset hop)
  | cursor hwithin h =>
    cases hqueue with
    | cons _ hrest => exact .forwards fun op hop => h op (hrest.subset hop)
    | cons_cons _ hrest =>
      refine .cursor (fun x hx => ?_) fun op hop => h op (hrest.subset hop)
      obtain ⟨y, hy, hspan⟩ := List.mem_map.1 (hlive (List.mem_map_of_mem hx))
      rw [← hspan]
      exact hwithin y hy

variable {policy : AxiomPolicy} {op : Navigation} {rest : List Navigation}
  {request : Request} {call : Call}

/-- What is sent on the way forward is no rollback, and the way still leads forward. -/
theorem of_step_send (ho : d.Onward (op :: rest)) (hw : d.WellFormed)
    (h : Navigation.step policy d op rest = .send request call d' queue) :
    d'.Onward queue ∧ call.target? = none := by
  cases ho with
  | forwards hall =>
    have hop := hall op List.mem_cons_self
    cases Navigation.of_step_send hw.numbered h with
    | add hadvances hblocked hd he hx htip =>
      refine ⟨.forwards fun op' hmem => ?_, rfl⟩
      rcases List.mem_append.1 hmem with hmem | hmem
      · exact (Navigation.retreats_of_mem_remaining hmem).trans hop
      · exact hall op' (List.mem_cons_of_mem _ hmem)
    | editAt hindex hy htarget =>
      cases op with
      | forward n => exact absurd hindex id
      | _ => simp [Navigation.retreats] at hop
  | @cursor offset _ hwithin hall =>
    have hnext := Navigation.comesNext_step policy d (.cursor offset) rest
    generalize Navigation.step policy d (.cursor offset) rest = t at h hnext
    cases hnext with
    | next _ _ _ hext hfits =>
      have he := Document.extends_of_extendNext hext
      obtain ⟨x, later, _, hx, hd, -, -, rfl, rfl, rfl⟩ :=
        Navigation.of_sendSentence_send (he.numbered hw.numbered) h
      -- the sentence that is sent is the one that was found to end in front of the offset
      obtain ⟨x', later', hx', -, hfound, -⟩ := hw.of_extendNext (he.doomed ▸ hd) hext
      rw [hx, List.cons.injEq] at hx'
      obtain ⟨rfl, -⟩ := hx'
      refine ⟨.cursor (fun y hy => ?_) hall, rfl⟩
      rcases List.mem_append.1 hy with hy | hy
      · exact hwithin y (he.live ▸ hy)
      · rw [List.mem_singleton.1 hy]
        simpa [hfound] using hfits offset rfl
    | back hindex =>
      -- no live sentence ends past the offset
      have hnone := Document.firstLockedPast?_eq_none_iff.2 hwithin
      exact absurd (hnone.symm.trans hindex) (by simp)
    | done | held | barred | unsplit | ended | past => simp at h

end Document.Onward

/-! ## Sessions -/

namespace Session

variable {σ : Type} {s t : Session σ}

/-- What a session has queued takes no live sentence back. -/
def Onward (s : Session σ) : Prop :=
  s.document.Onward s.queue

/-- The text is the same, and there are no further live sentences or operations. -/
structure Shrinks (s t : Session σ) : Prop where
  text : t.document.text = s.document.text
  live : t.document.live.map (·.span) ⊆ s.document.live.map (·.span)
  queue : t.queue.Sublist s.queue

/-- Whether a session shrinks is nothing that agreeing sessions differ in. -/
theorem Shrinks.of_agrees {u : Session σ} (ha : t.Agrees u) (hs : s.Shrinks t) : s.Shrinks u :=
  ⟨ha.document ▸ hs.text, ha.document ▸ hs.live, ha.queue ▸ hs.queue⟩

/-- Marking a sentence where it stands lets a session shrink. -/
theorem Shrinks.of_modifyAt {i : Nat} {f : Sentence → Sentence}
    (hd : t.document = s.document.modifyAt i f)
    (hf : ∀ x, (f x).span = x.span) (hqueue : t.queue.Sublist s.queue) : s.Shrinks t := by
  refine ⟨?_, ?_, hqueue⟩
  · rw [hd]
    exact Document.text_modifyAt ..
  · rw [hd, Document.map_live_modifyAt hf]
    exact List.Subset.refl _

theorem Onward.front {op : Navigation} {rest : List Navigation} (ho : s.Onward)
    (hqueue : s.queue = op :: rest) :
    s.document.Onward (op :: rest) :=
  hqueue ▸ (show s.document.Onward s.queue from ho)

/-- A session that takes nothing back goes on to take nothing back as it shrinks. -/
theorem Onward.shrinks (ho : s.Onward) (hs : s.Shrinks t) : t.Onward :=
  Document.Onward.of_sublist ho hs.live hs.queue

/-- A session that agrees with one that takes nothing back takes nothing back. -/
theorem Onward.of_agrees (ho : s.Onward) (ha : s.Agrees t) : t.Onward :=
  ho.shrinks (.of_agrees ha ⟨rfl, List.Subset.refl _, .refl _⟩)

variable [Link σ] {h : History} {ok : Session σ → Inbound → Prop}

/-- Taking up a frame adds neither sentences nor operations. -/
theorem Takes.shrinks {frame : Inbound} (ht : Takes s frame t) : s.Shrinks t := by
  have hdrop : (Navigation.dropAdvances s.queue).Sublist s.queue := List.filter_sublist
  -- marks leave spans alone, and only refusals and rollbacks take something away
  cases ht with
  | broken fault => exact ⟨rfl, List.Subset.refl _, List.nil_sublist _⟩
  | started hslot hreply hs | acceptedLate hslot hid hs | told hslot hrequest hs | heard hs =>
    exact .of_agrees hs ⟨rfl, List.Subset.refl _, .refl _⟩
  | accepted hslot hx hreply hs => exact .of_agrees hs (.of_modifyAt rfl (fun _ => rfl) (.refl _))
  | refused hslot hx hs => exact .of_agrees hs (.of_modifyAt rfl (fun _ => rfl) hdrop)
  | refusedLate hslot hid hs => exact .of_agrees hs ⟨rfl, List.Subset.refl _, hdrop⟩
  | @rolledBack _ id _ hslot hs =>
    obtain ⟨htext, -, hlive⟩ := Document.truncateTo_parts s.document id
    exact .of_agrees hs ⟨htext, (hlive.map _).subset, .refl _⟩
  | admitted hi => exact .of_modifyAt rfl (fun x => by cases x.state <;> rfl) (.refl _)
  | processed hcontent hi => exact .of_modifyAt rfl (fun _ => rfl) (.refl _)
  | @failed _ i x location message _ hi hx hs =>
    -- the sentence that fails stays live with its place, and those behind it go
    have hspans : (s.document.refuseAt i location message).live.map (·.span) =
        s.document.live.map (·.span) :=
      Document.map_live_modifyAt (f := (·.refused location message)) (fun _ => rfl) ..
    refine .of_agrees hs ⟨Document.text_modifyAt .., ?_, hdrop⟩
    rw [← hspans]
    exact ((List.take_prefix _ _).map _).subset

/-- Sending a call does not make a session take anything back. -/
theorem onward_send {request : Request} {call : Call} (ho : s.Onward) :
    (s.send request call).Onward := by
  unfold Session.send
  split
  · exact ho
  · exact .nil

/-- Sending what comes next leads forward. -/
theorem Onward.pumps (hr : Run h s) (ho : s.Onward) (hp : Pumps s t) : t.Onward := by
  obtain ⟨es, hround⟩ := hp
  cases hround with
  | send hfree hready hqueue hstep =>
    exact onward_send ((ho.front hqueue).of_step_send hr.wellFormed hstep).1
  | @proceed op rest queue document hfree hready hqueue hstep =>
    obtain ⟨-, he, rfl⟩ := hr.orderly.of_step_proceed hfree hready hqueue hstep
    exact (ho.front hqueue).of_sublist he.spans_subset (List.sublist_cons_self ..)
  | @refuse op rest document fault hfree hready hqueue hstep =>
    have he := Navigation.of_step_refuse hstep
    have ha := quiet_refuse { s with document } fault
    exact ho.shrinks (.of_agrees ha.toAgrees ⟨he.text, he.spans_subset, List.filter_sublist⟩)
  | goal hfree hready hqueue hstale => exact onward_send ho

/-- Whatever happens by itself, the session goes forward. -/
theorem Onward.drifts (hr : Run h s) (ho : s.Onward) (hd : Drifts ok s t) : t.Onward := by
  refine hd.keep hr ho fun hr' ho' hd' => ?_
  cases hd' with
  | outside link => exact ho'
  | quiet hs => exact ho'.of_agrees hs.toAgrees
  | pump hp => exact ho'.pumps hr' hp
  | frame halive hok => exact ho'.shrinks (hr'.orderly.takes_handleFrame _).shrinks
  | lose fault halive => exact .nil

/-! ### What is sent -/

section Calls

variable {s t : Session Channel} {h : History}

/-- A call is handed over, or the session has ended. -/
theorem calls_send (s : Session Channel) (request : Request) (call : Call) :
    (s.send request call).link.calls = s.link.calls ∨
    (s.send request call).link.calls = s.link.calls ++ [call] := by
  have hchannel : ∀ c : Channel,
      (Link.send call c).2.calls = c.calls ∨ (Link.send call c).2.calls = c.calls ++ [call] := by
    intro c
    simp only [Link.send, Channel.send]
    split
    · exact .inl rfl
    · exact .inr rfl
  rcases link_send s request call with hlink | hlink
  · rw [hlink]
    exact hchannel s.link
  · rw [hlink]
    exact hchannel s.link

/-- What has been sent stays sent. -/
theorem Pumps.calls_prefix (hp : Pumps s t) : s.link.calls <+: t.link.calls := by
  -- two of the rounds send, and sending adds at most one call
  have hsend : ∀ (u : Session Channel) request call, u.link = s.link →
      s.link.calls <+: (u.send request call).link.calls := by
    intro u request call hlink
    rw [← hlink]
    rcases calls_send u request call with hcalls | hcalls
    · rw [hcalls]
    · rw [hcalls]
      exact List.prefix_append _ _
  obtain ⟨es, hround⟩ := hp
  cases hround with
  | send hfree hready hqueue hstep => exact hsend _ _ _ rfl
  | proceed hfree hready hqueue hstep => exact List.prefix_refl _
  | refuse hfree hready hqueue hstep =>
    rw [(quiet_refuse _ _).link]
    exact List.prefix_refl _
  | goal hfree hready hqueue hstale => exact hsend _ _ _ rfl

/-- Going forward, the prover is not asked to go back. -/
theorem Onward.rollbacks_pumps (hr : Run h s) (ho : s.Onward) (hp : Pumps s t) :
    t.link.rollbacks = s.link.rollbacks := by
  -- a call without a target is no rollback
  have hsend : ∀ (u : Session Channel) request call, u.link = s.link → call.target? = none →
      (u.send request call).link.rollbacks = s.link.rollbacks := by
    intro u request call hlink htarget
    rw [← hlink, Channel.rollbacks, Channel.rollbacks]
    rcases calls_send u request call with hcalls | hcalls
    · rw [hcalls]
    · simp [hcalls, htarget]
  obtain ⟨es, hround⟩ := hp
  cases hround with
  | send hfree hready hqueue hstep =>
    exact hsend _ _ _ rfl ((ho.front hqueue).of_step_send hr.wellFormed hstep).2
  | proceed hfree hready hqueue hstep => rfl
  | refuse hfree hready hqueue hstep => exact congrArg Channel.rollbacks (quiet_refuse _ _).link
  | goal hfree hready hqueue hstale => exact hsend _ _ _ rfl rfl

/-- Carrying out the queue of a session that takes nothing back sends no rollback. -/
theorem Onward.rollbacks_pump (hr : Run h s) (ho : s.Onward) :
    s.pump.link.rollbacks = s.link.rollbacks := by
  suffices ∀ t, Relation.ReflTransGen Pumps s t →
      t.link.rollbacks = s.link.rollbacks from this _ (pumps_pump s)
  intro t ht
  induction ht with
  | refl => rfl
  | tail hprefix hp ih =>
    have hdrifts : Drifts (fun _ _ => True) s _ := hprefix.lift id fun _ _ => .pump
    obtain ⟨h', hr'⟩ := hr.exists_of_drifts hdrifts
    exact ((ho.drifts hr hdrifts).rollbacks_pumps hr' hp).trans ih

/-- Taking up what has arrived sends nothing. -/
theorem Run.calls_receive (hr : Run h s) :
    s.receive.2.checkTimeout.2.link.calls = s.link.calls := by
  have hlink : (Link.receive s.link).2.calls = s.link.calls := by
    simp only [Link.receive, Channel.receive]
    split <;> rfl
  -- frames and faults are taken up without a call, one after the other
  have hreceive : ∃ h', Run h' s.receive.2 ∧ s.receive.2.link.calls = s.link.calls := by
    refine receive_keep (P := fun t => ∃ h', Run h' t ∧ t.link.calls = s.link.calls) ⟨h, hr, rfl⟩
      ⟨h, hr.silent (.outside _), hlink⟩ ?_ ?_
    · rintro frame - t ⟨h', hr', hcalls⟩ halive
      refine ⟨_, hr'.move (.frame frame halive), ?_⟩
      rcases (hr'.orderly.takes_handleFrame frame).link_eq with heq | heq
      · rw [heq, hcalls]
      · rw [heq]
        exact hcalls
    · rintro fault - t ⟨h', hr', hcalls⟩ halive
      exact ⟨h', hr'.silent (.lose fault halive), hcalls⟩
  obtain ⟨h', hr', hcalls⟩ := hreceive
  rw [(quiet_checkTimeout _).link, hcalls]

end Calls

end Session

end ProofDesk
