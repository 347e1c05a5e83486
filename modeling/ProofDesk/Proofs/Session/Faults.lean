import ProofDesk.Proofs.Prover.Faults
import ProofDesk.Proofs.Session.Ended
import ProofDesk.Proofs.Session.Keeps
import ProofDesk.Proofs.Session.Splitting
import ProofDesk.Proofs.Session.Turns

/-!
# What breaks a session

A session breaks when its link fails, when the prover sends what the protocol does not allow, or
when the prover refuses to start. Nothing else does: what a session marks is there to be marked, so
that no answer and no feedback fails to be applied, and a sentence that it sends can be sent
(`Guarded`). The history that a session has on a link whose faults are fatal (`Served`) tells which
of these a stored fault is (`Served.breaks_only_on_failure`).
-/

namespace ProofDesk

namespace Navigation

variable {policy : AxiomPolicy} {d d' : Document} {op : Navigation} {rest : List Navigation}
  {fault : Fault}

/-- A step is refused because the last sentence blocks progress or because the text cannot be split,
and for no other reason. -/
private theorem fault_of_step_refuse (hn : d.Numbered) (hd : d.doomed = []) (hroot : d.root.isSome)
    (h : step policy d op rest = .refuse d' fault) :
    fault = .blocked ∨ ∃ e, fault = Document.splitFault e := by
  have hnext := comesNext_step policy d op rest
  generalize step policy d op rest = t at h hnext
  cases hnext with
  | barred => exact .inl (Step.refuse.inj h).2.symm
  | unsplit _ _ _ hext =>
    obtain ⟨-, rfl⟩ := Step.refuse.inj h
    exact .inr (Document.fault_of_extendNext hext)
  | next _ _ _ hext => exact absurd h (sendSentence_ne_refuse hn hd hroot hext)
  | back => exact absurd h (rewindTo_ne_refuse _ _ _)
  | done | held | ended | past => simp at h

end Navigation

namespace Session

variable {σ : Type} {s t : Session σ}

/-! ## Checks that never fail -/

/-- Every check on the way of an answer, of feedback or of a sentence passes. -/
structure Guarded (s : Session σ) : Prop where
  /-- The sentence that waits for its answer can be marked, unless it has been discarded. -/
  awaited : ∀ id, s.slot = some (.add id) → s.document.sentence? id ≠ none →
    (∀ state validity, ∃ d, s.document.markValid id state validity = .ok d) ∧
      ∀ location message, ∃ d, s.document.markError id location message = .ok d
  /-- A good answer that can be read is applied. -/
  answered : ∀ outstanding payload reply, s.request = some outstanding →
    Reply.ofElement outstanding.request.kind payload = .ok reply → ∃ t,
    s.handleResponse (.good payload) = .ok t
  /-- A refusal is applied, unless it is to start. -/
  refused : ∀ outstanding failure, s.request = some outstanding → outstanding.request ≠ .init →
    ∃ t, s.handleResponse (.fail failure) = .ok t
  /-- A sentence that an error is reported for can be marked. -/
  reported : ∀ state i, s.document.indexOfState? state = some i →
    ∃ x, s.document.sentences[i]? = some x ∧
      ∀ location message, ∃ d, s.document.markError x.id location message = .ok d
  /-- There is a state on top of which the next sentence can be sent, and it can be marked as
  sent. -/
  sent : ∀ op rest id d, s.request = none → s.status = .ready → s.queue = op :: rest →
    op.advances = true →
    s.document.extendNext = (.ok (some id), d) →
    ∃ parent pending, d.tip = some parent ∧ d.markPending id = .ok pending
  /-- A step is refused because progress is blocked or the text cannot be split. -/
  stepped : ∀ op rest d fault, s.request = none → s.status = .ready → s.queue = op :: rest →
    Navigation.step s.settings.axiomPolicy s.document op rest = .refuse d fault →
    fault = .blocked ∨ ∃ e, fault = Document.splitFault e

/-- The sentence that waits for its answer has been sent, unless it has been discarded. -/
theorem Orderly.exists_sent (ho : s.Orderly) {id : SentenceId} (hslot : s.slot = some (.add id))
    (hthere : s.document.sentence? id ≠ none) :
    ∃ (i : Nat) (x : Sentence), s.document.sent[i]? = some x ∧ x.id = id := by
  rcases sent_or_discarded ho.coherent.numbered (ho.addressed id (.inl hslot)) with
    ⟨i, x, hx, hid, -⟩ | ⟨-, hgone⟩
  · exact ⟨i, x, hx, hid⟩
  · exact absurd hgone hthere

/-- A good answer of the kind that is waited for is applied. -/
theorem Orderly.exists_applyReply (ho : s.Orderly) {request : Request}
    (hslot : s.slot = some request)
    (reply : Reply request.kind) : ∃ t, s.freed.applyReply request reply = .ok t := by
  cases request with
  | add id =>
    cases reply with
    | add state closed message =>
      simp only [applyReply]
      split
      · exact ⟨_, rfl⟩
      · next hthere =>
        -- the sentence is there, so it is the one that was sent, and can be marked
        obtain ⟨i, x, hx, rfl⟩ := ho.exists_sent hslot (by simpa [freed] using hthere)
        rw [show s.freed.document = s.document from rfl,
          Document.markValid_eq ho.coherent.numbered hx]
        exact ⟨_, rfl⟩
  | init | editAt id | goal | status | quit =>
    cases reply
    exact ⟨_, rfl⟩

/-- A refusal is applied, unless it is to start. -/
theorem Orderly.exists_applyFailure (ho : s.Orderly) {request : Request}
    (hslot : s.slot = some request) (hinit : request ≠ .init) (failure : Failure) :
    ∃ t, s.freed.applyFailure request failure = .ok t := by
  cases request with
  | init => exact absurd rfl hinit
  | add id =>
    simp only [applyFailure]
    split
    · next hthere =>
      -- the sentence is there, so it is the one that was sent, and can be marked
      obtain ⟨i, x, hx, rfl⟩ :=
        ho.exists_sent hslot (by simpa [freed, Option.isSome_iff_ne_none] using hthere)
      rw [show s.freed.document = s.document from rfl,
        Document.markError_eq ho.coherent.numbered hx]
      exact ⟨_, rfl⟩
    · exact ⟨_, rfl⟩
  | editAt id | goal | status | quit => exact ⟨_, rfl⟩

/-- What a session in order expects of its document holds. -/
theorem Orderly.guarded (ho : s.Orderly) : s.Guarded where
  awaited := by
    intro id hslot hthere
    obtain ⟨i, x, hx, rfl⟩ := ho.exists_sent hslot hthere
    exact ⟨fun state validity => Document.exists_markValid ho.coherent.numbered hx state validity,
      fun location message => ⟨_, Document.markError_eq ho.coherent.numbered hx location message⟩⟩
  answered := by
    intro outstanding payload reply hr hreply
    have hslot : s.slot = some outstanding.request := by rw [slot, hr]; rfl
    unfold handleResponse
    rw [hr]
    dsimp only
    rw [hreply]
    exact ho.exists_applyReply hslot reply
  refused := by
    intro outstanding failure hr hinit
    have hslot : s.slot = some outstanding.request := by rw [slot, hr]; rfl
    unfold handleResponse
    rw [hr]
    exact ho.exists_applyFailure hslot hinit failure
  reported := by
    intro state i hi
    -- a state belongs to a sentence that has been sent
    obtain ⟨x, hx, -⟩ := Document.sent_of_indexOfState? ho.coherent.stateId_unsent hi
    have hlt := Document.lt_locked_of_sent hx
    exact ⟨x, (Document.getElem?_sentences_of_lt hlt).trans hx,
      fun location message => ⟨_, Document.markError_eq ho.coherent.numbered hx location message⟩⟩
  sent := by
    intro op rest id d hfree hready hqueue hop hext
    have hslot : s.slot = none := (slot_eq_none_iff s).2 hfree
    -- sentences that wait for a rollback have it in front of the queue
    have hd : s.document.doomed = [] := by
      refine ho.doomed_eq_nil (.inr hready) (by simp [hslot]) fun id hid => ?_
      rw [hqueue, List.head?_cons, Option.some.injEq] at hid
      simp [hid, Navigation.advances] at hop
    have he := Document.extends_of_extendNext hext
    obtain ⟨x, later, hx, rfl⟩ := Document.exists_of_extendNext hext
    obtain ⟨parent, hparent⟩ :=
      Option.isSome_iff_exists.1 (Document.tip_isSome (he.root ▸ ho.root hready))
    exact ⟨parent, _, hparent,
      Document.markPending_of_unsent (he.numbered ho.coherent.numbered) (he.doomed.trans hd) hx⟩
  stepped := by
    intro op rest d fault hfree hready hqueue hstep
    have hd := ho.doomed_eq_nil_of_refuse hfree hready hqueue hstep
    exact Navigation.fault_of_step_refuse ho.coherent.numbered hd (ho.root hready) hstep

/-- An answer that cannot be applied is not what the protocol allows, or refuses to start. -/
theorem Orderly.fault_of_handleResponse (ho : s.Orderly) {response : Response} {fault : Fault}
    (hs : s.handleResponse response = .error fault) :
    fault.isFatal = true ∨
      ∃ failure, s.slot = some .init ∧ response = .fail failure ∧ fault = failure.toFault := by
  cases hr : s.request with
  | none =>
    -- nothing has been asked
    rw [handleResponse, hr] at hs
    obtain rfl := Except.error.inj hs
    exact .inl rfl
  | some outstanding =>
    cases response with
    | good payload =>
      cases hreply : Reply.ofElement outstanding.request.kind payload with
      | ok reply =>
        obtain ⟨t, ht⟩ := ho.guarded.answered outstanding payload reply hr hreply
        rw [hs] at ht
        cases ht
      | error e =>
        -- the answer is not of the kind that is waited for
        rw [handleResponse, hr] at hs
        dsimp only at hs
        rw [hreply] at hs
        obtain rfl := Except.error.inj hs
        exact .inl rfl
    | fail failure =>
      by_cases hinit : outstanding.request = .init
      · have hslot : s.slot = some .init := by rw [slot, hr, Option.map_some, hinit]
        rw [handleResponse, hr] at hs
        dsimp only at hs
        rw [hinit] at hs
        obtain rfl := Except.error.inj hs
        exact .inr ⟨failure, hslot, rfl, rfl⟩
      · obtain ⟨t, ht⟩ := ho.guarded.refused outstanding failure hr hinit
        rw [hs] at ht
        cases ht

/-- Before the prover has started, it has been called once and has not answered. -/
private theorem Turns.of_init {h : History} (ht : Turns h s) (ho : s.Orderly) (ha : s.Active)
    (hslot : s.slot = some .init) :
    h.calls = [(.init, .init)] ∧ h.responses = [] := by
  have hsilent := ht.silent (ho.starting.2 hslot)
  have hbalance := ht.balance ha
  obtain ⟨later, rfl⟩ := ht.alternating.starts
  rw [hsilent, hslot] at hbalance
  refine ⟨?_, hsilent⟩
  rw [show (Exchange.sent Request.init Call.init :: later) = [.sent .init .init] ++ later from rfl,
    History.calls_append] at hbalance ⊢
  -- calls and answers balance, and one call is open: there is none besides the first
  have hnone : History.calls later = [] := by
    rw [List.length_append] at hbalance
    exact List.eq_nil_of_length_eq_zero (by simpa [History.calls, Exchange.call?] using hbalance)
  rw [hnone]
  rfl

/-! ## Links whose faults are fatal -/

variable [Link σ] {p : σ → Prop} {h es : History}

/-- The history and the session after anything that can happen over a link in the states `p`: what
the link fails with is what has been received from it. -/
inductive Served (p : σ → Prop) : History → Session σ → Prop
  | start {link : σ} (hp : p link) (text : String) (settings : Settings) :
    Served p [.sent .init .init] (start link text settings)
  | outside {h : History} {s : Session σ} (hs : Served p h s) {link : σ} (hp : p link) :
    Served p h { s with link }
  | act {h es : History} {s t : Session σ} (hs : Served p h s) (ha : Act s es t) :
    Served p (h ++ es) t
  | frame {h : History} {s : Session σ} (hs : Served p h s) (frame : Inbound)
      (halive : s.isAlive = true) :
    Served p (h ++ [.received frame]) (s.handleFrame frame)
  | lose {h : History} {s : Session σ} (hs : Served p h s) {link : σ} {fault : Fault} (hp : p link)
    (hfault : (Link.receive link).1.fault = some fault) (halive : s.isAlive = true) :
    Served p h (s.fail fault)

/-- A session that has been served from its start is one of a run. -/
theorem Served.run (hs : Served p h s) : Run h s := by
  induction hs with
  | start hp text settings => exact .start _ text settings
  | outside _ hp ih => exact ih.silent (.outside _)
  | act _ ha ih => exact ih.move (.act ha)
  | frame _ frame halive ih => exact ih.move (.frame frame halive)
  | lose _ hp hfault halive ih => exact ih.silent (.lose _ halive)

/-- Links whose faults are fatal stay such links. -/
theorem becomes_of_faultsFatal (hp : Link.FaultsFatal p) {link link' : σ} {calls : List Call}
    (hlink : p link) (h : Link.Becomes link calls link') : p link' := by
  induction h with
  | refl => exact hlink
  | send _ call ih => exact hp.send call ih
  | receive _ ih => exact hp.receive ih
  | close _ ih => exact hp.close ih

/-- A new session hands its link the first call, and closes it if that fails. -/
private theorem link_start (link : σ) (text : String) (settings : Settings) :
    (start link text settings).link = (Link.send .init link).2 ∨
      (start link text settings).link = Link.close (Link.send .init link).2 :=
  link_send _ .init .init

/-- Whatever happens to a session, its link stays in the states in which its faults are fatal. -/
theorem Served.link (hs : Served p h s) (hp : Link.FaultsFatal p) : p s.link := by
  induction hs with
  | @start link hlink text settings =>
    rcases link_start link text settings with heq | heq
    · rw [heq]
      exact hp.send _ hlink
    · rw [heq]
      exact hp.close (hp.send _ hlink)
  | outside _ hlink => exact hlink
  | act _ ha ih =>
    -- a step hands calls over and hangs up, and leaves the link alone otherwise
    exact becomes_of_faultsFatal hp ih ha.becomes
  | @frame _ s _ frame halive ih =>
    rcases s.keeps_or_fails frame with hkeeps | ⟨response, fault, -, -, heq⟩
    · rw [hkeeps.link]
      exact ih
    · rw [heq]
      exact hp.close ih
  | lose _ hlink hfault halive ih => exact hp.close ih

/-- Every operation of an editor is among what can happen, with what the operation exchanges. -/
theorem Served.operate (hs : Served p h s) (hp : Link.FaultsFatal p) (op : Operation) :
    ∃ es, Served p (h ++ es) (s.perform op) ∧ s.Exchanges op es :=
  of_perform (fun hs ha => hs.act ha) (fun hs => hs.outside (hp.receive (hs.link hp)))
    (fun frame hs halive => hs.frame frame halive)
    (fun hs' hfault halive => hs'.lose (hs.link hp) hfault halive) hs op

/-! ## What is stored -/

/-- A call that is handed over leaves the stored fault alone, or is refused by the link. -/
theorem fatal_send (s : Session σ) (request : Request) (call : Call) :
    (s.send request call).fatal = s.fatal ∨
      ∃ fault, (Link.send call s.link).1 = .error fault ∧
        (s.send request call).fatal = some fault := by
  unfold send
  split
  · exact .inl rfl
  · next fault link hsend => exact .inr ⟨fault, by rw [hsend], rfl⟩

/-- A new session has a fault only if its link refused the first call. -/
private theorem fatal_start (link : σ) (text : String) (settings : Settings) :
    (start link text settings).fatal = none ∨
      ∃ fault, (Link.send .init link).1 = .error fault ∧
        (start link text settings).fatal = some fault :=
  fatal_send _ .init .init

/-- A small step leaves the stored fault alone, or the link has refused a call. -/
private theorem Act.fatal_eq (ha : Act s es t) :
    t.fatal = s.fatal ∨ ∃ call fault,
    (Link.send call s.link).1 = .error fault ∧ t.fatal = some fault := by
  -- what is sent comes with a new document or queue, which the link does not see
  have hsend : ∀ (s' : Session σ) request sent, s'.link = s.link → s'.fatal = s.fatal →
      (s'.send request sent).fatal = s.fatal ∨
        ∃ call fault, (Link.send call s.link).1 = .error fault ∧
          (s'.send request sent).fatal = some fault := by
    intro s' request sent hlink hfatal
    rw [← hlink, ← hfatal]
    exact (fatal_send s' request sent).imp_right fun ⟨fault, hfault⟩ => ⟨sent, fault, hfault⟩
  cases ha with
  | quiet hs => exact .inl hs.fatal
  | order halive horder => exact .inl rfl
  | edit he => exact .inl (fatal_noteEdit ..)
  | round hround =>
    cases hround with
    | send hfree hready hqueue hstep => exact hsend _ _ _ rfl rfl
    | proceed hfree hready hqueue hstep => exact .inl rfl
    | refuse hfree hready hqueue hstep => exact .inl (quiet_refuse _ _).fatal
    | goal hfree hready hqueue hstale => exact hsend _ _ _ rfl rfl
  | status halive hfree => exact hsend _ _ _ rfl rfl
  | close =>
    obtain ⟨-, heq⟩ | ⟨t, rfl | rfl, heq⟩ := close_cases s
    · rw [heq]
      exact .inl rfl
    · rw [heq]
      exact .inl rfl
    · rw [heq]
      exact hsend s _ _ rfl rfl

/-- The stored fault is fatal, or the prover has refused to start and nothing else has been sent or
answered. -/
def Breaks (h : History) (fault : Fault) : Prop :=
  fault.isFatal = true ∨
    ∃ failure, fault = failure.toFault ∧ h.calls = [(.init, .init)] ∧ h.responses = [.fail failure]

/-- A fault that a served session has is one that breaks it. -/
theorem Served.breaks (hs : Served p h s) (hp : Link.FaultsFatal p) {fault : Fault}
    (hfault : s.fatal = some fault) :
    Breaks h fault := by
  induction hs with
  | @start link hlink text settings =>
    rcases fatal_start link text settings with heq | ⟨fault', hsend, heq⟩
    · rw [heq] at hfault
      cases hfault
    · rw [heq] at hfault
      obtain rfl := Option.some.inj hfault
      exact .inl (hp.isFatal_of_send hlink hsend)
  | outside _ hlink ih => exact ih hfault
  | @act h es s t hs ha ih =>
    cases hbefore : s.fatal with
    | some fault' =>
      -- nothing happens to a session that has ended
      have ho := hs.run.orderly
      have hdead : ¬ s.Active := by
        rw [← ho.alive, isAlive_iff, hbefore]
        simp
      obtain ⟨rfl, -, heq, -⟩ := ha.of_ended ho (.of_not_active hdead)
      rw [List.append_nil]
      exact ih (heq ▸ hfault)
    | none =>
      rcases ha.fatal_eq with heq | ⟨call, fault', hsend, heq⟩
      · rw [heq, hbefore] at hfault
        cases hfault
      · rw [heq] at hfault
        obtain rfl := Option.some.inj hfault
        exact .inl (hp.isFatal_of_send (hs.link hp) hsend)
  | @frame h s hs frame halive ih =>
    -- only an answer that cannot be applied leaves a fault behind
    have ho := hs.run.orderly
    rcases s.keeps_or_fails frame with hkeeps | ⟨response, fault', rfl, hresponse, heq⟩
    · rw [hkeeps.fatal, ((isAlive_iff s).1 halive).1] at hfault
      cases hfault
    · rw [heq] at hfault
      obtain rfl := Option.some.inj hfault
      refine (ho.fault_of_handleResponse hresponse).imp_right ?_
      rintro ⟨failure, hslot, rfl, rfl⟩
      obtain ⟨hcalls, hnone⟩ := hs.run.turns.of_init ho (ho.alive.1 halive) hslot
      exact ⟨failure, rfl, by rw [History.calls_received, hcalls],
        by rw [History.responses_response, hnone, List.nil_append]⟩
  | lose _ hlink hreceive halive ih =>
    obtain rfl := Option.some.inj hfault
    exact .inl (hp.isFatal_of_receive hlink hreceive)

/-- What happens to a session over a link whose faults are fatal takes in everything that can be
done with the session. A fault that is ever stored is one of the link or of the protocol, or the
prover has refused to start, which is then all that it has said. No check fails for an answer, for
feedback or for a sentence that is to be sent. -/
theorem Served.breaks_only_on_failure (hs : Served p h s) (hp : Link.FaultsFatal p) :
    (∀ op, ∃ es, Served p (h ++ es) (s.perform op)) ∧
    (∀ fault, s.fatal = some fault → Breaks h fault) ∧ s.Guarded :=
  ⟨fun op => (hs.operate hp op).imp fun _ hes => hes.1, fun _ => hs.breaks hp,
    hs.run.orderly.guarded⟩

/-- The refusal of a prover that cannot start. -/
def unable : Failure :=
  ⟨⟨0⟩, none, "No theories"⟩

/-- Over a channel a prover that refuses to start breaks the session, and has said nothing else. -/
theorem breaks_only_on_failure_of_unable : ∃ (h : History) (s : Session Channel),
    Served Channel.FaultsFatal h s ∧ s.fatal = some (.rejected "No theories" none) ∧
    ¬ unable.toFault.isFatal ∧
      Breaks h unable.toFault ∧ s.Guarded := by
  have hs :=
    (Served.start Channel.faultsFatal_opened "A." .default).frame (.response (.fail unable)) rfl
  obtain ⟨-, hbreaks, hguarded⟩ := hs.breaks_only_on_failure Channel.faultsFatal
  exact ⟨_, _, hs, rfl, Bool.false_ne_true, hbreaks _ rfl, hguarded⟩

end Session

end ProofDesk
