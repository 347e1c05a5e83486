import ProofDesk.Proofs.Session.Drift
import ProofDesk.Proofs.Session.Ended
import ProofDesk.Proofs.Session.Rest

/-!
# What a session leaves behind

A session that breaks drops all that it was about: the call that waits for its answer, the queue,
and the goals that it was to ask for. Closing a session drops the call and the queue, and lets the
goals stand as they are. They are due then exactly if they were due behind a call that was never
answered, and as nothing happens to a session that has ended, such a session is busy for good
(`Reachable.idle_of_ended`).
-/

namespace ProofDesk.Session

variable {σ : Type} {s t : Session σ} {h es : History}

/-! ## Ends other than being closed -/

/-- If the session has ended, no goals are due. -/
def Discharged (s : Session σ) : Prop :=
  s.HasEnded → s.goalsStale = false

/-- A session in conversation has not ended. -/
theorem discharged_of_active (ha : s.Active) : s.Discharged :=
  fun he => absurd ha he.not_active

/-- Whether an ended session has goals due depends on its status and on what is due. -/
theorem Discharged.of_eq (hd : s.Discharged) (hstatus : t.status = s.status)
    (hstale : t.goalsStale = s.goalsStale) :
    t.Discharged :=
  fun he => hstale.trans (hd (he.of_eq hstatus.symm))

variable [Link σ]

/-- A session that fails has no goals due. -/
theorem discharged_fail (s : Session σ) (fault : Fault) : (s.fail fault).Discharged :=
  fun _ => rfl

/-- Sending a call leaves an ended session no goals due. -/
theorem Discharged.send (hd : s.Discharged) (request : Request) (call : Call) :
    (s.send request call).Discharged := by
  unfold Session.send
  split
  · exact hd.of_eq rfl rfl
  · exact discharged_fail _ _

/-- Only sessions that are ready send, and where that fails they break. -/
theorem Pumps.discharged (hp : Pumps s t) : t.Discharged := by
  obtain ⟨es, hround⟩ := hp
  cases hround with
  | send hfree hready =>
    refine Discharged.send (discharged_of_active ?_) _ _
    exact .inr hready
  | proceed hfree hready => exact discharged_of_active (.inr hready)
  | refuse hfree hready => exact discharged_of_active (.inr ((quiet_refuse ..).status.trans hready))
  | goal hfree hready =>
    refine Discharged.send (discharged_of_active ?_) _ _
    exact .inr hready

/-- Carrying out the queue leaves an ended session no goals due. -/
theorem Discharged.pump (hd : s.Discharged) : s.pump.Discharged := by
  rcases Relation.ReflTransGen.cases_tail (pumps_pump s) with heq | ⟨t, -, hp⟩
  · rw [heq]
    exact hd
  · exact hp.discharged

/-- A frame breaks the session, or leaves it in conversation. -/
theorem Takes.discharged {frame : Inbound} (ht : Takes s frame t) (ha : s.Active) :
    t.Discharged := by
  have hkept : t.status = s.status → t.Discharged := fun hstatus =>
    discharged_of_active (by rwa [Active, hstatus])
  cases ht with
  | broken fault => exact discharged_fail _ _
  | started hslot hreply hs => exact discharged_of_active (.inr hs.status)
  | admitted | processed => exact hkept rfl
  | accepted _ _ _ hs | refused _ _ hs | acceptedLate _ _ hs | refusedLate _ _ hs =>
    exact hkept hs.status
  | rolledBack _ hs | told _ _ hs | failed _ _ hs | heard hs => exact hkept hs.status

/-- What a session does by itself leaves it no goals due once it has ended. -/
theorem Drift.discharged {ok : Session σ → Inbound → Prop} (ho : s.Orderly) (hs : s.Discharged)
    (hd : Drift ok s t) :
    t.Discharged := by
  cases hd with
  | outside link => exact hs.of_eq rfl rfl
  | quiet ha => exact hs.of_eq ha.status ha.goalsStale
  | pump hp => exact hp.discharged
  | frame halive hok => exact (ho.takes_handleFrame _).discharged (ho.alive.1 halive)
  | lose fault halive => exact discharged_fail _ _

/-- No operation but closing leaves an ended session goals due. -/
theorem Performs.discharged (hp : Performs s t) (hd : s.Discharged) : t.Discharged := by
  cases hp with
  | keep hstatus _ _ hstale => exact hd.of_eq hstatus hstale
  | pump hstatus hstale => exact (hd.of_eq hstatus hstale).pump
  | ask => exact hd.send _ _

/-- However an operation ends a session, no goals are due, unless it is the one that closes it. -/
theorem Discharged.perform (hd : s.Discharged) (hr : Run h s) {op : Operation} (hop : op ≠ .close) :
    (s.perform op).Discharged := by
  by_cases hpoll : op = .poll
  · subst hpoll
    have hdrifts : Drifts (fun _ _ => True) s s.poll.2 := drifts_poll fun _ _ _ _ => trivial
    exact hdrifts.keep hr hd fun hr' hd' hstep => hstep.discharged hr'.orderly hd'
  · exact (performs s hpoll hop).discharged hd

/-! ## Being closed -/

/-- Nothing that happens to a session that has ended changes whether its goals are due. -/
private theorem Follows.goalsStale_of_ended (hf : Follows s es t) (ho : s.Orderly)
    (he : s.HasEnded) :
    t.goalsStale = s.goalsStale := by
  induction hf with
  | refl => rfl
  | move hf hm ih =>
    obtain ⟨-, ho', he', -⟩ := hf.of_ended ho he
    obtain ⟨-, -, -, hstale⟩ := hm.of_ended ho' he'
    exact hstale.trans ih

/-- The goals that are due after a session is closed were due before. -/
private theorem goalsStale_of_close (hstale : s.close.goalsStale = true) : s.goalsStale = true := by
  obtain ⟨-, heq⟩ | ⟨t, rfl | rfl, heq⟩ := close_cases s
  · rwa [heq] at hstale
  · rwa [heq] at hstale
  · rw [heq] at hstale
    dsimp only at hstale
    unfold send at hstale
    split at hstale
    · exact hstale
    · simp [fail] at hstale

/-- A session that waits for an answer is closed without a word to its prover. -/
private theorem close_of_request (ha : s.Active) (hrequest : s.request.isSome = true) :
    s.close = { s with
      queue := [], request := none, status := .closed, link := Link.close s.link } := by
  have hopen : s.status ≠ .closed := fun h => HasEnded.not_active (.inr h) ha
  have hasked : ¬ (s.fatal.isNone ∧ s.request.isNone) := by
    rw [Option.isSome_iff_ne_none] at hrequest
    simp [hrequest]
  rw [Session.close, if_neg hopen, if_neg hasked]

/-- The session has been closed while it waited for an answer and had to ask for its goals behind
that. Nothing has been sent or received since. -/
def LeftDue (s : Session σ) : Prop :=
  ∃ t, Reachable t ∧ t.Active ∧ t.request.isSome = true ∧ t.goalsStale = true ∧ Follows t.close [] s

/-- A session that was left so owes its goals for good, and is not broken. -/
theorem LeftDue.stale (hl : s.LeftDue) : s.goalsStale = true ∧ s.status ≠ .broken := by
  obtain ⟨t, hreach, ha, hrequest, hstale, hf⟩ := hl
  obtain ⟨h, hr⟩ := hreach.exists_run
  have hclosed : t.close.HasEnded := .inr (status_close t)
  obtain ⟨-, ho, -, hfatal⟩ := hf.of_ended hr.orderly.close hclosed
  rw [hf.goalsStale_of_ended hr.orderly.close hclosed]
  rw [close_of_request ha hrequest] at hfatal ⊢
  refine ⟨hstale, fun hbroken => ?_⟩
  -- a session that is broken knows a fault, and this one had none when it was closed
  have hsome := ho.fatal_isSome hbroken
  rw [hfatal, hr.orderly.fatal_eq_none ha] at hsome
  simp at hsome

/-- A session that was left with goals due stays so, whatever is asked of it. -/
theorem LeftDue.operate (hl : s.LeftDue) (op : Operation) : (s.perform op).LeftDue := by
  obtain ⟨t, hreach, ha, hrequest, hstale, hf⟩ := hl
  obtain ⟨h, hr⟩ := hreach.exists_run
  obtain ⟨es, hes, -⟩ := hf.operate op
  -- nothing passes any more
  obtain ⟨hnil, -⟩ := hes.of_ended hr.orderly.close (.inr (status_close t))
  rw [hnil] at hes
  exact ⟨t, hreach, ha, hrequest, hstale, hes⟩

/-- Closing a session leaves its goals due only if they are due behind an answer. -/
theorem Discharged.close (hd : s.Discharged) (hr : Reachable s) (hl : ¬ s.close.LeftDue) :
    s.close.Discharged := by
  intro _
  by_contra hdue
  have hstale := goalsStale_of_close (Bool.eq_true_of_not_eq_false hdue)
  have ha : s.Active := by
    by_contra hended
    exact absurd (hd (.of_not_active hended)) (by simp [hstale])
  cases hrequest : s.request with
  -- a session that waits for nothing has asked for its goals already
  | none => exact absurd ((hr.rests.1 ha).2 hrequest).2 (by simp [hstale])
  | some outstanding => exact hl ⟨s, hr, ha, by simp [hrequest], hstale, .refl _⟩

/-! ## All sessions -/

/-- An ended session has no goals due unless it was closed too early. -/
theorem Reachable.discharged_or (hr : Reachable s) : s.Discharged ∨ s.LeftDue := by
  induction hr with
  | start link text settings => exact .inl ((discharged_of_active (.inl rfl)).send _ _)
  | outside link _ ih =>
    refine ih.imp (fun hd => hd.of_eq rfl rfl) ?_
    rintro ⟨t, hreach, ha, hrequest, hstale, hf⟩
    exact ⟨t, hreach, ha, hrequest, hstale, hf.silent (.outside link)⟩
  | operate op hr ih =>
    -- once a refresh has been left due by closing, nothing takes it up again
    rcases ih with hd | hl
    · by_cases hop : op = .close
      · subst hop
        exact or_iff_not_imp_right.2 (hd.close hr)
      · obtain ⟨h, hrun⟩ := hr.exists_run
        exact .inl (hd.perform hrun hop)
    · exact .inr (hl.operate op)

/-- However a session has ended, no call waits for its answer and nothing is queued. A session that
broke is idle. One that was closed is idle unless its goals were left due behind an answer. -/
theorem Reachable.idle_of_ended (hr : Reachable s) (he : s.HasEnded) :
    s.request = none ∧ s.queue = [] ∧ (s.status = .broken → s.isBusy = false) ∧
    (s.isBusy = true ↔ s.LeftDue) := by
  obtain ⟨h, hrun⟩ := hr.exists_run
  obtain ⟨hslot, hqueue⟩ := hrun.orderly.idle he.not_active
  have hfree := (slot_eq_none_iff s).1 hslot
  have hbusy : s.isBusy = s.goalsStale := by simp [isBusy, hfree, hqueue]
  have hiff : s.goalsStale = true ↔ s.LeftDue := by
    refine ⟨fun hstale => hr.discharged_or.resolve_left fun hd => ?_, fun hl => hl.stale.1⟩
    exact absurd (hd he) (by simp [hstale])
  refine ⟨hfree, hqueue, fun hbroken => ?_, hbusy ▸ hiff⟩
  rw [hbusy, ← Bool.not_eq_true, hiff]
  exact fun hl => hl.stale.2 hbroken

/-- A session whose sentence is accepted when its editor has already asked to take it back. -/
def regretted : Session Channel :=
  let asked := (waiting sentCalls).perform .backward
  Session.perform { asked with link := delivering (replyFrame (.add ⟨2⟩ none "")) } .poll

/-- Taking back the only sentence leaves goals due, behind the call that takes it back. -/
theorem regretted_eq :
    regretted = underway [.editAt ⟨1⟩] acceptedText (some (.editAt 0)) [] true [] := by
  cbv

/-- Operations lead to the session whose only sentence is taken back. -/
theorem reachable_regretted : Reachable regretted :=
  ((reachable_waiting.operate .backward).outside _).operate .poll

/-- Closed before its sentence is taken back, the session waits for nothing, has nothing queued, and
is busy. -/
theorem idle_of_ended_of_regretted : Reachable regretted.close ∧ regretted.close.HasEnded ∧
    regretted.close.request = none ∧ regretted.close.queue = [] ∧
    regretted.close.isBusy = true := by
  have hended : regretted.close.HasEnded := .inr (status_close _)
  have hclosed : Reachable regretted.close := reachable_regretted.operate .close
  obtain ⟨hfree, hqueue, -, hbusy⟩ := hclosed.idle_of_ended hended
  refine ⟨hclosed, hended, hfree, hqueue, hbusy.2 ⟨regretted, reachable_regretted, ?_⟩⟩
  rw [regretted_eq]
  exact ⟨.inr rfl, rfl, rfl, .refl _⟩

/-- A session that has been closed can be busy. -/
theorem exists_busy :
    ∃ s : Session Channel, Reachable s ∧ s.status = .closed ∧ s.isBusy = true := by
  refine ⟨regretted.close, reachable_regretted.operate .close, status_close _, ?_⟩
  rw [regretted_eq]
  rfl

end ProofDesk.Session
