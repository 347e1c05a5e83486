import ProofDesk.Proofs.Session.Answer

/-!
# Sessions at rest

Operations are queued from many places, and only `pump` sends them. A ready session whose slot is
free has sent whatever it had to send (`Pumped`): every operation either pumps or leaves the slot,
the queue and the goals alone (`performs`). So a session is busy exactly while a call waits for its
answer, and polling it in vain changes nothing (`Reachable.rests`).
-/

namespace ProofDesk.Session

variable {σ : Type} {s : Session σ}

/-- The session waits for an answer, or has nothing to send. -/
def Pumped (s : Session σ) : Prop :=
  s.status = .ready → s.request = none → s.queue = [] ∧ s.goalsStale = false

/-- The session takes no notice of what has changed, as far as sending is concerned. -/
theorem Pumped.of_eq {s' : Session σ} (h : s.Pumped) (hstatus : s'.status = s.status)
    (hslot : s'.slot = s.slot)
    (hqueue : s'.queue = s.queue) (hstale : s'.goalsStale = s.goalsStale) : s'.Pumped := by
  intro hready hfree
  rw [← slot_eq_none_iff, hslot, slot_eq_none_iff] at hfree
  rw [hqueue, hstale]
  exact h (hstatus ▸ hready) hfree

/-- While no timeout is reported, nothing changes. -/
theorem checkTimeout_eq_self (h : s.checkTimeout.1 = false) : s.checkTimeout.2 = s := by
  unfold checkTimeout at h ⊢
  split at h
  · rfl
  · split at h
    · next hpatient => rw [if_pos hpatient]
    · simp at h

variable [Link σ]

/-- A call that has been handed over waits for its answer, unless the link has failed. -/
theorem pumped_send (s : Session σ) (request : Request) (call : Call) :
    (s.send request call).Pumped := by
  intro hready hfree
  have hslot := (slot_send (.inr hready)).1
  rw [(slot_eq_none_iff _).2 hfree] at hslot
  exact absurd hslot (by simp)

/-- What pumping comes to, case by case. -/
theorem pump_eq (s : Session σ) :
    s.pump =
      if s.request.isNone ∧ s.status = .ready then
        match s.queue with
        | [] => if s.goalsStale then send { s with goalsStale := false } .goal .goal else s
        | op :: rest =>
          match Navigation.step s.settings.axiomPolicy s.document op rest with
          | .send request call document queue => send { s with document, queue } request call
          | .proceed document queue => pump { s with document, queue }
          | .refuse document fault => pump (refuse { s with document } fault)
      else s := by
  fun_cases pump s with
  | case1 h hq hstale | case2 h hq hstale => simp [h, hq, hstale]
  | case3 h op rest hq request call document queue hstep => simp [h, hq, hstep]
  | case4 h op rest hq document queue hstep => simp [h, hq, hstep]
  | case5 h op rest hq document fault hstep => simp [h, hq, hstep]
  | case6 h => rw [if_neg h]

/-- Once the queue is carried out there is nothing to carry out. -/
theorem pumped_pump (s : Session σ) : s.pump.Pumped := by
  fun_induction pump s with
  | case1 s h hq hstale => exact pumped_send _ _ _
  | case2 s h hq hstale => exact fun _ _ => ⟨hq, by simpa using hstale⟩
  | case3 s h op rest hq request call document queue hstep => exact pumped_send _ _ _
  | case4 s h op rest hq document queue hstep ih => exact ih
  | case5 s h op rest hq document fault hstep ih => exact ih
  | case6 s h =>
    intro hready hfree
    exact absurd ⟨by simp [hfree], hready⟩ h

/-- Where nothing can be sent, sending what can be sent does nothing. -/
theorem Pumped.pump_eq_self (h : s.Pumped) : s.pump = s := by
  rw [pump_eq]
  split
  · next hfree =>
    obtain ⟨hqueue, hstale⟩ := h hfree.2 (by simpa using hfree.1)
    simp [hqueue, hstale]
  · rfl

/-! ## Operations -/

/-- What an operation other than a poll and closing comes to, as far as sending is concerned. -/
inductive Performs (s : Session σ) : Session σ → Prop
  /-- Nothing is asked for that would have to be sent. -/
  | keep {t : Session σ} (hstatus : t.status = s.status) (hslot : t.slot = s.slot)
      (hqueue : t.queue = s.queue) (hstale : t.goalsStale = s.goalsStale) : Performs s t
  /-- Something is queued, and what can be sent is sent. -/
  | pump {t : Session σ} (hstatus : t.status = s.status) (hstale : t.goalsStale = s.goalsStale) :
    Performs s t.pump
  /-- The prover is asked for its status. -/
  | ask : Performs s (s.send .status .status)

theorem Performs.refl (s : Session σ) : Performs s s :=
  .keep rfl rfl rfl rfl

/-- What follows an edit ends with carrying out the queue. -/
theorem performs_afterEdit (s : Session σ) (document : Document) (outcome : Reconciliation) :
    Performs s (afterEdit { s with document } outcome) := by
  unfold Session.afterEdit
  split
  · split
    · exact .keep rfl rfl rfl rfl
    · exact .pump rfl rfl
  · exact .keep rfl rfl rfl rfl

/-- Every operation but polling and closing comes to one of these. -/
theorem performs (s : Session σ) {op : Operation} (hpoll : op ≠ .poll) (hclose : op ≠ .close) :
    Performs s (s.perform op) := by
  have h := does_perform s op
  generalize s.perform op = t at h ⊢
  cases h with
  | keep => exact .refl s
  | order halive horder => exact .pump rfl rfl
  | edit he => exact performs_afterEdit s _ _
  | status => exact .ask
  | poll => exact absurd rfl hpoll
  | close => exact absurd rfl hclose
  | takeNotifications | clearMessages => exact .keep rfl rfl rfl rfl
  | elapse milliseconds =>
    have ha := quiet_elapse s milliseconds
    exact .keep ha.status ha.slot ha.queue ha.goalsStale

/-- Operations leave nothing to carry out where there was nothing. -/
theorem Performs.pumped {t : Session σ} (hp : Performs s t) (h : s.Pumped) : t.Pumped := by
  cases hp with
  | keep hstatus hslot hqueue hstale => exact h.of_eq hstatus hslot hqueue hstale
  | pump => exact pumped_pump _
  | ask => exact pumped_send _ _ _

/-- Every operation pumps, or leaves alone what is still to be sent. -/
theorem Pumped.perform (h : s.Pumped) (op : Operation) : (s.perform op).Pumped := by
  by_cases hpoll : op = .poll
  · subst hpoll
    exact pumped_pump _
  · by_cases hclose : op = .close
    · subst hclose
      intro hready
      rw [Session.perform, status_close] at hready
      simp at hready
    · exact (performs s hpoll hclose).pumped h

/-- No session has anything left to carry out between operations. -/
theorem Reachable.pumped (hr : Reachable s) : s.Pumped := by
  induction hr with
  | start link text settings => exact pumped_send _ _ _
  | outside link _ ih => exact ih.of_eq rfl rfl rfl rfl
  | operate op _ ih => exact ih.perform op

/-- What receiving in vain changes is the link, if the session still listens to it. -/
theorem receive_eq_self (h : s.receive.1 = false) :
    s.receive.2 = { s with link := if s.isAlive then (Link.receive s.link).2 else s.link } := by
  unfold receive at h ⊢
  split at h
  · next halive =>
    dsimp only at h ⊢
    split at h
    · next hfault =>
      -- neither a frame nor a fault has arrived
      simp only [Bool.not_eq_eq_eq_not, Bool.not_false, List.isEmpty_iff] at h
      simp only [if_pos halive, h, handleFrames, List.foldl_nil]
    · simp at h
  · next halive => simp only [if_neg halive]

/-- A session in conversation is busy exactly while a call waits for its answer, and a poll that
reports no change has made none: the session is as it was, and its link is as receiving has left
it. -/
theorem Reachable.rests (hr : Reachable s) :
    (s.Active → (s.isBusy = true ↔ s.request.isSome = true) ∧
      (s.request = none → s.queue = [] ∧ s.goalsStale = false)) ∧
    (s.poll.1 = false →
      s.poll.2 = { s with link := if s.isAlive then (Link.receive s.link).2 else s.link }) := by
  obtain ⟨h, hrun⟩ := hr.exists_run
  have hpumped := hr.pumped
  refine ⟨fun ha => ?_, fun hpoll => ?_⟩
  · have hfree : s.request = none → s.queue = [] ∧ s.goalsStale = false := by
      intro hnone
      -- a session that waits for the prover to start has called it
      have hslot : s.slot ≠ some .init := by simp [(slot_eq_none_iff s).2 hnone]
      exact hpumped (hrun.orderly.ready ha hslot) hnone
    refine ⟨?_, hfree⟩
    cases hrequest : s.request with
    | none => simp [isBusy, hrequest, hfree hrequest]
    | some outstanding => simp [isBusy, hrequest]
  · simp only [poll, Bool.or_eq_false_iff] at hpoll
    obtain ⟨hreceived, htimeout⟩ := hpoll
    have hreceive := receive_eq_self hreceived
    simp only [poll]
    rw [checkTimeout_eq_self htimeout, hreceive]
    exact Pumped.pump_eq_self (hpumped.of_eq rfl rfl rfl rfl)

/-- A channel on which a frame has arrived. -/
def delivering (frame : Inbound) : Channel :=
  { Channel.opened with deliveries := [.ok frame] }

theorem frames_delivering (frame : Inbound) :
    (Link.receive (delivering frame)).1.frames = [frame] := rfl

/-- A session that is ready, on a link that calls have been handed over to, with operations in its
queue. -/
def underway (calls : List Call) (document : Document) (request : Option Request)
    (queue : List Navigation)
    (goalsStale : Bool) (messages : List MessageEntry) : Session Channel :=
  { greeted { Channel.opened with calls } document.text with
    document, request := request.map (⟨·, 0, false⟩), queue, goalsStale, messages }

/-- The first poll finds that the prover has started. -/
private theorem poll_opening :
    (opening (delivering (replyFrame (.init ⟨1⟩))) "A.").poll.2 = greeted Channel.opened "A." := by
  cbv

/-- Going forward sends the only sentence. -/
private theorem forward_greeted : (greeted Channel.opened "A.").forward.2 =
    waiting { Channel.opened with calls := [.add "A." Navigation.noEdit ⟨1⟩ false] } := by
  have hforward : (greeted Channel.opened "A.").forward.2 =
      pump { greeted Channel.opened "A." with queue := [.forward 1] } := by
    cbv
  rw [hforward, pump_eq]
  cbv

/-- Operations lead to a session that waits for the answer to its sentence. -/
theorem reachable_waiting : Reachable (waiting sentCalls) := by
  have hstart : Reachable (opening { Channel.opened with calls := [.init] } "A.") :=
    Reachable.start Channel.opened "A." .default
  have hpolled : Reachable (opening (delivering (replyFrame (.init ⟨1⟩))) "A.").poll.2 :=
    (hstart.outside (delivering (replyFrame (.init ⟨1⟩)))).operate .poll
  rw [poll_opening] at hpolled
  have hordered : Reachable (greeted Channel.opened "A.").forward.2 := hpolled.operate .forward
  rw [forward_greeted] at hordered
  exact hordered.outside sentCalls

/-- A session that has sent its sentence and is polled before the answer. -/
theorem rests_of_waiting : ∃ s : Session Channel, Reachable s ∧ s.Active ∧ s.slot = some (.add 0) ∧
    s.isBusy = true ∧ s.poll.1 = false ∧ s.poll.2 = s := by
  have hvain : (waiting sentCalls).poll.1 = false := by cbv
  obtain ⟨hbusy, hsame⟩ := reachable_waiting.rests
  exact ⟨_, reachable_waiting, .inr rfl, rfl, (hbusy (.inr rfl)).1.2 rfl, hvain, hsame hvain⟩

end ProofDesk.Session
