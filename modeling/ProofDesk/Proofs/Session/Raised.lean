import ProofDesk.Proofs.Session.Run

/-!
# What a session raises

Notifications are raised deep inside operations: where a sentence is refused, where a call waits for
too long, and wherever the session breaks. What an operation does to the link, to the slot and to
the notifications is put together from a few steps, so a relation between sessions that goes along
with these goes along with every operation (`Ledger.perform`). Nothing but taking the notifications
takes one away, and so what operations raise is what they add to those that wait
(`notifications_performAll`).
-/

namespace ProofDesk.Session

variable {σ : Type} [Link σ]

/-- A relation between sessions that goes along with all that is done to the link, to the slot and
to the notifications, except that notifications are taken. -/
structure Ledger (R : Session σ → Session σ → Prop) : Prop where
  trans {s t u : Session σ} (h : R s t) (h' : R t u) : R s u
  /-- Nothing is done to them, or the slot is freed. -/
  keep {s t : Session σ} (hlink : t.link = s.link)
    (hrequest : t.request = s.request ∨ t.request = none)
    (hnotifications : t.notifications = s.notifications) : R s t
  /-- What has arrived is taken from the link. -/
  hear (s : Session σ) : R s { s with link := (Link.receive s.link).2 }
  hangUp (s : Session σ) : R s { s with link := Link.close s.link }
  send (s : Session σ) (request : Request) (call : Call) : R s (s.send request call)
  fail (s : Session σ) (fault : Fault) : R s (s.fail fault)
  block (s : Session σ) (message : String) : R s (s.notify .blocked message)
  checkTimeout (s : Session σ) : R s s.checkTimeout.2
  elapse (s : Session σ) (milliseconds : Nat) : R s (s.elapse milliseconds)

namespace Ledger

variable {R : Session σ → Session σ → Prop} {s t u : Session σ}

/-- The relation goes along with doing nothing. -/
theorem refl (hR : Ledger R) (s : Session σ) : R s s :=
  hR.keep rfl (.inl rfl) rfl

/-- What is not in the ledger makes no difference where the step begins. -/
theorem of_same (hR : Ledger R) (h : R t u) (hlink : t.link = s.link)
    (hrequest : t.request = s.request)
    (hnotifications : t.notifications = s.notifications) : R s u :=
  hR.trans (hR.keep hlink (.inl hrequest) hnotifications) h

/-- The relation goes along with logging a message. -/
theorem log (hR : Ledger R) (s : Session σ) (level : MessageLevel) (text : String) :
    R s (s.log level text) := by
  rw [log_eq]
  exact hR.keep rfl (.inl rfl) rfl

/-- The relation goes along with refusing an operation. -/
theorem refuse (hR : Ledger R) (s : Session σ) (fault : Fault) : R s (s.refuse fault) := by
  have hdrop : R s s.dropAdvances := hR.keep rfl (.inl rfl) rfl
  unfold Session.refuse
  refine hR.trans ?_ (hR.block _ _)
  cases fault with
  | ambiguousSplit offset reason => exact hR.trans hdrop (hR.log ..)
  | _ => exact hdrop

/-- The relation goes along with carrying out the queue. -/
theorem pump (hR : Ledger R) (s : Session σ) : R s s.pump := by
  fun_induction Session.pump s with
  | case1 s h hq hstale => exact hR.of_same (hR.send ..) rfl rfl rfl
  | case2 s h hq hstale => exact hR.refl s
  | case3 s h op rest hq request call document queue hstep =>
    exact hR.of_same (hR.send ..) rfl rfl rfl
  | case4 s h op rest hq document queue hstep ih => exact hR.of_same ih rfl rfl rfl
  | case5 s h op rest hq document fault hstep ih =>
    exact hR.of_same (hR.trans (hR.refuse ..) ih) rfl rfl rfl
  | case6 s h => exact hR.refl s

/-! ### Receiving -/

/-- The relation goes along with taking up a frame. -/
theorem handleFrame (hR : Ledger R) (s : Session σ) (frame : Inbound) :
    R s (s.handleFrame frame) := by
  rcases s.keeps_or_fails frame with hkeeps | ⟨response, fault, -, -, heq⟩
  · exact hR.keep hkeeps.link hkeeps.request hkeeps.notifications
  · rw [heq]
    exact hR.fail s fault

/-- The relation goes along with taking up what has arrived. -/
theorem receive (hR : Ledger R) (s : Session σ) : R s s.receive.2 := by
  refine receive_keep (P := R s) (hR.refl s) (hR.hear s) ?_ ?_
  · exact fun frame _ t ht _ => hR.trans ht (hR.handleFrame t frame)
  · exact fun fault _ t ht _ => hR.trans ht (hR.fail t fault)

/-! ### Operations -/

/-- The relation goes along with what follows an edit. -/
theorem afterEdit (hR : Ledger R) (s : Session σ) (outcome : Reconciliation) :
    R s (s.afterEdit outcome) := by
  unfold Session.afterEdit
  split
  · split
    · exact hR.refl s
    · exact hR.of_same (hR.pump _) rfl rfl rfl
  · exact hR.refl s

/-- The relation goes along with closing. -/
theorem close (hR : Ledger R) (s : Session σ) : R s s.close := by
  obtain ⟨-, heq⟩ | ⟨t, ht, heq⟩ := close_cases s
  · rw [heq]
    exact hR.refl s
  · have hquit : R s t := by
      rcases ht with rfl | rfl
      · exact hR.refl _
      · exact hR.send ..
    rw [heq]
    exact hR.trans (hR.trans hquit (hR.hangUp t)) (hR.keep rfl (.inr rfl) rfl)

/-- What goes along with the steps goes along with every operation, unless notifications are
taken. -/
theorem perform (hR : Ledger R) (s : Session σ) {op : Operation} (hop : op ≠ .takeNotifications) :
    R s (s.perform op) := by
  have h := does_perform s op
  generalize s.perform op = t at h ⊢
  cases h with
  | keep => exact hR.refl s
  | order halive horder => exact hR.of_same (hR.pump _) rfl rfl rfl
  | edit he => exact hR.of_same (hR.afterEdit ..) rfl rfl rfl
  | status => exact hR.send ..
  | poll => exact hR.trans (hR.trans (hR.receive s) (hR.checkTimeout _)) (hR.pump _)
  | close => exact hR.close s
  | takeNotifications => exact absurd rfl hop
  | clearMessages => exact hR.keep rfl (.inl rfl) rfl
  | elapse milliseconds => exact hR.elapse s milliseconds

end Ledger

/-! ## Notifications -/

/-- The notifications that an operation raises. -/
def raisedBy (s : Session σ) (op : Operation) : List Notification :=
  (s.perform op).notifications.drop s.notifications.length

/-- The notifications that operations raise, one after the other. -/
def raised (s : Session σ) : List Operation → List Notification
  | [] => []
  | op :: ops => s.raisedBy op ++ (s.perform op).raised ops

/-- The session after operations. -/
def performAll (s : Session σ) (ops : List Operation) : Session σ :=
  ops.foldl perform s

/-- No step takes away a notification that waits. -/
private theorem ledger_notifications : Ledger fun s t : Session σ =>
    s.notifications <+: t.notifications where
  trans h h' := h.trans h'
  keep _ _ h := h ▸ List.prefix_refl _
  hear _ := List.prefix_refl _
  hangUp _ := List.prefix_refl _
  send s request call := by
    unfold send
    split
    · exact List.prefix_refl _
    · exact List.prefix_append _ _
  fail _ _ := List.prefix_append _ _
  block _ _ := List.prefix_append _ _
  checkTimeout s := by
    unfold checkTimeout
    split
    · exact List.prefix_refl _
    · split
      · exact List.prefix_refl _
      · exact List.prefix_append _ _
  elapse _ _ := List.prefix_refl _

/-- What an operation raises is put behind what waits already. -/
theorem notifications_perform (s : Session σ) {op : Operation} (hop : op ≠ .takeNotifications) :
    (s.perform op).notifications = s.notifications ++ s.raisedBy op := by
  obtain ⟨added, hadded⟩ := ledger_notifications.perform s hop
  rw [raisedBy, ← hadded, List.drop_left]

/-- While nobody takes notifications, all that operations raise waits, in the order in which it was
raised. -/
theorem notifications_performAll (s : Session σ) {ops : List Operation}
    (hops : .takeNotifications ∉ ops) :
    (s.performAll ops).notifications = s.notifications ++ s.raised ops := by
  induction ops generalizing s with
  | nil => exact (List.append_nil _).symm
  | cons op ops ih =>
    rw [List.mem_cons, not_or] at hops
    rw [performAll, List.foldl_cons, ← performAll, ih _ hops.2,
      notifications_perform s (Ne.symm hops.1), raised, List.append_assoc]

end ProofDesk.Session
