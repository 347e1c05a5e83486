import Mathlib.Data.List.Basic
import Mathlib.Tactic.Common
import ProofDesk.Prover.Channel

/-!
# The faults of links

A link fails in one of two ways: the connection is lost, or the prover sends what the protocol does
not allow. Both are fatal. A channel never delivers another fault, whatever becomes of it
(`Channel.FaultsFatal.move`), so it is a link whose own faults are fatal (`Channel.faultsFatal`).
-/

namespace ProofDesk

/-- In the states `p`, which the session's side of a link does not leave, the faults of the link are
fatal. -/
structure Link.FaultsFatal {σ : Type} [Link σ] (p : σ → Prop) : Prop where
  send : ∀ {link : σ} (call : Call), p link → p (Link.send call link).2
  receive : ∀ {link : σ}, p link → p (Link.receive link).2
  close : ∀ {link : σ}, p link → p (Link.close link)
  isFatal_of_send : ∀ {link : σ} {call : Call} {fault : Fault}, p link →
    (Link.send call link).1 = .error fault →
    fault.isFatal = true
  isFatal_of_receive : ∀ {link : σ} {fault : Fault}, p link →
    (Link.receive link).1.fault = some fault →
    fault.isFatal = true

namespace Frame

/-- What cannot be read is what the protocol does not allow. -/
theorem isFatal_of_pull {buffer : List UInt8} {fault : Fault}
    (h : (pull buffer).outcome = .error fault) :
    fault.isFatal = true := by
  fun_induction pull buffer with
  | case1 | case3 =>
    obtain rfl := Except.error.inj h
    rfl
  | case2 | case4 => cases h
  | case5 _ _ _ _ _ ih => exact ih h

/-- Whatever is wrong with bytes that arrive breaks the connection. -/
theorem isFatal_of_drain {buffer : List UInt8} {fault : Fault}
    (h : (drain buffer).fault = some fault) :
    fault.isFatal = true := by
  fun_induction drain buffer with
  | case1 buffer fault' hpull =>
    obtain rfl := Option.some.inj h
    exact isFatal_of_pull hpull
  | case2 => cases h
  | case3 _ _ _ _ ih => exact ih h

/-- Whatever is wrong with the last bytes breaks the connection. -/
private theorem isFatal_of_drainLast {buffer : List UInt8} {fault : Fault}
    (h : (drainLast buffer).fault = some fault) :
    fault.isFatal = true := by
  unfold drainLast at h
  dsimp only at h
  split at h
  · obtain rfl := Option.some.inj h
    rfl
  · exact isFatal_of_drain h

end Frame

/-- The fault that a session receives has been delivered. -/
theorem Arrivals.mem_of_fault_ofDeliveries {ds : List Delivery} {fault : Fault}
    (h : (Arrivals.ofDeliveries ds).fault = some fault) : .error fault ∈ ds := by
  induction ds with
  | nil => cases h
  | cons d ds ih =>
    cases d with
    | ok frame => exact List.mem_cons_of_mem _ (ih h)
    | error fault' =>
      obtain rfl := Option.some.inj h
      exact List.mem_cons_self

namespace Channel

/-- What becomes of a channel, on the prover's side or on the session's. -/
inductive Moves : Channel → Channel → Prop
  | writeNext (c : Channel) : Moves c c.writeNext.2
  | writeAll (c : Channel) : Moves c c.writeAll.2
  | writeCut (c : Channel) (taken : Nat) : Moves c (c.writeCut taken).2
  | arrive (c : Channel) (bs : List UInt8) : Moves c (c.arrive bs)
  | readNext (c : Channel) : Moves c c.readNext
  | readAll (c : Channel) : Moves c c.readAll
  | readLast (c : Channel) : Moves c c.readLast
  | readCut (c : Channel) : Moves c c.readCut
  | send (c : Channel) (call : Call) : Moves c (c.send call).2
  | tryReceive (c : Channel) : Moves c c.tryReceive.2
  | receive (c : Channel) : Moves c c.receive.2
  | close (c : Channel) : Moves c c.close

/-- Every fault that has been delivered is fatal. -/
def FaultsFatal (c : Channel) : Prop :=
  ∀ fault, .error fault ∈ c.deliveries → fault.isFatal = true

/-- Nothing is wrong on a new channel. -/
theorem faultsFatal_opened : opened.FaultsFatal := by
  intro fault hfault
  cases hfault

variable {c c' : Channel}

/-- Fewer deliveries bring no other faults. -/
theorem FaultsFatal.of_subset (h : c.FaultsFatal) (hsub : c'.deliveries ⊆ c.deliveries) :
    c'.FaultsFatal :=
  fun fault hfault => h fault (hsub hfault)

/-- What is delivered besides. -/
theorem FaultsFatal.of_append (h : c.FaultsFatal) {ds : List Delivery}
    (heq : c'.deliveries = c.deliveries ++ ds)
    (hds : ∀ fault, .error fault ∈ ds → fault.isFatal = true) : c'.FaultsFatal := by
  intro fault hfault
  rw [heq, List.mem_append] at hfault
  exact hfault.elim (h fault) (hds fault)

/-- A fault that is delivered comes from what was read. -/
theorem isFatal_of_drained {d : Frame.Drained}
    (hd : ∀ fault, d.fault = some fault → fault.isFatal = true)
    (fault : Fault) (hfault : .error fault ∈ drained d) : fault.isFatal = true := by
  simp only [drained, List.mem_append, List.mem_map, reduceCtorEq, and_false, exists_false,
    Option.mem_toList, Except.error.injEq, exists_eq_right, false_or] at hfault
  exact hd fault hfault

/-- Whatever becomes of a channel, it delivers no other faults. -/
theorem FaultsFatal.move (h : c.FaultsFatal) (hm : Moves c c') : c'.FaultsFatal := by
  cases hm with
  | writeNext =>
    unfold writeNext
    split <;> exact h
  | writeAll => exact h
  | writeCut taken =>
    unfold writeCut
    split
    · exact h
    · exact h.of_append rfl (by simp [Fault.isFatal])
  | arrive bs => exact h
  | readNext =>
    unfold readNext
    split
    · dsimp only
      split
      · exact h
      · exact h.of_append rfl (by simp)
      · next fault hpull =>
        refine h.of_append rfl fun fault' hfault => ?_
        obtain rfl := Except.error.inj (List.mem_singleton.1 hfault)
        exact Frame.isFatal_of_pull hpull
    · exact h
  | readAll =>
    unfold readAll
    split
    · exact h.of_append rfl (isFatal_of_drained fun _ => Frame.isFatal_of_drain)
    · exact h
  | readLast =>
    unfold readLast
    split
    · refine h.of_append rfl (isFatal_of_drained fun fault hfault => ?_)
      -- a stream that ends without a fault is a connection that is lost
      cases hlast : (Frame.drainLast c.buffer).fault with
      | none =>
        rw [hlast] at hfault
        obtain rfl := Option.some.inj hfault
        rfl
      | some fault' =>
        rw [hlast] at hfault
        obtain rfl := Option.some.inj hfault
        exact Frame.isFatal_of_drainLast hlast
    · exact h
  | readCut =>
    unfold readCut
    split
    · exact h.of_append rfl (by simp [Fault.isFatal])
    · exact h
  | send call =>
    unfold send
    split <;> exact h
  | tryReceive =>
    unfold tryReceive
    split
    · exact h
    · split
      · exact h
      · next hdeliveries => exact h.of_subset (hdeliveries ▸ List.subset_cons_self _ _)
      · next hdeliveries => exact h.of_subset (hdeliveries ▸ List.subset_cons_self _ _)
  | receive =>
    unfold receive
    split
    · exact h
    · exact h.of_subset (List.nil_subset _)
  | close => exact h

/-- The faults of a channel are fatal, in whatever state it is. -/
theorem faultsFatal : Link.FaultsFatal FaultsFatal where
  send call h := h.move (.send _ call)
  receive h := h.move (.receive _)
  close h := h.move (.close _)
  isFatal_of_send := by
    intro c call fault _ hsend
    change (Channel.send call c).1 = .error fault at hsend
    unfold Channel.send at hsend
    split at hsend
    · obtain rfl := Except.error.inj hsend
      rfl
    · cases hsend
  isFatal_of_receive := by
    intro c fault h hreceive
    change (Channel.receive c).1.fault = some fault at hreceive
    unfold Channel.receive at hreceive
    split at hreceive
    · obtain rfl := Option.some.inj hreceive
      rfl
    · -- a fault that is received was queued by the reader or the writer
      exact h fault (Arrivals.mem_of_fault_ofDeliveries hreceive)

end Channel

end ProofDesk
