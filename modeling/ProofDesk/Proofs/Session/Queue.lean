import ProofDesk.Proofs.Document.Coherent
import ProofDesk.Proofs.Session.Run
import ProofDesk.Proofs.Session.Step

/-!
# What waits in the queue

A queue holds at most one rollback, and that names a sentence that has been sent (`Tidy`). While
sentences are doomed, the rollback that discards them is outstanding or comes next (`RollsBack`):
what an editor asks for goes behind it, and what is cancelled is never it.
-/

namespace ProofDesk

namespace Navigation

/-- A queue has a new operation at its end, which may have swallowed the one that was there. -/
theorem enqueue_eq (op : Navigation) (merge : Navigation → Option Navigation)
    (queue : List Navigation) :
    enqueue op merge queue = queue ++ [op] ∨
      ∃ last joined, queue.getLast? = some last ∧ merge last = some joined ∧
        enqueue op merge queue = queue.dropLast ++ [joined] := by
  unfold enqueue
  split
  · next joined hjoined =>
    obtain ⟨last, hlast, hmerge⟩ := Option.bind_eq_some_iff.1 hjoined
    exact .inr ⟨last, joined, hlast, hmerge, rfl⟩
  · exact .inl rfl

end Navigation

namespace Session

/-- A part of a queue that has all its rollbacks, with the one in front still there. -/
structure KeepsRollbacks (queue part : List Navigation) : Prop where
  sublist : part.Sublist queue
  rollbacks : part.filter (·.isRewind) = queue.filter (·.isRewind)
  head : ∀ id, queue.head? = some (.rewind id) → part.head? = some (.rewind id)

theorem KeepsRollbacks.refl (queue : List Navigation) : KeepsRollbacks queue queue :=
  ⟨List.Sublist.refl _, rfl, fun _ h => h⟩

/-- The last operation may go if it is no rollback. -/
theorem keepsRollbacks_dropLast {queue : List Navigation} {last : Navigation}
    (hlast : queue.getLast? = some last)
    (hop : last.isRewind = false) : KeepsRollbacks queue queue.dropLast := by
  obtain ⟨front, rfl⟩ := List.getLast?_eq_some_iff.1 hlast
  rw [List.dropLast_concat]
  refine ⟨List.sublist_append_left _ _, by simp [hop], fun id hid => ?_⟩
  -- a queue that held nothing else had no rollback in front
  cases front with
  | nil =>
    simp only [List.nil_append, List.head?_cons, Option.some.injEq] at hid
    rw [hid] at hop
    exact absurd hop (by simp [Navigation.isRewind])
  | cons op ops => exact hid

/-- Dropping all but rollbacks keeps the rollbacks. -/
theorem keepsRollbacks_filter (queue : List Navigation) :
    KeepsRollbacks queue (queue.filter (·.isRewind)) := by
  refine ⟨List.filter_sublist, by simp, fun id hid => ?_⟩
  cases queue with
  | nil => simp at hid
  | cons op rest =>
    simp only [List.head?_cons, Option.some.injEq] at hid
    subst hid
    rfl

/-- What an editor asks for goes behind the rollbacks, which all stay. -/
theorem Orders.exists_eq {queue queue' : List Navigation} (h : Orders queue queue') :
    ∃ front op, queue' = front ++ [op] ∧ op.isRewind = false ∧ op ≠ .backward 0 ∧
      KeepsRollbacks queue front := by
  cases h with
  | forward =>
    -- either it is put behind the others, or the last one takes it in
    rcases Navigation.enqueue_eq (.forward 1) _ queue with heq | ⟨last, joined, hlast, hmerge, heq⟩
    · exact ⟨queue, .forward 1, heq, rfl, by simp, .refl queue⟩
    · cases last with
      | forward n =>
        simp only [Option.some.injEq] at hmerge
        subst hmerge
        exact ⟨_, .forward (n + 1), heq, rfl, by simp, keepsRollbacks_dropLast hlast rfl⟩
      | _ => simp at hmerge
  | backward =>
    rcases Navigation.enqueue_eq (.backward 1) _ queue with heq | ⟨last, joined, hlast, hmerge, heq⟩
    · exact ⟨queue, .backward 1, heq, rfl, by simp, .refl queue⟩
    · cases last with
      | backward n =>
        simp only [Option.some.injEq] at hmerge
        subst hmerge
        exact ⟨_, .backward (n + 1), heq, rfl, by simp, keepsRollbacks_dropLast hlast rfl⟩
      | _ => simp at hmerge
  | toCursor offset => exact ⟨_, .cursor offset, rfl, rfl, by simp, keepsRollbacks_filter queue⟩

/-- A queue as operations leave it. -/
structure Tidy (d : Document) (queue : List Navigation) : Prop where
  /-- Taking nothing back is no operation. -/
  positive : .backward 0 ∉ queue
  rewinds : (queue.filter (·.isRewind)).length ≤ 1
  spent : ∀ id, .rewind id ∈ queue → d.Spent id

namespace Tidy

variable {d d' : Document} {queue queue' : List Navigation}

/-- An empty queue is tidy. -/
theorem nil (d : Document) : Tidy d [] :=
  ⟨by simp, by simp, by simp⟩

/-- A tidy queue stays so when operations leave it. -/
theorem of_sublist (h : Tidy d queue) (hsub : queue'.Sublist queue) : Tidy d queue' :=
  ⟨fun hmem => h.positive (hsub.subset hmem), Nat.le_trans (hsub.filter _).length_le h.rewinds,
    fun id hmem => h.spent id (hsub.subset hmem)⟩

/-- A queue stays tidy while identifiers that were used stay so. -/
theorem of_spent (h : Tidy d queue) (hs : ∀ id, d.Spent id → d'.Spent id) : Tidy d' queue :=
  ⟨h.positive, h.rewinds, fun id hmem => hs id (h.spent id hmem)⟩

/-- A tidy queue stays so when what goes forward is dropped. -/
theorem dropAdvances (h : Tidy d queue) : Tidy d (Navigation.dropAdvances queue) :=
  h.of_sublist List.filter_sublist

/-- A tidy queue stays so when navigation joins it. -/
theorem orders (h : Tidy d queue) (ho : Orders queue queue') : Tidy d queue' := by
  obtain ⟨front, op, rfl, hop, hpos, hkeeps⟩ := ho.exists_eq
  refine ⟨?_, ?_, fun id hmem => ?_⟩
  · rw [List.mem_append, List.mem_singleton, not_or]
    exact ⟨fun hmem => h.positive (hkeeps.sublist.subset hmem), fun he => hpos he.symm⟩
  · rw [List.filter_append, hkeeps.rollbacks]
    simpa [hop] using h.rewinds
  · rcases List.mem_append.1 hmem with hmem | hmem
    · exact h.spent id (hkeeps.sublist.subset hmem)
    · rw [← List.mem_singleton.1 hmem] at hop
      exact absurd hop (by simp [Navigation.isRewind])

/-- No operation of a tidy queue goes back by nothing. -/
theorem ne_backward_zero {op : Navigation} {rest : List Navigation} (h : Tidy d (op :: rest)) :
    op ≠ .backward 0 :=
  fun he => h.positive (he ▸ List.mem_cons_self)

/-- What is left of an operation takes its place. -/
theorem remaining {op : Navigation} {rest : List Navigation} (h : Tidy d (op :: rest)) :
    Tidy d (op.remaining ++ rest) := by
  have hrest := h.of_sublist (List.sublist_cons_self op rest)
  refine ⟨?_, ?_, fun id hmem => ?_⟩
  · rw [List.mem_append, not_or]
    exact ⟨fun hmem => (Navigation.advances_of_mem_remaining hmem).2 0 rfl, hrest.positive⟩
  -- what is left of an operation is never a rollback
  · have hnone : op.remaining.filter (·.isRewind) = [] := by
      rw [List.filter_eq_nil_iff]
      intro op' hmem
      simp [(Navigation.advances_of_mem_remaining hmem).1]
    rw [List.filter_append, hnone, List.nil_append]
    exact hrest.rewinds
  · rcases List.mem_append.1 hmem with hmem | hmem
    · have hfalse := (Navigation.advances_of_mem_remaining hmem).1
      simp [Navigation.isRewind] at hfalse
    · exact hrest.spent id hmem

/-- A rollback replaces an earlier one. -/
theorem rewind (h : Tidy d queue) {id : SentenceId} (hs : d.Spent id) :
    Tidy d (.rewind id :: queue.filter (!·.isRewind)) := by
  refine ⟨?_, ?_, fun id' hmem => ?_⟩
  · rw [List.mem_cons, not_or]
    exact ⟨by simp, fun hmem => h.positive (List.mem_of_mem_filter hmem)⟩
  -- the earlier rollback has been taken out
  · have hnone : (queue.filter (!·.isRewind)).filter (·.isRewind) = [] := by
      rw [List.filter_eq_nil_iff]
      intro op hmem
      simpa using (List.mem_filter.1 hmem).2
    rw [List.filter_cons, hnone]
    simp [Navigation.isRewind]
  · rcases List.mem_cons.1 hmem with heq | hmem
    · simp only [Navigation.rewind.injEq] at heq
      rw [heq]
      exact hs
    · exact h.spent id' (List.mem_of_mem_filter hmem)

/-- The operation in front goes back to a sentence that has been sent. -/
theorem lt_locked (hn : d.Numbered) {op : Navigation} {rest : List Navigation}
    (h : Tidy d (op :: rest)) {index : Nat}
    (hindex : Navigation.GoesBackTo d op index) : index < d.locked := by
  have hlive := d.length_live_le
  cases op with
  | forward n => exact hindex.elim
  | cursor offset =>
    obtain ⟨hlt, -⟩ := List.findIdx?_eq_some_iff_getElem.1 hindex
    omega
  | backward n =>
    obtain ⟨hne, rfl⟩ := hindex
    -- something is taken back, so the position is in front of the end
    have hpos : 0 < d.live.length := List.length_pos_iff.2 hne
    have hn : n ≠ 0 := fun hn => h.positive (hn ▸ List.mem_cons_self)
    omega
  | rewind id =>
    -- the identifier is spent, so the sentence that has it has been sent
    obtain ⟨x, hx, rfl⟩ := Document.exists_of_indexOf? hindex
    obtain ⟨i, y, hy, hid⟩ :=
      (h.spent x.id List.mem_cons_self).mem_trail (Document.mem_ids_of_getElem? hx)
    have hi := Document.lt_locked_of_sent hy
    have hfound := hn.indexOf? ((Document.getElem?_sentences_of_lt hi).trans hy)
    rw [hid] at hfound
    rw [Navigation.GoesBackTo, hfound, Option.some.injEq] at hindex
    omega

end Tidy

/-- Of the sentences `ids` that have been sent the first `live` are live, and a rollback to the
first doomed one, or to one in front of it, is outstanding or comes next. -/
def RollsBack (ids : List SentenceId) (live : Nat) (slot : Option Request)
    (queue : List Navigation) : Prop :=
  (∃ index id, index ≤ live ∧ ids[index]? = some id ∧ slot = some (.editAt id)) ∨
    ∃ id, ids[live]? = some id ∧ queue.head? = some (.rewind id)

namespace RollsBack

variable {ids : List SentenceId} {live : Nat} {slot : Option Request}
  {queue queue' : List Navigation}

/-- A rollback that is not outstanding comes next. -/
theorem head (h : RollsBack ids live slot queue) (hslot : ∀ id, slot ≠ some (.editAt id)) :
    ∃ id, ids[live]? = some id ∧ queue.head? = some (.rewind id) := by
  rcases h with ⟨index, id, -, -, heq⟩ | h
  · exact absurd heq (hslot id)
  · exact h

/-- A rollback still comes next when the slot changes. -/
theorem of_head (h : RollsBack ids live slot queue) (hslot : ∀ id, slot ≠ some (.editAt id))
    (slot' : Option Request) : RollsBack ids live slot' queue :=
  .inr (h.head hslot)

/-- A rollback comes first as long as the queue begins with the same one. -/
theorem of_queue (h : RollsBack ids live slot queue)
    (hqueue : ∀ id, queue.head? = some (.rewind id) → queue'.head? = some (.rewind id)) :
    RollsBack ids live slot queue' := by
  rcases h with h | ⟨id, hid, hhead⟩
  · exact .inl h
  · exact .inr ⟨id, hid, hqueue id hhead⟩

/-- Discarding sentences behind the first doomed one makes no difference. -/
theorem take (h : RollsBack ids live slot queue) {n : Nat} (hn : live < n) :
    RollsBack (ids.take n) live slot queue := by
  rcases h with ⟨index, id, hle, hid, hslot⟩ | ⟨id, hid, hhead⟩
  · exact .inl ⟨index, id, hle, by rw [List.getElem?_take_of_lt (by omega)]; exact hid, hslot⟩
  · exact .inr ⟨id, by rw [List.getElem?_take_of_lt hn]; exact hid, hhead⟩

end RollsBack

/-- What is cancelled is never the rollback that comes next. -/
theorem head?_dropAdvances {queue : List Navigation} {id : SentenceId}
    (h : queue.head? = some (.rewind id)) :
    (Navigation.dropAdvances queue).head? = some (.rewind id) := by
  cases queue with
  | nil => simp at h
  | cons op rest =>
    simp only [List.head?_cons, Option.some.injEq] at h
    subst h
    rfl

/-- What an editor asks for does not come before a rollback. -/
theorem Orders.head? {queue queue' : List Navigation} (h : Orders queue queue') {id : SentenceId}
    (hid : queue.head? = some (.rewind id)) : queue'.head? = some (.rewind id) := by
  obtain ⟨front, op, rfl, -, -, hkeeps⟩ := h.exists_eq
  rw [List.head?_append, hkeeps.head id hid]
  rfl

end Session

end ProofDesk
