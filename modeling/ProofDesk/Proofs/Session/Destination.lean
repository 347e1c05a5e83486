import ProofDesk.Proofs.Session.Blocking
import ProofDesk.Proofs.Session.Splitting

/-!
# Where queued operations lead

A queued operation leaves a number of sentences locked, which depends only on how many are locked
before it (`Navigation.leads`). Joining operations does not change where they lead, and a step of
the navigation does part of the way, or has nothing left to do: on a text that can be split, and
while no sentence is in error, it is never refused (`step_ne_refuse`), and it goes on without a call
only where it has arrived (`leads_of_step_proceed`).
-/

namespace ProofDesk

namespace Navigation

variable {spans : List Span} {queue : List Navigation} {k : Nat}

/-- How many sentences a queued operation leaves locked, where `m` are locked before. -/
def leads (spans : List Span) (m : Nat) : Navigation → Nat
  | forward n => min (m + n) spans.length
  | cursor offset => spans.countP (·.stop ≤ offset)
  | backward n => m - n
  | rewind _ => m

/-- One more sentence to send is one more, whether or not it is joined with what is queued. -/
theorem foldl_enqueueForward (spans : List Span) (queue : List Navigation) (k : Nat) :
    (enqueueForward queue).foldl (leads spans) k =
      min (queue.foldl (leads spans) k + 1) spans.length := by
  rcases enqueue_eq (forward 1) _ queue with heq | ⟨last, joined, hlast, hmerge, heq⟩
  · rw [enqueueForward, heq, List.foldl_append]
    rfl
  · cases last with
    | forward n =>
      simp only [Option.some.injEq] at hmerge
      obtain ⟨front, rfl⟩ := List.getLast?_eq_some_iff.1 hlast
      rw [enqueueForward, heq, ← hmerge, List.dropLast_concat, List.foldl_append, List.foldl_append]
      simp only [List.foldl_cons, List.foldl_nil, leads]
      omega
    | _ => simp at hmerge

/-- One more sentence to take back is one more, whether or not it is joined with what is queued. -/
theorem foldl_enqueueBackward (spans : List Span) (queue : List Navigation) (k : Nat) :
    (enqueueBackward queue).foldl (leads spans) k = queue.foldl (leads spans) k - 1 := by
  rcases enqueue_eq (backward 1) _ queue with heq | ⟨last, joined, hlast, hmerge, heq⟩
  · rw [enqueueBackward, heq, List.foldl_append]
    rfl
  · cases last with
    | backward n =>
      simp only [Option.some.injEq] at hmerge
      obtain ⟨front, rfl⟩ := List.getLast?_eq_some_iff.1 hlast
      rw [enqueueBackward, heq, ← hmerge, List.dropLast_concat, List.foldl_append,
        List.foldl_append]
      simp only [List.foldl_cons, List.foldl_nil, leads]
      omega
    | _ => simp at hmerge

/-- Where nothing is locked and nothing may be sent, nothing will be locked. -/
theorem foldl_leads_zero (h : queue.any (·.advances) = false) :
    queue.foldl (leads spans) 0 = 0 := by
  induction queue with
  | nil => rfl
  | cons op rest ih =>
    rw [List.any_cons, Bool.or_eq_false_iff] at h
    have hop : leads spans 0 op = 0 := by
      cases op with
      | forward n | cursor offset => simp [advances] at h
      | backward n => exact Nat.zero_sub n
      | rewind id => rfl
    rw [List.foldl_cons, hop]
    exact ih h.2

/-- Sending a sentence is part of what an operation leads to. -/
theorem foldl_remaining_succ {op : Navigation} (hop : op.advances = true) (hpos : op ≠ forward 0)
    (hk : k + 1 ≤ spans.length) : op.remaining.foldl (leads spans) (k + 1) = leads spans k op := by
  cases op with
  | forward n =>
    rcases n with - | - | n
    · exact absurd rfl hpos
    · exact (Nat.min_eq_left hk).symm
    · simp only [remaining, List.foldl_cons, List.foldl_nil, leads]
      omega
  | cursor offset => rfl
  | backward n | rewind id => simp [advances] at hop

/-- Going back is all or part of what an operation leads to. -/
theorem foldl_remaining_goesBackTo {d : Document} {op : Navigation} {index : Nat}
    (h : GoesBackTo d op index) (hop : op.isRewind = false) :
    op.remaining.foldl (leads spans) index = leads spans d.live.length op := by
  cases op with
  | forward n => exact h.elim
  | cursor offset => rfl
  | backward n => exact h.2
  | rewind id => simp [isRewind] at hop

end Navigation

/-! ## Documents of a text that can be split -/

namespace Document

variable {d d₁ : Document} {spans : List Span}

/-- Discarding from a sentence on leaves the live ones in front of it. -/
theorem length_live_truncateTo (d : Document) (id : SentenceId) :
    (d.truncateTo id).2.live.length = d.live.findIdx (·.id == id) := by
  unfold truncateTo indexOf? sentences
  rw [List.append_assoc, List.findIdx?_append]
  cases hlive : d.live.findIdx? (·.id == id) with
  | some i =>
    obtain ⟨hi, hfound⟩ := List.findIdx?_eq_some_iff_findIdx_eq.1 hlive
    rw [Option.some_or, hfound]
    exact (length_live_truncateAt d i).trans (Nat.min_eq_left (Nat.le_of_lt hi))
  | none =>
    rw [Option.none_or, List.findIdx?_eq_none_iff_findIdx_eq.1 hlive]
    split
    -- a sentence that is not live stands behind the live ones
    · next i hi =>
      obtain ⟨j, -, rfl⟩ := Option.map_eq_some_iff.1 hi
      rw [length_live_truncateAt, Nat.min_eq_right (Nat.le_add_left _ _)]
    · rfl

/-- Discarding leaves the text alone and takes sentences off the end. -/
theorem truncateTo_parts (d : Document) (id : SentenceId) :
    (d.truncateTo id).2.text = d.text ∧ (d.truncateTo id).2.doomed <+: d.doomed ∧
      (d.truncateTo id).2.live <+: d.live := by
  unfold truncateTo
  split
  · exact ⟨rfl, List.take_prefix _ _, List.take_prefix _ _⟩
  · exact ⟨rfl, List.prefix_refl _, List.prefix_refl _⟩

/-- A live sentence is found where it stands. -/
theorem Numbered.findIdx_live (hn : d.Numbered) {i : Nat} {x : Sentence} (hi : i < d.live.length)
    (hx : d.sentences[i]? = some x) : d.live.findIdx (·.id == x.id) = i := by
  rw [← length_live_truncateTo, truncateTo, hn.indexOf? hx]
  dsimp only
  rw [length_live_truncateAt, Nat.min_eq_left (Nat.le_of_lt hi)]

/-- Where no live sentence is in error and axioms do not matter, nothing blocks progress. -/
theorem isBlocked_eq_false (hsound : ∀ x ∈ d.live, x.isError = false) :
    d.isBlocked .annotate = false := by
  rw [Bool.eq_false_iff, Ne, isBlocked_iff]
  rintro ⟨x, hx, ⟨range, message, hstate⟩ | ⟨hpolicy, -⟩⟩
  · have hfalse := hsound x (List.mem_of_getLast? hx)
    simp [Sentence.isError, hstate] at hfalse
  · simp at hpolicy

section Whole

variable {fault : Fault}

/-- What there is of a text that can be split are its first sentences, and the next one is known. -/
theorem WellFormed.next_eq (hw : d.WellFormed)
    (hsplit : Sentence.spansFrom d.text 0 = (spans, none))
    (hd : d.doomed = []) : (d.live ++ d.unsent).map (·.span) <+: spans ∧
      Sentence.next d.text (endOf d.sentences) =
        .ok (spans.drop (d.live ++ d.unsent).length).head? := by
  have hfront : (d.live ++ d.unsent).map (·.span) <+: spans := by
    have hsplits := hw.splits
    rwa [Sentence.Splits, hsplit] at hsplits
  have hnext := Sentence.next_of_splits hsplit hfront
  rw [Sentence.reach_map_span, List.length_map] at hnext
  rw [sentences, hd, List.append_nil]
  exact ⟨hfront, hnext⟩

/-- A text that is split to its end is split further without an error. -/
theorem WellFormed.extendNext_ne_error (hw : d.WellFormed)
    (hsplit : Sentence.spansFrom d.text 0 = (spans, none))
    (hd : d.doomed = []) : d.extendNext ≠ (.error fault, d₁) := by
  intro h
  obtain ⟨-, e, herror⟩ := next_of_extendNext_error h
  rw [(hw.next_eq hsplit hd).2] at herror
  simp at herror

/-- When there is no further sentence, all of them are live. -/
theorem WellFormed.map_live_of_extendNext (hw : d.WellFormed)
    (hsplit : Sentence.spansFrom d.text 0 = (spans, none)) (hd : d.doomed = [])
    (h : d.extendNext = (.ok none, d₁)) : d.live.map (·.span) = spans := by
  obtain ⟨hunsent, hnext⟩ := next_of_extendNext_none h
  have hsplits := hw.splits
  rw [sentences, hd, hunsent, List.append_nil, List.append_nil, ← Sentence.reach_map_span] at hnext
  rw [hunsent, List.append_nil] at hsplits
  have hall := Sentence.eq_of_splits hsplits hnext
  rw [hsplit] at hall
  exact hall.symm

end Whole

end Document

namespace Navigation

variable {d d' : Document} {spans : List Span} {op : Navigation} {rest queue : List Navigation}
  {fault : Fault}

section Whole

variable (hw : d.WellFormed) (hsplit : Sentence.spansFrom d.text 0 = (spans, none))
  (hd : d.doomed = []) (hroot : d.root.isSome) (hsound : ∀ x ∈ d.live, x.isError = false)

include hw hsplit hd hroot hsound

/-- Where nothing is wrong, no step is refused. -/
theorem step_ne_refuse : step .annotate d op rest ≠ .refuse d' fault := by
  intro h
  have hsent := Document.isBlocked_eq_false hsound
  have hnext := comesNext_step .annotate d op rest
  generalize step .annotate d op rest = t at h hnext
  cases hnext with
  | barred _ hblocked => simp [hsent] at hblocked
  | unsplit _ _ _ hext => exact hw.extendNext_ne_error hsplit hd hext
  | next _ _ _ hext => exact sendSentence_ne_refuse hw.numbered hd hroot hext h
  | back => exact rewindTo_ne_refuse _ _ _ h
  | done | held | ended | past => simp at h

/-- An operation that is done without a call has nothing left to do. -/
theorem leads_of_step_proceed (hop : op.isRewind = false) (hpos : op ≠ .backward 0)
    (h : step .annotate d op rest = .proceed d' queue) :
    leads spans d.live.length op = d.live.length := by
  have hsent := Document.isBlocked_eq_false hsound
  have hle : d.live.length ≤ spans.length := by
    have hlen := (hw.next_eq hsplit hd).1.length_le
    rw [List.length_map, List.length_append] at hlen
    omega
  -- as many sentences as are live end up to the offset, or more
  have hge : ∀ {offset : Nat}, d.firstLockedPast? offset = none →
      d.live.length ≤ spans.countP (·.stop ≤ offset) := by
    intro offset hnone
    have hcount := hw.firstLockedPast?_eq offset
    rw [hnone, hsplit] at hcount
    dsimp only at hcount
    by_contra hlt
    rw [if_pos (by omega)] at hcount
    simp at hcount
  have hnext := comesNext_step .annotate d op rest
  generalize step .annotate d op rest = t at h hnext
  cases hnext with
  | done hstays hnothing =>
    cases op with
    | forward n =>
      obtain rfl : n = 0 := by simpa using hnothing rfl
      exact Nat.min_eq_left hle
    | cursor offset => exact absurd (hnothing rfl) (by simp)
    | backward n =>
      have hlive : d.live = [] := by
        by_contra hlive
        exact hstays _ ⟨hlive, rfl⟩
      simp [leads, hlive]
    | rewind id => simp [isRewind] at hop
  | held _ _ hblocked => simp [hsent] at hblocked
  | back hindex => exact absurd h (rewindTo_ne_proceed hroot (hindex.lt_length hpos))
  | ended hadvances hstays _ hext =>
    -- all sentences are live
    have hall := congrArg List.length (hw.map_live_of_extendNext hsplit hd hext)
    rw [List.length_map] at hall
    cases op with
    | forward n =>
      simp only [leads]
      omega
    | cursor offset =>
      have hcount :=
        List.countP_le_length (p := fun span : Span => decide (span.stop ≤ offset)) (l := spans)
      exact Nat.le_antisymm (hcount.trans (Nat.le_of_eq hall.symm))
        (hge (Option.eq_none_iff_forall_ne_some.2 hstays))
    | backward | rewind => simp [advances] at hadvances
  | past heq hstays _ hext hpast =>
    -- the next sentence ends past the offset
    subst heq
    have hnone : d.firstLockedPast? _ = none := Option.eq_none_iff_forall_ne_some.2 hstays
    rw [hw.any_extendNext hd hext hnone, hsplit, decide_eq_true_eq] at hpast
    exact Nat.le_antisymm (Nat.not_lt.1 hpast) (hge hnone)
  | next => exact absurd h (sendSentence_ne_proceed _)
  | barred | unsplit => simp at h

end Whole

end Navigation

end ProofDesk
