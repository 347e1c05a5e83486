import ProofDesk.Proofs.Document.Numbering
import ProofDesk.Session.Navigation

/-!
# What a step of the navigation can do

A step sends the next sentence, goes back before a sentence, goes on without a call, or is refused.
`ComesNext` says when it does which, once for all operations, and what is known of a step is read
off it. `Sends` says what is sent and what is left to do, and `Proceeds` what going on without a
call comes to; once the first state is known that is at most to split one more sentence off
(`of_step_proceed`), and so is to be refused (`of_step_refuse`).
-/

namespace ProofDesk

namespace Document

/-- Once the first state is known, there is a state before every sentence. -/
theorem stateBefore_isSome {d : Document} (h : d.root.isSome) (index : Nat) :
    (d.stateBefore index).isSome := by
  unfold stateBefore
  cases (d.sentences.take index).reverse.findSome? (·.stateId) with
  | none => exact h
  | some state => rfl

/-- Where nothing blocks progress, the last live sentence is not in error. -/
theorem isError_of_isBlocked {d : Document} {policy : AxiomPolicy} (h : d.isBlocked policy = false)
    {x : Sentence} (hx : d.live.getLast? = some x) : x.isError = false := by
  unfold isBlocked at h
  rw [hx] at h
  unfold Sentence.isError
  cases hs : x.state <;> simp_all

end Document

namespace Navigation

/-- What is left of an operation after it has sent a call. -/
def remaining : Navigation → List Navigation
  | forward (n + 2) => [forward (n + 1)]
  | cursor offset => [cursor offset]
  | _ => []

/-- What is left of an operation is neither a rollback nor a step back. -/
theorem advances_of_mem_remaining {op op' : Navigation} (h : op' ∈ op.remaining) :
    op'.isRewind = false ∧ ∀ n, op' ≠ .backward n := by
  unfold remaining at h
  split at h <;> simp_all [isRewind]

/-- The position before which an operation may go back: that of a live sentence, or the one a
rollback names. -/
def GoesBackTo (d : Document) (op : Navigation) (index : Nat) : Prop :=
  match op with
  | forward _ => False
  | cursor offset => d.firstLockedPast? offset = some index
  | backward n => d.live ≠ [] ∧ index = d.live.length - n
  | rewind id => d.indexOf? id = some index

/-- What comes next for the operation `op` in front of `rest`. -/
inductive ComesNext (policy : AxiomPolicy) (d : Document) (op : Navigation)
    (rest : List Navigation) : Step → Prop
  /-- There is nothing to be done. -/
  | done (hstays : ∀ index, ¬ GoesBackTo d op index)
      (hnothing : op.advances = true → op = .forward 0) :
    ComesNext policy d op rest (.proceed d rest)
  /-- A move to an offset gives up where the last sentence blocks, and sending the next sentence is
  refused there. -/
  | held {offset : Nat} (hop : op = .cursor offset) (hstays : ∀ index, ¬ GoesBackTo d op index)
      (hblocked : d.isBlocked policy = true) : ComesNext policy d op rest (.proceed d rest)
  | barred {n : Nat} (hop : op = .forward (n + 1)) (hblocked : d.isBlocked policy = true) :
    ComesNext policy d op rest (.refuse d .blocked)
  | back {index : Nat} (hindex : GoesBackTo d op index) :
    ComesNext policy d op rest (rewindTo d index (op.remaining ++ rest))
  /-- The text behind the sentences cannot be split. -/
  | unsplit {d₁ : Document} {fault : Fault} (hadvances : op.advances = true)
      (hstays : ∀ index, ¬ GoesBackTo d op index) (hblocked : d.isBlocked policy = false)
      (hext : d.extendNext = (.error fault, d₁)) :
    ComesNext policy d op rest (.refuse d₁ fault)
  /-- There is no further sentence. -/
  | ended {d₁ : Document} (hadvances : op.advances = true)
      (hstays : ∀ index, ¬ GoesBackTo d op index) (hblocked : d.isBlocked policy = false)
      (hext : d.extendNext = (.ok none, d₁)) :
    ComesNext policy d op rest (.proceed d₁ rest)
  | next {d₁ : Document} {id : SentenceId} (hadvances : op.advances = true)
      (hstays : ∀ index, ¬ GoesBackTo d op index) (hblocked : d.isBlocked policy = false)
      (hext : d.extendNext = (.ok (some id), d₁))
      (hfits : ∀ offset, op = .cursor offset →
        (d₁.sentence? id).any (·.span.stop ≤ offset) = true) :
    ComesNext policy d op rest (sendSentence d₁ id (op.remaining ++ rest))
  /-- The next sentence ends past the offset. -/
  | past {offset : Nat} {d₁ : Document} {id : SentenceId} (hop : op = .cursor offset)
      (hstays : ∀ index, ¬ GoesBackTo d op index) (hblocked : d.isBlocked policy = false)
      (hext : d.extendNext = (.ok (some id), d₁))
      (hpast : ¬ (d₁.sentence? id).any (·.span.stop ≤ offset) = true) :
    ComesNext policy d op rest (.proceed d₁ rest)

/-- Looking at the head of the queue gives what comes next. -/
theorem comesNext_step (policy : AxiomPolicy) (d : Document) (op : Navigation)
    (rest : List Navigation) :
    ComesNext policy d op rest (step policy d op rest) := by
  cases op with
  | forward n =>
    cases n with
    | zero => exact .done (fun _ => id) fun _ => rfl
    | succ n =>
      -- the order keeps its place while more than one sentence is left of it
      have hrest : (if n = 0 then rest else .forward n :: rest) =
          (forward (n + 1)).remaining ++ rest := by
        cases n <;> rfl
      simp only [step, hrest]
      split
      · next hblocked => exact .barred rfl hblocked
      · next hblocked =>
        rw [Bool.not_eq_true] at hblocked
        split
        · next hext => exact .unsplit rfl (fun _ => id) hblocked hext
        · next hext => exact .ended rfl (fun _ => id) hblocked hext
        · next hext => exact .next rfl (fun _ => id) hblocked hext (by simp)
  | cursor offset =>
    simp only [step]
    split
    · next hindex => exact .back hindex
    · next hnone =>
      have hstays : ∀ index, ¬ GoesBackTo d (.cursor offset) index := by simp [GoesBackTo, hnone]
      split
      · next hblocked => exact .held rfl hstays hblocked
      · next hblocked =>
        rw [Bool.not_eq_true] at hblocked
        split
        · next hext => exact .unsplit rfl hstays hblocked hext
        · next hext => exact .ended rfl hstays hblocked hext
        · next hext =>
          split
          · next hfits =>
            -- the sentence ends by the offset, so it is sent and the cursor stays
            refine .next rfl hstays hblocked hext ?_
            rintro _ ⟨⟩
            exact hfits
          · next hpast => exact .past rfl hstays hblocked hext hpast
  | backward n =>
    simp only [step]
    split
    · next hlive => exact .done (fun _ hindex => hindex.1 hlive) (by simp [advances])
    · next hlive => exact .back ⟨hlive, rfl⟩
  | rewind id =>
    simp only [step]
    split
    · next hindex => exact .back hindex
    · next hnone => exact .done (by simp [GoesBackTo, hnone]) (by simp [advances])

/-- What is sent for the operation `op` in front of `rest`. -/
inductive Sends (policy : AxiomPolicy) (d : Document) (op : Navigation) (rest : List Navigation) :
    Request → Call → Document → List Navigation → Prop
  /-- The next sentence, on top of the last state. -/
  | add {d₁ : Document} {x : Sentence} {later : List Sentence} {parent : StateId}
      (hop : op.advances = true) (hblocked : d.isBlocked policy = false) (hd : d.doomed = [])
      (he : d.Extends d₁) (hx : d₁.unsent = x :: later)
      (htip : d₁.tip = some parent) :
    Sends policy d op rest (.add x.id) (.add x.text noEdit parent false) (d₁.withPending x later)
      (op.remaining ++ rest)
  /-- A rollback to the state before a sentence. -/
  | editAt {index : Nat} {y : Sentence} {target : StateId} (hindex : GoesBackTo d op index)
      (hy : d.sentences[index]? = some y) (htarget : d.stateBefore index = some target) :
    Sends policy d op rest (.editAt y.id) (.editAt target) d (op.remaining ++ rest)

/-- What is left of the document and the queue once a step of the operation `op` in front of `rest`
has gone on without a call. -/
inductive Proceeds (d : Document) (op : Navigation) (rest : List Navigation) :
    Document → List Navigation → Prop
  /-- The operation is done: there is no sentence for it to go back to. -/
  | done {d' : Document} (he : d.Extends d')
      (hnone : ∀ index, GoesBackTo d op index → d.sentences[index]? = none) :
    Proceeds d op rest d' rest
  /-- No state is known that the prover could go back to, and the sentences are discarded at
  once. -/
  | discards {index : Nat} {y : Sentence} (hindex : GoesBackTo d op index)
      (hy : d.sentences[index]? = some y) (hunknown : d.stateBefore index = none) :
      Proceeds d op rest (d.truncateTo y.id).2 (op.remaining ++ rest)

/-- An operation goes back to one sentence. -/
theorem GoesBackTo.unique {d : Document} {op : Navigation} {i j : Nat} (hi : GoesBackTo d op i)
    (hj : GoesBackTo d op j) : i = j := by
  cases op with
  | forward n => exact hi.elim
  | cursor offset | rewind id => exact Option.some.inj (Eq.trans (Eq.symm hi) hj)
  | backward n => exact hi.2.trans hj.2.symm

section Steps

variable {policy : AxiomPolicy} {d d' : Document} {op : Navigation} {rest queue : List Navigation}
  {request : Request} {call : Call} {fault : Fault}

/-- What is sent is the first unsent sentence, on top of the last state. -/
theorem of_sendSentence_send {id : SentenceId} (hn : d.Numbered)
    (h : sendSentence d id rest = .send request call d' queue) :
    ∃ x later parent, d.unsent = x :: later ∧ d.doomed = [] ∧ d.tip = some parent ∧
      request = .add x.id ∧
      call = .add x.text noEdit parent false ∧
      d' = d.withPending x later ∧ queue = rest := by
  unfold sendSentence at h
  split at h
  · simp at h
  · next parent htip =>
    split at h
    · simp at h
    · next pending hpending =>
      obtain ⟨x, later, hx, rfl, hd, rfl⟩ := Document.markPending_eq hpending
      -- the sentence that was sent stands behind the live ones, and no other has its identifier
      have hfound :=
        (Document.numbered_withPending hn hd hx).sentence? Document.getElem?_sentences_withPending
      simp only [Step.send.injEq] at h
      obtain ⟨rfl, rfl, rfl, rfl⟩ := h
      refine ⟨x, later, parent, hx, hd, htip, rfl, ?_, rfl, rfl⟩
      dsimp only at hfound
      rw [hfound]
      rfl

/-- What is sent is a rollback to the state before a sentence. -/
theorem of_rewindTo_send {index : Nat} (h : rewindTo d index rest = .send request call d' queue) :
    ∃ y target, d.sentences[index]? = some y ∧ d.stateBefore index = some target ∧
      request = .editAt y.id ∧ call = .editAt target ∧ d' = d ∧
      queue = rest := by
  unfold rewindTo at h
  split at h
  · simp at h
  · next y hy =>
    split at h
    · next target htarget =>
      simp only [Step.send.injEq] at h
      obtain ⟨rfl, rfl, rfl, rfl⟩ := h
      exact ⟨y, target, hy, htarget, rfl, rfl, rfl, rfl⟩
    · simp at h

/-- Going back is never refused. -/
theorem rewindTo_ne_refuse (d : Document) (index : Nat) (rest : List Navigation) :
    rewindTo d index rest ≠ .refuse d' fault := by
  unfold rewindTo
  split
  · simp
  · split <;> simp

/-- Going back to a sentence that is there sends a call, once the first state is known. -/
theorem rewindTo_ne_proceed (hroot : d.root.isSome) {index : Nat}
    (hindex : index < d.sentences.length) :
    rewindTo d index rest ≠ .proceed d' queue := by
  obtain ⟨target, htarget⟩ := Option.isSome_iff_exists.1 (Document.stateBefore_isSome hroot index)
  unfold rewindTo
  rw [List.getElem?_eq_getElem hindex, htarget]
  simp

/-- Where nothing can be sent the document stays as it is. -/
theorem of_sendSentence_refuse {id : SentenceId} (h : sendSentence d id rest = .refuse d' fault) :
    d' = d := by
  unfold sendSentence at h
  split at h
  · simp_all
  · split at h <;> simp_all

/-- Sending a sentence needs no look at what comes after it. -/
theorem sendSentence_ne_proceed (id : SentenceId) : sendSentence d id rest ≠ .proceed d' queue := by
  unfold sendSentence
  split
  · simp
  · split <;> simp

/-- What a step sends. -/
theorem of_step_send (hn : d.Numbered) (h : step policy d op rest = .send request call d' queue) :
    Sends policy d op rest request call d' queue := by
  have hnext := comesNext_step policy d op rest
  generalize step policy d op rest = t at h hnext
  -- of what can come next, only going back and the next sentence send a call
  cases hnext with
  | back hindex =>
    obtain ⟨y, target, hy, htarget, rfl, rfl, rfl, rfl⟩ := of_rewindTo_send h
    exact .editAt hindex hy htarget
  | next hadvances hstays hblocked hext hfits =>
    have he := Document.extends_of_extendNext hext
    obtain ⟨x, later, parent, hx, hd, htip, rfl, rfl, rfl, rfl⟩ :=
      of_sendSentence_send (he.numbered hn) h
    exact .add hadvances hblocked (he.doomed ▸ hd) he hx htip
  | done | held | barred | unsplit | ended | past => simp at h

/-- A sentence that is found to go back to is there. -/
theorem GoesBackTo.lt_length {index : Nat} (h : GoesBackTo d op index) (hop : op ≠ .backward 0) :
    index < d.sentences.length := by
  have hlen : d.live.length ≤ d.sentences.length := by
    rw [Document.sentences, List.append_assoc, List.length_append]
    exact Nat.le_add_right _ _
  cases op with
  | forward n => exact h.elim
  | cursor offset =>
    obtain ⟨hlt, -⟩ := List.findIdx?_eq_some_iff_getElem.1 h
    exact Nat.lt_of_lt_of_le hlt hlen
  | backward n =>
    obtain ⟨hlive, rfl⟩ := h
    have hn : n ≠ 0 := fun hn => hop (hn ▸ rfl)
    have hpos := List.length_pos_iff.2 hlive
    omega
  | rewind id =>
    obtain ⟨hlt, -⟩ := List.findIdx?_eq_some_iff_getElem.1 h
    exact hlt

/-- Nothing is left of an operation that goes back to where no sentence stands. -/
theorem GoesBackTo.remaining_eq_nil {index : Nat} (h : GoesBackTo d op index)
    (hnone : d.sentences[index]? = none) :
    op.remaining = [] := by
  cases op with
  | forward n => exact h.elim
  | cursor offset =>
    exact absurd (h.lt_length (by simp)) (Nat.not_lt.2 (List.getElem?_eq_none_iff.1 hnone))
  | backward n | rewind id => rfl

/-- What a step that goes on without a call comes to. -/
theorem proceeds_of_step (h : step policy d op rest = .proceed d' queue) :
    Proceeds d op rest d' queue := by
  -- the cases are those of what comes next; the ones that end otherwise than in going on drop out
  have hnext := comesNext_step policy d op rest
  generalize step policy d op rest = t at h hnext
  cases hnext with
  | done hstays | held _ hstays =>
    -- nothing is to be done for the operation, and the document stays
    obtain ⟨rfl, rfl⟩ := Step.proceed.inj h
    exact .done (.refl d) fun index hindex => absurd hindex (hstays index)
  | ended _ hstays _ hext | past _ hstays _ hext =>
    obtain ⟨rfl, rfl⟩ := Step.proceed.inj h
    exact .done (Document.extends_of_extendNext hext) fun index hindex =>
      absurd hindex (hstays index)
  | back hindex =>
    unfold rewindTo at h
    split at h
    · next hnone =>
      rw [hindex.remaining_eq_nil hnone, List.nil_append] at h
      obtain ⟨rfl, rfl⟩ := Step.proceed.inj h
      exact .done (.refl d) fun index' hindex' => hindex.unique hindex' ▸ hnone
    · next y hy =>
      split at h
      · simp at h
      · next hunknown =>
        obtain ⟨rfl, rfl⟩ := Step.proceed.inj h
        exact .discards hindex hy hunknown
  | next => exact absurd h (sendSentence_ne_proceed _)
  | barred | unsplit => simp at h

/-- A step that goes on without a call is done with its operation, and at most splits a sentence
off. -/
theorem of_step_proceed (hroot : d.root.isSome) (hop : op ≠ .backward 0)
    (h : step policy d op rest = .proceed d' queue) :
    d.Extends d' ∧ queue = rest ∧ (∀ id, op = .rewind id → d.indexOf? id = none) ∧
      (∀ n, op = .backward n → d.live = []) := by
  cases proceeds_of_step h with
  | discards hindex hy hunknown =>
    -- there is a state before every sentence
    obtain ⟨target, htarget⟩ := Option.isSome_iff_exists.1 (Document.stateBefore_isSome hroot _)
    rw [htarget] at hunknown
    exact absurd hunknown (Option.some_ne_none target)
  | done he hnone =>
    have hstays : ∀ index, ¬ GoesBackTo d op index := fun index hindex =>
      absurd (hindex.lt_length hop)
        (Nat.not_lt.2 (List.getElem?_eq_none_iff.1 (hnone index hindex)))
    refine ⟨he, rfl, ?_, ?_⟩
    · rintro id rfl
      exact Option.eq_none_iff_forall_ne_some.2 hstays
    · rintro n rfl
      by_contra hlive
      exact hstays _ ⟨hlive, rfl⟩

/-- A step that is refused at most splits a sentence off. -/
theorem of_step_refuse (h : step policy d op rest = .refuse d' fault) : d.Extends d' := by
  have hnext := comesNext_step policy d op rest
  generalize step policy d op rest = t at h hnext
  cases hnext with
  | barred =>
    obtain ⟨rfl, -⟩ := Step.refuse.inj h
    exact .refl d
  | unsplit _ _ _ hext =>
    obtain ⟨rfl, -⟩ := Step.refuse.inj h
    exact Document.extends_of_extendNext hext
  | next _ _ _ hext => exact of_sendSentence_refuse h ▸ Document.extends_of_extendNext hext
  | back => exact absurd h (rewindTo_ne_refuse _ _ _)
  | done | held | ended | past => simp at h

end Steps

end Navigation

end ProofDesk
