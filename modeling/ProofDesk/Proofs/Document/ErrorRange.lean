import ProofDesk.Proofs.Document.WellFormed

/-!
# What an error marks

An error marks the bytes of its sentence that its location blames, and all of them if the location
is missing or empty (`mem_errorRange`). No sentence is ever without bytes (`Reached.size_pos`), so
an error marks some text, unless its location begins behind the sentence (`Reached.marks_blamed`).
What is marked stays inside the sentence, whatever is done to the document later
(`Reached.faultsInside`).
-/

namespace ProofDesk

namespace Document

variable {size : Nat}

/-- Whether a location blames the byte at an offset in a sentence. One that is missing or empty
blames every byte. -/
def Blames (location : Option Location) (k : Nat) : Prop :=
  ∀ l, location = some l → l.isEmpty = false → l.start.toNat ≤ k ∧ k < l.stop.toNat

/-- A location holds something just when it ends behind its start. -/
theorem isEmpty_eq_false_iff (l : Location) : l.isEmpty = false ↔ l.start.toNat < l.stop.toNat := by
  simp [Location.isEmpty, UInt64.lt_iff_toNat_lt]

/-- What an error marks is cut to the sentence. -/
theorem errorRange_inside (size : Nat) (location : Option Location) :
    (errorRange size location).start ≤ (errorRange size location).stop ∧
    (errorRange size location).stop ≤ size := by
  unfold errorRange
  cases location with
  | none => exact ⟨Nat.zero_le _, Nat.le_refl _⟩
  | some l =>
    dsimp only
    split
    · exact ⟨Nat.zero_le _, Nat.le_refl _⟩
    · next hne =>
      have hlt := (isEmpty_eq_false_iff l).1 (by simpa using hne)
      dsimp only
      omega

/-- An error marks the bytes of its sentence that its location blames. -/
private theorem mem_errorRange (location : Option Location) {k : Nat} (hk : k < size) :
    (errorRange size location).start ≤ k ∧ k < (errorRange size location).stop ↔
    Blames location k := by
  unfold errorRange Blames
  cases location with
  | none => simpa using hk
  | some l =>
    dsimp only
    split
    · next hempty => simpa [hempty] using hk
    · next hne =>
      simp only [Option.some.injEq, forall_eq', hne, forall_const]
      omega

/-- Where no byte of a sentence is marked, the location begins behind it. -/
private theorem errorRange_nonempty_iff (hsize : 0 < size) (location : Option Location) :
    (errorRange size location).start < (errorRange size location).stop ↔
      ∀ l, location = some l → l.isEmpty = false → l.start.toNat < size := by
  unfold errorRange
  cases location with
  | none => simpa using hsize
  | some l =>
    dsimp only
    split
    · next hempty => simpa [hempty] using hsize
    · next hne =>
      have hlt := (isEmpty_eq_false_iff l).1 (by simpa using hne)
      simp only [Option.some.injEq, forall_eq', hne, forall_const]
      omega

end Document

/-! ## Sentences have bytes -/

/-- A sentence that stands in the text is not empty. -/
theorem Sentence.PlacedIn.size_pos {text : String} {x : Sentence} (h : x.PlacedIn text) :
    0 < x.size := by
  obtain ⟨hlt, before, after, -, hstart, hstop⟩ := h
  rw [size]
  omega

namespace Document

variable {d : Document}

/-- No sentence is without bytes, also when it is doomed and no longer part of the text. -/
theorem Reached.size_pos {text : String} (hr : Reached (ofText text) d) :
    ∀ x ∈ d.sentences, 0 < x.size := by
  induction hr with
  | refl => simp [sentences, ofText]
  | @perform d' hr op hop ih =>
    intro y hy
    have hc := changes_perform op hop
    rcases hc.same_or_new y hy with ⟨x, hx, -, htext⟩ | ⟨-, hnew⟩
    · rw [Sentence.size, ← htext]
      exact ih x hx
    -- a new sentence stands in the text
    · have hplaced :=
        ((hr.perform op hop).wellFormed (.ofText text)).laid.placed y (List.mem_append_right _ hnew)
      exact hplaced.size_pos

end Document

/-! ## Errors keep to their sentences -/

namespace Sentence

variable {x y : Sentence}

/-- The faulty part of a sentence in error lies inside the sentence. -/
def FaultInside (x : Sentence) : Prop :=
  ∀ range message, x.state = .error range message → range.start ≤ range.stop ∧ range.stop ≤ x.size

/-- Where a sentence stands does not matter. -/
theorem FaultInside.congr (h : x.FaultInside) (htext : y.text = x.text)
    (hstate : y.state = x.state) :
    y.FaultInside := by
  intro range message hy
  rw [size, htext]
  exact h range message (hstate ▸ hy)

/-- A sentence that is not in error has no faulty part that could lie outside. -/
theorem faultInside_of_isError (h : x.isError = false) : x.FaultInside := by
  intro range message hx
  simp [isError, hx] at h

/-- The part that a refused sentence marks lies inside it, whatever the prover said. -/
theorem faultInside_refused (x : Sentence) (location : Option Location) (message : String) :
    (x.refused location message).FaultInside := by
  rintro range message' ⟨⟩
  exact Document.errorRange_inside x.size location

end Sentence

namespace Document

variable {d d' : Document}

/-- The faulty part of every sentence lies inside it. -/
def FaultsInside (d : Document) : Prop :=
  ∀ x ∈ d.sentences, x.FaultInside

namespace FaultsInside

/-- A new document marks no faulty part. -/
theorem ofText (text : String) : (ofText text).FaultsInside := by
  intro x hx
  simp [Document.sentences, Document.ofText] at hx

/-- Sentences that have just been split off are not in error. -/
theorem grows (h : d.FaultsInside) (hg : d.Grows d') : d'.FaultsInside := by
  cases hg with
  | refl => exact h
  | @push spans parseError hs he =>
    have hall : ({ d.push spans with parseError } : Document).sentences =
        d.sentences ++ sentencesOf d.text d.nextId spans := sentences_push d spans
    intro x hx
    rw [hall] at hx
    rcases List.mem_append.1 hx with hx | hx
    · exact h x hx
    · have hstate := (untouched_of_mem_sentencesOf hx).state
      exact Sentence.faultInside_of_isError (by rw [Sentence.isError, hstate])

/-- Sending a sentence marks no faulty part. -/
theorem withPending (h : d.FaultsInside) {x : Sentence} {later : List Sentence}
    (hx : d.unsent = x :: later) :
    (d.withPending x later).FaultsInside := by
  intro y hy
  simp only [sentences, Document.withPending, List.append_assoc, List.mem_append,
    List.mem_singleton] at hy
  rcases hy with hy | rfl | hy | hy
  · exact h y (by simp [sentences, hy])
  · exact Sentence.faultInside_of_isError rfl
  · exact h y (by simp [sentences, hy])
  · exact h y (by simp [sentences, hx, hy])

/-- Marking one sentence keeps all faulty parts inside if it keeps them so in any sentence. -/
theorem modifyAt (h : d.FaultsInside) (i : Nat) {f : Sentence → Sentence}
    (hf : ∀ x : Sentence, x.FaultInside → (f x).FaultInside) : (d.modifyAt i f).FaultsInside := by
  intro y hy
  rw [sentences_modifyAt] at hy
  obtain ⟨x, hx, rfl | rfl⟩ := exists_of_mem_modify hy
  · exact h _ hx
  · exact hf x (h x hx)

/-- Marking a sentence that its identifier finds keeps all faulty parts inside. -/
theorem of_lockedIndex (h : d.FaultsInside) {id : SentenceId} {f : Sentence → Sentence}
    (hf : ∀ x : Sentence, (f x).FaultInside)
    (hmark : (d.lockedIndex id).map (d.modifyAt · f) = .ok d') :
    d'.FaultsInside := by
  obtain ⟨i, -, rfl⟩ := exists_of_lockedIndex hmark
  exact h.modifyAt i fun x _ => hf x

/-- Taking sentences off the end keeps the faulty parts of the others inside. -/
theorem truncateAt (h : d.FaultsInside) (i : Nat) : (d.truncateAt i).2.FaultsInside := by
  intro x hx
  rw [sentences_truncateAt] at hx
  exact h x (List.mem_of_mem_take hx)

/-- An edit only moves and drops sentences. -/
theorem edit (h : d.FaultsInside) {outcome : Reconciliation} (he : d.Edits outcome d') :
    d'.FaultsInside := by
  intro y hy
  obtain ⟨x, hx, hxy⟩ := he.reconciled.exists_of_mem_sentences hy
  have htext : x.unplaced.text = y.unplaced.text := congrArg Sentence.text hxy
  have hstate : x.unplaced.state = y.unplaced.state := congrArg Sentence.state hxy
  exact (h x hx).congr htext.symm hstate.symm

/-- Every operation keeps the faulty parts inside their sentences. -/
theorem perform (h : d.FaultsInside) (op : Operation) : (d.perform op).FaultsInside := by
  cases op with
  | setRoot state => exact h
  | extendNext => exact h.grows (grows_extendNext d)
  | extendTo offset => exact h.grows (grows_extendTo d offset)
  | markPending id =>
    -- what is sent has not been blamed yet
    refine of_getD h fun d' hpending => ?_
    obtain ⟨x, later, hx, -, -, rfl⟩ := markPending_eq hpending
    exact h.withPending hx
  | markValid id state validity =>
    exact of_getD h fun d' hvalid =>
      h.of_lockedIndex (fun x => Sentence.faultInside_of_isError rfl) hvalid
  | markError id location message =>
    -- the part that is blamed is cut to fit the sentence
    exact of_getD h fun d' herror =>
      h.of_lockedIndex (fun x => x.faultInside_refused location message) herror
  | markAxiom index =>
    refine h.modifyAt index fun x hx => ?_
    split
    · exact Sentence.faultInside_of_isError rfl
    · exact hx
  | markProcessed index => exact h.modifyAt index fun x hx => hx.congr rfl rfl
  | truncateTo id => exact of_truncateTo id h h.truncateAt
  | truncateAt index => exact h.truncateAt index
  | replace range replacement => exact of_replace range replacement h fun _ _ he => h.edit he
  | setText text => exact h.edit (.setText text)

end FaultsInside

/-- Whatever is done to a new document, faulty parts lie inside their sentences. -/
theorem Reached.faultsInside {text : String} (hr : Reached (ofText text) d) : d.FaultsInside := by
  induction hr with
  | refl => exact .ofText text
  | perform _ op _ ih => exact ih.perform op

/-! ## What is marked -/

/-- Whatever location the prover reports about a sentence that has been sent, the bytes that are
marked are those of the sentence that the location blames. There are some, unless the location
begins behind the sentence. -/
theorem Reached.marks_blamed {text : String} (hr : Reached (ofText text) d) {i : Nat} {x : Sentence}
    (hx : d.sent[i]? = some x) (location : Option Location) (message : String) :
    ∃ (d' : Document) (range : Span), d.markError x.id location message = .ok d' ∧
      d'.sentences = d.sentences.set i { x with state := .error range message } ∧
      range.start ≤ range.stop ∧ range.stop ≤ x.size ∧
      (∀ k, k < x.size → (range.start ≤ k ∧ k < range.stop ↔ Blames location k)) ∧
      (range.start < range.stop ↔
        ∀ l, location = some l → l.isEmpty = false → l.start.toNat < x.size) := by
  have hw := hr.wellFormed (.ofText text)
  have hget : d.sentences[i]? = some x := (getElem?_sentences_of_lt (lt_locked_of_sent hx)).trans hx
  have hinside := errorRange_inside x.size location
  refine ⟨d.refuseAt i location message, errorRange x.size location,
    markError_eq hw.numbered hx location message, ?_, hinside.1, hinside.2,
    fun k hk => mem_errorRange location hk, ?_⟩
  · rw [refuseAt, sentences_modifyAt, List.modify_eq_set_getElem?, hget]
    rfl
  · exact errorRange_nonempty_iff (hr.size_pos x (List.mem_of_getElem? hget)) location

/-- The first sentence of "A. B.". -/
def firstOfTwo : Sentence :=
  ⟨0, ⟨0, 2⟩, "A.", .pending, none, false⟩

/-- The error of a doomed sentence reaches past its end: its last byte is marked. -/
theorem marks_blamed_of_joined :
    ∃ d', Reached (ofText "A. B.") joined ∧ joined.doomed = [firstOfTwo] ∧
    joined.markError 0 (some ⟨1, 9⟩) "no" = .ok d' ∧
    d'.sentences = [{ firstOfTwo with state := .error ⟨1, 2⟩ "no" }] := by
  have hr := reached_joined reached_sentFirstOfTwo
  obtain ⟨d', ⟨start, stop⟩, hmark, hsentences, -, hstop, hblamed, -⟩ :=
    hr.marks_blamed (i := 0) (x := firstOfTwo) rfl (some ⟨1, 9⟩) "no"
  have hsize : firstOfTwo.size = 2 := by decide
  have hfirst : ¬ (start ≤ 0 ∧ 0 < stop) := by
    simpa [Blames, Location.isEmpty] using hblamed 0 (by decide)
  have hlast : start ≤ 1 ∧ 1 < stop := by
    simpa [Blames, Location.isEmpty] using hblamed 1 (by decide)
  have hend : stop ≤ 2 := hsize ▸ hstop
  obtain rfl : start = 1 := by omega
  obtain rfl : stop = 2 := by omega
  exact ⟨d', hr, rfl, hmark, hsentences⟩

/-- An error that begins behind its sentence marks nothing. -/
theorem exists_unmarked : ∃ (d' : Document) (range : Span), Reached (ofText "A. B.") sentFirst ∧
    sentFirst.sent = [firstOfTwo] ∧ sentFirst.markError 0 (some ⟨2, 3⟩) "no" = .ok d' ∧
    d'.sent = [{ firstOfTwo with state := .error range "no" }] ∧ ¬ range.start < range.stop :=
  ⟨sentFirst.refuseAt 0 (some ⟨2, 3⟩) "no", ⟨2, 2⟩, reached_sentFirst, rfl, by cbv,
    by cbv, by decide⟩

end Document

end ProofDesk
