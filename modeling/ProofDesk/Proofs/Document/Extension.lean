import Mathlib
import ProofDesk.Proofs.Document.WellFormed

/-!
# Splitting up to an offset

Splitting sentences off up to an offset splits one off and goes on behind it (`extendTo_eq`) until a
sentence covers the offset, none is left, or the text turns out to be ambiguous (`Settled`). What is
left then gives the same answer again. So splitting up to one offset and then up to another comes to
splitting up to the greater of the two, and up to its end a text is split into the sentences that it
is split into at once (`extendTo_composes`).
-/

namespace ProofDesk

open Text

namespace Document

variable {d : Document} {a b offset : Nat} {span : Span} {e : SplitError}

/-! ## One more sentence -/

/-- The document with a further sentence that splitting has found. -/
def grown (d : Document) (span : Span) : Document :=
  { d.push [span] with parseError := none }

@[simp] theorem text_grown (d : Document) (span : Span) : (d.grown span).text = d.text := rfl

@[simp] theorem endOf_grown (d : Document) (span : Span) :
    endOf (d.grown span).sentences = span.stop := by
  show endOf (d.push [span]).sentences = span.stop
  rw [sentences_push, endOf, sentencesOf, sentencesOf, List.getLast?_concat]

/-- Sentences that are split off one after the other are numbered as if they were split off
together. -/
theorem push_grown (d : Document) (span : Span) (spans : List Span)
    (parseError : Option SplitError) :
    { (d.grown span).push spans with parseError } = { d.push (span :: spans) with parseError } := by
  have hnext : d.nextId + 1 + spans.length = d.nextId + (spans.length + 1) :=
    Nat.succ_add_eq_add_succ d.nextId _
  simp only [grown, push, sentencesOf, List.length_cons, List.length_nil, List.append_assoc,
    List.singleton_append, Nat.zero_add, hnext]

/-- The identifiers given out next begin with that of the sentence that is split off first. -/
theorem nextIds_grown (d : Document) (span : Span) (n : Nat) :
    d.nextIds (n + 1) = d.nextId :: (d.grown span).nextIds n := by
  rw [nextIds, List.range_succ_eq_map, List.map_cons, List.map_map]
  refine congrArg (d.nextId :: ·) (List.map_congr_left fun k _ => ?_)
  exact (Nat.succ_add_eq_add_succ d.nextId k).symm

/-- What holds of every document from which no sentence can be split off, and of one from which one
can if it holds of what that leaves, holds of every document. -/
theorem splitting_induction {motive : Document → Prop}
    (step : ∀ d, (∀ span, Sentence.next d.text (endOf d.sentences) = .ok (some span) →
      motive (d.grown span)) → motive d)
    (d : Document) : motive d := by
  -- less of the text is left behind each sentence
  induction hleft :
    (bytes d.text).length - endOf d.sentences using Nat.strong_induction_on generalizing d with
  | _ left ih =>
    subst hleft
    refine step d fun span hnext => ih _ ?_ (d.grown span) rfl
    obtain ⟨hstart, hlt, hstop⟩ := Sentence.next_bounds hnext
    rw [endOf_grown, text_grown]
    omega

/-! ## Up to an offset -/

/-- A sentence ends at or past an offset. -/
def Covers (d : Document) (offset : Nat) : Prop :=
  d.sentences ≠ [] ∧ offset ≤ endOf d.sentences

/-- A document that covers an offset covers every one in front of it. -/
theorem Covers.of_le (h : d.Covers a) (hb : b ≤ a) : d.Covers b :=
  ⟨h.1, Nat.le_trans hb h.2⟩

/-- A document grown by one sentence covers what that sentence reaches. -/
theorem grown_covers_iff : (d.grown span).Covers offset ↔ offset ≤ span.stop := by
  have hne : (d.grown span).sentences ≠ [] := by simp [sentences, grown, push, sentencesOf]
  rw [Covers, endOf_grown]
  exact and_iff_right hne

/-- Nothing is split off up to an offset that is covered. -/
theorem extendTo_of_covers (h : d.Covers offset) : d.extendTo offset = (.ok [], d) :=
  if_pos h

/-- As long as no sentence covers the offset, the next one is split off. -/
theorem extendTo_eq (h : ¬ d.Covers offset) :
    d.extendTo offset =
      match Sentence.next d.text (endOf d.sentences) with
      | .error e => (.error (splitFault e), { d with parseError := some e })
      | .ok none => (.ok [], { d with parseError := none })
      | .ok (some span) =>
        (((d.grown span).extendTo offset).1.map (d.nextId :: ·),
          ((d.grown span).extendTo offset).2) := by
  unfold Covers at h
  rw [extendTo, if_neg h, Sentence.spansFrom_eq]
  cases Sentence.next d.text (endOf d.sentences) with
  | error e => simp only [List.takeWhile_nil, List.dropWhile_nil, push_nil]
  | ok found? =>
    cases found? with
    | none => simp [nextIds, push_nil]
    | some span =>
      dsimp only
      by_cases hstop : offset ≤ span.stop
      · have hlt : ¬ span.stop < offset := Nat.not_lt.2 hstop
        rw [extendTo_of_covers (grown_covers_iff.2 hstop)]
        simp [hlt, nextIds, grown, Except.map]
      · have hlt : span.stop < offset := Nat.lt_of_not_le hstop
        have hnot : ¬ (d.grown span).Covers offset := mt grown_covers_iff.1 hstop
        unfold Covers at hnot
        -- both sides search the same rest of the text
        rw [extendTo, if_neg hnot, endOf_grown, text_grown]
        generalize Sentence.spansFrom d.text span.stop = found
        obtain ⟨rest, error?⟩ := found
        simp only [List.takeWhile_cons, List.dropWhile_cons, hlt, decide_true, if_true]
        generalize rest.dropWhile (fun span => decide (span.stop < offset)) = long
        cases long with
        | cons last later =>
          simp only [Except.map, push_grown, List.length_cons, nextIds_grown d span,
            List.cons_append]
        | nil =>
          cases error? with
          | none => simp only [Except.map, push_grown, List.length_cons, nextIds_grown d span]
          | some e => simp only [Except.map, push_grown]

/-! ## Where splitting ends -/

/-- How splitting sentences off up to an offset comes to an end. -/
inductive Settled (d : Document) (offset : Nat) : Except Fault (List SentenceId) → Prop
  | covered (ids : List SentenceId) (h : d.Covers offset) : Settled d offset (.ok ids)
  /-- No further sentence is left. -/
  | exhausted (ids : List SentenceId) (hnext : Sentence.next d.text (endOf d.sentences) = .ok none)
    (he : d.parseError = none) : Settled d offset (.ok ids)
  | ambiguous {e : SplitError} (hnext : Sentence.next d.text (endOf d.sentences) = .error e)
    (he : d.parseError = some e) : Settled d offset (.error (splitFault e))

/-- Splitting up to an offset leaves nothing to be split up to it. -/
private theorem settled_extendTo (d : Document) (offset : Nat) :
    (d.extendTo offset).2.Settled offset (d.extendTo offset).1 := by
  -- one sentence is found at a time, and what is settled behind it is settled here
  induction d using splitting_induction with
  | step d ih =>
    by_cases h : d.Covers offset
    · rw [extendTo_of_covers h]
      exact .covered [] h
    · rw [extendTo_eq h]
      cases hnext : Sentence.next d.text (endOf d.sentences) with
      | error e => exact .ambiguous hnext rfl
      | ok found? =>
        cases found? with
        | none => exact .exhausted [] hnext rfl
        | some span =>
          have hsettled := ih span hnext
          dsimp only
          generalize (d.grown span).extendTo offset = result at hsettled ⊢
          obtain ⟨outcome, d'⟩ := result
          cases hsettled with
          | covered _ h => exact .covered _ h
          | exhausted _ hnext he => exact .exhausted _ hnext he
          | ambiguous hnext he => exact .ambiguous hnext he

/-- Nothing is split off a text that holds no further sentence. -/
theorem extendTo_of_exhausted (hnext : Sentence.next d.text (endOf d.sentences) = .ok none)
    (he : d.parseError = none) (offset : Nat) : d.extendTo offset = (.ok [], d) := by
  by_cases h : d.Covers offset
  · exact extendTo_of_covers h
  · rw [extendTo_eq h, hnext, ← he]

/-- Splitting on behind what is ambiguous fails again, or is not tried. -/
private theorem extendTo_of_ambiguous (hnext : Sentence.next d.text (endOf d.sentences) = .error e)
    (he : d.parseError = some e) (offset : Nat) : (d.extendTo offset).2 = d := by
  by_cases h : d.Covers offset
  · rw [extendTo_of_covers h]
  · rw [extendTo_eq h, hnext]
    dsimp only
    rw [← he]

/-- Once sentences are split off up to an offset, there is nothing to split off up to a smaller
one. -/
theorem extendTo_of_le {ids : List SentenceId} (h : (d.extendTo a).1 = .ok ids) (hb : b ≤ a) :
    (d.extendTo a).2.extendTo b = (.ok [], (d.extendTo a).2) := by
  have hsettled := settled_extendTo d a
  rw [h] at hsettled
  cases hsettled with
  | covered _ hcovers => exact extendTo_of_covers (hcovers.of_le hb)
  | exhausted _ hnext he => exact extendTo_of_exhausted hnext he b

/-- Splitting up to one offset and then to another comes to splitting up to the larger one. -/
theorem extendTo_extendTo (d : Document) (a b : Nat) :
    ((d.extendTo a).2.extendTo b).2 = (d.extendTo (max a b)).2 := by
  induction d using splitting_induction with
  | step d ih =>
    by_cases ha : d.Covers a
    -- nothing has been split off yet, so only the greater offset counts
    · rw [extendTo_of_covers ha]
      by_cases hb : d.Covers b
      · have hmax : d.Covers (max a b) := ⟨ha.1, Nat.max_le.2 ⟨ha.2, hb.2⟩⟩
        rw [extendTo_of_covers hb, extendTo_of_covers hmax]
      · have hle : a ≤ b := Nat.le_of_not_le fun hle => hb (ha.of_le hle)
        rw [Nat.max_eq_right hle]
    · have hmax : ¬ d.Covers (max a b) := mt (·.of_le (Nat.le_max_left a b)) ha
      rw [extendTo_eq ha, extendTo_eq hmax]
      -- both begin with the same turn of the loop, and what stops one stops the other
      cases hnext : Sentence.next d.text (endOf d.sentences) with
      | error e => exact extendTo_of_ambiguous (d := { d with parseError := some e }) hnext rfl b
      | ok found? =>
        cases found? with
        | none =>
          exact congrArg Prod.snd
            (extendTo_of_exhausted (d := { d with parseError := none }) hnext rfl b)
        | some span => exact ih span hnext

/-! ## All of a text -/

/-- Up to the end of its text a document is split into all sentences that are found. -/
theorem extendTo_length (h : ¬ d.Covers (bytes d.text).length) :
    d.extendTo (bytes d.text).length =
      match Sentence.spansFrom d.text (endOf d.sentences) with
      | (spans, none) => (.ok (d.nextIds spans.length), { d.push spans with parseError := none })
      | (spans, some e) => (.error (splitFault e), { d.push spans with parseError := some e }) := by
  induction d using splitting_induction with
  | step d ih =>
    rw [extendTo_eq h, Sentence.spansFrom_eq]
    cases hnext : Sentence.next d.text (endOf d.sentences) with
    | error e => simp only [push_nil]
    | ok found? =>
      cases found? with
      | none => simp only [push_nil, nextIds, List.length_nil, List.range_zero, List.map_nil]
      | some span =>
        dsimp only
        by_cases hstop : (bytes d.text).length ≤ span.stop
        -- nothing is left behind a sentence that ends where the text does
        · rw [extendTo_of_covers (grown_covers_iff.2 hstop), Sentence.spansFrom_eq,
            Sentence.next_of_length_le hstop]
          simp [nextIds, grown, Except.map]
        · have hrest := ih span hnext (mt grown_covers_iff.1 hstop)
          rw [text_grown, endOf_grown] at hrest
          rw [hrest]
          generalize Sentence.spansFrom d.text span.stop = found
          obtain ⟨rest, error?⟩ := found
          cases error? with
          | none => simp only [Except.map, push_grown, List.length_cons, nextIds_grown d span]
          | some e => simp only [Except.map, push_grown]

/-- Splitting off sentences adds as many new identifiers at the end. -/
theorem ids_push (d : Document) (spans : List Span) :
    (d.push spans).ids = d.ids ++ d.nextIds spans.length := by
  rw [ids, sentences_push, List.map_append, map_id_sentencesOf, nextIds, List.range'_eq_map_range]
  rfl

/-- A text that can be split is split into its sentences up to its end. -/
theorem extendTo_of_splitAll {text : String} {spans : List Span}
    (h : Sentence.splitAll text = .ok spans) :
    ∃ d', (ofText text).extendTo (bytes text).length = (.ok d'.ids, d') ∧
      d'.sentences.map (·.span) = spans := by
  have hresult := extendTo_length (d := ofText text) fun hcovers => hcovers.1 rfl
  have hspans : Sentence.spansFrom (ofText text).text (endOf (ofText text).sentences) =
      (spans, none) :=
    Sentence.spansFrom_of_splitAll h
  rw [hspans] at hresult
  refine ⟨(ofText text).push spans, hresult.trans ?_, map_span_sentencesOf text 0 spans⟩
  rw [ids_push]
  rfl

/-- A text that cannot be split is split into the sentences in front of what is wrong. -/
theorem extendTo_of_splitAll_error {text : String} (h : Sentence.splitAll text = .error e) :
    ∃ d', (ofText text).extendTo (bytes text).length = (.error (splitFault e), d') ∧
      Sentence.Splits text 0 (d'.sentences.map (·.span)) ∧
      Sentence.next text (endOf d'.sentences) = .error e := by
  have hresult := extendTo_length (d := ofText text) fun hcovers => hcovers.1 rfl
  have herror := Sentence.splitAll_eq_error_iff_snd.1 h
  have hspans : Sentence.spansFrom (ofText text).text (endOf (ofText text).sentences) =
      ((Sentence.spansFrom text 0).1, some e) := Prod.ext rfl herror
  rw [hspans] at hresult
  have hmap : ((ofText text).push (Sentence.spansFrom text 0).1).sentences.map (·.span) =
      (Sentence.spansFrom text 0).1 :=
    map_span_sentencesOf text 0 _
  refine ⟨{ (ofText text).push (Sentence.spansFrom text 0).1 with parseError := some e },
    hresult, ?_, ?_⟩
  · exact hmap.symm ▸ List.prefix_refl _
  · have hend : endOf ((ofText text).push (Sentence.spansFrom text 0).1).sentences =
        Sentence.reach 0 (Sentence.spansFrom text 0).1 := by
      rw [← Sentence.reach_map_span, hmap]
    exact hend ▸ Sentence.next_of_snd_eq_some herror

/-- Splitting up to one offset and then up to another leaves what splitting up to the greater of
them leaves, and a smaller one asks for nothing. Up to the end of its text a new document is split
into the sentences of the text or, if that cannot be split, into those in front of what is wrong. -/
theorem extendTo_composes (d : Document) (text : String) (a b : Nat) :
    ((d.extendTo a).2.extendTo b).2 = (d.extendTo (max a b)).2 ∧
    (∀ ids, (d.extendTo a).1 = .ok ids → ∀ c ≤ a,
      (d.extendTo a).2.extendTo c = (.ok [], (d.extendTo a).2)) ∧
    (∀ spans, Sentence.splitAll text = .ok spans → ∃ d',
      (ofText text).extendTo (bytes text).length = (.ok d'.ids, d') ∧
      d'.sentences.map (·.span) = spans) ∧
    ∀ e, Sentence.splitAll text = .error e → ∃ d',
      (ofText text).extendTo (bytes text).length =
        (.error (.ambiguousSplit e.offset e.message), d') ∧
      Sentence.Splits text 0 (d'.sentences.map (·.span)) ∧
      Sentence.next text (endOf d'.sentences) = .error e :=
  ⟨extendTo_extendTo d a b, fun _ hids _ hc => extendTo_of_le hids hc,
    fun _ h => extendTo_of_splitAll h, fun _ h => extendTo_of_splitAll_error h⟩

end Document

end ProofDesk
