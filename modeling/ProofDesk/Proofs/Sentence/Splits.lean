import Mathlib.Data.List.Infix
import ProofDesk.Sentence.Scan

/-!
# What splitting a text finds

The sentences of a text are found one behind the other (`Splits`), each where the one in front of it
ends (`reach`), until none is left or what is left cannot be split (`splitAll_eq_ok_iff`,
`splitAll_eq_error_iff`). They end one behind the other, so those that end at or before an offset
are the first ones, and how many they are is seen from the first one that does not (`countP_spans`).
-/

namespace ProofDesk.Sentence

variable {text : String} {offset o : Nat} {span : Span} {spans more : List Span} {e : SplitError}

/-- The spans are the first ones that splitting a text from an offset on finds. -/
def Splits (text : String) (offset : Nat) (spans : List Span) : Prop :=
  spans <+: (spansFrom text offset).1

/-- Where the last of some spans ends; `offset` if there are none. -/
def reach (offset : Nat) : List Span → Nat
  | [] => offset
  | span :: spans => reach span.stop spans

@[simp] theorem reach_nil (offset : Nat) : reach offset [] = offset := rfl

@[simp] theorem reach_cons (offset : Nat) (span : Span) (spans : List Span) :
    reach offset (span :: spans) = reach span.stop spans := rfl

@[simp] theorem reach_append (offset : Nat) (spans more : List Span) :
    reach offset (spans ++ more) = reach (reach offset spans) more := by
  induction spans generalizing offset with
  | nil => rfl
  | cons span spans ih => exact ih span.stop

@[simp] theorem splits_nil (text : String) (offset : Nat) : Splits text offset [] :=
  List.nil_prefix

/-- Splitting goes on where the first sentence ends. -/
theorem splits_cons :
    Splits text offset (span :: spans) ↔
    next text offset = .ok (some span) ∧ Splits text span.stop spans := by
  unfold Splits
  rw [spansFrom_eq text offset]
  cases next text offset with
  | error e => simp
  | ok found? =>
    cases found? with
    | none => simp
    | some found =>
      dsimp only
      rw [List.cons_prefix_cons, Except.ok.injEq, Option.some.injEq]
      exact ⟨fun ⟨heq, h⟩ => ⟨heq.symm, heq ▸ h⟩, fun ⟨heq, h⟩ => ⟨heq.symm, heq ▸ h⟩⟩

/-- Spans stand next in a text if the first lot does and the second does behind it. -/
theorem splits_append :
    Splits text offset (spans ++ more) ↔
    Splits text offset spans ∧ Splits text (reach offset spans) more := by
  induction spans generalizing offset with
  | nil => simp
  | cons span spans ih => rw [List.cons_append, splits_cons, splits_cons, ih, reach_cons, and_assoc]

/-- The first ones of spans that stand next in a text stand next in it. -/
theorem Splits.of_prefix (h : Splits text offset spans) (hmore : more <+: spans) :
    Splits text offset more :=
  hmore.trans h

/-! ## Where the sentences stand -/

/-- The sentences stand one behind the other, behind the offset, and none is empty. -/
theorem ordered_of_splits (h : Splits text offset spans) :
    spans.Pairwise (·.stop ≤ ·.start) ∧ ∀ span ∈ spans,
    offset ≤ span.start ∧ span.start < span.stop := by
  induction spans generalizing offset with
  | nil => exact ⟨List.Pairwise.nil, by simp⟩
  | cons span spans ih =>
    obtain ⟨hnext, hspans⟩ := splits_cons.1 h
    obtain ⟨hle, hlt, -⟩ := next_bounds hnext
    -- all that follow start behind the end of the first
    obtain ⟨hpairwise, hbehind⟩ := ih hspans
    refine ⟨List.pairwise_cons.2 ⟨fun other hother => (hbehind other hother).1, hpairwise⟩,
      fun other hother => ?_⟩
    rcases List.mem_cons.1 hother with rfl | hother
    · exact ⟨hle, hlt⟩
    · obtain ⟨hstart, hother⟩ := hbehind other hother
      exact ⟨by omega, hother⟩

/-- Spans that stand next in a text end one behind the other, all behind the offset. -/
theorem pairwise_of_splits (h : Splits text offset spans) :
    spans.Pairwise (·.stop < ·.stop) ∧ ∀ span ∈ spans, offset < span.stop := by
  obtain ⟨hpairwise, hbehind⟩ := ordered_of_splits h
  refine ⟨hpairwise.imp_of_mem fun _ hother hle => ?_, fun span hspan => ?_⟩
  · exact Nat.lt_of_le_of_lt hle (hbehind _ hother).2
  · exact Nat.lt_of_le_of_lt (hbehind span hspan).1 (hbehind span hspan).2

/-- From a sentence on that ends past an offset, all do. -/
theorem lt_stop_of_splits (h : Splits text offset (spans ++ more))
    (hmore : ∀ span, more.head? = some span → o < span.stop) :
    ∀ span ∈ more, o < span.stop := by
  cases more with
  | nil => simp
  | cons first later =>
    have hpairwise := (List.pairwise_append.1 (pairwise_of_splits h).1).2.1
    have hfirst := hmore first rfl
    intro span hspan
    rcases List.mem_cons.1 hspan with rfl | hspan
    · exact hfirst
    · exact Nat.lt_trans hfirst ((List.pairwise_cons.1 hpairwise).1 span hspan)

/-- If the sentences end up to an offset but for those from one on, the former are as many as end up
to it. -/
theorem countP_spans (h : Splits text offset (spans ++ more))
    (hspans : ∀ span ∈ spans, span.stop ≤ o)
    (hmore : ∀ span, more.head? = some span → o < span.stop) :
    (spans ++ more).countP (·.stop ≤ o) = spans.length := by
  have hnone : more.countP (·.stop ≤ o) = 0 := by
    refine List.countP_eq_zero.2 fun span hspan => ?_
    have hlt := lt_stop_of_splits h hmore span hspan
    simp only [decide_eq_true_eq]
    omega
  rw [List.countP_append, hnone, Nat.add_zero, List.countP_eq_length]
  intro span hspan
  simpa using hspans span hspan

/-! ## Where splitting ends -/

/-- What is found next, by what splitting finds from there on. -/
def upcoming : List Span × Option SplitError → Except SplitError (Option Span)
  | (span :: _, _) => .ok (some span)
  | ([], none) => .ok none
  | ([], some e) => .error e

/-- The next sentence is the first of all that follow, or what ended the search for them. -/
theorem next_eq (text : String) (offset : Nat) :
    next text offset = upcoming (spansFrom text offset) := by
  rw [spansFrom_eq]
  rcases next text offset with e | _ | span <;> rfl

/-- Behind its first sentences a text is split into those that are left. -/
theorem spansFrom_reach (h : Splits text offset spans) :
    spansFrom text (reach offset spans) =
      ((spansFrom text offset).1.drop spans.length, (spansFrom text offset).2) := by
  induction spans generalizing offset with
  | nil => rfl
  | cons span spans ih =>
    obtain ⟨hnext, hspans⟩ := splits_cons.1 h
    rw [reach_cons, ih hspans, spansFrom_eq text offset, hnext]
    rfl

/-- Where no further sentence is found, the first ones are all. -/
theorem eq_of_splits (h : Splits text offset spans)
    (hnext : next text (reach offset spans) = .ok none) :
    (spansFrom text offset).1 = spans := by
  obtain ⟨rest, hrest⟩ := h
  have hsplits : Splits text offset (spans ++ rest) := by rw [Splits, hrest]
  have hbehind := (splits_append.1 hsplits).2
  cases rest with
  | nil => rw [← hrest, List.append_nil]
  | cons span later =>
    -- another sentence would be found next
    have hspan := (splits_cons.1 hbehind).1
    simp [hspan] at hnext

/-- Behind the first sentences of a text that can be split comes the next one. -/
theorem next_of_splits {front : List Span} (h : spansFrom text offset = (spans, none))
    (hfront : front <+: spans) :
    next text (reach offset front) = .ok (spans.drop front.length).head? := by
  have hsplits : Splits text offset front := by rwa [Splits, h]
  rw [next_eq, spansFrom_reach hsplits, h]
  cases spans.drop front.length <;> rfl

/-- Nothing is found where a text ends. -/
theorem next_of_length_le (h : (Text.bytes text).length ≤ offset) :
    next text offset = .ok none := by
  unfold next
  dsimp only
  rw [List.drop_of_length_le h, scan, skipBlanks]
  rfl

/-- A text that is split without an error is split into all that follows its start. -/
theorem spansFrom_of_splitAll (h : splitAll text = .ok spans) :
    spansFrom text 0 = (spans, none) := by
  unfold splitAll at h
  split at h
  · next heq =>
    rw [Except.ok.injEq] at h
    rwa [h] at heq
  · simp at h

/-- A text is split into sentences that are found one behind the other and behind which none is
found. -/
theorem splitAll_eq_ok_iff :
    splitAll text = .ok spans ↔ Splits text 0 spans ∧ next text (reach 0 spans) = .ok none := by
  constructor
  · intro h
    have hspans := spansFrom_of_splitAll h
    have hsplits : Splits text 0 spans := by rw [Splits, hspans]
    have hnext := next_of_splits hspans (List.prefix_refl spans)
    rw [List.drop_length] at hnext
    exact ⟨hsplits, hnext⟩
  · rintro ⟨hsplits, hnext⟩
    -- the search from the start finds these spans, and then nothing
    have hfirst := eq_of_splits hsplits hnext
    have hrest := congrArg Prod.snd (spansFrom_reach hsplits)
    rw [spansFrom_eq, hnext] at hrest
    have hspans : spansFrom text 0 = (spans, none) := Prod.ext hfirst hrest.symm
    rw [splitAll, hspans]

/-- Behind the last sentence of a text that cannot be split to its end comes what is wrong. -/
theorem next_of_snd_eq_some (h : (spansFrom text offset).2 = some e) :
    next text (reach offset (spansFrom text offset).1) = .error e := by
  rw [next_eq, spansFrom_reach (List.prefix_refl _), List.drop_length, h]
  rfl

/-- Splitting a text fails with the error that ends the search for sentences. -/
theorem splitAll_eq_error_iff_snd : splitAll text = .error e ↔ (spansFrom text 0).2 = some e := by
  unfold splitAll
  split
  · next heq => simp [heq]
  · next heq => simp [heq]

/-- A text cannot be split if what comes behind sentences that are found one behind the other
cannot. -/
theorem splitAll_eq_error_iff :
    splitAll text = .error e ↔
    ∃ spans, Splits text 0 spans ∧ next text (reach 0 spans) = .error e := by
  rw [splitAll_eq_error_iff_snd]
  constructor
  · exact fun h => ⟨(spansFrom text 0).1, List.prefix_refl _, next_of_snd_eq_some h⟩
  · rintro ⟨spans, hsplits, hnext⟩
    have hrest := congrArg Prod.snd (spansFrom_reach hsplits)
    rw [spansFrom_eq, hnext] at hrest
    exact hrest.symm

end ProofDesk.Sentence
