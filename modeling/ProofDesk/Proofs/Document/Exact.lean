import Mathlib.Order.Bounds.Defs
import ProofDesk.Proofs.Document.WellFormed

/-!
# Edits are exact

A fresh split of the new text would find some of the sentences again that there were before an edit,
each where the edit moves it to. An edit keeps just these (`Reached.replace_exact`), although it
splits the new text around the edit only.
-/

namespace ProofDesk

open Text

/-- Where a span stands once the bytes of `range` have been replaced by `length` bytes; nowhere if
it meets them. -/
def Span.carried? (range : Span) (length : Nat) (s : Span) : Option Span :=
  if s.stop ≤ range.start then some s
  else if range.stop ≤ s.start then
  some ⟨s.start + length - range.length, s.stop + length - range.length⟩
  else none

/-- Where a sentence must be found after an edit is where the replaced range carries its span. -/
private theorem Edit.image?_eq_carried? {range : Span} (hle : range.start ≤ range.stop)
    (length : Nat) {x : Sentence} (hx : x.span.start < x.span.stop) :
    Edit.image? ⟨range.start, range.stop, range.start + length⟩ x =
      range.carried? length x.span := by
  unfold Edit.image? Span.carried?
  split
  · rfl
  · simp only [Edit.isBefore, decide_eq_true_eq]
    split
    · simp only [Span.shift, Edit.delta, Span.length, Option.some.injEq, Span.mk.injEq]
      omega
    · rfl

/-- A sentence that is carried over an edit gets the span that is carried over. -/
private theorem Edit.map_span_carry? (e : Edit) (x : Sentence) :
    (e.carry? x).map (·.span) = e.image? x := by
  rw [carry?, Option.map_map]
  exact Option.map_id'

namespace Document

/-- Of the sentences in front of the doomed ones the first `k` are carried to where a fresh split of
a text finds its first `k` sentences. -/
def Survive (d : Document) (carried : Sentence → Option Span) (text : String) (k : Nat) : Prop :=
  k ≤ d.active.length ∧ ∃ spans, spans <+: (Sentence.spansFrom text 0).1 ∧
    (d.active.take k).map carried = spans.map some

/-- How many sentences survive depends only on where those of the document are carried. -/
private theorem survive_congr {d : Document} {f g : Sentence → Option Span}
    (h : ∀ x ∈ d.active, f x = g x)
    (text : String) (k : Nat) : d.Survive f text k ↔ d.Survive g text k := by
  have hmap : (d.active.take k).map f = (d.active.take k).map g :=
    List.map_congr_left fun x hx => h x (List.mem_of_mem_take hx)
  unfold Survive
  rw [hmap]

section Exact

variable {d : Document} {e : Edit} {old : String}

/-- What an edit keeps is as much as a fresh split finds again. -/
theorem isGreatest_comparison (ht : e.Turns old.toList d.text.toList)
    (hlaid : ProofDesk.Laid old d.active)
    (hsplits : Sentence.Splits old 0 (d.active.map (·.span))) :
    IsGreatest {k | d.Survive e.image? d.text k} (d.comparison e).1.length := by
  have hkept := splits_comparison ht hsplits
  have hlen := length_comparison d e
  have hcarry : (d.active.take (d.comparison e).1.length).map e.image? =
      ((d.comparison e).1.map (·.span)).map some := by
    have hmap := congrArg (List.map (Option.map (·.span))) (carry_comparison ht hlaid)
    rw [List.map_map, List.map_map] at hmap
    rw [List.map_map]
    exact (List.map_congr_left fun x _ => (e.map_span_carry? x).symm).trans hmap
  refine ⟨⟨by omega, _, hkept, hcarry⟩, fun k hk => ?_⟩
  obtain ⟨hle, spans, hspans, hmap⟩ := hk
  by_contra hlt
  -- the first sentence that is not kept would be found as well
  obtain ⟨m, rfl⟩ := Nat.exists_eq_add_of_lt (Nat.not_le.1 hlt)
  have hdrop := drop_comparison d e
  cases hlost : (d.comparison e).2 with
  | nil =>
    rw [hlost, List.length_nil] at hlen
    omega
  | cons y rest =>
    rw [hlost] at hdrop
    rw [Nat.add_assoc, List.take_add, ← hdrop, List.take_succ_cons, List.map_append, hcarry,
      List.map_cons] at hmap
    obtain ⟨front, back, rfl, hfront, hback⟩ := List.map_eq_append_iff.1 hmap.symm
    obtain ⟨image, more, rfl, himage, -⟩ := List.map_eq_cons_iff.1 hback
    rw [List.map_inj_right fun _ _ => Option.some.inj] at hfront
    subst hfront
    have hnext := (Sentence.splits_cons.1 (Sentence.splits_append.1 hspans).2).1
    rw [Sentence.reach_map_span] at hnext
    exact next_ne_of_comparison hlost himage.symm hnext

/-- What is left in front of the doomed sentences is what an edit keeps, each sentence in its new
place. -/
private theorem active_reconcile (ht : e.Turns old.toList d.text.toList)
    (hlaid : ProofDesk.Laid old d.active) (hclear : d.doomed ≠ [] → d.unsent = []) :
    (d.reconcile e).2.active.map some = (d.active.take (d.comparison e).1.length).map e.carry? := by
  have hclear' := (reconciled_reconcile d e).clear hclear
  rw [active_eq hclear', live_append_unsent_reconcile hclear hlaid, carry_comparison ht hlaid]

/-- What an edit comes to tells how much it keeps. -/
private theorem outcome_reconcile (d : Document) (e : Edit) :
    ((d.reconcile e).1 = .shifted ↔ (d.comparison e).1.length = d.active.length) ∧
    (∀ id, (d.reconcile e).1 = .rollback id ↔ (d.comparison e).1.length < d.locked ∧
      d.active[(d.comparison e).1.length]?.map (·.id) = some id) ∧
    ((d.reconcile e).1 = .dropped ↔ (d.comparison e).1.length < d.active.length ∧
      d.locked ≤ (d.comparison e).1.length) := by
  have hlen := length_comparison d e
  have hdrop := drop_comparison d e
  have hlive := d.length_live_le
  rw [reconcile_eq]
  generalize d.comparison e = parts at hlen hdrop ⊢
  obtain ⟨kept, lost⟩ := parts
  dsimp only at hlen hdrop ⊢
  cases lost with
  | nil =>
    -- nothing is lost, so there is no next sentence
    rw [List.length_nil] at hlen
    have hnone : d.active[kept.length]? = none := List.getElem?_eq_none (by omega)
    refine ⟨by simpa using hlen, fun id => by simp [hnone], ?_⟩
    simp only [reduceCtorEq, false_iff]
    omega
  | cons x rest =>
    -- the first sentence that is lost is the next one
    have hget : d.active[kept.length]? = some x := by
      rw [← List.head?_drop, ← hdrop, List.head?_cons]
    have hlt := (List.getElem?_eq_some_iff.1 hget).1
    dsimp only
    by_cases hkept : kept.length < d.live.length
    · have hlocked := Nat.lt_of_lt_of_le hkept hlive
      rw [if_pos hkept]
      refine ⟨by simpa using Nat.ne_of_lt hlt, fun id => by simp [hget, hlocked], ?_⟩
      simp only [reduceCtorEq, false_iff]
      omega
    · -- a sentence behind the live ones is compared only where none is doomed
      have hlocked : d.locked ≤ kept.length := by
        by_cases hd : d.doomed = []
        · rw [locked, hd, List.length_nil]
          omega
        · rw [active, if_neg hd] at hlt
          exact absurd hlt hkept
      rw [if_neg hkept]
      refine ⟨by simpa using Nat.ne_of_lt hlt, fun id => ?_, by simpa using ⟨hlt, hlocked⟩⟩
      simp only [reduceCtorEq, false_iff]
      omega

end Exact

/-- A valid edit of a document that operations have led to keeps the sentences that splitting the
new text finds first, as many as there are, each where the edit moves it to and otherwise as it was,
and says what became of the next one. -/
theorem Reached.replace_exact {text : String} {d : Document} (hr : Reached (ofText text) d)
    {range : Span} {replacement : String} (hle : range.start ≤ range.stop)
    (hstart : IsBoundary d.text.toList range.start) (hstop : IsBoundary d.text.toList range.stop) :
    ∃ (outcome : Reconciliation) (d' : Document) (k : Nat),
      d.replace range replacement = .ok (outcome, d') ∧
      d'.text = String.ofList (splice d.text.toList range.start range.stop replacement.toList) ∧
      IsGreatest
        {k | d.Survive (fun x => range.carried? (size replacement.toList) x.span) d'.text k} k ∧
      d'.active.map some = (d.active.take k).map (fun x =>
        (range.carried? (size replacement.toList) x.span).map fun span => { x with span }) ∧
      (outcome = .shifted ↔ k = d.active.length) ∧
      (∀ id, outcome = .rollback id ↔ k < d.locked ∧ d.active[k]?.map (·.id) = some id) ∧
      (outcome = .dropped ↔ k < d.active.length ∧ d.locked ≤ k) := by
  have h := hr.wellFormed (.ofText text)
  generalize hnew :
    String.ofList (splice d.text.toList range.start range.stop replacement.toList) = new
  let e : Edit := ⟨range.start, range.stop, range.start + size replacement.toList⟩
  let d₁ : Document := { d with text := new }
  -- the sentences that are compared stand in order, and are the first ones that splitting finds
  have hactive : d₁.active = d.live ++ d.unsent := active_eq h.clear
  have hlaid : ProofDesk.Laid d.text d₁.active := hactive ▸ h.laid
  have hsplits : Sentence.Splits d.text 0 (d₁.active.map (·.span)) := hactive ▸ h.splits
  have hturns : e.Turns d.text.toList d₁.text.toList := by
    show e.Turns d.text.toList new.toList
    rw [← hnew, String.toList_ofList]
    exact turns_splice hle hstart hstop _
  have himage : ∀ x ∈ d₁.active, e.image? x = range.carried? (size replacement.toList) x.span :=
    fun x hx => Edit.image?_eq_carried? hle _ (hlaid.placed x hx).1
  have hreplace : d.replace range replacement = .ok (d₁.reconcile e) := by
    unfold Document.replace
    dsimp only
    rw [if_pos ⟨hle, hstart, hstop⟩, hnew]
  have hgreatest := isGreatest_comparison hturns hlaid hsplits
  obtain ⟨hshifted, hrollback, hdropped⟩ := outcome_reconcile d₁ e
  refine ⟨(d₁.reconcile e).1, (d₁.reconcile e).2, (d₁.comparison e).1.length, hreplace,
    text_reconcile d₁ e, ?_, ?_, hshifted, hrollback, hdropped⟩
  · rw [text_reconcile]
    simp only [survive_congr himage] at hgreatest
    exact hgreatest
  · refine (active_reconcile hturns hlaid h.clear).trans (List.map_congr_left fun x hx => ?_)
    rw [Edit.carry?, himage x (List.mem_of_mem_take hx)]

/-- The blank between two sentences is deleted: neither is found again, and the first one has been
sent. -/
theorem replace_exact_of_joined : ∃ d', Reached (ofText "A. B.") sentFirstOfTwo ∧
    sentFirstOfTwo.replace ⟨2, 3⟩ "" = .ok (.rollback 0, d') ∧ d'.text = "A.B." ∧ d'.active = [] ∧
    IsGreatest
      {k | sentFirstOfTwo.Survive (fun x => Span.carried? ⟨2, 3⟩ 0 x.span) d'.text k} 0 := by
  obtain ⟨outcome, d', k, hreplace, -, hgreatest, -, -, hrollback, -⟩ :=
    @Reached.replace_exact _ _ reached_sentFirstOfTwo ⟨2, 3⟩ "" (by decide) (by decide) (by decide)
  rw [replace_joined, Except.ok.injEq, Prod.mk.injEq] at hreplace
  obtain ⟨rfl, rfl⟩ := hreplace
  -- only one sentence has been sent
  have hlt : k < 1 := ((hrollback 0).1 rfl).1
  obtain rfl : k = 0 := by omega
  exact ⟨joined, reached_sentFirstOfTwo, replace_joined, rfl, rfl, hgreatest⟩

end Document

end ProofDesk
