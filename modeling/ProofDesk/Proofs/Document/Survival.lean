import ProofDesk.Proofs.Document.Placement
import ProofDesk.Proofs.Sentence.Locality
import ProofDesk.Proofs.Sentence.Splits

/-!
# What survives an edit

The live and unsent sentences of a document are the first that splitting its text finds (`Splits`).
What an edit keeps of them is found first in the new text as well, in the places that the edit moves
it to (`splits_comparison`, `carry_comparison`), and the first sentence that it does not keep is not
found next (`next_ne_of_comparison`). The comparison looks at the new text around the edit only:
sentences that end in front of it and sentences that begin behind it depend on bytes that both texts
share (`Edit.Turns.next_front`, `Edit.Turns.next_back`).
-/

namespace ProofDesk

open Text

namespace Sentence

/-- Where the spans of sentences reach is where the last sentence ends. -/
theorem reach_map_span (ss : List Sentence) : reach 0 (ss.map (·.span)) = Document.endOf ss := by
  rcases List.eq_nil_or_concat ss with rfl | ⟨front, last, rfl⟩
  · rfl
  · rw [List.concat_eq_append, List.map_append, reach_append, Document.endOf, List.getLast?_concat]
    rfl

end Sentence

open Sentence

/-! ## Both texts -/

section Turns

variable {e : Edit} {old new : String} {offset : Nat} {span : Span} {spans : List Span}

/-- An edit replaces the bytes between two parts that both texts share. -/
theorem Edit.Turns.exists_bytes (ht : e.Turns old.toList new.toList) :
    ∃ front mid mid' back, bytes old = front ++ mid ++ back ∧ bytes new = front ++ mid' ++ back ∧
      front.length = e.start ∧ (front ++ mid).length = e.oldStop ∧
      (front ++ mid').length = e.newStop := by
  obtain ⟨front, mid, mid', back, hold, hnew, hstart, holdStop, hnewStop⟩ := ht
  refine ⟨encode front, encode mid, encode mid', encode back, ?_, ?_, ?_, ?_, ?_⟩
  · rw [bytes, hold, encode_append, encode_append]
  · rw [bytes, hnew, encode_append, encode_append]
  · rw [length_encode, hstart]
  · rw [List.length_append, length_encode, length_encode, holdStop]
  · rw [List.length_append, length_encode, length_encode, hnewStop]

/-- A sentence that ends in front of an edit is found in the new text as well. -/
private theorem Edit.Turns.next_front (ht : e.Turns old.toList new.toList)
    (h : next old offset = .ok (some span))
    (hstop : span.stop < e.start) : next new offset = .ok (some span) := by
  obtain ⟨front, mid, mid', back, hold, hnew, hstart, -, -⟩ := ht.exists_bytes
  obtain ⟨hle, hlt, -⟩ := next_bounds h
  -- the byte behind the sentence is still one of the front
  have hfront : ∀ rest : List UInt8, ((front ++ rest).drop offset).take (span.stop + 1 - offset) =
      (front.drop offset).take (span.stop + 1 - offset) := fun rest => by
    rw [List.drop_append_of_le_length (by omega),
      List.take_append_of_le_length (by rw [List.length_drop]; omega)]
  have hsame : ((bytes new).drop offset).take (span.stop + 1 - offset) =
      ((bytes old).drop offset).take (span.stop + 1 - offset) := by
    rw [hold, hnew, List.append_assoc, List.append_assoc, hfront, hfront]
  rw [next_congr h hsame, Nat.sub_add_cancel hle,
    Nat.sub_add_cancel (Nat.le_trans hle (Nat.le_of_lt hlt))]

/-- A sentence that is looked for behind an edit is found in the new text, where the edit moves it
to. -/
private theorem Edit.Turns.next_back (ht : e.Turns old.toList new.toList)
    (h : next old offset = .ok (some span)) (hle : e.oldStop ≤ offset) :
    next new (offset + e.delta).toNat = .ok (some (span.shift e.delta)) := by
  obtain ⟨front, mid, mid', back, hold, hnew, -, holdStop, hnewStop⟩ := ht.exists_bytes
  obtain ⟨hstart, hlt, -⟩ := next_bounds h
  obtain ⟨n, rfl⟩ := Nat.exists_eq_add_of_le hle
  have hoffset : ((e.oldStop + n : Nat) + e.delta).toNat = e.newStop + n := by
    unfold Edit.delta
    omega
  -- from there on both texts have the bytes of the back
  have hsame : (bytes new).drop (e.newStop + n) = (bytes old).drop (e.oldStop + n) := by
    rw [hold, hnew, ← holdStop, ← hnewStop, List.drop_length_add_append,
      List.drop_length_add_append]
  rw [hoffset, next_congr h (congrArg (List.take (span.stop + 1 - (e.oldStop + n))) hsame)]
  simp only [Except.ok.injEq, Option.some.injEq, Span.shift, Span.mk.injEq, Edit.delta]
  omega

/-- Sentences that end in front of an edit are split off the new text as they were off the old
one. -/
theorem Edit.Turns.splits_front (ht : e.Turns old.toList new.toList) (h : Splits old offset spans)
    (hstop : ∀ span ∈ spans, span.stop < e.start) : Splits new offset spans := by
  induction spans generalizing offset with
  | nil => exact splits_nil _ _
  | cons span spans ih =>
    obtain ⟨hnext, hspans⟩ := splits_cons.1 h
    exact splits_cons.2 ⟨ht.next_front hnext (hstop span List.mem_cons_self),
      ih hspans fun span' h' => hstop span' (List.mem_cons_of_mem _ h')⟩

/-- Sentences behind an edit are split off the new text where the edit moved them. -/
theorem Edit.Turns.splits_back (ht : e.Turns old.toList new.toList) (h : Splits old offset spans)
    (hle : e.oldStop ≤ offset) :
    Splits new (offset + e.delta).toNat (spans.map (·.shift e.delta)) := by
  induction spans generalizing offset with
  | nil => exact splits_nil _ _
  | cons span spans ih =>
    obtain ⟨hnext, hspans⟩ := splits_cons.1 h
    have hbounds := next_bounds hnext
    exact splits_cons.2 ⟨ht.next_back hnext hle, ih hspans (by omega)⟩

end Turns

/-! ## The comparison -/

/-- A sentence in the place where it must be found after an edit; none if the edit touches it. -/
def Edit.carry? (e : Edit) (x : Sentence) : Option Sentence :=
  (e.image? x).map fun span => { x with span }

/-- A sentence in front of an edit must be found where it was. -/
theorem Edit.image?_of_stop_le {e : Edit} {x : Sentence} (h : x.span.stop ≤ e.start) :
    e.image? x = some x.span :=
  if_pos h

/-- A sentence behind an edit must be found where the edit moved it. -/
theorem Edit.image?_of_le_start {e : Edit} {x : Sentence} (hlt : x.span.start < x.span.stop)
    (hedit : e.start ≤ e.oldStop) (h : e.oldStop ≤ x.span.start) :
    e.image? x = some (x.span.shift e.delta) := by
  rw [image?, if_neg (by omega), if_pos (by simpa [isBefore] using h)]

/-- A sentence in front of an edit can only be found where it was. -/
theorem Edit.image?_of_not_isBefore {e : Edit} {x : Sentence} {span : Span}
    (h : e.image? x = some span)
    (hbehind : ¬ e.isBefore x = true) : x.span.stop ≤ e.start ∧ span = x.span := by
  rw [image?, if_neg hbehind] at h
  split at h
  · next hle => exact ⟨hle, (Option.some.inj h).symm⟩
  · simp at h

namespace Document

variable {e : Edit} {old : String}

/-- What a comparison keeps is found first in the new text. -/
private theorem splits_survivors {text : String} (ht : e.Turns old.toList text.toList)
    {ss : List Sentence} {offset : Nat} (h : ∃ oldOffset, Splits old oldOffset (ss.map (·.span))) :
    Splits text offset ((survivors text e offset ss).1.map (·.span)) := by
  fun_induction survivors text e offset ss with
  | case1 => exact splits_nil _ _
  | case2 offset x rest found hnext hbehind himage =>
    -- what follows a sentence behind the edit is found behind it again
    obtain ⟨oldOffset, h⟩ := h
    rw [List.map_cons, splits_cons] at h
    obtain ⟨-, hlt, -⟩ := next_bounds h.1
    have hle : e.oldStop ≤ x.span.start := by simpa [Edit.isBefore] using hbehind
    rw [Edit.image?_of_le_start hlt ht.start_le hle, Option.some.injEq] at himage
    subst himage
    have hback := ht.splits_back h.2 (by omega)
    rw [List.map_map] at hback
    rw [List.map_map, List.map_cons]
    exact splits_cons.2 ⟨hnext, hback⟩
  | case3 offset x rest found hnext hbehind more himage ih =>
    obtain ⟨oldOffset, h⟩ := h
    rw [List.map_cons, splits_cons] at h
    obtain ⟨-, rfl⟩ := Edit.image?_of_not_isBefore himage hbehind
    rw [List.map_cons]
    exact splits_cons.2 ⟨hnext, ih ⟨_, h.2⟩⟩
  | case4 => exact splits_nil _ _
  | case5 => exact splits_nil _ _

/-- What a comparison does not keep begins with a sentence that the new text does not have next. -/
private theorem next_ne_of_survivors {text : String} {ss : List Sentence} {offset : Nat}
    {x : Sentence} {rest : List Sentence} (h : (survivors text e offset ss).2 = x :: rest)
    {span : Span}
    (himage : e.image? x = some span) :
    next text (reach offset ((survivors text e offset ss).1.map (·.span))) ≠ .ok (some span) := by
  fun_induction survivors text e offset ss with
  | case1 => simp at h
  | case2 => simp at h
  | case3 offset y rest' found hnext hbehind more himage' ih =>
    obtain ⟨-, rfl⟩ := Edit.image?_of_not_isBefore himage' hbehind
    -- the sentence survives, and the one that is lost stands further on
    exact ih h
  | case4 offset y rest' image found hnext himage' hne =>
    rw [List.cons.injEq] at h
    obtain ⟨rfl, -⟩ := h
    rw [himage', Option.some.injEq] at himage
    subst himage
    simpa [hnext] using Ne.symm hne
  | case5 offset y rest' hnone =>
    rw [List.cons.injEq] at h
    obtain ⟨rfl, -⟩ := h
    exact hnone span span himage

section Comparison

variable {d : Document}

/-- What an edit keeps is found first in the new text. -/
theorem splits_comparison (ht : e.Turns old.toList d.text.toList)
    (h : Splits old 0 (d.active.map (·.span))) :
    Splits d.text 0 ((d.comparison e).1.map (·.span)) := by
  rw [← List.takeWhile_append_dropWhile (p := (·.span.stop < e.start)) (l := d.active),
    List.map_append, splits_append] at h
  unfold comparison
  dsimp only
  rw [List.map_append, splits_append, reach_map_span]
  refine ⟨ht.splits_front h.1 fun span hspan => ?_, splits_survivors ht ⟨_, h.2⟩⟩
  obtain ⟨x, hx, rfl⟩ := List.mem_map.1 hspan
  simpa using List.mem_takeWhile_imp hx

/-- What an edit does not keep begins with a sentence that the new text does not have next. -/
theorem next_ne_of_comparison {x : Sentence} {rest : List Sentence}
    (h : (d.comparison e).2 = x :: rest) {span : Span} (himage : e.image? x = some span) :
    next d.text (endOf (d.comparison e).1) ≠ .ok (some span) := by
  rw [← reach_map_span]
  unfold comparison
  dsimp only
  rw [List.map_append, reach_append, reach_map_span]
  exact next_ne_of_survivors h himage

/-- What an edit keeps are the first sentences that were compared, in the places that the edit moves
them to. -/
theorem carry_comparison (ht : e.Turns old.toList d.text.toList) (h : ProofDesk.Laid old d.active) :
    (d.active.take (d.comparison e).1.length).map e.carry? = (d.comparison e).1.map some := by
  obtain ⟨stay, moved, hkept, hall, -, hstay, hmoved⟩ := comparison_parts h e
  have hlen : (d.comparison e).1.length = (stay ++ moved).length := by
    rw [hkept, List.length_append, List.length_append, List.length_map]
  have htake : d.active.take (d.comparison e).1.length = stay ++ moved := by
    rw [hlen, ← hall, List.take_left']
    rfl
  rw [htake, hkept, List.map_append, List.map_append, List.map_map]
  -- in front of the edit sentences stay, and behind it they move
  congr 1
  · refine List.map_congr_left fun x hx => ?_
    rw [Edit.carry?, Edit.image?_of_stop_le (hstay x hx)]
    rfl
  · refine List.map_congr_left fun x hx => ?_
    have hmem : x ∈ d.active := by
      rw [← hall]
      exact List.mem_append_left _ (List.mem_append_right _ hx)
    rw [Edit.carry?, Edit.image?_of_le_start (h.placed x hmem).1 ht.start_le (hmoved x hx)]
    rfl

end Comparison

end Document

end ProofDesk
