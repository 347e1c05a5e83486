import ProofDesk.Proofs.Document.Coherent
import ProofDesk.Proofs.Sentence.Boundary
import Mathlib.Data.List.TakeWhile

/-!
# Where sentences stand

A sentence is placed in a text if the part of the text at its span is the text that was split off.
The live and unsent sentences of a document are placed in its text, one behind the other
(`Document.Laid`). Splitting puts the next sentence behind them, and an edit leaves those in front
of it where they are and moves those behind it along.
-/

namespace ProofDesk

open Text

/-- The part of the text where the sentence stands is the text that was split off. -/
def Sentence.PlacedIn (text : String) (x : Sentence) : Prop :=
  x.span.start < x.span.stop ∧ ∃ before after, text.toList = before ++ x.text.toList ++ after ∧
    x.span.start = Text.size before ∧ x.span.stop = Text.size before + Text.size x.text.toList

/-- What says where a sentence stands and what it says. -/
def Sentence.place (x : Sentence) : Span × String :=
  (x.span, x.text)

/-- Whether a sentence stands in a text depends on its span and its own text alone. -/
theorem Sentence.PlacedIn.congr {text : String} {x y : Sentence} (h : x.PlacedIn text)
    (hplace : y.place = x.place) :
    y.PlacedIn text := by
  obtain ⟨hspan, htext⟩ := Prod.mk.inj hplace
  unfold Sentence.PlacedIn
  rw [hspan, htext]
  exact h

/-- Between the ends of a placed sentence, which are boundaries, the text says what was split
off. -/
theorem Sentence.PlacedIn.reads {text : String} {x : Sentence} (h : x.PlacedIn text) :
    IsBoundary text.toList x.span.start ∧ IsBoundary text.toList x.span.stop ∧
      slice text.toList x.span.start x.span.stop = x.text.toList := by
  obtain ⟨-, before, after, htext, hstart, hstop⟩ := h
  rw [htext, hstart, hstop]
  refine ⟨?_, ?_, slice_append ..⟩
  · rw [List.append_assoc]
    exact isBoundary_append ..
  · rw [← size_append]
    exact isBoundary_append ..

/-- The sentences are placed in a text one behind the other. -/
structure Laid (text : String) (ss : List Sentence) : Prop where
  placed : ∀ x ∈ ss, x.PlacedIn text
  ordered : ss.Pairwise fun x y => x.span.stop ≤ y.span.start

namespace Laid

variable {text : String} {ss ss' : List Sentence}

/-- No sentences stand in any text. -/
theorem nil (text : String) : Laid text [] :=
  ⟨by simp, List.Pairwise.nil⟩

/-- Fewer sentences are laid as well, and only places matter. -/
theorem of_sublist (h : Laid text ss) (hsub : (ss'.map (·.place)).Sublist (ss.map (·.place))) :
    Laid text ss' := by
  refine ⟨fun x hx => ?_, ?_⟩
  · obtain ⟨y, hy, hplace⟩ := List.mem_map.1 (hsub.subset (List.mem_map_of_mem hx))
    exact (h.placed y hy).congr hplace.symm
  · have hmap : (ss.map (·.place)).Pairwise fun p q => p.1.stop ≤ q.1.start :=
      List.pairwise_map.2 h.ordered
    exact List.pairwise_map.1 (hmap.sublist hsub)

/-- The sentences end where the last of them ends. -/
theorem stop_le_endOf (h : Laid text ss) : ∀ x ∈ ss, x.span.stop ≤ Document.endOf ss := by
  intro x hx
  rcases List.eq_nil_or_concat ss with rfl | ⟨front, last, rfl⟩
  · simp at hx
  · rw [List.concat_eq_append] at h hx ⊢
    rw [Document.endOf, List.getLast?_concat]
    rcases List.mem_append.1 hx with hx | hx
    · have hle := (List.pairwise_append.1 h.ordered).2.2 x hx last List.mem_cons_self
      have hlt := (h.placed last (List.mem_append_right _ List.mem_cons_self)).1
      exact Nat.le_trans hle (Nat.le_of_lt hlt)
    · rw [List.mem_singleton.1 hx]

/-- The sentences end between characters. -/
private theorem exists_append (h : Laid text ss) :
    ∃ front rest, text.toList = front ++ rest ∧ Document.endOf ss = size front := by
  rcases List.eq_nil_or_concat ss with rfl | ⟨front, last, rfl⟩
  · exact ⟨[], text.toList, rfl, rfl⟩
  · rw [List.concat_eq_append] at h ⊢
    obtain ⟨-, before, after, htext, -, hstop⟩ := h.placed last (by simp)
    refine ⟨before ++ last.text.toList, after, htext, ?_⟩
    rw [Document.endOf, List.getLast?_concat, size_append]
    exact hstop

/-- The sentence that the splitter finds behind laid ones is laid behind them. -/
theorem concat (h : Laid text ss) {span : Span}
    (hnext : Sentence.next text (Document.endOf ss) = .ok (some span))
    (id : SentenceId) : Laid text (ss ++ Document.sentencesOf text id [span]) := by
  -- the text is cut at the end of the last sentence, and the rest at both ends of the new one
  obtain ⟨front, rest, htext, hend⟩ := h.exists_append
  rw [hend] at hnext
  obtain ⟨before, part, after, hrest, hstart, hstop⟩ := Sentence.exists_append_of_next htext hnext
  obtain ⟨hle, hlt, -⟩ := Sentence.next_bounds hnext
  have hwhole : text.toList = front ++ before ++ part ++ after := by
    rw [htext, hrest]
    simp only [List.append_assoc]
  have hslice : slice text.toList span.start span.stop = part := by
    rw [hwhole, hstart, hstop, size_append (front ++ before), slice_append]
  refine ⟨fun x hx => ?_,
    List.pairwise_append.2 ⟨h.ordered, List.pairwise_singleton _ _, fun x hx y hy => ?_⟩⟩
  · rcases List.mem_append.1 hx with hx | hx
    · exact h.placed x hx
    · rw [List.mem_singleton.1 hx]
      refine ⟨hlt, front ++ before, after, ?_, hstart, ?_⟩
      · rw [String.toList_ofList, hslice]
        exact hwhole
      · rw [String.toList_ofList, hslice, hstop, size_append (front ++ before)]
  · rw [List.mem_singleton.1 hy]
    have hx' := h.stop_le_endOf x hx
    rw [hend] at hx'
    exact Nat.le_trans hx' hle

end Laid

/-! ## Edits -/

/-- An edit turns one text into another: it replaces what stands between a front and a back part of
both. -/
def Edit.Turns (e : Edit) (old new : List Char) : Prop :=
  ∃ front mid mid' back, old = front ++ mid ++ back ∧ new = front ++ mid' ++ back ∧
    e.start = size front ∧ e.oldStop = size front + size mid ∧
    e.newStop = size front + size mid'

/-- What an edit replaces does not end in front of where it starts. -/
theorem Edit.Turns.start_le {e : Edit} {old new : List Char} (ht : e.Turns old new) :
    e.start ≤ e.oldStop := by
  obtain ⟨front, mid, mid', back, -, -, hstart, holdStop, -⟩ := ht
  omega

/-- Replacing a range between two boundaries is an edit that turns the old text into the new one. -/
theorem turns_splice {cs : List Char} {start stop : Nat} (hle : start ≤ stop)
    (hstart : IsBoundary cs start) (hstop : IsBoundary cs stop) (replacement : List Char) :
    Edit.Turns ⟨start, stop, start + size replacement⟩ cs (splice cs start stop replacement) := by
  obtain ⟨front, rest, hcs, rfl⟩ := exists_of_isBoundary hstart
  obtain ⟨upto, back, hcs', rfl⟩ := exists_of_isBoundary hstop
  obtain ⟨mid, rfl, -⟩ := exists_append_of_size_le (hcs.symm.trans hcs') hle
  refine ⟨front, mid, replacement, back, hcs', ?_, rfl, size_append .., rfl⟩
  rw [hcs', size_append, splice_append]

/-- What differs between two texts is an edit that turns one into the other. -/
theorem turns_editBetween (old new : List Char) : (Document.editBetween old new).Turns old new := by
  obtain ⟨hfront, hback⟩ := isGreatest_commonEnds old new
  obtain ⟨front, mid, mid', back, hold, hnew, hsizeFront, hsizeBack⟩ :=
    exists_parts hfront.1 hback.1
  have hsizeOld := congrArg size hold
  have hsizeNew := congrArg size hnew
  simp only [size_append] at hsizeOld hsizeNew
  refine ⟨front, mid, mid', back, hold, hnew, hsizeFront.symm, ?_, ?_⟩ <;>
    dsimp only [Document.editBetween] <;> omega

section Turns

variable {e : Edit} {old new : String} {x : Sentence}

/-- A sentence in front of an edit stays in place. -/
theorem Edit.Turns.placed (ht : e.Turns old.toList new.toList) (hx : x.PlacedIn old)
    (hle : x.span.stop ≤ e.start) :
    x.PlacedIn new := by
  obtain ⟨front, mid, mid', back, hold, hnew, hstart, -, -⟩ := ht
  obtain ⟨hlt, before, after, hparts, hbegin, hend⟩ := hx
  rw [hold, List.append_assoc front] at hparts
  rw [hstart, hend, ← size_append] at hle
  -- the sentence ends within the front that both texts share
  obtain ⟨between, rfl, -⟩ := exists_append_of_size_le hparts.symm hle
  refine ⟨hlt, before, between ++ mid' ++ back, ?_, hbegin, hend⟩
  rw [hnew]
  simp only [List.append_assoc]

/-- A sentence behind an edit moves with the text. -/
theorem Edit.Turns.placed_shift (ht : e.Turns old.toList new.toList) (hx : x.PlacedIn old)
    (hle : e.oldStop ≤ x.span.start) : (x.shift e.delta).PlacedIn new := by
  obtain ⟨front, mid, mid', back, hold, hnew, -, holdStop, hnewStop⟩ := ht
  obtain ⟨hlt, before, after, hparts, hbegin, hend⟩ := hx
  rw [hold, List.append_assoc before] at hparts
  rw [holdStop, hbegin, ← size_append] at hle
  -- the sentence begins within the back that both texts share
  obtain ⟨between, rfl, hback⟩ := exists_append_of_size_le hparts hle
  simp only [size_append] at hbegin hend
  have hstart : (x.shift e.delta).span.start = size (front ++ mid' ++ between) := by
    simp only [Sentence.shift, Span.shift, Edit.delta, size_append]
    omega
  have hstop :
      (x.shift e.delta).span.stop = size (front ++ mid' ++ between) + size x.text.toList := by
    simp only [Sentence.shift, Span.shift, Edit.delta, size_append]
    omega
  refine ⟨?_, front ++ mid' ++ between, after, ?_, hstart, hstop⟩
  · rw [hstart, hstop]
    omega
  · rw [hnew, hback]
    simp only [Sentence.shift, List.append_assoc]

/-- Sentences in front of an edit and, behind them, sentences behind the edit are laid in the new
text. -/
theorem Edit.Turns.laid (ht : e.Turns old.toList new.toList) {stay moved : List Sentence}
    (h : Laid old (stay ++ moved)) (hstay : ∀ x ∈ stay, x.span.stop ≤ e.start)
    (hmoved : ∀ x ∈ moved, e.oldStop ≤ x.span.start) :
    Laid new (stay ++ moved.map (·.shift e.delta)) := by
  obtain ⟨hordered, hordered', -⟩ := List.pairwise_append.1 h.ordered
  -- what stays ends at the start of the edit, and what moves begins behind its end
  have hle : e.start ≤ e.newStop := by
    obtain ⟨front, mid, mid', back, _, _, hstart, _, hnewStop⟩ := ht
    omega
  refine ⟨fun x hx => ?_,
    List.pairwise_append.2 ⟨hordered, List.pairwise_map.2 ?_, fun x hx y hy => ?_⟩⟩
  · rcases List.mem_append.1 hx with hx | hx
    · exact ht.placed (h.placed x (List.mem_append_left _ hx)) (hstay x hx)
    · obtain ⟨y, hy, rfl⟩ := List.mem_map.1 hx
      exact ht.placed_shift (h.placed y (List.mem_append_right _ hy)) (hmoved y hy)
  · refine hordered'.imp fun {x y} hxy => ?_
    simp only [Sentence.shift, Span.shift]
    omega
  · obtain ⟨z, hz, rfl⟩ := List.mem_map.1 hy
    have hx' := hstay x hx
    have hz' := hmoved z hz
    simp only [Sentence.shift, Span.shift, Edit.delta]
    omega

end Turns

namespace Document

/-- What a comparison keeps is sentences that stay where they are and, if no sentence is lost,
sentences that move with the text behind the edit. -/
private theorem survivors_parts (text : String) (e : Edit) (offset : Nat) {ss : List Sentence}
    (hne : ∀ x ∈ ss, x.span.start < x.span.stop)
    (hordered : ss.Pairwise fun x y => x.span.stop ≤ y.span.start) :
    ∃ stay moved, (survivors text e offset ss).1 = stay ++ moved.map (·.shift e.delta) ∧
      stay ++ moved ++ (survivors text e offset ss).2 = ss ∧
      (moved = [] ∨ (survivors text e offset ss).2 = []) ∧ (∀ x ∈ stay, x.span.stop ≤ e.start) ∧
      ∀ x ∈ moved, e.oldStop ≤ x.span.start := by
  fun_induction survivors text e offset ss with
  | case1 => exact ⟨[], [], rfl, rfl, .inl rfl, by simp, by simp⟩
  | case2 offset x rest found hnext hbehind himage =>
    -- what follows a sentence behind the edit is behind it, too
    simp only [Edit.isBefore, decide_eq_true_eq] at hbehind
    refine ⟨[], x :: rest, rfl, by simp, .inr rfl, by simp, fun y hy => ?_⟩
    rcases List.mem_cons.1 hy with rfl | hy
    · exact hbehind
    · have hlt := hne x List.mem_cons_self
      have hle := (List.pairwise_cons.1 hordered).1 y hy
      omega
  | case3 offset x rest found hnext hbehind more himage ih =>
    obtain ⟨stay, moved, hkept, hall, hlost, hstay, hmoved⟩ :=
      ih (fun y hy => hne y (List.mem_cons_of_mem _ hy)) (List.pairwise_cons.1 hordered).2
    have hfront : x.span.stop ≤ e.start := by
      unfold Edit.image? at himage
      split at himage
      · next hle => exact hle
      · simp at himage
    refine ⟨x :: stay, moved, congrArg (x :: ·) hkept, congrArg (x :: ·) hall, hlost,
      fun y hy => ?_, hmoved⟩
    rcases List.mem_cons.1 hy with rfl | hy
    · exact hfront
    · exact hstay y hy
  | case4 => exact ⟨[], [], rfl, rfl, .inl rfl, by simp, by simp⟩
  | case5 => exact ⟨[], [], rfl, rfl, .inl rfl, by simp, by simp⟩

/-- The live and unsent sentences are placed in the text one behind the other. -/
def Laid (d : Document) : Prop :=
  ProofDesk.Laid d.text (d.live ++ d.unsent)

/-- What is compared with the new text is all that is laid. -/
theorem active_eq {d : Document} (hclear : d.doomed ≠ [] → d.unsent = []) :
    d.active = d.live ++ d.unsent := by
  unfold active
  split
  · rfl
  · next hd => rw [hclear hd, List.append_nil]

/-- The parts of what an edit keeps. -/
theorem comparison_parts {d : Document} {old : String}
    (h : ProofDesk.Laid old d.active) (e : Edit) :
    ∃ stay moved, (d.comparison e).1 = stay ++ moved.map (·.shift e.delta) ∧
      stay ++ moved ++ (d.comparison e).2 = d.active ∧ (moved = [] ∨ (d.comparison e).2 = []) ∧
      (∀ x ∈ stay, x.span.stop ≤ e.start) ∧ ∀ x ∈ moved, e.oldStop ≤ x.span.start := by
  -- only the sentences that do not end in front of the edit are compared
  have hsub : (d.active.dropWhile (·.span.stop < e.start)).Sublist d.active :=
    (List.dropWhile_suffix _).sublist
  obtain ⟨stay, moved, hkept, hall, hlost, hstay, hmoved⟩ :=
    survivors_parts d.text e (endOf (d.active.takeWhile (·.span.stop < e.start)))
      (fun x hx => (h.placed x (hsub.subset hx)).1) (h.ordered.sublist hsub)
  refine ⟨d.active.takeWhile (·.span.stop < e.start) ++ stay, moved, ?_, ?_, hlost,
    fun x hx => ?_, hmoved⟩
  · unfold comparison
    dsimp only
    rw [hkept, List.append_assoc]
  · unfold comparison
    dsimp only
    rw [List.append_assoc, List.append_assoc, ← List.append_assoc stay, hall,
      List.takeWhile_append_dropWhile]
  · rcases List.mem_append.1 hx with hx | hx
    · have hlt := List.mem_takeWhile_imp hx
      simp only [decide_eq_true_eq] at hlt
      exact Nat.le_of_lt hlt
    · exact hstay x hx

/-- Where a sentence is lost, those in front of it have stayed where they were. -/
private theorem comparison_prefix {d : Document} {old : String}
    (h : ProofDesk.Laid old d.active) {e : Edit}
    (hlost : (d.comparison e).2 ≠ []) : (d.comparison e).1 <+: d.active := by
  obtain ⟨stay, moved, hkept, hall, hmoved, -, -⟩ := comparison_parts h e
  rw [hmoved.resolve_right hlost, List.map_nil, List.append_nil] at hkept
  rw [hmoved.resolve_right hlost, List.append_nil, ← hkept] at hall
  exact ⟨_, hall⟩

/-- What an edit leaves live or unsent is what survives the comparison. -/
theorem live_append_unsent_reconcile {d : Document} {old : String} {e : Edit}
    (hclear : d.doomed ≠ [] → d.unsent = []) (h : ProofDesk.Laid old d.active) :
    (d.reconcile e).2.live ++ (d.reconcile e).2.unsent = (d.comparison e).1 := by
  -- all kept where they were if any is lost; and never more kept than there were
  have hprefix := comparison_prefix h (e := e)
  have hlen := length_comparison d e
  have hactive := active_eq hclear
  rw [reconcile_eq]
  generalize d.comparison e = parts at hprefix hlen ⊢
  obtain ⟨kept, lost⟩ := parts
  cases lost with
  | nil =>
    dsimp only [List.length_nil] at hlen ⊢
    by_cases hd : d.doomed = []
    · rw [if_pos hd, List.take_append_drop]
    · -- while sentences are doomed nothing is unsent, and all that is kept is live
      rw [hactive, hclear hd, List.append_nil] at hlen
      rw [if_neg hd, hclear hd, List.append_nil]
      exact List.take_of_length_le (Nat.le_of_eq hlen)
  | cons x rest =>
    dsimp only at hprefix hlen ⊢
    by_cases hlt : kept.length < d.live.length
    · -- a live sentence is lost, and nothing behind it is kept
      rw [if_pos hlt]
      exact List.append_nil kept
    · -- all live sentences are kept where they were
      rw [if_neg hlt]
      obtain ⟨lost, hlost⟩ := (hactive ▸ hprefix) (by simp)
      have hlive : kept.take d.live.length = d.live := by
        have htake := congrArg (List.take d.live.length) hlost
        rwa [List.take_append_of_le_length (Nat.not_lt.1 hlt), List.take_left' rfl] at htake
      dsimp only
      nth_rewrite 1 [← hlive]
      exact List.take_append_drop _ _

@[simp] theorem text_reconcile (d : Document) (e : Edit) : (d.reconcile e).2.text = d.text := by
  rw [reconcile_eq]
  split
  · rfl
  · split <;> rfl

/-- An edit keeps sentences where they say they are. -/
theorem laid_reconcile {d : Document} {old : String} {e : Edit}
    (ht : e.Turns old.toList d.text.toList) (hclear : d.doomed ≠ [] → d.unsent = [])
    (h : ProofDesk.Laid old d.active) :
    (d.reconcile e).2.Laid := by
  obtain ⟨stay, moved, hkept, hall, -, hstay, hmoved⟩ := comparison_parts h e
  unfold Laid
  rw [live_append_unsent_reconcile hclear h, text_reconcile, hkept]
  rw [← hall] at h
  exact ht.laid (h.of_sublist ((List.sublist_append_left _ _).map _)) hstay hmoved

/-- An edit by an editor leaves everything as it was, or turns the text into another one and brings
the sentences in line with it. -/
theorem Edits.eq_or_turns {d d' : Document} {outcome : Reconciliation} (he : d.Edits outcome d') :
    outcome = .shifted ∧ d' = d ∨ ∃ (text : String) (e : Edit), e.Turns d.text.toList text.toList ∧
      reconcile { d with text } e = (outcome, d') := by
  cases he with
  | @replace range replacement _ _ hreplace =>
    unfold Document.replace at hreplace
    dsimp only at hreplace
    split at hreplace
    · next hrange =>
      obtain ⟨hle, hstart, hstop⟩ := hrange
      rw [Except.ok.injEq] at hreplace
      refine .inr ⟨_, _, ?_, hreplace⟩
      rw [String.toList_ofList]
      -- the range was checked, so the edit is a splice at boundaries
      exact turns_splice hle hstart hstop _
    · simp at hreplace
  | setText text =>
    rw [setText_eq]
    split
    · exact .inl ⟨rfl, rfl⟩
    · exact .inr ⟨text, _, turns_editBetween _ _, rfl⟩

/-- An edit by an editor keeps sentences where they say they are. -/
theorem Edits.laid {d d' : Document} {outcome : Reconciliation} (he : d.Edits outcome d')
    (hclear : d.doomed ≠ [] → d.unsent = []) (h : d.Laid) : d'.Laid := by
  rcases he.eq_or_turns with ⟨-, rfl⟩ | ⟨text, e, hturns, hreconcile⟩
  · exact h
  · have hlaid : ProofDesk.Laid d.text ({ d with text } : Document).active := by
      rw [active_eq (d := { d with text }) hclear]
      exact h
    have hlaid' := laid_reconcile (d := { d with text }) hturns hclear hlaid
    rwa [hreconcile] at hlaid'

namespace Laid

variable {d d' : Document}

/-- The sentences of a new document, of which there are none, stand in its text. -/
theorem ofText (text : String) : (ofText text).Laid :=
  .nil text

/-- Splitting goes on behind the last sentence. -/
theorem extend (h : d.Laid) (hd : d.doomed = []) (he : d.Extends d') : d'.Laid := by
  unfold Laid at h ⊢
  rw [he.text, he.live]
  rcases he.unsent with hsame | ⟨span, hnext, hspan⟩
  · rw [hsame]
    exact h
  -- the next sentence is looked for behind the last one there is
  · have hall : d.sentences = d.live ++ d.unsent := by
      rw [sentences, hd, List.append_nil]
    rw [hall] at hnext
    rw [hspan, ← List.append_assoc]
    exact h.concat hnext _

/-- Sending a sentence leaves all where they stand. -/
theorem withPending (h : d.Laid) {x : Sentence} {later : List Sentence}
    (hx : d.unsent = x :: later) :
    (d.withPending x later).Laid := by
  unfold Laid at h ⊢
  rw [hx] at h
  refine ProofDesk.Laid.of_sublist h ?_
  simp [Document.withPending, Sentence.place]

/-- The sentences that are left after a rollback stand where they stood. -/
theorem truncateAt (h : d.Laid) (i : Nat) : (d.truncateAt i).2.Laid :=
  ProofDesk.Laid.of_sublist h ((live_append_unsent_truncateAt d i).sublist.map _)

/-- News about a sentence does not move it. -/
theorem modifyAt (h : d.Laid) (i : Nat) {f : Sentence → Sentence}
    (hf : ∀ x, (f x).place = x.place) :
    (d.modifyAt i f).Laid := by
  unfold Laid at h ⊢
  rw [text_modifyAt]
  exact ProofDesk.Laid.of_sublist h (by rw [map_live_append_unsent_modifyAt hf])

end Laid

end Document

end ProofDesk
