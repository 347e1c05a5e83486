import ProofDesk.Proofs.Document.Numbering
import ProofDesk.Proofs.Text.Difference

/-!
# What an edit does to the sentences

An edit moves sentences and divides them anew into live and doomed ones; nothing else about a
sentence that has been sent changes (`Reconciled`). Where a rollback is asked for, it is asked for
the first sentence that became doomed.
-/

namespace ProofDesk

namespace Document

/-- What `d'` keeps of `d` after an edit with a given outcome. -/
structure Reconciled (d : Document) (outcome : Reconciliation) (d' : Document) : Prop where
  root : d'.root = d.root
  nextId : d'.nextId = d.nextId
  /-- Sentences that have been sent only move. -/
  sent : d'.sent.map (·.unplaced) = d.sent.map (·.unplaced)
  /-- Unsent sentences only move, or are dropped from one on. -/
  unsent : d'.unsent.map (·.unplaced) <+: d.unsent.map (·.unplaced)
  /-- Only a rollback makes live sentences doomed, and it names the first of them. -/
  outcome : match outcome with
    | .rollback id =>
      ∃ y, d'.sent[d'.live.length]? = some y ∧ y.id = id ∧ d'.live.length < d.live.length ∧
        d'.unsent = []
    | _ => d'.live.length = d.live.length

/-- A text change by an editor: an edit of a range, or a new text. -/
inductive Edits (d : Document) : Reconciliation → Document → Prop
  | replace {range : Span} {replacement : String} {outcome : Reconciliation} {d' : Document}
      (h : d.replace range replacement = .ok (outcome, d')) : Edits d outcome d'
  | setText (text : String) : Edits d (d.setText text).1 (d.setText text).2

/-- Replacing a text by itself does nothing, and by another one makes the edit between them. -/
theorem setText_eq (d : Document) (text : String) :
    d.setText text =
      if d.text = text then (.shifted, d)
      else reconcile { d with text } (editBetween d.text.toList text.toList) := by
  unfold setText
  dsimp only [editBetween]
  simp only [Text.front_commonEnds_eq_iff, String.toList_inj]

/-- The sentences that a comparison keeps and those that it does not are the ones compared, up to
their places. -/
private theorem map_unplaced_survivors (text : String) (e : Edit) (offset : Nat)
    (ss : List Sentence) :
    (survivors text e offset ss).1.map (·.unplaced) ++
        (survivors text e offset ss).2.map (·.unplaced) =
      ss.map (·.unplaced) := by
  fun_induction survivors text e offset ss with
  | case1 => rfl
  | case2 => simp [Function.comp_def]
  -- a sentence in front of the edit is kept, and the comparison goes on behind it
  | case3 _ s rest _ _ more _ _ ih => exact congrArg (s.unplaced :: ·) ih
  | case4 => simp
  | case5 => simp

/-- What a comparison does not keep is the end of what was compared, as it was. -/
private theorem survivors_suffix (text : String) (e : Edit) (offset : Nat) (ss : List Sentence) :
    (survivors text e offset ss).2 <:+ ss := by
  fun_induction survivors text e offset ss with
  | case1 => exact List.suffix_refl _
  | case2 => exact List.nil_suffix
  | case3 _ s rest _ _ more _ _ ih => exact ih.trans (List.suffix_cons _ _)
  | case4 => exact List.suffix_refl _
  | case5 => exact List.suffix_refl _

/-- The sentences that an edit compares with the new text. -/
def active (d : Document) : List Sentence :=
  if d.doomed = [] then d.live ++ d.unsent else d.live

/-- The sentences that survive an edit and those that do not. -/
def comparison (d : Document) (e : Edit) : List Sentence × List Sentence :=
  let front := d.active.takeWhile (·.span.stop < e.start)
  let more := survivors d.text e (endOf front) (d.active.dropWhile (·.span.stop < e.start))
  (front ++ more.1, more.2)

/-- An edit puts the surviving sentences where they were and dooms or drops the others. -/
theorem reconcile_eq (d : Document) (e : Edit) :
    d.reconcile e =
      match d.comparison e with
      | (kept, []) =>
        (.shifted,
          { d with
            parseError := none
            live := kept.take d.live.length
            unsent := if d.doomed = [] then kept.drop d.live.length else d.unsent })
      | (kept, s :: _) =>
        if kept.length < d.live.length then
          (.rollback s.id,
            { d with
              parseError := none
              live := kept
              doomed := d.live.drop kept.length ++ d.doomed
              unsent := [] })
        else (.dropped, { d with parseError := none, unsent := kept.drop d.live.length }) := by
  unfold reconcile comparison active
  dsimp only
  -- only what survives counts, and the first sentence that does not
  generalize survivors d.text e _ _ = parts
  obtain ⟨kept, lost⟩ := parts
  cases lost <;> rfl

/-- A comparison keeps or gives up each active sentence, in order and up to its place. -/
theorem map_unplaced_comparison (d : Document) (e : Edit) :
    (d.comparison e).1.map (·.unplaced) ++ (d.comparison e).2.map (·.unplaced) =
      d.active.map (·.unplaced) := by
  unfold comparison
  dsimp only
  rw [List.map_append, List.append_assoc, map_unplaced_survivors, ← List.map_append,
    List.takeWhile_append_dropWhile]

/-- The sentences that a comparison gives up are the last ones. -/
theorem comparison_suffix (d : Document) (e : Edit) : (d.comparison e).2 <:+ d.active :=
  (survivors_suffix ..).trans (List.dropWhile_suffix _)

/-- What a comparison keeps and what it does not are as many sentences as are compared. -/
theorem length_comparison (d : Document) (e : Edit) :
    (d.comparison e).1.length + (d.comparison e).2.length = d.active.length := by
  simpa using congrArg List.length (map_unplaced_comparison d e)

/-- What an edit does not keep is what stands behind. -/
theorem drop_comparison (d : Document) (e : Edit) :
    (d.comparison e).2 = d.active.drop (d.comparison e).1.length := by
  rw [List.suffix_iff_eq_drop.1 (comparison_suffix d e), ← length_comparison d e,
    Nat.add_sub_cancel]

/-- Bringing the sentences in line with a changed text changes their places only. -/
theorem reconciled_reconcile (d : Document) (e : Edit) :
    d.Reconciled (d.reconcile e).1 (d.reconcile e).2 := by
  have hmap := map_unplaced_comparison d e
  have hlen := length_comparison d e
  have hlost := drop_comparison d e
  rw [reconcile_eq]
  generalize d.comparison e = parts at hmap hlen hlost ⊢
  obtain ⟨kept, lost⟩ := parts
  dsimp only at hmap hlen hlost
  cases lost with
  | nil =>
    rw [List.map_nil, List.append_nil] at hmap
    -- as many sentences are left as there were, and they are divided where they were divided
    by_cases hd : d.doomed = []
    · have hactive : d.active = d.live ++ d.unsent := by rw [active, if_pos hd]
      rw [hactive, List.map_append] at hmap
      have hlive : (kept.take d.live.length).map (·.unplaced) = d.live.map (·.unplaced) := by
        rw [List.map_take, hmap, List.take_left' (by simp)]
      have hunsent : (kept.drop d.live.length).map (·.unplaced) = d.unsent.map (·.unplaced) := by
        rw [List.map_drop, hmap, List.drop_left' (by simp)]
      refine ⟨rfl, rfl, ?_, ?_, ?_⟩
      · simp only [sent, List.map_append, hlive]
      · simp only [hd, if_true, hunsent]
        exact List.prefix_refl _
      · simpa using congrArg List.length hlive
    · have hactive : d.active = d.live := by rw [active, if_neg hd]
      rw [hactive] at hmap
      have hlen : kept.length = d.live.length := by simpa using congrArg List.length hmap
      have hlive : kept.take d.live.length = kept := List.take_of_length_le (by omega)
      refine ⟨rfl, rfl, ?_, ?_, ?_⟩
      · simp only [sent, List.map_append, hlive, hmap]
      · simp only [hd, if_false]
        exact List.prefix_refl _
      · simp [hlen]
  | cons s rest =>
    -- what is lost is the end of what was compared, so the kept ones are as many as stand in front
    have hkept : kept.map (·.unplaced) = (d.active.take kept.length).map (·.unplaced) := by
      rw [List.map_take, ← hmap, List.take_left' (by simp)]
    by_cases hlt : kept.length < d.live.length
    · -- the live sentences behind the surviving ones become doomed
      have hprefix : d.live <+: d.active := by
        unfold active
        split
        · exact List.prefix_append _ _
        · exact List.prefix_refl _
      obtain ⟨behind, hbehind⟩ := hprefix
      simp only [hlt, if_true]
      refine ⟨rfl, rfl, ?_, List.nil_prefix, s, ?_, rfl, hlt, rfl⟩
      · rw [← hbehind, List.take_append_of_le_length (Nat.le_of_lt hlt)] at hkept
        simp only [sent, List.map_append]
        rw [hkept, ← List.append_assoc, ← List.map_append, List.take_append_drop]
      · rw [← hbehind, List.drop_append_of_le_length (Nat.le_of_lt hlt)] at hlost
        -- the first sentence lost is live, as not all live ones are kept
        have hhead : (d.live.drop kept.length).head? = some s := by
          have hne : d.live.drop kept.length ≠ [] := by
            rw [Ne, List.drop_eq_nil_iff]
            omega
          obtain ⟨y, ys, hys⟩ := List.exists_cons_of_ne_nil hne
          rw [hys, List.cons_append, List.cons.injEq] at hlost
          rw [hys, hlost.1, List.head?_cons]
        show (kept ++ (d.live.drop kept.length ++ d.doomed))[kept.length]? = some s
        rw [List.getElem?_append_right (Nat.le_refl _), Nat.sub_self, ← List.head?_eq_getElem?,
          List.head?_append, hhead]
        rfl
    · -- with doomed sentences only live ones are compared, so one of them would have been lost
      have hd : d.doomed = [] := by
        by_contra hd
        rw [active, if_neg hd] at hlen
        simp only [List.length_cons] at hlen
        omega
      have hactive : d.active = d.live ++ d.unsent := by rw [active, if_pos hd]
      simp only [hlt, if_false]
      refine ⟨rfl, rfl, rfl, ?_, rfl⟩
      rw [List.map_drop, hkept, hactive, List.map_take, List.map_append, List.take_append,
        List.drop_append]
      have hall : ((d.live.map (·.unplaced)).take kept.length).length = d.live.length := by
        rw [List.length_take, List.length_map]
        omega
      -- all live sentences are kept, and what is left of the kept ones is the front of the unsent
      -- ones
      rw [List.drop_of_length_le (by omega), hall, Nat.sub_self, List.drop_zero, List.nil_append]
      exact List.take_prefix _ _

/-- Bringing a document in line with a new text does to it what the outcome says. -/
theorem reconciled_of_reconcile_eq {d d' : Document} {text : String} {e : Edit}
    {outcome : Reconciliation}
    (h : ({ d with text } : Document).reconcile e = (outcome, d')) : d.Reconciled outcome d' := by
  have hr := reconciled_reconcile { d with text } e
  rw [h] at hr
  exact ⟨hr.root, hr.nextId, hr.sent, hr.unsent, hr.outcome⟩

/-- What an editor does to the text changes the places of sentences only. -/
theorem Edits.reconciled {d d' : Document} {outcome : Reconciliation} (h : d.Edits outcome d') :
    d.Reconciled outcome d' := by
  cases h with
  | replace h =>
    unfold Document.replace at h
    dsimp only at h
    split at h
    · rw [Except.ok.injEq] at h
      exact reconciled_of_reconcile_eq h
    · simp at h
  | setText text =>
    rw [setText_eq]
    split
    · exact ⟨rfl, rfl, rfl, List.prefix_refl _, rfl⟩
    · exact reconciled_of_reconcile_eq rfl

namespace Reconciled

variable {d d' : Document} {outcome : Reconciliation}

/-- An edit leaves the trail alone. -/
theorem trail (h : d.Reconciled outcome d') : d'.trail = d.trail := by
  -- places are not part of an entry
  have hmap := congrArg (List.map Sentence.entry) h.sent
  rw [List.map_map, List.map_map] at hmap
  exact hmap

/-- The unsent sentences that an edit leaves are the first of those that there were. -/
theorem map_id_unsent (h : d.Reconciled outcome d') :
    d'.unsent.map (·.id) <+: d.unsent.map (·.id) := by
  have hmap := h.unsent.map (·.id)
  rw [List.map_map, List.map_map] at hmap
  exact hmap

/-- An edit gives out no identifier, and takes them away from the end only. -/
theorem ids_prefix (h : d.Reconciled outcome d') : d'.ids <+: d.ids := by
  rw [ids_eq, ids_eq, h.trail]
  exact List.prefix_append_right_inj _ |>.2 h.map_id_unsent

/-- An edit keeps the identifiers in order. -/
theorem numbered (h : d.Reconciled outcome d') (hn : d.Numbered) : d'.Numbered :=
  hn.of_sublist h.ids_prefix.sublist (Nat.le_of_eq h.nextId.symm)

/-- An edit keeps used identifiers used. -/
theorem spent (h : d.Reconciled outcome d') {id : SentenceId} (hs : d.Spent id) : d'.Spent id :=
  hs.of_sublist h.map_id_unsent.sublist (Nat.le_of_eq h.nextId.symm)

/-- A sentence that has been sent was there before the edit, perhaps in another place. -/
theorem exists_of_mem_sent (h : d.Reconciled outcome d') {y : Sentence} (hy : y ∈ d'.sent) :
    ∃ x ∈ d.sent, x.unplaced = y.unplaced :=
  List.mem_map.1 (h.sent ▸ List.mem_map_of_mem hy)

/-- An unsent sentence was there before the edit, perhaps in another place. -/
theorem exists_of_mem_unsent (h : d.Reconciled outcome d') {y : Sentence} (hy : y ∈ d'.unsent) :
    ∃ x ∈ d.unsent, x.unplaced = y.unplaced :=
  List.mem_map.1 (h.unsent.subset (List.mem_map_of_mem hy))

/-- An edit only moves and drops sentences. -/
theorem exists_of_mem_sentences (h : d.Reconciled outcome d') {y : Sentence}
    (hy : y ∈ d'.sentences) :
    ∃ x ∈ d.sentences, x.unplaced = y.unplaced := by
  rcases List.mem_append.1 hy with hy | hy
  · obtain ⟨x, hx, hxy⟩ := h.exists_of_mem_sent hy
    exact ⟨x, List.mem_append_left _ hx, hxy⟩
  · obtain ⟨x, hx, hxy⟩ := h.exists_of_mem_unsent hy
    exact ⟨x, List.mem_append_right _ hx, hxy⟩

/-- The live sentences can only become fewer. -/
theorem length_live_le (h : d.Reconciled outcome d') : d'.live.length ≤ d.live.length := by
  have ho := h.outcome
  cases outcome with
  | rollback id =>
    obtain ⟨y, -, -, hlt, -⟩ := ho
    exact Nat.le_of_lt hlt
  | shifted => exact Nat.le_of_eq ho
  | dropped => exact Nat.le_of_eq ho

/-- Nothing is left to be sent behind sentences that an edit dooms or leaves doomed. -/
theorem clear (h : d.Reconciled outcome d') (hclear : d.doomed ≠ [] → d.unsent = [])
    (hd : d'.doomed ≠ []) :
    d'.unsent = [] := by
  -- without a rollback, what is doomed was doomed before
  have hsame : d'.live.length = d.live.length → d'.unsent = [] := by
    intro hlen
    have hd' : d.doomed ≠ [] := by
      rw [Ne, doomed_eq_nil_iff, ← hlen, ← h.trail, ← doomed_eq_nil_iff]
      exact hd
    have hprefix := h.unsent
    rw [hclear hd', List.map_nil, List.prefix_nil, List.map_eq_nil_iff] at hprefix
    exact hprefix
  have ho := h.outcome
  cases outcome with
  | rollback id => exact ho.choose_spec.2.2.2
  | shifted => exact hsame ho
  | dropped => exact hsame ho

end Reconciled

end Document

end ProofDesk
