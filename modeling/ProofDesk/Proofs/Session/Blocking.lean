import ProofDesk.Proofs.Session.Rollback
import ProofDesk.Proofs.Session.Shape

/-!
# What blocks progress

A sentence in error blocks progress, and so does one that relies on an axiom, where the settings say
so. Live sentences are only ever marked, moved, taken off the end (`Document.Recedes`), or joined by
one more where nothing blocks (`Orderly.move_cases`). So a blocking sentence stays the last live
one, and blocking, until it is taken back for good (`Follows.bars_or_gone`), and as long as it does
no sentence is sent (`Run.errorBlocks`).
-/

namespace ProofDesk

/-- The sentence blocks progress: it is in error, or it relies on an axiom where that blocks. -/
def Sentence.Blocks (policy : AxiomPolicy) (x : Sentence) : Prop :=
  (∃ range message, x.state = .error range message) ∨ policy = .block ∧ x.state = .valid .byAxiom

/-- Whether a sentence blocks progress depends on its state alone. -/
theorem Sentence.Blocks.of_state {policy : AxiomPolicy} {x y : Sentence} (h : x.Blocks policy)
    (hstate : y.state = x.state) : y.Blocks policy := by
  unfold Sentence.Blocks
  rw [hstate]
  exact h

/-- A sentence that waits for its answer does not block. -/
theorem Sentence.not_blocks_of_pending {policy : AxiomPolicy} {x : Sentence}
    (h : x.state = .pending) :
    ¬ x.Blocks policy := by
  simp [Sentence.Blocks, h]

namespace Document

variable {policy : AxiomPolicy} {P : Sentence → Prop} {d d' d'' : Document} {id : SentenceId}

/-- What the navigation asks before it sends a sentence. -/
theorem isBlocked_iff (d : Document) (policy : AxiomPolicy) :
    d.isBlocked policy = true ↔ ∃ x, d.live.getLast? = some x ∧ x.Blocks policy := by
  unfold isBlocked Sentence.Blocks
  cases d.live.getLast? with
  | none => simp
  | some x =>
    cases hx : x.state with
    | unprocessed | pending | error => simp [hx]
    | valid validity => cases validity <;> simp [hx]

/-- The sentence with an identifier is the last live one, and blocks progress. -/
def Bars (d : Document) (policy : AxiomPolicy) (id : SentenceId) : Prop :=
  ∃ x, d.live.getLast? = some x ∧ x.id = id ∧ x.Blocks policy

/-- No live sentence has the identifier. -/
def Gone (d : Document) (id : SentenceId) : Prop :=
  ∀ x ∈ d.live, x.id ≠ id

/-- A document is blocked by a sentence that bars it. -/
theorem Bars.isBlocked (h : d.Bars policy id) : d.isBlocked policy = true := by
  obtain ⟨x, hx, -, hblocks⟩ := h
  exact (isBlocked_iff d policy).2 ⟨x, hx, hblocks⟩

/-- Live sentences are taken off the end at most, and those that are left keep a property `P` if
they have it. -/
structure Recedes (P : Sentence → Prop) (d d' : Document) : Prop where
  length_le : d'.live.length ≤ d.live.length
  same : ∀ (i : Nat) (x' : Sentence), d'.live[i]? = some x' →
    ∃ x, d.live[i]? = some x ∧ x'.id = x.id ∧ (P x → P x')
  spent : ∀ id, d.Spent id → d'.Spent id

namespace Recedes

/-- A document recedes as long as its live sentences stay the same. -/
theorem of_live (hlive : d'.live = d.live) (hspent : ∀ id, d.Spent id → d'.Spent id) :
    Recedes P d d' :=
  ⟨by rw [hlive], fun i x' hx' => ⟨x', hlive ▸ hx', rfl, fun h => h⟩, hspent⟩

/-- A document that stays as it is recedes. -/
theorem of_eq (h : d' = d) : Recedes P d d' :=
  h ▸ of_live rfl fun _ hs => hs

/-- A document that recedes twice recedes. -/
theorem trans (h : Recedes P d d') (h' : Recedes P d' d'') : Recedes P d d'' := by
  refine ⟨Nat.le_trans h'.length_le h.length_le, fun i x'' hx'' => ?_,
    fun id hs => h'.spent id (h.spent id hs)⟩
  obtain ⟨x', hx', hid', hP'⟩ := h'.same i x'' hx''
  obtain ⟨x, hx, hid, hP⟩ := h.same i x' hx'
  exact ⟨x, hx, hid'.trans hid, fun hp => hP' (hP hp)⟩

/-- Splitting off sentences adds no live one, so a document recedes. -/
theorem of_extends (he : d.Extends d') : Recedes P d d' :=
  of_live he.live he.spent

/-- Taking sentences off the end lets a document recede. -/
theorem truncateAt (d : Document) (i : Nat) : Recedes P d (d.truncateAt i).2 := by
  refine ⟨?_, fun j x hx => ?_, fun _ hs => hs.truncateAt i⟩
  · rw [length_live_truncateAt]
    exact Nat.min_le_right _ _
  · have hx' : (d.live.take i)[j]? = some x := hx
    exact ⟨x, (getElem?_of_front (List.take_prefix i d.live) hx').1, rfl, fun h => h⟩

/-- Going back to a sentence lets a document recede. -/
theorem truncateTo (d : Document) (id : SentenceId) : Recedes P d (d.truncateTo id).2 := by
  unfold Document.truncateTo
  split
  · exact truncateAt d _
  · exact of_eq rfl

/-- Marking a sentence that has been sent takes nothing back. -/
theorem modifyAt {i : Nat} {x : Sentence} (hx : d.sent[i]? = some x) {f : Sentence → Sentence}
    (hid : ∀ x, (f x).id = x.id) (hf : P x → P (f x)) : Recedes P d (d.modifyAt i f) := by
  have hi := lt_locked_of_sent hx
  refine ⟨Nat.le_of_eq (length_live_modifyAt ..), fun j y hy => ?_, fun _ hs => hs.modifyAt hi f⟩
  -- up to its length the list of live sentences is the list of those that have been sent
  have hj' := (List.getElem?_eq_some_iff.1 hy).1
  have hj : j < d.live.length := by rwa [length_live_modifyAt] at hj'
  have hsent : (d.modifyAt i f).sent[j]? = some y := by rwa [sent, List.getElem?_append_left hj']
  have hlive : d.sent[j]? = d.live[j]? := by rw [sent, List.getElem?_append_left hj]
  rw [sent_modifyAt hi, List.getElem?_modify] at hsent
  obtain ⟨z, hz, hzy⟩ := Option.map_eq_some_iff.1 hsent
  refine ⟨z, hlive ▸ hz, ?_⟩
  by_cases hij : i = j
  · obtain rfl : x = z := by rw [hij, hz, Option.some.injEq] at hx; exact hx.symm
    rw [if_pos hij] at hzy
    subst hzy
    exact ⟨hid x, hf⟩
  · rw [if_neg hij] at hzy
    subst hzy
    exact ⟨rfl, fun h => h⟩

/-- An edit moves live sentences, or dooms them from one on. -/
theorem reconciled {outcome : Reconciliation} (hr : d.Reconciled outcome d') :
    Recedes (·.Blocks policy) d d' := by
  refine ⟨hr.length_live_le, fun i x' hx' => ?_, fun _ hs => hr.spent hs⟩
  have hi' := (List.getElem?_eq_some_iff.1 hx').1
  have hi := Nat.lt_of_lt_of_le hi' hr.length_live_le
  -- up to its place the sentence is the one that stood at the same position
  have hsame := congrArg (·[i]?) hr.sent
  simp only [List.getElem?_map, sent, List.getElem?_append_left hi,
    List.getElem?_append_left hi', hx', List.getElem?_eq_getElem hi, Option.map_some,
    Option.some.injEq] at hsame
  have hid : x'.unplaced.id = d.live[i].unplaced.id := congrArg Sentence.id hsame
  have hstate : x'.unplaced.state = d.live[i].unplaced.state := congrArg Sentence.state hsame
  exact ⟨d.live[i], List.getElem?_eq_getElem hi, hid, fun hblocks => hblocks.of_state hstate⟩

/-- A sentence that is gone does not come back when a document recedes. -/
theorem gone (h : Recedes P d d') (hg : d.Gone id) : d'.Gone id := by
  intro x' hx'
  obtain ⟨i, hi⟩ := List.mem_iff_getElem?.1 hx'
  obtain ⟨x, hx, hid, -⟩ := h.same i x' hi
  rw [hid]
  exact hg x (List.mem_of_getElem? hx)

/-- A blocking sentence is still the last live one, or it is gone. -/
theorem bars_or_gone (h : Recedes (·.Blocks policy) d d') (hn : d.Numbered)
    (hb : d.Bars policy id) :
    d'.Bars policy id ∨ d'.Gone id := by
  obtain ⟨x, hlast, rfl, hblocks⟩ := hb
  obtain ⟨front, hfront⟩ := List.getLast?_eq_some_iff.1 hlast
  have hlen : d.live.length = front.length + 1 := by simp [hfront]
  rcases Nat.lt_or_eq_of_le h.length_le with hlt | heq
  · right
    intro x' hx'
    obtain ⟨i, hi⟩ := List.mem_iff_getElem?.1 hx'
    obtain ⟨y, hy, hid, -⟩ := h.same i x' hi
    have hi' := (List.getElem?_eq_some_iff.1 hi).1
    -- what is left stood in front of the last live sentence, so it has a smaller identifier
    have hmem : y ∈ front := by
      rw [hfront, List.getElem?_append_left (by omega)] at hy
      exact List.mem_of_getElem? hy
    have hinc := hn.increasing
    rw [ids, sentences, hfront] at hinc
    simp only [List.map_append, List.append_assoc] at hinc
    have hlt := (List.pairwise_append.1 hinc).2.2 y.id (List.mem_map_of_mem hmem) x.id (by simp)
    rw [hid]
    exact Nat.ne_of_lt hlt
  · left
    obtain ⟨x', hx'⟩ : ∃ x', d'.live[front.length]? = some x' :=
      ⟨_, List.getElem?_eq_getElem (by omega)⟩
    obtain ⟨y, hy, hid, hP⟩ := h.same _ x' hx'
    rw [hfront, List.getElem?_concat_length, Option.some.injEq] at hy
    subst hy
    refine ⟨x', ?_, hid, hP hblocks⟩
    rw [List.getLast?_eq_getElem?, heq, hlen, Nat.add_sub_cancel]
    exact hx'

end Recedes

end Document

namespace Session

variable {σ : Type} {s s' t : Session σ} {h es : History}

/-- Nothing that is under way will take sentences back. -/
private theorem rewindPending_eq_false_iff (s : Session σ) : s.rewindPending = false ↔
    (∀ id, s.slot ≠ some (.editAt id)) ∧ (∀ n, .backward n ∉ s.queue) ∧
    (∀ id, .rewind id ∉ s.queue) ∧
      ∀ offset, .cursor offset ∉ s.queue := by
  -- of what can be queued, only going forward never takes sentences back
  have hqueue : s.queue.any (·.retreats) = false ↔
      (∀ n, .backward n ∉ s.queue) ∧ (∀ id, .rewind id ∉ s.queue) ∧ ∀ offset,
      .cursor offset ∉ s.queue := by
    rw [List.any_eq_false]
    refine ⟨fun h => ⟨fun n hn => h _ hn rfl, fun id hid => h _ hid rfl,
        fun offset ho => h _ ho rfl⟩,
      fun ⟨hbackward, hrewind, hcursor⟩ op hop => ?_⟩
    cases op with
    | forward n => exact Bool.false_ne_true
    | cursor offset => exact absurd hop (hcursor offset)
    | backward n => exact absurd hop (hbackward n)
    | rewind id => exact absurd hop (hrewind id)
  unfold rewindPending
  rw [Bool.or_eq_false_iff, hqueue]
  refine and_congr_left' ?_
  unfold slot
  rcases s.request with _ | ⟨request, age, timedOut⟩
  · simp
  · cases request <;> simp

variable [Link σ]

theorem settings_send (s : Session σ) (request : Request) (call : Call) :
    (s.send request call).settings = s.settings := by
  unfold send
  split <;> rfl

/-- No act of a session changes its settings. -/
theorem Act.settings_eq (ha : Act s es s') : s'.settings = s.settings := by
  cases ha with
  | quiet hs => exact hs.settings
  | order halive ho => rfl
  | edit he => rw [noteEdit_eq]
  | round hround =>
    cases hround with
    | send hfree hready hqueue hstep => exact settings_send ..
    | proceed hfree hready hqueue hstep => rfl
    | refuse hfree hready hqueue hstep => exact (quiet_refuse _ _).settings
    | goal hfree hready hqueue hstale => exact settings_send ..
  | status halive hfree => exact settings_send ..
  | close =>
    obtain ⟨-, heq⟩ | ⟨t, rfl | rfl, heq⟩ := close_cases s
    · rw [heq]
    · rw [heq]
    · rw [heq]
      exact settings_send ..

/-- No frame changes the settings of a session. -/
theorem Takes.settings_eq {frame : Inbound} (ht : Takes s frame s') : s'.settings = s.settings := by
  cases ht with
  | broken fault | admitted hi | processed hcontent hi => rfl
  | started hslot hreply hs => exact hs.settings
  | accepted hslot hx hreply hs => exact hs.settings
  | refused hslot hx hs | failed hi hx hs => exact hs.settings
  | acceptedLate hslot hid hs | refusedLate hslot hid hs => exact hs.settings
  | rolledBack hslot hs | told hslot hrequest hs | heard hs => exact hs.settings

/-- A small step sends a sentence where nothing blocks, or it sends none and at most takes sentences
back. -/
theorem Orderly.act_cases (h : s.Orderly) (ha : Act s es s') :
    (s.document.isBlocked s.settings.axiomPolicy = false ∧
      (∀ id, s.document.Spent id → s'.document.Spent id) ∧
      ∃ x, s'.document.live = s.document.live ++ [x] ∧ ∀ id, s.document.Spent id → x.id ≠ id) ∨
    (∀ e ∈ es, ¬ e.IsAdd) ∧ ∀ policy,
    Document.Recedes (·.Blocks policy) s.document s'.document := by
  cases ha with
  | quiet hs => exact .inr ⟨by simp, fun _ => .of_eq hs.document⟩
  | order halive ho => exact .inr ⟨by simp, fun _ => .of_eq rfl⟩
  | edit he =>
    exact .inr ⟨by simp, fun _ => (document_noteEdit _ _).symm ▸ .reconciled he.reconciled⟩
  | round hround =>
    cases hround with
    | send hfree hready hqueue hstep =>
      cases Navigation.of_step_send h.coherent.numbered hstep with
      | @add _ x _ _ hop hblocked hd he hx htip =>
        -- the new sentence has an identifier that none of the old ones has had
        rw [document_send]
        refine .inl ⟨hblocked, fun id hs => Document.spent_withPending hx (he.spent id hs),
          { x with state := .pending }, by rw [← he.live]; rfl, fun id hs => ?_⟩
        exact (Nat.ne_of_lt ((he.spent id hs).2 x (by rw [hx]; exact List.mem_cons_self))).symm
      | editAt hindex hy htarget =>
        exact .inr ⟨by simp [Exchange.IsAdd], fun _ => .of_eq (document_send ..)⟩
    | proceed hfree hready hqueue hstep =>
      obtain ⟨-, he, -⟩ := h.of_step_proceed hfree hready hqueue hstep
      exact .inr ⟨by simp, fun _ => .of_extends he⟩
    | refuse hfree hready hqueue hstep =>
      have he := Navigation.of_step_refuse hstep
      refine .inr ⟨by simp, fun _ => ?_⟩
      rw [(quiet_refuse _ _).document]
      exact .of_extends he
    | goal hfree hready hqueue hstale =>
      exact .inr ⟨by simp [Exchange.IsAdd], fun _ => .of_eq (document_send ..)⟩
  | status halive hfree => exact .inr ⟨by simp [Exchange.IsAdd], fun _ => .of_eq (document_send ..)⟩
  | close =>
    refine .inr ⟨?_, fun _ => .of_eq (document_close s)⟩
    unfold farewell
    split <;> simp [Exchange.IsAdd]

/-- A frame at most takes sentences back, and none that blocks stops doing so. -/
theorem Takes.recedes {frame : Inbound} (h : s.Orderly) (ha : s.Active) (ht : Takes s frame s')
    (policy : AxiomPolicy) : Document.Recedes (·.Blocks policy) s.document s'.document := by
  have hrefuse : ∀ {i : Nat} {x : Sentence} {location : Option Location} {message : String},
      s.document.sent[i]? = some x →
        Document.Recedes (·.Blocks policy) s.document (s.document.refuseAt i location message) :=
    fun hx => .modifyAt hx (fun _ => rfl) fun _ => .inl ⟨_, _, rfl⟩
  cases ht with
  | broken fault => exact .of_eq rfl
  | started hslot hreply hs => exact hs.document ▸ .of_live rfl fun _ hs => hs
  | accepted hslot hx hreply hs =>
    -- the sentence waits for its answer, so it does not block
    have hmem := List.mem_map_of_mem (f := Sentence.entry) (List.mem_of_getElem? hx)
    have hpending := (Sentence.phase_eq_pending_iff _).1 ((h.awaits ha _ hmem).2 hslot)
    exact hs.document ▸ .modifyAt hx (fun _ => rfl) fun hb =>
      absurd hb (Sentence.not_blocks_of_pending hpending)
  | refused hslot hx hs => exact hs.document ▸ hrefuse hx
  | acceptedLate hslot hid hs => exact .of_eq hs.document
  | refusedLate hslot hid hs => exact .of_eq hs.document
  | rolledBack hslot hs => exact hs.document ▸ .truncateTo ..
  | told hslot hrequest hs => exact .of_eq hs.document
  | admitted hi =>
    obtain ⟨x, hx, -⟩ := Document.sent_of_indexOfState? h.coherent.stateId_unsent hi
    refine .modifyAt hx (fun x => ?_) fun hb => ?_
    · cases x.state <;> rfl
    · rcases hb with ⟨range, message, hstate⟩ | ⟨rfl, hstate⟩
      · exact .inl ⟨range, message, by rw [hstate]; exact hstate⟩
      · exact .inr ⟨rfl, by rw [hstate]⟩
  | processed hcontent hi =>
    obtain ⟨x, hx, -⟩ := Document.sent_of_indexOfState? h.coherent.stateId_unsent hi
    exact .modifyAt hx (fun _ => rfl) fun hb => hb.of_state rfl
  | failed hi hx hs => exact hs.document ▸ (hrefuse hx).trans (.truncateAt ..)
  | heard hs => exact .of_eq hs.document

/-- Whatever happens next sends a sentence where nothing blocks, or sends none and at most takes
sentences back. -/
theorem Orderly.move_cases (h : s.Orderly) (hm : Moves s es t) :
    (s.document.isBlocked s.settings.axiomPolicy = false ∧
      (∀ id, s.document.Spent id → t.document.Spent id) ∧
      ∃ x, t.document.live = s.document.live ++ [x] ∧ ∀ id, s.document.Spent id → x.id ≠ id) ∨
    (∀ e ∈ es, ¬ e.IsAdd) ∧ ∀ policy, Document.Recedes (·.Blocks policy) s.document t.document := by
  cases hm with
  | outside link => exact .inr ⟨by simp, fun _ => .of_eq rfl⟩
  | act ha => exact h.act_cases ha
  | frame frame halive =>
    exact .inr ⟨by simp [Exchange.IsAdd], (h.takes_handleFrame frame).recedes h (h.alive.1 halive)⟩
  | lose fault halive => exact .inr ⟨by simp, fun _ => .of_eq rfl⟩

/-- Nothing changes the settings of a session. -/
private theorem Orderly.settings_of_move (h : s.Orderly) (hm : Moves s es t) :
    t.settings = s.settings := by
  cases hm with
  | outside link => rfl
  | act ha => exact ha.settings_eq
  | frame frame halive => exact (h.takes_handleFrame frame).settings_eq
  | lose fault halive => rfl

section Follows

variable {policy : AxiomPolicy} {id : SentenceId}

/-- A sentence that has been taken back does not return. -/
private theorem Orderly.gone_of_move (h : s.Orderly) (hm : Moves s es t) (hs : s.document.Spent id)
    (hg : s.document.Gone id) : t.document.Spent id ∧ t.document.Gone id := by
  rcases h.move_cases hm with ⟨-, hspent, x, hlive, hx⟩ | ⟨-, hrecedes⟩
  · refine ⟨hspent id hs, fun y hy => ?_⟩
    rw [hlive] at hy
    rcases List.mem_append.1 hy with hy | hy
    · exact hg y hy
    · rw [List.mem_singleton.1 hy]
      exact hx id hs
  · exact ⟨(hrecedes .block).spent id hs, (hrecedes .block).gone hg⟩

/-- Nothing is sent on top of a blocking sentence. -/
theorem Orderly.move_of_bars (h : s.Orderly) (hb : s.document.Bars s.settings.axiomPolicy id)
    (hm : Moves s es t) :
    (∀ e ∈ es, ¬ e.IsAdd) ∧ ∀ policy, Document.Recedes (·.Blocks policy) s.document t.document := by
  rcases h.move_cases hm with ⟨hblocked, -⟩ | hcases
  · rw [hb.isBlocked] at hblocked
    simp at hblocked
  · exact hcases

/-- A blocking sentence stays the last live one, and no sentence is sent, until it is taken back for
good. -/
theorem Follows.bars_or_gone (hf : Follows s es t) (ho : s.Orderly)
    (hb : s.document.Bars s.settings.axiomPolicy id) :
    t.Orderly ∧ t.settings = s.settings ∧ t.document.Spent id ∧
      ((∀ e ∈ es, ¬ e.IsAdd) ∧ t.document.Bars t.settings.axiomPolicy id ∨ t.document.Gone id) := by
  -- a sentence that blocks has been sent, so its identifier is never given again
  induction hf with
  | refl =>
    have ⟨x, hx, hid, _⟩ := hb
    have hmem : x ∈ s.document.sent := List.mem_append_left _ (List.mem_of_getLast? hx)
    exact ⟨ho, rfl, hid ▸ ho.coherent.numbered.spent hmem, .inl ⟨by simp, hb⟩⟩
  | @move t u es es' _ hm ih =>
    obtain ⟨ho', hsettings, hspent, hcases⟩ := ih
    have hsettings' := ho'.settings_of_move hm
    refine ⟨ho'.move hm, hsettings'.trans hsettings, ?_⟩
    rcases hcases with ⟨hadds, hbars⟩ | hgone
    · obtain ⟨hnone, hrecedes⟩ := ho'.move_of_bars hbars hm
      refine ⟨(hrecedes .block).spent _ hspent, ?_⟩
      rw [hsettings']
      refine ((hrecedes _).bars_or_gone ho'.coherent.numbered hbars).imp_left fun hbars' =>
        ⟨fun e he => ?_, hbars'⟩
      exact (List.mem_append.1 he).elim (hadds e) (hnone e)
    · obtain ⟨hspent', hgone'⟩ := ho'.gone_of_move hm hspent hgone
      exact ⟨hspent', .inr hgone'⟩

end Follows

/-- While a blocking sentence is the last live one no sentence is sent, and going forward is refused
unless something that takes sentences back is under way. -/
theorem Run.errorBlocks (hr : Run h s) (hready : s.status = .ready) {x : Sentence}
    (hx : s.document.live.getLast? = some x) (hb : x.Blocks s.settings.axiomPolicy) :
    (∀ (es es' : History) (t u : Session σ), Follows s es t → Moves t es' u →
      t.document.live.getLast?.map (·.id) = some x.id → ∀ e ∈ es ++ es', ¬ e.IsAdd) ∧
    (s.forward.1 = .error .blocked ↔
      (∀ id, s.slot ≠ some (.editAt id)) ∧ (∀ n, .backward n ∉ s.queue) ∧
      (∀ id, .rewind id ∉ s.queue) ∧
        ∀ offset, .cursor offset ∉ s.queue) ∧
    (s.forward.1 = .error .blocked → s.forward.2 = s) := by
  have ho := hr.orderly
  refine ⟨fun es es' t u hf hm hlast e he => ?_, ?_⟩
  · obtain ⟨ho', -, -, ⟨hadds, hbars⟩ | hgone⟩ := hf.bars_or_gone ho ⟨x, hx, rfl, hb⟩
    · exact (List.mem_append.1 he).elim (hadds e) ((ho'.move_of_bars hbars hm).1 e)
    -- the sentence is the last live one, so it has not been taken back
    · obtain ⟨y, hy, hid⟩ := Option.map_eq_some_iff.1 hlast
      exact absurd hid (hgone y (List.mem_of_getLast? hy))
  · have hblocked := (Document.isBlocked_iff s.document s.settings.axiomPolicy).2 ⟨x, hx, hb⟩
    have halive := (refusal?_eq_none_iff s).2 (ho.alive.2 (.inr hready))
    rw [← rewindPending_eq_false_iff]
    unfold forward
    rw [halive]
    cases hpending : s.rewindPending <;> simp [hblocked]

/-- The first sentence is in error and the second one is on its way: going forward is refused. -/
theorem errorBlocks_of_overtaken : ∃ (h : History) (s : Session Channel) (x : Sentence), Run h s ∧
    s.status = .ready ∧ s.document.live.getLast? = some x ∧ x.Blocks s.settings.axiomPolicy ∧
    s.slot = some (.add 1) ∧ (∀ es es' t u, Follows s es t → Moves t es' u →
      t.document.live.getLast?.map (·.id) = some x.id → ∀ e ∈ es ++ es', ¬ e.IsAdd) ∧
    s.forward.1 = .error .blocked ∧ s.forward.2 = s := by
  obtain ⟨h, hr⟩ := exists_run_overtaken
  have hb : Sentence.Blocks .annotate ⟨0, ⟨0, 2⟩, "A.", .error ⟨0, 2⟩ "no", some ⟨2⟩, false⟩ :=
    .inl ⟨_, _, rfl⟩
  obtain ⟨hadds, hforward, hsame⟩ := hr.errorBlocks rfl rfl hb
  have hrefused :=
    hforward.2 ⟨by simp [slot, onTwo], fun _ => List.not_mem_nil, fun _ => List.not_mem_nil,
    fun _ => List.not_mem_nil⟩
  exact ⟨h, _, _, hr, rfl, rfl, hb, rfl, hadds, hrefused, hsame hrefused⟩

end Session

end ProofDesk
