import ProofDesk.Proofs.Session.Blocking
import ProofDesk.Proofs.Session.Drift
import ProofDesk.Proofs.Session.Rest
import ProofDesk.Proofs.Session.Splitting

/-!
# Moving to a position

A move to a position waits in the queue until the prover has been taken there, forward or back
(`Waits`), and once it has, nothing moves the session away (`Arrived`). What can come in between is
an error: it cancels what may send sentences, and a move to a position counts as that even where it
would go back. So the session gets to the position unless an error is reported, while the move
waits, about a sentence that the move or a rollback is about to take back (`Run.toCursor_reaches`);
with such an error it may stop anywhere (`exists_stranded`).
-/

namespace ProofDesk

namespace Document

variable {d d' : Document} {policy : AxiomPolicy} {offset : Nat}

/-- The live sentences are those that end at or before an offset, as far as it is possible to get
there. -/
structure AtCursor (d : Document) (policy : AxiomPolicy) (offset : Nat) : Prop where
  within : ∀ x ∈ d.live, x.span.stop ≤ offset
  reaches : (∀ span ∈ (Sentence.spansFrom d.text 0).1, span.stop ≤ offset →
      span ∈ d.live.map (·.span)) ∨
    (∃ x, d.live.getLast? = some x ∧ x.Blocks policy) ∨ ∃ e,
    Sentence.next d.text (endOf d.live) = .error e

namespace AtCursor

/-- Whether a document is at a cursor depends on its text and its live sentences. -/
theorem of_eq (h : d.AtCursor policy offset) (hlive : d'.live = d.live) (htext : d'.text = d.text) :
    d'.AtCursor policy offset := by
  refine ⟨?_, ?_⟩
  · rw [hlive]
    exact h.within
  · rw [hlive, htext]
    exact h.reaches

/-- News about a sentence does not matter, as long as what blocks still does. -/
theorem modifyAt (h : d.AtCursor policy offset) {i : Nat} {f : Sentence → Sentence}
    (hspan : ∀ x, (f x).span = x.span) (hr : Recedes (·.Blocks policy) d (d.modifyAt i f)) :
    (d.modifyAt i f).AtCursor policy offset := by
  have hspans := map_live_modifyAt hspan d i
  refine ⟨fun x hx => ?_, ?_⟩
  · have hmem : x.span ∈ (d.modifyAt i f).live.map (·.span) := List.mem_map_of_mem hx
    rw [hspans] at hmem
    obtain ⟨y, hy, hxy⟩ := List.mem_map.1 hmem
    rw [← hxy]
    exact h.within y hy
  · rw [hspans, text_modifyAt, ← Sentence.reach_map_span, hspans, Sentence.reach_map_span]
    refine h.reaches.imp_right fun hr' => hr'.imp_left fun ⟨x, hx, hblocks⟩ => ?_
    -- the last sentence is still the last one
    rw [List.getLast?_eq_getElem?] at hx
    have hlen := length_live_modifyAt d i f
    obtain ⟨hi, -⟩ := List.getElem?_eq_some_iff.1 hx
    obtain ⟨x', hx'⟩ : ∃ x', (d.modifyAt i f).live[d.live.length - 1]? = some x' :=
      ⟨_, List.getElem?_eq_getElem (by omega)⟩
    obtain ⟨y, hy, -, hkeeps⟩ := hr.same _ x' hx'
    rw [hx, Option.some.injEq] at hy
    exact ⟨x', by rw [List.getLast?_eq_getElem?, hlen]; exact hx', hkeeps (hy ▸ hblocks)⟩

end AtCursor

theorem mem_sentences_of_live {x : Sentence} (hx : x ∈ d.live) : x ∈ d.sentences := by
  rw [sentences, List.append_assoc]
  exact List.mem_append_left _ hx

/-- Live sentences end one behind the other. -/
theorem WellFormed.stop_le (hw : d.WellFormed) {i : Nat} {x : Sentence} (hx : d.live[i]? = some x) :
    ∀ y ∈ d.live.take i, y.span.stop ≤ x.span.stop := by
  intro y hy
  have hlast : (d.live.take (i + 1)).getLast? = some x := by
    obtain ⟨hi, hget⟩ := List.getElem?_eq_some_iff.1 hx
    rw [List.getLast?_take]
    simp [hx]
  have hlaid : ProofDesk.Laid d.text (d.live.take (i + 1)) :=
    hw.laid.of_sublist (((List.take_sublist _ _).trans (List.sublist_append_left _ _)).map _)
  have hle := hlaid.stop_le_endOf y ((List.take_subset_take_left _ (Nat.le_succ i)) hy)
  rwa [endOf, hlast] at hle

/-- An error about a sentence that ends at or before the offset leaves that sentence as the last
one, and it blocks. -/
theorem WellFormed.atCursor_of_error (hw : d.WellFormed) {i : Nat} {x : Sentence}
    (hx : d.live[i]? = some x) (hle : x.span.stop ≤ offset) {location : Option Location}
    {message : String}
    (hlive : d'.live = d.live.take i ++ [x.refused location message]) :
    d'.AtCursor policy offset := by
  refine ⟨fun y hy => ?_, .inr (.inl ⟨x.refused location message, ?_, .inl ⟨_, _, rfl⟩⟩)⟩
  · rw [hlive] at hy
    rcases List.mem_append.1 hy with hy | hy
    · exact Nat.le_trans (hw.stop_le hx y hy) hle
    · rw [List.mem_singleton.1 hy]
      exact hle
  · rw [hlive, List.getLast?_concat]

/-- Up to a sentence that is refused, the sentences are those there were. -/
theorem take_live_refuseAt {i : Nat} {x : Sentence} (hx : d.live[i]? = some x)
    (location : Option Location)
    (message : String) : (d.refuseAt i location message).live.take (i + 1) =
      d.live.take i ++ [x.refused location message] := by
  obtain ⟨hi, -⟩ := List.getElem?_eq_some_iff.1 hx
  rw [refuseAt, Document.modifyAt, if_pos hi]
  exact take_succ_modify hx

end Document

namespace Navigation

variable {policy : AxiomPolicy} {d d' : Document} {offset : Nat} {rest queue : List Navigation}
  {fault : Fault}

/-- A move to an offset is done without a call where the live sentences are those that end at or
before it. -/
theorem atCursor_of_step_proceed (hw : d.WellFormed) (hd : d.doomed = []) (hroot : d.root.isSome)
    (h : step policy d (.cursor offset) rest = .proceed d' queue) : d'.AtCursor policy offset := by
  obtain ⟨he, -⟩ := of_step_proceed hroot (by simp) h
  refine Document.AtCursor.of_eq ?_ he.live he.text
  have hnext := comesNext_step policy d (.cursor offset) rest
  generalize step policy d (.cursor offset) rest = t at h hnext
  cases hnext with
  | done hstays hnothing => exact absurd (hnothing rfl) (by simp)
  | held hop hstays hblocked =>
    exact ⟨stop_le_of_stays hstays, .inr (.inl ((Document.isBlocked_iff d policy).1 hblocked))⟩
  | back hindex => exact absurd h (rewindTo_ne_proceed hroot (hindex.lt_length (by simp)))
  | ended hadvances hstays hblocked hext =>
    -- there is no further sentence
    obtain ⟨hunsent, hnext⟩ := Document.next_of_extendNext_none hext
    have hsplits := hw.splits
    rw [Document.sentences, hd, hunsent, List.append_nil, List.append_nil,
      ← Sentence.reach_map_span] at hnext
    rw [hunsent, List.append_nil] at hsplits
    exact ⟨stop_le_of_stays hstays,
      .inl fun span hspan _ => Sentence.eq_of_splits hsplits hnext ▸ hspan⟩
  | past hop hstays hblocked hext hpast =>
    -- the next sentence ends past the offset, and so do those behind it
    cases hop
    obtain ⟨x, later, -, rfl, hfound, hsplits⟩ := hw.of_extendNext hd hext
    rw [hfound] at hpast
    obtain ⟨more, hall⟩ := hsplits
    rw [List.append_assoc, List.cons_append] at hall
    refine ⟨stop_le_of_stays hstays, .inl fun span hspan hle => ?_⟩
    have hsplits :
        Sentence.Splits d.text 0 (d.live.map (·.span) ++ x.span ::
          (later.map (·.span) ++ more)) := by
      rw [Sentence.Splits, hall]
    have hbehind := Sentence.lt_stop_of_splits hsplits (o := offset) (by simpa using hpast)
    rw [← hall] at hspan
    rcases List.mem_append.1 hspan with hspan | hspan
    · exact hspan
    · exact absurd hle (Nat.not_le.2 (hbehind span hspan))
  | next => exact absurd h (sendSentence_ne_proceed _)
  | barred | unsplit => simp at h

/-- A move to an offset is refused where the text behind the live sentences cannot be split. -/
theorem atCursor_of_step_refuse (hw : d.WellFormed) (hd : d.doomed = []) (hroot : d.root.isSome)
    (h : step policy d (.cursor offset) rest = .refuse d' fault) : d'.AtCursor policy offset := by
  have he := of_step_refuse h
  refine Document.AtCursor.of_eq ?_ he.live he.text
  have hnext := comesNext_step policy d (.cursor offset) rest
  generalize step policy d (.cursor offset) rest = t at h hnext
  cases hnext with
  | barred hop => cases hop
  | unsplit hadvances hstays hblocked hext =>
    -- the text cannot be split any further, which is one of the ways to be there
    obtain ⟨hunsent, e, herror⟩ := Document.next_of_extendNext_error hext
    rw [Document.sentences, hd, hunsent, List.append_nil, List.append_nil] at herror
    exact ⟨stop_le_of_stays hstays, .inr (.inr ⟨e, herror⟩)⟩
  | next _ _ _ hext => exact absurd h (sendSentence_ne_refuse hw.numbered hd hroot hext)
  | back => exact absurd h (rewindTo_ne_refuse _ _ _)
  | done | held | ended | past => simp at h

end Navigation

namespace Session

variable {σ : Type} {s t : Session σ} {offset : Nat}

/-- A move to an offset waits, behind rollbacks at most. -/
def Waits (offset : Nat) (s : Session σ) : Prop :=
  ∃ front, s.queue = front ++ [.cursor offset] ∧ ∀ op ∈ front, op.isRewind = true

/-- A move to an offset has been carried out, and nothing is under way that leads away from
there. -/
structure Arrived (offset : Nat) (s : Session σ) : Prop where
  queue : s.queue = []
  editAt : ∀ id, s.slot ≠ some (.editAt id)
  /-- If the answer to a sentence is still awaited, the sentence has been discarded. -/
  add : ∀ id, s.slot = some (.add id) → id ∉ s.document.ids
  atCursor : s.document.AtCursor s.settings.axiomPolicy offset

/-- Unless the session has ended, it is at the offset or on its way. -/
def Heads (offset : Nat) (s : Session σ) : Prop :=
  s.Active → s.Waits offset ∨ s.Arrived offset

/-- The sentence that a frame reports an error about. -/
def blamed (s : Session σ) : Inbound → Option SentenceId
  | .response (.fail _) =>
    match s.slot with
    | some (.add id) => some id
    | _ => none
  | .feedback feedback =>
    if feedback.reportsError then
      ((s.document.indexOfState? feedback.state).bind (s.document.sentences[·]?)).map (·.id)
    else none
  | .response (.good _) => none

/-- While a move to an offset waits, an error is only reported about a live sentence that ends at or
before it, and when nothing is being taken back. -/
def Spares (offset : Nat) (s : Session σ) (frame : Inbound) : Prop :=
  ∀ id, s.blamed frame = some id → .cursor offset ∈ s.queue →
    s.queue = [.cursor offset] ∧ (∀ id', s.slot ≠ some (.editAt id')) ∧
      ∃ x ∈ s.document.live, x.id = id ∧ x.span.stop ≤ offset

/-- A move waits as long as the queue stays the same. -/
theorem Waits.of_queue (hw : s.Waits offset) (hqueue : t.queue = s.queue) : t.Waits offset := by
  obtain ⟨front, hfront, hrewinds⟩ := hw
  exact ⟨front, hqueue.trans hfront, hrewinds⟩

/-- The operation in front is the move itself, or a rollback with the move behind it. -/
theorem Waits.cons {op : Navigation} {rest : List Navigation} (hw : s.Waits offset)
    (hqueue : s.queue = op :: rest) :
    op = .cursor offset ∧ rest = [] ∨
      ∃ id front, op = .rewind id ∧ rest = front ++ [.cursor offset] ∧ ∀ op' ∈ front,
        op'.isRewind = true := by
  obtain ⟨front, hfront, hrewinds⟩ := hw
  rw [hqueue] at hfront
  -- the cursor itself is at the head, or a rollback that stands in front of it
  cases front with
  | nil =>
    simp only [List.nil_append, List.cons.injEq] at hfront
    exact .inl hfront
  | cons first front =>
    rw [List.cons_append, List.cons.injEq] at hfront
    obtain ⟨rfl, hrest⟩ := hfront
    have hop := hrewinds op List.mem_cons_self
    cases op with
    | rewind id =>
      exact .inr ⟨id, front, rfl, hrest, fun op' hop' => hrewinds op' (List.mem_cons_of_mem _ hop')⟩
    | _ => simp [Navigation.isRewind] at hop

/-- A session that agrees with one that has arrived has arrived. -/
theorem Arrived.of_agrees (ha : s.Arrived offset) (hs : s.Agrees t) : t.Arrived offset := by
  refine ⟨hs.queue.trans ha.queue, ?_, ?_, ?_⟩
  · rw [hs.slot]
    exact ha.editAt
  · rw [hs.slot, hs.document]
    exact ha.add
  · rw [hs.document, hs.settings]
    exact ha.atCursor

/-- A session that agrees with one that heads for an offset heads for it. -/
theorem Heads.of_agrees (hh : s.Heads offset) (hs : s.Agrees t) : t.Heads offset := fun ha =>
  (hh (hs.active_iff.1 ha)).imp (·.of_queue hs.queue) (·.of_agrees hs)

/-- Nothing is doomed where nothing is being taken back. -/
theorem Arrived.doomed_eq_nil (ho : s.Orderly) (hactive : s.Active) (ha : s.Arrived offset) :
    s.document.doomed = [] :=
  ho.doomed_eq_nil hactive ha.editAt (by simp [ha.queue])

variable [Link σ] {h : History}

/-- Sending a call keeps a session heading for its offset. -/
theorem heads_send {request : Request} {call : Call}
    (hh : ∀ link : σ, Heads offset { s with link, request := some ⟨request, 0, false⟩ }) :
    (s.send request call).Heads offset :=
  fun ha => of_active_send hh ha ha

/-- What is sent while a move to an offset waits takes the session there. -/
theorem Heads.pumps (hr : Run h s) (hh : s.Heads offset) (hp : Pumps s t) : t.Heads offset := by
  have ho := hr.orderly
  have hw := hr.wellFormed
  -- something is queued, so the session has not arrived
  have hwaits : ∀ {op : Navigation} {rest : List Navigation}, s.status = .ready →
      s.queue = op :: rest →
      s.Waits offset := by
    intro op rest hready hqueue
    refine (hh (.inr hready)).resolve_right fun harrived => ?_
    rw [harrived.queue] at hqueue
    simp at hqueue
  obtain ⟨es, hround⟩ := hp
  cases hround with
  | @send op rest queue request call document hfree hready hqueue hstep =>
    refine heads_send fun link _ => .inl ?_
    have hleft : queue = op.remaining ++ rest := by
      cases Navigation.of_step_send ho.coherent.numbered hstep <;> rfl
    rcases (hwaits hready hqueue).cons hqueue with ⟨rfl, rfl⟩ | ⟨id, front, rfl, hrest, hrewinds⟩
    -- the move stays until nothing is left to be sent for it
    · exact ⟨[], hleft, by simp⟩
    · exact ⟨front, hleft.trans hrest, hrewinds⟩
  | @proceed op rest queue document hfree hready hqueue hstep =>
    intro _
    obtain ⟨hd, -, rfl⟩ := ho.of_step_proceed hfree hready hqueue hstep
    rcases (hwaits hready hqueue).cons hqueue with ⟨rfl, rfl⟩ | ⟨id, front, rfl, hrest, hrewinds⟩
    · exact .inr ⟨rfl, by simp [slot, hfree], by simp [slot, hfree],
        Navigation.atCursor_of_step_proceed hw hd (ho.root hready) hstep⟩
    · exact .inl ⟨front, hrest, hrewinds⟩
  | @refuse op rest document fault hfree hready hqueue hstep =>
    intro _
    have hd := ho.doomed_eq_nil_of_refuse hfree hready hqueue hstep
    rcases (hwaits hready hqueue).cons hqueue with ⟨rfl, rfl⟩ | ⟨id, front, rfl, -, -⟩
    · have harrived : Arrived offset (dropAdvances { s with document }) :=
        ⟨by simp [dropAdvances, Navigation.dropAdvances, hqueue, Navigation.advances],
          by simp [slot, dropAdvances, hfree], by simp [slot, dropAdvances, hfree],
          Navigation.atCursor_of_step_refuse hw hd (ho.root hready) hstep⟩
      exact .inr (harrived.of_agrees (quiet_refuse _ _).toAgrees)
    -- a rollback is never refused
    · simpa [Navigation.advances] using Navigation.advances_of_step_refuse hstep
  | goal hfree hready hqueue hstale =>
    refine heads_send fun link _ => (hh (.inr hready)).imp (·.of_queue rfl) fun harrived => ?_
    exact ⟨harrived.queue, by simp [slot], by simp [slot], harrived.atCursor⟩

omit [Link σ] in
/-- Where the last sentence is in error, an answer that is still awaited is to a sentence that has
been discarded. -/
theorem arrived_of_error {d : Document} (ho : t.Orderly) (ha : t.Active) (hw : d.WellFormed)
    {i : Nat} {x : Sentence} (hx : d.live[i]? = some x) (hle : x.span.stop ≤ offset)
    {location : Option Location} {message : String}
    (hlive : t.document.live = d.live.take i ++ [x.refused location message])
    (hqueue : t.queue = []) (hslot : ∀ id, t.slot ≠ some (.editAt id)) : t.Arrived offset := by
  refine ⟨hqueue, hslot, fun id hadd hid => ?_, hw.atCursor_of_error hx hle hlive⟩
  have hd : t.document.doomed = [] := ho.doomed_eq_nil ha hslot (by simp [hqueue])
  obtain ⟨j, y, hy, rfl⟩ := (ho.addressed id (.inl hadd)).mem_trail hid
  -- the sentence whose answer is awaited would be the last one, which is in error
  have hlast := ho.last_of_slot ha hadd hy
  have hlocked : t.document.locked = t.document.live.length := by
    rw [Document.locked, hd, List.length_nil, Nat.add_zero]
  rw [hlocked, hlive, List.length_append, List.length_singleton, Nat.add_right_cancel_iff] at hlast
  rw [Document.sent, hd, List.append_nil, hlive, hlast, List.getElem?_concat_length,
    Option.some.injEq] at hy
  have hmem : y.entry ∈ t.document.trail := by
    refine List.mem_map_of_mem ?_
    rw [Document.sent, hlive, ← hy]
    simp
  have hpending := (ho.awaits ha _ hmem).2 hadd
  rw [← hy] at hpending
  simp [Sentence.refused, SentenceState.phase] at hpending

omit [Link σ] in
/-- An error that is spared is about a live sentence in front of the offset, and nothing is being
taken back. -/
private theorem Spares.of_blamed (ho : s.Orderly) (ha : s.Active) {frame : Inbound}
    (hok : s.Spares offset frame) (hmem : .cursor offset ∈ s.queue) {i : Nat} {x : Sentence}
    (hx : s.document.sent[i]? = some x)
    (hblamed : s.blamed frame = some x.id) :
    s.document.doomed = [] ∧ Navigation.dropAdvances s.queue = [] ∧
    (∀ id, s.slot ≠ some (.editAt id)) ∧
      s.document.live[i]? = some x ∧ x.span.stop ≤ offset := by
  obtain ⟨hqueue, hslot, y, hy, hid, hle⟩ := hok x.id hblamed hmem
  have hd : s.document.doomed = [] := ho.doomed_eq_nil ha hslot (by simp [hqueue])
  rw [Document.sent, hd, List.append_nil] at hx
  refine ⟨hd, by simp [hqueue, Navigation.dropAdvances, Navigation.advances], hslot, hx, ?_⟩
  -- no other sentence has its identifier
  have hsame : y = x :=
    List.inj_on_of_nodup_map ho.coherent.numbered.nodup (Document.mem_sentences_of_live hy)
    (Document.mem_sentences_of_live (List.mem_of_getElem? hx)) hid
  exact hsame ▸ hle

/-- A frame that reports no error about a sentence to be taken back leaves the move waiting, or
carries it out. -/
theorem Waits.handleFrame (hr : Run h s) (hw : s.Waits offset) (halive : s.isAlive = true)
    {frame : Inbound} (hok : s.Spares offset frame) : (s.handleFrame frame).Heads offset := by
  have ho := hr.orderly
  have hactive := ho.alive.1 halive
  have hwf := hr.wellFormed
  have hmem : .cursor offset ∈ s.queue := by
    obtain ⟨front, hfront, -⟩ := hw
    rw [hfront]
    exact List.mem_append_right _ List.mem_cons_self
  have herror : ∀ {i : Nat} {x : Sentence}, s.document.sent[i]? = some x →
      s.blamed frame = some x.id →
      s.document.doomed = [] ∧ Navigation.dropAdvances s.queue = [] ∧
      (∀ id, s.slot ≠ some (.editAt id)) ∧
        s.document.live[i]? = some x ∧ x.span.stop ≤ offset := hok.of_blamed ho hactive hmem
  have ho' := ho.handleFrame halive frame
  have ht := ho.takes_handleFrame frame
  intro ha
  cases frame with
  | feedback news =>
    by_cases hreports : news.reportsError = true
    · generalize s.handleFrame (.feedback news) = s' at ha ht ho' ⊢
      cases ht with
      | broken fault => exact absurd ha (not_active_fail _ _)
      | admitted hi | processed hcontent hi => exact .inl (hw.of_queue rfl)
      | heard hs => exact .inl (hw.of_queue hs.queue)
      | @failed _ i x location message _ hi hx hs =>
        have hfound := (Document.getElem?_sentences_of_lt (Document.lt_locked_of_sent hx)).trans hx
        obtain ⟨-, hqueue, hslot, hlive, hle⟩ := herror hx (by simp [blamed, hreports, hi, hfound])
        have hlive' :
            s'.document.live = s.document.live.take i ++ [x.refused location message] := by
          rw [hs.document]
          exact Document.take_live_refuseAt hlive location message
        exact .inr (arrived_of_error ho' ha hwf hlive hle hlive' (hs.queue.trans hqueue)
          fun id => hs.slot ▸ hslot id)
    · rcases s.handleFeedback_cases (Bool.not_eq_true _ ▸ hreports) with ⟨i, -, heq | heq⟩ | hs
      · exact .inl (hw.of_queue (by rw [Session.handleFrame, heq]))
      · exact .inl (hw.of_queue (by rw [Session.handleFrame, heq]))
      · exact .inl (hw.of_queue hs.queue)
  | response response =>
    generalize s.handleFrame (.response response) = s' at ha ht ho' ⊢
    cases ht with
    | broken fault => exact absurd ha (not_active_fail _ _)
    | started _ _ hs | accepted _ _ _ hs | acceptedLate _ _ hs | rolledBack _ hs | told _ _ hs =>
      exact .inl (hw.of_queue hs.queue)
    | @refused failure i x _ hslot hx hs =>
      obtain ⟨hd, hqueue, -, hlive, hle⟩ := herror hx (by simp [blamed, hslot])
      have hlive' : s'.document.live = s.document.live.take i ++
          [x.refused failure.location failure.message] := by
        -- the sentence is the last one
        have hlast := ho.last_of_slot hactive hslot hx
        rw [Document.locked, hd, List.length_nil, Nat.add_zero] at hlast
        rw [hs.document, ← Document.take_live_refuseAt hlive failure.location failure.message,
          hlast]
        exact (List.take_of_length_le (Nat.le_of_eq (Document.length_live_modifyAt ..))).symm
      refine .inr (arrived_of_error ho' ha hwf hlive hle hlive'
        (hs.queue.trans hqueue) fun id => ?_)
      rw [hs.slot]
      simp [slot, changed, dropAdvances, freed]
    | @refusedLate failure id _ hslot hid hs =>
      -- the sentence has been discarded, so it is not a live one
      obtain ⟨-, -, y, hy, rfl, -⟩ := hok id (by simp [blamed, hslot]) hmem
      exact absurd (List.mem_map_of_mem (Document.mem_sentences_of_live hy)) hid

/-- Once the session has arrived, no frame leads it away. -/
theorem Arrived.handleFrame (hr : Run h s) (ha : s.Arrived offset) (halive : s.isAlive = true)
    (frame : Inbound) :
    (s.handleFrame frame).Heads offset := by
  have ho := hr.orderly
  have hactive := ho.alive.1 halive
  have ho' := ho.handleFrame halive frame
  have ht := ho.takes_handleFrame frame
  intro hactive'
  have hd := ha.doomed_eq_nil ho hactive
  have hpolicy := ht.settings_eq
  have hdropped : Navigation.dropAdvances s.queue = [] := by
    rw [ha.queue]
    rfl
  -- the sentence that was sent last is no longer there
  have hgone : ∀ {i : Nat} {x : Sentence}, s.document.sent[i]? = some x →
      s.slot ≠ some (.add x.id) := by
    intro i x hx hslot
    refine ha.add x.id hslot (List.mem_map_of_mem ?_)
    rw [Document.sentences_eq]
    exact List.mem_append_left _ (List.mem_of_getElem? hx)
  generalize s.handleFrame frame = s' at hactive' ht ho' hpolicy ⊢
  -- an answer that changes no sentence frees the slot
  have hfreed : s'.queue = [] → s'.slot = none → s'.document.live = s.document.live →
      s'.document.text = s.document.text → s'.Waits offset ∨ s'.Arrived offset := by
    intro hqueue hslot hlive htext
    refine .inr ⟨hqueue, by simp [hslot], by simp [hslot], ?_⟩
    rw [hpolicy]
    exact ha.atCursor.of_eq hlive htext
  cases ht with
  | broken fault => exact absurd hactive' (not_active_fail _ _)
  | started hslot hreply hs =>
    exact hfreed (hs.queue.trans ha.queue) hs.slot (by rw [hs.document]; rfl)
      (by rw [hs.document]; rfl)
  | accepted hslot hx hreply hs | refused hslot hx hs => exact absurd hslot (hgone hx)
  | acceptedLate hslot hid hs | told hslot hrequest hs =>
    exact hfreed (hs.queue.trans ha.queue) hs.slot (by rw [hs.document]; rfl)
      (by rw [hs.document]; rfl)
  | refusedLate hslot hid hs =>
    exact hfreed (hs.queue.trans hdropped) hs.slot (by rw [hs.document]; rfl)
      (by rw [hs.document]; rfl)
  | rolledBack hslot hs => exact absurd hslot (ha.editAt _)
  | @admitted feedback i hi =>
    have hids : (s.document.markAxiom i).ids = s.document.ids :=
      Document.ids_modifyAt _ _ fun x => by cases x.state <;> rfl
    refine .inr ⟨ha.queue, ha.editAt, fun id hslot => hids ▸ ha.add id hslot, ?_⟩
    refine ha.atCursor.modifyAt (fun x => ?_) (Takes.recedes ho hactive (.admitted hi) _)
    cases x.state <;> rfl
  | @processed feedback i hcontent hi =>
    have hids : (s.document.markProcessed i).ids = s.document.ids :=
      Document.ids_modifyAt _ _ fun _ => rfl
    refine .inr ⟨ha.queue, ha.editAt, fun id hslot => hids ▸ ha.add id hslot, ?_⟩
    exact ha.atCursor.modifyAt (fun _ => rfl) (Takes.recedes ho hactive (.processed hcontent hi) _)
  | @failed feedback i x location message _ hi hx hs =>
    rw [Document.sent, hd, List.append_nil] at hx
    have hlive : s'.document.live = s.document.live.take i ++ [x.refused location message] := by
      rw [hs.document]
      exact Document.take_live_refuseAt hx location message
    exact .inr (arrived_of_error ho' hactive' hr.wellFormed hx
      (ha.atCursor.within x (List.mem_of_getElem? hx)) hlive
      (hs.queue.trans hdropped) fun id => hs.slot ▸ ha.editAt id)
  | heard hs => exact .inr (ha.of_agrees hs)

/-- Of itself, a session on its way to an offset gets there and stays there. -/
theorem Heads.drifts (hr : Run h s) (hh : s.Heads offset) (hd : Drifts (Spares offset) s t) :
    t.Heads offset := by
  refine hd.keep hr hh fun hr' hh' hd' => ?_
  cases hd' with
  | outside link =>
    exact fun ha => (hh' ha).imp (·.of_queue rfl) fun harrived =>
      ⟨harrived.queue, harrived.editAt, harrived.add, harrived.atCursor⟩
  | quiet hs => exact hh'.of_agrees hs.toAgrees
  | pump hp => exact hh'.pumps hr' hp
  | frame halive hok =>
    rcases hh' (hr'.orderly.alive.1 halive) with hwaits | harrived
    · exact hwaits.handleFrame hr' halive hok
    · exact harrived.handleFrame hr' halive _
  | lose fault halive => exact fun ha => absurd ha (not_active_fail _ _)

/-- After a move to a position, whatever was in flight, a session of which nothing more is asked has
exactly the sentences locked that end at or before the position, as far as it is possible to get
there, once nothing is left to do. The exception is an error that is reported while the move waits,
about a sentence that is to be taken back. -/
theorem Run.toCursor_reaches (hr : Run h s) (halive : s.refusal? = none) (position : Position)
    (hd : Drifts (Spares (position.toOffset s.document.text)) (s.toCursor position).2 t)
    (hready : t.status = .ready) (hidle : t.isBusy = false) :
    t.document.AtCursor t.settings.axiomPolicy (position.toOffset s.document.text) := by
  have hqueued := hr.silent (.act (.order halive (.toCursor (position.toOffset s.document.text))))
  have hmove : (s.toCursor position).2 =
      pump { s with queue := s.queue.filter (·.isRewind) ++
        [.cursor (position.toOffset s.document.text)] } := by
    rw [toCursor, halive]
  -- the move stands behind rollbacks alone, and drifting keeps it so until it has arrived
  have hheads : Heads (position.toOffset s.document.text)
      { s with
        queue := s.queue.filter (·.isRewind) ++ [.cursor (position.toOffset s.document.text)] } :=
    fun _ => .inl ⟨_, rfl, fun op hop => (List.mem_filter.1 hop).2⟩
  rw [hmove] at hd
  have ht := hheads.drifts hqueued ((Drifts.pump .refl).trans hd)
  simp only [isBusy, Bool.or_eq_false_iff, Bool.not_eq_eq_eq_not, Bool.not_false,
    List.isEmpty_iff] at hidle
  rcases ht (.inr hready) with ⟨front, hfront, -⟩ | harrived
  · -- nothing is queued any more
    rw [hidle.1.2] at hfront
    simp at hfront
  · exact harrived.atCursor

/-! ## A move back while a sentence is on its way -/

/-- Polling once a frame has arrived. -/
theorem Drifts.deliver {ok : Session Channel → Inbound → Prop} {s t : Session Channel}
    (hd : Drifts ok s t) (frame : Inbound) (u : Session Channel) (hok : ∀ v, ok v frame)
    (hu : ({ t with link := delivering frame } : Session Channel).poll.2 = u.pump) :
    Drifts ok s u.pump := by
  have hlink : Drifts ok t { t with link := delivering frame } := .single (.outside _)
  have hpoll : Drifts ok { t with link := delivering frame } u.pump := by
    refine hu ▸ drifts_poll fun other hother v _ => ?_
    rw [frames_delivering, List.mem_singleton] at hother
    exact hother ▸ hok v
  exact hd.trans (hlink.trans hpoll)

/-- The text "A." with its sentence refused. -/
def refusedText : Document :=
  { sentText with live := [⟨0, ⟨0, 2⟩, "A.", .error ⟨0, 2⟩ "no", none, false⟩] }

/-- The text "A." with its sentence taken back. -/
def emptiedText : Document :=
  { sentText with live := [] }

/-- The text "A." with its sentence taken back and split off again. -/
def splitText : Document :=
  { emptiedText with unsent := [⟨1, ⟨0, 2⟩, "A.", .unprocessed, none, false⟩], nextId := 2 }

/-- A refusal of the sentence strands a move to the start of the text, which would have taken it
back. -/
theorem exists_stranded : ∃ (h : History) (s t : Session Channel) (position : Position), Run h s ∧
    s.refusal? = none ∧ position.toOffset s.document.text = 0 ∧
    Drifts (fun _ _ => True) (s.toCursor position).2 t ∧ t.status = .ready ∧ t.isBusy = false ∧
    ¬ t.document.AtCursor t.settings.axiomPolicy (position.toOffset s.document.text) := by
  have hoffset : (⟨0, 0⟩ : Position).toOffset (waiting sentCalls).document.text = 0 := by cbv
  have hmove : ((waiting sentCalls).toCursor ⟨0, 0⟩).2 =
      { waiting sentCalls with queue := [.cursor 0] } := by cbv
  have hrefused : (underway [] refusedText none [] true [⟨.error, "no"⟩]).pump =
      underway [.goal] refusedText (some .goal) [] false [⟨.error, "no"⟩] := by
    rw [pump_eq]
    rfl
  have hdone : (underway [] refusedText none [] false [⟨.error, "no"⟩]).pump =
      underway [] refusedText none [] false [⟨.error, "no"⟩] := by
    rw [pump_eq]
    rfl
  have hstart : Drifts (fun _ _ => True) ((waiting sentCalls).toCursor ⟨0, 0⟩).2
      { waiting sentCalls with queue := [.cursor 0] } := hmove ▸ .refl
  -- the refusal cancels the move, and what is left to do is to ask for the goals
  have hfail := hstart.deliver (.response (.fail ⟨⟨1⟩, none, "no"⟩))
    (underway [] refusedText none [] true [⟨.error, "no"⟩])
    (fun _ => trivial) (by cbv)
  rw [hrefused] at hfail
  have hidle :=
    hfail.deliver (replyFrame (.goal none)) (underway [] refusedText none [] false [⟨.error, "no"⟩])
    (fun _ => trivial) (by cbv)
  rw [hdone] at hidle
  refine ⟨_, _, _, ⟨0, 0⟩, run_waiting, rfl, hoffset, hidle, rfl, rfl, fun hcursor => ?_⟩
  -- the sentence ends at offset 2
  have hwithin := hcursor.within _ List.mem_cons_self
  rw [hoffset] at hwithin
  simp at hwithin

/-- If the prover accepts the sentence instead, it is taken back. -/
theorem toCursor_reaches_of_accepted :
    ∃ (h : History) (s t : Session Channel) (position : Position), Run h s ∧
    s.refusal? = none ∧ s.slot = some (.add 0) ∧ Drifts (Spares 0) (s.toCursor position).2 t ∧
    t.status = .ready ∧ t.isBusy = false ∧ t.document.live = [] ∧
    t.document.AtCursor t.settings.axiomPolicy 0 := by
  have hoffset : (⟨0, 0⟩ : Position).toOffset (waiting sentCalls).document.text = 0 := by cbv
  have hmove : ((waiting sentCalls).toCursor ⟨0, 0⟩).2 =
      { waiting sentCalls with queue := [.cursor 0] } := by cbv
  have hspares : ∀ (payload : Markup.Element) (v : Session Channel),
      Spares 0 v (.response (.good payload)) := by
    intro payload v id hblamed
    simp [blamed] at hblamed
  have haccepted : (underway [] acceptedText none [.cursor 0] true []).pump =
      underway [.editAt ⟨1⟩] acceptedText (some (.editAt 0)) [.cursor 0] true [] := by
    rw [pump_eq]
    cbv
  -- the sentence is discarded, and the cursor then splits it off again and finds it past the offset
  have hback : (underway [] emptiedText none [.cursor 0] true []).pump =
      underway [.goal] splitText (some .goal) [] false [] := by
    have hproceed : (underway [] emptiedText none [.cursor 0] true []).pump =
        (underway [] splitText none [] true []).pump := by
      rw [pump_eq]
      cbv
    rw [hproceed, pump_eq]
    rfl
  have hdone : (underway [] splitText none [] false []).pump =
      underway [] splitText none [] false [] := by
    rw [pump_eq]
    rfl
  have hstart : Drifts (Spares 0) ((waiting sentCalls).toCursor ⟨0, 0⟩).2
      { waiting sentCalls with queue := [.cursor 0] } := hmove ▸ .refl
  -- three frames arrive: the answer to the sentence, to the rollback, and to the goals
  have hfirst :=
    hstart.deliver (replyFrame (.add ⟨2⟩ none ""))
      (underway [] acceptedText none [.cursor 0] true [])
    (hspares _) (by cbv)
  rw [haccepted] at hfirst
  have hsecond :=
    hfirst.deliver (replyFrame (.editAt none)) (underway [] emptiedText none [.cursor 0] true [])
    (hspares _) (by cbv)
  rw [hback] at hsecond
  have hidle :=
    hsecond.deliver (replyFrame (.goal none)) (underway [] splitText none [] false [])
      (hspares _) (by cbv)
  rw [hdone] at hidle
  have hcursor := run_waiting.toCursor_reaches rfl ⟨0, 0⟩ (hoffset ▸ hidle) rfl rfl
  rw [hoffset] at hcursor
  exact ⟨_, _, _, ⟨0, 0⟩, run_waiting, rfl, rfl, hidle, rfl, rfl, rfl, hcursor⟩

end Session

end ProofDesk
