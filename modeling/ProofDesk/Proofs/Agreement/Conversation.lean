import ProofDesk.Proofs.Agreement.Coupling

/-!
# Agreement with the prover

In every conversation sentences are sent on top of the prover's last state, the states that the
session goes back to are on the prover's branch, and a session that waits for nothing and has no
sentence in error or doomed has locked what is on the branch (`Conversation.agreement`). Each step
of a session and each frame that it takes up keeps the two coupled (`Coupled.act`, `Coupled.takes`).
-/

namespace ProofDesk

namespace Document

variable {d d' : Document} {i : Nat} {x : Sentence} {id : SentenceId}

/-- What the prover has been told depends on the trail alone. -/
theorem told_of_trail (h : d'.trail = d.trail) : d'.told = d.told := by
  rw [told, told, h]

/-- The last sentence that has been sent is told last. -/
theorem told_modify_last (hx : d.sent[i]? = some x) (hlast : i + 1 = d.locked) (f : Entry → Entry) :
    (d.trail.modify i f).map Entry.plain = d.told.take i ++ [(f x.entry).plain] := by
  rw [Coherent.modify_last hx hlast, List.map_append, List.map_take]
  rfl

/-- What the prover has been told ends with the sentence that was sent last. -/
theorem told_eq_concat (hx : d.sent[i]? = some x) (hlast : i + 1 = d.locked) :
    d.told = d.told.take i ++ [x.entry.plain] := by
  have h := told_modify_last hx hlast id
  rwa [List.modify_id] at h

/-- Positions of sentences that have been sent. -/
private theorem Numbered.standsAt (hn : d.Numbered) (hx : d.sent[i]? = some x) :
    StandsAt d.told x.id i := by
  -- an entry is found where it stands, and nowhere else
  have hindex : ∀ (j : Nat) (e : Entry), d.told[j]? = some e → d.indexOf? e.id = some j := by
    intro j e hj
    rw [told, List.getElem?_map] at hj
    obtain ⟨e₀, he₀, rfl⟩ := Option.map_eq_some_iff.1 hj
    refine hn.indexOf?_of_trail ?_
    rw [List.getElem?_map, he₀]
    rfl
  intro j e hj
  have hfound := hindex j e hj
  constructor
  · intro hid
    rw [hid, hn.indexOf? ((getElem?_sentences_of_lt (lt_locked_of_sent hx)).trans hx)] at hfound
    exact (Option.some.inj hfound).symm
  · rintro rfl
    rw [told, List.getElem?_map, Coherent.trail_of_sent hx, Option.map_some,
      Option.some.injEq] at hj
    rw [← hj]
    rfl

/-- Whatever the prover has been told about is a sentence of the document. -/
theorem mem_ids_of_told {e : Entry} (he : e ∈ d.told) : e.id ∈ d.ids := by
  obtain ⟨e₀, he₀, rfl⟩ := List.mem_map.1 he
  rw [ids_eq, Entry.id_plain]
  exact List.mem_append_left _ (List.mem_map_of_mem he₀)

/-- Discarding sentences from one on that has been sent. -/
private theorem told_truncateTo (hn : d.Numbered) (hs : d.Spent id) {k : Nat}
    (hk : StandsAt d.told id k) :
    (d.truncateTo id).2.told = d.told.take k := by
  by_cases hid : id ∈ d.ids
  · obtain ⟨j, x, hx, rfl⟩ := hs.mem_trail hid
    have hindex := hn.indexOf? ((getElem?_sentences_of_lt (lt_locked_of_sent hx)).trans hx)
    have hget : d.told[j]? = some x.entry.plain := by
      rw [told, List.getElem?_map, Coherent.trail_of_sent hx]
      rfl
    obtain rfl := (hk j _ hget).1 rfl
    rw [truncateTo, hindex, told, trail_truncateAt, List.map_take]
    rfl
  · rw [truncateTo, indexOf?_eq_none hid, List.take_of_length_le]
    exact hk.length_le fun e he heq => hid (heq ▸ mem_ids_of_told he)

/-- The states of sentences do not depend on the news of them. -/
private theorem ofEntries_told (d : Document) :
    Branch.ofEntries d.told = Branch.ofEntries d.trail := by
  rw [told, Branch.ofEntries, List.filterMap_map]
  rfl

end Document

namespace Session

open Dialogue (Proper Stage)

/-- A session and its prover as every conversation keeps them. -/
structure Coupled (fs : List Inbound) (s : Session Dialogue) : Prop where
  sane : s.link.Sane
  proper : ∀ c ∈ s.link.record, Proper c
  root : s.status = .ready → s.document.root = some s.link.root
  stage : s.Active → s.link.Stage (responsesOf (fs ++ s.link.frames)) s.document.told s.slot

section Steps

variable {fs : List Inbound} {s s' : Session Dialogue}

/-- What leaves the link, the slot and what has been told alone keeps the two coupled. -/
theorem Coupled.of_eq (hc : Coupled fs s) (hlink : s'.link = s.link)
    (hroot : s'.document.root = s.document.root) (hready : s'.status = .ready → s.status = .ready)
    (hstage : s'.Active → s.Active ∧ s'.document.told = s.document.told ∧ s'.slot = s.slot) :
    Coupled fs s' := by
  refine ⟨hlink ▸ hc.sane, hlink ▸ hc.proper, fun hr => ?_, fun ha => ?_⟩
  · rw [hlink, hroot]
    exact hc.root (hready hr)
  · obtain ⟨ha', htold, hslot⟩ := hstage ha
    rw [hlink, htold, hslot]
    exact hc.stage ha'

/-- A session that has ended asks for nothing more. -/
theorem coupled_of_ended (hsane : s.link.Sane) (hproper : ∀ c ∈ s.link.record, Proper c)
    (hactive : ¬ s.Active) :
    Coupled fs s :=
  ⟨hsane, hproper, fun hr => absurd (.inr hr) hactive, fun ha => absurd ha hactive⟩

/-- A session that fails is still coupled with its prover. -/
theorem Coupled.fail (hc : Coupled fs s) (fault : Fault) : Coupled fs (s.fail fault) :=
  coupled_of_ended hc.sane hc.proper (not_active_fail s fault)

/-- Whatever the prover does keeps session and prover coupled. -/
theorem Coupled.prover (hc : Coupled fs s) {link : Dialogue} (hs : s.link.Steps link) :
    Coupled fs { s with link } := by
  refine ⟨hc.sane.steps hs, fun c hmem => ?_, fun hr => ?_, fun ha => (hc.stage ha).steps hs⟩
  · rw [hs.record_eq] at hmem
    exact hc.proper c hmem
  · rw [hs.root_eq]
    exact hc.root hr

/-- What a session and its prover have in common while nothing is on its way. -/
theorem Coupled.idle (hc : Coupled fs s) (ha : s.Active) (hfree : s.request = none) :
    s.link.calls = [] ∧ responsesOf (fs ++ s.link.frames) = [] ∧
    Tracks s.document.told s.link.branch := by
  have hslot : s.slot = none := (slot_eq_none_iff s).2 hfree
  have hstage := hc.stage ha
  rw [hslot] at hstage
  cases hstage with
  | idle hcalls hresponses ht => exact ⟨hcalls, hresponses, ht⟩

/-- A call is handed over while nothing is on its way. -/
theorem Coupled.send (hc : Coupled fs s) (ha : s.Active) (hfree : s.request = none)
    {document : Document} {queue : List Navigation} {goalsStale : Bool} {request : Request}
    {call : Call} (hroot : document.root = s.document.root)
    (hproper : Proper (call, s.link.states))
    (hasked : s.link.Asked document.told request call) :
    Coupled fs (Session.send { s with document, queue, goalsStale } request call) := by
  obtain ⟨hcalls, hresponses, -⟩ := hc.idle ha hfree
  refine ⟨⟨hc.sane.nodup, hc.sane.used⟩, fun c hmem => ?_, fun hr => ?_, fun _ => ?_⟩
  · rcases List.mem_append.1 hmem with hmem | hmem
    · exact hc.proper c hmem
    · rw [List.mem_singleton.1 hmem]
      exact hproper
  · exact hroot.trans (hc.root hr)
  · -- nothing else is on its way, so the call is the one that the prover answers next
    refine Stage.asked ?_ hresponses hasked
    show s.link.calls ++ [call] = [call]
    rw [hcalls, List.nil_append]

/-- The state before a sentence is the last one of a front of the branch. -/
theorem Coupled.getLast?_states (hc : Coupled fs s) (hready : s.status = .ready) {d : Document}
    {state : StateId} (hroot : d.root = s.document.root) {index : Nat} (hindex : index ≤ d.locked)
    (hstate : d.stateBefore index = some state) :
    (s.link.root :: (Branch.ofEntries (d.told.take index)).map (·.1)).getLast? = some state := by
  rw [Document.stateBefore_eq hindex, hroot, hc.root hready, Branch.lastState_eq] at hstate
  rw [← hstate, Document.told, ← List.map_take, Branch.ofEntries, List.filterMap_map]
  rfl

/-- Sending the call that the head of the queue asks for keeps session and prover coupled. -/
theorem Coupled.sends (hc : Coupled fs s) (ho : s.Orderly) (hfree : s.request = none)
    (hready : s.status = .ready) {op : Navigation} {rest queue : List Navigation}
    (hqueue : s.queue = op :: rest) {policy : AxiomPolicy} {request : Request} {call : Call}
    {document : Document}
    (hs : Navigation.Sends policy s.document op rest request call document queue) :
    Coupled fs (Session.send { s with document, queue } request call) := by
  have ha : s.Active := .inr hready
  have hslot : s.slot = none := (slot_eq_none_iff s).2 hfree
  obtain ⟨-, -, ht⟩ := hc.idle ha hfree
  cases hs with
  | @add d x later parent hop hblocked hd he hx htip =>
    -- a sentence is sent only on top of settled ones, of which the branch consists
    have hpending := (ho.awaits ha).not_pending (by simp [hslot])
    have hsettled := ho.coherent.all_settled hd hpending fun _ =>
      Document.isError_of_isBlocked hblocked
    have hbranch := ht.eq_of_settled hsettled
    have hd₁ : d.doomed = [] := he.doomed.trans hd
    have hu : x.Untouched := (ho.coherent.extend hd he).untouched x (hx ▸ List.mem_cons_self)
    refine hc.send ha hfree he.root ?_ ?_
    · have hlast := hc.getLast?_states hready he.root (Nat.le_refl _) htip
      rw [List.take_of_length_le (by simp [Document.told]),
        Document.told_of_trail he.trail] at hlast
      show s.link.states.getLast? = some parent
      rw [← hlast, Dialogue.states, ← hbranch]
      rfl
    · have htold : (d.withPending x later).told =
          s.document.told ++ [⟨x.id, x.text, x.stateId, .pending, false⟩] := by
        rw [Document.told, Document.trail_withPending hd₁, he.trail, List.map_append]
        rfl
      exact Awaited.waiting htold rfl rfl hu.stateId hbranch
  | @editAt index y target hindex hy htarget =>
    -- the state in front of the sentence ends a front of the branch
    have hlt : index < s.document.locked := (hqueue ▸ ho.tidy).lt_locked ho.coherent.numbered hindex
    have hsent : s.document.sent[index]? = some y :=
      (Document.getElem?_sentences_of_lt hlt).symm.trans hy
    have hlast := hc.getLast?_states hready rfl (Nat.le_of_lt hlt) htarget
    have hfront : Branch.ofEntries (s.document.told.take index) <+: s.link.branch :=
      (Branch.ofEntries_take_isPrefix _ _).trans ht.isPrefix
    obtain ⟨hmem, hupTo⟩ := hc.sane.upTo_eq hfront hlast
    exact hc.send ha hfree rfl hmem ⟨hmem, index, ho.coherent.numbered.standsAt hsent,
      .inl hupTo.symm⟩

/-- Whatever the session does by itself, or is asked to do, keeps it coupled with its prover. -/
theorem Coupled.act (hc : Coupled fs s) (ho : s.Orderly) {es : History} (ha : Act s es s') :
    Coupled fs s' := by
  cases ha with
  | quiet hs =>
    refine hc.of_eq hs.link (by rw [hs.document]) (fun hr => hs.status ▸ hr) fun ha =>
      ⟨hs.active_iff.1 ha, ?_, hs.slot⟩
    rw [hs.document]
  | order halive horder => exact hc.of_eq rfl rfl id fun ha => ⟨ha, rfl, rfl⟩
  | edit he =>
    -- the sentences that have been sent stay, doomed or not
    have hr := he.reconciled
    refine hc.of_eq (link_noteEdit ..) ?_ (fun h => ?_) fun ha => ⟨?_, ?_, slot_noteEdit ..⟩
    · rw [document_noteEdit]
      exact hr.root
    · rwa [status_noteEdit] at h
    · rwa [Active, status_noteEdit] at ha
    · rw [document_noteEdit]
      exact Document.told_of_trail hr.trail
  | round hround =>
    cases hround with
    | send hfree hready hqueue hstep =>
      exact hc.sends ho hfree hready hqueue (Navigation.of_step_send ho.coherent.numbered hstep)
    | proceed hfree hready hqueue hstep =>
      -- one more sentence may have been split off, which the prover has not been told
      have he :=
        (Navigation.of_step_proceed (ho.root hready) (hqueue ▸ ho.tidy).ne_backward_zero hstep).1
      exact hc.of_eq rfl he.root id fun ha => ⟨ha, Document.told_of_trail he.trail, rfl⟩
    | @refuse op rest document fault hfree hready hqueue hstep =>
      have he := Navigation.of_step_refuse hstep
      have hs := quiet_refuse { s with document } fault
      have hdocument : (Session.refuse { s with document } fault).document = document := hs.document
      refine hc.of_eq hs.link ?_ (fun hr => hs.status ▸ hr) fun ha =>
        ⟨hs.active_iff.1 ha, ?_, hs.slot⟩
      · rw [hdocument]
        exact he.root
      · rw [hdocument]
        exact Document.told_of_trail he.trail
    | goal hfree hready hqueue hstale =>
      exact hc.send (.inr hready) hfree rfl trivial (hc.idle (.inr hready) hfree).2.2
  | status halive hfree =>
    exact hc.send (ho.active halive) hfree rfl trivial (hc.idle (ho.active halive) hfree).2.2
  | close =>
    -- only quitting may still be sent
    have hclosed : ¬ s.close.Active := by
      unfold Active
      simp [status_close]
    unfold Session.close
    split
    · exact hc
    · split
      · refine coupled_of_ended ⟨hc.sane.nodup, hc.sane.used⟩ (fun c hmem => ?_) (by simp [Active])
        rcases List.mem_append.1 hmem with hmem | hmem
        · exact hc.proper c hmem
        · rw [List.mem_singleton.1 hmem]
          trivial
      · exact coupled_of_ended hc.sane hc.proper (by simp [Active])

end Steps

section Frames

variable {fs : List Inbound} {s s' : Session Dialogue}

/-- The answer that is taken up is what the slot waits for. -/
theorem Coupled.of_response {response : Response} (hc : Coupled (.response response :: fs) s)
    (ha : s.Active) {request : Request} (hslot : s.slot = some request) :
    s.link.calls = [] ∧ responsesOf (fs ++ s.link.frames) = [] ∧
      s.link.Answered s.document.told request response := by
  obtain ⟨request', hslot', hcalls, hresponses, hanswered⟩ := (hc.stage ha).of_responses
  rw [hslot, Option.some.injEq] at hslot'
  rw [hslot']
  exact ⟨hcalls, hresponses, hanswered⟩

/-- Once an answer has been taken up, nothing is on its way. -/
theorem Coupled.answered {response : Response} (hc : Coupled (.response response :: fs) s)
    (ha : s.Active) (ht : Takes s (.response response) s') {request : Request}
    (hslot : s.slot = some request)
    (hroot : s'.status = .ready → s'.document.root = some s.link.root)
    (htracks : s.link.Answered s.document.told request response →
      Tracks s'.document.told s.link.branch) :
    Coupled fs s' := by
  obtain ⟨hcalls, hresponses, hanswered⟩ := hc.of_response ha hslot
  have hlink := ht.dialogue_eq
  refine ⟨hlink ▸ hc.sane, hlink ▸ hc.proper, hlink ▸ hroot, fun ha' => ?_⟩
  obtain ⟨-, -, hnone⟩ := ht.slot_of_response ha'
  rw [hlink, hnone]
  exact .idle hcalls hresponses (htracks hanswered)

/-- Feedback is no answer. -/
theorem Coupled.of_feedback {feedback : Feedback} (hc : Coupled (.feedback feedback :: fs) s) :
    Coupled fs s :=
  ⟨hc.sane, hc.proper, hc.root, hc.stage⟩

/-- Taking up the next frame that has arrived keeps session and prover coupled. -/
theorem Coupled.takes {frame : Inbound} (hc : Coupled (frame :: fs) s) (ho : s.Orderly)
    (ha : s.Active) (ht : Takes s frame s') : Coupled fs s' := by
  have hready : s.slot ≠ some .init → s.document.root = some s.link.root := fun hslot =>
    hc.root (ho.ready ha hslot)
  have hn := ho.coherent.numbered
  cases ht with
  | broken fault => exact coupled_of_ended hc.sane hc.proper (not_active_fail _ _)
  | started hslot hreply hs =>
    refine hc.answered ha (.started hslot hreply hs) hslot (fun _ => ?_) fun hanswered => ?_
    · obtain ⟨-, -, hstarted, -⟩ := hc.of_response ha hslot
      rw [hreply, Except.ok.injEq, Reply.init.injEq] at hstarted
      rw [hs.document, hstarted]
      rfl
    · rw [hs.document]
      exact hanswered.2
  | @accepted payload state closed message i x s' hslot hx hreply hs =>
    refine hc.answered ha (.accepted hslot hx hreply hs) hslot (fun _ => ?_) fun hanswered => ?_
    · rw [hs.document]
      exact (Document.root_modifyAt ..).trans (hready (by simp [hslot]))
    -- the prover has put the state on its branch, and the sentence that waits for it is the last
    -- one
    · obtain ⟨state', closed', message', front, text, hreply', hbranch, hawaited⟩ := hanswered
      rw [hreply, Except.ok.injEq, Reply.add.injEq] at hreply'
      obtain ⟨rfl, -, -⟩ := hreply'
      have hlast := ho.last_of_slot ha hslot hx
      have hmem : x.entry ∈ s.document.trail :=
        List.mem_of_getElem? (Document.Coherent.trail_of_sent hx)
      rw [Document.told_eq_concat hx hlast] at hawaited
      rw [hs.document, hbranch]
      show Tracks ((s.document.acceptAt i state).trail.map Entry.plain) _
      rw [Document.trail_acceptAt (Document.lt_locked_of_sent hx),
        Document.told_modify_last hx hlast]
      exact hawaited.accepted ((ho.awaits ha _ hmem).2 hslot) state
  | @refused failure i x s' hslot hx hs =>
    refine hc.answered ha (.refused hslot hx hs) hslot (fun _ => ?_) fun hanswered => ?_
    · rw [hs.document]
      exact (Document.root_modifyAt ..).trans (hready (by simp [hslot]))
    · obtain ⟨text, hawaited⟩ := hanswered
      have hlast := ho.last_of_slot ha hslot hx
      have hmem : x.entry ∈ s.document.trail :=
        List.mem_of_getElem? (Document.Coherent.trail_of_sent hx)
      rw [Document.told_eq_concat hx hlast] at hawaited
      rw [hs.document]
      show Tracks ((s.document.refuseAt i _ _).trail.map Entry.plain) _
      rw [Document.trail_refuseAt (Document.lt_locked_of_sent hx),
        Document.told_modify_last hx hlast]
      exact hawaited.refused ((ho.awaits ha _ hmem).2 hslot)
  | acceptedLate hslot hid hs =>
    refine hc.answered ha (.acceptedLate hslot hid hs) hslot (fun _ => ?_) fun hanswered => ?_
    · rw [hs.document]
      exact hready (by simp [hslot])
    -- the branch has a state more than the session knows of, as the sentence has been discarded
    · obtain ⟨state, closed, message, front, text, -, hbranch, hawaited⟩ := hanswered
      rw [hs.document, hbranch]
      refine Dirty.tracks (Dirty.append (hawaited.dirty fun e he heq => hid ?_) _)
      exact heq ▸ Document.mem_ids_of_told he
  | refusedLate hslot hid hs =>
    refine hc.answered ha (.refusedLate hslot hid hs) hslot (fun _ => ?_) fun hanswered => ?_
    · rw [hs.document]
      exact hready (by simp [hslot])
    · obtain ⟨text, hawaited⟩ := hanswered
      rw [hs.document]
      exact (hawaited.dirty fun e he heq => hid (heq ▸ Document.mem_ids_of_told he)).tracks
  | @rolledBack response id s' hslot hs =>
    refine hc.answered ha (.rolledBack hslot hs) hslot (fun _ => ?_) fun hanswered => ?_
    · rw [hs.document]
      exact (Document.root_truncateTo ..).trans (hready (by simp [hslot]))
    · obtain ⟨k, hstands, htracks⟩ : ∃ k, StandsAt s.document.told id k ∧
          Tracks (s.document.told.take k) s.link.branch := by
        cases response <;> exact hanswered
      rw [hs.document]
      show Tracks (s.document.truncateTo id).2.told _
      rw [Document.told_truncateTo hn (ho.addressed id (.inr hslot)) hstands]
      exact htracks
  | @told response request s' hslot hrequest hs =>
    refine hc.answered ha (.told hslot hrequest hs) hslot (fun _ => ?_) fun hanswered => ?_
    · rw [hs.document]
      refine hready ?_
      rcases hrequest with rfl | rfl | rfl <;> simp [hslot]
    · rw [hs.document]
      rcases hrequest with rfl | rfl | rfl
      · cases response <;> exact hanswered
      · cases response <;> exact hanswered
      · cases response <;> exact hanswered.elim
  | @admitted feedback i hi =>
    refine hc.of_feedback.of_eq rfl (Document.root_modifyAt ..) id fun ha => ⟨ha, ?_, rfl⟩
    exact Document.told_of_trail (Document.trail_markAxiom ..)
  | @processed feedback i hcontent hi =>
    obtain ⟨x, hx, -⟩ := Document.sent_of_indexOfState? ho.coherent.stateId_unsent hi
    refine hc.of_feedback.of_eq rfl (Document.root_modifyAt ..) id fun ha => ⟨ha, ?_, rfl⟩
    show (s.document.markProcessed i).trail.map Entry.plain = _
    rw [Document.trail_markProcessed (Document.lt_locked_of_sent hx),
      map_modify_of_eq Entry.plain_checked]
    rfl
  | @failed feedback i x location message s' hi hx hs =>
    obtain ⟨y, hy, hstate⟩ := Document.sent_of_indexOfState? ho.coherent.stateId_unsent hi
    obtain rfl : x = y := Option.some.inj (hx.symm.trans hy)
    -- the prover is not told of the error, and keeps what it has accepted
    have htold : s'.document.told = s.document.told.take i ++ [x.entry.plain.refused] := by
      rw [hs.document]
      show ((s.document.refuseAt i location message).truncateAt (i + 1)).2.trail.map Entry.plain = _
      rw [Document.Coherent.trail_refuseAt_truncateAt hx, List.map_append, List.map_take]
      rfl
    have hget : s.document.told[i]? = some x.entry.plain := by
      rw [Document.told, List.getElem?_map, Document.Coherent.trail_of_sent hx]
      rfl
    have hlink : s'.link = s.link := hs.link
    refine ⟨hlink ▸ hc.sane, hlink ▸ hc.proper, fun hr => ?_, fun ha' => ?_⟩
    · rw [hlink, hs.document]
      exact (Document.root_modifyAt ..).trans (hc.root (hs.status ▸ hr))
    · rw [hlink, hs.slot, htold]
      refine (hc.of_feedback.stage ha).fails (.intro hget ?_)
      rw [Entry.stateId_plain, Sentence.stateId_entry, hstate]
      rfl
  | heard hs =>
    refine hc.of_feedback.of_eq hs.link (by rw [hs.document]) (fun hr => hs.status ▸ hr) fun ha =>
      ⟨hs.active_iff.1 ha, by rw [hs.document], hs.slot⟩

end Frames

/-- A new session is coupled with a prover that has not been started. -/
theorem coupled_start (root : StateId) (text : String) (settings : Settings) :
    Coupled [] (start (Dialogue.opened root) text settings) := by
  refine ⟨⟨(Dialogue.sane_opened root).nodup, (Dialogue.sane_opened root).used⟩, fun c hmem => ?_,
    fun hr => ?_, fun _ => ?_⟩
  · rw [List.mem_singleton.1 hmem]
    trivial
  · exact absurd hr (by simp [start, Session.send, Link.send])
  · exact Stage.asked rfl rfl (.inl rfl)

end Session

open Session

/-- How a session `s` and its prover agree. -/
structure Agreement (s : Session Dialogue) : Prop where
  /-- Every sentence was sent on top of the prover's last state. -/
  add : ∀ command editId parent verbose states,
    (.add command editId parent verbose, states) ∈ s.link.record →
    states.getLast? = some parent
  /-- The session only ever goes back to states that the prover has. -/
  editAt : ∀ target states, (.editAt target, states) ∈ s.link.record → target ∈ states
  /-- Where nothing is on its way, doomed or in error, the prover's last state is that after the
  locked sentences. -/
  commands : s.status = .ready → s.request = none → s.document.doomed = [] →
    (∀ x ∈ s.document.live, x.isError = false) → s.link.commands = s.document.live.map (·.text)

namespace Conversation

variable {fs : List Inbound} {s : Session Dialogue}

/-- In every conversation session and prover are coupled. -/
theorem coupled (hc : Conversation fs s) : Coupled fs s := by
  induction hc with
  | start root text settings => exact coupled_start root text settings
  | prover _ hp ih => exact ih.prover hp
  | act hc ha ih => exact ih.act hc.orderly ha
  | receive _ ih =>
    exact ⟨⟨ih.sane.nodup, ih.sane.used⟩, ih.proper, ih.root,
      fun ha => (ih.stage ha).congr rfl rfl rfl⟩
  | frame hc halive ih =>
    have ho := hc.orderly
    exact ih.takes ho (ho.alive.1 halive) (ho.takes_handleFrame _)
  | ignore hc hdead ih =>
    exact coupled_of_ended ih.sane ih.proper fun ha => hdead (hc.orderly.alive.2 ha)
  | lose _ fault _ ih => exact ih.fail fault

/-- In every conversation session and prover agree. -/
theorem agreement (hc : Conversation fs s) : Agreement s := by
  have ho := hc.orderly
  have hcoupled := hc.coupled
  refine ⟨fun command editId parent verbose states hmem => hcoupled.proper _ hmem,
    fun target states hmem => hcoupled.proper _ hmem, fun hready hfree hd herror => ?_⟩
  have ha : s.Active := .inr hready
  obtain ⟨-, -, ht⟩ := hcoupled.idle ha hfree
  -- nothing waits and nothing is in error, so all sentences that have been sent are settled
  have hpending := (ho.awaits ha).not_pending (by simp [(slot_eq_none_iff s).2 hfree])
  have hsettled := ho.coherent.all_settled hd hpending fun x hx =>
    herror x (List.mem_of_getLast? hx)
  calc s.link.commands
    _ = (Branch.ofEntries s.document.told).map (·.2) := by
        rw [Dialogue.commands, ← ht.eq_of_settled hsettled]
        rfl
    _ = s.document.trail.map (·.text) := by
        rw [Document.ofEntries_told, Branch.map_snd_ofEntries fun e he => (hsettled e he).2]
    _ = s.document.live.map (·.text) := by
        rw [Document.trail, Document.sent, hd, List.append_nil, List.map_map]
        rfl

end Conversation

/-- A prover that has been started in state 1. -/
def Dialogue.begun : Dialogue :=
  { Dialogue.opened ⟨1⟩ with record := [(.init, [⟨1⟩])] }

/-- A prover that has then accepted "A.". -/
def Dialogue.advanced : Dialogue :=
  { Dialogue.begun with
    branch := [(⟨2⟩, "A.")]
    used := [⟨2⟩, ⟨1⟩]
    record := [(.init, [⟨1⟩]), (.add "A." Navigation.noEdit ⟨1⟩ false, [⟨1⟩])] }

/-- The sentence of "A." is sent and accepted. -/
theorem agreement_of_accepted :
    ∃ s : Session Dialogue, Conversation [] s ∧ s.status = .ready ∧ s.request = none ∧
      s.document.doomed = [] ∧ (∀ x ∈ s.document.live, x.isError = false) ∧
      s.link.commands = ["A."] ∧ Agreement s := by
  have hroot : Reply.ofElement .init (Reply.init ⟨1⟩).toElement = .ok (.init ⟨1⟩) := by cbv
  have hadd : Reply.ofElement .add (Reply.add ⟨2⟩ none "").toElement = .ok (.add ⟨2⟩ none "") := by
    cbv
  have hstarted : Conversation [replyFrame (.init ⟨1⟩)] (opening Dialogue.begun "A.") :=
    (((Conversation.start ⟨1⟩ "A." .default).prover (.init rfl hroot)).prover (.arrive rfl)).receive
  -- the greeting is answered, the sentence is sent, and the prover accepts it
  have hgreeted := hstarted.frame rfl
  rw [handleFrame_opening] at hgreeted
  have hsent := (hgreeted.act (.order rfl .forward)).act (.round (.send rfl rfl rfl step_ofText))
  have hanswered : Conversation [replyFrame (.add ⟨2⟩ none "")] (waiting Dialogue.advanced) :=
    ((hsent.prover (.accept rfl (by decide) hadd)).prover (.arrive rfl)).receive
  have haccepted := hanswered.frame rfl
  rw [handleFrame_waiting] at haccepted
  exact ⟨_, haccepted, rfl, rfl, rfl, by simp [accepted, acceptedText, Sentence.isError], rfl,
    haccepted.agreement⟩

end ProofDesk
