import ProofDesk.Proofs.Agreement.Dialogue

/-!
# How a session and its prover stay together

While a call is on its way, session and prover differ on purpose: the prover may have answered
already, sentences may have been discarded meanwhile, and errors are found without the prover going
back. `Dialogue.Stage` says what they have in common at each stage of a request, and `Coupled` is
the invariant of a conversation made of it.
-/

namespace ProofDesk

/-- The answer that a frame is. -/
def Inbound.response? : Inbound → Option Response
  | .response answer => some answer
  | .feedback _ => none

/-- The answers among some frames. -/
def responsesOf (frames : List Inbound) : List Response :=
  frames.filterMap Inbound.response?

/-- What the prover is told of a document. -/
def Document.told (d : Document) : List Entry :=
  d.trail.map Entry.plain

namespace Dialogue

/-- A call that was handed over fits the states of the prover at that time. -/
def Proper : Call × List StateId → Prop
  | (.add _ _ parent _, states) => states.getLast? = some parent
  | (.editAt target, states) => target ∈ states
  | _ => True

/-- States are never used twice. -/
structure Sane (d : Dialogue) : Prop where
  nodup : d.states.Nodup
  used : ∀ state ∈ d.states, state ∈ d.used

/-- What session and prover have in common before a call is taken up. -/
def Asked (d : Dialogue) (t : List Entry) : Request → Call → Prop
  | .add id, .add text _ _ _ => Awaited t id text d.branch
  | .editAt id, .editAt target =>
    target ∈ d.states ∧ ∃ k, StandsAt t id k ∧ Tracks (t.take k) (d.upTo target)
  | .init, .init | .goal, .goal | .status, .status => Tracks t d.branch
  | _, _ => False

/-- What session and prover have in common before an answer is taken up. -/
def Answered (d : Dialogue) (t : List Entry) : Request → Response → Prop
  | .init, .good payload => Reply.ofElement .init payload = .ok (.init d.root) ∧ Tracks t d.branch
  | .add id, .good payload =>
    ∃ (state : StateId) (closed : Option StateId) (message : String) (front : Branch)
      (text : String), Reply.ofElement .add payload = .ok (.add state closed message) ∧
      d.branch = front ++ [(state, text)] ∧ Awaited t id text front
  | .add id, .fail _ => ∃ text, Awaited t id text d.branch
  | .editAt id, _ => ∃ k, StandsAt t id k ∧ Tracks (t.take k) d.branch
  | .goal, _ | .status, _ => Tracks t d.branch
  | _, _ => False

/-- What session and prover have in common, where `responses` are the answers that have not been
taken up. -/
inductive Stage (d : Dialogue) (responses : List Response) (t : List Entry) : Option Request → Prop
  | idle (hcalls : d.calls = []) (hresponses : responses = []) (ht : Tracks t d.branch) :
    Stage d responses t none
  | asked {request : Request} {call : Call} (hcalls : d.calls = [call])
      (hresponses : responses = [])
      (h : d.Asked t request call) : Stage d responses t (some request)
  | answered {request : Request} {response : Response} (hcalls : d.calls = [])
      (hresponses : responses = [response])
      (h : d.Answered t request response) : Stage d responses t (some request)

section Basics

variable {d d' : Dialogue} {t t' : List Entry} {request : Request} {slot : Option Request}

@[simp] theorem frames_write (d : Dialogue) (frame : Inbound) :
    (d.write frame).frames = d.frames ++ [frame] :=
  (List.append_assoc ..).symm

theorem responsesOf_append (fs gs : List Inbound) :
    responsesOf (fs ++ gs) = responsesOf fs ++ responsesOf gs :=
  List.filterMap_append

/-- No step of the prover changes the state that it starts from. -/
theorem Steps.root_eq (h : d.Steps d') : d'.root = d.root := by
  cases h <;> rfl

/-- A prover that has done nothing yet is in order. -/
theorem sane_opened (root : StateId) : (opened root).Sane :=
  ⟨by simp [states, opened], by simp [states, opened]⟩

/-- Cutting the branch off leaves states that there were. -/
private theorem states_upTo_sublist (d : Dialogue) (target : StateId) :
    (d.root :: (d.upTo target).map (·.1)).Sublist d.states :=
  ((List.take_sublist _ _).map _).cons_cons _

/-- A prover in order stays so whatever it does. -/
theorem Sane.steps (hs : d.Sane) (h : d.Steps d') : d'.Sane := by
  cases h with
  | @accept command _ _ _ _ _ state _ _ _ hfresh _ =>
    -- the new state is the last one, and there never was such a state
    have hstates : d.root :: (d.branch ++ [(state, command)]).map (·.1) = d.states ++ [state] := by
      simp [states]
    refine ⟨?_, ?_⟩
    · show (d.root :: (d.branch ++ [(state, command)]).map (·.1)).Nodup
      rw [hstates, List.nodup_append]
      refine ⟨hs.nodup, by simp, fun a ha b hb => ?_⟩
      rintro rfl
      rw [List.mem_singleton.1 hb] at ha
      exact hfresh (hs.used state ha)
    · show ∀ a ∈ d.root :: (d.branch ++ [(state, command)]).map (·.1), a ∈ state :: d.used
      rw [hstates]
      intro a ha
      rcases List.mem_append.1 ha with ha | ha
      · exact List.mem_cons_of_mem _ (hs.used a ha)
      · rw [List.mem_singleton.1 ha]
        exact List.mem_cons_self
  | @editAt target =>
    have hsub := d.states_upTo_sublist target
    exact ⟨hs.nodup.sublist hsub, fun a ha => hs.used a (hsub.subset ha)⟩
  | _ => exact ⟨hs.nodup, hs.used⟩

/-- Going back to the last state of a front of the branch leaves that front. -/
theorem Sane.upTo_eq (hs : d.Sane) {front : Branch} (hfront : front <+: d.branch) {target : StateId}
    (htarget : (d.root :: front.map (·.1)).getLast? = some target) :
    target ∈ d.states ∧ d.upTo target = front := by
  obtain ⟨back, hback⟩ := hfront
  have hlen : (d.root :: front.map (·.1)).length = front.length + 1 := by simp
  have hget : d.states[front.length]? = some target := by
    rw [List.getLast?_eq_getElem?, hlen, Nat.add_sub_cancel] at htarget
    rw [states, ← hback, List.map_append, ← List.cons_append, List.getElem?_append_left (by omega)]
    exact htarget
  -- states are not repeated, so it is found at the end of the front
  obtain ⟨hlt, hget⟩ := List.getElem?_eq_some_iff.1 hget
  refine ⟨hget ▸ List.getElem_mem hlt, ?_⟩
  rw [upTo, ← hget, hs.nodup.idxOf_getElem, ← hback, List.take_left]

/-- A call that is on its way stays the right one when an error is found. -/
theorem Asked.fails {call : Call} (h : d.Asked t request call) (hf : Fails t t') :
    d.Asked t' request call := by
  unfold Asked at h ⊢
  split at h
  · exact h.fails hf
  · obtain ⟨htarget, k, hstands, htracks⟩ := h
    exact ⟨htarget, k, hstands.fails hf, htracks.take_fails hf⟩
  · exact h.fails hf
  · exact h.fails hf
  · exact h.fails hf
  · exact h.elim

/-- An answer that is on its way stays the right one when an error is found. -/
theorem Answered.fails {response : Response} (h : d.Answered t request response) (hf : Fails t t') :
    d.Answered t' request response := by
  unfold Answered at h ⊢
  split at h
  · exact ⟨h.1, h.2.fails hf⟩
  · obtain ⟨state, closed, message, front, text, hreply, hbranch, hawaited⟩ := h
    exact ⟨state, closed, message, front, text, hreply, hbranch, hawaited.fails hf⟩
  · obtain ⟨text, hawaited⟩ := h
    exact ⟨text, hawaited.fails hf⟩
  · obtain ⟨k, hstands, htracks⟩ := h
    exact ⟨k, hstands.fails hf, htracks.take_fails hf⟩
  · exact h.fails hf
  · exact h.fails hf
  · exact h.elim

/-- An error that is found in a sentence changes the stage of no request. -/
theorem Stage.fails {responses : List Response} (h : d.Stage responses t slot) (hf : Fails t t') :
    d.Stage responses t' slot := by
  cases h with
  | idle hcalls hresponses ht => exact .idle hcalls hresponses (ht.fails hf)
  | asked hcalls hresponses h => exact .asked hcalls hresponses (h.fails hf)
  | answered hcalls hresponses h => exact .answered hcalls hresponses (h.fails hf)

/-- A call that has not been taken up is the only one, and is not answered. -/
private theorem Stage.of_calls {responses : List Response}
    (h : d.Stage responses t slot) {call : Call} {rest : List Call}
    (hcall : d.calls = call :: rest) :
    ∃ request, slot = some request ∧ rest = [] ∧ responses = [] ∧ d.Asked t request call := by
  cases h with
  | idle hcalls | answered hcalls =>
    rw [hcalls] at hcall
    simp at hcall
  | asked hcalls hresponses h =>
    rw [hcalls, List.cons.injEq] at hcall
    obtain ⟨rfl, rfl⟩ := hcall
    exact ⟨_, rfl, rfl, hresponses, h⟩

/-- An answer is to a call that has been taken up, and is the only one. -/
theorem Stage.of_responses {response : Response} {later : List Response}
    (h : d.Stage (response :: later) t slot) :
    ∃ request, slot = some request ∧ d.calls = [] ∧ later = [] ∧ d.Answered t request response := by
  cases h with
  | idle _ hresponses | asked _ hresponses => simp at hresponses
  | answered hcalls hresponses h =>
    rw [List.cons.injEq] at hresponses
    obtain ⟨rfl, rfl⟩ := hresponses
    exact ⟨_, rfl, hcalls, rfl, h⟩

/-- What the prover answers, it answers to the call that it has taken up. -/
theorem Stage.answer {fs : List Inbound}
    (h : d.Stage (responsesOf (fs ++ d.frames)) t slot) {call : Call} {rest : List Call}
    (hcall : d.calls = call :: rest) (hd : d'.calls = rest) (response : Response)
    (hanswered : ∀ request, d.Asked t request call → d'.Answered t request response)
    (hframes : d'.frames = d.frames ++ [.response response]) :
    d'.Stage (responsesOf (fs ++ d'.frames)) t slot := by
  obtain ⟨request, rfl, rfl, hresponses, hasked⟩ := h.of_calls hcall
  refine .answered hd ?_ (hanswered request hasked)
  rw [hframes, ← List.append_assoc, responsesOf_append, hresponses]
  rfl

/-- Only where the prover started, the branch and the calls matter to a stage. -/
theorem Stage.congr {responses : List Response} (h : d.Stage responses t slot)
    (hroot : d'.root = d.root)
    (hbranch : d'.branch = d.branch) (hcalls : d'.calls = d.calls) : d'.Stage responses t slot := by
  -- what a stage says, it says of the root and the branch
  have hstates : d'.states = d.states := by
    rw [states, states, hroot, hbranch]
  have hupTo : ∀ target, d'.upTo target = d.upTo target := fun target => by
    rw [upTo, upTo, hstates, hbranch]
  cases h with
  | idle hcalls' hresponses ht => exact .idle (hcalls.trans hcalls') hresponses (hbranch ▸ ht)
  | asked hcalls' hresponses h =>
    refine .asked (hcalls.trans hcalls') hresponses ?_
    unfold Asked at h ⊢
    simp only [hstates, hbranch, hupTo]
    exact h
  | answered hcalls' hresponses h =>
    refine .answered (hcalls.trans hcalls') hresponses ?_
    unfold Answered at h ⊢
    simp only [hroot, hbranch]
    exact h

/-- What the prover does takes a request to its next stage. -/
theorem Stage.steps {fs : List Inbound} (h : d.Stage (responsesOf (fs ++ d.frames)) t slot)
    (hs : d.Steps d') :
    d'.Stage (responsesOf (fs ++ d'.frames)) t slot := by
  cases hs with
  | init hcalls hreply =>
    refine h.answer hcalls rfl _ (fun request hasked => ?_) (frames_write _ _)
    cases request <;> simp only [Asked] at hasked
    exact ⟨hreply, hasked⟩
  | refuse hcalls failure =>
    refine h.answer hcalls rfl _ (fun request hasked => ?_) (frames_write _ _)
    cases request <;> simp only [Asked] at hasked
    exact ⟨_, hasked⟩
  | accept hcalls hfresh hreply =>
    refine h.answer hcalls rfl _ (fun request hasked => ?_) (frames_write _ _)
    cases request <;> simp only [Asked] at hasked
    exact ⟨_, _, _, _, _, hreply, rfl, hasked⟩
  | editAt hcalls htarget hreply =>
    refine h.answer hcalls rfl _ (fun request hasked => ?_) (frames_write _ _)
    cases request <;> simp only [Asked] at hasked
    exact hasked.2
  | tell hcalls hcall response =>
    refine h.answer hcalls rfl _ (fun request hasked => ?_) (frames_write _ _)
    rcases hcall with rfl | rfl | rfl <;> cases request <;>
      simp only [Asked] at hasked <;> exact hasked
  | feedback feedback =>
    -- feedback is no answer
    have hresponses : responsesOf (fs ++ (d.write (.feedback feedback)).frames) =
        responsesOf (fs ++ d.frames) := by
      rw [frames_write, ← List.append_assoc, responsesOf_append]
      exact List.append_nil _
    rw [hresponses]
    exact h.congr rfl rfl rfl
  | @arrive frame rest hwritten =>
    -- a frame that arrives was on its way before
    have hframes :
        frames { d with written := rest, arrived := d.arrived ++ [frame] } = d.frames := by
      rw [frames, frames, hwritten, List.append_assoc, List.singleton_append]
    rw [hframes]
    exact h.congr rfl rfl rfl

end Basics

end Dialogue

end ProofDesk
