import ProofDesk.Proofs.Session.Turns

/-!
# Sentences in the history

For a sentence whose state is known, the history has the call that sent it on top of the state in
front of it and the answer that told its state, and the news that the state has been checked if the
sentence is taken for checked (`Entry.Backed`). A trail stays backed when the history goes on, when
it is cut off, and when the news arrives.
-/

namespace ProofDesk

open Document (lastState)

/-- A sentence is sent on top of a state. -/
def Exchange.add (id : SentenceId) (text : String) (parent : StateId) : Exchange :=
  .sent (.add id) (.add text Navigation.noEdit parent false)

namespace History

/-- A sentence was sent on top of `parent`, and no answer has been taken up since. -/
def Asked (h : History) (id : SentenceId) (text : String) (parent : StateId) : Prop :=
  ∃ before after : History, h = before ++ Exchange.add id text parent :: after ∧
    after.responses = []

/-- A sentence was sent on top of `parent`, and the answer was good and said that the prover is in
`state`. What has happened since then is `after`. -/
def Answered (h : History) (id : SentenceId) (text : String) (parent state : StateId)
    (after : History) : Prop :=
  ∃ (before : History) (payload : Markup.Element) (closed : Option StateId) (message : String),
    h = before ++ .received (.response (.good payload)) :: after ∧ before.Asked id text parent ∧
      Reply.ofElement .add payload = .ok (.add state closed message)

/-- Feedback said that a state has been checked. -/
def Checked (h : History) (state : StateId) : Prop :=
  ∃ feedback : Feedback, .received (.feedback feedback) ∈ h ∧ feedback.state = state ∧
    feedback.content = .processed

/-- The calls that were sent for a sentence. -/
def callsFor (h : History) (id : SentenceId) : List Call :=
  (h.calls.filter (·.1 = .add id)).map (·.2)

variable {h : History} {id : SentenceId} {text : String} {parent state : StateId} {after : History}

/-- A sentence that was just sent was asked about. -/
theorem asked_concat (h : History) (id : SentenceId) (text : String) (parent : StateId) :
    (h ++ [Exchange.add id text parent]).Asked id text parent :=
  ⟨h, [], rfl, rfl⟩

/-- A sentence was asked about until an answer arrives. -/
theorem Asked.append (ha : h.Asked id text parent) {es : History} (hes : es.responses = []) :
    (h ++ es).Asked id text parent := by
  obtain ⟨before, later, rfl, hlater⟩ := ha
  refine ⟨before, later ++ es, by rw [List.append_assoc, List.cons_append], ?_⟩
  rw [responses_append, hlater, hes, List.append_nil]

/-- An answer stays the one that was given, whatever follows. -/
theorem Answered.append (ha : h.Answered id text parent state after) (es : History) :
    (h ++ es).Answered id text parent state (after ++ es) := by
  obtain ⟨before, payload, closed, message, rfl, hasked, hreply⟩ := ha
  exact ⟨before, payload, closed, message, by rw [List.append_assoc, List.cons_append],
    hasked, hreply⟩

/-- A state stays checked, whatever follows. -/
theorem Checked.append (hc : h.Checked state) (es : History) : (h ++ es).Checked state := by
  obtain ⟨feedback, hmem, hstate, hcontent⟩ := hc
  exact ⟨feedback, List.mem_append_left _ hmem, hstate, hcontent⟩

theorem callsFor_append (h es : History) (id : SentenceId) :
    (h ++ es).callsFor id = h.callsFor id ++ es.callsFor id := by
  rw [callsFor, calls_append, List.filter_append, List.map_append]
  rfl

/-- A sentence that was answered was sent. -/
theorem Answered.mem_callsFor (ha : h.Answered id text parent state after) :
    .add text Navigation.noEdit parent false ∈ h.callsFor id := by
  obtain ⟨_, payload, closed, message, rfl, ⟨before, later, rfl, -⟩, -⟩ := ha
  rw [callsFor_append, callsFor_append]
  refine List.mem_append_left _ (List.mem_append_right _ ?_)
  simp [callsFor, calls, Exchange.call?, Exchange.add]

end History

/-- Where the state after an entry is known, the history has the call for it on top of the state in
front of it, the answer that told the state and, once the entry has been checked, the news of
that. -/
def Entry.Backed (h : History) (parent? : Option StateId) (e : Entry) : Prop :=
  ∀ state, e.stateId = some state → ∃ (parent : StateId) (after : History), parent? = some parent ∧
    h.Answered e.id e.text parent state after ∧ (e.processed = true → after.Checked state)

/-- Every entry of a trail is backed by the history. -/
def Backed (h : History) (root : Option StateId) (t : List Entry) : Prop :=
  ∀ (i : Nat) (e : Entry), t[i]? = some e → e.Backed h (lastState root (t.take i))

/-- The state in front of an entry is told by the states of the entries in front of it. -/
private theorem lastState_congr {es es' : List Entry} (root : Option StateId)
    (h : es.map (·.stateId) = es'.map (·.stateId)) : lastState root es = lastState root es' := by
  have hfind : ∀ es : List Entry,
      lastState root es = ((es.map (·.stateId)).reverse.findSome? id <|> root) := by
    intro es
    rw [lastState, ← List.map_reverse, List.findSome?_map]
    rfl
  rw [hfind, hfind, h]

/-- Marking an entry as checked keeps all states. -/
theorem lastState_take_checked (root : Option StateId) (t : List Entry) (i j : Nat) :
    lastState root ((t.modify i Entry.checked).take j) = lastState root (t.take j) := by
  refine lastState_congr root ?_
  rw [List.map_take, List.map_take, map_modify_of_eq (f := Entry.checked) fun _ => rfl]

section Backed

variable {h : History} {root : Option StateId} {t t' : List Entry} {e : Entry}

/-- An entry that a history backs is backed by every longer one. -/
theorem Entry.Backed.append {parent? : Option StateId} (he : e.Backed h parent?) (es : History) :
    e.Backed (h ++ es) parent? := by
  intro state hstate
  obtain ⟨parent, after, hparent, hanswered, hchecked⟩ := he state hstate
  exact ⟨parent, after ++ es, hparent, hanswered.append es, fun hp => (hchecked hp).append es⟩

/-- The news that a state has been checked backs what it says. -/
theorem Entry.Backed.checked {parent? : Option StateId} (he : e.Backed h parent?)
    {feedback : Feedback} (hstate : e.stateId = some feedback.state)
    (hcontent : feedback.content = .processed) :
    e.checked.Backed (h ++ [.received (.feedback feedback)]) parent? := by
  intro state hs
  obtain ⟨parent, after, hparent, hanswered, -⟩ := he state hs
  refine ⟨parent, _, hparent, hanswered.append _, fun _ => ⟨feedback, by simp, ?_, hcontent⟩⟩
  exact Option.some.inj (hstate.symm.trans hs)

namespace Backed

/-- A trail that a history backs is backed by every longer one. -/
theorem append (hb : Backed h root t) (es : History) : Backed (h ++ es) root t :=
  fun i e hi => (hb i e hi).append es

/-- A front part of a trail that is backed is backed. -/
theorem of_front (hb : Backed h root t) (ht : t' <+: t) : Backed h root t' := by
  intro i e hi
  obtain ⟨hget, htake⟩ := getElem?_of_front ht hi
  rw [← htake]
  exact hb i e hget

/-- A trail stays backed with one more entry that is, on top of its last state. -/
theorem concat (hb : Backed h root t) (he : e.Backed h (lastState root t)) :
    Backed h root (t ++ [e]) := by
  intro i e' hi
  rcases eq_or_eq_of_concat hi with ⟨hlt, hi⟩ | ⟨rfl, rfl⟩
  · rw [List.take_append_of_le_length (Nat.le_of_lt hlt)]
    exact hb i e' hi
  · rw [List.take_left]
    exact he

/-- News that an entry has been checked is backed by the history that brings it. -/
theorem checked (hb : Backed h root t) {i : Nat} (hi : t[i]? = some e) {feedback : Feedback}
    (hstate : e.stateId = some feedback.state) (hcontent : feedback.content = .processed) :
    Backed (h ++ [.received (.feedback feedback)]) root (t.modify i Entry.checked) := by
  intro j e' hj
  rw [List.getElem?_modify] at hj
  obtain ⟨e₀, he₀, rfl⟩ := Option.map_eq_some_iff.1 hj
  rw [lastState_take_checked]
  split
  · next hij =>
    subst hij
    rw [hi, Option.some.injEq] at he₀
    subst he₀
    exact (hb i e hi).checked hstate hcontent
  · exact (hb j e₀ he₀).append _

end Backed

end Backed

end ProofDesk
