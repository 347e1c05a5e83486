import ProofDesk.Proofs.Session.Answer

/-!
# Calls and answers take turns

A session hands a call to its link only when every earlier call has been answered, and the first
call is the one that starts the prover. A history in which calls and answers take turns is
`Alternating`, and the slot of a session in conversation holds what its history leaves unanswered
(`Turns`). `Run.disciplined` says what this means for every run.
-/

namespace ProofDesk

namespace History

/-- What is still to be answered once an exchange has followed. -/
def afterExchange (open? : Option (Request × Call)) : Exchange → Option (Request × Call)
  | .sent request call => some (request, call)
  | .received (.response _) => none
  | .received (.feedback _) => open?

/-- The call that is still to be answered. -/
def unanswered (h : History) : Option (Request × Call) :=
  h.foldl afterExchange none

/-- The first answer said that the prover has started. -/
def Greeted (h : History) : Prop :=
  ∃ payload state later, h.responses = .good payload :: later ∧
    Reply.ofElement .init payload = .ok (.init state)

section Concat

variable (h : History) (request : Request) (call : Call) (response : Response) (feedback : Feedback)

@[simp] theorem calls_sent : calls (h ++ [.sent request call]) = calls h ++ [(request, call)] := by
  simp [calls, Exchange.call?]

@[simp] theorem calls_received (frame : Inbound) : calls (h ++ [.received frame]) = calls h := by
  simp [calls, Exchange.call?]

@[simp] theorem responses_sent : responses (h ++ [.sent request call]) = responses h := by
  simp [responses, Exchange.response?]

@[simp] theorem responses_response :
    responses (h ++ [.received (.response response)]) = responses h ++ [response] := by
  simp [responses, Exchange.response?]

@[simp] theorem responses_feedback :
    responses (h ++ [.received (.feedback feedback)]) = responses h := by
  simp [responses, Exchange.response?]

@[simp] theorem unanswered_sent :
    unanswered (h ++ [.sent request call]) = some (request, call) := by
  simp [unanswered, afterExchange]

@[simp] theorem unanswered_response :
    unanswered (h ++ [.received (.response response)]) = none := by
  simp [unanswered, afterExchange]

@[simp] theorem unanswered_feedback :
    unanswered (h ++ [.received (.feedback feedback)]) = unanswered h := by
  simp [unanswered, afterExchange]

end Concat

/-- A prover that has started has started, whatever follows. -/
theorem Greeted.append {h : History} (hg : h.Greeted) (later : History) : Greeted (h ++ later) := by
  obtain ⟨payload, state, rest, hr, hreply⟩ := hg
  refine ⟨payload, state, rest ++ responses later, ?_, hreply⟩
  rw [responses, List.filterMap_append, ← responses, hr, List.cons_append]
  rfl

/-- Histories in which the prover is started first and every call but the last has been answered. -/
inductive Alternating : History → Prop
  | start : Alternating [.sent .init .init]
  | sent {h : History} {request : Request} {call : Call} (ha : Alternating h)
      (hanswered : h.calls.length = h.responses.length) (hgreeted : h.Greeted)
      (hkind : request.kind = call.kind) (hlater : request ≠ .init) :
      Alternating (h ++ [.sent request call])
  | received {h : History} (ha : Alternating h) (frame : Inbound) :
    Alternating (h ++ [.received frame])

/-- The last element of a list stands in the second of two parts, unless that is empty. -/
theorem eq_append_of_concat_eq {α : Type} {as front back : List α} {a : α}
    (h : as ++ [a] = front ++ back) :
    back = [] ∧ front = as ++ [a] ∨ ∃ rest, back = rest ++ [a] ∧ as = front ++ rest := by
  rcases List.eq_nil_or_concat back with rfl | ⟨rest, b, rfl⟩
  · exact .inl ⟨rfl, by rw [h, List.append_nil]⟩
  · rw [List.concat_eq_append, ← List.append_assoc] at h
    obtain ⟨rfl, hlast⟩ := List.append_inj' h rfl
    rw [List.concat_eq_append, ← hlast]
    exact .inr ⟨rest, rfl, rfl⟩

/-- Whatever was sent after the first call was sent when everything had been answered. -/
theorem Alternating.of_append {h : History} (ha : Alternating h) {before after : History}
    {request : Request} {call : Call} (heq : h = before ++ .sent request call :: after) :
    request.kind = call.kind ∧ before.calls.length = before.responses.length ∧
      (before = [] ∧ request = .init ∨ request ≠ .init ∧ before.Greeted) := by
  -- the exchange that is looked for is the last one, or lies in the history before it
  induction ha generalizing after with
  | start =>
    cases before with
    | nil =>
      simp only [List.nil_append, List.cons.injEq, Exchange.sent.injEq] at heq
      obtain ⟨⟨rfl, rfl⟩, -⟩ := heq
      exact ⟨rfl, rfl, .inl ⟨rfl, rfl⟩⟩
    | cons e es => simp at heq
  | @sent h request' call' _ hanswered hgreeted hkind hlater ih =>
    rcases eq_append_of_concat_eq heq with ⟨hnil, -⟩ | ⟨rest, hrest, rfl⟩
    · simp at hnil
    · cases rest with
      | nil =>
        simp only [List.nil_append, List.cons.injEq, Exchange.sent.injEq] at hrest
        obtain ⟨⟨rfl, rfl⟩, rfl⟩ := hrest
        rw [List.append_nil] at hanswered hgreeted
        exact ⟨hkind, hanswered, .inr ⟨hlater, hgreeted⟩⟩
      | cons e rest =>
        simp only [List.cons_append, List.cons.injEq] at hrest
        obtain ⟨rfl, rfl⟩ := hrest
        exact ih rfl
  | @received h _ frame ih =>
    rcases eq_append_of_concat_eq heq with ⟨hnil, -⟩ | ⟨rest, hrest, rfl⟩
    · simp at hnil
    · cases rest with
      | nil => simp at hrest
      | cons e rest =>
        simp only [List.cons_append, List.cons.injEq] at hrest
        obtain ⟨rfl, rfl⟩ := hrest
        exact ih rfl

/-- The call that is still to be answered is the last one. -/
private theorem getLast?_calls_of_unanswered {h : History} (ha : Alternating h)
    {request : Request} {call : Call}
    (hopen : h.unanswered = some (request, call)) : h.calls.getLast? = some (request, call) := by
  -- the call that is open is the last, for feedback answers none
  induction ha with
  | start => exact hopen
  | sent =>
    rw [unanswered_sent] at hopen
    rw [calls_sent, List.getLast?_concat]
    exact hopen
  | received _ frame ih =>
    cases frame with
    | response response => simp at hopen
    | feedback feedback =>
      rw [unanswered_feedback] at hopen
      rw [calls_received]
      exact ih hopen

/-- Every call is of the kind of the request that it was sent for. -/
theorem Alternating.kind_eq {h : History} (ha : Alternating h) :
    ∀ c ∈ h.calls, c.1.kind = c.2.kind := by
  induction ha with
  | start => simp [calls, Exchange.call?, Request.kind, Call.kind]
  | sent _ _ _ hkind _ ih =>
    intro c hc
    rw [calls_sent, List.mem_append, List.mem_singleton] at hc
    rcases hc with hc | rfl
    · exact ih c hc
    · exact hkind
  | received _ frame ih =>
    rw [calls_received]
    exact ih

/-- The first call of every history starts the prover. -/
theorem Alternating.starts {h : History} (ha : Alternating h) :
    ∃ later, h = .sent .init .init :: later := by
  induction ha with
  | start => exact ⟨[], rfl⟩
  | sent _ _ _ _ _ ih =>
    obtain ⟨later, rfl⟩ := ih
    exact ⟨later ++ _, rfl⟩
  | received _ frame ih =>
    obtain ⟨later, rfl⟩ := ih
    exact ⟨later ++ _, rfl⟩

/-- At any time at most one call is still to be answered. -/
theorem Alternating.length_calls_le {h : History} (ha : Alternating h) {before after : History}
    (heq : h = before ++ after) : before.calls.length ≤ before.responses.length + 1 := by
  induction ha generalizing before after with
  | start =>
    rcases eq_append_of_concat_eq (show [] ++ _ = _ from heq) with ⟨-, rfl⟩ | ⟨rest, -, hnil⟩
    · simp [calls, Exchange.call?]
    · rw [(List.append_eq_nil_iff.1 hnil.symm).1]
      simp [calls]
  | sent _ hanswered _ _ _ ih =>
    -- either all of the history is meant, or a front of what came before
    rcases eq_append_of_concat_eq heq with ⟨-, rfl⟩ | ⟨rest, -, rfl⟩
    · simp [hanswered]
    · exact ih rfl
  | @received h _ frame ih =>
    rcases eq_append_of_concat_eq heq with ⟨-, rfl⟩ | ⟨rest, -, rfl⟩
    · have hle := ih (List.append_nil h).symm
      cases frame with
      | response response =>
        simp only [calls_received, responses_response, List.length_append]
        omega
      | feedback feedback => simpa using hle
    · exact ih rfl

end History

namespace Session

variable {σ : Type} {s s' : Session σ}

/-- What the history of a session says about its slot. -/
structure Turns (h : History) (s : Session σ) : Prop where
  alternating : h.Alternating
  slot : s.Active → s.slot = h.unanswered.map (·.1)
  balance : s.Active → h.calls.length = h.responses.length + s.slot.toList.length
  greeted : s.status = .ready → h.Greeted
  silent : s.status = .starting → h.responses = []

/-- A session in conversation with a free slot has been greeted, and everything has been
answered. -/
theorem Turns.answered {h : History} (ht : Turns h s) (ho : s.Orderly) (ha : s.Active)
    (hslot : s.slot = none) :
    h.calls.length = h.responses.length ∧ h.Greeted := by
  refine ⟨?_, ht.greeted (ho.ready ha (by simp [hslot]))⟩
  have hbalance := ht.balance ha
  rw [hslot] at hbalance
  exact hbalance

/-- Where only the slot and the status matter, nothing has happened if they are as they were. -/
theorem Turns.of_eq {h : History} (ht : Turns h s)
    (hstatus : s'.Active → s'.slot = s.slot ∧ s'.status = s.status) :
    Turns h s' := by
  have hactive : s'.Active → s.Active := fun ha => by
    rw [Active, ← (hstatus ha).2]
    exact ha
  refine ⟨ht.alternating, fun ha => ?_, fun ha => ?_, fun hr => ?_, fun hs => ?_⟩
  · rw [(hstatus ha).1]
    exact ht.slot (hactive ha)
  · rw [(hstatus ha).1]
    exact ht.balance (hactive ha)
  · exact ht.greeted ((hstatus (.inr hr)).2 ▸ hr)
  · exact ht.silent ((hstatus (.inl hs)).2 ▸ hs)

variable [Link σ]

/-- A small step hands nothing over and leaves the slot alone, or fills the free slot. -/
theorem Orderly.act_exchange (ho : s.Orderly) {es : History} (ha : Act s es s') :
    (es = [] ∧ (s'.Active → s'.slot = s.slot ∧ s'.status = s.status)) ∨
      ∃ request call, es = [.sent request call] ∧ s.Active ∧ s.slot = none ∧
        request.kind = call.kind ∧ request ≠ .init ∧
        (s'.Active → s'.slot = some request ∧ s'.status = s.status) := by
  cases ha with
  | quiet hs => exact .inl ⟨rfl, fun _ => ⟨hs.slot, hs.status⟩⟩
  | order halive horder => exact .inl ⟨rfl, fun _ => ⟨rfl, rfl⟩⟩
  | edit he => exact .inl ⟨rfl, fun _ => ⟨slot_noteEdit .., status_noteEdit ..⟩⟩
  | round hround =>
    cases hround with
    | send hfree hready hqueue hstep =>
      refine .inr ⟨_, _, rfl, .inr hready, (slot_eq_none_iff s).2 hfree, ?_, ?_, slot_send⟩ <;>
        cases Navigation.of_step_send ho.coherent.numbered hstep <;> simp [Request.kind, Call.kind]
    | proceed => exact .inl ⟨rfl, fun _ => ⟨rfl, rfl⟩⟩
    | refuse => exact .inl ⟨rfl, fun _ => ⟨(quiet_refuse _ _).slot, (quiet_refuse _ _).status⟩⟩
    | goal hfree hready =>
      exact .inr ⟨_, _, rfl, .inr hready, (slot_eq_none_iff s).2 hfree, rfl, by simp, slot_send⟩
  | status halive hfree =>
    exact .inr ⟨_, _, rfl, ho.active halive, (slot_eq_none_iff s).2 hfree, rfl, by simp, slot_send⟩
  | close =>
    -- closing at most tells the prover to quit, and the session is over afterwards
    have hclosed : ¬ s.close.Active := by
      unfold Active
      simp [status_close]
    unfold farewell
    split
    · next h =>
      have halive : s.isAlive = true := (isAlive_iff s).2 ⟨by simpa using h.2.1, h.1⟩
      refine .inr ⟨_, _, rfl, ho.alive.1 halive,
        (slot_eq_none_iff s).2 (by simpa using h.2.2), rfl, by simp, fun ha => absurd ha hclosed⟩
    · exact .inl ⟨rfl, fun ha => absurd ha hclosed⟩

/-- The answer to the first call that does not break the session says that the prover has
started. -/
theorem Takes.good_of_init {response : Response} (ht : Takes s (.response response) s')
    (ha : s'.Active) (hinit : s.slot = some .init) :
    ∃ payload state, response = .good payload ∧
      Reply.ofElement .init payload = .ok (.init state) := by
  cases ht with
  | broken fault => exact absurd ha (not_active_fail _ _)
  | started hslot hreply hs => exact ⟨_, _, rfl, hreply⟩
  | told hslot hrequest =>
    rw [hinit, Option.some.injEq] at hslot
    rcases hrequest with rfl | rfl | rfl <;> simp at hslot
  | accepted hslot | refused hslot | acceptedLate hslot | refusedLate hslot | rolledBack hslot =>
    simp [hinit] at hslot

/-- Calls and answers take turns with each act of a session. -/
theorem Turns.act {h es : History} (ht : Turns h s) (ho : s.Orderly) (ha : Act s es s') :
    Turns (h ++ es) s' := by
  rcases ho.act_exchange ha with ⟨rfl, hstatus⟩
    | ⟨request, call, rfl, hactive, hslot, hkind, hlater, hstatus⟩
  · rw [List.append_nil]
    exact ht.of_eq hstatus
  · obtain ⟨hanswered, hgreeted⟩ := ht.answered ho hactive hslot
    -- a session with a free slot is past its start, so the prover has been greeted
    have hready := ho.ready hactive (by simp [hslot])
    refine ⟨ht.alternating.sent hanswered hgreeted hkind hlater, fun ha => ?_, fun ha => ?_,
      fun _ => hgreeted.append _, fun hs => ?_⟩
    · rw [(hstatus ha).1, History.unanswered_sent]
      rfl
    · rw [(hstatus ha).1]
      simp [hanswered]
    · rw [(hstatus (.inl hs)).2, hready] at hs
      simp at hs

/-- Calls and answers take turns with each frame that a session takes up. -/
theorem Turns.takes {h : History} (ht : Turns h s) (ho : s.Orderly) (ha : s.Active)
    {frame : Inbound} (hf : Takes s frame s') : Turns (h ++ [.received frame]) s' := by
  have ho' := ho.takes ha hf
  have halternating := ht.alternating.received frame
  cases frame with
  | feedback feedback =>
    have hsame := ht.of_eq hf.slot_of_feedback
    refine ⟨halternating, fun ha' => ?_, fun ha' => ?_,
      fun hr => (hsame.greeted hr).append _, fun hs => ?_⟩
    · rw [History.unanswered_feedback]
      exact hsame.slot ha'
    · rw [History.calls_received, History.responses_feedback]
      exact hsame.balance ha'
    · rw [History.responses_feedback]
      exact hsame.silent hs
  | response response =>
    refine ⟨halternating, fun ha' => ?_, fun ha' => ?_, fun hr => ?_, fun hs => ?_⟩
    · obtain ⟨request, -, hslot⟩ := hf.slot_of_response ha'
      rw [hslot, History.unanswered_response]
      rfl
    -- the answer frees the slot, and one call less is unanswered
    · obtain ⟨request, hrequest, hslot⟩ := hf.slot_of_response ha'
      have hbalance := ht.balance ha
      rw [hrequest] at hbalance
      rw [hslot, History.calls_received, hbalance]
      simp
    · rcases ha with hstarting | hready
      · obtain ⟨payload, state, rfl, hreply⟩ := hf.good_of_init (.inr hr) (ho.starting.1 hstarting)
        exact ⟨payload, state, [], by simp [ht.silent hstarting], hreply⟩
      · exact (ht.greeted hready).append _
    · obtain ⟨request, -, hslot⟩ := hf.slot_of_response (.inl hs)
      rw [ho'.starting.1 hs] at hslot
      simp at hslot

/-- In a new session the first call waits for its answer. -/
theorem turns_start (link : σ) (text : String) (settings : Settings) :
    Turns [.sent .init .init] (start link text settings) := by
  refine ⟨.start, fun ha => ?_, fun ha => ?_, fun hr => ?_, fun _ => rfl⟩
  · rw [start, (slot_send ha).1]
    rfl
  · rw [start, (slot_send ha).1]
    rfl
  · have hstatus := (slot_send (.inr hr)).2
    rw [start] at hr
    rw [hr] at hstatus
    simp at hstatus

/-- On every run the history tells what the slot holds. -/
theorem Run.turns {h : History} (hr : Run h s) : Turns h s := by
  induction hr with
  | start link text settings => exact turns_start link text settings
  | move hr hm ih =>
    have ho := hr.orderly
    cases hm with
    | outside link =>
      rw [List.append_nil]
      exact ih.of_eq fun _ => ⟨rfl, rfl⟩
    | act ha => exact ih.act ho ha
    | frame frame halive => exact ih.takes ho (ho.alive.1 halive) (ho.takes_handleFrame frame)
    | lose fault halive =>
      rw [List.append_nil]
      exact ih.of_eq fun ha => absurd ha (not_active_fail _ _)

/-! ## One call at a time -/

/-- Whatever happens, the link is handed the calls that the history then has, and at most closed
after that, or it changes from outside and nothing else does. -/
theorem Orderly.handed_of_moves (ho : s.Orderly) {es : History} (hm : Moves s es s') :
    (∃ n, s'.link = Link.close^[n] (handed s.link es)) ∨
    es = [] ∧ s' = { s with link := s'.link } := by
  cases hm with
  | outside link => exact .inr ⟨rfl, rfl⟩
  | act ha => exact .inl ha.link_eq
  | frame frame halive =>
    -- a frame is no call
    rcases (ho.takes_handleFrame frame).link_eq with h | h
    · exact .inl ⟨0, h⟩
    · exact .inl ⟨1, h⟩
  | lose fault halive => exact .inl ⟨1, rfl⟩

/-- How calls and answers take turns in a session `s` with history `h`, and what the next answer
does. -/
structure Disciplined (h : History) (s : Session σ) : Prop where
  /-- What goes into the history as sent is what the link is handed. -/
  handed : ∀ es t, Moves s es t →
    (∃ n, t.link = Link.close^[n] (handed s.link es)) ∨ es = [] ∧ t = { s with link := t.link }
  /-- The prover is started first. -/
  first : ∃ later, h = .sent .init .init :: later
  /-- Whatever else is sent, the first call has been answered well by then, and every call has been
  answered. -/
  answered : ∀ (before : History) request call after,
    h = before ++ .sent request call :: after → before ≠ [] →
    call ≠ .init ∧ before.Greeted ∧ before.calls.length = before.responses.length
  /-- The calls sent are never more than one ahead of the answers taken up. -/
  ahead : ∀ before after : History, h = before ++ after →
    before.calls.length ≤ before.responses.length + 1
  /-- The prover is told to quit when the session is closed and nothing is unanswered. -/
  quit : ∀ es t, Moves s es t → ∀ call, .sent .quit call ∈ es →
    t = s.close ∧ h.calls.length = h.responses.length
  /-- An answer that nothing waits for breaks the session. -/
  unexpected : s.isAlive = true → h.calls.length = h.responses.length → ∀ response,
    (s.handleFrame (.response response)).status = .broken ∧
      (s.handleFrame (.response response)).fatal =
        some (.desync "response without an outstanding request")
  /-- Otherwise the last call waits for the answer, and a good one is read as an answer to a call of
  its kind. -/
  decoded : s.isAlive = true → h.calls.length ≠ h.responses.length →
    ∃ request call, h.calls.getLast? = some (request, call) ∧ request.kind = call.kind ∧ ∀ payload,
      (∀ e, Reply.ofElement call.kind payload = .error e →
        (s.handleFrame (.response (.good payload))).status = .broken ∧
          (s.handleFrame (.response (.good payload))).fatal = some (.desync e.message)) ∧
      ∀ reply, Reply.ofElement request.kind payload = .ok reply →
        s.handleFrame (.response (.good payload)) =
          match s.freed.applyReply request reply with
          | .ok t => t
          | .error fault => s.fail fault

/-- What a good answer does is decided by the request that it answers. -/
theorem handleFrame_good {request : Request} (hslot : s.slot = some request)
    (payload : Markup.Element) :
    s.handleFrame (.response (.good payload)) =
      match Reply.ofElement request.kind payload with
      | .ok reply =>
        match s.freed.applyReply request reply with
        | .ok t => t
        | .error fault => s.fail fault
      | .error e => s.fail (.desync e.message) := by
  obtain ⟨outstanding, hr, rfl⟩ := Option.map_eq_some_iff.1 hslot
  unfold handleFrame handleResponse
  rw [hr]
  dsimp only
  cases Reply.ofElement outstanding.request.kind payload <;> rfl

/-- Only closing a session with a free slot tells the prover to quit. -/
theorem Orderly.close_of_quit (ho : s.Orderly) {es : History} (hm : Moves s es s') {call : Call}
    (hquit : .sent .quit call ∈ es) : s' = s.close ∧ s.Active ∧ s.slot = none := by
  cases hm with
  | act ha =>
    -- of the steps that send, only closing says goodbye
    rcases ho.act_exchange ha with ⟨rfl, -⟩ | ⟨-, -, -, hactive, hslot, -⟩
    · simp at hquit
    · refine ⟨?_, hactive, hslot⟩
      cases ha with
      | close => rfl
      | round hround =>
        cases hround with
        | send hfree hready hqueue hstep =>
          cases Navigation.of_step_send ho.coherent.numbered hstep <;> simp at hquit
        | _ => simp at hquit
      | _ => simp at hquit
  | _ => simp at hquit

/-- Where calls and answers take turns and the session is in order, one call is sent at a time, and
every answer is taken for that of the last call. -/
theorem Turns.oneAtATime {h : History} (ht : Turns h s) (ho : s.Orderly) : Disciplined h s := by
  -- when everything has been answered, nothing is awaited
  have hfree : s.isAlive = true → h.calls.length = h.responses.length → s.slot = none := by
    intro halive heq
    have hbalance := ht.balance (ho.alive.1 halive)
    rw [heq, Nat.left_eq_add, List.length_eq_zero_iff] at hbalance
    simpa using hbalance
  refine ⟨fun es t => ho.handed_of_moves, ht.alternating.starts, ?_,
    fun before after => ht.alternating.length_calls_le, ?_, ?_, ?_⟩
  · intro before request call after heq hne
    obtain ⟨hkind, hanswered, hfirst⟩ := ht.alternating.of_append heq
    obtain ⟨hlater, hgreeted⟩ := hfirst.resolve_left fun hnil => hne hnil.1
    refine ⟨?_, hgreeted, hanswered⟩
    rintro rfl
    cases request <;> simp [Request.kind, Call.kind] at hkind hlater
  · intro es t hm call hquit
    obtain ⟨hclose, hactive, hslot⟩ := ho.close_of_quit hm hquit
    exact ⟨hclose, (ht.answered ho hactive hslot).1⟩
  · intro halive heq response
    have hnone := (slot_eq_none_iff s).1 (hfree halive heq)
    unfold handleFrame handleResponse
    rw [hnone]
    exact ⟨rfl, rfl⟩
  · intro halive hne
    have hslot := ht.slot (ho.alive.1 halive)
    have hbalance := ht.balance (ho.alive.1 halive)
    -- one call is left without an answer, and it is the last one
    cases hopen : h.unanswered with
    | none =>
      rw [hslot, hopen] at hbalance
      exact absurd hbalance hne
    | some last =>
      obtain ⟨request, call⟩ := last
      have hslot : s.slot = some request := by rw [hslot, hopen, Option.map_some]
      have hlast := History.getLast?_calls_of_unanswered ht.alternating hopen
      have hkind : request.kind = call.kind := ht.alternating.kind_eq _ (List.mem_of_getLast? hlast)
      refine ⟨request, call, hlast, hkind, fun payload => ⟨fun e he => ?_, fun reply hreply => ?_⟩⟩
      · rw [← hkind] at he
        rw [handleFrame_good hslot, he]
        exact ⟨rfl, rfl⟩
      · rw [handleFrame_good hslot, hreply]

/-- On every run one call is sent at a time, and every answer is taken for that of the last call. -/
theorem Run.disciplined {h : History} (hr : Run h s) : Disciplined h s :=
  hr.turns.oneAtATime hr.orderly

/-- Whatever operations have led to a session, one call was sent at a time, and every answer was
taken for that of the last call. -/
theorem disciplined_of_reachable (hr : Reachable s) : ∃ h, Run h s ∧ Disciplined h s := by
  obtain ⟨h, hrun⟩ := hr.exists_run
  exact ⟨h, hrun, hrun.turns.oneAtATime hrun.orderly⟩

/-- Once the sentence of "A." has been sent, two calls have been sent and one answer has been taken
up. -/
theorem disciplined_of_waiting :
    ∃ (h : History) (s : Session Channel),
      Run h s ∧ s.isAlive = true ∧ h.calls.length = 2 ∧ h.responses.length = 1 ∧
      Disciplined h s := by
  exact ⟨_, _, run_waiting, rfl, rfl, rfl, run_waiting.disciplined⟩

end Session

end ProofDesk
