import ProofDesk.Proofs.Session.Rest

/-!
# Pumping stops

Pumping goes round a loop (`Pumps`), and a round may leave its operation at the head of the queue.
But a round that hands a call over is the last one, and any other takes an operation from the queue
or discards live sentences, while it adds neither (`Pumps.roundsLeft_lt`). So there are no more
rounds than operations and live sentences and one, whatever the document, the policy and the link
(`pump_stops`).
-/

namespace ProofDesk

namespace Document

/-- Going back adds no live sentence. -/
private theorem length_live_truncateTo_le (d : Document) (id : SentenceId) :
    (d.truncateTo id).2.live.length ≤ d.live.length := by
  unfold truncateTo
  split
  · exact List.length_take_le' _ _
  · exact Nat.le_refl _

end Document

namespace Navigation

variable {policy : AxiomPolicy} {d d' : Document} {op : Navigation} {rest queue : List Navigation}
  {fault : Fault}

/-- Going on without a call leaves fewer operations and live sentences, taken together. -/
private theorem length_lt_of_step_proceed (h : step policy d op rest = .proceed d' queue) :
    queue.length + d'.live.length < (op :: rest).length + d.live.length := by
  have hle : d'.live.length ≤ d.live.length := by
    cases proceeds_of_step h with
    | done he => exact Nat.le_of_eq (congrArg List.length he.live)
    | discards => exact d.length_live_truncateTo_le _
  rcases step_proceed h with hshorter | ⟨hsame, hfewer⟩ <;> omega

/-- An operation that is refused is dropped. -/
private theorem length_lt_of_step_refuse (h : step policy d op rest = .refuse d' fault) :
    (dropAdvances (op :: rest)).length + d'.live.length < (op :: rest).length + d.live.length := by
  have hlive : d'.live = d.live := (of_step_refuse h).live
  have hdropped : dropAdvances (op :: rest) = dropAdvances rest := by
    simp [dropAdvances, advances_of_step_refuse h]
  have hle : (dropAdvances rest).length ≤ rest.length := List.length_filter_le _ _
  rw [hlive, hdropped, List.length_cons]
  omega

end Navigation

namespace Session

variable {σ : Type} {s t u : Session σ} {n : Nat}

/-- A bound on the rounds that pumping still takes. -/
def roundsLeft (s : Session σ) : Nat :=
  if s.request = none ∧ s.status = .ready then s.queue.length + s.document.live.length + 1 else 0

/-- No more rounds are left than the queue and the live sentences allow. -/
theorem roundsLeft_le (s : Session σ) :
    s.roundsLeft ≤ s.queue.length + s.document.live.length + 1 := by
  unfold roundsLeft
  split
  · exact Nat.le_refl _
  · exact Nat.zero_le _

/-- With a free slot a round is left for each operation and each live sentence, and one for the
goals. -/
theorem roundsLeft_of_free (hfree : s.request = none) (hready : s.status = .ready) :
    s.roundsLeft = s.queue.length + s.document.live.length + 1 :=
  if_pos ⟨hfree, hready⟩

variable [Link σ]

/-- Nothing more is pumped once a call has been handed over, or the link has failed. -/
@[simp] theorem roundsLeft_send (s : Session σ) (request : Request) (call : Call) :
    (s.send request call).roundsLeft = 0 := by
  refine if_neg ?_
  rintro ⟨hfree, hready⟩
  have hslot := (slot_send (.inr hready)).1
  rw [(slot_eq_none_iff _).2 hfree] at hslot
  exact absurd hslot (by simp)

/-- Each round leaves fewer. -/
theorem Pumps.roundsLeft_lt (h : Pumps s t) : t.roundsLeft < s.roundsLeft := by
  obtain ⟨es, hround⟩ := h
  cases hround with
  | send hfree hready hqueue hstep | goal hfree hready hqueue hstale =>
    rw [roundsLeft_of_free hfree hready, roundsLeft_send]
    exact Nat.succ_pos _
  | proceed hfree hready hqueue hstep =>
    refine Nat.lt_of_le_of_lt (roundsLeft_le _) ?_
    rw [roundsLeft_of_free hfree hready, hqueue]
    exact Nat.succ_lt_succ (Navigation.length_lt_of_step_proceed hstep)
  | refuse hfree hready hqueue hstep =>
    refine Nat.lt_of_le_of_lt (roundsLeft_le _) ?_
    rw [roundsLeft_of_free hfree hready, (quiet_refuse _ _).document, queue_refuse, hqueue]
    exact Nat.succ_lt_succ (Navigation.length_lt_of_step_refuse hstep)

/-- Pumping goes on exactly while no call waits for its answer, the session is ready, and an
operation is queued or the goals have to be asked for again. -/
theorem exists_pumps_iff :
    (∃ t, Pumps s t) ↔
    s.request = none ∧ s.status = .ready ∧ (s.queue ≠ [] ∨ s.goalsStale = true) := by
  constructor
  · rintro ⟨t, es, hround⟩
    cases hround with
    | send hfree hready hqueue hstep | proceed hfree hready hqueue hstep
        | refuse hfree hready hqueue hstep =>
      exact ⟨hfree, hready, .inl (by simp [hqueue])⟩
    | goal hfree hready hqueue hstale => exact ⟨hfree, hready, .inr hstale⟩
  · rintro ⟨hfree, hready, hleft⟩
    cases hqueue : s.queue with
    | nil => exact ⟨_, _, .goal hfree hready hqueue (hleft.resolve_left fun hne => hne hqueue)⟩
    | cons op rest =>
      -- whatever the step says, there is a round for it
      cases hstep : Navigation.step s.settings.axiomPolicy s.document op rest with
      | send request call document queue => exact ⟨_, _, .send hfree hready hqueue hstep⟩
      | proceed document queue => exact ⟨_, _, .proceed hfree hready hqueue hstep⟩
      | refuse document fault => exact ⟨_, _, .refuse hfree hready hqueue hstep⟩

/-- After a round of pumping the others are still to be taken. -/
theorem Pumps.pump_eq (hp : Pumps s t) : t.pump = s.pump := by
  rw [Session.pump_eq s]
  obtain ⟨es, hround⟩ := hp
  cases hround with
  | send hfree hready hqueue hstep =>
    rw [(pumped_send _ _ _).pump_eq_self]
    simp [hfree, hready, hqueue, hstep]
  | proceed hfree hready hqueue hstep | refuse hfree hready hqueue hstep =>
    simp [hfree, hready, hqueue, hstep]
  | goal hfree hready hqueue hstale =>
    rw [(pumped_send _ _ _).pump_eq_self]
    simp [hfree, hready, hqueue, hstale]

/-- So many rounds of pumping, one after the other. -/
inductive Rounds : Nat → Session σ → Session σ → Prop
  | none (s : Session σ) : Rounds 0 s s
  | more {n : Nat} {s t u : Session σ} (h : Pumps s t) (hs : Rounds n t u) : Rounds (n + 1) s u

/-- Every round leaves fewer. -/
theorem Rounds.le (h : Rounds n s t) : n + t.roundsLeft ≤ s.roundsLeft := by
  induction h with
  | none => simp
  | more hround _ ih =>
    have hlt := hround.roundsLeft_lt
    omega

/-- A chain of rounds has a length. -/
private theorem exists_rounds (h : Relation.ReflTransGen Pumps s t) : ∃ n, Rounds n s t := by
  induction h using Relation.ReflTransGen.head_induction_on with
  | refl => exact ⟨0, .none t⟩
  | head hround _ ih =>
    obtain ⟨n, hn⟩ := ih
    exact ⟨n + 1, .more hround hn⟩

/-- Where carrying out the queue ends does not change on the way there. -/
theorem Rounds.pump_eq (h : Rounds n s t) : t.pump = s.pump := by
  induction h with
  | none => rfl
  | more hround _ ih => exact ih.trans hround.pump_eq

/-- A session of which pumping has nothing left to do. -/
theorem pumped_iff : s.Pumped ↔ ¬ ∃ t, Pumps s t := by
  rw [exists_pumps_iff, Pumped]
  grind

/-- Pumping stops whatever is queued, whatever the document, the policy and the link: there are at
most as many rounds as operations in the queue and live sentences and one. Where no further round is
possible the session is what pumping makes of it, and then a call waits for its answer, the session
is not ready, or nothing is queued and the goals need not be asked for. -/
theorem pump_stops (s : Session σ) :
    (∀ n t, Rounds n s t → n ≤ s.queue.length + s.document.live.length + 1) ∧
    (∃ n, Rounds n s s.pump) ∧
    (∀ n t, Rounds n s t → (¬ ∃ u, Pumps t u) → t = s.pump) ∧
    (¬ ∃ u, Pumps s.pump u) ∧
    (s.pump.request ≠ none ∨ s.pump.status ≠ .ready ∨
      s.pump.queue = [] ∧ s.pump.goalsStale = false) := by
  have hpumped := pumped_pump s
  refine ⟨fun n t hrounds => ?_, exists_rounds (pumps_pump s), fun n t hrounds hlast => ?_,
    pumped_iff.1 hpumped, ?_⟩
  · have hle := hrounds.le
    have hbound := s.roundsLeft_le
    omega
  · -- rounds do not change where pumping ends, and without another one it is here
    rw [← hrounds.pump_eq, (pumped_iff.2 hlast).pump_eq_self]
  · by_cases hfree : s.pump.request = none
    · by_cases hready : s.pump.status = .ready
      · exact .inr (.inr (hpumped hready hfree))
      · exact .inr (.inl hready)
    · exact .inl hfree

/-- The text "A." without its sentence, in a document whose first state is not known. -/
def emptied : Document :=
  { acceptedText with root := none, live := [] }

/-- The same with the sentence split off again. -/
def splitAgain : Document :=
  { emptied with unsent := [⟨1, ⟨0, 2⟩, "A.", .unprocessed, none, false⟩], nextId := 2 }

/-- A ready session whose first state is not known, with a sentence to take back and one to send. -/
def unrooted : Session Channel :=
  underway [] { acceptedText with root := none } none [.cursor 0, .forward 1] true []

/-- The cursor discards the sentence and stays at the head, then it finds nothing to send; sending
the sentence is refused, and the goals are asked for. That is as many rounds as there can be. -/
theorem pump_stops_of_unrooted : Rounds 4 unrooted unrooted.pump ∧
    unrooted.queue.length + unrooted.document.live.length + 1 = 4 ∧
    unrooted.pump.slot = some .goal := by
  have hback : Navigation.step .annotate unrooted.document (.cursor 0) [.forward 1] =
      .proceed emptied [.cursor 0, .forward 1] := by cbv
  have hthere : Navigation.step .annotate emptied (.cursor 0) [.forward 1] =
      .proceed splitAgain [.forward 1] := by cbv
  have hrefused : Navigation.step .annotate splitAgain (.forward 1) [] =
      .refuse splitAgain (.invalidOperation "no initial state") := by cbv
  let refused :=
    refuse (underway [] splitAgain none [.forward 1] true []) (.invalidOperation "no initial state")
  -- one round each: discard, give the cursor up, refuse, ask for the goals
  have hrounds : Rounds 4 unrooted (send { refused with goalsStale := false } .goal .goal) := by
    refine .more (t := underway [] emptied none [.cursor 0, .forward 1] true [])
      ⟨_, .proceed rfl rfl rfl hback⟩ ?_
    refine .more (t := underway [] splitAgain none [.forward 1] true [])
      ⟨_, .proceed rfl rfl rfl hthere⟩ ?_
    refine .more (t := refused) ⟨_, .refuse rfl rfl rfl hrefused⟩ ?_
    exact .more ⟨_, .goal rfl rfl rfl rfl⟩ (.none _)
  -- a chain of rounds that can go no further ends where pumping ends
  obtain ⟨-, -, hends, -⟩ := pump_stops unrooted
  have hpump : send { refused with goalsStale := false } .goal .goal = unrooted.pump := by
    refine hends 4 _ hrounds ?_
    rw [exists_pumps_iff]
    rintro ⟨hfree, -⟩
    exact absurd hfree (Option.some_ne_none _)
  rw [← hpump]
  exact ⟨hrounds, rfl, rfl⟩

end Session

end ProofDesk
