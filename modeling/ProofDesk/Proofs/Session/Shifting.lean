import ProofDesk.Proofs.Session.Parallel
import ProofDesk.Proofs.Session.Rounds

/-!
# Edits that move sentences

An edit that only moves sentences sends nothing, and leaves the outline of the session as it was.
From then on the session goes back only where it would have gone back without the edit
(`Run.respond_shifted`), unless what is queued finds more to take back in the new text. Until then
the two sessions do the same; if they part, the one with the edit only goes forward from there
(`Beside`).

A queued move to an offset can find more to take back: the sentences move with the text, and the
offset does not (`exists_rewound`).
-/

namespace ProofDesk

/-! ## What is queued -/

namespace Navigation

/-- Among what is queued, what goes back comes first. A move to an offset behind that aims at as
many sentences of the document as of the text `old`, or has no live sentence of the document to take
back. -/
inductive BackFirst (old : String) (d : Document) : List Navigation → Prop
  | onward {queue : List Navigation} (h : d.Onward queue) : BackFirst old d queue
  | aimed {offset : Nat} {rest : List Navigation} (haim : Sentence.AsManyBy offset old d.text)
      (h : ∀ op ∈ rest, op.retreats = false) : BackFirst old d (.cursor offset :: rest)
  | back {op : Navigation} {rest : List Navigation} (hop : op.advances = false)
      (h : BackFirst old d rest) :
    BackFirst old d (op :: rest)

/-- What is queued takes no more back in a document than it does where the text is `old`: every
operation aims at the same sentence of both texts, or nothing goes back behind an operation that may
find a different number of sentences. -/
def Harmless (old : String) (d : Document) (queue : List Navigation) : Prop :=
  (∀ op ∈ queue, op.Unmoved old d.text) ∨ BackFirst old d queue

variable {old : String} {d d' : Document} {queue queue' : List Navigation}

/-- Fewer live sentences and fewer operations leave no more to take back. -/
theorem BackFirst.of_sublist (hb : BackFirst old d queue) (htext : d'.text = d.text)
    (hlive : d'.live.map (·.span) ⊆ d.live.map (·.span)) (hqueue : queue'.Sublist queue) :
    BackFirst old d' queue' := by
  induction hb generalizing queue' with
  | onward h => exact .onward (h.of_sublist hlive hqueue)
  | aimed haim h =>
    cases hqueue with
    | cons _ hrest => exact .onward (.forwards fun op hop => h op (hrest.subset hop))
    | cons_cons _ hrest => exact .aimed (htext ▸ haim) fun op hop => h op (hrest.subset hop)
  | back hop _ ih =>
    cases hqueue with
    | cons _ hrest => exact ih hrest
    | cons_cons _ hrest => exact .back hop (ih hrest)

/-- What is harmless goes forward, or does the same as with the old text. -/
private theorem Harmless.onward_or_alike (hh : Harmless old d queue) :
    d.Onward queue ∨ ∀ op ∈ queue.head?, op.Alike old d := by
  rcases hh with hunmoved | hb
  · exact .inr fun op hop => (hunmoved op (List.mem_of_head? hop)).alike
  · cases hb with
    | onward h => exact .inl h
    | @aimed offset rest haim h =>
      cases hpast : d.firstLockedPast? offset with
      | none => exact .inl (.cursor (Document.firstLockedPast?_eq_none_iff.1 hpast) h)
      | some index =>
        -- the cursor has something to take back, and does so in either text
        refine .inr fun op hop => ?_
        rw [List.head?_cons, Option.mem_some_iff] at hop
        rw [← hop]
        exact ⟨haim, fun hnone => by simp [hpast] at hnone⟩
    | @back op rest hop h =>
      refine .inr fun op' hop' => ?_
      rw [List.head?_cons, Option.mem_some_iff] at hop'
      rw [← hop']
      cases op with
      | forward n | cursor offset => simp [advances] at hop
      | backward n | rewind id => trivial

end Navigation

/-! ## Sessions -/

namespace Session

section Pumps

variable {σ : Type} [Link σ] {s t : Session σ} {old : String} {h : History}
  {ok : Session σ → Inbound → Prop}

/-- Sending a call keeps what goes back in front of the queue. -/
theorem backFirst_send {request : Request} {call : Call}
    (hb : Navigation.BackFirst old s.document s.queue) :
    Navigation.BackFirst old (s.send request call).document (s.send request call).queue := by
  unfold Session.send
  split
  · exact hb
  · exact .onward .nil

/-- Sending what comes next leaves what goes back in front. -/
theorem Pumps.backFirst (hr : Run h s) (hp : Pumps s t)
    (hb : Navigation.BackFirst old s.document s.queue) :
    Navigation.BackFirst old t.document t.queue := by
  have hp' := hp
  obtain ⟨es, hround⟩ := hp
  cases hround with
  | @send op rest queue request call document hfree hready hqueue hstep =>
    have honward : s.document.Onward (op :: rest) →
        Navigation.BackFirst old (Session.send { s with document, queue } request call).document
          (Session.send { s with document, queue } request call).queue := by
      intro ho
      have hs : s.Onward := by
        rw [Session.Onward, hqueue]
        exact ho
      exact .onward (hs.pumps hr hp')
    rw [hqueue] at hb
    cases hb with
    | onward h => exact honward h
    | @aimed offset _ haim h =>
      cases hpast : s.document.firstLockedPast? offset with
      | none => exact honward (.cursor (Document.firstLockedPast?_eq_none_iff.1 hpast) h)
      | some index =>
        -- the move goes back, and stays in front
        simp only [Navigation.step, hpast] at hstep
        obtain ⟨-, -, -, -, -, -, rfl, rfl⟩ := Navigation.of_rewindTo_send hstep
        exact backFirst_send (.aimed haim h)
    | back hop hrest =>
      cases Navigation.of_step_send hr.wellFormed.numbered hstep with
      | add hadvances => simp [hop] at hadvances
      | editAt hindex hy htarget =>
        refine backFirst_send ?_
        cases op with
        | forward n | cursor offset => simp [Navigation.advances] at hop
        | backward n | rewind id => exact hrest
  | @proceed op rest queue document hfree hready hqueue hstep =>
    obtain ⟨-, he, rfl⟩ := hr.orderly.of_step_proceed hfree hready hqueue hstep
    rw [hqueue] at hb
    exact hb.of_sublist he.text he.spans_subset (List.sublist_cons_self ..)
  | @refuse op rest document fault hfree hready hqueue hstep =>
    have he := Navigation.of_step_refuse hstep
    have ha := quiet_refuse { s with document } fault
    rw [ha.document, ha.queue]
    exact hb.of_sublist he.text he.spans_subset List.filter_sublist
  | goal hfree hready hqueue hstale => exact backFirst_send hb

/-- Whatever happens by itself, what is queued stays harmless. -/
theorem Drifts.harmless (hr : Run h s) (hd : Drifts ok s t)
    (hh : Navigation.Harmless old s.document s.queue) :
    Navigation.Harmless old t.document t.queue := by
  rcases hh with hunmoved | hb
  · -- operations that do not depend on positions stay so, and the text is the same
    left
    rw [hd.text_eq hr]
    exact hd.unmoved hr hunmoved
  · right
    refine hd.keep (P := fun u => Navigation.BackFirst old u.document u.queue) hr hb
      fun hr' hb' hd' => ?_
    cases hd' with
    | outside link => exact hb'
    | quiet hs => exact hs.document ▸ hs.queue ▸ hb'
    | pump hp => exact hp.backFirst hr' hb'
    | @frame frame halive hok =>
      have hs := (hr'.orderly.takes_handleFrame frame).shrinks
      exact hb'.of_sublist hs.text hs.live hs.queue
    | lose fault halive => exact .onward .nil

end Pumps

/-- Two sessions side by side. They do the same as long as the queue of the second is harmless for
the text of the first, or have parted: the second only goes forward, and has asked for no rollback
that the first has not asked for. -/
inductive Beside (s s' : Session Channel) : Prop
  | together (hs : Twins s s') (hh : Navigation.Harmless s.document.text s'.document s'.queue)
  | apart (hr : ∃ h, Run h s) (hr' : ∃ h, Run h s') (ho : s'.Onward)
      (hsent : s'.link.rollbacks.Sublist s.link.rollbacks)

/-- Twins have sent the same rollbacks. -/
theorem Twins.rollbacks_eq {s s' : Session Channel} (hs : Twins s s') :
    s'.link.rollbacks = s.link.rollbacks := by
  -- the state that a call goes back to is part of its outline
  have houtline : ∀ c : Channel, c.outline.rollbacks = c.rollbacks := by
    intro c
    rw [Channel.rollbacks, Channel.rollbacks, Channel.outline, List.filterMap_map]
    congr 1
    funext call
    cases call <;> rfl
  have hlink : s'.link.outline = s.link.outline := congrArg Session.link hs.outline
  rw [← houtline s'.link, hlink, houtline]

namespace Beside

variable {s s' t : Session Channel}

/-- The second session has asked for no rollback that the first has not asked for. -/
theorem rollbacks_sublist (hb : Beside s s') : s'.link.rollbacks.Sublist s.link.rollbacks := by
  cases hb with
  | together hs hh => rw [hs.rollbacks_eq]
  | apart hr hr' ho hsent => exact hsent

/-- What happens to both without telling them apart leaves them side by side. -/
theorem drifts {t' : Session Channel} (hb : Beside s s') (ht : Drifts (fun _ _ => True) s t)
    (ht' : Drifts (fun _ _ => True) s' t') (ho : s'.outline = s.outline → t'.outline = t.outline)
    (hcalls : t.link.calls = s.link.calls) (hcalls' : t'.link.calls = s'.link.calls) :
    Beside t t' := by
  cases hb with
  | together hs hh =>
    obtain ⟨h, hr⟩ := hs.run
    obtain ⟨h', hr'⟩ := hs.run'
    refine .together (hs.drifts ht ht' (ho hs.outline)) ?_
    rw [ht.text_eq hr]
    exact ht'.harmless hr' hh
  | apart hr hr' hforward hsent =>
    obtain ⟨h, hr⟩ := hr
    obtain ⟨h', hr'⟩ := hr'
    refine .apart (hr.exists_of_drifts ht) (hr'.exists_of_drifts ht') (hforward.drifts hr' ht') ?_
    rw [Channel.rollbacks, Channel.rollbacks, hcalls, hcalls']
    exact hsent

/-- A step of the first session is a step of both, or the second waits while the first goes on. -/
theorem exists_pumps (hb : Beside s s') (hp : Pumps s t) :
    ∃ t', t'.pump = s'.pump ∧ Beside t t' := by
  have hgrows : s.link.rollbacks.Sublist t.link.rollbacks := (hp.calls_prefix.filterMap _).sublist
  have hdrifts : Drifts (fun _ _ => True) s t := .single (.pump hp)
  cases hb with
  | together hs hh =>
    obtain ⟨h, hr⟩ := hs.run
    obtain ⟨h', hr'⟩ := hs.run'
    -- where the second only goes forward it waits from now on; otherwise both take the step
    rcases hh.onward_or_alike with hforward | halike
    · refine ⟨s', rfl, .apart (hr.exists_of_drifts hdrifts) hs.run' hforward ?_⟩
      rw [hs.rollbacks_eq]
      exact hgrows
    · obtain ⟨-, -, hqueue, -, -⟩ := hs.fields
      rw [hqueue] at halike
      obtain ⟨t', hp', htwins⟩ := hs.exists_pumps halike hp
      have hdrifts' : Drifts (fun _ _ => True) s' t' := .single (.pump hp')
      refine ⟨t', hp'.pump_eq, .together htwins ?_⟩
      rw [hdrifts.text_eq hr]
      exact hdrifts'.harmless hr' hh
  | apart hr hr' hforward hsent =>
    obtain ⟨h, hr⟩ := hr
    exact ⟨s', rfl, .apart (hr.exists_of_drifts hdrifts) hr' hforward (hsent.trans hgrows)⟩

/-- Sending what can be sent leaves sessions side by side. -/
theorem pump (hb : Beside s s') : Beside s.pump s'.pump := by
  have hsteps : ∀ {t : Session Channel}, Relation.ReflTransGen Pumps s t → ∃ t',
      t'.pump = s'.pump ∧ Beside t t' := by
    intro t ht
    induction ht with
    | refl => exact ⟨s', rfl, hb⟩
    | tail _ hp ih =>
      obtain ⟨u', hu', hbeside⟩ := ih
      obtain ⟨t', ht', hbeside'⟩ := hbeside.exists_pumps hp
      exact ⟨t', ht'.trans hu', hbeside'⟩
  obtain ⟨t', ht', hbeside⟩ := hsteps (pumps_pump s)
  rw [← ht']
  cases hbeside with
  | together hs hh =>
    -- the second session has nothing left to send either
    obtain ⟨hrequest, hstatus, hqueue, hstale, -⟩ := hs.fields
    have hpumped : t'.Pumped := by
      intro hready hfree
      rw [hqueue, hstale]
      exact pumped_pump s (hstatus ▸ hready) (hrequest ▸ hfree)
    rw [hpumped.pump_eq_self]
    exact .together hs hh
  | apart hr hr' hforward hsent =>
    obtain ⟨h', hr'⟩ := hr'
    have hdrifts : Drifts (fun _ _ => True) t' t'.pump := Drifts.pump .refl
    refine .apart hr (hr'.exists_of_drifts hdrifts) (hforward.drifts hr' hdrifts) ?_
    rw [hforward.rollbacks_pump hr']
    exact hsent

/-- Both sessions are those of runs. -/
theorem exists_run (hb : Beside s s') : (∃ h, Run h s) ∧ ∃ h, Run h s' := by
  cases hb with
  | together hs hh => exact ⟨hs.run, hs.run'⟩
  | apart hr hr' hforward hsent => exact ⟨hr, hr'⟩

/-- Polling both keeps them side by side. -/
theorem poll (hb : Beside s s') : Beside s.poll.2 s'.poll.2 := by
  obtain ⟨⟨h, hr⟩, ⟨h', hr'⟩⟩ := hb.exists_run
  have houtline : s'.outline = s.outline →
      s'.receive.2.checkTimeout.2.outline = s.receive.2.checkTimeout.2.outline := by
    intro ho
    rw [outline_checkTimeout, outline_receive, ho, ← outline_receive, ← outline_checkTimeout]
  have hreceived : Beside s.receive.2.checkTimeout.2 s'.receive.2.checkTimeout.2 :=
    hb.drifts (drifts_receive fun _ _ _ _ => trivial)
      (drifts_receive fun _ _ _ _ => trivial) houtline
      hr.calls_receive hr'.calls_receive
  exact hreceived.pump

end Beside

/-! ### Answers to a session with an edit and without it -/

/-- The session after a prover has answered, and the answer has been taken up by a poll. What the
prover answers depends on the calls, and not on what sentences say. -/
def answered (s : Session Channel) (answer : List Call → List Delivery) : Session Channel :=
  (poll { s with link := s.link.deliver (answer (s.link.calls.map (·.outline))) }).2

/-- The session after rounds of answers. -/
def respond (s : Session Channel) (answers : List (List Call → List Delivery)) : Session Channel :=
  answers.foldl answered s

/-- The same frames arriving leave sessions side by side, and where they have parted any frames
do. -/
theorem Beside.deliver {s s' : Session Channel} (hb : Beside s s') {batch batch' : List Delivery}
    (hsame : s'.outline = s.outline → batch' = batch) :
    Beside { s with link := s.link.deliver batch } { s' with link := s'.link.deliver batch' } := by
  refine hb.drifts (.single (.outside _)) (.single (.outside _)) (fun ho => ?_) rfl rfl
  rw [hsame ho]
  exact congrArg (fun u : Session Channel => { u with link := u.link.deliver batch }) ho

/-- Provers that answer alike leave sessions side by side. -/
theorem Beside.answered {s s' : Session Channel} (hb : Beside s s')
    (answer : List Call → List Delivery) :
    Beside (s.answered answer) (s'.answered answer) := by
  refine poll (hb.deliver fun ho => ?_)
  have hcalls : s'.link.calls.map (·.outline) = s.link.calls.map (·.outline) :=
    congrArg (fun u : Session Channel => u.link.calls) ho
  rw [hcalls]

/-- The same answers keep both side by side. -/
theorem Beside.respond {s s' : Session Channel} (hb : Beside s s')
    (answers : List (List Call → List Delivery)) :
    Beside (s.respond answers) (s'.respond answers) := by
  induction answers generalizing s s' with
  | nil => exact hb
  | cons answer answers ih => exact ih (hb.answered answer)

/-- An edit that only moves sentences sends nothing. From then on, however the prover answers, the
session asks for no rollback that it would not have asked for without the edit, as long as what is
queued is harmless: nothing goes back behind an operation for which the number of sentences matters,
and a move to an offset finds no live sentence behind the offset in the new text, unless it aims at
as many sentences of both texts. -/
theorem Run.respond_shifted {h : History} {s : Session Channel} {document : Document} (hr : Run h s)
    (he : s.document.Edits .shifted document)
    (hh : Navigation.Harmless s.document.text document s.queue)
    (answers : List (List Call → List Delivery)) :
    (afterEdit { s with document } .shifted).link.calls = s.link.calls ∧
      ((afterEdit { s with document } .shifted).respond answers).link.rollbacks.Sublist
        (s.respond answers).link.rollbacks := by
  have hedited : Run h (afterEdit { s with document } .shifted) := hr.silent (.act (.edit he))
  have houtline : (afterEdit { s with document } .shifted).outline = s.outline :=
    congrArg (fun d : Document => { s.outline with document := d }) he.outline_of_shifted
  have htwins : Twins s (afterEdit { s with document } .shifted) :=
    ⟨⟨h, hr⟩, ⟨h, hedited⟩, houtline⟩
  have hbeside : Beside s (afterEdit { s with document } .shifted) := .together htwins hh
  exact ⟨rfl, (hbeside.respond answers).rollbacks_sublist⟩

/-! ### A move to an offset while the text moves -/

/-- The answer of a prover that accepts everything to the last of the calls. -/
def accepting (calls : List Call) : List Delivery :=
  match calls.getLast? with
  | some (.add ..) => [.ok (replyFrame (.add ⟨2⟩ none ""))]
  | some (.editAt _) => [.ok (replyFrame (.editAt none))]
  | some .goal => [.ok (replyFrame (.goal none))]
  | _ => []

/-- A move to the end of "A." is queued while its sentence is on its way. -/
theorem run_moving : Run sentHistory { waiting sentCalls with queue := [.cursor 2] } :=
  run_waiting.silent (.act (.order rfl (.toCursor 2)))

theorem respond_moving :
    ({ waiting sentCalls with queue := [.cursor 2] } : Session Channel).respond
        [accepting, accepting] =
      underway (sentCalls.calls ++ [.goal]) acceptedText none [] false [] := by
  have haccepted :
      ({ waiting sentCalls with queue := [.cursor 2] } : Session Channel).answered accepting =
      (underway sentCalls.calls acceptedText none [.cursor 2] true []).pump := by
    cbv
  -- the sentence ends at the offset, so the cursor has nothing left to do
  have hdone : (underway sentCalls.calls acceptedText none [.cursor 2] true []).pump =
      (underway sentCalls.calls acceptedText none [] true []).pump := by
    rw [pump_eq]
    cbv
  have hasked : (underway sentCalls.calls acceptedText none [] true []).pump =
      underway (sentCalls.calls ++ [.goal]) acceptedText (some .goal) [] false [] := by
    rw [pump_eq]
    rfl
  have hidle :
      (underway (sentCalls.calls ++ [.goal]) acceptedText (some .goal) [] false []).answered
        accepting =
      (underway (sentCalls.calls ++ [.goal]) acceptedText none [] false []).pump := by
    cbv
  rw [respond, List.foldl_cons, haccepted, hdone, hasked, List.foldl_cons, hidle, pump_eq]
  rfl

/-- The text " A." with its sentence sent before the text was indented. -/
def indentedText : Document :=
  { sentText with text := " A.", live := [⟨0, ⟨1, 3⟩, "A.", .pending, none, false⟩] }

/-- The text " A." with its sentence accepted. -/
def indentedAccepted : Document :=
  { sentText with text := " A.", live := [⟨0, ⟨1, 3⟩, "A.", .valid .ordinary, some ⟨2⟩, false⟩] }

private theorem edits_indentedText : sentText.Edits .shifted indentedText := by
  have hreplace : sentText.replace ⟨0, 0⟩ " " = .ok (.shifted, indentedText) := by cbv
  exact .replace hreplace

private theorem respond_indented :
    ({ waiting sentCalls with document := indentedText, queue := [.cursor 2] } : Session
      Channel).respond [accepting] =
      underway (sentCalls.calls ++ [.editAt ⟨1⟩]) indentedAccepted (some (.editAt 0))
      [.cursor 2] true [] := by
  have haccepted :
      answered { waiting sentCalls with document := indentedText, queue := [.cursor 2] } accepting =
      (underway sentCalls.calls indentedAccepted none [.cursor 2] true []).pump := by
    cbv
  rw [respond, List.foldl_cons, haccepted, pump_eq]
  cbv

/-- Indenting the text while a move to its end is queued makes the session take its sentence back
once it is accepted. Without the edit nothing is taken back until nothing is left to do. -/
theorem exists_rewound : ∃ (h : History) (s : Session Channel) (document : Document), Run h s ∧
    s.document.Edits .shifted document ∧
    ⟨1⟩ ∈ ((afterEdit { s with document } .shifted).respond [accepting]).link.rollbacks ∧
    (s.respond [accepting, accepting]).isBusy = false ∧
    (s.respond [accepting, accepting]).link.rollbacks = [] := by
  refine ⟨_, _, indentedText, run_moving, edits_indentedText, ?_, ?_, ?_⟩
  · show _ ∈
      (respond { waiting sentCalls with document := indentedText, queue := [.cursor 2] }
        _).link.rollbacks
    rw [respond_indented]
    decide
  · rw [respond_moving]
    rfl
  · rw [respond_moving]
    rfl

/-- The text "A. B." with its first sentence sent before the second was appended. -/
def appendedText : Document :=
  { sentText with text := "A. B." }

/-- A sentence appended behind the offset of a move leaves nothing to take back. -/
theorem respond_shifted_of_appended :
    ∃ (h : History) (s : Session Channel) (document : Document), Run h s ∧
    s.document.Edits .shifted document ∧ document.text = "A. B." ∧ s.queue = [.cursor 2] ∧
    Navigation.Harmless s.document.text document s.queue ∧
    (afterEdit { s with document } .shifted).link.calls = s.link.calls ∧
    ((afterEdit { s with document } .shifted).respond [accepting, accepting]).link.rollbacks =
      [] := by
  have hreplace : sentText.replace ⟨2, 2⟩ " B." = .ok (.shifted, appendedText) := by cbv
  have hedits : sentText.Edits .shifted appendedText := .replace hreplace
  have hwithin : ∀ x ∈ appendedText.live, x.span.stop ≤ 2 := by decide
  -- the blank is behind the sentence, so nothing ends past the cursor in the new text either
  have hharmless : Navigation.Harmless "A." appendedText [.cursor 2] :=
    .inr (.onward (.cursor hwithin (by simp)))
  obtain ⟨hcalls, hrollbacks⟩ := run_moving.respond_shifted hedits hharmless [accepting, accepting]
  rw [respond_moving] at hrollbacks
  exact ⟨_, _, appendedText, run_moving, hedits, rfl, rfl, hharmless, hcalls,
    List.sublist_nil.1 hrollbacks⟩

end Session

end ProofDesk
