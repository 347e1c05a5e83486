import ProofDesk.Proofs.Session.Keeps

/-!
# Runs of a session

A run takes a session from its start through any operations, while frames arrive and the link may
fail at any time. It is made of small steps and of single frames (`Moves`), and keeps the history of
what passed between the session and its prover. `Run.operate` says that every operation of an editor
continues a run, and which frames and calls the history grows by (`Exchanges`). So what holds on all
runs holds whenever an operation has returned, and inside it as well, and sessions that operations
lead to are on runs (`Reachable.exists_run`).
-/

namespace ProofDesk

namespace Session

variable {σ : Type} [Link σ]

/-! ## Receiving -/

/-- What taking up a frame keeps is kept when all frames are taken up. -/
private theorem handleFrames_keep {P : Session σ → Prop} {s : Session σ}
    {frames : List Inbound} (hs : P s)
    (hframe : ∀ frame ∈ frames, ∀ t, P t → t.isAlive = true → P (t.handleFrame frame)) :
    P (s.handleFrames frames) := by
  induction frames generalizing s with
  | nil => exact hs
  | cons frame frames ih =>
    have hrest : ∀ frame' ∈ frames, ∀ t, P t → t.isAlive = true → P (t.handleFrame frame') :=
      fun frame' hframe' => hframe frame' (List.mem_cons_of_mem _ hframe')
    rw [Session.handleFrames, List.foldl_cons]
    split
    · next halive => exact ih (hframe frame List.mem_cons_self s hs halive) hrest
    · -- the frames behind one that ends the session are dropped
      exact ih hs hrest

/-- What has arrived is taken from the link before any of it is applied, and a fault of the link
comes last. -/
theorem receive_keep {P : Session σ → Prop} {s : Session σ} (hs : P s)
    (hlink : P { s with link := (Link.receive s.link).2 })
    (hframe : ∀ frame ∈ (Link.receive s.link).1.frames, ∀ t, P t → t.isAlive = true →
      P (t.handleFrame frame))
    (hlose : ∀ fault, (Link.receive s.link).1.fault = some fault → ∀ t, P t → t.isAlive = true →
      P (t.fail fault)) :
    P s.receive.2 := by
  unfold Session.receive
  split
  · -- the frames come first; a fault counts only for a session that is still alive then
    have hframes := handleFrames_keep hlink hframe
    dsimp only
    split
    · exact hframes
    · next fault hfault =>
      split
      · next halive => exact hlose fault hfault _ hframes halive
      · exact hframes
  · exact hs

/-- The frames that are taken up, as long as the session is alive. -/
def taken (s : Session σ) : List Inbound → List Inbound
  | [] => []
  | frame :: frames => if s.isAlive then frame :: (s.handleFrame frame).taken frames else []

/-- The frames that an operation takes up: polling takes up what has arrived. -/
def takenBy (s : Session σ) (op : Operation) : List Inbound :=
  if op = .poll ∧ s.isAlive = true then
    taken { s with link := (Link.receive s.link).2 } (Link.receive s.link).1.frames
  else []

/-- What an operation of a session exchanges with the prover. -/
structure Exchanges (s : Session σ) (op : Operation) (es : History) : Prop where
  /-- The frames that the operation takes up are received. -/
  frames : es.frames = s.takenBy op
  /-- The calls that are sent are those that the link is handed. -/
  calls : Link.Becomes s.link (es.calls.map (·.2)) (s.perform op).link

/-- A dead session takes nothing up. -/
private theorem handleFrames_of_dead {s : Session σ} (hdead : ¬ s.isAlive = true)
    (frames : List Inbound) :
    s.handleFrames frames = s := by
  induction frames with
  | nil => rfl
  | cons frame frames ih =>
    rw [Session.handleFrames, List.foldl_cons, if_neg hdead]
    exact ih

/-- A frame leaves the link alone or closes it. -/
private theorem becomes_handleFrame (s : Session σ) (frame : Inbound) :
    Link.Becomes s.link [] (s.handleFrame frame).link := by
  rcases s.keeps_or_fails frame with hkeeps | ⟨response, fault, -, -, heq⟩
  · rw [hkeeps.link]
    exact .refl
  · rw [heq]
    exact Link.Becomes.refl.close

section Perform

variable {P : History → Session σ → Prop} {h es : History} {s t : Session σ}

/-- What small steps continue is continued by chains of them. -/
theorem of_acts (hact : ∀ {h es : History} {s t : Session σ}, P h s → Act s es t → P (h ++ es) t)
    (hs : P h s) (ha : Acts s es t) : P (h ++ es) t := by
  induction ha generalizing h with
  | refl => rwa [List.append_nil]
  | head ha _ ih =>
    rw [← List.append_assoc]
    exact ih (hact hs ha)

/-- What single frames continue is continued by the frames that are taken up. -/
theorem of_handleFrames
    (hframe : ∀ {h : History} {s : Session σ} (frame : Inbound), P h s → s.isAlive = true →
      P (h ++ [.received frame]) (s.handleFrame frame))
    (hs : P h s) (frames : List Inbound) :
    P (h ++ (s.taken frames).map .received) (s.handleFrames frames) ∧
      Link.Becomes s.link [] (s.handleFrames frames).link := by
  induction frames generalizing h s with
  | nil => exact ⟨by rwa [taken, List.map_nil, List.append_nil], .refl⟩
  | cons frame frames ih =>
    by_cases halive : s.isAlive = true
    · obtain ⟨hrest, hlink⟩ := ih (hframe frame hs halive)
      rw [taken, if_pos halive, List.map_cons, List.append_cons]
      rw [Session.handleFrames, List.foldl_cons, if_pos halive]
      exact ⟨hrest, (becomes_handleFrame s frame).trans hlink⟩
    · -- the frames behind one that ends the session are dropped
      rw [handleFrames_of_dead halive, taken, if_neg halive, List.map_nil, List.append_nil]
      exact ⟨hs, .refl⟩

/-- What continues from move to move is continued by every operation, with what the operation
exchanges. -/
theorem of_perform
    (hact : ∀ {h es : History} {s t : Session σ}, P h s → Act s es t → P (h ++ es) t)
    (hlink : ∀ {h : History} {s : Session σ}, P h s →
      P h { s with link := (Link.receive s.link).2 })
    (hframe : ∀ {h : History} {s : Session σ} (frame : Inbound), P h s → s.isAlive = true →
      P (h ++ [.received frame]) (s.handleFrame frame))
    (hlose : ∀ {h : History} {t : Session σ} {fault : Fault}, P h t →
      (Link.receive s.link).1.fault = some fault → t.isAlive = true → P h (t.fail fault))
    (hs : P h s) (op : Operation) : ∃ es, P (h ++ es) (s.perform op) ∧ s.Exchanges op es := by
  by_cases hop : op = .poll
  · subst hop
    -- first what the poll takes in, which is of use only to a session that is alive
    obtain ⟨hreceived, hclosed⟩ : P (h ++ (s.takenBy .poll).map .received) s.receive.2 ∧
        Link.Becomes s.link [] s.receive.2.link := by
      by_cases halive : s.isAlive = true
      · obtain ⟨hframes, hbecomes⟩ :=
          of_handleFrames hframe (hlink hs) (Link.receive s.link).1.frames
        have hbecomes := Link.Becomes.refl.receive.trans hbecomes
        rw [takenBy, if_pos ⟨rfl, halive⟩]
        unfold Session.receive
        rw [if_pos halive]
        dsimp only
        split
        · exact ⟨hframes, hbecomes⟩
        · next fault hfault =>
          split
          · next halive' => exact ⟨hlose hframes hfault halive', hbecomes.close⟩
          · exact ⟨hframes, hbecomes⟩
      · rw [takenBy, if_neg fun h => halive h.2, List.map_nil, List.append_nil, Session.receive,
          if_neg halive]
        exact ⟨hs, .refl⟩
    -- then the clock is looked at, and what can be sent is sent
    obtain ⟨es, hacts⟩ := (Act.quiet (quiet_checkTimeout s.receive.2)).exists_acts_pump
    obtain ⟨hnone, hhanded⟩ := hacts.exchanged
    refine ⟨(s.takenBy .poll).map .received ++ es, ?_, ?_, ?_⟩
    · rw [← List.append_assoc]
      exact of_acts hact hreceived hacts
    · rw [History.frames_append, hnone, List.append_nil, History.frames_map_received]
    · rw [History.calls_append, History.calls_map_received, List.nil_append]
      exact hclosed.trans hhanded
  · -- any other operation is a chain of small steps, which takes no frames up
    obtain ⟨es, hacts⟩ := exists_acts s hop
    obtain ⟨hnone, hhanded⟩ := hacts.exchanged
    exact ⟨es, of_acts hact hs hacts, by rw [hnone, takenBy, if_neg fun h => hop h.1], hhanded⟩

end Perform

/-! ## Runs -/

/-- Whatever can happen next in a session: its link changes from outside, it makes a small step, it
takes up a frame, or its link fails. -/
inductive Moves : Session σ → History → Session σ → Prop
  | outside {s : Session σ} (link : σ) : Moves s [] { s with link }
  | act {s t : Session σ} {es : History} (h : Act s es t) : Moves s es t
  | frame {s : Session σ} (frame : Inbound) (halive : s.isAlive = true) :
    Moves s [.received frame] (s.handleFrame frame)
  | lose {s : Session σ} (fault : Fault) (halive : s.isAlive = true) : Moves s [] (s.fail fault)

/-- What can happen from a session on, in any number of moves: what passes, and the session after
it. -/
inductive Follows : Session σ → History → Session σ → Prop
  | refl (s : Session σ) : Follows s [] s
  | move {s t u : Session σ} {h es : History} (hf : Follows s h t) (hm : Moves t es u) :
    Follows s (h ++ es) u

/-- What happens without an exchange adds nothing to what passes. -/
theorem Follows.silent {s t u : Session σ} {h : History} (hf : Follows s h t) (hm : Moves t [] u) :
    Follows s h u := by
  have hfollows := hf.move hm
  rwa [List.append_nil] at hfollows

/-- Every operation is a chain of moves, with what the operation exchanges. -/
theorem Follows.operate {s t : Session σ} {h : History} (hf : Follows s h t) (op : Operation) :
    ∃ es, Follows s (h ++ es) (t.perform op) ∧ t.Exchanges op es :=
  of_perform (fun hf ha => hf.move (.act ha)) (fun hf => hf.silent (.outside _))
    (fun frame hf halive => hf.move (.frame frame halive))
    (fun hf _ halive => hf.silent (.lose _ halive)) hf op

/-- The history and the session after anything that can happen has happened any number of times. -/
inductive Run : History → Session σ → Prop
  | start (link : σ) (text : String) (settings : Settings) :
    Run [.sent .init .init] (start link text settings)
  | move {h es : History} {s t : Session σ} (hr : Run h s) (hm : Moves s es t) : Run (h ++ es) t

/-- What happens without an exchange leaves the history as it was. -/
theorem Run.silent {h : History} {s t : Session σ} (hr : Run h s) (hm : Moves s [] t) :
    Run h t := by
  have hrun := hr.move hm
  rwa [List.append_nil] at hrun

/-- Whatever happens next continues a run. -/
theorem Run.follows {h es : History} {s t : Session σ} (hr : Run h s) (hf : Follows s es t) :
    Run (h ++ es) t := by
  induction hf with
  | refl => rwa [List.append_nil]
  | move _ hm ih =>
    rw [← List.append_assoc]
    exact ih.move hm

/-- Every operation continues a run, by what the operation exchanges. -/
theorem Run.operate {h : History} {s : Session σ} (hr : Run h s) (op : Operation) :
    ∃ es, Run (h ++ es) (s.perform op) ∧ s.Exchanges op es := by
  obtain ⟨es, hes, hexchanged⟩ := (Follows.refl s).operate op
  exact ⟨es, hr.follows hes, hexchanged⟩

/-- The sessions that operations and changes of the link from outside lead to. -/
inductive Reachable : Session σ → Prop
  | start (link : σ) (text : String) (settings : Settings) : Reachable (start link text settings)
  | outside {s : Session σ} (link : σ) (hr : Reachable s) : Reachable { s with link }
  | operate {s : Session σ} (op : Operation) (hr : Reachable s) : Reachable (s.perform op)

/-- A session that operations lead to is on a run. -/
theorem Reachable.exists_run {s : Session σ} (hr : Reachable s) : ∃ h, Run h s := by
  induction hr with
  | start link text settings => exact ⟨_, Run.start link text settings⟩
  | outside link _ ih =>
    obtain ⟨h, hh⟩ := ih
    exact ⟨h, hh.silent (.outside link)⟩
  | operate op _ ih =>
    obtain ⟨h, hh⟩ := ih
    obtain ⟨es, hes, -⟩ := hh.operate op
    exact ⟨h ++ es, hes⟩

end Session

/-! ## A session on a short text -/

namespace Session

variable {σ : Type}

/-- A session on a text whose prover has been told to start. -/
def opening (link : σ) (text : String) : Session σ :=
  { link, settings := .default, document := .ofText text, status := .starting, fatal := none,
    request := some ⟨.init, 0, false⟩, queue := [], goalsStale := false, goals := none,
    proverStatus := none, messages := [], notifications := [] }

/-- A session on a text whose prover has started in state 1. -/
def greeted (link : σ) (text : String) : Session σ :=
  { opening link text with
    document := { Document.ofText text with root := some ⟨1⟩ }, status := .ready, request := none }

/-- The text "A." with its sentence sent. -/
def sentText : Document :=
  { text := "A.", live := [⟨0, ⟨0, 2⟩, "A.", .pending, none, false⟩], doomed := [], unsent := [],
    root := some ⟨1⟩, parseError := none, nextId := 1 }

/-- A session on "A." that waits for the answer to its sentence. -/
def waiting (link : σ) : Session σ :=
  { greeted link "A." with document := sentText, request := some ⟨.add 0, 0, false⟩ }

/-- The text "A." with its sentence accepted. -/
def acceptedText : Document :=
  { sentText with live := [⟨0, ⟨0, 2⟩, "A.", .valid .ordinary, some ⟨2⟩, false⟩] }

/-- A session on "A." whose sentence has been accepted. -/
def accepted (link : σ) : Session σ :=
  { greeted link "A." with document := acceptedText, goalsStale := true }

/-- The frame with which a prover answers a call. -/
def replyFrame {kind : CallKind} (reply : Reply kind) : Inbound :=
  .response (.good reply.toElement)

theorem step_ofText :
    Navigation.step .annotate { Document.ofText "A." with root := some ⟨1⟩ } (.forward 1) [] =
    .send (.add 0) (.add "A." Navigation.noEdit ⟨1⟩ false) sentText [] := by
  cbv

/-- The prover says that it has started, and the text can be checked. -/
theorem handleFrame_opening [Link σ] (link : σ) (text : String) :
    (opening link text).handleFrame (replyFrame (.init ⟨1⟩)) = greeted link text := by
  cbv

/-- The prover accepts the only sentence. -/
theorem handleFrame_waiting [Link σ] (link : σ) :
    (waiting link).handleFrame (replyFrame (.add ⟨2⟩ none "")) = accepted link := by
  cbv

/-- The calls that have been handed over once the sentence of "A." has been sent. -/
def sentCalls : Channel :=
  { Channel.opened with calls := [.init, .add "A." Navigation.noEdit ⟨1⟩ false] }

/-- The history of a session on "A." up to its sentence. -/
def sentHistory : History :=
  [.sent .init .init, .received (replyFrame (.init ⟨1⟩)),
    .sent (.add 0) (.add "A." Navigation.noEdit ⟨1⟩ false)]

/-- The session after its sentence has been sent. -/
theorem run_waiting : Run sentHistory (waiting sentCalls) := by
  have hstart : Run [.sent .init .init] (opening { Channel.opened with calls := [.init] } "A.") :=
    Run.start Channel.opened "A." .default
  have hgreeted := hstart.move (.frame (replyFrame (.init ⟨1⟩)) rfl)
  rw [handleFrame_opening] at hgreeted
  exact (hgreeted.move (.act (.order rfl .forward))).move
    (.act (.round (.send rfl rfl rfl step_ofText)))

end Session

end ProofDesk
