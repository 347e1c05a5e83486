import ProofDesk.Proofs.Workspace.Shown

/-!
# Whether the editor is up to date

A workspace is run by commands of the editor and of viewers and by polls, while provers answer, time
passes and events are taken. After each of these the editor has been shown every document with a
session as it is, with one exception: a viewer that empties the message panel of a document changes
what there is to draw and no snapshot follows, so until the document is shown again the editor's
copy keeps the old messages (`Run.lastShown_eq`, `exists_stale`). All else in the copy is right even
then.
-/

namespace ProofDesk.Workspace

variable {κ σ : Type}

/-! ## Runs -/

/-- Something that concerns what the editor has been shown. -/
inductive Happening where
  /-- The engine has emitted an event. -/
  | emitted (e : EngineEvent)
  /-- A viewer has emptied the message panel of a document. -/
  | emptied (doc : String)

/-- The events among what has happened. -/
def emittedEvents (h : List Happening) : List EngineEvent :=
  h.filterMap fun
    | .emitted e => some e
    | .emptied _ => none

/-- Since the document was shown last, a viewer has emptied its message panel. -/
def EmptiedSince (doc : String) (h : List Happening) : Prop :=
  ∃ before after, h = before ++ .emptied doc :: after ∧ lastShown? doc (emittedEvents after) = none

/-- What a workspace is asked to do. -/
inductive Action where
  | editor (c : EditorCommand)
  /-- The editor has sent a line that is no command. -/
  | malformed (reason : String)
  | viewer (c : ViewerCommand)
  | poll

/-- What is done with a workspace besides. -/
inductive Aside where
  | takeEvents
  | takeRetired
  | takeViewerUpdate
  | elapse (milliseconds : Nat)

/-- The workspace after something was done with it besides. -/
def aside (w : Workspace κ σ) : Aside → Workspace κ σ
  | .takeEvents => w.takeEvents.2
  | .takeRetired => w.takeRetired.2
  | .takeViewerUpdate => w.takeViewerUpdate.2
  | .elapse milliseconds => w.elapse milliseconds

/-- What an action does unseen: a viewer may empty the message panel of the document in focus. -/
def unseenBy (w : Workspace κ σ) : Action → List Happening
  | .viewer .clearMessages => w.focused.toList.map .emptied
  | _ => []

/-- The workspace whose connector and links have changed from outside: provers have answered, or are
gone. -/
def outside (w : Workspace κ σ) (connector : κ) (links : String → σ) : Workspace κ σ :=
  { w with
    connector
    sessions := w.sessions.map fun (doc, s) => (doc, { s with link := links doc }) }

section Run

variable [Link σ] [Connector κ σ]

/-- The workspace after an action. -/
def carryOut (w : Workspace κ σ) : Action → Workspace κ σ
  | .editor c => (w.handle c).2
  | .malformed reason => w.reportMalformed reason
  | .viewer c => w.handleViewer c
  | .poll => w.processFeedbacks

/-- What has happened, and the workspace, after anything has been done with it any number of
times. -/
inductive Run : List Happening → Workspace κ σ → Prop
  | start (settings : Settings) (connector : κ) : Run [] (.empty settings connector)
  | act {h : List Happening} {w : Workspace κ σ} (hr : Run h w) (a : Action) :
    Run (h ++ (w.unseenBy a ++ (w.newEvents (w.carryOut a)).map .emitted)) (w.carryOut a)
  | aside {h : List Happening} {w : Workspace κ σ} (hr : Run h w) (a : Aside) : Run h (w.aside a)
  | outside {h : List Happening} {w : Workspace κ σ} (hr : Run h w) (connector : κ)
      (links : String → σ) :
    Run h (w.outside connector links)

end Run

/-! ## What has been shown -/

theorem emittedEvents_append (h h' : List Happening) :
    emittedEvents (h ++ h') = emittedEvents h ++ emittedEvents h' :=
  List.filterMap_append

/-- What a viewer empties is no event. -/
theorem emittedEvents_action (docs : List String) (es : List EngineEvent) :
    emittedEvents (docs.map .emptied ++ es.map .emitted) = es := by
  have hnone : emittedEvents (docs.map .emptied) = [] := by simp [emittedEvents]
  have hall : emittedEvents (es.map .emitted) = es := by simp [emittedEvents]
  rw [emittedEvents_append, hnone, hall, List.nil_append]

/-- Emptied panels are no events. -/
private theorem emittedEvents_unseenBy (w : Workspace κ σ) (a : Action) (es : List EngineEvent) :
    emittedEvents (w.unseenBy a ++ es.map .emitted) = es := by
  unfold unseenBy
  split
  · exact emittedEvents_action _ es
  · exact emittedEvents_action [] es

/-- What is shown of a document before other things happen to others. -/
theorem EmptiedSince.append {doc : String} {h h' : List Happening} (he : EmptiedSince doc h)
    (hnone : lastShown? doc (emittedEvents h') = none) : EmptiedSince doc (h ++ h') := by
  obtain ⟨before, after, rfl, hafter⟩ := he
  refine ⟨before, after ++ h', by simp, ?_⟩
  rw [emittedEvents_append, lastShown?_append, hnone, hafter]
  rfl

/-- The editor has been shown a snapshot, and it is what there is to draw, except that a viewer may
have emptied the message panel since. -/
def UpToDate (h : List Happening) (doc : String) (drawn : Snapshot) : Prop :=
  ∃ shown, lastShown? doc (emittedEvents h) = some shown ∧
    (shown = drawn ∨ EmptiedSince doc h ∧ { shown with messages := [] } = drawn)

/-- What is up to date stays so while nothing else is shown. -/
theorem UpToDate.append {h h' : List Happening} {doc : String} {drawn : Snapshot}
    (hu : UpToDate h doc drawn)
    (hnone : lastShown? doc (emittedEvents h') = none) : UpToDate (h ++ h') doc drawn := by
  obtain ⟨shown, hshown, hsame⟩ := hu
  refine ⟨shown, ?_, hsame.imp_right fun hemptied => ⟨hemptied.1.append hnone, hemptied.2⟩⟩
  rw [emittedEvents_append, lastShown?_append, hnone, hshown]
  rfl

/-- A viewer that empties the message panel takes the messages off what there is to draw. -/
theorem UpToDate.emptied {h h' : List Happening} {doc : String} {drawn : Snapshot}
    (hu : UpToDate h doc drawn) (hnone : lastShown? doc (emittedEvents h') = none) :
    UpToDate (h ++ .emptied doc :: h') doc { drawn with messages := [] } := by
  obtain ⟨shown, hshown, hsame⟩ := hu
  refine ⟨shown, ?_, .inr ⟨⟨h, h', rfl, hnone⟩, ?_⟩⟩
  · have hskip : emittedEvents (.emptied doc :: h') = emittedEvents h' := rfl
    rw [emittedEvents_append, lastShown?_append, hskip, hnone, hshown]
    rfl
  · rcases hsame with rfl | ⟨-, rfl⟩ <;> rfl

section Sessions

variable {w : Workspace κ σ} {doc : String} {s' : Session σ}

/-- Emptying the message panel of the document in focus shows no snapshot. -/
private theorem handleViewer_clearMessages (hfocus : w.focused = some doc)
    (hs' : (w.handleViewer .clearMessages).session? doc = some s') :
    lastShown? doc (w.newEvents (w.handleViewer .clearMessages)) = none ∧
      ∃ s, w.session? doc = some s ∧ s' = s.clearMessages := by
  cases hs : w.session? doc with
  | none =>
    have hsame : w.handleViewer .clearMessages = w := by
      simp [handleViewer, hfocus, hs, replayMessages]
    rw [hsame, hs] at hs'
    exact absurd hs' (by simp)
  | some s =>
    -- the session is put back without its messages, and the empty panel is drawn if it is shown
    have hput :
        w.handleViewer .clearMessages = (w.putSession doc s.clearMessages).replayMessages doc := by
      simp [handleViewer, hfocus, hs]
    have hself := session?_putSession_self w doc s.clearMessages
    rw [hput] at hs' ⊢
    unfold replayMessages at hs' ⊢
    rw [hself] at hs' ⊢
    dsimp only at hs' ⊢
    split at hs'
    · next hshown =>
      change (w.putSession doc s.clearMessages).session? doc = some s' at hs'
      rw [hself, Option.some.injEq] at hs'
      have hevents :
          ((w.putSession doc s.clearMessages).emit
            (.messages doc s.clearMessages.messages)).events =
          w.events ++ [.messages doc s.clearMessages.messages] := rfl
      rw [if_pos hshown, newEvents_of_eq hevents]
      exact ⟨rfl, s, rfl, hs'.symm⟩
    · next hhidden =>
      rw [hself, Option.some.injEq] at hs'
      rw [if_neg hhidden, newEvents_putSession]
      exact ⟨rfl, s, rfl, hs'.symm⟩

/-- Whatever is done besides, the sessions are drawn as they were. -/
private theorem exists_session_aside {a : Aside} (hs' : (w.aside a).session? doc = some s') :
    ∃ s, w.session? doc = some s ∧ s.snapshot = s'.snapshot := by
  cases a with
  | takeEvents | takeRetired => exact ⟨s', hs', rfl⟩
  | takeViewerUpdate =>
    simp only [aside, takeViewerUpdate] at hs'
    split at hs' <;> exact ⟨s', hs', rfl⟩
  | elapse milliseconds =>
    change Sessions.find? (w.sessions.map fun (doc, s) => (doc, s.elapse milliseconds)) doc =
      some s' at hs'
    rw [Sessions.find?_map w.sessions fun _ s => s.elapse milliseconds,
      Option.map_eq_some_iff] at hs'
    obtain ⟨s, hs, rfl⟩ := hs'
    exact ⟨s, hs, by simp [Session.snapshot, Session.elapse, Session.isBusy]⟩

/-- What changes from outside opens no session and changes nothing that is shown. -/
private theorem exists_session_outside {connector : κ} {links : String → σ}
    (hs' : (w.outside connector links).session? doc = some s') :
    ∃ s, w.session? doc = some s ∧ s.snapshot = s'.snapshot := by
  change Sessions.find? (w.sessions.map fun (doc, s) => (doc, { s with link := links doc })) doc =
    some s' at hs'
  rw [Sessions.find?_map w.sessions fun doc s => { s with link := links doc },
    Option.map_eq_some_iff] at hs'
  obtain ⟨s, hs, rfl⟩ := hs'
  exact ⟨s, hs, rfl⟩

end Sessions

section Steps

variable [Link σ] {w w' : Workspace κ σ} {unseen : String → Prop} {doc : String} {s s' : Session σ}
  {h h' : List Happening}

/-- A document that is shown, or left as it was, stays up to date. -/
theorem Shows.upToDate (hs : Shows unseen w w') (hh' : emittedEvents h' = w.newEvents w')
    (hw : ∀ s, w.session? doc = some s → UpToDate h doc s.snapshot) (hdoc : ¬ unseen doc)
    (hs' : w'.session? doc = some s') : UpToDate (h ++ h') doc s'.snapshot := by
  rcases hs.seen hdoc hs' with hshown | ⟨hnone, s, hsession, hsame⟩
  · refine ⟨s'.snapshot, ?_, .inl rfl⟩
    rw [emittedEvents_append, lastShown?_append, hh', hshown, Option.some_or]
  · rw [← hh'] at hnone
    exact hsame ▸ (hw s hsession).append hnone

/-- What a viewer does leaves unseen only the document whose message panel it empties. -/
theorem shows_handleViewer (w : Workspace κ σ) (c : ViewerCommand) :
    Shows (fun doc => c = .clearMessages ∧ w.focused = some doc) w (w.handleViewer c) := by
  cases c with
  | goalVisibility mode => exact shows_setVisibility w _ _
  | messageVisibility mode => exact shows_setVisibility w _ _
  | clearMessages =>
    simp only [handleViewer]
    split
    · exact .of_eq rfl rfl
    · next doc hfocus =>
      refine Shows.trans ?_ (shows_replayMessages _ doc)
      split
      · next s hs =>
        have hput : Shows (· = doc) w (w.putSession doc s.clearMessages) :=
          shows_putSession fun hw => (hw.reachable hs).operate .clearMessages
        exact hput.mono fun other hother => ⟨trivial, by rw [hfocus, hother]⟩
      · exact .of_eq rfl rfl

/-- A workspace stays sound whatever is done with it besides. -/
theorem Sound.aside (hw : w.Sound) (a : Aside) : (w.aside a).Sound := by
  cases a with
  | takeEvents | takeRetired => exact hw
  | takeViewerUpdate =>
    simp only [Workspace.aside, takeViewerUpdate]
    split <;> exact hw
  | elapse milliseconds =>
    intro e he
    obtain ⟨⟨doc, s⟩, hmem, rfl⟩ := List.mem_map.1 he
    exact (hw (doc, s) hmem).operate (.elapse milliseconds)

/-- A workspace stays sound when its links change from outside. -/
theorem Sound.outside (hw : w.Sound) (connector : κ) (links : String → σ) :
    (w.outside connector links).Sound := by
  intro e he
  obtain ⟨⟨doc, s⟩, hmem, rfl⟩ := List.mem_map.1 he
  exact (hw (doc, s) hmem).outside (links doc)

variable [Connector κ σ]

/-- Every action shows what it changes, but for a viewer that empties the message panel. -/
theorem shows_carryOut (hw : w.Sound) (a : Action) :
    Shows (fun doc => a = .viewer .clearMessages ∧ w.focused = some doc) w (w.carryOut a) := by
  cases a with
  | editor c => exact (shows_handle hw c).mono fun _ hfalse => hfalse.elim
  | malformed reason => exact shows_emit fun _ => rfl
  | viewer c => exact (shows_handleViewer w c).mono fun _ hunseen => ⟨by rw [hunseen.1], hunseen.2⟩
  | poll => exact shows_processFeedbacks hw

/-- On every run the workspace is sound. -/
theorem Run.sound (hr : Run h w) : w.Sound := by
  induction hr with
  | start settings connector => exact fun e he => absurd he List.not_mem_nil
  | act _ a ih => exact (shows_carryOut ih a).sound ih
  | aside _ a ih => exact ih.aside a
  | outside _ connector links ih => exact ih.outside connector links

/-- On every run what was shown last of a document is up to date. -/
theorem Run.upToDate (hr : Run h w) (hs : w.session? doc = some s) : UpToDate h doc s.snapshot := by
  induction hr generalizing s with
  | start settings connector => simp [session?, empty, Sessions.find?] at hs
  | @act h w hr a ih =>
    by_cases hunseen : a = .viewer .clearMessages ∧ w.focused = some doc
    · -- the only action that changes what there is to draw and shows no snapshot
      obtain ⟨rfl, hfocus⟩ := hunseen
      obtain ⟨hnone, s, hold, rfl⟩ := handleViewer_clearMessages hfocus hs
      have hnews := emittedEvents_action [] (w.newEvents (w.handleViewer .clearMessages))
      rw [← hnews] at hnone
      have hemptied := (ih hold).emptied hnone
      rwa [unseenBy, hfocus]
    · exact (shows_carryOut hr.sound a).upToDate (emittedEvents_unseenBy w a _)
        (fun s => ih) hunseen hs
  | aside _ a ih =>
    obtain ⟨s, hold, hsame⟩ := exists_session_aside hs
    exact hsame ▸ ih hold
  | outside _ connector links ih =>
    obtain ⟨s, hold, hsame⟩ := exists_session_outside hs
    exact hsame ▸ ih hold

/-- Of every document with a session the editor has been shown what there is to draw, whatever
commands, polls and answers have led there, unless a viewer has emptied its message panel since:
then only the messages may differ, and those that are kept are none. -/
theorem Run.lastShown_eq (hr : Run h w) (hs : w.session? doc = some s) :
    ∃ shown, lastShown? doc (emittedEvents h) = some shown ∧
      (shown = s.snapshot ∨ EmptiedSince doc h ∧ { shown with messages := [] } = s.snapshot) :=
  hr.upToDate hs

end Steps

/-! ## A document whose prover has sent a message -/

/-- The opener of links on which nothing has happened. -/
structure Opener where

instance : Connector Opener Channel where
  connect _ opener := (.ok Channel.opened, opener)

/-- A message of a prover. -/
def notice : MessageEntry :=
  ⟨.notice, "busy"⟩

/-- A workspace without documents. -/
def vacant : Workspace Opener Channel :=
  .empty .default ⟨⟩

/-- The workspace with one document. -/
def opened : Workspace Opener Channel :=
  vacant.carryOut (.editor (.newSession "a.v" "A."))

/-- The workspace on whose link the message has arrived. -/
def awaiting : Workspace Opener Channel :=
  opened.outside ⟨⟩ fun _ =>
    Session.delivering (.feedback ⟨⟨1⟩, .message notice.level none notice.text⟩)

/-- The workspace that has taken the message in. -/
def noticed : Workspace Opener Channel :=
  awaiting.carryOut .poll

/-- What has happened until the message is taken in. -/
def untilNoticed : List Happening :=
  (vacant.newEvents opened).map .emitted ++ (awaiting.newEvents noticed).map .emitted

theorem run_noticed : Run untilNoticed noticed :=
  (((Run.start .default (⟨⟩ : Opener)).act (.editor (.newSession "a.v" "A."))).outside ⟨⟩ fun _ =>
    Session.delivering (.feedback ⟨⟨1⟩, .message notice.level none notice.text⟩)).act .poll

/-- A message that has been taken in has been shown. -/
theorem lastShown_noticed : ∃ s, noticed.session? "a.v" = some s ∧ s.messages = [notice] ∧
    lastShown? "a.v" (emittedEvents untilNoticed) = some s.snapshot := by
  obtain ⟨s, hs, hmessages⟩ : ∃ s, noticed.session? "a.v" = some s ∧ s.messages = [notice] :=
    Option.map_eq_some_iff.1 (by cbv)
  obtain ⟨shown, hshown, hsame⟩ := run_noticed.lastShown_eq hs
  rcases hsame with rfl | ⟨⟨before, after, hsplit, -⟩, -⟩
  · exact ⟨s, hs, hmessages, hshown⟩
  · -- no viewer has done anything
    have hmem : Happening.emptied "a.v" ∈ untilNoticed := by simp [hsplit]
    simp [untilNoticed] at hmem

/-- The workspace after a viewer has emptied the message panel. -/
def emptied : Workspace Opener Channel :=
  noticed.carryOut (.viewer .clearMessages)

/-- What has happened until the message panel is empty. -/
def untilEmptied : List Happening :=
  untilNoticed ++ .emptied "a.v" :: (noticed.newEvents emptied).map .emitted

/-- After a viewer has emptied the message panel the snapshot that was shown last still holds the
message. -/
theorem exists_stale : Run untilEmptied emptied ∧ ∃ s shown, emptied.session? "a.v" = some s ∧
    lastShown? "a.v" (emittedEvents untilEmptied) = some shown ∧ shown.messages = [notice] ∧
    s.snapshot.messages = [] ∧ shown ≠ s.snapshot := by
  have hrun : Run untilEmptied emptied := by
    have hfocus : noticed.focused = some "a.v" := by cbv
    have hcleared := run_noticed.act (.viewer .clearMessages)
    rw [unseenBy, hfocus] at hcleared
    exact hcleared
  -- the session has no messages any more, and the last snapshot still has one
  obtain ⟨s, hs, hnone⟩ : ∃ s, emptied.session? "a.v" = some s ∧ s.messages = [] :=
    Option.map_eq_some_iff.1 (by cbv)
  obtain ⟨shown, hshown, hkept⟩ : ∃ shown,
      lastShown? "a.v" (emittedEvents untilEmptied) = some shown ∧
      shown.messages = [notice] :=
    Option.map_eq_some_iff.1 (by cbv)
  refine ⟨hrun, s, shown, hs, hshown, hkept, hnone, ?_⟩
  rintro rfl
  exact absurd (hkept.symm.trans hnone) (by simp)

end ProofDesk.Workspace
