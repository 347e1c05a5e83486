import ProofDesk.Proofs.Workspace.Play

/-!
# Documents do not interfere

What becomes of a document is decided by the turns that concern it: commands that name it, polls,
the passing of time, the end of the service and what happens on its own link. A turn that does not
leaves the session of the document alone and tells nothing of it (`Spares`); a turn that does takes
two workspaces which are alike as far as the document goes to two that are still alike, and tells
the same of it in both (`Matches`). So a run and the turns of it that concern a document come to the
same for that document (`play_isolated`), whatever else is done in between and in whatever order
sessions are polled.
-/

namespace ProofDesk

/-- Whether an event is a snapshot or a notification of a document, or an error where the document
is `named`. -/
def EngineEvent.tellsOf (doc : String) (named : Bool) : EngineEvent → Bool
  | snapshot d _ | notification d _ _ => d == doc
  | error _ => named
  | _ => false

/-- Whether a command is for every document. -/
def EditorCommand.isCommon : EditorCommand → Bool
  | processFeedbacks | shutdown => true
  | _ => false

namespace Workspace

variable {κ σ : Type}

/-- Whether a turn is a command that names a document. -/
def Turn.names (doc : String) : Turn κ σ → Bool
  | .act _ (.editor c) => c.doc? == some doc
  | _ => false

/-- Whether a turn has to do with a document. -/
def Turn.concerns (doc : String) : Turn κ σ → Bool
  | .act _ (.editor c) => c.doc? == some doc || c.isCommon
  | .act _ .poll => true
  | .act _ _ => false
  | .aside (.elapse _) => true
  | .aside _ => false
  | .prover d _ => d == doc
  | .reorder _ => false

/-- What is told of a document on the way from one workspace to another. -/
def toldBetween (doc : String) (named : Bool) (w w' : Workspace κ σ) : List EngineEvent :=
  (w.newEvents w').filter (·.tellsOf doc named)

variable {w w' w'' v v' v'' : Workspace κ σ} {doc other : String} {named : Bool} {s s' : Session σ}

/-- What is told on the way is what is told on its parts, one after the other. -/
theorem toldBetween_trans (h : w.events <+: w'.events) (h' : w'.events <+: w''.events) :
    toldBetween doc named w w'' = toldBetween doc named w w' ++ toldBetween doc named w' w'' := by
  rw [toldBetween, newEvents_trans h h', List.filter_append]
  rfl

/-- What is told is what was added to the events. -/
theorem toldBetween_of_eq {es : List EngineEvent} (h : w'.events = w.events ++ es) :
    toldBetween doc named w w' = es.filter (·.tellsOf doc named) := by
  rw [toldBetween, newEvents_of_eq h]

/-- Where no event is added nothing is told. -/
theorem toldBetween_of_events_eq (h : w'.events = w.events) : toldBetween doc named w w' = [] := by
  rw [toldBetween_of_eq (h.trans (List.append_nil _).symm), List.filter_nil]

/-! ## What has nothing to do with a document -/

/-- The session of a document is left alone, and nothing is told of it. -/
structure Spares (doc : String) (named : Bool) (w w' : Workspace κ σ) : Prop where
  grows : w.events <+: w'.events
  settings : w'.settings = w.settings
  session : w'.session? doc = w.session? doc
  distinct : w.sessions.docs.Nodup → w'.sessions.docs.Nodup
  silent : toldBetween doc named w w' = []

namespace Spares

/-- What spares a document twice spares it. -/
theorem trans (h : Spares doc named w w') (h' : Spares doc named w' w'') :
    Spares doc named w w'' := by
  refine ⟨h.grows.trans h'.grows, h'.settings.trans h.settings, h'.session.trans h.session,
    fun hd => h'.distinct (h.distinct hd), ?_⟩
  rw [toldBetween_trans h.grows h'.grows, h.silent, h'.silent, List.nil_append]

/-- Events that tell nothing of the document, while the sessions stay as they are. -/
theorem of_quiet {es : List EngineEvent} (hsettings : w'.settings = w.settings)
    (hsessions : w'.sessions = w.sessions) (hevents : w'.events = w.events ++ es)
    (hquiet : ∀ e ∈ es, e.tellsOf doc named = false) :
    Spares doc named w w' := by
  refine ⟨⟨es, hevents.symm⟩, hsettings, by rw [session?, hsessions]; rfl,
    fun hd => hsessions ▸ hd, ?_⟩
  rw [toldBetween_of_eq hevents, List.filter_eq_nil_iff]
  exact fun e he => by simp [hquiet e he]

/-- Leaving sessions and events alone spares every document. -/
theorem of_eq (hsettings : w'.settings = w.settings) (hsessions : w'.sessions = w.sessions)
    (hevents : w'.events = w.events) : Spares doc named w w' :=
  of_quiet hsettings hsessions (by rw [hevents, List.append_nil]) (by simp)

theorem refl (w : Workspace κ σ) : Spares doc named w w :=
  of_eq rfl rfl rfl

/-- What spares a document each time spares it as often as it is done. -/
theorem foldl {α : Type} {f : Workspace κ σ → α → Workspace κ σ} {as : List α}
    (hf : ∀ a ∈ as, ∀ w, Spares doc named w (f w a)) (w : Workspace κ σ) :
    Spares doc named w (as.foldl f w) := by
  induction as generalizing w with
  | nil => exact refl w
  | cons a as ih =>
    exact (hf a List.mem_cons_self w).trans
      (ih (fun a' ha' => hf a' (List.mem_cons_of_mem _ ha')) _)

/-- One document after the other, and this one is not among them. -/
theorem foldl_of_not_mem {f : Workspace κ σ → String → Workspace κ σ}
    (hother : ∀ other, doc ≠ other → ∀ w : Workspace κ σ, Spares doc named w (f w other))
    {ds : List String} (hdoc : doc ∉ ds) (w : Workspace κ σ) : Spares doc named w (ds.foldl f w) :=
  foldl (fun other hmem => hother other fun heq => hdoc (heq ▸ hmem)) w

end Spares

/-- An event that tells nothing of a document spares it. -/
theorem spares_emit {e : EngineEvent} (he : e.tellsOf doc named = false) :
    Spares doc named w (w.emit e) :=
  .of_quiet rfl rfl rfl (by simpa using he)

/-- Panels tell nothing of a document. -/
theorem Draws.spares (h : Draws w w') : Spares doc named w w' := by
  obtain ⟨es, hes, hpanels⟩ := h.events
  refine .of_quiet h.settings h.sessions hes fun e he => ?_
  have hpanel := hpanels e he
  cases e with
  | goals | messages | visibility => rfl
  | _ => simp [EngineEvent.isPanel] at hpanel

/-- Nor does what is drawn of the document in focus. -/
theorem spares_panels (w : Workspace κ σ) (shown : String) :
    Spares doc named w (if w.focused = some shown then
      (w.replayGoals shown).replayMessages shown else w) := by
  split
  · exact ((draws_replayGoals w shown).trans (draws_replayMessages _ shown)).spares
  · exact .refl w

/-- What a viewer does has to do with the document in focus only where it empties the message
panel. -/
theorem spares_handleViewer (w : Workspace κ σ) {c : ViewerCommand} (hc : c ≠ .clearMessages) :
    Spares doc named w (w.handleViewer c) := by
  cases c with
  | goalVisibility mode => exact (draws_setVisibility ..).spares
  | messageVisibility mode => exact (draws_setVisibility ..).spares
  | clearMessages => exact absurd rfl hc

/-- Reporting trouble spares every document that it does not name. -/
theorem spares_report {doc? : Option String} (hdoc : doc? ≠ some doc) (w : Workspace κ σ)
    (t : Trouble) :
    Spares doc false w (w.report doc? t) := by
  unfold report
  split
  · next d =>
    exact spares_emit (by simpa [EngineEvent.tellsOf] using fun h : d = doc => hdoc (h ▸ rfl))
  · exact spares_emit rfl

theorem spares_putSession (h : doc ≠ other) (w : Workspace κ σ) (s : Session σ) :
    Spares doc named w (w.putSession other s) :=
  ⟨List.prefix_refl _, rfl, session?_putSession_of_ne w s h,
    fun hd => Sessions.nodup_docs_put hd other s, toldBetween_of_events_eq rfl⟩

theorem spares_flushNotifications (h : doc ≠ other) (w : Workspace κ σ) :
    Spares doc named w (w.flushNotifications other) := by
  unfold flushNotifications
  split
  · exact .refl w
  · exact (spares_putSession h w _).trans
      (.foldl (fun n _ w => spares_emit (by simpa [EngineEvent.tellsOf] using h.symm)) _)

theorem spares_publish (h : doc ≠ other) (w : Workspace κ σ) :
    Spares doc named w (w.publish other) := by
  unfold publish
  split
  · exact .refl w
  · next s _ =>
    have hshown : Spares doc named w (w.emit (.snapshot other s.snapshot)) :=
      spares_emit (by simpa [EngineEvent.tellsOf] using h.symm)
    exact (hshown.trans (spares_panels _ other)).trans (spares_flushNotifications h _)

/-- Publishing after a command spares every document that it does not name. -/
theorem spares_publishNamed (w : Workspace κ σ) {c : EditorCommand} (hdoc : c.doc? ≠ some doc) :
    Spares doc named w (w.publishNamed c) := by
  unfold publishNamed
  cases h : c.doc? with
  | none => exact .refl w
  | some other => exact spares_publish (fun (heq : doc = other) => hdoc (heq ▸ h)) w

theorem spares_onSession (h : doc ≠ other) (w : Workspace κ σ)
    (f : Session σ → Except Fault Unit × Session σ) :
    Spares doc named w (w.onSession other f).2 := by
  unfold onSession
  split
  · exact .refl w
  · exact spares_putSession h w _

/-- Events in the editor's windows have nothing to do with sessions. -/
theorem spares_editorEvent (w : Workspace κ σ) (shown : String) (kind : EditorEvent) :
    Spares doc named w (w.editorEvent shown kind).2 := by
  obtain ⟨focused, active, heq⟩ := exists_editorEvent_eq w shown kind
  rw [heq]
  exact .of_eq rfl rfl rfl

section Closing

variable [Link σ]

theorem spares_retire (h : doc ≠ other) (w : Workspace κ σ) :
    Spares doc named w (w.retire other) := by
  have hevents : (w.retire other).events = w.events := by rw [retire_eq]
  refine ⟨hevents ▸ List.prefix_refl _, by rw [retire_eq], session?_retire_of_ne w h, fun hd => ?_,
    toldBetween_of_events_eq hevents⟩
  rw [retire_eq]
  exact Sessions.nodup_docs_erase hd other

theorem spares_closeSession (h : doc ≠ other) (w : Workspace κ σ) :
    Spares doc named w (w.closeSession other).2 := by
  rw [closeSession_eq]
  split
  · exact .refl w
  · exact (spares_retire h w).trans (.of_eq rfl rfl rfl)

variable [Connector κ σ]

theorem spares_newSession (h : doc ≠ other) (w : Workspace κ σ) (text : String) :
    Spares doc named w (w.newSession other text).2 := by
  have hretired : ∀ connector, Spares doc named w { w.retire other with connector } :=
    fun connector => (spares_retire h w).trans (.of_eq rfl rfl rfl)
  obtain ⟨reason, connector, -, heq⟩ | ⟨link, connector, -, heq⟩ := newSession_cases w other text
  · rw [heq]
    exact hretired connector
  · rw [heq]
    exact ((hretired connector).trans (spares_putSession h _ _)).trans (.of_eq rfl rfl rfl)

/-- A command spares every document that it does not name. -/
theorem spares_dispatch (w : Workspace κ σ) {c : EditorCommand} (hdoc : c.doc? ≠ some doc)
    (hcommon : c.isCommon = false) : Spares doc named w (w.dispatch c).2 := by
  have hother {other : String} (h : c.doc? = some other) : doc ≠ other := fun heq => hdoc (heq ▸ h)
  cases c with
  | newSession d text => exact spares_newSession (hother rfl) w text
  | closeSession d => exact spares_closeSession (hother rfl) w
  | forward | backward | toCursor | edit | setText | clearMessages =>
    exact spares_onSession (hother rfl) w _
  | event d kind => exact spares_editorEvent w d kind
  | goalVisibility | messageVisibility => exact (draws_setVisibility ..).spares
  | redrawGoals | redrawMessages => exact (draws_reveal ..).spares
  | processFeedbacks | shutdown => simp [EditorCommand.isCommon] at hcommon

/-- A command for another document has nothing to do with a document. -/
theorem spares_handle (w : Workspace κ σ) {c : EditorCommand} (hdoc : c.doc? ≠ some doc)
    (hcommon : c.isCommon = false) : Spares doc false w (w.handle c).2 := by
  have hdispatch : Spares doc false w (w.dispatch c).2 := spares_dispatch w hdoc hcommon
  cases hdispatched : w.dispatch c with
  | mk result w' =>
    rw [hdispatched] at hdispatch
    cases result with
    | ok =>
      rw [handle_of_ok hdispatched]
      exact hdispatch.trans (spares_publishNamed w' hdoc)
    | error t =>
      rw [handle_of_error hdispatched]
      exact (hdispatch.trans (spares_report hdoc w' t)).trans (spares_publishNamed _ hdoc)

end Closing

/-! ## Workspaces that are alike as far as a document goes -/

/-- The document has the same session in both workspaces, and new ones would be opened with the same
settings. -/
structure Alike (doc : String) (w v : Workspace κ σ) : Prop where
  settings : w.settings = v.settings
  session : w.session? doc = v.session? doc
  distinct : w.sessions.docs.Nodup
  distinct' : v.sessions.docs.Nodup

/-- On the ways from two workspaces the same is told of a document, and they lead to workspaces that
are alike for it. -/
structure Matches (doc : String) (named : Bool) (w w' v v' : Workspace κ σ) : Prop where
  alike : Alike doc w' v'
  grows : w.events <+: w'.events
  grows' : v.events <+: v'.events
  told : toldBetween doc named w w' = toldBetween doc named v v'

/-- Ways that match, one behind the other, match. -/
theorem Matches.trans (h : Matches doc named w w' v v') (h' : Matches doc named w' w'' v' v'') :
    Matches doc named w w'' v v'' := by
  refine ⟨h'.alike, h.grows.trans h'.grows, h.grows'.trans h'.grows', ?_⟩
  rw [toldBetween_trans h.grows h'.grows, toldBetween_trans h.grows' h'.grows', h.told, h'.told]

/-- What is done next starts from workspaces that are still alike. -/
theorem Matches.andThen (h : Matches doc named w w' v v')
    (hnext : Alike doc w' v' → Matches doc named w' w'' v' v'') :
    Matches doc named w w'' v v'' :=
  h.trans (hnext h.alike)

/-- Whoever opens links is no part of what is alike. -/
theorem Matches.of_connector {connector : κ}
    (h : Matches doc named { w with connector } w' { v with connector } v') :
    Matches doc named w w' v v' :=
  ⟨h.alike, h.grows, h.grows', h.told⟩

/-- Workspaces that come to be alike without a word. -/
theorem Matches.of_silent (ha : Alike doc w' v') (hw : w'.events = w.events)
    (hv : v'.events = v.events) :
    Matches doc named w w' v v' :=
  ⟨ha, hw ▸ List.prefix_refl _, hv ▸ List.prefix_refl _, by
    rw [toldBetween_of_events_eq hw, toldBetween_of_events_eq hv]⟩

/-- What has nothing to do with the document keeps the workspaces alike. -/
theorem Spares.alike (h : Spares doc named w w') (ha : Alike doc w v) : Alike doc w' v :=
  ⟨h.settings.trans ha.settings, h.session.trans ha.session, h.distinct ha.distinct, ha.distinct'⟩

/-- What has nothing to do with the document may be different things. -/
theorem Spares.matches (h : Spares doc named w w') (h' : Spares doc named v v')
    (ha : Alike doc w v) :
    Matches doc named w w' v v' :=
  ⟨⟨h.settings.trans (ha.settings.trans h'.settings.symm),
    h.session.trans (ha.session.trans h'.session.symm), h.distinct ha.distinct,
    h'.distinct ha.distinct'⟩, h.grows, h'.grows,
    h.silent.trans h'.silent.symm⟩

theorem Alike.matches (ha : Alike doc w v) : Matches doc named w w v v :=
  (Spares.refl w).matches (.refl v) ha

theorem Alike.emit (ha : Alike doc w v) (e : EngineEvent) :
    Matches doc named w (w.emit e) v (v.emit e) :=
  ⟨⟨ha.settings, ha.session, ha.distinct, ha.distinct'⟩, List.prefix_append _ _,
    List.prefix_append _ _, by rw [toldBetween_of_eq rfl, toldBetween_of_eq rfl]⟩

theorem Alike.putSession (ha : Alike doc w v) (s : Session σ) :
    Matches doc named w (w.putSession doc s) v (v.putSession doc s) := by
  refine .of_silent ⟨ha.settings, ?_, Sessions.nodup_docs_put ha.distinct doc s,
    Sessions.nodup_docs_put ha.distinct' doc s⟩ rfl rfl
  rw [session?_putSession_self, session?_putSession_self]

/-- The same notifications are passed on in both workspaces. -/
theorem Alike.flushNotifications (ha : Alike doc w v) :
    Matches doc named w (w.flushNotifications doc) v (v.flushNotifications doc) := by
  have hraised : ∀ (ns : List Notification) {w v : Workspace κ σ}, Alike doc w v → Matches doc named
      w (ns.foldl (fun w n => w.emit (.notification doc n.kind n.message)) w)
      v (ns.foldl (fun w n => w.emit (.notification doc n.kind n.message)) v) := by
    intro ns
    induction ns with
    | nil => exact fun ha => ha.matches
    | cons n ns ih => exact fun ha => (ha.emit _).andThen ih
  unfold Workspace.flushNotifications
  rw [ha.session]
  cases v.session? doc with
  | none => exact ha.matches
  | some s => exact (ha.putSession _).andThen (hraised _)

/-- Publishing the document shows the same in both workspaces, whichever document is in focus in
either. -/
theorem Alike.publish (ha : Alike doc w v) :
    Matches doc named w (w.publish doc) v (v.publish doc) := by
  unfold Workspace.publish
  rw [ha.session]
  cases v.session? doc with
  | none => exact ha.matches
  | some s =>
    have hshown : Matches doc named w (w.emit (.snapshot doc s.snapshot)) v
        (v.emit (.snapshot doc s.snapshot)) := ha.emit _
    exact (hshown.andThen ((spares_panels _ doc).matches (spares_panels _ doc))).andThen
      flushNotifications

/-- The same is published after a command in both workspaces. -/
theorem Alike.publishNamed (ha : Alike doc w v) {c : EditorCommand}
    (hc : c.doc? = some doc ∨ c.isCommon = true) :
    Matches doc named w (w.publishNamed c) v (v.publishNamed c) := by
  unfold Workspace.publishNamed
  rcases hc with h | h
  · rw [h]
    exact ha.publish
  · have hnone : c.doc? = none := by
      cases c with
      | processFeedbacks | shutdown => rfl
      | _ => simp [EditorCommand.isCommon] at h
    rw [hnone]
    exact ha.matches

theorem Alike.report (ha : Alike doc w v) (doc? : Option String) (t : Trouble) :
    Matches doc named w (w.report doc? t) v (v.report doc? t) := by
  unfold Workspace.report
  split <;> exact ha.emit _

theorem Alike.onSession (ha : Alike doc w v) (f : Session σ → Except Fault Unit × Session σ) :
    (w.onSession doc f).1 = (v.onSession doc f).1 ∧
      Matches doc named w (w.onSession doc f).2 v (v.onSession doc f).2 := by
  unfold Workspace.onSession
  rw [ha.session]
  cases v.session? doc with
  | none => exact ⟨rfl, ha.matches⟩
  | some s => exact ⟨rfl, ha.putSession _⟩

theorem Alike.editorEvent (ha : Alike doc w v) (kind : EditorEvent) :
    (w.editorEvent doc kind).1 = (v.editorEvent doc kind).1 ∧
      Matches doc named w (w.editorEvent doc kind).2 v (v.editorEvent doc kind).2 := by
  refine ⟨?_, (spares_editorEvent w doc kind).matches (spares_editorEvent v doc kind) ha⟩
  unfold Workspace.editorEvent
  rw [ha.session]
  split <;> rfl

/-! ## One document among others -/

/-- Each document is taken once, so what is done to one after the other comes to what is done to the
document. -/
theorem Alike.foldl {f : Workspace κ σ → String → Workspace κ σ}
    (hself : ∀ {w v : Workspace κ σ}, Alike doc w v → Matches doc named w (f w doc) v (f v doc))
    (hother : ∀ other, doc ≠ other → ∀ w : Workspace κ σ, Spares doc named w (f w other))
    {ds ds' : List String} (hnodup : ds.Nodup) (hnodup' : ds'.Nodup) (hmem : doc ∈ ds ↔ doc ∈ ds')
    (ha : Alike doc w v) :
    Matches doc named w (ds.foldl f w) v (ds'.foldl f v) := by
  have hrest {ds : List String} (hnot : doc ∉ ds) (w : Workspace κ σ) :
      Spares doc named w (ds.foldl f w) :=
    .foldl_of_not_mem hother hnot w
  -- the document is passed by until its turn comes, and again after it
  by_cases hdoc : doc ∈ ds
  · obtain ⟨front, back, rfl⟩ := List.append_of_mem hdoc
    obtain ⟨front', back', rfl⟩ := List.append_of_mem (hmem.1 hdoc)
    obtain ⟨hfront, hback⟩ : doc ∉ front ∧ doc ∉ back := by
      rw [List.nodup_middle, List.nodup_cons, List.mem_append, not_or] at hnodup
      exact hnodup.1
    obtain ⟨hfront', hback'⟩ : doc ∉ front' ∧ doc ∉ back' := by
      rw [List.nodup_middle, List.nodup_cons, List.mem_append, not_or] at hnodup'
      exact hnodup'.1
    rw [List.foldl_append, List.foldl_append, List.foldl_cons, List.foldl_cons]
    have hbefore := (hrest hfront w).matches (hrest hfront' v) ha
    exact (hbefore.andThen hself).andThen ((hrest hback _).matches (hrest hback' _))
  · exact (hrest hdoc w).matches (hrest (fun h => hdoc (hmem.2 h)) v) ha

/-- The same change of every session. -/
theorem Alike.map (ha : Alike doc w v) (f : String → Session σ → Session σ) :
    Matches doc named w { w with sessions := w.sessions.map fun (doc, s) => (doc, f doc s) }
      v { v with sessions := v.sessions.map fun (doc, s) => (doc, f doc s) } := by
  refine .of_silent ⟨ha.settings, ?_, ?_, ?_⟩ rfl rfl
  · have hsession : w.sessions.find? doc = v.sessions.find? doc := ha.session
    simp only [session?, Sessions.find?_map, hsession]
  · rw [Sessions.docs_map]
    exact ha.distinct
  · rw [Sessions.docs_map]
    exact ha.distinct'

/-! ## Sessions that are closed -/

/-- The sessions that a command closes. -/
def closing (w : Workspace κ σ) : EditorCommand → Sessions σ
  | .newSession doc _ | .closeSession doc => (w.session? doc).toList.map (doc, ·)
  | .shutdown => w.sessions
  | _ => []

/-- The sessions that a turn closes. -/
def closedBy (w : Workspace κ σ) : Turn κ σ → Sessions σ
  | .act _ (.editor c) => w.closing c
  | _ => []

/-- A command that has nothing to do with a document does not close its session. -/
private theorem filter_closing_eq_nil (w : Workspace κ σ) {c : EditorCommand}
    (hdoc : c.doc? ≠ some doc)
    (hcommon : c.isCommon = false) : (w.closing c).filter (·.1 == doc) = [] := by
  have hother {d : String} (h : c.doc? = some d) :
      ((w.session? d).toList.map (d, ·)).filter (·.1 == doc) = [] := by
    have hne : d ≠ doc := fun heq => hdoc (heq ▸ h)
    simp [List.filter_eq_nil_iff, hne]
  cases c with
  | newSession d text => exact hother rfl
  | closeSession d => exact hother rfl
  | shutdown => simp [EditorCommand.isCommon] at hcommon
  | _ => rfl

/-- A command closes the session of a document in both workspaces or in neither. -/
theorem Alike.filter_closing (ha : Alike doc w v) {c : EditorCommand}
    (hc : c.doc? = some doc ∨ c.isCommon = true) :
    (w.closing c).filter (·.1 == doc) = (v.closing c).filter (·.1 == doc) := by
  cases c with
  | newSession d text | closeSession d =>
    obtain rfl : d = doc := hc.elim Option.some.inj fun hfalse =>
      absurd hfalse (by simp [EditorCommand.isCommon])
    simp only [closing, ha.session]
  | shutdown =>
    have hsession : w.sessions.find? doc = v.sessions.find? doc := ha.session
    simp only [closing, Sessions.filter_eq ha.distinct, Sessions.filter_eq ha.distinct', hsession]
  | _ => rfl

/-- A command concerns the document that it names, or every one. -/
theorem concerns_editor_iff (doc : String) (connector : κ) (c : EditorCommand) :
    (Turn.act connector (.editor c) : Turn κ σ).concerns doc = true ↔
    c.doc? = some doc ∨ c.isCommon = true := by
  simp [Turn.concerns]

variable [Link σ]

/-! ## Polls and commands -/

/-- The documents for which a poll brings news. -/
def stirred (w : Workspace κ σ) : List String :=
  (w.sessions.filter (·.2.poll.1)).map (·.1)

/-- No document has news twice. -/
theorem nodup_stirred (h : w.sessions.docs.Nodup) : w.stirred.Nodup :=
  h.sublist (List.filter_sublist.map _)

/-- A document has news just when polling its session finds some. -/
theorem mem_stirred_iff (h : w.sessions.docs.Nodup) (doc : String) :
    doc ∈ w.stirred ↔ ∃ s, w.session? doc = some s ∧ s.poll.1 = true := by
  simp only [stirred, List.mem_map, List.mem_filter, Prod.exists, exists_and_right, exists_eq_right]
  refine exists_congr fun s => and_congr_left fun _ =>
    ⟨Sessions.find?_of_mem h, Sessions.mem_of_find?⟩

/-- The workspace with its sessions polled and what has news published. -/
def polled (w : Workspace κ σ) : Workspace κ σ :=
  w.stirred.foldl Workspace.publish
    { w with sessions := w.sessions.map fun (doc, s) => (doc, s.poll.2) }

/-- What a poll comes to. -/
theorem processFeedbacks_eq (w : Workspace κ σ) :
    w.processFeedbacks = w.polled.sessions.docs.foldl Workspace.flushNotifications w.polled := by
  -- the documents whose sessions report a change, in the order of the sessions
  have hstirred : (w.sessions.map fun e => (e.1, e.2.poll)).filterMap
      (fun p => if p.2.1 then some p.1 else none) = w.stirred := by
    unfold stirred
    induction w.sessions with
    | nil => rfl
    | cons e ss ih =>
      rw [List.map_cons, List.filterMap_cons, List.filter_cons, ih]
      cases e.2.poll.1 <;> simp
  unfold Workspace.processFeedbacks polled
  rw [← hstirred]
  dsimp only
  rw [List.map_map]
  rfl

theorem Alike.processFeedbacks (ha : Alike doc w v) :
    Matches doc named w w.processFeedbacks v v.processFeedbacks := by
  have hstirred : doc ∈ w.stirred ↔ doc ∈ v.stirred := by
    rw [mem_stirred_iff ha.distinct, mem_stirred_iff ha.distinct', ha.session]
  have hpolled : Matches doc named w w.polled v v.polled :=
    (ha.map fun _ s => s.poll.2).andThen
      (foldl publish (fun _ h w => spares_publish h w) (nodup_stirred ha.distinct)
        (nodup_stirred ha.distinct') hstirred)
  rw [processFeedbacks_eq, processFeedbacks_eq]
  refine hpolled.andThen fun hdocs =>
    hdocs.foldl flushNotifications (fun _ h w => spares_flushNotifications h w)
    hdocs.distinct hdocs.distinct' ?_
  rw [← not_iff_not, ← session?_eq_none_iff, ← session?_eq_none_iff, hdocs.session]

theorem Alike.shutdown (ha : Alike doc w v) : Matches doc named w w.shutdown v v.shutdown :=
  .of_silent ⟨ha.settings, rfl, List.nodup_nil, List.nodup_nil⟩ rfl rfl

theorem Alike.retire (ha : Alike doc w v) :
    Matches doc named w (w.retire doc) v (v.retire doc) := by
  refine .of_silent ⟨?_, ?_, ?_, ?_⟩ (by rw [retire_eq]) (by rw [retire_eq])
  · rw [retire_eq, retire_eq]
    exact ha.settings
  · rw [session?_retire_self, session?_retire_self]
  · rw [retire_eq]
    exact Sessions.nodup_docs_erase ha.distinct doc
  · rw [retire_eq]
    exact Sessions.nodup_docs_erase ha.distinct' doc

theorem Alike.closeSession (ha : Alike doc w v) :
    (w.closeSession doc).1 = (v.closeSession doc).1 ∧
      Matches doc named w (w.closeSession doc).2 v (v.closeSession doc).2 := by
  rw [closeSession_eq, closeSession_eq, ha.session]
  split
  · exact ⟨rfl, ha.matches⟩
  · exact ⟨rfl, ha.retire.andThen (Spares.matches (.of_eq rfl rfl rfl) (.of_eq rfl rfl rfl))⟩

variable [Connector κ σ]

/-- A new session of the document comes out the same where whoever opens links is in the same
state. -/
theorem Alike.newSession (ha : Alike doc w v) (hconnector : w.connector = v.connector)
    (text : String) :
    (w.newSession doc text).1 = (v.newSession doc text).1 ∧
      Matches doc named w (w.newSession doc text).2 v (v.newSession doc text).2 := by
  have hretired (connector : κ) :
      Matches doc named w { w.retire doc with connector } v { v.retire doc with connector } :=
    ha.retire.andThen (Spares.matches (.of_eq rfl rfl rfl) (.of_eq rfl rfl rfl))
  cases hopened : Connector.connect w.settings w.connector with
  | mk result connector =>
    -- both ask for a link from the same state, and with the same settings
    have hopened' : Connector.connect v.settings v.connector = (result, connector) := by
      rw [← ha.settings, ← hconnector, hopened]
    cases result with
    | error reason =>
      rw [newSession_of_error hopened, newSession_of_error hopened']
      exact ⟨rfl, hretired connector⟩
    | ok link =>
      rw [newSession_of_ok hopened, newSession_of_ok hopened', ha.settings]
      have hput := (hretired connector).andThen (putSession · (.start link text v.settings))
      exact ⟨rfl, hput.andThen (Spares.matches (.of_eq rfl rfl rfl) (.of_eq rfl rfl rfl))⟩

/-- A command that concerns a document is carried out the same way in both workspaces. -/
theorem Alike.dispatch (ha : Alike doc w v) (hconnector : w.connector = v.connector)
    {c : EditorCommand} (hc : c.doc? = some doc ∨ c.isCommon = true) :
    (w.dispatch c).1 = (v.dispatch c).1 ∧
    Matches doc named w (w.dispatch c).2 v (v.dispatch c).2 := by
  -- a command that names a document can only concern that document
  have hself {d : String} (h : some d = some doc ∨ false = true) : d = doc :=
    h.elim Option.some.inj fun hfalse => absurd hfalse (by simp)
  cases c with
  | newSession d text =>
    obtain rfl := hself hc
    exact ha.newSession hconnector text
  | closeSession d =>
    obtain rfl := hself hc
    exact ha.closeSession
  | forward d | backward d | toCursor d _ | edit d _ _ _ | setText d _ | clearMessages d =>
    obtain rfl := hself hc
    exact ha.onSession _
  | event d kind =>
    obtain rfl := hself hc
    exact ha.editorEvent kind
  | processFeedbacks => exact ⟨rfl, ha.processFeedbacks⟩
  | shutdown => exact ⟨rfl, ha.shutdown⟩
  | goalVisibility | messageVisibility | redrawGoals | redrawMessages =>
    simp [EditorCommand.doc?, EditorCommand.isCommon] at hc

theorem Alike.handle (ha : Alike doc w v) (hconnector : w.connector = v.connector)
    {c : EditorCommand} (hc : c.doc? = some doc ∨ c.isCommon = true) :
    Matches doc named w (w.handle c).2 v (v.handle c).2 := by
  obtain ⟨hresult, hdispatch⟩ : (w.dispatch c).1 = (v.dispatch c).1 ∧
      Matches doc named w (w.dispatch c).2 v (v.dispatch c).2 := ha.dispatch hconnector hc
  cases hdispatched : w.dispatch c with
  | mk result w' =>
    cases hdispatched' : v.dispatch c with
    | mk result' v' =>
      rw [hdispatched, hdispatched'] at hresult hdispatch
      obtain rfl : result = result' := hresult
      cases result with
      | ok =>
        rw [handle_of_ok hdispatched, handle_of_ok hdispatched']
        exact hdispatch.andThen (publishNamed · hc)
      | error t =>
        rw [handle_of_error hdispatched, handle_of_error hdispatched']
        exact (hdispatch.andThen (report · c.doc? t)).andThen (publishNamed · hc)

/-! ## Links that are given up -/

/-- The links of a document that a turn hands back, once their sessions are closed. -/
def givenUp (doc : String) (w : Workspace κ σ) (t : Turn κ σ) : List σ :=
  (((w.closedBy t).docs.zip ((w.turn t).retired.drop w.retired.length)).filter (·.1 == doc)).map
    (·.2)

/-- A command hands back the links of the sessions that it closes. -/
theorem retired_dispatch (w : Workspace κ σ) (c : EditorCommand) :
    (w.dispatch c).2.retired = w.retired ++ (w.closing c).map (·.2.close.link) := by
  have hretired (doc : String) :
      (w.retire doc).retired = w.retired ++ ((w.session? doc).toList.map (doc, ·)).map
        (·.2.close.link) := by
    rw [retire_eq, List.map_map]
    rfl
  cases c with
  | newSession doc text =>
    -- the link of the old session is handed back, whether or not the new one can be opened
    rw [dispatch]
    obtain ⟨reason, connector, -, heq⟩ | ⟨link, connector, -, heq⟩ := newSession_cases w doc text
    · rw [heq]
      exact hretired doc
    · rw [heq]
      exact hretired doc
  | closeSession doc =>
    rw [dispatch, closeSession_eq]
    split
    · next hnone => simp [closing, Option.isNone_iff_eq_none.1 hnone]
    · exact hretired doc
  | event doc kind =>
    obtain ⟨focused, active, heq⟩ := exists_editorEvent_eq w doc kind
    rw [dispatch, heq]
    exact (List.append_nil _).symm
  | shutdown => rfl
  | _ => exact (keeps_dispatch w rfl).retired.trans (List.append_nil _).symm

/-- A turn hands back the links of the sessions that it closes. -/
private theorem retired_turn (w : Workspace κ σ) (t : Turn κ σ) :
    (w.turn t).retired.drop w.retired.length = (w.closedBy t).map (·.2.close.link) := by
  -- only commands of the editor close sessions
  have hkept {w' : Workspace κ σ} (h : w'.retired = w.retired) :
      w'.retired.drop w.retired.length = [] := by
    rw [h, List.drop_length]
  cases t with
  | act connector a =>
    cases a with
    | editor c =>
      have hretired :=
        ((keeps_handle { w with connector } c).retired).trans
          (retired_dispatch { w with connector } c)
      rw [turn, carryOut, hretired, List.drop_left]
      rfl
    | malformed | viewer | poll =>
      exact hkept (keeps_carryOut { w with connector } (by simp)).retired
  | aside a =>
    cases a with
    | takeEvents | elapse => exact hkept rfl
    | takeRetired => exact List.drop_nil
    | takeViewerUpdate =>
      refine hkept ?_
      simp only [turn, aside, takeViewerUpdate]
      split <;> rfl
  | prover d news => exact hkept rfl
  | reorder r => exact hkept rfl

/-- The links that are given up are those of the sessions that the turn closes. -/
theorem givenUp_eq (doc : String) (w : Workspace κ σ) (t : Turn κ σ) :
    w.givenUp doc t = ((w.closedBy t).filter (·.1 == doc)).map (·.2.close.link) := by
  rw [givenUp, retired_turn, Sessions.docs, List.zip_map', List.filter_map, List.map_map]
  rfl

/-! ## Turns -/

/-- A turn that does not concern a document leaves its session alone, tells nothing of it and gives
no link of it up. -/
theorem Alike.turn_other (ha : Alike doc w v) {t : Turn κ σ} (ht : t.concerns doc = false)
    (hviewer : ∀ connector, t ≠ .act connector (.viewer .clearMessages)) :
    Alike doc (w.turn t) v ∧ toldBetween doc (t.names doc) w (w.turn t) = [] ∧
    w.givenUp doc t = [] := by
  rw [givenUp_eq]
  cases t with
  | act connector a =>
    -- whoever opens links has nothing to do with the sessions that are there
    have hset {named : Bool} {w' : Workspace κ σ} (hs : Spares doc named { w with connector } w') :
        Alike doc w' v ∧ toldBetween doc named w w' = [] :=
      ⟨hs.alike ⟨ha.settings, ha.session, ha.distinct, ha.distinct'⟩, hs.silent⟩
    cases a with
    | editor c =>
      rw [← Bool.not_eq_true, concerns_editor_iff, not_or, Bool.not_eq_true] at ht
      have hnames : (Turn.act connector (.editor c) : Turn κ σ).names doc = false := by
        simpa [Turn.names] using ht.1
      obtain ⟨halike, hsilent⟩ := hset (spares_handle { w with connector } ht.1 ht.2)
      rw [hnames]
      refine ⟨halike, hsilent, ?_⟩
      rw [closedBy, filter_closing_eq_nil w ht.1 ht.2, List.map_nil]
    | malformed reason =>
      have hs :
          Spares doc false { w with connector } ({ w with connector }.reportMalformed reason) :=
        spares_emit rfl
      exact ⟨(hset hs).1, (hset hs).2, rfl⟩
    | viewer c =>
      have hs : Spares doc false { w with connector } ({ w with connector }.handleViewer c) :=
        spares_handleViewer _ fun heq => hviewer connector (heq ▸ rfl)
      exact ⟨(hset hs).1, (hset hs).2, rfl⟩
    | poll => simp [Turn.concerns] at ht
  | aside a =>
    have hkept : Alike doc (w.aside a) v ∧ toldBetween doc false w (w.aside a) = [] := by
      cases a with
      | takeEvents =>
        exact ⟨⟨ha.settings, ha.session, ha.distinct, ha.distinct'⟩,
          by simp [toldBetween, newEvents, aside, takeEvents]⟩
      | takeRetired =>
        exact ⟨⟨ha.settings, ha.session, ha.distinct, ha.distinct'⟩, toldBetween_of_events_eq rfl⟩
      | takeViewerUpdate =>
        have hs : Spares doc false w (w.aside .takeViewerUpdate) := by
          simp only [aside, takeViewerUpdate]
          split <;> exact .of_eq rfl rfl rfl
        exact ⟨hs.alike ha, hs.silent⟩
      | elapse milliseconds => simp [Turn.concerns] at ht
    exact ⟨hkept.1, hkept.2, rfl⟩
  | prover d news =>
    have hne : doc ≠ d := fun heq => by simp [Turn.concerns, heq] at ht
    have hsession : (w.hear d news).session? doc = w.session? doc := by
      simp only [hear, session?, Sessions.find?_map w.sessions fun e s => if e = d then
        { s with link := news s.link } else s, if_neg hne, Option.map_id']
    have hdistinct : (w.hear d news).sessions.docs.Nodup := (keeps_hear w d news).docs ▸ ha.distinct
    exact ⟨⟨ha.settings, hsession.trans ha.session, hdistinct, ha.distinct'⟩,
      toldBetween_of_events_eq rfl, rfl⟩
  | reorder r =>
    have hperm := r.perm w.sessions
    have hdocs : (w.reorder r).sessions.docs.Perm w.sessions.docs := hperm.map _
    exact ⟨⟨ha.settings, (Sessions.find?_perm ha.distinct hperm doc).trans ha.session,
        hdocs.nodup_iff.2 ha.distinct,
      ha.distinct'⟩, toldBetween_of_events_eq rfl, rfl⟩

/-- A turn that concerns a document does the same to it in two workspaces that are alike for it. -/
theorem Alike.turn_same (ha : Alike doc w v) {t : Turn κ σ} (ht : t.concerns doc = true) :
    Matches doc (t.names doc) w (w.turn t) v (v.turn t) ∧ w.givenUp doc t = v.givenUp doc t := by
  rw [givenUp_eq, givenUp_eq]
  cases t with
  | act connector a =>
    -- whoever opens links is set by the turn itself
    have hset : Alike doc { w with connector } { v with connector } :=
      ⟨ha.settings, ha.session, ha.distinct, ha.distinct'⟩
    cases a with
    | editor c =>
      rw [concerns_editor_iff] at ht
      refine ⟨(hset.handle rfl ht).of_connector, ?_⟩
      rw [closedBy, closedBy, ha.filter_closing ht]
    | poll => exact ⟨hset.processFeedbacks.of_connector, rfl⟩
    | malformed | viewer => simp [Turn.concerns] at ht
  | aside a =>
    cases a with
    | elapse milliseconds => exact ⟨ha.map fun _ s => s.elapse milliseconds, rfl⟩
    | takeEvents | takeRetired | takeViewerUpdate => simp [Turn.concerns] at ht
  | prover d news =>
    exact ⟨ha.map fun e s => if e = d then { s with link := news s.link } else s, rfl⟩
  | reorder r => simp [Turn.concerns] at ht

/-! ## Runs -/

/-- What the turns of a run bring, one after the other. -/
def along {α : Type} (f : Workspace κ σ → Turn κ σ → List α) (w : Workspace κ σ) :
    List (Turn κ σ) → List α
  | [] => []
  | t :: ts => f w t ++ along f (w.turn t) ts

/-- The snapshots and notifications of a document on a run, and the errors of commands that name
it. -/
def told (doc : String) (w : Workspace κ σ) (ts : List (Turn κ σ)) : List EngineEvent :=
  along (fun w t => toldBetween doc (t.names doc) w (w.turn t)) w ts

/-- The links that a document has had on a run, the one in use last. -/
def links (doc : String) (w : Workspace κ σ) (ts : List (Turn κ σ)) : List σ :=
  along (givenUp doc) w ts ++ ((w.play ts).session? doc).toList.map (·.link)

/-- A run and the turns of it that concern a document come to the same for the document. -/
theorem Alike.play (ha : Alike doc w v) {ts : List (Turn κ σ)}
    (hviewer : ∀ connector, .act connector (.viewer .clearMessages) ∉ ts) :
    Alike doc (w.play ts) (v.play (ts.filter (·.concerns doc))) ∧
      told doc w ts = told doc v (ts.filter (·.concerns doc)) ∧
      along (givenUp doc) w ts = along (givenUp doc) v (ts.filter (·.concerns doc)) := by
  induction ts generalizing w v with
  | nil => exact ⟨ha, rfl, rfl⟩
  | cons t ts ih =>
    have hrest : ∀ connector, .act connector (.viewer .clearMessages) ∉ ts :=
      fun connector hmem => hviewer connector (List.mem_cons_of_mem _ hmem)
    cases ht : t.concerns doc with
    | true =>
      -- the turn is taken in both
      obtain ⟨hm, hlinks⟩ := ha.turn_same ht
      obtain ⟨halike, htold, hgiven⟩ := ih hm.alike hrest
      rw [List.filter_cons_of_pos ht]
      refine ⟨halike, ?_, ?_⟩
      · exact congrArg₂ (· ++ ·) hm.told htold
      · exact congrArg₂ (· ++ ·) hlinks hgiven
    | false =>
      -- the turn is left out of the second run, and is of no account in the first
      have hfirst : ∀ connector, t ≠ .act connector (.viewer .clearMessages) :=
        fun connector heq => hviewer connector (heq ▸ List.mem_cons_self)
      obtain ⟨hm, hsilent, hlinks⟩ := ha.turn_other ht hfirst
      obtain ⟨halike, htold, hgiven⟩ := ih hm hrest
      rw [List.filter_cons_of_neg (by simp [ht])]
      refine ⟨halike, ?_, ?_⟩
      · exact (congrArg (· ++ told doc (w.turn t) ts) hsilent).trans htold
      · exact (congrArg (· ++ along (givenUp doc) (w.turn t) ts) hlinks).trans hgiven

section Recorded

variable {κ σ : Type} [Link σ] [Connector κ (Recorded σ)]

/-- The calls that have been sent on each link of a document on a run, the one in use last. -/
def calls (doc : String) (w : Workspace κ (Recorded σ)) (ts : List (Turn κ (Recorded σ))) :
    List (List Call) :=
  (links doc w ts).map (·.calls)

/-- Documents do not interfere. As far as a document goes, every run on which no viewer empties a
message panel comes, at each time, to what the turns that concern the document come to by
themselves: its session, what has been told of it, and the calls that have been sent on its
links. -/
theorem play_isolated (settings : Settings) (connector : κ) (doc : String)
    {ts front : List (Turn κ (Recorded σ))}
    (hviewer : ∀ connector, .act connector (.viewer .clearMessages) ∉ ts) (hfront : front <+: ts) :
    ((empty settings connector).play front).session? doc =
        ((empty settings connector).play (front.filter (·.concerns doc))).session? doc ∧
      told doc (empty settings connector) front =
        told doc (empty settings connector) (front.filter (·.concerns doc)) ∧
      calls doc (empty settings connector) front =
        calls doc (empty settings connector) (front.filter (·.concerns doc)) := by
  have hempty :
      Alike doc (empty settings connector : Workspace κ (Recorded σ)) (empty settings connector) :=
    ⟨rfl, rfl, List.nodup_nil, List.nodup_nil⟩
  obtain ⟨halike, htold, hgiven⟩ := hempty.play fun connector hmem =>
    hviewer connector (hfront.subset hmem)
  refine ⟨halike.session, htold, ?_⟩
  rw [calls, calls, links, links, hgiven, halike.session]

end Recorded

/-! ## Two documents -/

/-- Someone who opens links on which nothing has happened, and keeps a record of them. -/
structure Registrar where

instance : Connector Registrar (Recorded Channel) where
  connect _ registrar := (.ok ⟨Channel.opened, []⟩, registrar)

/-- Two documents are opened, the prover of the first starts, sessions change places and are polled,
and both documents are closed. -/
def bothOpened : List (Turn Registrar (Recorded Channel)) :=
  [.act ⟨⟩ (.editor (.newSession "a.v" "A.")), .act ⟨⟩ (.editor (.newSession "b.v" "B.")),
    .prover "a.v" fun r => { r with link := Session.delivering (Session.replyFrame (.init ⟨1⟩)) },
    .reorder ⟨List.reverse, List.reverse_perm⟩, .act ⟨⟩ (.editor .processFeedbacks),
    .act ⟨⟩ (.editor (.closeSession "b.v")), .act ⟨⟩ (.editor (.closeSession "a.v"))]

/-- What has been sent for the first of two documents is what would have been sent for it alone. -/
theorem isolated_of_bothOpened :
    (∀ connector, .act connector (.viewer .clearMessages) ∉ bothOpened) ∧
    (bothOpened.filter (·.concerns "a.v")).length = 4 ∧
    calls "a.v" (empty .default ⟨⟩) bothOpened = [[.init, .quit]] := by
  have hviewer : ∀ connector, .act connector (.viewer .clearMessages) ∉ bothOpened := by
    simp [bothOpened]
  refine ⟨hviewer, by cbv, ?_⟩
  rw [(play_isolated .default (⟨⟩ : Registrar) "a.v" hviewer (List.prefix_refl bothOpened)).2.2]
  cbv

end Workspace

end ProofDesk
