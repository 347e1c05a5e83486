import ProofDesk.Proofs.Workspace.Play

/-!
# Documents in focus and documents shown

Closing a session takes its document out of focus and off what is shown, and only documents with a
session come into focus or are shown. One command can still leave a document there without a
session: it asks for a new session in place of the one that the document has, and the new one cannot
be opened (`Bereaves`). The old session is gone then, and the document stays in focus and shown. On
every run this is the only way (`play_anchored`).
-/

namespace ProofDesk.Workspace

variable {κ σ : Type} {w w' : Workspace κ σ} {doc named text : String}

/-- A document is in focus or shown, and has no session. -/
def Dangles (w : Workspace κ σ) (doc : String) : Prop :=
  (w.focused = some doc ∨ doc ∈ w.active) ∧ w.session? doc = none

/-- A focus that dangles did so before, unless focus or sessions have changed. -/
theorem Dangles.of_eq (hd : w'.Dangles doc) (hfocused : w'.focused = w.focused)
    (hactive : w'.active = w.active)
    (hnone : w'.session? doc = none → w.session? doc = none) : w.Dangles doc :=
  ⟨by rw [← hfocused, ← hactive]; exact hd.1, hnone hd.2⟩

/-- What is left in place dangles no more than before. -/
theorem Keeps.dangles (h : Keeps w w') (hd : w'.Dangles doc) : w.Dangles doc :=
  hd.of_eq h.focused h.active (h.session?_eq_none_iff doc).1

/-- Viewers are told that nothing is in focus also where the focus dangles. -/
theorem viewerMessage_eq_idle_iff (w : Workspace κ σ) :
    w.viewerMessage = .idle ↔
    w.focused = none ∨ ∃ doc, w.focused = some doc ∧ w.session? doc = none := by
  unfold viewerMessage
  cases hfocused : w.focused with
  | none => simp
  | some doc => cases hs : w.session? doc <;> simp [hs]

/-- What is done besides leaves the focus and what is shown alone. -/
theorem Dangles.of_aside {a : Aside} (hd : (w.aside a).Dangles doc) : w.Dangles doc := by
  cases a with
  | takeEvents | takeRetired => exact hd
  | takeViewerUpdate =>
    simp only [aside, takeViewerUpdate] at hd
    split at hd <;> exact hd
  | elapse milliseconds =>
    refine hd.of_eq rfl rfl fun hnone => ?_
    rw [session?_eq_none_iff] at hnone ⊢
    rwa [aside, elapse, Sessions.docs_map w.sessions fun _ s => s.elapse milliseconds] at hnone

/-- The order of sessions has nothing to do with a focus that dangles. -/
theorem Dangles.of_reorder {r : Reordering σ} (hd : (w.reorder r).Dangles doc) : w.Dangles doc := by
  refine hd.of_eq rfl rfl fun hnone => ?_
  have hdocs : (w.reorder r).sessions.docs.Perm w.sessions.docs := (r.perm w.sessions).map _
  rwa [session?_eq_none_iff, hdocs.mem_iff, ← session?_eq_none_iff] at hnone

/-! ## Events in the editor's windows -/

/-- Only a document with a session comes into focus or is shown. -/
theorem Dangles.of_editorEvent {kind : EditorEvent}
    (hd : (w.editorEvent named kind).2.Dangles doc) :
    w.Dangles doc := by
  obtain ⟨hshown, hnone⟩ := hd
  obtain ⟨focused, active, heq⟩ := exists_editorEvent_eq w named kind
  rw [heq] at hnone
  refine ⟨?_, hnone⟩
  unfold editorEvent at hshown
  split at hshown
  · exact hshown
  · next hsession =>
    -- an event moves the focus only to a document with a session
    have hne : doc ≠ named := by
      rintro rfl
      exact hsession (Option.isNone_iff_eq_none.2 hnone)
    cases kind with
    | focus =>
      rcases hshown with hfocused | hactive
      · exact absurd (Option.some.inj hfocused).symm hne
      · exact .inr ((List.mem_insert_iff.1 hactive).resolve_left hne)
    | unfocus =>
      dsimp only [unfocus] at hshown
      split at hshown
      · exact .inr (hshown.resolve_left (by simp))
      · exact hshown
    | active => exact hshown.imp_right fun hactive =>
      (List.mem_insert_iff.1 hactive).resolve_left hne
    | inactive => exact hshown.imp_right List.mem_of_mem_erase

variable [Link σ]

/-! ## Sessions that are closed and opened -/

/-- Closing a session takes its document out of focus and off what is shown. -/
theorem Dangles.of_closeSession (hnodup : w.active.Nodup)
    (hd : (w.closeSession named).2.Dangles doc) :
    w.Dangles doc := by
  rw [closeSession_eq] at hd
  split at hd
  · exact hd
  · obtain ⟨hshown, hnone⟩ := hd
    -- the closed document is neither in focus nor active any more
    have hfocused : w.focused = some doc ∧ w.focused ≠ some named ∨ doc ∈ w.active.erase named := by
      refine hshown.imp_left fun h => ?_
      dsimp only at h
      split at h
      · cases h
      · next hother => exact ⟨h, hother⟩
    have hne : doc ≠ named := by
      rintro rfl
      exact hfocused.elim (fun h => h.2 h.1) hnodup.not_mem_erase
    exact ⟨hfocused.imp And.left List.mem_of_mem_erase,
      (session?_retire_of_ne w hne).symm.trans hnone⟩

/-- No focus dangles after the end of the service. -/
theorem Dangles.of_shutdown : ¬ w.shutdown.Dangles doc := by
  rintro ⟨hfocused | hactive, -⟩
  · cases hfocused
  · cases hactive

variable [Connector κ σ]

/-- A new session takes the place of the one that a document has, and cannot be opened. -/
def Bereaves (w : Workspace κ σ) (t : Turn κ σ) (doc : String) : Prop :=
  ∃ connector text reason, t = .act connector (.editor (.newSession doc text)) ∧
    (w.session? doc).isSome ∧
    (Connector.connect w.settings connector).1 = .error reason

/-- A document that dangles when a new session has been asked for did so before, or has just lost
its session. -/
theorem Dangles.of_newSession (hd : (w.newSession named text).2.Dangles doc) :
    w.Dangles doc ∨ named = doc ∧ (w.session? doc).isSome ∧
      ∃ reason, (Connector.connect w.settings w.connector).1 = .error reason := by
  have hfocused : (w.retire named).focused = w.focused := by rw [retire_eq]
  have hactive : (w.retire named).active = w.active := by rw [retire_eq]
  have hother (hne : doc ≠ named) (hd : (w.retire named).Dangles doc) : w.Dangles doc :=
    hd.of_eq hfocused hactive fun hnone => (session?_retire_of_ne w hne).symm.trans hnone
  obtain ⟨reason, connector, hopened, heq⟩ | ⟨link, connector, -, heq⟩ :=
    newSession_cases w named text
  · rw [heq] at hd
    -- the old session is gone and there is no new one: only the named document can have lost its
    -- session
    by_cases hne : doc = named
    · subst hne
      cases hs : w.session? doc with
      | none => exact .inl ⟨by rw [← hfocused, ← hactive]; exact hd.1, hs⟩
      | some s => exact .inr ⟨rfl, rfl, reason, congrArg Prod.fst hopened⟩
    · exact .inl (hother hne hd)
  · -- the document that the command names has a session, so it is another one that dangles
    rw [heq] at hd
    obtain ⟨hshown, hnone⟩ := hd
    have hne : doc ≠ named := by
      rintro rfl
      have hput :=
        session?_putSession_self { w.retire doc with connector } doc (.start link text w.settings)
      exact absurd (hput.symm.trans hnone) (by simp)
    have hold :=
      session?_putSession_of_ne { w.retire named with connector } (.start link text w.settings) hne
    refine .inl (hother hne ⟨.inr ?_, hold.symm.trans hnone⟩)
    rcases hshown with h | h
    · exact absurd (Option.some.inj h).symm hne
    · exact (List.mem_insert_iff.1 h).resolve_left hne

/-- A document that dangles after a turn did so before, or has just lost its session. -/
theorem Dangles.of_turn {t : Turn κ σ} (hnodup : w.active.Nodup) (hd : (w.turn t).Dangles doc) :
    w.Dangles doc ∨ w.Bereaves t doc := by
  cases t with
  | aside a => exact .inl hd.of_aside
  | prover named news => exact .inl ((keeps_hear w named news).dangles hd)
  | reorder r => exact .inl hd.of_reorder
  | act connector a =>
    -- whoever opens links has nothing to do with what is in focus
    have hbefore (hd : ({ w with connector } : Workspace κ σ).Dangles doc) : w.Dangles doc := hd
    by_cases hquiet : ∀ c, a = .editor c → c.rearranges = false
    · exact .inl (hbefore ((keeps_carryOut _ hquiet).dangles hd))
    · push Not at hquiet
      obtain ⟨c, rfl, hc⟩ := hquiet
      have hdispatched := (keeps_handle { w with connector } c).dangles hd
      cases c with
      | newSession named text =>
        rcases hdispatched.of_newSession with h | ⟨rfl, hs, reason, hreason⟩
        · exact .inl h
        · exact .inr ⟨connector, text, reason, rfl, hs, hreason⟩
      | closeSession named => exact .inl (hbefore (hdispatched.of_closeSession hnodup))
      | event named kind => exact .inl (hbefore hdispatched.of_editorEvent)
      | shutdown => exact absurd hdispatched Dangles.of_shutdown
      | _ => simp [EditorCommand.rearranges] at hc

/-! ## Runs -/

/-- No document is shown twice. -/
private theorem nodup_active_turn (hnodup : w.active.Nodup) (t : Turn κ σ) :
    (w.turn t).active.Nodup := by
  cases t with
  | aside a =>
    have hsame : (w.aside a).active = w.active := by
      cases a with
      | takeEvents | takeRetired | elapse => rfl
      | takeViewerUpdate =>
        simp only [aside, takeViewerUpdate]
        split <;> rfl
    rwa [turn, hsame]
  | prover named news => exact hnodup
  | reorder r => exact hnodup
  | act connector a =>
    -- a command that rearranges nothing leaves alone which documents are shown
    by_cases hquiet : ∀ c, a = .editor c → c.rearranges = false
    · rwa [turn, (keeps_carryOut _ hquiet).active]
    · push Not at hquiet
      obtain ⟨c, rfl, hc⟩ := hquiet
      rw [turn, carryOut, (keeps_handle _ c).active]
      cases c with
      | newSession named text =>
        have hretired : (({ w with connector } : Workspace κ σ).retire named).active =
            w.active := by rw [retire_eq]
        rw [dispatch]
        obtain ⟨reason, later, -, heq⟩ | ⟨link, later, -, heq⟩ :=
          newSession_cases { w with connector } named text
        · rwa [heq, hretired]
        · rw [heq]
          exact (hretired ▸ hnodup).insert
      | closeSession named =>
        rw [dispatch, closeSession_eq]
        split
        · exact hnodup
        · exact hnodup.erase named
      | event named kind =>
        rw [dispatch, editorEvent.eq_def]
        split
        · exact hnodup
        · cases kind with
          | focus | active => exact hnodup.insert
          | unfocus =>
            dsimp only [unfocus]
            split <;> exact hnodup
          | inactive => exact hnodup.erase named
      | shutdown => exact List.nodup_nil
      | _ => simp [EditorCommand.rearranges] at hc

/-- On every run no document is active twice. -/
theorem nodup_active_play (settings : Settings) (connector : κ) (ts : List (Turn κ σ)) :
    ((empty settings connector).play ts).active.Nodup := by
  induction ts using List.reverseRecOn with
  | nil => exact List.nodup_nil
  | append_singleton ts t ih =>
    rw [play_concat]
    exact nodup_active_turn ih t

/-- A document has lost its session to a new one that could not be opened, and has had none
since. -/
def Bereft (w : Workspace κ σ) (ts : List (Turn κ σ)) (doc : String) : Prop :=
  ∃ (before : List (Turn κ σ)) (t : Turn κ σ) (after : List (Turn κ σ)), ts = before ++ t :: after ∧
    (w.play before).Bereaves t doc ∧ ∀ mid, mid <+: after →
    (w.play (before ++ t :: mid)).session? doc = none

/-- A document that dangles after a run has lost its session to one that could not be opened. -/
theorem Dangles.bereft {settings : Settings} {connector : κ} {ts : List (Turn κ σ)}
    (hd : ((empty settings connector).play ts).Dangles doc) :
    Bereft (empty settings connector) ts doc := by
  induction ts using List.reverseRecOn with
  | nil => exact absurd hd.1 (by simp [play, empty])
  | append_singleton ts t ih =>
    have hnone := hd.2
    rw [play_concat] at hd
    rcases hd.of_turn (nodup_active_play settings connector ts) with hbefore | hlost
    · -- it dangled before, and has had no session since
      obtain ⟨before, t', after, rfl, hlost, hsince⟩ := ih hbefore
      refine ⟨before, t', after ++ [t], by simp, hlost, fun mid hmid => ?_⟩
      rcases List.prefix_concat_iff.1 hmid with rfl | hmid
      · rwa [List.append_assoc] at hnone
      · exact hsince mid hmid
    · refine ⟨ts, t, [], rfl, hlost, fun mid hmid => ?_⟩
      rw [List.prefix_nil.1 hmid]
      exact hnone

/-- On every run each document that is in focus or shown has a session, except where a command has
asked for a new session in place of the one that it had and the new one could not be opened. Viewers
are told that there is nothing to show where no document is in focus, and where the one in focus has
lost its session in that way. -/
theorem play_anchored (settings : Settings) (connector : κ) (ts : List (Turn κ σ)) :
    (∀ doc, ((empty settings connector).play ts).focused = some doc ∨
        doc ∈ ((empty settings connector).play ts).active →
      (((empty settings connector).play ts).session? doc).isSome ∨
      Bereft (empty settings connector) ts doc) ∧
    (((empty settings connector).play ts).viewerMessage = .idle ↔
      ((empty settings connector).play ts).focused = none ∨
        ∃ doc, ((empty settings connector).play ts).focused = some doc ∧
          ((empty settings connector).play ts).session? doc = none ∧
          Bereft (empty settings connector) ts doc) := by
  refine ⟨fun doc hshown => ?_, (viewerMessage_eq_idle_iff _).trans (or_congr_right ?_)⟩
  · cases hs : ((empty settings connector).play ts).session? doc with
    | some s => exact .inl rfl
    | none => exact .inr (Dangles.bereft ⟨hshown, hs⟩)
  · refine exists_congr fun doc =>
      ⟨fun h => ⟨h.1, h.2, Dangles.bereft ⟨.inl h.1, h.2⟩⟩, fun h => ⟨h.1, h.2.1⟩⟩

/-! ## A session that cannot be replaced -/

/-- Whether links can be opened. -/
inductive Gate where
  | open
  | shut

instance : Connector Gate Channel where
  connect _
    | .open => (.ok Channel.opened, .open)
    | .shut => (.error "connection refused", .shut)

/-- A document is opened, and once more when no link can be opened. -/
def reopening : List (Turn Gate Channel) :=
  [.act .open (.editor (.newSession "a.v" "A.")), .act .shut (.editor (.newSession "a.v" "A."))]

/-- A document whose session could not be replaced is still in focus and shown, and viewers are told
that there is nothing to show. -/
theorem dangles_reopening : ((empty .default .open).play reopening).focused = some "a.v" ∧
    ((empty .default .open).play reopening).active = ["a.v"] ∧
    ((empty .default .open).play reopening).session? "a.v" = none ∧
    ((empty .default .open).play reopening).viewerMessage = .idle := by
  refine ⟨?_, ?_, ?_, ?_⟩ <;> cbv

end ProofDesk.Workspace
