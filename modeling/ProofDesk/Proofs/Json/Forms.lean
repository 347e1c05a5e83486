import Mathlib.Data.List.Basic
import Mathlib.Tactic.Common
import ProofDesk.Editor.Command
import ProofDesk.Editor.Event
import ProofDesk.Proofs.Json.RoundTrip
import ProofDesk.Viewer.Message

/-!
# Forms there and back

The form of a value is plain JSON from which the value is read back (`FormOf`). A record is found
again since its fields have names of their own (`record?_fields`), a choice since no field is named
like the tag (`tagged?_fields`), and a word since no two values have the same one (`LawfulWorded`).
Records and choices are put together from that, each out of its parts.
-/

namespace ProofDesk

/-- A type whose words tell its values apart. -/
class LawfulWorded (α : Type) [Worded α] : Prop where
  findWord?_word (a : α) : Json.findWord? (Worded.word a) = some a

namespace Json

/-- The JSON value `v` is a form of `a`: it is plain, nested at most `depth` deep, and `read?` gives
`a` back. -/
structure FormOf {α : Type} (depth : Nat) (read? : Json → Option α) (v : Json) (a : α) : Prop where
  plain : Plain depth v
  read : read? v = some a

/-! ## Parts -/

section Parts

variable {α β γ : Type} {depth : Nat}

attribute [simp] Plain.null Plain.bool Plain.str

@[simp]
theorem str?_str (s : String) : (Json.str s).str? = some s :=
  rfl

@[simp]
theorem bool?_bool (b : Bool) : (Json.bool b).bool? = some b :=
  rfl

/-- A word is plain JSON. -/
@[simp]
theorem plain_ofWord [Worded α] (a : α) : Plain depth (ofWord a) :=
  .str depth _

/-- A word that no two values share is read back as the value it stands for. -/
@[simp]
theorem word?_ofWord [Worded α] [LawfulWorded α] (a : α) : (ofWord a).word? = some a :=
  LawfulWorded.findWord?_word a

/-- A number of 64 bits has a form. -/
theorem formOf_nat {n : Nat} (hn : n ≤ Text.max64) : FormOf depth (nat? Text.max64) (.nat n) n :=
  ⟨.nat depth hn, if_pos hn⟩

/-- A number of 32 bits has a form. -/
theorem formOf_word32 (n : UInt32) : FormOf depth word32? (.nat n.toNat) n := by
  have hn : n.toNat ≤ Text.max32 := Nat.le_of_lt_succ n.toNat_lt
  refine ⟨.nat depth (Nat.le_trans hn (by decide)), ?_⟩
  rw [word32?, nat?, if_pos hn, Option.map_some, UInt32.ofNat_toNat]

/-- Reading all items back gives the list of what they were made of. -/
theorem mapM_map {as : List α} {f : α → β} {read? : β → Option γ} {g : α → γ}
    (h : ∀ a ∈ as, read? (f a) = some (g a)) :
    (as.map f).mapM read? = some (as.map g) := by
  induction as with
  | nil => rfl
  | cons a as ih =>
    rw [List.forall_mem_cons] at h
    rw [List.map_cons, List.mapM_cons, h.1, ih h.2]
    rfl

/-- A list has a form if its items do. -/
theorem formOf_list {as : List α} {f : α → Json} {read? : Json → Option α}
    (h : ∀ a ∈ as, FormOf depth read? (f a) a) :
    FormOf (depth + 1) (list? read?) (.arr (as.map f)) as := by
  refine ⟨.arr fun v hv => ?_, ?_⟩
  · obtain ⟨a, ha, rfl⟩ := List.mem_map.1 hv
    exact (h a ha).plain
  · have hmap := mapM_map (g := id) fun a ha => (h a ha).read
    rwa [List.map_id] at hmap

/-- A value that may be missing is told from null. -/
theorem formOf_optional {a : Option α} {f : α → Json} {read? : Json → Option α}
    (h : ∀ b ∈ a, FormOf depth read? (f b) b ∧ f b ≠ .null) :
    FormOf depth (optional? read?) ((a.map f).getD .null) a := by
  cases a with
  | none => exact ⟨.null depth, rfl⟩
  | some b =>
    obtain ⟨hform, hnull⟩ := h b rfl
    refine ⟨hform.plain, ?_⟩
    -- a form that is null would be read as nothing
    rw [Option.map_some, Option.getD_some, optional?]
    · rw [hform.read, Option.map_some]
    · exact hnull

end Parts

/-! ## Records and choices -/

section Fields

variable {fields : List (String × Json)} {optional : List String}

/-- Among fields with names of their own, the only one with a name is found. -/
private theorem filter_fst_eq (h : (fields.map (·.1)).Nodup) {field : String × Json}
    (hfield : field ∈ fields) :
    fields.filter (·.1 == field.1) = [field] := by
  induction fields with
  | nil => simp at hfield
  | cons f fields ih =>
    rw [List.map_cons, List.nodup_cons] at h
    rcases List.mem_cons.1 hfield with rfl | hrest
    · -- no other field has the name
      have hnone : fields.filter (·.1 == field.1) = [] := by
        rw [List.filter_eq_nil_iff]
        rintro g hg hname
        exact h.1 (List.mem_map.2 ⟨g, hg, by simpa using hname⟩)
      rw [List.filter_cons_of_pos (by simp), hnone]
    · have hne : f.1 ≠ field.1 := fun heq => h.1 (List.mem_map.2 ⟨field, hrest, heq.symm⟩)
      rw [List.filter_cons_of_neg (by simpa using hne), ih h.2 hrest]

/-- The fields of a record are read back in their order. -/
theorem record?_fields {names : List String} (hnames : fields.map (·.1) = names) (h : names.Nodup) :
    (Json.obj fields).record? names optional = some (fields.map (·.2)) := by
  subst hnames
  refine mapM_map fun field hfield => ?_
  have hfound := filter_fst_eq h hfield
  split
  · rw [memberOrNull?, hfound]
  · rw [member?, hfound]

/-- A tag is taken off again if no field is named like it. -/
theorem tagged?_fields {tag : String} (name : String) (h : ∀ f ∈ fields, f.1 ≠ tag) :
    (Json.obj ((tag, .str name) :: fields)).tagged? tag = some (name, .obj fields) := by
  have hnone : fields.filter (·.1 == tag) = [] := by
    rw [List.filter_eq_nil_iff]
    simpa using h
  have hrest : fields.filter (·.1 != tag) = fields := by
    rw [List.filter_eq_self]
    simpa using h
  rw [tagged?, member?, List.filter_cons_of_pos (by simp), hnone,
    List.filter_cons_of_neg (by simp), hrest]
  rfl

/-- An alternative is a form of what its fields are a form of, if its tag leads to them. -/
theorem FormOf.tagged {α : Type} {depth : Nat} {read? whole? : Json → Option α} {a : α}
    (h : FormOf (depth + 1) read? (.obj fields) a) {tag name : String}
    (hread : whole? (.obj ((tag, .str name) :: fields)) = read? (.obj fields)) :
    FormOf (depth + 1) whole? (.obj ((tag, .str name) :: fields)) a := by
  refine ⟨?_, hread.trans h.read⟩
  cases h.plain with
  | obj hplain => exact .obj (List.forall_mem_cons.2 ⟨.str depth name, hplain⟩)

/-- An alternative without fields. -/
theorem formOf_noFields {α : Type} {depth : Nat} (a : α) :
    FormOf (depth + 1) (fun v => v.noFields?.map fun _ => a) (.obj []) a :=
  ⟨.obj (by simp), rfl⟩

end Fields

end Json

open Json

/-! ## Words -/

instance : LawfulWorded MessageLevel where
  findWord?_word a := by cases a <;> rfl

instance : LawfulWorded SessionStatus where
  findWord?_word a := by cases a <;> rfl

instance : LawfulWorded NotificationKind where
  findWord?_word a := by cases a <;> rfl

instance : LawfulWorded HighlightClass where
  findWord?_word a := by cases a <;> rfl

instance : LawfulWorded VisibilityMode where
  findWord?_word a := by cases a <;> rfl

instance : LawfulWorded EditorEvent where
  findWord?_word a := by cases a <;> rfl

/-! ## What sessions show -/

variable {depth : Nat}

theorem Position.formOf (p : Position) : FormOf (depth + 1) Position.ofJson? p.toJson p := by
  have hline : FormOf depth word32? (.nat p.line.toNat) p.line := formOf_word32 _
  have hcharacter : FormOf depth word32? (.nat p.character.toNat) p.character := formOf_word32 _
  have hfields : p.toJson.record? ["line", "character"] [] =
      some [.nat p.line.toNat, .nat p.character.toNat] :=
    record?_fields rfl (by decide)
  refine ⟨.obj ?_, ?_⟩
  · simp [hline.plain, hcharacter.plain]
  · simp [Position.ofJson?, hfields, hline.read, hcharacter.read]

/-- The bounds of a byte range fit into 64 bits, as the offsets of a text do. -/
def Span.Fits (s : Span) : Prop :=
  s.start ≤ Text.max64 ∧ s.stop ≤ Text.max64

/-- A span has a form if its ends fit into 64 bits. -/
theorem Span.formOf {s : Span} (hs : s.Fits) : FormOf (depth + 1) Span.ofJson? s.toJson s := by
  have hstart : FormOf depth (nat? Text.max64) (.nat s.start) s.start := formOf_nat hs.1
  have hstop : FormOf depth (nat? Text.max64) (.nat s.stop) s.stop := formOf_nat hs.2
  have hfields : s.toJson.record? ["start", "end"] [] = some [.nat s.start, .nat s.stop] :=
    record?_fields rfl (by decide)
  -- there are no fields but these
  have hstrict : s.toJson.strictRecord? ["start", "end"] = some [.nat s.start, .nat s.stop] := by
    rw [← hfields]
    rfl
  refine ⟨.obj ?_, ?_⟩
  · simp [hstart.plain, hstop.plain]
  · simp [Span.ofJson?, hstrict, hstart.read, hstop.read]

/-- A highlight has a form if its range does. -/
theorem Highlight.formOf {h : Highlight} (hh : h.range.Fits) :
    FormOf (depth + 2) Highlight.ofJson? h.toJson h := by
  have hrange : FormOf (depth + 1) Span.ofJson? h.range.toJson h.range := Span.formOf hh
  have hstart : FormOf (depth + 1) Position.ofJson? h.start.toJson h.start := Position.formOf _
  have hstop : FormOf (depth + 1) Position.ofJson? h.stop.toJson h.stop := Position.formOf _
  have hfields : h.toJson.record? ["range", "start", "end", "class"] [] =
      some [h.range.toJson, h.start.toJson, h.stop.toJson, .ofWord h.cls] :=
    record?_fields rfl (by decide)
  refine ⟨.obj ?_, ?_⟩
  · simp [hrange.plain, hstart.plain, hstop.plain]
  · simp [Highlight.ofJson?, hfields, hrange.read, hstart.read, hstop.read]

theorem MessageEntry.formOf (m : MessageEntry) :
    FormOf (depth + 1) MessageEntry.ofJson? m.toJson m := by
  have hfields : m.toJson.record? ["level", "text"] [] = some [.ofWord m.level, .str m.text] :=
    record?_fields rfl (by decide)
  refine ⟨.obj ?_, ?_⟩
  · simp
  · simp [MessageEntry.ofJson?, hfields]

theorem ParseProblem.formOf (p : ParseProblem) :
    FormOf (depth + 2) ParseProblem.ofJson? p.toJson p := by
  have hposition : FormOf (depth + 1) Position.ofJson? p.position.toJson p.position :=
    Position.formOf _
  have hfields : p.toJson.record? ["position", "message"] [] =
      some [p.position.toJson, .str p.message] :=
    record?_fields rfl (by decide)
  refine ⟨.obj ?_, ?_⟩
  · simp [hposition.plain]
  · simp [ParseProblem.ofJson?, hfields, hposition.read]

/-- The ranges of all highlights fit. -/
def Snapshot.Fits (s : Snapshot) : Prop :=
  ∀ h ∈ s.highlights, h.range.Fits

/-- A snapshot has a form if its highlights do. -/
theorem Snapshot.formOf {s : Snapshot} (hs : s.Fits) :
    FormOf (depth + 4) Snapshot.ofJson? s.toJson s := by
  have hhighlights : FormOf (depth + 3) (list? Highlight.ofJson?)
      (.arr (s.highlights.map (·.toJson))) s.highlights :=
    formOf_list fun h hh => Highlight.formOf (hs h hh)
  have hlockedEnd : FormOf (depth + 3) Position.ofJson? s.lockedEnd.toJson s.lockedEnd :=
    Position.formOf _
  have hmessages : FormOf (depth + 3) (list? MessageEntry.ofJson?)
      (.arr (s.messages.map (·.toJson))) s.messages :=
    formOf_list fun m _ => MessageEntry.formOf m
  have hparseError :
      FormOf (depth + 3) (optional? ParseProblem.ofJson?) ((s.parseError.map (·.toJson)).getD .null)
      s.parseError :=
    -- a problem is an object, so it is told from null
    formOf_optional fun p _ => ⟨ParseProblem.formOf p, by simp [ParseProblem.toJson]⟩
  have hfields :
      s.toJson.record?
        ["status", "busy", "highlights", "locked_end", "goals", "messages", "parse_error"]
        ["parse_error"] =
      some [.ofWord s.status, .bool s.busy, .arr (s.highlights.map (·.toJson)),
        s.lockedEnd.toJson, .str s.goals, .arr (s.messages.map (·.toJson)),
        (s.parseError.map (·.toJson)).getD .null] :=
    record?_fields rfl (by decide)
  refine ⟨.obj ?_, ?_⟩
  · simp [hhighlights.plain, hlockedEnd.plain, hmessages.plain, hparseError.plain]
  · simp [Snapshot.ofJson?, hfields, hhighlights.read, hlockedEnd.read, hmessages.read,
      hparseError.read]

/-! ## What the line protocols exchange -/

theorem ViewerState.formOf (s : ViewerState) :
    FormOf (depth + 3) ViewerState.ofJson? (.obj s.fields) s := by
  have hmessages : FormOf (depth + 2) (list? MessageEntry.ofJson?)
      (.arr (s.messages.map (·.toJson))) s.messages :=
    formOf_list fun m _ => MessageEntry.formOf m
  have hfields : (Json.obj s.fields).record?
      ["doc", "status", "busy", "goals", "messages", "show_goals", "show_messages"] [] =
      some [.str s.doc, .ofWord s.status, .bool s.busy, .str s.goals,
        .arr (s.messages.map (·.toJson)), .bool s.showGoals,
        .bool s.showMessages] := record?_fields rfl (by decide)
  refine ⟨.obj ?_, ?_⟩
  · simp [ViewerState.fields, hmessages.plain]
  · simp [ViewerState.ofJson?, hfields, hmessages.read]

namespace EditorCommand

/-- A command that names a document and nothing else has a form. -/
theorem formOf_doc (make : String → EditorCommand) (doc : String) :
    FormOf (depth + 1) (ofDoc? make) (.obj [("doc", .str doc)]) (make doc) := by
  have hfields : (Json.obj [("doc", .str doc)]).record? ["doc"] [] = some [.str doc] :=
    record?_fields rfl (by decide)
  exact ⟨.obj (by simp), by simp [ofDoc?, hfields]⟩

/-- A command that names a document and brings a text has a form. -/
theorem formOf_docText (make : String → String → EditorCommand) (doc text : String) :
    FormOf (depth + 1) (ofDocText? make) (.obj [("doc", .str doc), ("text", .str text)])
      (make doc text) := by
  have hfields : (Json.obj [("doc", .str doc), ("text", .str text)]).record? ["doc", "text"] [] =
      some [.str doc, .str text] := record?_fields rfl (by decide)
  exact ⟨.obj (by simp), by simp [ofDocText?, hfields]⟩

/-- A command that brings a mode has a form. -/
theorem formOf_mode (make : VisibilityMode → EditorCommand) (mode : VisibilityMode) :
    FormOf (depth + 1) (ofMode? make) (.obj [("mode", .ofWord mode)]) (make mode) := by
  have hfields : (Json.obj [("mode", .ofWord mode)]).record? ["mode"] [] = some [.ofWord mode] :=
    record?_fields rfl (by decide)
  exact ⟨.obj (by simp), by simp [ofMode?, hfields]⟩

/-- Commands are told apart by their tags, and none has a field that is named like the tag. -/
theorem formOf (c : EditorCommand) : FormOf (depth + 3) EditorCommand.ofJson? c.toJson c := by
  cases c with
  | newSession doc text =>
    exact (formOf_docText newSession doc text).tagged (by simp [ofJson?, tagged?_fields])
  | closeSession doc =>
    exact (formOf_doc closeSession doc).tagged (by simp [ofJson?, tagged?_fields])
  | forward doc => exact (formOf_doc forward doc).tagged (by simp [ofJson?, tagged?_fields])
  | backward doc => exact (formOf_doc backward doc).tagged (by simp [ofJson?, tagged?_fields])
  | toCursor doc position =>
    have hposition : FormOf (depth + 2) Position.ofJson? position.toJson position := position.formOf
    have hfields : (Json.obj [("doc", .str doc), ("position", position.toJson)]).record?
        ["doc", "position"] [] =
        some [.str doc, position.toJson] := record?_fields rfl (by decide)
    refine ⟨.obj ?_, ?_⟩
    · simp [hposition.plain]
    · simp [toJson, form, ofJson?, tagged?_fields, hfields, hposition.read]
  | edit doc start stop text =>
    have hstart : FormOf (depth + 1) Position.ofJson? start.toJson start := start.formOf
    have hstop : FormOf (depth + 1) Position.ofJson? stop.toJson stop := stop.formOf
    -- the range is a record of its own
    have hbounds :
        (Json.obj [("start", start.toJson), ("end", stop.toJson)]).record? ["start", "end"] [] =
        some [start.toJson, stop.toJson] := record?_fields rfl (by decide)
    have hrange : Plain (depth + 2) (.obj [("start", start.toJson), ("end", stop.toJson)]) :=
      .obj (by simp [hstart.plain, hstop.plain])
    have hfields :
        (Json.obj [("doc", .str doc),
          ("range", .obj [("start", start.toJson), ("end", stop.toJson)]),
        ("text", .str text)]).record? ["doc", "range", "text"] [] =
        some [.str doc, .obj [("start", start.toJson), ("end", stop.toJson)], .str text] :=
      record?_fields rfl (by decide)
    refine ⟨.obj ?_, ?_⟩
    · simp [hrange]
    · simp [toJson, form, ofJson?, tagged?_fields, hfields, hbounds, hstart.read, hstop.read]
  | setText doc text =>
    exact (formOf_docText setText doc text).tagged (by simp [ofJson?, tagged?_fields])
  | event doc kind =>
    have hfields :
        (Json.obj [("doc", .str doc), ("kind", .ofWord kind)]).record? ["doc", "kind"] [] =
        some [.str doc, .ofWord kind] := record?_fields rfl (by decide)
    refine ⟨.obj ?_, ?_⟩
    · simp
    · simp [toJson, form, ofJson?, tagged?_fields, hfields]
  | goalVisibility mode =>
    exact (formOf_mode goalVisibility mode).tagged (by simp [ofJson?, tagged?_fields])
  | messageVisibility mode =>
    exact (formOf_mode messageVisibility mode).tagged (by simp [ofJson?, tagged?_fields])
  | clearMessages doc =>
    exact (formOf_doc clearMessages doc).tagged (by simp [ofJson?, tagged?_fields])
  | redrawGoals => exact (formOf_noFields redrawGoals).tagged (by simp [ofJson?, tagged?_fields])
  | redrawMessages =>
    exact (formOf_noFields redrawMessages).tagged (by simp [ofJson?, tagged?_fields])
  | processFeedbacks =>
    exact (formOf_noFields processFeedbacks).tagged (by simp [ofJson?, tagged?_fields])
  | shutdown => exact (formOf_noFields shutdown).tagged (by simp [ofJson?, tagged?_fields])

end EditorCommand

namespace EngineEvent

/-- The ranges that an event shows fit. -/
def Fits : EngineEvent → Prop
  | snapshot _ shown => shown.Fits
  | _ => True

/-- Every command of a viewer has a form. -/
theorem formOf {e : EngineEvent} (he : e.Fits) :
    FormOf (depth + 5) EngineEvent.ofJson? e.toJson e := by
  cases e with
  | snapshot doc shown =>
    have hshown : FormOf (depth + 4) Snapshot.ofJson? shown.toJson shown := Snapshot.formOf he
    have hfields :
        (Json.obj [("doc", .str doc), ("snapshot", shown.toJson)]).record? ["doc", "snapshot"] [] =
        some [.str doc, shown.toJson] := record?_fields rfl (by decide)
    refine ⟨.obj ?_, ?_⟩
    · simp [hshown.plain]
    · simp [toJson, form, ofJson?, tagged?_fields, hfields, hshown.read]
  | goals doc text =>
    have hfields : (Json.obj [("doc", .str doc), ("text", .str text)]).record? ["doc", "text"] [] =
        some [.str doc, .str text] := record?_fields rfl (by decide)
    refine ⟨.obj ?_, ?_⟩
    · simp
    · simp [toJson, form, ofJson?, tagged?_fields, hfields]
  | messages doc entries =>
    have hentries :
        FormOf (depth + 4) (list? MessageEntry.ofJson?) (.arr (entries.map (·.toJson))) entries :=
      formOf_list fun m _ => m.formOf
    have hfields :
        (Json.obj [("doc", .str doc), ("entries", .arr (entries.map (·.toJson)))]).record?
        ["doc", "entries"] [] = some [.str doc, .arr (entries.map (·.toJson))] :=
      record?_fields rfl (by decide)
    refine ⟨.obj ?_, ?_⟩
    · simp [hentries.plain]
    · simp [toJson, form, ofJson?, tagged?_fields, hfields, hentries.read]
  | visibility showGoals showMessages =>
    have hfields :
        (Json.obj [("show_goals", .bool showGoals), ("show_messages", .bool showMessages)]).record?
        ["show_goals", "show_messages"] [] = some [.bool showGoals, .bool showMessages] :=
      record?_fields rfl (by decide)
    refine ⟨.obj ?_, ?_⟩
    · simp
    · simp [toJson, form, ofJson?, tagged?_fields, hfields]
  | notification doc kind message =>
    have hfields :
        (Json.obj [("doc", .str doc), ("kind", .ofWord kind), ("message", .str message)]).record?
        ["doc", "kind", "message"] [] = some [.str doc, .ofWord kind, .str message] :=
      record?_fields rfl (by decide)
    refine ⟨.obj ?_, ?_⟩
    · simp
    · simp [toJson, form, ofJson?, tagged?_fields, hfields]
  | error message =>
    have hfields : (Json.obj [("message", .str message)]).record? ["message"] [] =
        some [.str message] :=
      record?_fields rfl (by decide)
    refine ⟨.obj ?_, ?_⟩
    · simp
    · simp [toJson, form, ofJson?, tagged?_fields, hfields]

end EngineEvent

namespace ViewerMessage

/-- The fields of a state stand beside the tag. -/
theorem formOf (m : ViewerMessage) : FormOf (depth + 3) ViewerMessage.ofJson? m.toJson m := by
  cases m with
  | connected => exact (formOf_noFields connected).tagged (by simp [ofJson?, tagged?_fields])
  | state s =>
    have hs : FormOf (depth + 3) ViewerState.ofJson? (.obj s.fields) s := s.formOf
    have hstate :
        FormOf (depth + 3) (fun v => (ViewerState.ofJson? v).map state) (.obj s.fields) (state s) :=
      ⟨hs.plain, by rw [hs.read, Option.map_some]⟩
    -- no field of a state is named like the tag
    have htag : ∀ f ∈ s.fields, f.1 ≠ "type" := by simp [ViewerState.fields]
    exact hstate.tagged (by simp [ofJson?, tagged?_fields _ htag])
  | idle => exact (formOf_noFields idle).tagged (by simp [ofJson?, tagged?_fields])
  | error text =>
    have hfields : (Json.obj [("error", .str text)]).record? ["error"] [] = some [.str text] :=
      record?_fields rfl (by decide)
    refine ⟨.obj ?_, ?_⟩
    · simp
    · simp [toJson, viewerForm, ofJson?, tagged?_fields, hfields]

end ViewerMessage

namespace ViewerCommand

theorem formOf (c : ViewerCommand) : FormOf (depth + 1) ViewerCommand.ofJson? c.toJson c := by
  have hfields (mode : VisibilityMode) : (Json.obj [("mode", .ofWord mode)]).record? ["mode"] [] =
      some [.ofWord mode] := record?_fields rfl (by decide)
  cases c with
  | goalVisibility mode | messageVisibility mode =>
    refine ⟨.obj ?_, ?_⟩
    · simp
    · simp [toJson, viewerForm, ofJson?, tagged?_fields, hfields]
  | clearMessages =>
    exact (formOf_noFields clearMessages).tagged (by simp [ofJson?, tagged?_fields])

end ViewerCommand

end ProofDesk
