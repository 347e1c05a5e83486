import ProofDesk.Proofs.Markup.Written
import ProofDesk.Proofs.Prover.Values
import ProofDesk.Prover.Frame

/-!
# Replies and feedback there and back

A type is carried by its element form if every value is decoded from its element, and the element
can be written and read. Being carried goes from the parts to the whole: optional values, lists,
pairs and alternatives of carried values are carried, and so are goals, a status and the replies of
every kind. The outermost element of a reply has a name that tells its kind, whatever is inside, so
no element is a reply of two kinds.
-/

namespace ProofDesk

open Markup Prover

/-! ## Elements that are read as they were written -/

namespace Markup.Element

variable {name : String} {attrs : List (String × String)} {e : Element}

/-- The element can be written, and it is what is read from there. -/
structure Writable (e : Element) : Prop where
  named : e.Named
  normal : e.Normal

/-- An element of names and of parts that can be written can be written. -/
theorem Writable.node {es : List Element} (hname : IsName name) (hattrs : ∀ a ∈ attrs, IsName a.1)
    (hes : ∀ e ∈ es, e.Writable) : (node name attrs es).Writable where
  named := named_node.2 ⟨⟨hname, hattrs⟩, fun e he => (hes e he).named⟩
  normal := normal_node.2 fun e he => (hes e he).normal

/-- An element that holds nothing but text can be written. -/
theorem Writable.ofText (hname : IsName name) (text : String) : (ofText name text).Writable where
  named := (named_ofText text).2 hname
  normal := normal_ofText name text

/-- An element is read from the text that it is written as. -/
private theorem Writable.parse_render (h : e.Writable) : Markup.parse e.render = .ok e := by
  have hbytes : Text.bytes e.render = Text.encode e.write := by
    rw [Text.bytes, render, String.toList_ofList]
  have hread := readFirst_write h.named (Text.begins_encode [])
  rw [← Text.encode_append, List.append_nil, normal_iff.1 h.normal] at hread
  -- the element takes all of the text
  have hrest : Text.onwards e.render.toList (Text.encode e.write).length = [] := by
    have hall := Text.onwards_append_size e.write []
    rw [render, String.toList_ofList, Text.length_encode]
    rwa [List.append_nil] at hall
  unfold Markup.parse
  simp only [hbytes, hread, hrest]
  rfl

end Markup.Element

/-! ## Decoding by position -/

namespace Decode

variable {name key value : String} {attrs : List (String × String)} {es : List Element}

theorem ok_bind {α β : Type} (a : α) (f : α → Decoded β) : (Except.ok a >>= f) = f a := rfl

@[simp] theorem expectTag_node : expectTag name (.node name attrs es) = .ok () := if_pos rfl

@[simp] theorem attr_node : attr (.node name ((key, value) :: attrs) es) key = .ok value := by
  simp [attr, Element.attr?, Element.node]

@[simp] theorem child_node (index : Nat) : child (.node name attrs es) index =
    match es[index]? with
    | some e => .ok e
    | none => .error (.missingChild name index) := by
  rw [child, Element.child?_node]
  rfl

/-- What is decoded in two steps comes out of the first by way of its result. -/
theorem exists_of_bind {α β : Type} {x : Decoded α} {f : α → Decoded β} {b : β}
    (h : (x >>= f) = .ok b) :
    ∃ a, x = .ok a ∧ f a = .ok b := by
  cases x with
  | ok a => exact ⟨a, rfl, h⟩
  | error _ => cases h

/-- What is decoded by way of a function is the function of something decoded. -/
theorem exists_of_map {α β : Type} {x : Decoded α} {f : α → β} {b : β} (h : x.map f = .ok b) :
    ∃ a, x = .ok a ∧ f a = b := by
  cases x with
  | ok a => exact ⟨a, rfl, Except.ok.inj h⟩
  | error _ => cases h

/-- Whatever comes out has the property `P`. -/
def Yields {α : Type} (P : α → Prop) (x : Decoded α) : Prop :=
  ∀ a, x = .ok a → P a

/-- A value that is decoded is as it must be. -/
theorem Yields.ok {α : Type} {P : α → Prop} {a : α} (h : P a) : Yields P (.ok a) := by
  rintro _ ⟨⟩
  exact h

/-- Where nothing is decoded, nothing can be wrong about it. -/
theorem Yields.error {α : Type} {P : α → Prop} (e : DecodeError) :
    Yields P (.error e : Decoded α) := by
  rintro _ ⟨⟩

/-- What comes out of a second step is as it must be, whatever the first gives. -/
theorem Yields.bind {α β : Type} {P : β → Prop} {x : Decoded α} {f : α → Decoded β}
    (h : ∀ a, Yields P (f a)) :
    Yields P (x >>= f) := by
  intro b hb
  obtain ⟨a, -, hb⟩ := exists_of_bind hb
  exact h a b hb

/-- An element that has the name that is expected is of that name. -/
theorem name_of_expectTag {wanted : String} {e : Element} {u : Unit}
    (h : expectTag wanted e = .ok u) :
    e.name = wanted := by
  unfold expectTag at h
  split at h
  · assumption
  · cases h

/-- Only an element with the wanted name is decoded any further. -/
theorem name_of_expectTag_bind {α : Type} {wanted : String} {e : Element}
    {f : Unit → Decoded α} {a : α} (h : (expectTag wanted e >>= f) = .ok a) : e.name = wanted := by
  obtain ⟨_, hname, -⟩ := exists_of_bind h
  exact name_of_expectTag hname

end Decode

/-! ## Values that are carried -/

/-- The names in the elements that replies are made of. -/
theorem isName_words :
    ∀ word ∈ ["val", "start", "stop", "string", "int", "state_id", "unit", "pair", "option", "list",
    "union", "loc", "goal", "goals", "status", "value"], IsName word := by
  decide +kernel

/-- Every value is decoded from its element, which is read as it was written. -/
structure Carries {α : Type} (decode : Element → Decoded α) (encode : α → Element) : Prop where
  decode_encode : ∀ a, decode (encode a) = .ok a
  writable : ∀ a, (encode a).Writable

namespace Carries

variable {α β : Type} {decode : Element → Decoded α} {encode : α → Element}
  {decode' : Element → Decoded β} {encode' : β → Element}

/-- Texts are carried. -/
theorem string : Carries Decode.string stringElement where
  decode_encode := Decode.string_stringElement
  writable s := .ofText (isName_words _ (by simp)) s

/-- A text without markup in it is itself. -/
theorem text : Carries Decode.text stringElement where
  decode_encode s := by
    have hinner : Decode.text (stringElement s) = .ok (stringElement s).innerText := rfl
    rw [hinner, stringElement, Element.innerText_ofText]
  writable := string.writable

/-- Numbers are carried. -/
theorem int : Carries Decode.int intElement where
  decode_encode := Decode.int_intElement
  writable _ := .ofText (isName_words _ (by simp)) _

/-- Identifiers of states are carried. -/
theorem state : Carries Decode.state stateElement where
  decode_encode := Decode.state_stateElement
  writable s :=
      .node (isName_words _ (by simp)) (by simpa using isName_words "val" (by simp)) (by simp)

/-- The empty value is carried. -/
theorem unit : Carries Decode.unit fun _ => unitElement where
  decode_encode _ := rfl
  writable _ := .node (isName_words _ (by simp)) (by simp) (by simp)

theorem location : Carries Decode.location locationElement where
  decode_encode l := by
    have hends (n : UInt64) : Decode.offset (numeral n.toNat) = .ok n := by
      have hlimit : n.toNat ≤ Text.max64 := Nat.le_of_lt_succ n.toNat_lt
      rw [Decode.offset, Decode.natural_numeral _ hlimit, Except.map, UInt64.ofNat_toNat]
    have hparts : Decode.location (locationElement l) = (do
        let start ← Decode.offset (numeral l.start.toNat)
        let stop ← Decode.offset (numeral l.stop.toNat)
        return ⟨start, stop⟩) := rfl
    rw [hparts, hends, hends]
    rfl
  writable l := by
    refine .node (isName_words _ (by simp)) ?_ (by simp)
    simpa using ⟨isName_words "start" (by simp), isName_words "stop" (by simp)⟩

theorem pair (h : Carries decode encode) (h' : Carries decode' encode') :
    Carries (Decode.pair decode decode') fun p => pairElement (encode p.1) (encode' p.2) where
  decode_encode p := by
    rw [Decode.pair_pairElement, h.decode_encode, h'.decode_encode]
    rfl
  writable p := by
    refine .node (isName_words _ (by simp)) (by simp) ?_
    simp [h.writable, h'.writable]

theorem option (h : Carries decode encode) :
    Carries (Decode.option decode) (optionElement encode) where
  decode_encode a? := by
    cases a? with
    | none => rfl
    | some a =>
      have hsome : Decode.option decode (optionElement encode (some a)) =
          (do return some (← decode (encode a))) := rfl
      rw [hsome, h.decode_encode]
      rfl
  writable a? := by
    have hval := isName_words "val" (by simp)
    have hoption := isName_words "option" (by simp)
    cases a? with
    | none => exact .node hoption (by simpa using hval) (by simp)
    | some a => exact .node hoption (by simpa using hval) (by simp [h.writable])

theorem list (h : Carries decode encode) : Carries (Decode.list decode) (listElement encode) where
  decode_encode as := by
    have hitems : Decode.list decode (listElement encode as) =
        (listElement encode as).elements.mapM decode := rfl
    rw [hitems, listElement, Element.elements_node]
    induction as with
    | nil => rfl
    | cons a as ih =>
      rw [List.map_cons, List.mapM_cons, h.decode_encode, ih rfl]
      rfl
  writable as := by
    refine .node (isName_words _ (by simp)) (by simp) ?_
    simp [h.writable]

theorem goal : Carries Decode.goal goalElement where
  decode_encode g := by
    simp only [Decode.goal, goalElement, Decode.expectTag_node, Decode.child_node,
      List.getElem?_cons_zero, List.getElem?_cons_succ, Decode.ok_bind,
      string.decode_encode, text.list.decode_encode, text.decode_encode]
    rfl
  writable g := by
    refine .node (isName_words _ (by simp)) (by simp) ?_
    simp [string.writable, string.list.writable]

theorem goals : Carries Decode.goals goalsElement where
  decode_encode g := by
    have hlevels := (goal.list.pair goal.list).list.decode_encode g.background
    simp only [Decode.goals, goalsElement, Decode.expectTag_node, Decode.child_node,
      List.getElem?_cons_zero, List.getElem?_cons_succ, Decode.ok_bind,
      goal.list.decode_encode, hlevels]
    rfl
  writable g := by
    refine .node (isName_words _ (by simp)) (by simp) ?_
    simp [goal.list.writable, (goal.list.pair goal.list).list.writable]

theorem status : Carries Decode.status statusElement where
  decode_encode s := by
    simp only [Decode.status, statusElement, Decode.expectTag_node, Decode.child_node,
      List.getElem?_cons_zero, List.getElem?_cons_succ, Decode.ok_bind, string.list.decode_encode,
      string.option.decode_encode, int.decode_encode]
    rfl
  writable s := by
    refine .node (isName_words _ (by simp)) (by simp) ?_
    simp [string.list.writable, string.option.writable, int.writable]

end Carries

/-- The element of one of two alternatives. -/
def sumElement {α β : Type} (encode : α → Element) (encode' : β → Element) : α ⊕ β → Element
  | .inl a => leftElement (encode a)
  | .inr b => rightElement (encode' b)

theorem Carries.union {α β : Type} {decode : Element → Decoded α} {encode : α → Element}
    {decode' : Element → Decoded β} {encode' : β → Element} (h : Carries decode encode)
    (h' : Carries decode' encode') :
    Carries (Decode.union decode decode') (sumElement encode encode') where
  decode_encode c := by
    cases c with
    | inl a =>
      have hleft : Decode.union decode decode' (leftElement (encode a)) =
          (do return .inl (← decode (encode a))) := rfl
      rw [sumElement, hleft, h.decode_encode]
      rfl
    | inr b =>
      have hright : Decode.union decode decode' (rightElement (encode' b)) =
          (do return .inr (← decode' (encode' b))) :=
        rfl
      rw [sumElement, hright, h'.decode_encode]
      rfl
  writable c := by
    have hval := isName_words "val" (by simp)
    have hunion := isName_words "union" (by simp)
    cases c with
    | inl a => exact .node hunion (by simpa using hval) (by simp [h.writable])
    | inr b => exact .node hunion (by simpa using hval) (by simp [h'.writable])

/-! ## Replies -/

namespace Reply

/-- What is said of an accepted sentence is carried. -/
theorem carries_add :
    Carries
      (Decode.pair Decode.state (Decode.pair (Decode.union Decode.unit Decode.state) Decode.text))
    fun p => pairElement (stateElement p.1)
      (pairElement (sumElement (fun _ => unitElement) stateElement p.2.1) (stringElement p.2.2)) :=
  .pair .state (.pair (.union .unit .state) .text)

/-- What is said of a rollback is carried. -/
theorem carries_editAt : Carries
    (Decode.union Decode.unit (Decode.pair Decode.state (Decode.pair Decode.state Decode.state)))
    (sumElement (fun _ => unitElement) fun p => pairElement (stateElement p.1)
      (pairElement (stateElement p.2.1) (stateElement p.2.2))) :=
  .union .unit (.pair .state (.pair .state .state))

/-- The replies of every kind are carried. -/
theorem carries (kind : CallKind) : Carries (ofElement kind) toElement where
  decode_encode r := by
    cases r with
    | init state =>
      rw [toElement, ofElement, Carries.state.decode_encode]
      rfl
    | add state closedProof message =>
      cases closedProof with
      | none =>
        -- the alternative is read back first, and the reply is made of what it holds
        have hread := carries_add.decode_encode (state, .inl (), message)
        simp only [sumElement] at hread
        simp only [toElement, ofElement, hread]
        rfl
      | some next =>
        have hread := carries_add.decode_encode (state, .inr next, message)
        simp only [sumElement] at hread
        simp only [toElement, ofElement, hread]
        rfl
    | editAt focus =>
      cases focus with
      | none =>
        have hread := carries_editAt.decode_encode (.inl ())
        simp only [sumElement] at hread
        simp only [toElement, ofElement, hread]
        rfl
      | some focus =>
        have hread := carries_editAt.decode_encode (.inr (focus.proof, focus.qed, focus.previous))
        simp only [sumElement] at hread
        simp only [toElement, ofElement, hread]
        rfl
    | goal answer =>
      rw [toElement, ofElement, Carries.goals.option.decode_encode]
      rfl
    | status answer =>
      rw [toElement, ofElement, Carries.status.decode_encode]
      rfl
    | quit => rfl
  writable r := by
    cases r with
    | init state => exact Carries.state.writable state
    | add state closedProof message =>
      cases closedProof with
      | none => exact carries_add.writable (state, .inl (), message)
      | some next => exact carries_add.writable (state, .inr next, message)
    | editAt focus =>
      cases focus with
      | none => exact carries_editAt.writable (.inl ())
      | some focus => exact carries_editAt.writable (.inr (focus.proof, focus.qed, focus.previous))
    | goal answer => exact Carries.goals.option.writable answer
    | status answer => exact Carries.status.writable answer
    | quit => exact Carries.unit.writable ()

/-- The name of the elements that replies of a kind arrive as. -/
def tag : CallKind → String
  | .init => "state_id"
  | .add => "pair"
  | .editAt => "union"
  | .goal => "option"
  | .status => "status"
  | .quit => "unit"

/-- No two kinds of replies have elements of the same name. -/
theorem tag_injective : Function.Injective tag := by
  intro kind kind' h
  cases kind <;> cases kind' <;> first | rfl | simp [tag] at h

/-- A reply of a kind has the name of that kind on the outside. -/
theorem name_of_ofElement {kind : CallKind} {e : Element} {r : Reply kind}
    (h : ofElement kind e = .ok r) :
    e.name = tag kind := by
  -- each decoder looks at the name first, and that much is enough
  cases kind with
  | init =>
    obtain ⟨state, hstate, -⟩ := Decode.exists_of_map h
    exact Decode.name_of_expectTag_bind hstate
  | add =>
    obtain ⟨p, hpair, -⟩ := Decode.exists_of_bind h
    exact Decode.name_of_expectTag_bind hpair
  | editAt =>
    obtain ⟨c, hunion, -⟩ := Decode.exists_of_bind h
    exact Decode.name_of_expectTag_bind hunion
  | goal =>
    obtain ⟨answer, hoption, -⟩ := Decode.exists_of_map h
    exact Decode.name_of_expectTag_bind hoption
  | status =>
    obtain ⟨status, hstatus, -⟩ := Decode.exists_of_map h
    exact Decode.name_of_expectTag_bind hstatus
  | quit =>
    obtain ⟨_, hunit, -⟩ := Decode.exists_of_map h
    exact Decode.name_of_expectTag hunit

/-- What is decoded from one element is of one kind. -/
private theorem kind_unique {kind kind' : CallKind} {e : Element} {r : Reply kind}
    {r' : Reply kind'}
    (h : ofElement kind e = .ok r) (h' : ofElement kind' e = .ok r') : kind = kind' :=
  tag_injective ((name_of_ofElement h).symm.trans (name_of_ofElement h'))

/-- A reply comes back from the text of a good response. -/
theorem parse_response {kind : CallKind} (r : Reply kind) :
    Frame.parse (Inbound.response (.good r.toElement)).toElement.render =
      .ok (.response (.good r.toElement)) := by
  have hwritable : (Inbound.response (.good r.toElement)).toElement.Writable := by
    refine .node (isName_words _ (by simp)) (by simpa using isName_words "val" (by simp)) ?_
    simpa using (carries kind).writable r
  rw [Frame.parse, hwritable.parse_render]
  rfl

end Reply

/-! ## Feedback -/

namespace FeedbackContent

/-- The words by which the engine knows what feedback says. -/
def words : List String :=
  ["addedaxiom", "processed", "incomplete", "inprogress", "processingin", "errormsg", "message",
    "filedependency", "fileloaded"]

/-- What feedback can say in the protocol: an error always has a place, and only a word that the
engine does not know is an unknown one. -/
def Carried : FeedbackContent → Prop
  | errorMsg location _ => location.isSome
  | unknown name => name ∉ words
  | _ => True

/-- A level is told from its word. -/
theorem ofWord?_word (level : MessageLevel) : MessageLevel.ofWord? level.word = some level := by
  cases level <;> decide

/-- What feedback can say is decoded from its element. -/
theorem Carried.decode_toElement {content : FeedbackContent} (h : content.Carried) :
    Decode.feedbackContent content.toElement = .ok content := by
  unfold Decode.feedbackContent toElement
  cases content with
  | addedAxiom | processed | incomplete => rfl
  | inProgress value => simp [Decode.ok_bind, Carries.int.decode_encode]
  | processingIn worker => simp [Decode.ok_bind, Carries.string.decode_encode]
  | errorMsg location text =>
    obtain ⟨l, rfl⟩ := Option.isSome_iff_exists.1 h
    simp [Decode.ok_bind, Carries.location.decode_encode, Carries.text.decode_encode]
  | message level location text =>
    simp [Decode.ok_bind, Decode.message, ofWord?_word, Carries.location.option.decode_encode,
      Carries.text.decode_encode]
  | fileDependency source dependency =>
    simp [Decode.ok_bind, Carries.string.option.decode_encode, Carries.string.decode_encode]
  | fileLoaded module voFile => simp [Decode.ok_bind, Carries.string.decode_encode]
  | unknown name =>
    simp only [Decode.expectTag_node, Decode.attr_node, Decode.ok_bind]
    split
    case h_10 => rfl
    -- the name is none of the words
    all_goals simp [Carried, words] at h

/-- A message that is decoded is one that the protocol carries. -/
private theorem yields_message (e : Element) : Decode.Yields Carried (Decode.message e) := by
  refine .bind fun _ => .bind fun _ => .bind fun _ => .bind fun word => ?_
  split
  · exact .error _
  · split
    · exact .bind fun _ => .bind fun _ => .ok trivial
    · exact .bind fun _ => .bind fun _ => .bind fun _ => .bind fun _ => .ok trivial

/-- Nothing else is ever decoded. -/
private theorem yields_feedbackContent (e : Element) :
    Decode.Yields Carried (Decode.feedbackContent e) := by
  refine .bind fun _ => .bind fun word => ?_
  split
  case h_1 | h_2 | h_3 => exact .ok trivial
  case h_4 | h_5 => exact .bind fun _ => .bind fun _ => .ok trivial
  case h_6 => exact .bind fun _ => .bind fun _ => .bind fun _ => .bind fun _ => .ok rfl
  case h_7 => exact .bind yields_message
  case h_8 | h_9 => exact .bind fun _ => .bind fun _ => .bind fun _ => .bind fun _ => .ok trivial
  case h_10 =>
    refine .ok ?_
    simp_all [Carried, words]

end FeedbackContent

namespace Feedback

/-- Feedback is decoded from its element exactly if it says something that the protocol carries. -/
theorem ofElement?_toElement {f : Feedback} (h : f.content.Carried) :
    Inbound.ofElement? (Inbound.feedback f).toElement = .ok (some (.feedback f)) := by
  have hparts : Inbound.ofElement? (Inbound.feedback f).toElement = (do
      let state ← Decode.state (stateElement f.state)
      let content ← Decode.feedbackContent f.content.toElement
      return some (.feedback ⟨state, content⟩)) := rfl
  rw [hparts, Carries.state.decode_encode, h.decode_toElement]
  rfl

/-- Feedback that is decoded is feedback that the protocol carries. -/
theorem carried_of_ofElement? {e : Element} {f : Feedback}
    (h : Inbound.ofElement? e = .ok (some (.feedback f))) :
    f.content.Carried := by
  unfold Inbound.ofElement? at h
  split at h
  · obtain ⟨_, -, hf⟩ := Decode.exists_of_map h
    cases hf
  · split at h
    · split at h
      · obtain ⟨_, -, h⟩ := Decode.exists_of_bind h
        obtain ⟨_, -, h⟩ := Decode.exists_of_bind h
        obtain ⟨_, -, h⟩ := Decode.exists_of_bind h
        -- the two children are found and read, the state and then the content
        obtain ⟨content, hcontent, h⟩ := Decode.exists_of_bind h
        cases h
        exact FeedbackContent.yields_feedbackContent _ _ hcontent
      · cases h
    · cases h

end Feedback

/-- A message without a place has a shorter form too. -/
def shortMessage (level : MessageLevel) (text : String) : Element :=
  .node "feedback_content" [("val", "message")]
    [.node "message" [] [.node "message_level" [("val", level.word)] [], stringElement text]]

/-- A message without a place is decoded. -/
private theorem decode_shortMessage (level : MessageLevel) (text : String) :
    Decode.feedbackContent (shortMessage level text) = .ok (.message level none text) := by
  unfold Decode.feedbackContent shortMessage
  simp [Decode.ok_bind, Decode.message, FeedbackContent.ofWord?_word, Carries.text.decode_encode]

/-- Replies and feedback are decoded faithfully. A reply of any kind is decoded from its element,
which is read back from the text of a good response; no element is decoded as replies of two kinds;
and feedback comes back from its element if the protocol carries what it says, which is so for all
feedback that any element is decoded to. -/
theorem replies_faithful :
    (∀ (kind : CallKind) (r : Reply kind), Reply.ofElement kind r.toElement = .ok r ∧
        Frame.parse (Inbound.response (.good r.toElement)).toElement.render =
          .ok (.response (.good r.toElement))) ∧
      (∀ (e : Element) (kind kind' : CallKind) (r : Reply kind) (r' : Reply kind'),
        Reply.ofElement kind e = .ok r → Reply.ofElement kind' e = .ok r' → kind = kind') ∧
      (∀ f : Feedback, f.content.Carried →
        Inbound.ofElement? (Inbound.feedback f).toElement = .ok (some (.feedback f))) ∧
      (∀ (level : MessageLevel) (text : String),
        Decode.feedbackContent (shortMessage level text) = .ok (.message level none text)) ∧
      ∀ (e : Element) (f : Feedback), Inbound.ofElement? e = .ok (some (.feedback f)) →
        f.content.Carried := by
  refine ⟨fun kind r => ⟨(Reply.carries kind).decode_encode r, r.parse_response⟩, ?_, ?_,
    decode_shortMessage, ?_⟩
  · intro e kind kind' r r' h h'
    exact Reply.kind_unique h h'
  · intro f h
    exact Feedback.ofElement?_toElement h
  · intro e f h
    exact Feedback.carried_of_ofElement? h

/-- A goal in focus and one behind it, which says nothing. -/
def twoGoals : Goals :=
  ⟨[⟨"1", ["n : nat"], "n < n + 1"⟩], [([], [⟨"2", [], ""⟩])], [], []⟩

/-- Two goals come back and are no answer to a sentence; so does an error with its place. -/
theorem replies_faithful_of_goals :
    Reply.ofElement .goal (Reply.goal (some twoGoals)).toElement = .ok (.goal (some twoGoals)) ∧
      Frame.parse
        (Inbound.response (.good (Reply.goal (some twoGoals)).toElement)).toElement.render =
        .ok (.response (.good (Reply.goal (some twoGoals)).toElement)) ∧
      (∀ r, Reply.ofElement .add (Reply.goal (some twoGoals)).toElement ≠ .ok r) ∧
      (FeedbackContent.errorMsg (some ⟨0, 3⟩) "x < y").Carried ∧
      Inbound.ofElement? (Inbound.feedback ⟨⟨4⟩, .errorMsg (some ⟨0, 3⟩) "x < y"⟩).toElement =
        .ok (some (.feedback ⟨⟨4⟩, .errorMsg (some ⟨0, 3⟩) "x < y"⟩)) := by
  obtain ⟨hreply, hunique, hfeedback, -, -⟩ := replies_faithful
  obtain ⟨hdecode, hparse⟩ := hreply .goal (.goal (some twoGoals))
  refine ⟨hdecode, hparse, fun r hr => ?_, rfl, hfeedback _ rfl⟩
  have hkind := hunique _ _ _ _ _ hdecode hr
  cases hkind

end ProofDesk
