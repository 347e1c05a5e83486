import Mathlib.Data.List.Chain
import Mathlib.Tactic.Common
import ProofDesk.Markup.Reader

/-!
# Names and normal content

An element that can be written has names in it where names are read: its own, the keys of its
attributes, and those of all elements inside (`Element.Named`). Text leaves no trace where it is
empty, and none of where it was cut in two, so content is put into a normal form: no text is empty
and no two texts stand side by side, throughout the tree (`Element.Normal`). `Element.normalize`
drops the empty texts and merges the adjacent ones. It leaves exactly the normal elements alone.
-/

namespace ProofDesk.Markup

/-- One or more characters that may stand in a name. -/
def IsName (s : String) : Prop :=
  s ≠ "" ∧ ∀ c ∈ s.toList, isNameChar c = true

instance (s : String) : Decidable (IsName s) :=
  decidable_of_iff (s ≠ "" ∧ s.toList.all isNameChar = true) (by simp [IsName])

mutual

/-- A piece of content and all pieces of content inside it have the property `P`. -/
def Node.Throughout (P : Node → Prop) : Node → Prop
  | .text s => P (.text s)
  | .element name attrs children => P (.element name attrs children) ∧ AllThroughout P children

/-- All pieces in a list of content, and all inside them, have the property `P`. -/
def AllThroughout (P : Node → Prop) : List Node → Prop
  | [] => True
  | n :: ns => n.Throughout P ∧ AllThroughout P ns

end

section Throughout

variable {P : Node → Prop} {n : Node} {ns ms : List Node}

/-- A property holds throughout a list of nodes if it holds throughout each of them. -/
theorem allThroughout_iff : AllThroughout P ns ↔ ∀ n ∈ ns, n.Throughout P := by
  induction ns with
  | nil => simp [AllThroughout]
  | cons n ns ih => simp [AllThroughout, ih]

/-- The order of nodes does not matter for what holds throughout them. -/
theorem AllThroughout.reverse (h : AllThroughout P ns) : AllThroughout P ns.reverse :=
  allThroughout_iff.2 fun n hn => allThroughout_iff.1 h n (List.mem_reverse.1 hn)

end Throughout

/-! ## Names -/

/-- The name of an element and the keys of its attributes are names. -/
def Node.HasNames : Node → Prop
  | .text _ => True
  | .element name attrs _ => IsName name ∧ ∀ a ∈ attrs, IsName a.1

/-- Names stand where names are read, throughout the element. -/
def Element.Named (e : Element) : Prop :=
  e.toNode.Throughout Node.HasNames

/-- The names of an element are its own, those of its attributes and those of its parts. -/
theorem Element.named_node {name : String} {attrs : List (String × String)} {es : List Element} :
    (node name attrs es).Named ↔ (IsName name ∧ ∀ a ∈ attrs, IsName a.1) ∧ ∀ e ∈ es, e.Named := by
  simp [Named, node, toNode, Node.Throughout, Node.HasNames, allThroughout_iff]

/-- The only name of an element that holds nothing but text is its own. -/
theorem Element.named_ofText {name : String} (text : String) :
    (ofText name text).Named ↔ IsName name := by
  unfold Named ofText
  split <;> simp [toNode, Node.Throughout, Node.HasNames, AllThroughout]

/-! ## Normal content -/

/-- Whether a piece of content is text. -/
def Node.isText : Node → Bool
  | .text _ => true
  | .element .. => false

/-- No two texts stand side by side. -/
def Apart (ns : List Node) : Prop :=
  ns.IsChain fun a b => ¬ (a.isText = true ∧ b.isText = true)

/-- A text that is not empty, or an element in whose content no two texts stand side by side. -/
def Node.IsTidy : Node → Prop
  | .text s => s ≠ ""
  | .element _ _ children => Apart children

/-- Content in which no text is empty and no two texts stand side by side, throughout. -/
def Tidy (ns : List Node) : Prop :=
  Apart ns ∧ AllThroughout Node.IsTidy ns

/-- The content of the element is tidy. -/
def Element.Normal (e : Element) : Prop :=
  Tidy e.children

/-- A piece of content in front of normal content: text is dropped if it is empty, and becomes one
with text that follows it. -/
def consNode : Node → List Node → List Node
  | .text s, .text s' :: ns => .text (s ++ s') :: ns
  | .text s, ns => if s = "" then ns else .text s :: ns
  | n, ns => n :: ns

mutual

/-- The normal form of a piece of content. -/
def Node.normalize : Node → Node
  | .text s => .text s
  | .element name attrs children => .element name attrs (normalizeNodes children)

/-- The normal form of a list of content. -/
def normalizeNodes : List Node → List Node
  | [] => []
  | n :: ns => consNode n.normalize (normalizeNodes ns)

end

/-- The normal form of an element. -/
def Element.normalize (e : Element) : Element :=
  { e with children := normalizeNodes e.children }

section Normal

variable {name s s' : String} {attrs : List (String × String)} {n : Node} {children ns : List Node}

@[simp] theorem consNode_empty : consNode (.text "") ns = ns := by
  rcases ns with _ | ⟨_ | _, ns⟩ <;> simp [consNode]

@[simp] theorem consNode_element :
    consNode (.element name attrs children) ns = .element name attrs children :: ns := by
  simp [consNode]

/-- Text does not merge with an element. -/
theorem consNode_text_element : consNode (.text s) (.element name attrs children :: ns) =
    consNode (.text s) [] ++ .element name attrs children :: ns := by
  by_cases hs : s = "" <;> simp [consNode, hs]

/-- Texts in front of content become one. -/
theorem consNode_consNode :
    consNode (.text s) (consNode (.text s') ns) = consNode (.text (s ++ s')) ns := by
  by_cases hs' : s' = ""
  · simp [hs']
  · rcases ns with _ | ⟨_ | _, ns⟩ <;> simp [consNode, hs', String.append_assoc]

/-- Nodes are tidy if the first is no text in front of another text, and all are tidy inside. -/
theorem tidy_cons_iff : Tidy (n :: ns) ↔
    (∀ m ∈ ns.head?, ¬ (n.isText = true ∧ m.isText = true)) ∧ n.Throughout Node.IsTidy ∧
    Tidy ns := by
  unfold Tidy Apart
  rw [List.isChain_cons, AllThroughout]
  tauto

/-- An element may stand in front of anything. -/
theorem tidy_cons_element :
    Tidy (.element name attrs children :: ns) ↔ Tidy children ∧ Tidy ns := by
  rw [tidy_cons_iff]
  simp [Node.isText, Node.Throughout, Node.IsTidy, Tidy]

/-- The order of nodes does not matter for being tidy. -/
theorem Tidy.reverse (h : Tidy ns) : Tidy ns.reverse := by
  refine ⟨?_, h.2.reverse⟩
  unfold Apart
  rw [List.isChain_reverse]
  exact h.1.imp fun a b hab hba => hab hba.symm

/-- Putting a text in front of tidy nodes, joined with one that stands there, keeps them tidy. -/
private theorem tidy_consNode_text (s : String) (h : Tidy ns) : Tidy (consNode (.text s) ns) := by
  by_cases hs : s = ""
  · rwa [hs, consNode_empty]
  · rcases ns with _ | ⟨s' | _, ns⟩
    · simpa [consNode, hs, tidy_cons_iff, Node.Throughout, Node.IsTidy] using h
    · obtain ⟨hhead, -, hns⟩ := tidy_cons_iff.1 h
      have hmerged : Tidy (.text (s ++ s') :: ns) :=
        tidy_cons_iff.2 ⟨hhead, by simp [Node.Throughout, Node.IsTidy, hs], hns⟩
      simpa [consNode, hs] using hmerged
    · simpa [consNode, hs, tidy_cons_iff, Node.Throughout, Node.IsTidy, Node.isText] using h

/-- Text that is not empty stays as it is in front of tidy content that begins with no text. -/
private theorem consNode_text_of_tidy (h : Tidy (.text s :: ns)) :
    consNode (.text s) ns = .text s :: ns := by
  obtain ⟨hhead, hs, -⟩ := tidy_cons_iff.1 h
  rcases ns with _ | ⟨s' | _, ns⟩
  · simpa [consNode, Node.Throughout, Node.IsTidy] using hs
  · simp [Node.isText] at hhead
  · simpa [consNode, Node.Throughout, Node.IsTidy] using hs

/-- Normalizing makes content tidy. -/
theorem tidy_normalizeNodes : (ns : List Node) → Tidy (normalizeNodes ns)
  | [] => ⟨.nil, trivial⟩
  | .text s :: ns => tidy_consNode_text s (tidy_normalizeNodes ns)
  | .element name attrs children :: ns => by
    rw [normalizeNodes, Node.normalize, consNode_element, tidy_cons_element]
    exact ⟨tidy_normalizeNodes children, tidy_normalizeNodes ns⟩

/-- Tidy content is its own normal form. -/
theorem normalizeNodes_eq_self : {ns : List Node} → Tidy ns → normalizeNodes ns = ns
  | [], _ => rfl
  | .text s :: ns, h => by
    rw [normalizeNodes, Node.normalize, normalizeNodes_eq_self (tidy_cons_iff.1 h).2.2]
    exact consNode_text_of_tidy h
  | .element name attrs children :: ns, h => by
    obtain ⟨hchildren, hns⟩ := tidy_cons_element.1 h
    rw [normalizeNodes, Node.normalize, consNode_element, normalizeNodes_eq_self hchildren,
      normalizeNodes_eq_self hns]

/-- The normal elements are those that normalizing leaves alone. -/
theorem Element.normal_iff {e : Element} : e.Normal ↔ e.normalize = e := by
  refine ⟨fun h => ?_, fun h => ?_⟩
  · rw [normalize, normalizeNodes_eq_self h]
  · rw [← h]
    exact tidy_normalizeNodes e.children

/-- Child elements only are content that no text is in. -/
theorem Element.normal_node {es : List Element} :
    (node name attrs es).Normal ↔ ∀ e ∈ es, e.Normal := by
  unfold Normal node
  dsimp only
  induction es with
  | nil => simp [Tidy, Apart, AllThroughout]
  | cons e es ih =>
    rw [List.map_cons, toNode, tidy_cons_element, ih]
    simp

/-- An element that holds nothing but text is normal. -/
theorem Element.normal_ofText (name text : String) : (ofText name text).Normal := by
  unfold Normal ofText
  split
  · exact ⟨.nil, trivial⟩
  · next hne => exact ⟨.singleton _, by simpa [Node.Throughout, Node.IsTidy] using hne, trivial⟩

end Normal

end ProofDesk.Markup
