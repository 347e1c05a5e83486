/-!
# Markup elements

The prover speaks in markup elements with attributes and mixed content: no declarations, no
namespaces, no comments. An attribute may be repeated, and then its first value counts. Text is kept
as it means, not as it is escaped.
-/

namespace ProofDesk.Markup

/-- A piece of content: text or an element. -/
inductive Node where
  | text (s : String)
  | element (name : String) (attrs : List (String × String)) (children : List Node)
  deriving Inhabited

/-- An element: its name, its attributes in order and its content in order. -/
structure Element where
  name : String
  attrs : List (String × String)
  children : List Node
  deriving Inhabited

namespace Element

/-- The element as a piece of content. -/
def toNode (e : Element) : Node :=
  .element e.name e.attrs e.children

/-- An element with child elements only. -/
def node (name : String) (attrs : List (String × String)) (children : List Element) : Element :=
  ⟨name, attrs, children.map toNode⟩

/-- An element whose content is a text; an empty text is no content. -/
def ofText (name text : String) : Element :=
  ⟨name, [], if text.isEmpty then [] else [.text text]⟩

/-- The value of the first attribute called `key`. -/
def attr? (e : Element) (key : String) : Option String :=
  e.attrs.lookup key

/-- The child elements, without the text between them. -/
def elements (e : Element) : List Element :=
  e.children.filterMap fun
    | .text _ => none
    | .element name attrs children => some ⟨name, attrs, children⟩

/-- The child element at a position, counted without the text between them. -/
def child? (e : Element) (index : Nat) : Option Element :=
  e.elements[index]?

end Element

mutual

/-- All text inside a piece of content, in order. -/
def Node.innerText : Node → List Char
  | .text s => s.toList
  | .element _ _ children => innerTexts children

/-- All text inside a list of content, in order. -/
def innerTexts : List Node → List Char
  | [] => []
  | n :: ns => n.innerText ++ innerTexts ns

end

/-- All text inside an element, without the markup in it. -/
def Element.innerText (e : Element) : String :=
  String.ofList (innerTexts e.children)

end ProofDesk.Markup
