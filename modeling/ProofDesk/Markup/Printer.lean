import ProofDesk.Markup.Element

/-!
# Writing markup

Attribute values and text escape the five characters that markup gives a meaning to. An element
without content is written as one tag. Nothing is added between elements.
-/

namespace ProofDesk.Markup

/-- How one character is written in an attribute value or in text. -/
def escapeChar (c : Char) : List Char :=
  if c = '&' then ['&', 'a', 'm', 'p', ';']
  else if c = '<' then ['&', 'l', 't', ';']
  else if c = '>' then ['&', 'g', 't', ';']
  else if c = '"' then ['&', 'q', 'u', 'o', 't', ';']
  else if c = '\'' then ['&', 'a', 'p', 'o', 's', ';']
  else [c]

/-- A text with the characters escaped that markup gives a meaning to. -/
def escape (s : String) : List Char :=
  s.toList.flatMap escapeChar

/-- The attributes of a tag, each behind a space. -/
def writeAttrs : List (String × String) → List Char
  | [] => []
  | (key, value) :: attrs =>
    ' ' :: (key.toList ++ '=' :: '"' :: (escape value ++ '"' :: writeAttrs attrs))

mutual

/-- The written form of a piece of content. -/
def Node.write : Node → List Char
  | .text s => escape s
  | .element name attrs [] => '<' :: (name.toList ++ writeAttrs attrs ++ ['/', '>'])
  | .element name attrs (n :: ns) =>
    '<' :: (name.toList ++ writeAttrs attrs ++ '>' :: (n.write ++ writeNodes ns ++
      '<' :: '/' :: (name.toList ++ ['>'])))

/-- The written form of a list of content. -/
def writeNodes : List Node → List Char
  | [] => []
  | n :: ns => n.write ++ writeNodes ns

end

/-- The written form of an element. -/
def Element.write (e : Element) : List Char :=
  e.toNode.write

/-- The written form of an element as a text. -/
def Element.render (e : Element) : String :=
  String.ofList e.write

end ProofDesk.Markup
