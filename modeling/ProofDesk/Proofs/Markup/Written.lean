import ProofDesk.Markup.Printer
import ProofDesk.Proofs.Markup.Extension
import ProofDesk.Proofs.Markup.Normal

/-!
# Reading what was written

A written element is read back up to its normal form, whatever follows it (`readFirst_write`). No
escaped text holds a quote or a bracket, so a value ends at its quote and a text at the next tag.
Two texts side by side are written as one, so the content that is read is the content that was
written with its texts merged (`readContent_writeNodes`).
-/

namespace ProofDesk.Markup

/-! ## Names -/

section Names

variable {c : Char} {s : String} {rest : List Char}

/-- The code points of the blanks. -/
def blankCodes : List Nat :=
  [9, 10, 11, 12, 13, 0x20, 0x85, 0xA0, 0x1680, 0x2000, 0x2001, 0x2002, 0x2003, 0x2004, 0x2005,
    0x2006, 0x2007, 0x2008, 0x2009, 0x200A, 0x2028, 0x2029, 0x202F, 0x205F, 0x3000]

private theorem mem_blankCodes (h : Text.isBlank c = true) : c.toNat ∈ blankCodes := by
  simp only [Text.isBlank, Bool.or_eq_true, Bool.and_eq_true, decide_eq_true_eq, beq_iff_eq] at h
  simp only [blankCodes, List.mem_cons, List.not_mem_nil]
  omega

/-- No letter or digit beyond ASCII is a blank. -/
private theorem alphanumericRanges_blankCodes :
    Text.alphanumericRanges.toList.all (fun r => blankCodes.all fun n => Nat.blt n r.1 ||
      Nat.blt r.2 n) = true := by
  decide +kernel

/-- No blank can be part of a name. -/
private theorem isAlphanum_blankCodes : ∀ n ∈ blankCodes,
    (Char.ofNat n).isAlphanum = false ∧ Char.ofNat n ∉ ['_', '-', '.', ':'] := by
  decide +kernel

/-- No blank stands in a name. -/
private theorem isNameChar_of_isBlank (h : Text.isBlank c = true) : isNameChar c = false := by
  have hcode := mem_blankCodes h
  -- the table of alphanumeric characters is searched for the few blanks once
  have hranges : Text.inRanges Text.alphanumericRanges c = false := by
    unfold Text.inRanges
    rw [← Array.any_toList, List.any_eq_false]
    intro r hr
    have hr' := List.all_eq_true.1 (List.all_eq_true.1 alphanumericRanges_blankCodes r hr) _ hcode
    simp only [Bool.or_eq_true, Nat.blt_eq] at hr'
    simp only [Bool.and_eq_true, decide_eq_true_eq]
    omega
  have hplain := isAlphanum_blankCodes _ hcode
  rw [Char.ofNat_toNat] at hplain
  unfold isNameChar Text.isAlphanumeric
  simp only [hplain.1, hranges, Bool.and_false, Bool.or_false, Bool.false_or]
  simpa [and_assoc] using hplain.2

/-- The characters that end names in a written element belong to none. -/
theorem isNameChar_delimiter : ∀ c ∈ ['<', '>', '/', '=', ' '], isNameChar c = false := by
  have hall : ['<', '>', '/', '=', ' '].all (fun c => !isNameChar c) = true := by decide +kernel
  intro c hc
  simpa using List.all_eq_true.1 hall c hc

/-- Names begin with neither a blank nor a character that ends a tag. -/
theorem IsName.exists_cons (h : IsName s) :
    ∃ c cs, s.toList = c :: cs ∧ Text.isBlank c = false ∧ c ≠ '/' ∧ c ≠ '>' := by
  obtain ⟨hne, hall⟩ := h
  cases hs : s.toList with
  | nil => exact absurd (String.toList_eq_nil_iff.1 hs) hne
  | cons c cs =>
    have hc : isNameChar c = true := hall c (by simp [hs])
    refine ⟨c, cs, rfl, ?_, ?_, ?_⟩
    · cases hblank : Text.isBlank c with
      | false => rfl
      | true => simp [isNameChar_of_isBlank hblank] at hc
    · rintro rfl
      simp [isNameChar_delimiter] at hc
    · rintro rfl
      simp [isNameChar_delimiter] at hc

/-- A name is read up to the first character that belongs to none. -/
theorem readName_append (h : IsName s) (hc : isNameChar c = false) :
    readName (s.toList ++ c :: rest) = .done s (c :: rest) := by
  have hempty : s.toList.isEmpty = false := by simpa using h.1
  obtain ⟨hdrop, htake⟩ := span_run h.2 hc rest
  unfold readName
  rw [hdrop, htake]
  simp [hempty]

end Names

/-! ## Escaped text -/

/-- A character is written as it is, or as a word between an ampersand and a semicolon that stands
for it. -/
theorem escapeChar_cases (c : Char) :
    (c ∉ ['&', '<', '>', '"', '\''] ∧ escapeChar c = [c]) ∨
      ∃ word, entityChar? word = some c ∧ word.all Char.isLower = true ∧
        escapeChar c = '&' :: (word ++ [';']) := by
  by_cases hc : c ∈ ['&', '<', '>', '"', '\'']
  · right
    simp only [List.mem_cons, List.not_mem_nil, or_false] at hc
    rcases hc with rfl | rfl | rfl | rfl | rfl
    · exact ⟨['a', 'm', 'p'], by decide, by decide, rfl⟩
    · exact ⟨['l', 't'], by decide, by decide, rfl⟩
    · exact ⟨['g', 't'], by decide, by decide, rfl⟩
    · exact ⟨['q', 'u', 'o', 't'], by decide, by decide, rfl⟩
    · exact ⟨['a', 'p', 'o', 's'], by decide, by decide, rfl⟩
  · left
    refine ⟨hc, ?_⟩
    simp only [List.mem_cons, List.not_mem_nil, or_false, not_or] at hc
    simp [escapeChar, hc]

/-- Escaping leaves no quote and no bracket. -/
theorem not_mem_escape {x : Char} (hx : x ∈ ['<', '>', '"', '\'']) (s : String) : x ∉ escape s := by
  intro hmem
  obtain ⟨c, -, hc⟩ := List.mem_flatMap.1 hmem
  rcases escapeChar_cases c with ⟨hplain, heq⟩ | ⟨word, -, hlower, heq⟩
  · rw [heq, List.mem_singleton] at hc
    subst hc
    exact hplain (List.mem_cons_of_mem _ hx)
  · -- an entity is an ampersand, small letters and a semicolon
    have hx' : x ≠ '&' ∧ x ≠ ';' ∧ x.isLower = false := by
      simp only [List.mem_cons, List.not_mem_nil, or_false] at hx
      rcases hx with rfl | rfl | rfl | rfl <;> decide
    rw [heq] at hc
    simp only [List.mem_cons, List.mem_append, List.not_mem_nil, or_false] at hc
    rcases hc with hc | hc | hc
    · exact hx'.1 hc
    · simp [List.all_eq_true.1 hlower x hc] at hx'
    · exact hx'.2.1 hc

/-- What is no ampersand stands for itself. -/
private theorem unescapeFrom_cons {whole cs : List Char} {c : Char} (hc : c ≠ '&') :
    unescapeFrom whole (c :: cs) = (unescapeFrom whole cs).map (c :: ·) := by
  rw [unescapeFrom, if_neg hc]

/-- An entity stands for its character. -/
private theorem unescapeFrom_entity {whole word cs : List Char} {c : Char} (hword : ';' ∉ word)
    (hc : entityChar? word = some c) :
    unescapeFrom whole ('&' :: (word ++ ';' :: cs)) = (unescapeFrom whole cs).map (c :: ·) := by
  obtain ⟨hdrop, htake⟩ := span_delimiter hword cs
  rw [unescapeFrom, if_pos rfl]
  split
  · next h => simp [hdrop] at h
  · next rest h =>
    rw [hdrop] at h
    obtain ⟨-, rfl⟩ := List.cons.inj h
    dsimp only
    rw [htake, hc]

/-- What a character is escaped as means that character. -/
private theorem unescapeFrom_escapeChar (whole : List Char) (c : Char) (cs : List Char) :
    unescapeFrom whole (escapeChar c ++ cs) = (unescapeFrom whole cs).map (c :: ·) := by
  rcases escapeChar_cases c with ⟨hplain, heq⟩ | ⟨word, hchar, hlower, heq⟩
  · rw [heq, List.singleton_append]
    exact unescapeFrom_cons fun hamp => hplain (by simp [hamp])
  · rw [heq, List.cons_append, List.append_assoc, List.singleton_append]
    exact unescapeFrom_entity (fun hmem => absurd (List.all_eq_true.1 hlower _ hmem) (by decide))
      hchar

/-- A text is unescaped to what was escaped. -/
private theorem unescapeFrom_flatMap (whole cs : List Char) :
    unescapeFrom whole (cs.flatMap escapeChar) = .ok cs := by
  induction cs with
  | nil => rw [List.flatMap_nil, unescapeFrom]
  | cons c cs ih => rw [List.flatMap_cons, unescapeFrom_escapeChar, ih]; rfl

/-- An escaped text means the text. -/
@[simp] theorem unescape_escape (s : String) : unescape (escape s) = .ok s := by
  rw [unescape, escape, unescapeFrom_flatMap]
  simp [Except.map]

/-! ## Tags -/

section Tags

variable {name key : String} {attrs : List (String × String)} {rest : List Char}

theorem trimFront_cons {c : Char} (hc : Text.isBlank c = false) :
    Text.trimFront (c :: rest) = c :: rest :=
  List.dropWhile_cons_of_neg (by simp [hc])

/-- A value ends at its quote, since no quote is left inside it. -/
theorem readValue_escape (value : String) :
    readValue ('"' :: (escape value ++ '"' :: rest)) = .done value rest := by
  obtain ⟨hdrop, htake⟩ := span_delimiter (not_mem_escape (x := '"') (by decide) value) rest
  rw [readValue, if_pos (.inl rfl), hdrop, htake]
  dsimp only
  rw [unescape_escape]

/-- A written attribute is read back. -/
theorem readAttr_write (h : IsName key) (value : String) (rest : List Char) :
    readAttr (key.toList ++ '=' :: '"' :: (escape value ++ '"' :: rest)) =
      .done (key, value) rest := by
  unfold readAttr
  rw [readName_append h (isNameChar_delimiter '=' (by simp)), Outcome.bind_done,
    trimFront_cons (by decide), readChar, if_pos rfl, Outcome.bind_done, trimFront_cons (by decide),
    readValue_escape, Outcome.bind_done]

/-- The attributes of a tag are read one by one, whatever follows them. -/
theorem readTagEnd_writeAttrs (name : String) (read : List (String × String)) (rest : List Char)
    (h : ∀ a ∈ attrs, IsName a.1) :
    readTagEnd name read (writeAttrs attrs ++ rest) =
      readTagEnd name (attrs.reverse ++ read) rest := by
  induction attrs generalizing read with
  | nil => rfl
  | cons a attrs ih =>
    obtain ⟨key, value⟩ := a
    have hkey : IsName key := h (key, value) (by simp)
    -- a name begins with neither a blank nor the end of the tag
    obtain ⟨c, cs, hcs, hblank, hslash, hbracket⟩ := hkey.exists_cons
    have hread := readAttr_write hkey value (writeAttrs attrs ++ rest)
    have hwritten : writeAttrs ((key, value) :: attrs) ++ rest =
        ' ' ::
          (key.toList ++ '=' :: '"' :: (escape value ++ '"' :: (writeAttrs attrs ++ rest))) := by
      simp [writeAttrs]
    have htrim : Text.trimFront
        (' ' :: (c :: cs ++ '=' :: '"' :: (escape value ++ '"' :: (writeAttrs attrs ++ rest)))) =
        c :: (cs ++ '=' :: '"' :: (escape value ++ '"' :: (writeAttrs attrs ++ rest))) :=
      trimFront_cons hblank
    rw [hcs] at hwritten hread
    rw [hwritten, readTagEnd_eq, htrim]
    dsimp only
    rw [if_neg hslash, if_neg hbracket, ← List.cons_append, hread, Outcome.bind_done,
      ih _ fun a ha => h a (List.mem_cons_of_mem _ ha)]
    simp

/-- What a tag begins with, up to its end. -/
theorem readTag_write {c : Char} (hname : IsName name) (hattrs : ∀ a ∈ attrs, IsName a.1)
    (hc : isNameChar c = false) :
    readTag ('<' :: (name.toList ++ (writeAttrs attrs ++ c :: rest))) =
      readTagEnd name attrs.reverse (c :: rest) := by
  -- a space or the end of the tag stands behind the name
  obtain ⟨d, ds, hds, hd⟩ : ∃ d ds,
      writeAttrs attrs ++ c :: rest = d :: ds ∧ isNameChar d = false := by
    cases attrs with
    | nil => exact ⟨c, rest, rfl, hc⟩
    | cons a attrs => exact ⟨' ', _, rfl, isNameChar_delimiter ' ' (by simp)⟩
  have hend := readTagEnd_writeAttrs name [] (c :: rest) hattrs
  rw [List.append_nil, hds] at hend
  rw [hds, readTag, readChar, if_pos rfl, Outcome.bind_done, readName_append hname hd,
    Outcome.bind_done, hend]

/-- A written tag that closes itself is read back. -/
theorem readTag_closed (hname : IsName name) (hattrs : ∀ a ∈ attrs, IsName a.1) :
    readTag ('<' :: (name.toList ++ (writeAttrs attrs ++ '/' :: '>' :: rest))) =
      .done ⟨name, attrs, true⟩ rest := by
  rw [readTag_write hname hattrs (isNameChar_delimiter '/' (by simp)), readTagEnd_eq,
    trimFront_cons (by decide)]
  dsimp only
  rw [if_pos rfl, readChar, if_pos rfl, Outcome.bind_done, List.reverse_reverse]

/-- A written opening tag is read back. -/
theorem readTag_open (hname : IsName name) (hattrs : ∀ a ∈ attrs, IsName a.1) :
    readTag ('<' :: (name.toList ++ (writeAttrs attrs ++ '>' :: rest))) =
      .done ⟨name, attrs, false⟩ rest := by
  rw [readTag_write hname hattrs (isNameChar_delimiter '>' (by simp)), readTagEnd_eq,
    trimFront_cons (by decide)]
  dsimp only
  rw [if_neg (by decide), if_pos rfl, List.reverse_reverse]

/-- A written closing tag is read back. -/
theorem readClose_write (h : IsName name) :
    readClose name (name.toList ++ '>' :: rest) = .done () rest := by
  rw [readClose, readName_append h (isNameChar_delimiter '>' (by simp)),
    Outcome.bind_done, if_pos rfl, trimFront_cons (by decide), readChar, if_pos rfl]

end Tags

/-! ## Content -/

/-- The open element with more content. -/
def Open.extend (o : Open) (ns : List Node) : Open :=
  { o with content := ns.reverse ++ o.content }

@[simp] theorem Open.extend_nil (o : Open) : o.extend [] = o := rfl

/-- Putting nodes into an open element puts in the first, and then the others. -/
theorem Open.extend_cons (o : Open) (n : Node) (ns : List Node) :
    o.extend (n :: ns) = (o.push n).extend ns := by
  simp [extend, push]

/-- Putting two lots of nodes into an open element puts in one after the other. -/
theorem Open.extend_append (o : Open) (ns ms : List Node) :
    o.extend (ns ++ ms) = (o.extend ns).extend ms := by
  simp [extend]

/-- Content that is read into an element that was just opened is its content. -/
theorem Open.close_extend (name : String) (attrs : List (String × String)) (ns : List Node) :
    (Open.extend ⟨name, attrs, []⟩ ns).close = ⟨name, attrs, ns⟩ := by
  simp [extend, close]

@[simp] theorem escape_empty : escape "" = [] := rfl

theorem escape_append (s s' : String) : escape (s ++ s') = escape s ++ escape s' := by
  simp [escape]

/-- Only the empty text is escaped to nothing. -/
theorem escape_ne_nil {s : String} (h : s ≠ "") : escape s ≠ [] := by
  obtain ⟨c, cs, hcs⟩ := List.exists_cons_of_ne_nil (mt String.toList_eq_nil_iff.1 h)
  rw [escape, hcs, List.flatMap_cons]
  rcases escapeChar_cases c with ⟨-, heq⟩ | ⟨word, -, -, heq⟩ <;> simp [heq]

section Content

variable {name : String} {attrs : List (String × String)} {children : List Node} (inner : Open)
  (outer : List Open)

/-- Text is read up to the next tag. -/
theorem readContent_escape (s : String) (rest : List Char) :
    readContent inner outer (escape s ++ '<' :: rest) =
      readContent (inner.extend (consNode (.text s) [])) outer ('<' :: rest) := by
  by_cases hs : s = ""
  · simp [hs]
  · obtain ⟨c, cs, hcs⟩ := List.exists_cons_of_ne_nil (escape_ne_nil hs)
    have hbracket : '<' ∉ c :: cs := hcs ▸ not_mem_escape (by decide) s
    rw [List.mem_cons, not_or] at hbracket
    obtain ⟨hdrop, htake⟩ := span_delimiter hbracket.2 rest
    have htext : unescape (c :: cs) = .ok s := by rw [← hcs, unescape_escape]
    rw [hcs, List.cons_append, readContent_text _ _ (Ne.symm hbracket.1), hdrop, htake]
    dsimp only
    rw [htext]
    simp [consNode, hs, Open.extend, Open.push]

/-- An element with content is written between an opening and a closing tag. -/
theorem Node.write_of_ne_nil (h : children ≠ []) : (Node.element name attrs children).write =
    '<' :: (name.toList ++ (writeAttrs attrs ++ '>' :: (writeNodes children ++
      '<' :: '/' :: (name.toList ++ ['>'])))) := by
  obtain ⟨n, ns, rfl⟩ := List.exists_cons_of_ne_nil h
  simp [Node.write, writeNodes]

/-- A written element begins with its tag. -/
theorem Node.exists_write (name : String) (attrs : List (String × String)) (children : List Node) :
    ∃ cs, (Node.element name attrs children).write = '<' :: cs := by
  cases children with
  | nil => exact ⟨_, rfl⟩
  | cons n ns => exact ⟨_, Node.write_of_ne_nil (List.cons_ne_nil n ns)⟩

/-- A bracket in front of a name opens an element. -/
theorem readContent_name (h : IsName name) (rest : List Char) :
    readContent inner outer ('<' :: (name.toList ++ rest)) =
      (readTag ('<' :: (name.toList ++ rest))).bind fun tag rest =>
        if tag.isClosed then readContent (inner.push (.element tag.name tag.attrs [])) outer rest
        else readContent ⟨tag.name, tag.attrs, []⟩ (inner :: outer) rest := by
  obtain ⟨c, cs, hcs, -, hslash, -⟩ := h.exists_cons
  rw [hcs, List.cons_append]
  exact readContent_open inner outer hslash _

/-- An element inside another is read off its written form if its content is. -/
theorem readContent_write (hname : IsName name) (hattrs : ∀ a ∈ attrs, IsName a.1)
    (hchildren : ∀ inner outer rest,
      readContent inner outer (writeNodes children ++ '<' :: '/' :: rest) =
      readContent (inner.extend (normalizeNodes children)) outer ('<' :: '/' :: rest))
        (rest : List Char) :
    readContent inner outer ((Node.element name attrs children).write ++ rest) =
      readContent (inner.push (.element name attrs (normalizeNodes children))) outer rest := by
  by_cases hempty : children = []
  · -- an element with no content is written as one tag that closes itself
    have hwritten : (Node.element name attrs children).write ++ rest =
        '<' :: (name.toList ++ (writeAttrs attrs ++ '/' :: '>' :: rest)) := by
      simp [hempty, Node.write]
    rw [hwritten, readContent_name _ _ hname, readTag_closed hname hattrs, Outcome.bind_done,
      if_pos rfl, hempty, normalizeNodes]
  · -- the content is read by hypothesis, and the closing tag has the name of the opening one
    have hwritten : (Node.element name attrs children).write ++ rest =
        '<' :: (name.toList ++ (writeAttrs attrs ++ '>' ::
          (writeNodes children ++ '<' :: '/' :: (name.toList ++ '>' :: rest)))) := by
      simp [Node.write_of_ne_nil hempty]
    rw [hwritten, readContent_name _ _ hname, readTag_open hname hattrs, Outcome.bind_done,
      if_neg (by simp), hchildren, readContent_close]
    change (readClose name _).bind _ = _
    rw [readClose_write hname, Outcome.bind_done]
    dsimp only
    rw [Open.close_extend]
    rfl

end Content

/-- The content of an element is read off its written form up to the closing tag, with the texts in
it merged; `pending` is text that stands in front of it. -/
theorem readContent_writeNodes {ns : List Node} (h : AllThroughout Node.HasNames ns)
    (pending : String) (inner : Open) (outer : List Open) (rest : List Char) :
    readContent inner outer (escape pending ++ (writeNodes ns ++ '<' :: '/' :: rest)) =
      readContent (inner.extend (consNode (.text pending) (normalizeNodes ns))) outer
        ('<' :: '/' :: rest) := by
  -- the induction is on the tree, children first; a text is carried along until an element or the
  -- end stops it
  match ns, h with
  | [], _ => exact readContent_escape inner outer pending ('/' :: rest)
  | .text s :: ns, h =>
    have hmerged := readContent_writeNodes h.2 (pending ++ s) inner outer rest
    rw [escape_append, List.append_assoc] at hmerged
    rw [writeNodes, Node.write, List.append_assoc, hmerged, normalizeNodes, Node.normalize,
      consNode_consNode]
  | .element name attrs children :: ns, h =>
    obtain ⟨⟨⟨hname, hattrs⟩, hchildren⟩, hns⟩ := h
    obtain ⟨cs, hcs⟩ := Node.exists_write name attrs children
    -- the text that was carried along goes into the element outside before the tag is opened
    have hinside :=
      readContent_write (inner.extend (consNode (.text pending) [])) outer hname hattrs
      (fun inner outer rest => by simpa using readContent_writeNodes hchildren "" inner outer rest)
      (writeNodes ns ++ '<' :: '/' :: rest)
    have hlater := readContent_writeNodes hns ""
      ((inner.extend (consNode (.text pending) [])).push
        (.element name attrs (normalizeNodes children))) outer rest
    rw [hcs, List.cons_append] at hinside
    rw [escape_empty, List.nil_append, consNode_empty] at hlater
    rw [writeNodes, List.append_assoc, hcs, List.cons_append, readContent_escape, hinside, hlater,
      normalizeNodes, Node.normalize, consNode_element, consNode_text_element, Open.extend_append,
      Open.extend_cons]

/-! ## Elements -/

/-- A written element is read back in its normal form. -/
theorem readElement_write {e : Element} (h : e.Named) (rest : List Char) :
    readElement (e.write ++ rest) = .done e.normalize rest := by
  obtain ⟨name, attrs, children⟩ := e
  obtain ⟨⟨hname, hattrs⟩, hchildren⟩ := h
  unfold readElement
  by_cases hempty : children = []
  · have hwritten : (Element.mk name attrs children).write ++ rest =
        '<' :: (name.toList ++ (writeAttrs attrs ++ '/' :: '>' :: rest)) := by
      simp [hempty, Element.write, Element.toNode, Node.write]
    rw [hwritten, readTag_closed hname hattrs, Outcome.bind_done, if_pos rfl, hempty]
    rfl
  · have hwritten : (Element.mk name attrs children).write ++ rest =
        '<' :: (name.toList ++ (writeAttrs attrs ++ '>' ::
          (writeNodes children ++ '<' :: '/' :: (name.toList ++ '>' :: rest)))) := by
      simp [Element.write, Element.toNode, Node.write_of_ne_nil hempty]
    -- nothing is open around the element, so its closing tag ends the reading
    have hcontent :=
      readContent_writeNodes hchildren "" ⟨name, attrs, []⟩ [] (name.toList ++ '>' :: rest)
    rw [escape_empty, List.nil_append, consNode_empty] at hcontent
    rw [hwritten, readTag_open hname hattrs, Outcome.bind_done, if_neg (by simp), hcontent,
      readContent_close]
    change (readClose name _).bind _ = _
    rw [readClose_write hname, Outcome.bind_done, Open.close_extend]
    rfl

/-- Read off the front of a buffer, a written element is its normal form, and takes its bytes. -/
theorem readFirst_write {e : Element} {more : List UInt8} (h : e.Named) (hmore : Text.Begins more) :
    readFirst (Text.encode e.write ++ more) =
      .ok (some (e.normalize, (Text.encode e.write).length)) := by
  have hfront : readFront e.write = .ok (some (e.normalize, (Text.encode e.write).length)) := by
    -- no blank stands in front of the element
    obtain ⟨cs, hcs⟩ : ∃ cs, e.write = '<' :: cs := Node.exists_write _ _ _
    have htrim : Text.trimFront e.write = e.write := by
      rw [hcs]
      exact trimFront_cons (by decide)
    have hread := readElement_write h []
    rw [List.append_nil] at hread
    rw [readFront, htrim, hread, Text.length_encode]
    simp [passed]
  have hread : readFirst (Text.encode e.write) =
      .ok (some (e.normalize, (Text.encode e.write).length)) := by
    rw [readFirst_eq_readFront (by simp), Text.decode_encode, hfront]
  rw [readFirst_append (hmore.behind e.write) (by simp [hread]), hread]

end ProofDesk.Markup
