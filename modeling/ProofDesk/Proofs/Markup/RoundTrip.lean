import Mathlib.Data.List.TakeWhile
import ProofDesk.Proofs.Markup.Written

/-!
# Markup there and back

Every element that is read has names where names are read and is its own normal form: a name is
taken only as long as its characters go, a text is taken whole up to the next bracket, and never
where there is none (`Open.Proper`). So reading undoes writing up to the normal form, and what has
been read comes back unchanged when it is written and read again (`readFirst_write_and_back`).
-/

namespace ProofDesk.Markup

/-! ## Tags -/

section Tags

variable {name : String} {attrs : List (String × String)} {cs rest : List Char} {tag : Tag}

/-- What is read as a name is one. -/
theorem isName_of_readName (h : readName cs = .done name rest) : IsName name := by
  unfold readName at h
  dsimp only at h
  split at h
  · simp at h
  · split at h
    · simp at h
    · next hempty =>
      simp only [Outcome.done.injEq] at h
      obtain ⟨rfl, -⟩ := h
      refine ⟨by simpa using hempty, fun c hc => ?_⟩
      rw [String.toList_ofList] at hc
      exact List.mem_takeWhile_imp hc

private theorem isName_of_readAttr {attr : String × String} (h : readAttr cs = .done attr rest) :
    IsName attr.1 := by
  obtain ⟨key, _, hkey, h⟩ := Outcome.bind_eq_done h
  obtain ⟨_, _, _, h⟩ := Outcome.bind_eq_done h
  obtain ⟨value, _, _, h⟩ := Outcome.bind_eq_done h
  simp only [Outcome.done.injEq] at h
  obtain ⟨rfl, -⟩ := h
  exact isName_of_readName hkey

/-- The attributes that are read have names, and the tag keeps its own. -/
private theorem isName_of_readTagEnd (h : readTagEnd name attrs cs = .done tag rest)
    (hattrs : ∀ a ∈ attrs, IsName a.1) :
    tag.name = name ∧ ∀ a ∈ tag.attrs, IsName a.1 := by
  fun_induction readTagEnd name attrs cs with
  | case1 | case5 | case6 => simp at h
  | case2 attrs cs rest' ht =>
    obtain ⟨_, _, _, h⟩ := Outcome.bind_eq_done h
    simp only [Outcome.done.injEq] at h
    obtain ⟨rfl, -⟩ := h
    exact ⟨rfl, fun a ha => hattrs a (List.mem_reverse.1 ha)⟩
  | case3 attrs cs rest' ht =>
    simp only [Outcome.done.injEq] at h
    obtain ⟨rfl, -⟩ := h
    exact ⟨rfl, fun a ha => hattrs a (List.mem_reverse.1 ha)⟩
  | case4 attrs cs c rest' ht _ _ attr r hr ih =>
    -- the name of one more attribute has been read as a name
    refine ih h fun a ha => ?_
    rcases List.mem_cons.1 ha with rfl | ha
    · exact isName_of_readAttr hr
    · exact hattrs a ha

/-- A tag that is read has names where they belong. -/
theorem isName_of_readTag (h : readTag cs = .done tag rest) :
    IsName tag.name ∧ ∀ a ∈ tag.attrs, IsName a.1 := by
  obtain ⟨_, _, _, h⟩ := Outcome.bind_eq_done h
  obtain ⟨name, _, hname, h⟩ := Outcome.bind_eq_done h
  obtain ⟨heq, hattrs⟩ := isName_of_readTagEnd h (by simp)
  exact ⟨heq ▸ isName_of_readName hname, hattrs⟩

end Tags

/-! ## Content -/

/-- A text that is not empty means one that is not. -/
private theorem ne_empty_of_unescape {c : Char} {cs : List Char} {s : String}
    (h : unescape (c :: cs) = .ok s) : s ≠ "" := by
  -- a character is put in front of what follows in every case that succeeds
  have hcons : ∀ (x : Char) (later : Except Cause (List Char)),
      (later.map (x :: ·)).map String.ofList = .ok s → s ≠ "" := by
    rintro x (cause | xs) heq
    · simp [Except.map] at heq
    · simp only [Except.map, Except.ok.injEq] at heq
      simp [← heq]
  unfold unescape at h
  rw [unescapeFrom] at h
  split at h
  · split at h
    · simp [Except.map] at h
    · dsimp only at h
      split at h
      · simp [Except.map] at h
      · exact hcons _ _ h
  · exact hcons _ _ h

/-- An open element with names where names are read and with tidy content so far. -/
structure Open.Proper (o : Open) : Prop where
  isName : IsName o.name
  keys : ∀ a ∈ o.attrs, IsName a.1
  names : AllThroughout Node.HasNames o.content
  tidy : Tidy o.content

namespace Open.Proper

variable {o : Open} {name s : String} {attrs : List (String × String)}

/-- An element that was just opened. -/
theorem opened (hname : IsName name) (hattrs : ∀ a ∈ attrs, IsName a.1) :
    Open.Proper ⟨name, attrs, []⟩ :=
  ⟨hname, hattrs, trivial, .nil, trivial⟩

/-- An element that is closed properly is normal and holds names where names are read. -/
theorem close (h : o.Proper) : o.close.Named ∧ o.close.Normal :=
  ⟨⟨⟨h.isName, h.keys⟩, h.names.reverse⟩, h.tidy.reverse⟩

/-- An open element stays proper with one more element in it. -/
theorem push_element {e : Element} (h : o.Proper) (he : e.Named ∧ e.Normal) :
    (o.push e.toNode).Proper :=
  ⟨h.isName, h.keys, ⟨he.1, h.names⟩, tidy_cons_element.2 ⟨he.2, h.tidy⟩⟩

/-- An open element stays proper with one more text in it, if none stands right in front. -/
theorem push_text (h : o.Proper) (hs : s ≠ "") (hhead : ∀ n ∈ o.content.head?, n.isText = false) :
    (o.push (.text s)).Proper :=
  ⟨h.isName, h.keys, ⟨trivial, h.names⟩,
    tidy_cons_iff.2 ⟨fun m hm => by simp [hhead m hm], hs, h.tidy⟩⟩

end Open.Proper

/-- Where all open elements are proper the element that is read is. Text is pushed only where no
text was pushed right before, since text is read up to a bracket. -/
private theorem proper_of_readContent {inner : Open} {outer : List Open}
    {cs rest : List Char} {e : Element} (h : readContent inner outer cs = .done e rest)
    (hinner : inner.Proper)
    (houter : ∀ o ∈ outer, o.Proper)
    (hhead : cs.head? ≠ some '<' → ∀ n ∈ inner.content.head?, n.isText = false) :
    e.Named ∧ e.Normal := by
  -- every tag and every run of text takes characters
  induction hn : cs.length using Nat.strongRecOn generalizing inner outer cs with
  | _ n ih =>
    rcases content_cases cs with hnone | ⟨rest', rfl⟩ | ⟨c, rest', hc, rfl⟩ | ⟨c, rest', hc, rfl⟩
    · simp [hnone] at h
    · rw [readContent_close] at h
      obtain ⟨_, later, hclose, h⟩ := Outcome.bind_eq_done h
      have hshorter := readClose_length hclose
      cases outer with
      | nil =>
        simp only [Outcome.done.injEq] at h
        obtain ⟨rfl, -⟩ := h
        exact hinner.close
      | cons o os =>
        have ho := houter o List.mem_cons_self
        refine ih _ (by simp at hn; omega) h (ho.push_element hinner.close)
          (fun o ho => houter o (List.mem_cons_of_mem _ ho)) ?_ rfl
        simp [Open.push, Element.toNode, Node.isText]
    · rw [readContent_open _ _ hc] at h
      obtain ⟨tag, later, htag, h⟩ := Outcome.bind_eq_done h
      have hshorter := readTag_length htag
      obtain ⟨hname, hattrs⟩ := isName_of_readTag htag
      have hopened := Open.Proper.opened hname hattrs
      split at h
      · refine ih _ (by omega) h (hinner.push_element hopened.close) houter ?_ rfl
        simp [Open.push, Node.isText]
      · refine ih _ (by omega) h hopened ?_ (by simp) rfl
        intro o ho
        rcases List.mem_cons.1 ho with rfl | ho
        · exact hinner
        · exact houter o ho
    · -- no text was pushed right before this one, and a bracket stands behind it, so none is
      -- pushed next
      rw [readContent_text _ _ hc] at h
      have hapart := hhead (by simpa using hc)
      cases hdrop : rest'.dropWhile (· != '<') with
      | nil => simp [hdrop] at h
      | cons next after =>
        have hshorter := (List.dropWhile_suffix (· != '<') (l := rest')).length_le
        have hbracket : next = '<' := by
          have hnot := List.head?_dropWhile_not (· != '<') rest'
          simpa [hdrop] using hnot
        rw [hdrop] at h hshorter
        dsimp only at h
        split at h
        · next s hs =>
          refine ih _ (by simp at hn; omega) h (hinner.push_text (ne_empty_of_unescape hs) hapart)
            houter ?_ rfl
          simp [hbracket]
        · simp at h

/-- An element that is read has names where names are read, and is its own normal form. -/
private theorem proper_of_readElement {cs rest : List Char} {e : Element}
    (h : readElement cs = .done e rest) :
    e.Named ∧ e.Normal := by
  obtain ⟨tag, later, htag, h⟩ := Outcome.bind_eq_done h
  obtain ⟨hname, hattrs⟩ := isName_of_readTag htag
  have hopened := Open.Proper.opened hname hattrs
  split at h
  · simp only [Outcome.done.injEq] at h
    obtain ⟨rfl, -⟩ := h
    exact hopened.close
  · exact proper_of_readContent h hopened (by simp) (by simp)

/-- What a buffer begins with is an element that was read off a text. -/
private theorem exists_readElement {buffer : List UInt8} {e : Element} {used : Nat}
    (h : readFirst buffer = .ok (some (e, used))) : ∃ cs rest, readElement cs = .done e rest := by
  unfold readFirst at h
  split at h
  · simp at h
  · split at h
    · simp at h
    · split at h
      · next hread =>
        simp only [Except.ok.injEq, Option.some.injEq, Prod.mk.injEq] at h
        exact ⟨_, _, h.1 ▸ hread⟩
      · simp at h
      · simp at h

/-! ## Round trip -/

/-- The writer and the reader are inverse. What is written with names where names are read is read
back in its normal form, off its bytes and no more, whatever text follows; and what is read has such
names and is its own normal form, so written again it is read back as it is. -/
theorem readFirst_write_and_back :
    (∀ (e : Element) (more : List UInt8), e.Named → Text.Begins more →
      readFirst (Text.encode e.write ++ more) =
        .ok (some (e.normalize, (Text.encode e.write).length))) ∧
    ∀ (buffer : List UInt8) (e : Element) (used : Nat), readFirst buffer = .ok (some (e, used)) →
      e.Named ∧ e.normalize = e ∧ ∀ more, Text.Begins more →
        readFirst (Text.encode e.write ++ more) = .ok (some (e, (Text.encode e.write).length)) := by
  refine ⟨fun e more => readFirst_write, fun buffer e used h => ?_⟩
  obtain ⟨cs, rest, hread⟩ := exists_readElement h
  obtain ⟨hnamed, hnormal⟩ := proper_of_readElement hread
  have hself := Element.normal_iff.1 hnormal
  refine ⟨hnamed, hself, fun more hmore => ?_⟩
  rw [readFirst_write hnamed hmore, hself]

/-- Text in pieces, one of them empty, around an element, with characters that markup gives a
meaning to. -/
def pieces : Element :=
  ⟨"a", [("k", "\"<'&>")],
    [.text "x < ", .text "", .text "∀", .element "b.1" [] [.text ""], .text "\n"]⟩

/-- The pieces are read back as three, in front of a bracket that belongs to what follows. -/
theorem readFirst_write_pieces :
    readFirst (Text.encode pieces.write ++ Text.encode ['<']) =
        .ok (some
          (⟨"a", [("k", "\"<'&>")], [.text "x < ∀", .element "b.1" [] [], .text "\n"]⟩, 59)) ∧
      pieces.normalize.Named ∧ pieces.normalize.normalize = pieces.normalize := by
  have hnames : IsName "a" ∧ IsName "k" ∧ IsName "b.1" := by decide +kernel
  have hnamed : pieces.Named := by
    simp [Element.Named, Element.toNode, pieces, Node.Throughout, AllThroughout,
      Node.HasNames, hnames]
  have hread := readFirst_write_and_back.1 pieces (Text.encode ['<']) hnamed (Text.begins_encode _)
  have hnormal : pieces.normalize =
      ⟨"a", [("k", "\"<'&>")], [.text "x < ∀", .element "b.1" [] [], .text "\n"]⟩ := by
    rfl
  have hlength : (Text.encode pieces.write).length = 59 := by
    rfl
  obtain ⟨hback, hself, -⟩ := readFirst_write_and_back.2 _ _ _ hread
  rw [hnormal, hlength] at hread
  exact ⟨hread, hback, hself⟩

end ProofDesk.Markup
