import ProofDesk.Proofs.Markup.Written

/-!
# What stands behind an element

An element that a buffer shows is read off the buffer whatever markup follows it, complete, cut or
malformed: nothing behind the element is looked at as markup. All of the buffer is looked at as
UTF-8, though, before the element is. It is read exactly as long as the bytes behind it may still
become a text; a byte there that can stand in no text hides it, and it is that byte that is reported
(`readFirst_followed`).
-/

namespace ProofDesk.Markup

variable {bs : List UInt8} {e : Element} {used : Nat}

/-- A buffer off which something is read, or nothing yet, may still become a text. -/
theorem begins_of_readFirst {found : Option (Element × Nat)} (h : readFirst bs = .ok found) :
    Text.Begins bs := by
  refine Text.begins_iff.2 fun n hending => ?_
  have hdecode : Text.decode bs = ((Text.decode bs).1, .invalid n) := Prod.ext rfl hending
  rw [readFirst, hdecode] at h
  simp at h

/-- A buffer that can become no text any more is refused where it stops being one. -/
private theorem readFirst_of_not_begins (h : ¬ Text.Begins bs) :
    readFirst bs = .error ⟨Text.size (Text.decode bs).1, .notUtf8⟩ := by
  obtain ⟨n, hending⟩ : ∃ n, (Text.decode bs).2 = .invalid n := by
    by_contra hnone
    exact h (Text.begins_iff.2 (not_exists.1 hnone))
  have hdecode : Text.decode bs = ((Text.decode bs).1, .invalid n) := Prod.ext rfl hending
  rw [readFirst, hdecode]

/-- An element takes no more bytes than the text that the buffer begins with, however it goes on. -/
private theorem used_le_size (h : readFirst bs = .ok (some (e, used))) (more : List UInt8) :
    used ≤ Text.size (Text.decode (bs ++ more)).1 := by
  have hbegins := begins_of_readFirst h
  rw [readFirst_eq_readFront (Text.begins_iff.1 hbegins)] at h
  obtain ⟨count, rfl⟩ := used_of_readFront h
  obtain ⟨later, hlater⟩ := (List.take_prefix count _).trans (hbegins.decode_prefix more)
  rw [← hlater, Text.size_append]
  omega

/-- With more bytes behind it an element is read as before if the buffer may still become a text,
and only then: otherwise nothing is read, and what is reported is the first byte behind the element
that is no text. -/
theorem readFirst_followed (h : readFirst bs = .ok (some (e, used))) (more : List UInt8) :
    (readFirst (bs ++ more) = .ok (some (e, used)) ↔ Text.Begins (bs ++ more)) ∧
      (¬ Text.Begins (bs ++ more) → used ≤ Text.size (Text.decode (bs ++ more)).1 ∧
        readFirst (bs ++ more) = .error ⟨Text.size (Text.decode (bs ++ more)).1, .notUtf8⟩) := by
  refine ⟨⟨begins_of_readFirst, fun hbegins => ?_⟩, fun hnot => ?_⟩
  · rw [readFirst_append hbegins (by simp [h]), h]
  · exact ⟨used_le_size h more, readFirst_of_not_begins hnot⟩

/-- An element without attributes and children. -/
def unit : Element :=
  ⟨"unit", [], []⟩

/-- The seven bytes of the smallest element are read. -/
theorem readFirst_unit : readFirst (Text.encode unit.write) = .ok (some (unit, 7)) := by
  have hnamed : unit.Named := by
    have hname : IsName "unit" := by decide +kernel
    simp [Element.Named, Element.toNode, unit, Node.Throughout, AllThroughout, Node.HasNames, hname]
  have hread := readFirst_write hnamed (Text.begins_encode [])
  rwa [Text.encode_nil, List.append_nil] at hread

/-- An element is read in front of the first byte of a character, and is not read in front of a byte
of none. -/
theorem readFirst_unit_followed :
    readFirst (Text.encode unit.write ++ [0xE2]) = .ok (some (unit, 7)) ∧
      readFirst (Text.encode unit.write ++ [0xFF]) = .error ⟨7, .notUtf8⟩ := by
  have hcut : Text.Begins (Text.encode unit.write ++ [0xE2]) :=
    (Text.begins_lead (by decide) (by decide)).behind unit.write
  have hdecode : Text.decode (Text.encode unit.write ++ [0xFF]) = (unit.write, .invalid 1) := by
    rw [Text.decode_encode_append, show Text.decode [0xFF] = ([], .invalid 1) from rfl,
      List.append_nil]
  have hnot : ¬ Text.Begins (Text.encode unit.write ++ [0xFF]) := fun h =>
    Text.begins_iff.1 h 1 (congrArg Prod.snd hdecode)
  obtain ⟨-, hrefused⟩ := (readFirst_followed readFirst_unit [0xFF]).2 hnot
  rw [hdecode] at hrefused
  exact ⟨(readFirst_followed readFirst_unit [0xE2]).1.2 hcut, hrefused⟩

/-- Not every element that a buffer shows is read whatever follows. -/
theorem exists_hidden : ∃ bs more e used,
    readFirst bs = .ok (some (e, used)) ∧ readFirst (bs ++ more) ≠ .ok (some (e, used)) := by
  refine ⟨Text.encode unit.write, [0xFF], unit, 7, readFirst_unit, fun hread => ?_⟩
  have hending := Text.begins_iff.1 (begins_of_readFirst hread) 1
  rw [Text.decode_encode_append] at hending
  exact hending rfl

end ProofDesk.Markup
