import ProofDesk.Proofs.Text.Utf8
import ProofDesk.Text.Input

/-!
# Lines in the bytes of texts

A line feed among the bytes of a text is one of its characters, since a character of several bytes
has only high ones (`lineFeed_notMem_encode`). So a stream is cut where its texts have their line
feeds and nowhere else, and a line without carriage returns is read as it was written.
-/

namespace ProofDesk.Text

/-- No other character has the byte of a line feed. -/
private theorem eq_lineFeed {c : Char} (h : '\n'.toUInt8 ∈ String.utf8EncodeChar c) : c = '\n' := by
  rcases utf8EncodeChar_cases c with ⟨b, hb⟩ | hhigh
  · have hspells := spells_utf8EncodeChar c
    rw [hb] at h hspells
    cases hspells with
    | one hupper hchar =>
      rw [← hchar, ← List.mem_singleton.1 h]
      rfl
  · exact absurd (hhigh _ h) (by decide)

/-- A text without a line feed has no byte of one. -/
private theorem lineFeed_notMem_encode {cs : List Char} (h : '\n' ∉ cs) :
    '\n'.toUInt8 ∉ encode cs := by
  intro hmem
  obtain ⟨c, hc, hbyte⟩ := List.mem_flatMap.1 hmem
  exact h (eq_lineFeed hbyte ▸ hc)

/-- A string without a line feed has no byte of one. -/
theorem lineFeed_notMem_bytes {s : String} (h : '\n' ∉ s.toList) : '\n'.toUInt8 ∉ bytes s :=
  lineFeed_notMem_encode h

section CutLines

variable {bs : List UInt8}

/-- What has no line feed is the beginning of a line. -/
theorem cutLines_of_notMem (h : '\n'.toUInt8 ∉ bs) : cutLines bs = ([], bs) := by
  induction bs with
  | nil => rfl
  | cons b bs ih =>
    rw [List.mem_cons, not_or] at h
    rw [cutLines, ih h.2]
    exact if_neg (Ne.symm h.1)

/-- A line is cut off at its line feed, whatever follows. -/
theorem cutLines_line_append (h : '\n'.toUInt8 ∉ bs) (rest : List UInt8) :
    cutLines (bs ++ '\n'.toUInt8 :: rest) =
      ((bs ++ ['\n'.toUInt8]) :: (cutLines rest).1, (cutLines rest).2) := by
  induction bs with
  | nil => rfl
  | cons b bs ih =>
    rw [List.mem_cons, not_or] at h
    rw [List.cons_append, cutLines, ih h.2]
    exact if_neg (Ne.symm h.1)

end CutLines

section Line

variable {cs : List Char}

/-- The text of a line is its characters without the ending. -/
theorem lineText_encode (cs : List Char) :
    lineText (encode cs) = .ok (String.ofList (dropEnding cs)) := by
  rw [lineText, decode_encode]

/-- Where there is no carriage return none is dropped. -/
private theorem dropReturn_of_notMem (h : '\r' ∉ cs) : dropReturn cs = cs :=
  if_neg fun hlast => h (List.mem_of_getLast? hlast)

/-- A line that was not ended has no ending to drop. -/
theorem dropEnding_of_notMem (h : '\n' ∉ cs) : dropEnding cs = cs :=
  if_neg fun hlast => h (List.mem_of_getLast? hlast)

/-- The ending of a line is its line feed, if no carriage return stands in front. -/
theorem dropEnding_lineFeed (h : '\r' ∉ cs) : dropEnding (cs ++ ['\n']) = cs := by
  rw [dropEnding, if_pos List.getLast?_concat, List.dropLast_concat, dropReturn_of_notMem h]

end Line

end ProofDesk.Text
