import ProofDesk.Proofs.Markup.Reader
import ProofDesk.Proofs.Text.Utf8

/-!
# What has been read stands

A buffer is read again whenever more bytes arrive. Each part of the reader says either that more
characters are needed, or what it has found, and in the latter case finds the same whatever follows
(`Outcome.Stands`): it gives a verdict on a name, a value or a text only when the character behind
it has arrived. So an element, or a fault, that the first bytes of a text show is what the whole
text shows (`readFirst_append`).
-/

namespace ProofDesk.Markup

/-! ## What more characters change -/

/-- The outcome with `more` behind what was left. -/
def Outcome.append {α : Type} (more : List Char) : Outcome α → Outcome α
  | .done value rest => .done value (rest ++ more)
  | .incomplete => .incomplete
  | .malformed here cause => .malformed (here ++ more) cause

/-- Once more characters have arrived the outcome is `later`: as before, unless it was that more are
needed. -/
def Outcome.Stands {α : Type} (more : List Char) (x later : Outcome α) : Prop :=
  x ≠ .incomplete → later = x.append more

section Stands

variable {α β : Type} {more : List Char}

/-- Needing more is no answer, so it stands. -/
theorem stands_incomplete (later : Outcome α) : Outcome.Stands more .incomplete later :=
  fun h => absurd rfl h

/-- A result stands if more comes behind it and goes to the rest. -/
theorem stands_done (value : α) (rest : List Char) :
    (Outcome.done value rest).Stands more (.done value (rest ++ more)) :=
  fun _ => rfl

/-- A failure stands if more comes behind it and goes to the rest. -/
theorem stands_malformed (here : List Char) (cause : Cause) :
    (Outcome.malformed here cause : Outcome α).Stands more (.malformed (here ++ more) cause) :=
  fun _ => rfl

/-- What is read second stands if what is read first does. -/
theorem Outcome.Stands.bind {x x' : Outcome α} {f : α → List Char → Outcome β}
    (h : x.Stands more x')
    (hf : ∀ a rest, x = .done a rest → (f a rest).Stands more (f a (rest ++ more))) :
    (x.bind f).Stands more (x'.bind f) := by
  cases x with
  | incomplete => exact stands_incomplete _
  | malformed here cause =>
    rw [h (by simp)]
    exact stands_malformed here cause
  | done a rest =>
    rw [h (by simp)]
    exact hf a rest rfl

/-- The characters up to the first that ends a run are those of the run, whatever follows that
one. -/
theorem span_append {p : Char → Bool} {cs rest : List Char} {c : Char}
    (h : cs.dropWhile p = c :: rest) (more : List Char) :
    (cs ++ more).dropWhile p = c :: (rest ++ more) ∧ (cs ++ more).takeWhile p = cs.takeWhile p := by
  have hlength : (cs.takeWhile p).length ≠ cs.length := by
    intro heq
    have hsplit := congrArg List.length (List.takeWhile_append_dropWhile (p := p) (l := cs))
    rw [List.length_append, h, List.length_cons] at hsplit
    omega
  rw [List.dropWhile_append, List.takeWhile_append, h, if_neg hlength]
  exact ⟨rfl, rfl⟩

/-- Once something stands behind blanks, it is what the blanks are trimmed from, whatever
follows. -/
theorem trimFront_append {cs rest : List Char} {c : Char} (h : Text.trimFront cs = c :: rest) :
    Text.trimFront (cs ++ more) = c :: (rest ++ more) :=
  (span_append h more).1

theorem stands_readName (cs : List Char) : (readName cs).Stands more (readName (cs ++ more)) := by
  intro hne
  unfold readName at hne ⊢
  dsimp only at hne ⊢
  cases h : cs.dropWhile isNameChar with
  | nil => simp [h] at hne
  | cons c rest =>
    obtain ⟨hdrop, htake⟩ := span_append h more
    rw [hdrop, htake]
    dsimp only
    split <;> rfl

theorem stands_readChar (wanted : Char) (cs : List Char) :
    (readChar wanted cs).Stands more (readChar wanted (cs ++ more)) := by
  cases cs with
  | nil => exact stands_incomplete _
  | cons c rest =>
    simp only [List.cons_append, readChar]
    split
    · exact stands_done () rest
    · exact stands_malformed (c :: rest) _

theorem stands_readValue (cs : List Char) :
    (readValue cs).Stands more (readValue (cs ++ more)) := by
  cases cs with
  | nil => exact stands_incomplete _
  | cons quote cs =>
    simp only [List.cons_append, readValue]
    split
    · cases h : cs.dropWhile (· != quote) with
      | nil => exact stands_incomplete _
      | cons c rest =>
        -- the closing quote has been seen, so more characters change nothing in front of it
        obtain ⟨hdrop, htake⟩ := span_append h more
        rw [hdrop, htake]
        dsimp only
        split
        · next value _ => exact stands_done value rest
        · next cause _ => exact stands_malformed cs cause
    · exact stands_malformed (quote :: cs) _

/-- Blanks that more blanks may follow are no fault: what is read behind them waits for more. -/
theorem stands_trimFront {f : List Char → Outcome α} (hnil : f [] = .incomplete)
    (hf : ∀ cs, (f cs).Stands more (f (cs ++ more))) (cs : List Char) :
    (f (Text.trimFront cs)).Stands more (f (Text.trimFront (cs ++ more))) := by
  cases h : Text.trimFront cs with
  | nil => exact hnil ▸ stands_incomplete _
  | cons c rest =>
    rw [trimFront_append h]
    exact hf (c :: rest)

theorem stands_readAttr (cs : List Char) : (readAttr cs).Stands more (readAttr (cs ++ more)) := by
  refine (stands_readName cs).bind fun key rest _ => ?_
  refine (stands_trimFront rfl (stands_readChar '=') rest).bind fun _ rest _ => ?_
  refine (stands_trimFront rfl stands_readValue rest).bind fun value rest _ => ?_
  exact stands_done (key, value) rest

theorem stands_readTagEnd (name : String) (attrs : List (String × String)) (cs : List Char) :
    (readTagEnd name attrs cs).Stands more (readTagEnd name attrs (cs ++ more)) := by
  -- every attribute takes characters
  induction hn : cs.length using Nat.strongRecOn generalizing attrs cs with
  | _ n ih =>
    rw [readTagEnd_eq, readTagEnd_eq name attrs (cs ++ more)]
    cases h : Text.trimFront cs with
    | nil => exact stands_incomplete _
    | cons c rest =>
      have hlength := trimFront_length cs
      rw [trimFront_append h]
      dsimp only
      split
      · exact (stands_readChar '>' rest).bind fun _ rest _ => stands_done _ rest
      · split
        · exact stands_done _ rest
        · refine (stands_readAttr (c :: rest)).bind fun attr rest' hr => ?_
          have hshorter := readAttr_length hr
          rw [h] at hlength
          exact ih _ (by omega) (attr :: attrs) rest' rfl

theorem stands_readTag (cs : List Char) : (readTag cs).Stands more (readTag (cs ++ more)) := by
  refine (stands_readChar '<' cs).bind fun _ rest _ => ?_
  refine (stands_readName rest).bind fun name rest _ => ?_
  exact stands_readTagEnd name [] rest

theorem stands_readClose (opened : String) (cs : List Char) :
    (readClose opened cs).Stands more (readClose opened (cs ++ more)) := by
  refine (stands_readName cs).bind fun close rest _ => ?_
  split
  · exact stands_trimFront rfl (stands_readChar '>') rest
  · exact stands_malformed rest _

theorem stands_readContent (inner : Open) (outer : List Open) (cs : List Char) :
    (readContent inner outer cs).Stands more (readContent inner outer (cs ++ more)) := by
  -- every tag and every run of text takes characters
  induction hn : cs.length using Nat.strongRecOn generalizing inner outer cs with
  | _ n ih =>
    rcases content_cases cs with hnone | ⟨rest, rfl⟩ | ⟨c, rest, hc, rfl⟩ | ⟨c, rest, hc, rfl⟩
    · rw [hnone inner outer]
      exact stands_incomplete _
    · rw [List.cons_append, List.cons_append, readContent_close, readContent_close]
      refine (stands_readClose inner.name rest).bind fun _ rest' hr => ?_
      have hshorter := readClose_length hr
      cases outer with
      | nil => exact stands_done _ rest'
      | cons o os => exact ih _ (by simp at hn; omega) _ _ rest' rfl
    · rw [List.cons_append, List.cons_append, readContent_open _ _ hc, readContent_open _ _ hc]
      refine (stands_readTag ('<' :: c :: rest)).bind fun tag rest' hr => ?_
      have hshorter := readTag_length hr
      split
      · exact ih _ (by omega) _ _ rest' rfl
      · exact ih _ (by omega) _ _ rest' rfl
    · rw [List.cons_append, readContent_text _ _ hc, readContent_text _ _ hc]
      cases h : rest.dropWhile (· != '<') with
      | nil => exact stands_incomplete _
      | cons next after =>
        obtain ⟨hdrop, htake⟩ := span_append h more
        have hshorter := (List.dropWhile_suffix (· != '<') (l := rest)).length_le
        rw [h] at hshorter
        rw [hdrop, htake]
        dsimp only
        split
        · exact ih _ (by simp at hn; omega) _ _ (next :: after) rfl
        · exact stands_malformed (c :: rest) _

/-- What is said of an element stands. -/
theorem stands_readElement (cs : List Char) :
    (readElement cs).Stands more (readElement (cs ++ more)) := by
  refine (stands_readTag cs).bind fun tag rest _ => ?_
  split
  · exact stands_done _ rest
  · exact stands_readContent _ _ rest

end Stands

/-! ## Buffers -/

/-- Read one element off the front of a text, behind blanks. -/
def readFront (cs : List Char) : Except ReadError (Option (Element × Nat)) :=
  match readElement (Text.trimFront cs) with
  | .done e rest => .ok (some (e, passed cs rest))
  | .incomplete => .ok none
  | .malformed fault cause => .error ⟨passed cs fault, cause⟩

section Buffers

variable {cs : List Char} {bs more : List UInt8}

/-- A buffer that may still become a text is read by the characters it holds. -/
theorem readFirst_eq_readFront (h : ∀ n, (Text.decode bs).2 ≠ .invalid n) :
    readFirst bs = readFront (Text.decode bs).1 := by
  unfold readFirst readFront
  split
  · next cs n hd => exact absurd (by rw [hd]) (h n)
  · next cs ending _ hd =>
    rw [hd]
    dsimp only
    split
    · next ht => rw [ht]; rfl
    · next ht => exact ht ▸ rfl

/-- What stands in front of a part does not depend on what follows it. -/
theorem passed_append (cs here later : List Char) :
    passed (cs ++ later) (here ++ later) = passed cs here := by
  unfold passed
  have hcount : (cs ++ later).length - (here ++ later).length = cs.length - here.length := by
    simp only [List.length_append]
    omega
  rw [hcount, List.take_append_of_le_length (Nat.sub_le _ _)]

/-- What has been read off a text stands, whatever follows the text. -/
theorem readFront_append (later : List Char) (h : readFront cs ≠ .ok none) :
    readFront (cs ++ later) = readFront cs := by
  have hstands :
      (readElement (Text.trimFront cs)).Stands later (readElement (Text.trimFront (cs ++ later))) :=
    stands_trimFront rfl stands_readElement cs
  unfold readFront at h ⊢
  cases hr : readElement (Text.trimFront cs) with
  | incomplete => simp [hr] at h
  | done e rest =>
    rw [hstands (by simp [hr]), hr]
    simp only [Outcome.append, passed_append]
  | malformed fault cause =>
    rw [hstands (by simp [hr]), hr]
    simp only [Outcome.append, passed_append]

/-- What has been read off the first bytes of a text stands when more of them arrive. -/
theorem readFirst_append (h : Text.Begins (bs ++ more)) (hne : readFirst bs ≠ .ok none) :
    readFirst (bs ++ more) = readFirst bs := by
  obtain ⟨front, tail, rfl, hfront, hvalid⟩ := h.front.exists_eq
  obtain ⟨-, -, -, -, hvalid'⟩ := h.exists_eq
  -- the reader sees only the whole characters, of which there are at least as many later
  rw [readFirst_eq_readFront hvalid, hfront] at hne ⊢
  rw [readFirst_eq_readFront hvalid', List.append_assoc, Text.decode_encode_append]
  exact readFront_append _ hne

/-- What an element and the blanks in front of it take are whole characters. -/
theorem used_of_readFront {e : Element} {used : Nat} (h : readFront cs = .ok (some (e, used))) :
    ∃ count, used = Text.size (cs.take count) := by
  unfold readFront at h
  split at h
  · simp only [Except.ok.injEq, Option.some.injEq, Prod.mk.injEq] at h
    exact ⟨_, h.2.symm⟩
  · simp at h
  · simp at h

/-- What is left behind an element begins a text again. -/
theorem begins_drop {e : Element} {used : Nat} (h : Text.Begins (bs ++ more))
    (hr : readFirst bs = .ok (some (e, used))) :
    used ≤ bs.length ∧ Text.Begins (bs.drop used ++ more) := by
  obtain ⟨front, tail, rfl, hfront, hvalid⟩ := h.front.exists_eq
  rw [readFirst_eq_readFront hvalid, hfront] at hr
  obtain ⟨count, rfl⟩ := used_of_readFront hr
  have hsplit :
      Text.encode front = Text.encode (front.take count) ++ Text.encode (front.drop count) := by
    rw [← Text.encode_append, List.take_append_drop]
  rw [hsplit, List.append_assoc, List.append_assoc] at h
  rw [hsplit, List.append_assoc, ← Text.length_encode, List.drop_left, List.append_assoc]
  exact ⟨by simp, h.of_append⟩

end Buffers

end ProofDesk.Markup
