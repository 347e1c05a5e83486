import Mathlib.Data.List.Basic
import Mathlib.Tactic.Common
import ProofDesk.Markup.Reader

/-!
# Reading markup, part by part

What the reader does next, by what it finds next, with the results of its parts put together by
`Outcome.bind`. Inside an element there are three ways to go on: a closing tag, an opening tag, or
text up to the next bracket (`content_cases`).
-/

namespace ProofDesk.Markup

section Outcome

variable {α β : Type} {f : α → List Char → Outcome β}

@[simp] theorem Outcome.bind_done (a : α) (rest : List Char) :
    (Outcome.done a rest).bind f = f a rest := rfl

@[simp] theorem Outcome.bind_incomplete : (Outcome.incomplete : Outcome α).bind f = .incomplete :=
  rfl

@[simp] theorem Outcome.bind_malformed (here : List Char) (cause : Cause) :
    (Outcome.malformed here cause : Outcome α).bind f = .malformed here cause := rfl

end Outcome

section Runs

variable {c : Char} {run : List Char}

/-- A run of characters ends at the first that does not belong to it. -/
theorem span_run {p : Char → Bool} (hrun : ∀ x ∈ run, p x = true) (hc : p c = false)
    (rest : List Char) :
    (run ++ c :: rest).dropWhile p = c :: rest ∧ (run ++ c :: rest).takeWhile p = run := by
  have hc' : ¬ p c = true := by simp [hc]
  rw [List.dropWhile_append_of_pos hrun, List.takeWhile_append_of_pos hrun,
    List.dropWhile_cons_of_neg hc', List.takeWhile_cons_of_neg hc', List.append_nil]
  exact ⟨rfl, rfl⟩

/-- What is read up to a delimiter is all that stands in front of it, if the delimiter is not in
there. -/
theorem span_delimiter (h : c ∉ run) (rest : List Char) :
    (run ++ c :: rest).dropWhile (· != c) = c :: rest ∧
    (run ++ c :: rest).takeWhile (· != c) = run := by
  refine span_run (fun x hx => ?_) (by simp) rest
  rw [bne_iff_ne]
  rintro rfl
  exact h hx

end Runs

/-- The end of a tag is a bracket, perhaps behind a slash, and anything else is one more
attribute. -/
theorem readTagEnd_eq (name : String) (attrs : List (String × String)) (cs : List Char) :
    readTagEnd name attrs cs =
      match Text.trimFront cs with
      | [] => .incomplete
      | c :: rest =>
        if c = '/' then (readChar '>' rest).bind fun _ rest =>
          .done ⟨name, attrs.reverse, true⟩ rest
        else if c = '>' then .done ⟨name, attrs.reverse, false⟩ rest
        else (readAttr (c :: rest)).bind fun attr rest => readTagEnd name (attr :: attrs) rest := by
  -- the two sides branch alike; they differ in how a failed attribute is passed on
  rw [readTagEnd]
  split
  · next h => rw [h]
  · next c rest h =>
    rw [h]
    dsimp only
    split
    · rfl
    · split
      · rfl
      · split
        · next hr => rw [hr, Outcome.bind_done]
        · next hr => rw [hr, Outcome.bind_incomplete]
        · next hr => rw [hr, Outcome.bind_malformed]

/-- What an open element goes on with: not enough to tell, a closing tag, an opening tag, or
text. -/
theorem content_cases (cs : List Char) :
    (∀ inner outer, readContent inner outer cs = .incomplete) ∨ (∃ rest, cs = '<' :: '/' :: rest) ∨
      (∃ c rest, c ≠ '/' ∧ cs = '<' :: c :: rest) ∨ ∃ c rest, c ≠ '<' ∧ cs = c :: rest := by
  cases cs with
  | nil => exact .inl fun inner outer => by rw [readContent]
  | cons c cs =>
    by_cases hc : c = '<'
    · subst hc
      cases cs with
      | nil => exact .inl fun inner outer => by rw [readContent]
      | cons d rest =>
        by_cases hd : d = '/'
        · exact .inr (.inl ⟨rest, by rw [hd]⟩)
        · exact .inr (.inr (.inl ⟨d, rest, hd, rfl⟩))
    · exact .inr (.inr (.inr ⟨c, cs, hc, rfl⟩))

section Content

variable (inner : Open) (outer : List Open)

/-- A closing tag ends the innermost element, which goes to the content of the one around it. -/
theorem readContent_close (rest : List Char) : readContent inner outer ('<' :: '/' :: rest) =
    (readClose inner.name rest).bind fun _ rest =>
      match outer with
      | [] => .done inner.close rest
      | o :: os => readContent (o.push inner.close.toNode) os rest := by
  rw [readContent]
  split
  · next hr => exact hr ▸ rfl
  · next hr => rw [hr, Outcome.bind_incomplete]
  · next hr => rw [hr, Outcome.bind_malformed]

/-- An opening tag puts one more element around what follows, unless it closes itself. -/
theorem readContent_open {c : Char} (hc : c ≠ '/') (rest : List Char) :
    readContent inner outer ('<' :: c :: rest) =
    (readTag ('<' :: c :: rest)).bind fun tag rest =>
      if tag.isClosed then readContent (inner.push (.element tag.name tag.attrs [])) outer rest
      else readContent ⟨tag.name, tag.attrs, []⟩ (inner :: outer) rest := by
  rw [readContent]
  · split
    · next hr => rw [hr, Outcome.bind_done]
    · next hr => rw [hr, Outcome.bind_incomplete]
    · next hr => rw [hr, Outcome.bind_malformed]
  · simpa using hc

/-- Text goes on to the next bracket. -/
theorem readContent_text {c : Char} (hc : c ≠ '<') (rest : List Char) :
    readContent inner outer (c :: rest) =
    match rest.dropWhile (· != '<') with
    | [] => .incomplete
    | next :: after =>
      match unescape (c :: rest.takeWhile (· != '<')) with
      | .ok text => readContent (inner.push (.text text)) outer (next :: after)
      | .error cause => .malformed (c :: rest) cause := by
  rw [readContent]
  · split
    · next h => rw [h]
    · next h =>
      generalize rest.dropWhile (· != '<') = tail at h ⊢
      subst h
      rfl
  all_goals simp [hc]

end Content

end ProofDesk.Markup
