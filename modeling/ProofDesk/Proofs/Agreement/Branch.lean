import ProofDesk.Proofs.Document.Coherent

/-!
# What a session knows of the prover's branch

A prover keeps the states that it has accepted on a branch, each with the command that led to it.
The sentences that have been sent tell what a session knows of the branch: all of it, or the front
of it once an error has been found in the last of them (`Tracks`). While a sentence waits for its
answer the session knows all of the branch as it was when the sentence was sent (`Awaited`).
-/

namespace ProofDesk

/-- States on top of the one that a prover started in, each with the command that led to it. -/
abbrev Branch := List (StateId × String)

namespace Entry

/-- The entry without the news that it has been checked, which the prover's branch does not depend
on. -/
def plain (e : Entry) : Entry :=
  { e with processed := false }

@[simp] theorem id_plain (e : Entry) : e.plain.id = e.id := rfl

@[simp] theorem text_plain (e : Entry) : e.plain.text = e.text := rfl

@[simp] theorem stateId_plain (e : Entry) : e.plain.stateId = e.stateId := rfl

@[simp] theorem phase_plain (e : Entry) : e.plain.phase = e.phase := rfl

/-- That a sentence has been checked is not part of its plain entry. -/
@[simp] theorem plain_checked (e : Entry) : e.checked.plain = e.plain := rfl

end Entry

/-- The states after entries that have been accepted, with their texts. -/
def Branch.ofEntries (t : List Entry) : Branch :=
  t.filterMap fun e => e.stateId.map (·, e.text)

namespace Branch

@[simp] theorem ofEntries_nil : ofEntries [] = [] := rfl

theorem ofEntries_append (t t' : List Entry) : ofEntries (t ++ t') = ofEntries t ++ ofEntries t' :=
  List.filterMap_append

/-- A sentence without a state adds nothing to the branch. -/
theorem ofEntries_concat_of_none (t : List Entry) {e : Entry} (he : e.stateId = none) :
    ofEntries (t ++ [e]) = ofEntries t := by
  rw [ofEntries_append]
  simp [ofEntries, he]

/-- A sentence with a state adds that state, with its text, to the end of the branch. -/
theorem ofEntries_concat_of_some (t : List Entry) {e : Entry} {state : StateId}
    (he : e.stateId = some state) :
    ofEntries (t ++ [e]) = ofEntries t ++ [(state, e.text)] := by
  rw [ofEntries_append]
  simp [ofEntries, he]

/-- A front part of a trail has a front part of the branch. -/
theorem ofEntries_take_isPrefix (t : List Entry) (i : Nat) :
    ofEntries (t.take i) <+: ofEntries t := by
  refine ⟨ofEntries (t.drop i), ?_⟩
  rw [← ofEntries_append, List.take_append_drop]

/-- Entries that all have states are on the branch one by one. -/
theorem map_snd_ofEntries {t : List Entry} (ht : ∀ e ∈ t, e.stateId.isSome) :
    (ofEntries t).map (·.2) = t.map (·.text) := by
  induction t with
  | nil => rfl
  | cons e t ih =>
    obtain ⟨state, hstate⟩ := Option.isSome_iff_exists.1 (ht e List.mem_cons_self)
    have hrest := ih fun e' he' => ht e' (List.mem_cons_of_mem _ he')
    simp only [ofEntries] at hrest ⊢
    simp [hstate, hrest]

/-- The last state known is the last one on the branch. -/
theorem lastState_eq (root : StateId) (t : List Entry) :
    Document.lastState (some root) t = (root :: (ofEntries t).map (·.1)).getLast? := by
  rcases List.eq_nil_or_concat t with rfl | ⟨es, e, rfl⟩
  · rfl
  · rw [List.concat_eq_append, Document.lastState_concat]
    cases he : e.stateId with
    | none =>
      rw [ofEntries_concat_of_none es he, ← lastState_eq root es]
      rfl
    | some state =>
      rw [ofEntries_concat_of_some es he, List.map_append, List.map_singleton, ← List.cons_append,
        List.getLast?_concat]
      rfl
termination_by t.length

end Branch

/-- An error has been found in the last entry, and what has been accepted is the front of the
branch. -/
def Dirty (t : List Entry) (b : Branch) : Prop :=
  Branch.ofEntries t <+: b ∧ ∃ e, t.getLast? = some e ∧ e.phase = .error

/-- What has been accepted is all of the branch, or an error has been found. -/
def Tracks (t : List Entry) (b : Branch) : Prop :=
  Branch.ofEntries t = b ∨ Dirty t b

/-- The sentence `id` was sent on top of the branch `b` and waits for its answer, or an error has
been found meanwhile and the sentence is discarded. -/
inductive Awaited (t : List Entry) (id : SentenceId) (text : String) (b : Branch) : Prop
  | waiting {es : List Entry} {e : Entry} (ht : t = es ++ [e]) (hid : e.id = id)
      (htext : e.text = text)
    (hstate : e.stateId = none) (hb : Branch.ofEntries es = b) : Awaited t id text b
  | discarded (h : Dirty t b) : Awaited t id text b

/-- An error is found in an accepted entry, and those behind it are discarded. -/
inductive Fails (t : List Entry) : List Entry → Prop
  | intro {i : Nat} {e : Entry} (hi : t[i]? = some e) (he : e.stateId.isSome) :
    Fails t (t.take i ++ [e.refused])

section Errors

variable {t t' : List Entry} {b : Branch} {id : SentenceId} {text : String}

/-- A trail in which an error has been found tracks the branch. -/
theorem Dirty.tracks (h : Dirty t b) : Tracks t b :=
  .inr h

/-- What a trail that tracks a branch has accepted is the front of the branch. -/
theorem Tracks.isPrefix (h : Tracks t b) : Branch.ofEntries t <+: b := by
  rcases h with rfl | h
  · exact List.prefix_refl _
  · exact h.1

/-- What has been accepted while an answer is awaited is the front of the branch. -/
theorem Awaited.isPrefix (h : Awaited t id text b) : Branch.ofEntries t <+: b := by
  cases h with
  | waiting ht hid htext hstate hb =>
    simp only [ht, Branch.ofEntries_concat_of_none _ hstate, hb, List.prefix_refl]
  | discarded h => exact h.1

/-- A branch that goes on has the same front. -/
theorem Dirty.append (h : Dirty t b) (more : Branch) : Dirty t (b ++ more) :=
  ⟨h.1.trans (List.prefix_append _ _), h.2⟩

/-- Where an error is found, what has been accepted is at least the front of the branch. -/
theorem Fails.dirty (h : Fails t t') (hb : Branch.ofEntries t <+: b) : Dirty t' b := by
  cases h with
  | @intro i e hi he =>
    refine ⟨List.IsPrefix.trans ?_ hb, e.refused, List.getLast?_concat, rfl⟩
    obtain ⟨state, hstate⟩ := Option.isSome_iff_exists.1 he
    have htake : t.take (i + 1) = t.take i ++ [e] := by
      rw [List.take_add_one, hi]
      rfl
    -- being in error does not take the state away
    have hsame : Branch.ofEntries (t.take i ++ [e.refused]) =
        Branch.ofEntries (t.take i ++ [e]) := by
      rw [Branch.ofEntries_concat_of_some _ hstate,
        Branch.ofEntries_concat_of_some (e := e.refused) _ hstate]
      rfl
    rw [hsame, ← htake]
    exact Branch.ofEntries_take_isPrefix t (i + 1)

/-- An error behind a position changes nothing in front of it; one in front of it discards what is
behind. -/
theorem Fails.take (h : Fails t t') (k : Nat) :
    t'.take k = t.take k ∨ Fails (t.take k) (t'.take k) := by
  cases h with
  | @intro i e hi he =>
    have hlt := (List.getElem?_eq_some_iff.1 hi).1
    have hlen : (t.take i).length = i := by
      rw [List.length_take, Nat.min_eq_left (Nat.le_of_lt hlt)]
    -- the error is behind the cut or in front of it
    by_cases hki : k ≤ i
    · left
      rw [List.take_append_of_le_length (by omega), List.take_take, Nat.min_eq_left hki]
    · right
      have hget : (t.take k)[i]? = some e := by
        rw [List.getElem?_take_of_lt (by omega), hi]
      have hwhole : (t.take i ++ [e.refused]).take k = (t.take k).take i ++ [e.refused] := by
        rw [List.take_take, Nat.min_eq_left (by omega)]
        refine List.take_of_length_le ?_
        rw [List.length_append, hlen, List.length_singleton]
        omega
      rw [hwhole]
      exact .intro hget he

/-- A trail goes on tracking its branch when an error is found in it. -/
theorem Tracks.fails (h : Tracks t b) (hf : Fails t t') : Tracks t' b :=
  (hf.dirty h.isPrefix).tracks

/-- A front part of a trail goes on tracking its branch when an error is found in the trail. -/
theorem Tracks.take_fails {k : Nat} (h : Tracks (t.take k) b) (hf : Fails t t') :
    Tracks (t'.take k) b := by
  rcases hf.take k with heq | hf
  · rw [heq]
    exact h
  · exact h.fails hf

/-- When an error is found while an answer is awaited, the answer is one to a discarded sentence. -/
theorem Awaited.fails (h : Awaited t id text b) (hf : Fails t t') : Awaited t' id text b :=
  .discarded (hf.dirty h.isPrefix)

end Errors

/-- A sentence stands at a position of a trail, if it still does. -/
def StandsAt (t : List Entry) (id : SentenceId) (k : Nat) : Prop :=
  ∀ (i : Nat) (e : Entry), t[i]? = some e → (e.id = id ↔ i = k)

section Answers

variable {t t' es : List Entry} {e : Entry} {b : Branch} {id : SentenceId} {text : String}

/-- A sentence stands where it stood, if it still does, when an error is found. -/
theorem StandsAt.fails {k : Nat} (h : StandsAt t id k) (hf : Fails t t') : StandsAt t' id k := by
  cases hf with
  | @intro i e hi he =>
    intro j e' hj
    rcases eq_or_eq_of_concat hj with ⟨hlt, hj⟩ | ⟨rfl, rfl⟩
    · rw [List.length_take] at hlt
      rw [List.getElem?_take_of_lt (by omega)] at hj
      exact h j e' hj
    · have hlt := (List.getElem?_eq_some_iff.1 hi).1
      rw [List.length_take, Nat.min_eq_left (Nat.le_of_lt hlt)]
      exact h i e hi

/-- A sentence that is not there any more does not stand in front of the end. -/
theorem StandsAt.length_le {k : Nat} (h : StandsAt t id k) (hid : ∀ e ∈ t, e.id ≠ id) :
    t.length ≤ k := by
  by_contra hlt
  rw [Nat.not_le] at hlt
  have hget := List.getElem?_eq_getElem hlt
  exact hid _ (List.getElem_mem hlt) ((h k _ hget).2 rfl)

/-- The sentence that waits is the last one, unless it has been discarded. -/
theorem Awaited.of_pending (h : Awaited (es ++ [e]) id text b) (he : e.phase = .pending) :
    Branch.ofEntries es = b ∧ e.text = text ∧ e.stateId = none := by
  cases h with
  | waiting ht hid htext hstate hb =>
    obtain ⟨rfl, hlast⟩ := List.append_inj' ht rfl
    rw [List.singleton_inj.1 hlast]
    exact ⟨hb, htext, hstate⟩
  | discarded h =>
    obtain ⟨-, last, hlast, herror⟩ := h
    rw [List.getLast?_concat, Option.some.injEq] at hlast
    rw [hlast, herror] at he
    simp at he

/-- Accepting the sentence that waits puts its state on the trail and on the branch. -/
theorem Awaited.accepted (h : Awaited (es ++ [e]) id text b) (he : e.phase = .pending)
    (state : StateId) :
    Tracks (es ++ [e.accepted state]) (b ++ [(state, text)]) := by
  obtain ⟨hb, htext, -⟩ := h.of_pending he
  left
  rw [Branch.ofEntries_concat_of_some (e := e.accepted state) _ rfl, hb]
  show b ++ [(state, e.text)] = _
  rw [htext]

/-- Refusing the sentence that waits leaves the branch as it is. -/
theorem Awaited.refused (h : Awaited (es ++ [e]) id text b) (he : e.phase = .pending) :
    Tracks (es ++ [e.refused]) b := by
  obtain ⟨hb, -, hstate⟩ := h.of_pending he
  left
  rw [Branch.ofEntries_concat_of_none (e := e.refused) _ hstate, hb]

/-- If the sentence has been discarded, an error has been found. -/
theorem Awaited.dirty (h : Awaited t id text b) (hid : ∀ e ∈ t, e.id ≠ id) : Dirty t b := by
  cases h with
  | waiting ht hid' =>
    rw [ht] at hid
    exact absurd hid' (hid _ (List.mem_append_right _ List.mem_cons_self))
  | discarded h => exact h

/-- Where no error has been found all of the branch is known. -/
theorem Tracks.eq (h : Tracks t b) (herror : ∀ e, t.getLast? = some e → e.phase ≠ .error) :
    Branch.ofEntries t = b := by
  rcases h with h | ⟨-, e, he, hphase⟩
  · exact h
  · exact absurd hphase (herror e he)

/-- Where no error has been found the session knows all of the branch. -/
theorem Tracks.eq_of_settled {t : List Entry} {b : Branch} (ht : Tracks (t.map Entry.plain) b)
    (hsettled : ∀ e ∈ t, e.Settled) : Branch.ofEntries (t.map Entry.plain) = b := by
  refine ht.eq fun e he => ?_
  obtain ⟨e₀, he₀, rfl⟩ := List.mem_map.1 (List.mem_of_getLast? he)
  rw [Entry.phase_plain, (hsettled e₀ he₀).1]
  simp

end Answers

end ProofDesk
