import Mathlib.Data.List.Basic
import Mathlib.Data.List.Nodup
import Mathlib.Tactic.Common
import ProofDesk.Workspace.Sessions

/-!
# Looking up sessions

What is found for a document after the sessions of a workspace have changed, and which documents
have a session then. Where every document has one session, the order of the sessions does not matter
(`find?_perm`).
-/

namespace ProofDesk.Sessions

variable {σ : Type} {ss ss' : Sessions σ} {doc other : String} {s : Session σ}

/-- The session that is listed first is the one of its document. -/
theorem find?_cons (d : String) (t : Session σ) (ss : Sessions σ) (doc : String) :
    find? ((d, t) :: ss) doc = if doc = d then some t else ss.find? doc := by
  unfold find?
  rw [List.lookup_cons]
  split
  · next h => rw [if_pos (beq_iff_eq.1 h)]
  · next h => rw [if_neg (beq_eq_false_iff_ne.1 h)]

theorem mem_of_find? (h : ss.find? doc = some s) : (doc, s) ∈ ss := by
  obtain ⟨front, back, rfl, -⟩ := List.lookup_eq_some_iff.1 h
  simp

/-- A change of every session is a change of the one that is found. -/
theorem find?_map (ss : Sessions σ) (f : String → Session σ → Session σ) (doc : String) :
    find? (ss.map fun (d, s) => (d, f d s)) doc = (ss.find? doc).map (f doc) := by
  induction ss with
  | nil => rfl
  | cons e ss ih =>
    obtain ⟨d, t⟩ := e
    rw [List.map_cons, find?_cons, find?_cons, ih]
    split
    · next h => rw [h, Option.map_some]
    · rfl

/-- A session is struck off the list wherever it stands. -/
theorem erase_cons (d : String) (t : Session σ) (ss : Sessions σ) (doc : String) :
    erase ((d, t) :: ss) doc = if d = doc then ss.erase doc else (d, t) :: ss.erase doc := by
  unfold erase
  by_cases h : d = doc <;> simp [h]

/-- A session that was struck off is not found. -/
theorem find?_erase_self (ss : Sessions σ) (doc : String) : (ss.erase doc).find? doc = none := by
  induction ss with
  | nil => rfl
  | cons e ss ih =>
    obtain ⟨d, t⟩ := e
    rw [erase_cons]
    split
    · exact ih
    · next hd => rw [find?_cons, if_neg (Ne.symm hd), ih]

/-- Striking a session off leaves those of other documents. -/
theorem find?_erase_of_ne (ss : Sessions σ) (h : other ≠ doc) :
    (ss.erase doc).find? other = ss.find? other := by
  induction ss with
  | nil => rfl
  | cons e ss ih =>
    obtain ⟨d, t⟩ := e
    rw [erase_cons, find?_cons]
    split
    · next hd => rw [ih, if_neg (hd ▸ h)]
    · rw [find?_cons, ih]

/-- What is listed after a session was put in was listed before, or is that session. -/
theorem mem_put {e : String × Session σ} (h : e ∈ ss.put doc s) : e = (doc, s) ∨ e ∈ ss := by
  induction ss with
  | nil => exact .inl (List.mem_singleton.1 h)
  | cons e' ss ih =>
    rw [put] at h
    split at h
    · next hd =>
      rw [hd] at h
      exact (List.mem_cons.1 h).imp_right (List.mem_cons_of_mem _)
    · rcases List.mem_cons.1 h with rfl | h
      · exact .inr List.mem_cons_self
      · exact (ih h).imp_right (List.mem_cons_of_mem _)

/-! ## The documents -/

/-- No session is found just for documents that are not listed. -/
theorem find?_eq_none_iff (ss : Sessions σ) (doc : String) :
    ss.find? doc = none ↔ doc ∉ ss.docs := by
  unfold find? docs
  rw [List.lookup_eq_none_iff]
  simp only [List.mem_map, not_exists, not_and, bne_iff_ne]
  exact ⟨fun h e he heq => h e he heq.symm, fun h e he heq => h e he heq.symm⟩

theorem mem_docs_of_find? (h : ss.find? doc = some s) : doc ∈ ss.docs :=
  List.mem_map_of_mem (mem_of_find? h)

/-- A session in place of another leaves the documents as they are. -/
theorem docs_put_of_mem (h : doc ∈ ss.docs) (s : Session σ) : (ss.put doc s).docs = ss.docs := by
  induction ss with
  | nil => simp [docs] at h
  | cons e ss ih =>
    obtain ⟨d, t⟩ := e
    rw [put]
    split
    · rfl
    · next hd =>
      have hrest : doc ∈ docs ss := (List.mem_cons.1 h).resolve_left (Ne.symm hd)
      exact congrArg (d :: ·) (ih hrest)

/-- A session of a new document is listed last. -/
theorem docs_put_of_not_mem (h : doc ∉ ss.docs) (s : Session σ) :
    (ss.put doc s).docs = ss.docs ++ [doc] := by
  induction ss with
  | nil => rfl
  | cons e ss ih =>
    obtain ⟨d, t⟩ := e
    simp only [docs, List.map_cons, List.mem_cons, not_or] at h
    rw [put, if_neg (Ne.symm h.1)]
    exact congrArg (d :: ·) (ih h.2)

/-- Striking a session off strikes its document off. -/
theorem docs_erase (ss : Sessions σ) (doc : String) :
    (ss.erase doc).docs = ss.docs.filter (· != doc) := by
  unfold docs erase
  rw [List.filter_map]
  rfl

/-- A document without a session has none to lose. -/
theorem erase_eq_self (h : doc ∉ ss.docs) : ss.erase doc = ss :=
  List.filter_eq_self.2 fun e he => by
    simpa using fun (heq : e.1 = doc) => h (heq ▸ List.mem_map_of_mem he)

/-- Changing sessions keeps the documents that are listed. -/
theorem docs_map (ss : Sessions σ) (f : String → Session σ → Session σ) :
    docs (ss.map fun (d, s) => (d, f d s)) = ss.docs := by
  unfold docs
  rw [List.map_map]
  rfl

/-- Putting a session in lists no document twice. -/
theorem nodup_docs_put (h : ss.docs.Nodup) (doc : String) (s : Session σ) :
    (ss.put doc s).docs.Nodup := by
  by_cases hdoc : doc ∈ ss.docs
  · rwa [docs_put_of_mem hdoc]
  · rw [docs_put_of_not_mem hdoc]
    exact List.Nodup.append h (List.nodup_singleton doc) (by simpa using hdoc)

/-- Striking a session off lists no document twice. -/
theorem nodup_docs_erase (h : ss.docs.Nodup) (doc : String) : (ss.erase doc).docs.Nodup := by
  rw [docs_erase]
  exact h.filter _

/-- Where every document has one session, that is the one that is found. -/
theorem find?_of_mem (h : ss.docs.Nodup) (hs : (doc, s) ∈ ss) : ss.find? doc = some s := by
  induction ss with
  | nil => simp at hs
  | cons e ss ih =>
    obtain ⟨d, t⟩ := e
    obtain ⟨hd, hnodup⟩ := List.nodup_cons.1 h
    rw [find?_cons]
    rcases List.mem_cons.1 hs with heq | hmem
    · obtain ⟨rfl, rfl⟩ := Prod.mk.inj heq
      rw [if_pos rfl]
    · have hdoc : doc ∈ docs ss := List.mem_map_of_mem hmem
      rw [if_neg fun (heq : doc = d) => hd (heq ▸ hdoc)]
      exact ih hnodup hmem

/-- The order of the sessions does not matter to what is found. -/
theorem find?_perm (h : ss.docs.Nodup) (hp : ss'.Perm ss) (doc : String) :
    ss'.find? doc = ss.find? doc := by
  have hdocs : ss'.docs.Perm ss.docs := hp.map _
  have hnodup : ss'.docs.Nodup := hdocs.nodup_iff.2 h
  refine Option.ext fun s => ⟨fun hs => ?_, fun hs => ?_⟩
  · exact find?_of_mem h (hp.mem_iff.1 (mem_of_find? hs))
  · exact find?_of_mem hnodup (hp.mem_iff.2 (mem_of_find? hs))

/-- Where every document has one session, the sessions of a document are the one that is found. -/
theorem filter_eq (h : ss.docs.Nodup) (doc : String) :
    ss.filter (·.1 == doc) = (ss.find? doc).toList.map (doc, ·) := by
  induction ss with
  | nil => rfl
  | cons e ss ih =>
    obtain ⟨d, t⟩ := e
    obtain ⟨hd, hnodup⟩ := List.nodup_cons.1 h
    rw [List.filter_cons, find?_cons]
    by_cases hdoc : d = doc
    · subst hdoc
      have hnone : find? ss d = none := (find?_eq_none_iff ss d).2 hd
      rw [ih hnodup, hnone]
      simp
    · rw [ih hnodup, if_neg (Ne.symm hdoc)]
      simp [hdoc]

end ProofDesk.Sessions
