import ProofDesk.Session.Operation

/-!
# The sessions of a workspace

At most one session per document, in the order in which the documents were opened.
-/

namespace ProofDesk

/-- Open sessions by document. -/
abbrev Sessions (σ : Type) := List (String × Session σ)

namespace Sessions

variable {σ : Type}

/-- The session of a document. -/
def find? (ss : Sessions σ) (doc : String) : Option (Session σ) :=
  ss.lookup doc

/-- The documents with a session. -/
def docs (ss : Sessions σ) : List String :=
  ss.map (·.1)

/-- Without the session of a document. -/
def erase (ss : Sessions σ) (doc : String) : Sessions σ :=
  ss.filter (·.1 != doc)

/-- With a session for a document, in place of the one it has. -/
def put (ss : Sessions σ) (doc : String) (s : Session σ) : Sessions σ :=
  match ss with
  | [] => [(doc, s)]
  | (d, t) :: rest => if d = doc then (d, s) :: rest else (d, t) :: put rest doc s

@[simp] theorem find?_put_self (ss : Sessions σ) (doc : String) (s : Session σ) :
    (ss.put doc s).find? doc = some s := by
  induction ss with
  | nil => simp [put, find?]
  | cons e rest ih =>
    obtain ⟨d, t⟩ := e
    by_cases h : d = doc
    · simp [put, find?, h]
    · have : (doc == d) = false := by simpa [beq_eq_false_iff_ne] using Ne.symm h
      simpa [put, find?, h, List.lookup_cons, this] using ih

/-- Putting a session in leaves those of other documents. -/
theorem find?_put_of_ne (ss : Sessions σ) {doc other : String} (s : Session σ) (h : other ≠ doc) :
    (ss.put doc s).find? other = ss.find? other := by
  have hb : (other == doc) = false := by simpa using h
  induction ss with
  | nil => simp [put, find?, List.lookup_cons, hb]
  | cons e rest ih =>
    obtain ⟨d, t⟩ := e
    by_cases hd : d = doc
    · subst hd
      simp [put, find?, List.lookup_cons, hb]
    · simp only [find?] at ih
      simp [put, find?, hd, List.lookup_cons, ih]

end Sessions

end ProofDesk
