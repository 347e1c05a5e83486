import Mathlib.Data.List.Basic
import Mathlib.Logic.Relation
import Mathlib.Tactic.Common
import ProofDesk.Viewer.Relay

/-!
# What a viewer is left with

The engine stores a message and makes it available; a viewer takes its place in the broadcast, is
told the message that is stored, and takes what is available from its place on. `Showing.Step` is
one such action, of the engine or of the viewer, so a `Showing.Run` is any interleaving of the two,
with a viewer that is as slow as it likes.

A viewer that has read all is left with the latest message that is no error
(`Showing.Run.shows_latest`), with one exception: errors take places in the broadcast, too, and a
viewer behind which as many of them were sent as are kept goes on behind the message and is never
told it (`Showing.Run.overtaken`).
-/

namespace ProofDesk

open ViewerMessage (connected)

/-- The latest message that is no error. -/
def ViewerMessage.latest? (ms : List ViewerMessage) : Option ViewerMessage :=
  ms.reverse.find? (!·.isError)

open ViewerMessage (latest?)

section Latest

variable {m e : ViewerMessage} {ms ms' : List ViewerMessage}

@[simp]
theorem latest?_nil : latest? [] = none :=
  rfl

/-- The latest message of two lots is that of the second, or else of the first. -/
theorem latest?_append (ms ms' : List ViewerMessage) :
    latest? (ms ++ ms') = (latest? ms').or (latest? ms) := by
  simp [latest?, List.find?_append]

/-- An error is never the latest message. -/
theorem latest?_of_error (he : e.isError = true) : latest? [e] = none := by
  simp [latest?, he]

/-- Any other message by itself is the latest. -/
theorem latest?_of_not_error (hm : m.isError = false) : latest? [m] = some m := by
  simp [latest?, hm]

/-- The latest message is no error. -/
private theorem not_error_of_latest? (h : latest? ms = some m) : m.isError = false := by
  simpa using List.find?_some h

/-- The latest message is the latest of its own. -/
private theorem latest?_toList (ms : List ViewerMessage) :
    latest? (latest? ms).toList = latest? ms := by
  cases h : latest? ms with
  | none => rfl
  | some m => exact latest?_of_not_error (not_error_of_latest? h)

/-- Only among errors there is no latest message. -/
theorem latest?_eq_none : latest? ms = none ↔ ∀ e ∈ ms, e.isError = true := by
  simp [latest?]

/-- Errors do not change which message is the latest. -/
theorem latest?_append_of_errors (h : ∀ e ∈ ms', e.isError = true) :
    latest? (ms ++ ms') = latest? ms := by
  rw [latest?_append, latest?_eq_none.mpr h, Option.none_or]

end Latest

/-! ## The broadcast -/

namespace Broadcast

variable {b : Broadcast} {sent ms : List ViewerMessage} {m : ViewerMessage} {p : Nat}

/-- A broadcast keeps the last of the messages that were sent. -/
structure Keeps (b : Broadcast) (sent : List ViewerMessage) : Prop where
  count_eq : b.count = sent.length
  recent_eq : b.recent = sent.drop (sent.length - capacity)

/-- A new broadcast keeps nothing. -/
private theorem keeps_empty : Keeps .empty [] :=
  ⟨rfl, rfl⟩

/-- A broadcast keeps the last messages also when one more has been sent. -/
theorem Keeps.push (h : b.Keeps sent) (m : ViewerMessage) : (b.push m).Keeps (sent ++ [m]) := by
  refine ⟨by simp [Broadcast.push, h.count_eq], ?_⟩
  have hlast : sent.drop (sent.length - capacity) ++ [m] =
      (sent ++ [m]).drop (sent.length - capacity) := by
    rw [List.drop_append_of_le_length (Nat.sub_le _ _)]
  dsimp only [Broadcast.push]
  rw [h.recent_eq, hlast, List.drop_drop, List.length_drop, List.length_append]
  congr 1
  simp only [List.length_singleton]
  omega

/-- Storing a message leaves those that are kept alone. -/
theorem Keeps.store (h : b.Keeps sent) (m : ViewerMessage) : (b.store m).Keeps sent := by
  unfold Broadcast.store
  split
  · exact h
  · exact ⟨h.count_eq, h.recent_eq⟩

/-- Of what is stored, the message stored last is the latest, unless it is an error. -/
theorem latest_store (m : ViewerMessage) : (b.store m).latest = (latest? [m]).or b.latest := by
  unfold Broadcast.store
  split
  · next he => rw [latest?_of_error he, Option.none_or]
  · next hm => rw [latest?_of_not_error (by simpa using hm), Option.some_or]

/-- As many messages are overwritten as do not fit. -/
theorem Keeps.oldest_eq (h : b.Keeps sent) : b.oldest = sent.length - capacity := by
  rw [oldest, h.count_eq, h.recent_eq, List.length_drop]
  omega

/-- The oldest message that is kept has been sent. -/
theorem Keeps.oldest_le (h : b.Keeps sent) : b.oldest ≤ sent.length := by
  rw [h.oldest_eq]
  exact Nat.sub_le _ _

/-- What is read is what was sent at that position, or at the oldest that is kept. -/
theorem Keeps.read_eq (h : b.Keeps sent) (p : Nat) :
    b.read p =
      (sent[max p b.oldest]?, if max p b.oldest < sent.length then max p b.oldest + 1
        else max p b.oldest) := by
  have hget : b.recent[max p b.oldest - b.oldest]? = sent[max p b.oldest]? := by
    rw [h.recent_eq, ← h.oldest_eq, List.getElem?_drop, Nat.add_sub_cancel' (Nat.le_max_right _ _)]
  rw [Broadcast.read, hget]
  split
  · next hm =>
    have hlt : max p b.oldest < sent.length := (List.getElem?_eq_some_iff.mp hm).1
    rw [hm, if_pos hlt]
  · next hnone =>
    have hge : sent.length ≤ max p b.oldest := List.getElem?_eq_none_iff.mp hnone
    rw [hnone, if_neg (Nat.not_lt.mpr hge)]

/-- A reader that finds nothing has its place behind everything that was sent. -/
theorem Keeps.position_of_read (h : b.Keeps sent) (hp : p ≤ sent.length)
    (hread : (b.read p).1 = none) :
    p = sent.length := by
  rw [h.read_eq] at hread
  have hbehind : sent.length ≤ max p b.oldest := List.getElem?_eq_none_iff.mp hread
  rw [h.oldest_eq] at hbehind
  have : 0 < capacity := by decide
  omega

/-- Reading all that is available is reading it one by one. -/
theorem Keeps.readAll_eq (h : b.Keeps sent) (p : Nat) :
    b.readAll p = (sent.drop (max p b.oldest), max p sent.length) := by
  rw [Broadcast.readAll, h.recent_eq, ← h.oldest_eq, h.count_eq, List.drop_drop]
  congr 2
  omega

end Broadcast

/-! ## The engine and a viewer -/

/-- How far a viewer's connection is. -/
inductive Viewing where
  | absent
  /-- It has taken its place in the broadcast. -/
  | subscribed (position : Nat)
  /-- It has seen what is stored. The messages that it has taken go out one by one. -/
  | following (position : Nat) (held : List ViewerMessage)
  deriving Repr, DecidableEq

/-- The engine's broadcast and one viewer, with all that was sent and all that the viewer was
given. -/
structure Showing where
  broadcast : Broadcast
  /-- The message that is stored and not yet available. -/
  underWay : Option ViewerMessage
  viewing : Viewing
  sent : List ViewerMessage
  given : List ViewerMessage
  deriving Repr, DecidableEq

namespace Showing

/-- Nothing has been sent, and the viewer has not come. -/
def start : Showing :=
  ⟨.empty, none, .absent, [], []⟩

/-- The messages that the engine has begun to send. -/
def begun (s : Showing) : List ViewerMessage :=
  s.sent ++ s.underWay.toList

/-- One action of the engine or of the viewer. -/
inductive Step : Showing → Showing → Prop
  /-- The engine begins to send a message. -/
  | store {s : Showing} (m : ViewerMessage) (h : s.underWay = none) :
      Step s { s with broadcast := s.broadcast.store m, underWay := some m }
  | push {s : Showing} {m : ViewerMessage} (h : s.underWay = some m) :
      Step s { s with broadcast := s.broadcast.push m, underWay := none, sent := s.sent ++ [m] }
  | subscribe {s : Showing} (h : s.viewing = .absent) :
    Step s { s with viewing := .subscribed s.broadcast.count }
  | replay {s : Showing} {p : Nat} (h : s.viewing = .subscribed p) :
      Step s { s with viewing := .following p (connected :: s.broadcast.latest.toList) }
  /-- The viewer is given the next of the messages that its connection holds. -/
  | give {s : Showing} {p : Nat} {m : ViewerMessage} {held : List ViewerMessage}
      (h : s.viewing = .following p (m :: held)) :
      Step s { s with viewing := .following p held, given := s.given ++ [m] }
  /-- The connection is told that it lags behind, and goes on at the oldest message that is kept. -/
  | lag {s : Showing} {p : Nat} (h : s.viewing = .following p []) (hlag : p < s.broadcast.oldest) :
      Step s { s with viewing := .following s.broadcast.oldest [] }
  | read {s : Showing} {p p' : Nat} {m : ViewerMessage} (h : s.viewing = .following p [])
      (hread : s.broadcast.read p = (some m, p')) : Step s { s with viewing := .following p' [m] }

/-- Actions one after the other. -/
abbrev Steps : Showing → Showing → Prop :=
  Relation.ReflTransGen Step

/-- What the engine and a viewer have come to from the beginning. -/
abbrev Run (s : Showing) : Prop :=
  Steps start s

/-- The viewer has been given all that is available to it. -/
def HasReadAll (s : Showing) : Prop :=
  ∃ p, s.viewing = .following p [] ∧ (s.broadcast.read p).1 = none

/-- The viewer was given the latest of these messages that is no error, if there is one, and only
errors since. -/
def Shows (given ms : List ViewerMessage) : Prop :=
  ∀ m, latest? ms = some m → latest? given = some m

/-- The last messages are errors, as many of them as are kept. -/
def Crowded (ms : List ViewerMessage) : Prop :=
  ∃ es, es <:+ ms ∧ Broadcast.capacity ≤ es.length ∧ ∀ e ∈ es, e.isError = true

variable {s s' : Showing} {told ms sent : List ViewerMessage} {m : ViewerMessage} {p : Nat}

/-- An error does not change what must be shown. -/
theorem Shows.append_error (h : Shows told ms) (he : m.isError = true) :
    Shows told (ms ++ [m]) := by
  intro m' hm'
  rw [latest?_append_of_errors (by simpa using he)] at hm'
  exact h m' hm'

/-- One more error leaves the last messages all errors. -/
theorem Crowded.append_error (h : Crowded ms) (he : m.isError = true) : Crowded (ms ++ [m]) := by
  obtain ⟨es, ⟨before, hes⟩, hlength, herrors⟩ := h
  refine ⟨es ++ [m], ⟨before, by rw [← hes, List.append_assoc]⟩, ?_, ?_⟩
  · rw [List.length_append]
    exact Nat.le_add_right_of_le hlength
  · simpa [or_imp, forall_and] using And.intro herrors he

/-! ## What every action preserves -/

/-- The viewer is left with the latest message, that which is under way counted or not, unless
errors have taken all places in the broadcast. -/
def UpToDate (s : Showing) (told : List ViewerMessage) : Prop :=
  Crowded s.sent ∨ Shows told s.sent ∨ Shows told s.begun

/-- A connection that has only errors ahead of it has taken what the viewer is to be left with. -/
def Abreast (s : Showing) : Viewing → Prop
  | .absent => True
  | .subscribed p => p ≤ s.sent.length
  | .following p held =>
    p ≤ s.sent.length ∧ ((∀ e ∈ s.sent.drop p, e.isError = true) → s.UpToDate (s.given ++ held))

/-- What holds of the engine and a viewer at any time. -/
structure Holds (s : Showing) : Prop where
  keeps : s.broadcast.Keeps s.sent
  latest_eq : s.broadcast.latest = latest? s.begun
  abreast : s.Abreast s.viewing

/-- With nothing under way, what was begun has been sent. -/
theorem begun_of_none (h : s.underWay = none) : s.begun = s.sent := by
  rw [begun, h, Option.toList_none, List.append_nil]

/-- A message under way is begun and not yet sent. -/
theorem begun_of_some (h : s.underWay = some m) : s.begun = s.sent ++ [m] := by
  rw [begun, h, Option.toList_some]

/-- A connection that goes on at the oldest message that is kept passes over the latest message only
if all places are taken by errors. -/
theorem upToDate_of_oldest (hkeeps : s.broadcast.Keeps s.sent)
    (h : (∀ e ∈ s.sent.drop p, e.isError = true) → s.UpToDate told)
    (hahead : ∀ e ∈ s.sent.drop (max p s.broadcast.oldest), e.isError = true) :
    s.UpToDate told := by
  rcases Nat.le_total s.broadcast.oldest p with hle | hle
  · rw [Nat.max_eq_left hle] at hahead
    exact h hahead
  · rw [Nat.max_eq_right hle, hkeeps.oldest_eq] at hahead
    rcases Nat.lt_or_ge s.sent.length Broadcast.capacity with hfew | hmany
    · -- nothing has been dropped yet
      have hp : p = 0 := by
        rw [hkeeps.oldest_eq] at hle
        omega
      rw [Nat.sub_eq_zero_of_le (Nat.le_of_lt hfew)] at hahead
      exact h (hp ▸ hahead)
    · refine .inl ⟨_, List.drop_suffix _ _, ?_, hahead⟩
      rw [List.length_drop]
      omega

/-- At the start nothing has been sent and nobody watches. -/
private theorem holds_start : Holds start :=
  ⟨Broadcast.keeps_empty, rfl, trivial⟩

/-- A connection stays abreast while a message is stored. -/
theorem Abreast.store {v : Viewing} (h : s.Abreast v) (hnone : s.underWay = none)
    (m : ViewerMessage) :
    Abreast { s with broadcast := s.broadcast.store m, underWay := some m } v := by
  cases v with
  | absent => trivial
  | subscribed p => exact h
  | following p held =>
    refine ⟨h.1, fun hahead => ?_⟩
    have hold := h.2 hahead
    rw [UpToDate, begun_of_none hnone, or_self] at hold
    exact hold.imp_right .inl

/-- A connection stays abreast when the message under way is sent. -/
theorem Abreast.push {v : Viewing} (h : s.Abreast v) (hsome : s.underWay = some m) :
    Abreast { s with
      broadcast := s.broadcast.push m, underWay := none, sent := s.sent ++ [m] } v := by
  cases v with
  | absent => trivial
  | subscribed p =>
    have hp : p ≤ s.sent.length := h
    exact Nat.le_trans hp (by simp)
  | following p held =>
    obtain ⟨hp, h⟩ := h
    refine ⟨Nat.le_trans hp (by simp), fun hahead => ?_⟩
    -- what becomes available is ahead of the viewer, so it is an error, too
    dsimp only at hahead
    rw [List.drop_append_of_le_length hp] at hahead
    have herror : m.isError = true := hahead m (by simp)
    rcases h fun e he => hahead e (List.mem_append_left _ he) with hcrowded | hsent | hbegun
    · exact .inl (hcrowded.append_error herror)
    · exact .inr (.inl (hsent.append_error herror))
    · rw [begun_of_some hsome] at hbegun
      exact .inr (.inl hbegun)

/-- The message that is replayed is the latest of all whose sending has begun. -/
private theorem abreast_replay (h : s.Holds) (hv : s.viewing = .subscribed p) :
    s.Abreast (.following p (connected :: s.broadcast.latest.toList)) := by
  have hp := h.abreast
  rw [hv] at hp
  refine ⟨hp, fun _ => .inr (.inr fun m hm => ?_)⟩
  rw [List.append_cons, latest?_append, h.latest_eq, latest?_toList, hm, Option.some_or]

/-- A connection that reads a message is abreast with it. -/
private theorem abreast_read (h : s.Holds) (hv : s.viewing = .following p []) {p' : Nat}
    (hread : s.broadcast.read p = (some m, p')) : s.Abreast (.following p' [m]) := by
  have hahead := h.abreast
  rw [hv] at hahead
  obtain ⟨hp, hold⟩ := hahead
  rw [h.keeps.read_eq, Prod.mk.injEq] at hread
  obtain ⟨hget, rfl⟩ := hread
  have hlt : max p s.broadcast.oldest < s.sent.length := (List.getElem?_eq_some_iff.mp hget).1
  have hdrop := List.drop_eq_getElem_cons hlt
  rw [List.getElem?_eq_getElem hlt, Option.some.injEq] at hget
  rw [hget] at hdrop
  rw [if_pos hlt]
  refine ⟨hlt, fun hrest => ?_⟩
  cases hm : m.isError with
  | true =>
    -- the viewer is left with what it was left with before
    have hbefore : s.UpToDate (s.given ++ []) := by
      refine upToDate_of_oldest h.keeps hold ?_
      rw [hdrop]
      simpa using ⟨hm, hrest⟩
    refine hbefore.imp_right fun hshown => ?_
    rw [List.append_nil] at hshown
    have hsame : latest? (s.given ++ [m]) = latest? s.given :=
      latest?_append_of_errors (by simpa using hm)
    exact hshown.imp (fun h m' hm' => hsame ▸ h m' hm') fun h m' hm' => hsame ▸ h m' hm'
  | false =>
    -- the message is the latest of all that were sent
    refine .inr (.inl fun m' hm' => ?_)
    have hsent : latest? s.sent = some m := by
      rw [← List.take_append_drop (max p s.broadcast.oldest) s.sent, hdrop, List.append_cons,
        latest?_append_of_errors hrest, latest?_append, latest?_of_not_error hm, Option.some_or]
    rw [latest?_append, latest?_of_not_error hm, Option.some_or, ← hsent, hm']

/-- Every action preserves what holds. -/
theorem Holds.step (h : s.Holds) (hstep : Step s s') : s'.Holds := by
  cases hstep with
  | store m hnone =>
    refine ⟨h.keeps.store m, ?_, h.abreast.store hnone m⟩
    rw [Broadcast.latest_store, h.latest_eq, begun_of_none hnone, begun_of_some rfl, latest?_append]
  | push hsome =>
    -- the message has been stored before, and is still the latest one
    refine ⟨h.keeps.push _, ?_, h.abreast.push hsome⟩
    rw [begun_of_none rfl]
    exact h.latest_eq.trans (by rw [begun_of_some hsome])
  | subscribe _ => exact ⟨h.keeps, h.latest_eq, Nat.le_of_eq h.keeps.count_eq⟩
  | replay hv => exact ⟨h.keeps, h.latest_eq, (abreast_replay h hv :)⟩
  | give hv =>
    have hahead := h.abreast
    rw [hv] at hahead
    refine ⟨h.keeps, h.latest_eq, hahead.1, fun herrors => ?_⟩
    -- a message that is given goes from those that wait to those that are shown
    have hold := hahead.2 herrors
    rwa [List.append_cons] at hold
  | lag hv hlag =>
    have hahead := h.abreast
    rw [hv] at hahead
    refine ⟨h.keeps, h.latest_eq, h.keeps.oldest_le, fun herrors => ?_⟩
    -- the viewer goes on at the oldest message that is kept
    refine upToDate_of_oldest h.keeps hahead.2 ?_
    rw [Nat.max_eq_right (Nat.le_of_lt hlag)]
    exact herrors
  | read hv hread => exact ⟨h.keeps, h.latest_eq, (abreast_read h hv hread :)⟩

/-- What holds at the start holds on every run. -/
theorem Run.holds (h : Run s) : s.Holds := by
  induction h with
  | refl => exact holds_start
  | tail _ hstep ih => exact ih.step hstep

/-! ## What the relay does in one go -/

section Whole

variable {b : Broadcast} {u : Option ViewerMessage} {v : Viewing} {given : List ViewerMessage}

/-- Messages are sent one after the other. -/
theorem steps_sendAll (ms : List ViewerMessage) :
    Steps ⟨b, none, v, sent, given⟩ ⟨ms.foldl Broadcast.send b, none, v, sent ++ ms, given⟩ := by
  induction ms generalizing b sent with
  | nil =>
    rw [List.append_nil, List.foldl_nil]
  | cons m ms ih =>
    have hstore : Step ⟨b, none, v, sent, given⟩ ⟨b.store m, some m, v, sent, given⟩ := .store m rfl
    have hpush : Step ⟨b.store m, some m, v, sent, given⟩ ⟨b.send m, none, v, sent ++ [m], given⟩ :=
      .push rfl
    rw [List.append_cons]
    exact .head hstore (.head hpush ih)

/-- Sending is storing a message and pushing it. -/
theorem steps_send (r : Relay) (m : ViewerMessage) :
    Steps ⟨r.broadcast, none, v, sent, given⟩ ⟨(r.send m).broadcast, none, v, sent ++ [m], given⟩ :=
  steps_sendAll [m]

/-- What the connection holds goes out. -/
theorem steps_give (held : List ViewerMessage) :
    Steps ⟨b, u, .following p held, sent, given⟩ ⟨b, u, .following p [], sent, given ++ held⟩ := by
  induction held generalizing given with
  | nil =>
    rw [List.append_nil]
  | cons m held ih =>
    have hgive : Step ⟨b, u, .following p (m :: held), sent, given⟩
        ⟨b, u, .following p held, sent, given ++ [m]⟩ :=
      .give rfl
    rw [List.append_cons]
    exact .head hgive ih

/-- A viewer that connects takes its place and is told what is stored. -/
theorem steps_connect (r : Relay) (inbox : Nat) :
    Steps ⟨r.broadcast, u, .absent, sent, given⟩
      ⟨(r.connect inbox).2.broadcast, u, .following r.broadcast.count [], sent,
        given ++ (r.connect inbox).1⟩ := by
  have hsubscribe : Step ⟨r.broadcast, u, .absent, sent, given⟩
      ⟨r.broadcast, u, .subscribed r.broadcast.count, sent, given⟩ := .subscribe rfl
  have hreplay : Step ⟨r.broadcast, u, .subscribed r.broadcast.count, sent, given⟩
      ⟨r.broadcast, u, .following r.broadcast.count (r.connect inbox).1, sent, given⟩ := .replay rfl
  exact .head hsubscribe (.head hreplay (steps_give _))

/-- What is available is taken one by one. -/
theorem steps_readAll (h : b.Keeps sent) (hp : p ≤ sent.length) :
    Steps ⟨b, u, .following p [], sent, given⟩
      ⟨b, u, .following (b.readAll p).2 [], sent, given ++ (b.readAll p).1⟩ := by
  rw [h.readAll_eq, Nat.max_eq_right hp]
  -- the induction is on what is available
  induction hrest : sent.drop (max p b.oldest) generalizing p given with
  | nil =>
    have hend : p = sent.length := by
      refine h.position_of_read hp ?_
      rw [h.read_eq]
      exact List.getElem?_eq_none_iff.mpr (List.drop_eq_nil_iff.mp hrest)
    rw [List.append_nil, ← hend]
  | cons m rest ih =>
    have hget : sent[max p b.oldest]? = some m := by rw [← List.head?_drop, hrest, List.head?_cons]
    have hlt : max p b.oldest < sent.length := (List.getElem?_eq_some_iff.mp hget).1
    have hread : Step ⟨b, u, .following p [], sent, given⟩
        ⟨b, u, .following (max p b.oldest + 1) [m], sent, given⟩ :=
      .read rfl (by rw [h.read_eq, hget, if_pos hlt])
    have hmore : sent.drop (max (max p b.oldest + 1) b.oldest) = rest := by
      rw [Nat.max_eq_left (Nat.le_succ_of_le (Nat.le_max_right _ _)), ← List.tail_drop, hrest,
        List.tail_cons]
    rw [List.append_cons]
    exact .head hread ((steps_give [m]).trans (ih hlt hmore))

/-- What the relay delivers over an open connection is what the viewer is given next, one message at
a time. -/
theorem steps_deliver {r : Relay} {index : Nat} {subscriber : Subscriber}
    (hsubscriber : r.subscribers[index]? = some subscriber) (hopen : subscriber.isOpen = true)
    (h : r.broadcast.Keeps sent) (hp : subscriber.position ≤ sent.length) :
    ∃ position, (r.deliver index).2.subscribers[index]? = some { subscriber with position } ∧
      Steps ⟨r.broadcast, u, .following subscriber.position [], sent, given⟩
        ⟨(r.deliver index).2.broadcast, u, .following position [], sent,
          given ++ (r.deliver index).1⟩ := by
  have hlt : index < r.subscribers.length := (List.getElem?_eq_some_iff.mp hsubscriber).1
  have hdeliver :
      r.deliver index = ((r.broadcast.readAll subscriber.position).1, r.setSubscriber index
      { subscriber with position := (r.broadcast.readAll subscriber.position).2 }) := by
    simp [Relay.deliver, hsubscriber, hopen]
  rw [hdeliver]
  exact ⟨_, List.getElem?_set_self hlt, steps_readAll h hp⟩

end Whole

/-! ## What the viewer is left with -/

/-- A viewer that has been given all that is available to it is left with the latest message that is
no error, if there is one. A message that is being sent may count or not. This fails only if errors
have taken all places in the broadcast since. -/
theorem Run.shows_latest (h : Run s) (hread : s.HasReadAll) :
    Crowded s.sent ∨ Shows s.given s.sent ∨ Shows s.given s.begun := by
  obtain ⟨p, hv, hnothing⟩ := hread
  obtain ⟨hp, hahead⟩ := hv ▸ h.holds.abreast
  have hend : p = s.sent.length := h.holds.keeps.position_of_read hp hnothing
  have htold := hahead (by simp [hend])
  rwa [List.append_nil] at htold

/-- A viewer that connects after a message and reads after an error. -/
theorem shows_latest_of_connecting :
    let connected := (Relay.start.send .idle).connect 0
    let delivered := (connected.2.send (.error "e")).deliver 0
    let s : Showing :=
      ⟨delivered.2.broadcast, none, .following 2 [], [.idle, .error "e"],
        connected.1 ++ delivered.1⟩
    Run s ∧ s.HasReadAll ∧ s.given = [.connected, .idle, .error "e"] ∧
      (Crowded s.sent ∨ Shows s.given s.sent ∨ Shows s.given s.begun) := by
  intro connected delivered s
  have hsent : Run ⟨(Relay.start.send .idle).broadcast, none, .absent, [.idle], []⟩ :=
    steps_send .start .idle
  have hconnected : Run ⟨connected.2.broadcast, none, .following 1 [], [.idle], connected.1⟩ :=
    hsent.trans (steps_connect _ 0)
  have herror :
      Run ⟨(connected.2.send (.error "e")).broadcast, none, .following 1 [], [.idle, .error "e"],
      connected.1⟩ := hconnected.trans (steps_send _ _)
  have hdelivered :
      Steps ⟨(connected.2.send (.error "e")).broadcast, none, .following 1 [], [.idle, .error "e"],
      connected.1⟩ s := by
    -- the viewer is handed what was sent after it had connected
    have hsubscriber : (connected.2.send (.error "e")).subscribers[0]? = some ⟨0, 1, [], true⟩ :=
      rfl
    obtain ⟨position, hposition, hsteps⟩ :=
      steps_deliver hsubscriber rfl herror.holds.keeps (by decide)
    obtain rfl : 2 = position := congrArg Subscriber.position (Option.some.inj hposition)
    exact hsteps
  have hrun : Run s := herror.trans hdelivered
  have hread : s.HasReadAll := ⟨2, rfl, rfl⟩
  exact ⟨hrun, hread, rfl, hrun.shows_latest hread⟩

/-- A viewer that has read all is overtaken when a message is sent and then, before the viewer reads
again, as many errors as are kept: it is left with what it was shown before the message. -/
theorem Run.overtaken (h : Run s) (hquiet : s.underWay = none) (hv : s.viewing = .following p [])
    {es : List ViewerMessage} (hm : m.isError = false) (hes : ∀ e ∈ es, e.isError = true)
    (hmany : Broadcast.capacity ≤ es.length) :
    ∃ s', Run s' ∧ s'.HasReadAll ∧ s'.underWay = none ∧ s'.sent = s.sent ++ m :: es ∧
      latest? s'.sent = some m ∧ latest? s'.given = latest? s.given := by
  obtain ⟨b, u, v, sent, given⟩ := s
  obtain rfl : u = none := hquiet
  obtain rfl : v = .following p [] := hv
  -- the message and the errors are sent, and only then does the viewer read
  have hsent : Run _ := h.trans (steps_sendAll (m :: es))
  have hkeeps := hsent.holds.keeps
  have hp : p ≤ (sent ++ m :: es).length := hsent.holds.abreast.1
  have hread := hsent.trans (steps_readAll hkeeps hp)
  refine ⟨_, hread, ⟨_, rfl, ?_⟩, rfl, rfl, ?_, ?_⟩
  · dsimp only
    rw [hkeeps.read_eq, hkeeps.readAll_eq]
    exact List.getElem?_eq_none_iff.mpr (Nat.le_trans (Nat.le_max_right _ _) (Nat.le_max_left _ _))
  · rw [List.append_cons, latest?_append_of_errors hes, latest?_append, latest?_of_not_error hm,
      Option.some_or]
  · -- the oldest message that is kept is one of the errors
    refine latest?_append_of_errors fun e he => hes e ?_
    have hdrop (k : Nat) (hk : (sent ++ [m]).length ≤ k) :
        (sent ++ m :: es).drop k = es.drop (k - (sent ++ [m]).length) := by
      rw [List.append_cons, List.drop_append, List.drop_eq_nil_of_le hk, List.nil_append]
    rw [hkeeps.readAll_eq, hkeeps.oldest_eq, hdrop _ ?_] at he
    · exact List.mem_of_mem_drop he
    · simp only [List.length_append, List.length_cons, List.length_nil]
      omega

/-- Sixteen errors behind a message, and a viewer that was there from the beginning is never told
it. -/
theorem exists_overtaken :
    ∃ s, Run s ∧ s.HasReadAll ∧ s.underWay = none ∧ latest? s.sent = some .idle ∧
      latest? s.given = some .connected := by
  have hconnected :
      Run ⟨(Relay.start.connect 0).2.broadcast, none, .following 0 [], [],
        (Relay.start.connect 0).1⟩ :=
    steps_connect .start 0
  have herrors : ∀ e ∈ List.replicate 16 (ViewerMessage.error "e"), e.isError = true := by decide
  obtain ⟨s, hrun, hread, hquiet, -, hsent, hgiven⟩ :=
    hconnected.overtaken rfl rfl (m := .idle) rfl herrors (by decide)
  exact ⟨s, hrun, hread, hquiet, hsent, hgiven⟩

end Showing

end ProofDesk
