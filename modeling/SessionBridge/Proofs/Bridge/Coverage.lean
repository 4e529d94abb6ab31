import SessionBridge.Proofs.Bridge.Publication

/-! A receiver that falls behind. Its readings account for every event: each has been given, or is among
those it was told to have missed, or waits. The entries that are missed keep their places in the
transcript, so the numbers of the entries that are given say which to ask for. -/
namespace SessionBridge

namespace Reading

def entryOf? : Reading → Option Entry
  | event e => e.entryOf?
  | _ => none

def isEvent : Reading → Bool
  | event _ => true
  | _ => false

def missed : Reading → Nat
  | lagged n => n
  | _ => 0

def missedIn : List Reading → Nat
  | [] => 0
  | r :: readings => r.missed + missedIn readings

@[simp] theorem entryOf?_event (e : BridgeEvent) : (event e).entryOf? = e.entryOf? := rfl

@[simp] theorem missed_event (e : BridgeEvent) : (event e).missed = 0 := rfl

@[simp] theorem missed_lagged (n : Nat) : (lagged n).missed = n := rfl

@[simp] theorem missedIn_cons (r : Reading) (readings : List Reading) :
    missedIn (r :: readings) = r.missed + missedIn readings := rfl

theorem missedIn_eq_zero {readings : List Reading} (h : ∀ n, .lagged n ∉ readings) :
    missedIn readings = 0 := by
  induction readings with
  | nil => rfl
  | cons r readings ih =>
    have hrest := ih fun n hmem => h n (List.mem_cons_of_mem r hmem)
    rw [missedIn_cons, hrest]
    cases r with
    | lagged n => exact absurd List.mem_cons_self (h n)
    | _ => rfl

end Reading

/-- The readings of a receiver that these events have been passed to: each is given, or one of some that
are reported as missed. -/
inductive Covers : List BridgeEvent → List Reading → Prop where
  | nil : Covers [] []
  | event {events : List BridgeEvent} {readings : List Reading} (e : BridgeEvent)
      (h : Covers events readings) : Covers (e :: events) (.event e :: readings)
  | lagged {events : List BridgeEvent} {readings : List Reading} (missed : List BridgeEvent)
      (h : Covers events readings) : Covers (missed ++ events) (.lagged missed.length :: readings)
  | nothing {events : List BridgeEvent} {readings : List Reading} (r : Reading)
      (hr : r = .empty ∨ r = .closed) (h : Covers events readings) : Covers events (r :: readings)

namespace Covers

variable {events events' : List BridgeEvent} {readings readings' : List Reading}

theorem append (h : Covers events readings) (h' : Covers events' readings') :
    Covers (events ++ events') (readings ++ readings') := by
  induction h with
  | nil => exact h'
  | event e _ ih => exact .event e ih
  | lagged missed _ ih =>
    rw [List.append_assoc]
    exact .lagged missed ih
  | nothing r hr _ ih => exact .nothing r hr ih

theorem of_append (h : Covers events (readings ++ readings')) :
    ∃ first second, events = first ++ second ∧ Covers first readings ∧ Covers second readings' := by
  induction readings generalizing events with
  | nil => exact ⟨[], events, rfl, .nil, h⟩
  | cons r readings ih =>
    cases h with
    | event e h =>
      obtain ⟨first, second, rfl, hfirst, hsecond⟩ := ih h
      exact ⟨e :: first, second, rfl, .event e hfirst, hsecond⟩
    | lagged missed h =>
      obtain ⟨first, second, rfl, hfirst, hsecond⟩ := ih h
      exact ⟨missed ++ first, second, (List.append_assoc ..).symm, .lagged missed hfirst, hsecond⟩
    | nothing r hr h =>
      obtain ⟨first, second, rfl, hfirst, hsecond⟩ := ih h
      exact ⟨first, second, rfl, .nothing r hr hfirst, hsecond⟩

theorem of_cons_event {e : BridgeEvent} (h : Covers events (.event e :: readings)) :
    ∃ rest, events = e :: rest ∧ Covers rest readings := by
  cases h with
  | event e h => exact ⟨_, rfl, h⟩
  | nothing _ hr => rcases hr with hr | hr <;> cases hr

theorem of_nil (h : Covers events []) : events = [] := by
  cases h
  rfl

theorem length (h : Covers events readings) :
    events.length = readings.countP Reading.isEvent + Reading.missedIn readings := by
  induction h with
  | nil => rfl
  | event e _ ih =>
    simp only [List.length_cons, List.countP_cons, Reading.missedIn_cons, Reading.isEvent,
      Reading.missed_event, if_true]
    omega
  | lagged missed _ ih =>
    simp only [List.length_append, List.countP_cons, Reading.missedIn_cons, Reading.isEvent,
      Reading.missed_lagged, Bool.false_eq_true, if_false]
    omega
  | nothing r hr _ ih =>
    rcases hr with rfl | rfl <;> simpa [Reading.isEvent, Reading.missed] using ih

theorem sublist (h : Covers events readings) :
    (readings.filterMap Reading.entryOf?).Sublist (events.filterMap BridgeEvent.entryOf?) := by
  induction h with
  | nil => exact .slnil
  | event e _ ih =>
    simp only [List.filterMap_cons, Reading.entryOf?_event]
    cases e.entryOf? with
    | none => exact ih
    | some entry => exact ih.cons_cons entry
  | lagged missed _ ih =>
    rw [List.filterMap_append]
    exact ih.trans (List.sublist_append_right _ _)
  | nothing r hr _ ih => rcases hr with rfl | rfl <;> exact ih

theorem length_entries_le (h : Covers events readings) (hnone : ∀ r ∈ readings, r.entryOf? = none) :
    (events.filterMap BridgeEvent.entryOf?).length ≤ Reading.missedIn readings := by
  induction h with
  | nil => exact Nat.le_refl 0
  | event e _ ih =>
    have hother : e.entryOf? = none := hnone _ List.mem_cons_self
    rw [List.filterMap_cons_none hother, Reading.missedIn_cons, Reading.missed_event, Nat.zero_add]
    exact ih fun r hmem => hnone r (List.mem_cons_of_mem _ hmem)
  | lagged missed _ ih =>
    have hrest := ih fun r hmem => hnone r (List.mem_cons_of_mem _ hmem)
    have hmissed := List.length_filterMap_le BridgeEvent.entryOf? missed
    rw [List.filterMap_append, List.length_append, Reading.missedIn_cons, Reading.missed_lagged]
    omega
  | nothing r hr _ ih =>
    have hrest := ih fun r hmem => hnone r (List.mem_cons_of_mem _ hmem)
    rcases hr with rfl | rfl <;> simpa [Reading.missed] using hrest

end Covers

/-! ### Reads -/

namespace Feed

variable {f : Feed} {r : Receiver}

theorem read_behind (h : f.capacity < f.pending r) (ended : Bool) :
    f.read ended r =
      (.lagged (f.pending r - f.capacity), ⟨f.published.size - f.capacity⟩) := by
  rw [read, if_pos h]

theorem read_next {e : BridgeEvent} (h : ¬f.capacity < f.pending r)
    (hnext : f.published[r.next]? = some e) (ended : Bool) :
    f.read ended r = (.event e, ⟨r.next + 1⟩) := by
  rw [read, if_neg h, hnext]

theorem read_end (h : ¬f.capacity < f.pending r) (hnext : f.published[r.next]? = none)
    (ended : Bool) : f.read ended r = (if ended then .closed else .empty, r) := by
  rw [read, if_neg h, hnext]

end Feed

/-! ### Watching a journal -/

structure Watch where
  journal : Journal
  receiver : Receiver
  readings : List Reading

inductive WatchStep where
  | write (writing : Journal.Writing)
  | read (ended : Bool)

namespace Watch

def subscribed (j : Journal) : Watch :=
  ⟨j, j.feed.subscribe, []⟩

def step (w : Watch) : WatchStep → Watch
  | .write writing => { w with journal := w.journal.write writing }
  | .read ended =>
    let (reading, receiver) := w.journal.feed.read ended w.receiver
    { w with receiver, readings := w.readings ++ [reading] }

def run (w : Watch) (steps : List WatchStep) : Watch :=
  steps.foldl step w

theorem step_read (w : Watch) (ended : Bool) :
    w.step (.read ended) = ⟨w.journal, (w.journal.feed.read ended w.receiver).2,
      w.readings ++ [(w.journal.feed.read ended w.receiver).1]⟩ := rfl

/-- Since the subscription these events have been passed to the receiver, and the others wait. -/
structure Accounts (j : Journal) (w : Watch) (passed waiting : List BridgeEvent) : Prop where
  grew : j.Grew w.journal (passed ++ waiting)
  position : w.receiver.next = j.feed.published.size + passed.length
  covers : Covers passed w.readings

variable {j : Journal} {w : Watch} {passed waiting : List BridgeEvent}

theorem accounts_subscribed (j : Journal) : Accounts j (subscribed j) [] [] :=
  ⟨.refl j, rfl, .nil⟩

theorem Accounts.size (h : Accounts j w passed waiting) :
    w.journal.feed.published.size = j.feed.published.size + (passed.length + waiting.length) := by
  have hlength := congrArg List.length h.grew.published
  simpa using hlength

theorem Accounts.pending (h : Accounts j w passed waiting) :
    w.journal.feed.pending w.receiver = waiting.length := by
  have hsize := h.size
  have hposition := h.position
  unfold Feed.pending
  omega

theorem Accounts.next? (h : Accounts j w passed waiting) :
    w.journal.feed.published[w.receiver.next]? = waiting.head? := by
  have hbefore : (j.feed.published.toList ++ passed).length = w.receiver.next := by
    rw [h.position]
    simp
  rw [← Array.getElem?_toList, h.grew.published, ← List.append_assoc, ← hbefore,
    List.getElem?_append_right (Nat.le_refl _), Nat.sub_self, List.head?_eq_getElem?]

theorem Accounts.write (h : Accounts j w passed waiting) (writing : Journal.Writing) :
    ∃ e, Accounts j (w.step (.write writing)) passed (waiting ++ [e]) := by
  obtain ⟨e, hgrew⟩ := w.journal.grew_write writing
  refine ⟨e, ?_, h.position, h.covers⟩
  rw [← List.append_assoc]
  exact h.grew.trans hgrew

theorem Accounts.read (h : Accounts j w passed waiting) (ended : Bool) :
    ∃ passed' waiting', passed' ++ waiting' = passed ++ waiting ∧
      Accounts j (w.step (.read ended)) passed' waiting' := by
  have hpending := h.pending
  have hsize := h.size
  rw [step_read]
  by_cases hbehind : w.journal.feed.capacity < w.journal.feed.pending w.receiver
  · -- The dropped events are passed all at once, and the reading counts them.
    obtain ⟨n, hn⟩ : ∃ n, n = w.journal.feed.pending w.receiver - w.journal.feed.capacity := ⟨_, rfl⟩
    have htake : (waiting.take n).length = n := by
      rw [List.length_take]
      omega
    have hcovers : Covers (waiting.take n) [.lagged n] := by
      have hlagged := Covers.lagged (waiting.take n) .nil
      rw [List.append_nil, htake] at hlagged
      exact hlagged
    have hsplit : passed ++ waiting.take n ++ waiting.drop n = passed ++ waiting := by
      rw [List.append_assoc, List.take_append_drop]
    refine ⟨passed ++ waiting.take n, waiting.drop n, hsplit, ?_⟩
    rw [Feed.read_behind hbehind, ← hn]
    refine ⟨hsplit ▸ h.grew, ?_, h.covers.append hcovers⟩
    change w.journal.feed.published.size - w.journal.feed.capacity = _
    rw [List.length_append, htake]
    omega
  · have hnext := h.next?
    cases waiting with
    | nil =>
      rw [Feed.read_end hbehind hnext]
      have hnothing : Covers [] [if ended then Reading.closed else .empty] := by
        cases ended
        · exact .nothing _ (.inl rfl) .nil
        · exact .nothing _ (.inr rfl) .nil
      refine ⟨passed, [], rfl, h.grew, h.position, ?_⟩
      have hcovers := h.covers.append hnothing
      rw [List.append_nil] at hcovers
      exact hcovers
    | cons e waiting =>
      rw [Feed.read_next hbehind hnext]
      have hsplit : passed ++ [e] ++ waiting = passed ++ e :: waiting := by simp
      refine ⟨passed ++ [e], waiting, hsplit, hsplit ▸ h.grew, ?_, h.covers.append (.event e .nil)⟩
      change w.receiver.next + 1 = _
      rw [h.position, List.length_append]
      rfl

theorem Accounts.run (h : Accounts j w passed waiting) (steps : List WatchStep) :
    ∃ passed' waiting', Accounts j (w.run steps) passed' waiting' := by
  induction steps generalizing w passed waiting with
  | nil => exact ⟨passed, waiting, h⟩
  | cons step steps ih =>
    cases step with
    | write writing =>
      obtain ⟨e, hwrite⟩ := h.write writing
      exact ih hwrite
    | read ended =>
      obtain ⟨_, _, -, hread⟩ := h.read ended
      exact ih hread

end Watch

end SessionBridge
