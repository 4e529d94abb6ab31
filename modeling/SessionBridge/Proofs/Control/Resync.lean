import SessionBridge.Proofs.Bridge.Coverage
import SessionBridge.Proofs.Control.Abiding

/-! A display that falls behind finds what it missed in the transcript. The numbers of the entries that it
reads show where some are missing and which ones, and the entries behind the last number before a gap
begin with just those. -/
namespace SessionBridge

namespace Transcript

variable {t : Transcript} {n : Nat} {e : Entry} {rest : List Entry}

theorem since_add (t : Transcript) (n k : Nat) : t.since (n + k) = (t.since n).drop k :=
  List.drop_drop.symm

theorem Dense.sequences {entries : List Entry} (h : t.Dense) (hsince : t.since n = entries ++ rest) :
    entries.map (·.sequence) = List.range' n entries.length := by
  induction entries generalizing n with
  | nil => rfl
  | cons e entries ih =>
    have hfirst : t.toList[n]? = some e := by
      have hhead := congrArg (·[0]?) hsince
      simpa [since, List.getElem?_drop] using hhead
    have hrest : t.since (n + 1) = entries ++ rest := by
      rw [since_add, hsince]
      rfl
    rw [List.map_cons, h n e hfirst, ih hrest, List.length_cons, List.range'_succ]

theorem Dense.sequence (h : t.Dense) (entries : List Entry)
    (hsince : t.since n = entries ++ e :: rest) : e.sequence = n + entries.length := by
  have hrest : t.since (n + entries.length) = [e] ++ rest := by
    rw [since_add, hsince, List.drop_left]
    rfl
  simpa using h.sequences hrest

/-- What a display has that fills every gap between the entries it has read with entries of the log, the
one behind the last entry too. -/
def refill (t : Transcript) (next : Nat) : List Reading → List Entry
  | [] => t.since next
  | r :: readings =>
    match r.entryOf? with
    | some e => (t.since next).take (e.sequence - next) ++ e :: t.refill (e.sequence + 1) readings
    | none => t.refill next readings

theorem refill_cons_some {r : Reading} (h : r.entryOf? = some e) (t : Transcript) (next : Nat)
    (readings : List Reading) :
    t.refill next (r :: readings) =
      (t.since next).take (e.sequence - next) ++ e :: t.refill (e.sequence + 1) readings := by
  rw [refill, h]

theorem refill_cons_none {r : Reading} (h : r.entryOf? = none) (t : Transcript) (next : Nat)
    (readings : List Reading) : t.refill next (r :: readings) = t.refill next readings := by
  rw [refill, h]

theorem Dense.refill {events : List BridgeEvent} {readings : List Reading} (h : t.Dense)
    (hcovers : Covers events readings) (entries : List Entry)
    (hsince : t.since n = entries ++ (events.filterMap BridgeEvent.entryOf? ++ rest)) :
    t.refill n readings = t.since n := by
  induction hcovers generalizing n entries with
  | nil => rfl
  | @event events readings e _ ih =>
    cases hentry : e.entryOf? with
    | none =>
      rw [List.filterMap_cons_none hentry] at hsince
      rw [refill_cons_none (r := .event e) hentry]
      exact ih entries hsince
    | some entry =>
      rw [List.filterMap_cons_some hentry, List.cons_append] at hsince
      have hsequence := h.sequence entries hsince
      have hbehind : t.since (entry.sequence + 1) =
          [] ++ (events.filterMap BridgeEvent.entryOf? ++ rest) := by
        rw [hsequence, Nat.add_assoc, since_add, hsince, ← List.drop_drop, List.drop_left]
        rfl
      rw [refill_cons_some (r := .event e) hentry, ih [] hbehind, hbehind, hsince, hsequence, Nat.add_sub_cancel_left,
        List.take_left]
      rfl
  | lagged missed _ ih =>
    rw [List.filterMap_append, List.append_assoc, ← List.append_assoc] at hsince
    exact ih (entries ++ _) hsince
  | nothing r hr _ ih =>
    have hentry : r.entryOf? = none := by rcases hr with rfl | rfl <;> rfl
    rw [refill_cons_none hentry]
    exact ih _ hsince

end Transcript

/-! ### Gaps -/

/-- The number behind the last of some readings, if that is an entry, or the first number if there are
none. -/
def Reading.UpTo (first : Nat) (readings : List Reading) (next : Nat) : Prop :=
  (readings = [] ∧ next = first) ∨
    ∃ earlier e, readings = earlier ++ [.event (.transcript e)] ∧ next = e.sequence + 1

namespace Watch

/-- A receiver that subscribed at the journal `j` can make up for whatever it misses. -/
structure Resyncs (j : Journal) (w : Watch) : Prop where
  /-- With more pending than there is room for, the oldest events are reported as missed at once. -/
  lags : ∀ ended, w.journal.feed.capacity < w.journal.feed.pending w.receiver →
    (w.journal.feed.read ended w.receiver).1 =
        .lagged (w.journal.feed.pending w.receiver - w.journal.feed.capacity) ∧
      w.journal.feed.pending (w.journal.feed.read ended w.receiver).2 = w.journal.feed.capacity
  /-- Else the oldest event that is pending is given. -/
  gives : ∀ ended, 0 < w.journal.feed.pending w.receiver →
    w.journal.feed.pending w.receiver ≤ w.journal.feed.capacity →
      ∃ e, (w.journal.feed.read ended w.receiver).1 = .event e ∧
        w.journal.feed.pending (w.journal.feed.read ended w.receiver).2 + 1 =
          w.journal.feed.pending w.receiver
  /-- Every event published since is given, reported as missed, or pending. -/
  counted : j.feed.published.size + (w.readings.countP Reading.isEvent +
    Reading.missedIn w.readings + w.journal.feed.pending w.receiver) =
      w.journal.feed.published.size
  increasing : ((w.readings.filterMap Reading.entryOf?).map (·.sequence)).Pairwise (· < ·)
  stored : ∀ e ∈ w.readings.filterMap Reading.entryOf?,
    j.transcript.size ≤ e.sequence ∧ w.journal.transcript.toList[e.sequence]? = some e
  /-- Between an entry and the next one there is a gap only behind a lag, and the log begins with what is
  missing there. -/
  gap : ∀ before between after e next,
    w.readings = before ++ between ++ .event (.transcript e) :: after →
    Reading.UpTo j.transcript.size before next → (∀ r ∈ between, r.entryOf? = none) →
      ((∀ n, .lagged n ∉ between) → e.sequence = next) ∧
        next ≤ e.sequence ∧ e.sequence ≤ next + Reading.missedIn between ∧
        ∃ missing rest, w.journal.transcript.since next = missing ++ e :: rest ∧
          missing.map (·.sequence) = List.range' next (e.sequence - next)
  /-- With nothing pending, all that the log has behind the last entry read is missed. -/
  rest : ∀ before between next, w.readings = before ++ between →
    Reading.UpTo j.transcript.size before next → (∀ r ∈ between, r.entryOf? = none) →
    w.journal.feed.pending w.receiver = 0 →
      (w.journal.transcript.since next).length ≤ Reading.missedIn between ∧
        ((∀ n, .lagged n ∉ between) → w.journal.transcript.since next = [])
  refilled : w.journal.transcript.refill j.transcript.size w.readings =
    w.journal.transcript.since j.transcript.size

variable {j : Journal} {w : Watch} {passed waiting second : List BridgeEvent}
  {before between : List Reading} {next : Nat}

theorem Accounts.since (h : Accounts j w passed waiting) (first : List BridgeEvent)
    (hsplit : passed ++ waiting = first ++ second) :
    w.journal.transcript.since (j.transcript.size + (first.filterMap BridgeEvent.entryOf?).length) =
      second.filterMap BridgeEvent.entryOf? := by
  rw [Transcript.since_add, Transcript.since, h.grew.transcript, hsplit, List.filterMap_append,
    List.drop_left' j.transcript.length_toList, List.drop_left]

/-- The number behind some readings counts the entries that were passed by then. -/
theorem Accounts.upTo {first : List BridgeEvent} (h : Accounts j w passed waiting)
    (hdense : w.journal.transcript.Dense) (hsplit : passed ++ waiting = first ++ second) (hcovers : Covers first before)
    (hnext : Reading.UpTo j.transcript.size before next) :
    next = j.transcript.size + (first.filterMap BridgeEvent.entryOf?).length := by
  rcases hnext with ⟨rfl, rfl⟩ | ⟨earlier, e, rfl, rfl⟩
  · rw [hcovers.of_nil]
    rfl
  · obtain ⟨sooner, last, rfl, -, hlast⟩ := hcovers.of_append
    obtain ⟨none, rfl, hnone⟩ := hlast.of_cons_event
    rw [hnone.of_nil] at hsplit ⊢
    have hsince := h.since _ (hsplit.trans (List.append_assoc ..))
    have hsequence := hdense.sequence [] hsince
    rw [hsequence]
    simp [BridgeEvent.entryOf?, Nat.add_assoc]

theorem Accounts.lags (h : Accounts j w passed waiting) (ended : Bool)
    (hbehind : w.journal.feed.capacity < w.journal.feed.pending w.receiver) :
    (w.journal.feed.read ended w.receiver).1 =
        .lagged (w.journal.feed.pending w.receiver - w.journal.feed.capacity) ∧
      w.journal.feed.pending (w.journal.feed.read ended w.receiver).2 = w.journal.feed.capacity := by
  have hpending := h.pending
  have hsize := h.size
  rw [Feed.read_behind hbehind]
  refine ⟨rfl, ?_⟩
  change w.journal.feed.published.size - (w.journal.feed.published.size - w.journal.feed.capacity) = _
  omega

theorem Accounts.gives (h : Accounts j w passed waiting) (ended : Bool)
    (hsome : 0 < w.journal.feed.pending w.receiver)
    (hroom : w.journal.feed.pending w.receiver ≤ w.journal.feed.capacity) :
    ∃ e, (w.journal.feed.read ended w.receiver).1 = .event e ∧
      w.journal.feed.pending (w.journal.feed.read ended w.receiver).2 + 1 =
        w.journal.feed.pending w.receiver := by
  have hnext := h.next?
  cases waiting with
  | nil =>
    rw [h.pending] at hsome
    exact absurd hsome (Nat.lt_irrefl 0)
  | cons e waiting =>
    rw [Feed.read_next (Nat.not_lt.mpr hroom) hnext]
    refine ⟨e, rfl, ?_⟩
    simp only [Feed.pending] at hsome ⊢
    omega

theorem Accounts.behind (h : Accounts j w passed waiting) (hdense : w.journal.transcript.Dense)
    {after : List Reading} (hreadings : w.readings = before ++ between ++ after)
    (hnext : Reading.UpTo j.transcript.size before next) :
    ∃ middle last, Covers middle between ∧ Covers last after ∧
      w.journal.transcript.since next =
        middle.filterMap BridgeEvent.entryOf? ++ (last ++ waiting).filterMap BridgeEvent.entryOf? := by
  have hcovers := h.covers
  rw [hreadings] at hcovers
  obtain ⟨earlier, last, rfl, hearlier, hlast⟩ := hcovers.of_append
  obtain ⟨first, middle, rfl, hfirst, hmiddle⟩ := hearlier.of_append
  have hsplit : first ++ middle ++ last ++ waiting = first ++ (middle ++ (last ++ waiting)) := by
    simp only [List.append_assoc]
  refine ⟨middle, last, hmiddle, hlast, ?_⟩
  rw [h.upTo hdense hsplit hfirst hnext, h.since _ hsplit, List.filterMap_append]

theorem Accounts.resyncs (h : Accounts j w passed waiting) (hdense : w.journal.transcript.Dense) :
    Resyncs j w := by
  have hall : w.journal.transcript.since j.transcript.size =
      passed.filterMap BridgeEvent.entryOf? ++ waiting.filterMap BridgeEvent.entryOf? := by
    rw [← List.filterMap_append]
    exact h.since [] rfl
  have hread := h.covers.sublist
  refine ⟨h.lags, h.gives, ?_, ?_, ?_, ?_, ?_, ?_⟩
  · rw [← h.covers.length, h.pending, h.size]
  · have hsorted : (List.range' j.transcript.size
        (passed.filterMap BridgeEvent.entryOf?).length).Pairwise (· < ·) := List.pairwise_lt_range'
    rw [← hdense.sequences hall] at hsorted
    exact hsorted.sublist (hread.map _)
  · intro e hmem
    obtain ⟨i, hi⟩ := List.mem_iff_getElem?.mp
      (List.mem_append_left (waiting.filterMap BridgeEvent.entryOf?) (hread.subset hmem))
    rw [← hall, Transcript.since, List.getElem?_drop] at hi
    have hsequence := hdense _ e hi
    rw [hsequence]
    exact ⟨Nat.le_add_right _ _, hi⟩
  · intro before between after e next hreadings hnext hnone
    obtain ⟨middle, last, hmiddle, hlast, hbehind⟩ := h.behind hdense hreadings hnext
    obtain ⟨later, rfl, -⟩ := hlast.of_cons_event
    have hmissing := hmiddle.length_entries_le hnone
    have hsequence := hdense.sequence _ hbehind
    refine ⟨?_, ?_, ?_, _, _, hbehind, ?_⟩
    · intro hcalm
      rw [Reading.missedIn_eq_zero hcalm] at hmissing
      omega
    · omega
    · omega
    · rw [hdense.sequences hbehind, hsequence, Nat.add_sub_cancel_left]
  · intro before between next hreadings hnext hnone hpending
    rw [← List.append_nil (before ++ between)] at hreadings
    obtain ⟨middle, last, hmiddle, hlast, hbehind⟩ := h.behind hdense hreadings hnext
    have hwaiting : waiting = [] := List.eq_nil_of_length_eq_zero (h.pending.symm.trans hpending)
    have hmissing := hmiddle.length_entries_le hnone
    rw [hlast.of_nil, hwaiting, List.nil_append, List.filterMap_nil, List.append_nil] at hbehind
    rw [hbehind]
    refine ⟨hmissing, fun hcalm => ?_⟩
    rw [Reading.missedIn_eq_zero hcalm] at hmissing
    exact List.eq_nil_of_length_eq_zero (Nat.le_zero.mp hmissing)
  · exact hdense.refill h.covers [] hall

end Watch

/-! ### Controllers -/

namespace Bridge

theorem abiding_extends (j : Journal) : Abiding fun b => j.Extends b.journal where
  unseen b b' hjournal _ _ _ h := by
    rw [hjournal]
    exact h
  report _ kind text h := extends_record h .system kind text
  publish _ _ he h := extends_news h he
  message _ text code h := (steady_extends j).deliverMessage text code h
  participant _ name h := (steady_extends j).deliverParticipant name h

end Bridge

theorem Controller.extends_run {β : Type} [NativeBus β] {j : Journal} {c : Controller β}
    (h : j.Extends c.bridge.journal) (actions : List Action) :
    j.Extends (c.run actions).2.bridge.journal := by
  apply abides_run (Bridge.abiding_extends j) _ h
  · intro handlers _ b hb
    obtain ⟨installed, hinstall⟩ := b.install_eq handlers
    rw [hinstall]
    exact hb
  · intro b text hb
    exact Bridge.extends_record hb .outbound .status text

/-- A receiver that falls behind can resynchronize from the log. Whatever has been written before it
subscribes, and however writing and reading are mixed from then on: a read gives the oldest event that is
still there, behind one count of those that are not; every event since is given, counted as missed or
pending; the entries that are given are those of the log, in order; where one does not follow on
the one before it there was a lag, and the log behind that one begins with just the missing entries; with
nothing pending the log ends with the last entry that was given, but for what a lag behind it has counted;
and the entries that are given, with the gaps filled from the log, are all entries since. Controllers do
nothing to their journals but write to them, whatever becomes of their operations, so all this holds of
every receiver of theirs. -/
theorem lagging_receiver_resynchronizes {size : Nat} {feed : Feed}
    (hfeed : Feed.ofSize? size = some feed) (now : Timestamp) (opened : String)
    (before : List Journal.Writing) (steps : List WatchStep) :
    let j := (Journal.start feed now opened).writeAll before
    let w := (Watch.subscribed j).run steps
    w.journal.feed.capacity = size.nextPowerOfTwo ∧ w.Resyncs j ∧
      ∀ (β : Type) [NativeBus β] (config : BusConfig) (bus : β) (c : Controller β)
        (actions later : List Action), max 1 config.eventBufferSize.toNat = size →
        Controller.create config bus now opened = .value c →
          (Journal.start feed now opened).Extends (c.run actions).2.bridge.journal ∧
            (c.run actions).2.bridge.journal.Extends
              ((c.run actions).2.run later).2.bridge.journal := by
  intro j w
  obtain ⟨events, hbefore, -⟩ := (Journal.start feed now opened).grew_writeAll before
  have hdense : j.transcript.Dense := hbefore.dense (Transcript.dense_start now opened)
  obtain ⟨passed, waiting, haccounts⟩ := (Watch.accounts_subscribed j).run steps
  refine ⟨?_, haccounts.resyncs (haccounts.grew.dense hdense), ?_⟩
  · have hcapacity : feed.capacity = size.nextPowerOfTwo := by
      unfold Feed.ofSize? at hfeed
      split at hfeed
      · cases hfeed
      · cases hfeed
        rfl
    exact (haccounts.grew.capacity.trans hbefore.capacity).trans hcapacity
  · intro β _ config bus c actions later hsize hcreate
    obtain ⟨-, feed', hfeed', rfl⟩ := Controller.create_eq_value_iff.mp hcreate
    rw [hsize, hfeed] at hfeed'
    cases hfeed'
    exact ⟨Controller.extends_run (.refl _) actions, Controller.extends_run (.refl _) later⟩

def heard (text : String) : Journal.Writing :=
  .line ⟨⟨0⟩, .inbound, .remote, text⟩

def lagging : List WatchStep :=
  [.write (heard "a"), .read false, .write (heard "b"), .write (.news .disconnected rfl),
    .write (heard "c"), .read false, .read false, .read false]

theorem lagging_receiver_resynchronizes_lagging :
    let j := Journal.start ⟨1, #[]⟩ ⟨0⟩ "noon"
    let w := (Watch.subscribed j).run lagging
    Feed.ofSize? 1 = some ⟨1, #[]⟩ ∧
      w.readings = [.event (.transcript ⟨⟨⟨0⟩, .inbound, .remote, "a"⟩, 1⟩), .lagged 2,
        .event (.transcript ⟨⟨⟨0⟩, .inbound, .remote, "c"⟩, 3⟩), .empty] ∧
      (∃ missing rest, w.journal.transcript.since 2 =
          missing ++ ⟨⟨⟨0⟩, .inbound, .remote, "c"⟩, 3⟩ :: rest ∧
        missing.map (·.sequence) = [2]) ∧
      w.journal.transcript.since 4 = [] := by
  intro j w
  have hfeed : Feed.ofSize? 1 = some ⟨1, #[]⟩ := by decide +kernel
  have hresyncs : w.Resyncs j := (lagging_receiver_resynchronizes hfeed ⟨0⟩ "noon" [] lagging).2.1
  have hreadings : w.readings = [.event (.transcript ⟨⟨⟨0⟩, .inbound, .remote, "a"⟩, 1⟩), .lagged 2,
      .event (.transcript ⟨⟨⟨0⟩, .inbound, .remote, "c"⟩, 3⟩), .empty] := by decide +kernel
  have hpending : w.journal.feed.pending w.receiver = 0 := by decide +kernel
  clear_value w
  obtain ⟨-, -, -, hgap⟩ := hresyncs.gap [_] [.lagged 2] [_] _ 2 hreadings
    (.inr ⟨[], _, rfl, rfl⟩) (by simp [Reading.entryOf?])
  obtain ⟨-, hrest⟩ := hresyncs.rest [_, _, _] [.empty] 4 hreadings
    (.inr ⟨[_, _], _, rfl, rfl⟩) (by simp [Reading.entryOf?]) hpending
  exact ⟨hfeed, hreadings, hgap, hrest (by simp)⟩

end SessionBridge
