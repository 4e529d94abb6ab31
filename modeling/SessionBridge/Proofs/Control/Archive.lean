import SessionBridge.Proofs.Concurrent.Interleaving
import SessionBridge.Proofs.Control.Lasting
import SessionBridge.Proofs.Transcript.Growth

/-! What the transcript keeps. Any number of writers append to it, a controller among them, and readers
poll it meanwhile: nobody's lines are lost, repeated or put out of their order, and nothing that was
written is touched again. -/
namespace SessionBridge

namespace Bridge

theorem lasting_transcript (t : Transcript) : Lasting fun b => t.Extends b.transcript where
  same b b' hjournal _ h := by
    unfold transcript at h ⊢
    rw [hjournal]
    exact h
  record b origin kind text _ h := h.trans (Transcript.extends_append _ _)
  publish _ _ h := h
  insert _ _ _ h := h

end Bridge

theorem Controller.transcript_dense_create {β : Type} {config : BusConfig} {bus : β}
    {now : Timestamp} {opened : String} {c : Controller β}
    (hcreate : create config bus now opened = .value c) : c.bridge.transcript.Dense := by
  obtain ⟨-, feed, -, rfl⟩ := create_eq_value_iff.mp hcreate
  exact Transcript.dense_start now opened

theorem Controller.transcript_extends_run {β : Type} [NativeBus β] (c : Controller β)
    (actions : List Action) : c.bridge.transcript.Extends (c.run actions).2.bridge.transcript :=
  lasting_run (Bridge.lasting_transcript c.bridge.transcript)
    (fun _ _ h => h.trans (Transcript.extends_append _ _)) (.refl _) actions

namespace Transcript

variable {ι : Type} [DecidableEq ι] {programs : ι → List Entry} {schedule : List (ι × Entry)}

theorem callsOf_stored (t : Transcript) (schedule : List (ι × Entry)) (i : ι) :
    (callsOf ((schedule.map Prod.fst).zip (t.storeAll (schedule.map Prod.snd)).1) i).map
      Entry.toLine = (callsOf schedule i).map Entry.toLine := by
  induction schedule generalizing t with
  | nil => rfl
  | cons call schedule ih =>
    obtain ⟨j, e⟩ := call
    have hrest := ih (t.append e.toLine)
    unfold callsOf at hrest ⊢
    rw [List.map_cons, List.map_cons, storeAll_cons, List.zip_cons_cons]
    by_cases hj : j = i
    · simp only [List.filter_cons, hj, decide_true, if_true, List.map_cons, hrest]
      rfl
    · simp only [List.filter_cons, hj, decide_false, Bool.false_eq_true, if_false, hrest]

end Transcript

/-- The transcript is a dense log that only grows. However the programs of its writers are mixed, it
opens with the banner, the entry at a position has that position as its number, and behind the banner
comes what the appends returned: the lines as they were given, those of each writer in the order of its
program, each once. Every snapshot is a prefix of every later one. A reader that polls in between and
moves its cursor by what it gets has got, after its last poll, all entries from its first cursor on,
wherever that is. A controller does nothing to its transcript but append to it, whatever becomes of its
operations, so all this holds of its transcript too. -/
theorem transcript_is_dense_log {ι β : Type} [DecidableEq ι] [NativeBus β]
    {programs : ι → List Entry} {schedule : List (ι × Entry)} (h : Interleaves programs schedule)
    (now : Timestamp) (opened : String) :
    let log := Transcript.start now opened
    let appends := schedule.map Prod.snd
    let stored := (log.storeAll appends).1
    let t := (log.storeAll appends).2
    t.toList = ⟨Transcript.banner now opened, 0⟩ :: stored ∧
      (∀ (i : Nat) e, t.toList[i]? = some e → e.sequence = i) ∧
      stored.map Entry.toLine = appends.map Entry.toLine ∧
      (∀ i, (callsOf ((schedule.map Prod.fst).zip stored) i).map Entry.toLine =
        (programs i).map Entry.toLine) ∧
      (∀ earlier later, earlier <+: later →
        (log.storeAll earlier).2.toList <+: (log.storeAll later).2.toList) ∧
      (∀ first turns,
        (log.follow first (turns ++ [none])).1.flatten =
          (log.follow first (turns ++ [none])).2.toList.filter (first ≤ ·.sequence)) ∧
      (∀ (config : BusConfig) (bus : β) (c : Controller β) (actions : List Action),
        Controller.create config bus now opened = .value c →
          let t := (c.run actions).2.bridge.transcript
          (∃ entries, t = (log.storeAll entries).2) ∧
            ∀ first cursor given, t.Followed first cursor given →
              given ++ t.since cursor = t.toList.filter (first ≤ ·.sequence)) ∧
      ∀ (c : Controller β) (actions : List Action),
        c.bridge.transcript.toList <+: (c.run actions).2.bridge.transcript.toList ∧
          c.bridge.transcript.toList <+: c.release.2.bridge.transcript.toList := by
  intro log appends stored t
  have hdense : log.Dense := Transcript.dense_start now opened
  have hrun (c : Controller β) (actions : List Action) :
      c.bridge.transcript.Extends (c.run actions).2.bridge.transcript :=
    Controller.lasting_run (Bridge.lasting_transcript c.bridge.transcript)
      (fun _ _ h => h.trans (Transcript.extends_append _ _)) (.refl _) actions
  refine ⟨Transcript.toList_storeAll log appends, hdense.storeAll appends,
    log.toLine_storeAll appends, ?_, ?_, ?_, ?_, ?_⟩
  · intro i
    rw [← h i]
    exact log.callsOf_stored schedule i
  · intro earlier later hbegins
    exact (Transcript.extends_of_begins hbegins log).toList
  · intro first turns
    exact (Transcript.Followed.opened log).flatten_follow hdense turns
  · intro config bus c actions hcreate t
    have hstart : c.bridge.transcript = log := by
      obtain ⟨-, feed, -, rfl⟩ := Controller.create_eq_value_iff.mp hcreate
      rfl
    have hextends : log.Extends t := hstart ▸ hrun c actions
    exact ⟨hextends, fun first cursor given hfollowed =>
      hfollowed.complete (hextends.dense hdense)⟩
  · intro c actions
    have hrelease : c.bridge.transcript.Extends c.release.2.bridge.transcript :=
      Controller.lasting_release (Bridge.lasting_transcript c.bridge.transcript) (.refl _)
    exact ⟨(hrun c actions).toList, hrelease.toList⟩

def logging : Bool → List Entry
  | true => [⟨⟨⟨1⟩, .inbound, .remote, "hi"⟩, 7⟩, ⟨⟨⟨3⟩, .inbound, .remote, "there"⟩, 7⟩]
  | false => [⟨⟨⟨2⟩, .system, .error, "fault"⟩, 0⟩]

def logged : List (Bool × Entry) :=
  [(true, ⟨⟨⟨1⟩, .inbound, .remote, "hi"⟩, 7⟩), (false, ⟨⟨⟨2⟩, .system, .error, "fault"⟩, 0⟩),
    (true, ⟨⟨⟨3⟩, .inbound, .remote, "there"⟩, 7⟩)]

theorem transcript_is_dense_log_logging :
    Interleaves logging logged ∧
      ((Transcript.start ⟨0⟩ "noon").storeAll (logged.map Prod.snd)).2.toList =
        [⟨⟨⟨0⟩, .system, .system, "New Session noon"⟩, 0⟩, ⟨⟨⟨1⟩, .inbound, .remote, "hi"⟩, 1⟩,
          ⟨⟨⟨2⟩, .system, .error, "fault"⟩, 2⟩, ⟨⟨⟨3⟩, .inbound, .remote, "there"⟩, 3⟩] := by
  have hinterleaves : Interleaves logging logged := by
    intro i
    cases i <;> decide
  obtain ⟨hlog, -⟩ := transcript_is_dense_log (β := Loopback) hinterleaves ⟨0⟩ "noon"
  refine ⟨hinterleaves, hlog.trans ?_⟩
  decide +kernel

end SessionBridge
