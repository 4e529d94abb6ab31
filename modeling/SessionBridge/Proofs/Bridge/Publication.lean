import SessionBridge.Proofs.Bridge.Replica
import SessionBridge.Proofs.Transcript.Growth

/-! What is written to a journal. Lines are appended, each published as it is stored, and other events are
published between them; so the entries among the events of a feed are the entries of its transcript, in
the same order and with nothing left out. -/
namespace SessionBridge

def BridgeEvent.entryOf? : BridgeEvent → Option Entry
  | transcript e => some e
  | _ => none

theorem BridgeEvent.entryOf?_of_isEntry {e : BridgeEvent} (h : e.isEntry = false) : e.entryOf? = none := by
  cases e with
  | transcript entry => cases h
  | _ => rfl

namespace Journal

inductive Writing where
  | line (line : Line)
  | news (e : BridgeEvent) (he : e.isEntry = false)

def write (j : Journal) : Writing → Journal
  | .line line => j.append line
  | .news e _ => j.publish e

def writeAll (j : Journal) (writings : List Writing) : Journal :=
  writings.foldl write j

def Extends (j j' : Journal) : Prop :=
  ∃ writings, j' = j.writeAll writings

variable {j j' j'' : Journal}

theorem Extends.refl (j : Journal) : j.Extends j :=
  ⟨[], rfl⟩

theorem Extends.trans (h : j.Extends j') (h' : j'.Extends j'') : j.Extends j'' := by
  obtain ⟨writings, rfl⟩ := h
  obtain ⟨writings', rfl⟩ := h'
  exact ⟨writings ++ writings', by simp [writeAll]⟩

theorem extends_append (j : Journal) (line : Line) : j.Extends (j.append line) :=
  ⟨[.line line], rfl⟩

theorem extends_publish (j : Journal) {e : BridgeEvent} (he : e.isEntry = false) :
    j.Extends (j.publish e) :=
  ⟨[.news e he], rfl⟩

/-- Behind any writing the feed holds these events more, and the transcript the entries among them. -/
structure Grew (j j' : Journal) (events : List BridgeEvent) : Prop where
  capacity : j'.feed.capacity = j.feed.capacity
  published : j'.feed.published.toList = j.feed.published.toList ++ events
  transcript : j'.transcript.toList = j.transcript.toList ++ events.filterMap BridgeEvent.entryOf?
  dense : j.transcript.Dense → j'.transcript.Dense

theorem Grew.refl (j : Journal) : j.Grew j [] :=
  ⟨rfl, (List.append_nil _).symm, (List.append_nil _).symm, id⟩

theorem Grew.trans {events events' : List BridgeEvent} (h : j.Grew j' events)
    (h' : j'.Grew j'' events') : j.Grew j'' (events ++ events') where
  capacity := h'.capacity.trans h.capacity
  published := by rw [h'.published, h.published, List.append_assoc]
  transcript := by rw [h'.transcript, h.transcript, List.filterMap_append, List.append_assoc]
  dense hdense := h'.dense (h.dense hdense)

theorem grew_write (j : Journal) (writing : Writing) : ∃ e, j.Grew (j.write writing) [e] := by
  cases writing with
  | line line =>
    refine ⟨.transcript (j.transcript.place line), rfl, Array.toList_push, ?_, fun h => h.append line⟩
    exact Transcript.toList_append j.transcript line
  | news e he =>
    refine ⟨e, rfl, Array.toList_push, ?_, id⟩
    rw [List.filterMap_cons_none (BridgeEvent.entryOf?_of_isEntry he), List.filterMap_nil,
      List.append_nil]
    rfl

theorem grew_writeAll (j : Journal) (writings : List Writing) :
    ∃ events, j.Grew (j.writeAll writings) events ∧ events.length = writings.length := by
  induction writings generalizing j with
  | nil => exact ⟨[], .refl j, rfl⟩
  | cons writing writings ih =>
    obtain ⟨e, hfirst⟩ := j.grew_write writing
    obtain ⟨events, hrest, hlength⟩ := ih (j.write writing)
    exact ⟨e :: events, hfirst.trans hrest, by simp [hlength]⟩

theorem Extends.transcript (h : j.Extends j') : j.transcript.toList <+: j'.transcript.toList := by
  obtain ⟨writings, rfl⟩ := h
  obtain ⟨events, hgrew, -⟩ := j.grew_writeAll writings
  exact ⟨_, hgrew.transcript.symm⟩

theorem Extends.published (h : j.Extends j') :
    j.feed.published.toList <+: j'.feed.published.toList := by
  obtain ⟨writings, rfl⟩ := h
  obtain ⟨events, hgrew, -⟩ := j.grew_writeAll writings
  exact ⟨_, hgrew.published.symm⟩

end Journal

namespace Bridge

variable {b b' : Bridge} {j : Journal}

theorem extends_record (h : j.Extends b.journal) (origin : Origin) (kind : InformType)
    (text : String) : j.Extends (b.record origin kind text).journal :=
  h.trans (b.journal.extends_append _)

theorem extends_news (h : j.Extends b.journal) {e : BridgeEvent} (he : e.isEntry = false) :
    j.Extends (b.publish e).journal :=
  h.trans (b.journal.extends_publish he)

theorem steady_extends (j : Journal) : Steady fun b => j.Extends b.journal where
  record _ origin kind text _ h := extends_record h origin kind text
  showed _ _ h := h
  enroll b p _ h :=
    extends_news (extends_record (b := { b with registry := b.registry.insert p }) h .system _ _) rfl
  join b h := by
    have hadvances := b.advance_advances .participantJoined
    generalize b.advance .participantJoined = b' at hadvances
    cases hadvances with
    | rejected => exact h
    | moved => exact h
    | @established s =>
      exact extends_news (extends_record
        (b := { b with state := .established s, established := b.established + 1 }) h .system _ _) rfl

end Bridge

end SessionBridge
