import SessionBridge.Proofs.Bridge.Hearing
import SessionBridge.Proofs.Control.Native

/-! A native call as the bus performs it, and what is left of it on this side: of all that happens inside
the call, the bridge hears the callbacks through a registered table, in their order, and nothing else. -/
namespace SessionBridge

def Incident.heard? : Incident → Option Callback
  | .callback (some _) call => some call
  | _ => none

def Turn.heard {β α : Type} (t : Turn β α) : List Callback :=
  t.incidents.filterMap Incident.heard?

namespace World

variable {β α : Type}

theorem exists_undergo (attended : Bool) (w : World β) (i : Incident) :
    ∃ notes, w.undergo attended i =
      { w with bridge := i.heard?.toList.foldl Bridge.receive w.bridge, notes } := by
  unfold undergo
  split
  · exact ⟨_, rfl⟩
  · exact ⟨_, rfl⟩
  · split <;> exact ⟨_, rfl⟩
  · exact ⟨_, rfl⟩

theorem exists_foldl_undergo (attended : Bool) (incidents : List Incident) (w : World β) :
    ∃ notes, incidents.foldl (undergo attended) w =
      { w with bridge := (incidents.filterMap Incident.heard?).foldl Bridge.receive w.bridge, notes } := by
  induction incidents generalizing w with
  | nil => exact ⟨w.notes, rfl⟩
  | cons i incidents ih =>
    obtain ⟨notes, hfirst⟩ := exists_undergo attended w i
    obtain ⟨notes', hrest⟩ := ih (w.undergo attended i)
    refine ⟨notes', ?_⟩
    rw [List.foldl_cons, hrest, hfirst]
    rcases hheard : i.heard? with _ | call
    · rw [List.filterMap_cons_none hheard]
      rfl
    · rw [List.filterMap_cons_some hheard]
      rfl

/-- The outcome of a native call is that of its turn, the bus is as the turn left it, and of the rest only
the bridge and the record can have changed. -/
theorem exists_perform (w : World β) (attended : Bool) (call : β → Turn β α)
    (exchange : Outcome NativeFailure α → Exchange) :
    ∃ notes, w.perform attended call exchange = ((call w.bus).outcome,
      { bus := (call w.bus).bus
        bridge := (call w.bus).heard.foldl Bridge.receive w.bridge
        anchors := w.anchors
        exchanges := w.exchanges.push (exchange (call w.bus).outcome)
        notes }) := by
  obtain ⟨notes, hincidents⟩ :=
    exists_foldl_undergo attended (call w.bus).incidents { w with bus := (call w.bus).bus }
  refine ⟨notes, ?_⟩
  unfold perform
  dsimp only
  rw [hincidents]
  rfl

structure Took (t : Turn β α) (w : World β) (o : Outcome NativeFailure α) (w' : World β) : Prop where
  outcome : t.outcome = o
  bus : w'.bus = t.bus
  bridge : w'.bridge = t.heard.foldl Bridge.receive w.bridge

theorem took {w w' : World β} {attended : Bool} {call : β → Turn β α}
    {exchange : Outcome NativeFailure α → Exchange} {o : Outcome NativeFailure α}
    (h : w.perform attended call exchange = (o, w')) : Took (call w.bus) w o w' := by
  obtain ⟨notes, hperform⟩ := exists_perform w attended call exchange
  rw [hperform] at h
  cases h
  exact ⟨rfl, rfl, rfl⟩

end World

end SessionBridge
