import SessionBridge.Control.World
import SessionBridge.Proofs.Bridge.Delivery

/-! What a native call can change on this side, whatever the bus does: one exchange is recorded, no
anchor is touched, and the bridge hears the callbacks that the bus makes meanwhile. -/
namespace SessionBridge.World

variable {β : Type}

/-! ### Incidents -/

@[simp] theorem anchors_undergo (attended : Bool) (w : World β) (i : Incident) :
    (w.undergo attended i).anchors = w.anchors := by
  unfold undergo
  split
  · rfl
  · rfl
  · split <;> rfl
  · rfl

@[simp] theorem exchanges_undergo (attended : Bool) (w : World β) (i : Incident) :
    (w.undergo attended i).exchanges = w.exchanges := by
  unfold undergo
  split
  · rfl
  · rfl
  · split <;> rfl
  · rfl

@[simp] theorem bus_undergo (attended : Bool) (w : World β) (i : Incident) :
    (w.undergo attended i).bus = w.bus := by
  unfold undergo
  split
  · rfl
  · rfl
  · split <;> rfl
  · rfl

theorem bridge_undergo (attended : Bool) (w : World β) (i : Incident) :
    (w.undergo attended i).bridge = w.bridge ∨
      ∃ call, (w.undergo attended i).bridge = w.bridge.receive call := by
  unfold undergo
  split
  · exact .inl rfl
  · rename_i call
    exact .inr ⟨call, rfl⟩
  · split <;> exact .inl rfl
  · exact .inl rfl

/-! ### Native calls -/

structure Performed (w w' : World β) (e : Exchange) : Prop where
  anchors : w'.anchors = w.anchors
  exchanges : w'.exchanges = w.exchanges.push e
  /-- The bridge has only heard callbacks. -/
  bridge : ∃ calls : List Callback, w'.bridge = calls.foldl Bridge.receive w.bridge

theorem bus_foldl_undergo (attended : Bool) (incidents : List Incident) (w : World β) :
    (incidents.foldl (undergo attended) w).bus = w.bus := by
  induction incidents generalizing w with
  | nil => rfl
  | cons i incidents ih => rw [List.foldl_cons, ih, bus_undergo]

theorem bus_perform (w : World β) (attended : Bool) (call : β → Turn β α)
    (exchange : Outcome NativeFailure α → Exchange) :
    (w.perform attended call exchange).2.bus = (call w.bus).bus :=
  bus_foldl_undergo attended _ _

private theorem foldl_undergo (attended : Bool) (incidents : List Incident) (w : World β) :
    (incidents.foldl (undergo attended) w).anchors = w.anchors ∧
      (incidents.foldl (undergo attended) w).exchanges = w.exchanges ∧
      ∃ calls : List Callback,
        (incidents.foldl (undergo attended) w).bridge = calls.foldl Bridge.receive w.bridge := by
  induction incidents generalizing w with
  | nil => exact ⟨rfl, rfl, [], rfl⟩
  | cons i incidents ih =>
    obtain ⟨hanchors, hexchanges, calls, hbridge⟩ := ih (w.undergo attended i)
    rw [List.foldl_cons]
    refine ⟨hanchors.trans (anchors_undergo ..), hexchanges.trans (exchanges_undergo ..), ?_⟩
    rcases bridge_undergo attended w i with hsame | ⟨call, hcall⟩
    · exact ⟨calls, by rw [hbridge, hsame]⟩
    · exact ⟨call :: calls, by rw [hbridge, hcall, List.foldl_cons]⟩

theorem performed {attended : Bool} {call : β → Turn β α}
    {exchange : Outcome NativeFailure α → Exchange} {w w' : World β} {o : Outcome NativeFailure α}
    (h : w.perform attended call exchange = (o, w')) : Performed w w' (exchange o) := by
  obtain ⟨hanchors, hexchanges, calls, hbridge⟩ :=
    foldl_undergo attended (call w.bus).incidents { w with bus := (call w.bus).bus }
  unfold perform at h
  dsimp only at h
  obtain ⟨rfl, rfl⟩ := Prod.mk.inj h
  refine ⟨hanchors, ?_, calls, hbridge⟩
  dsimp only
  rw [hexchanges]

theorem Performed.keeps {P : SessionState → Prop} (hP : SessionState.KeptByJoins P)
    {w w' : World β} {e : Exchange} (hperformed : Performed w w' e) (h : P w.bridge.state) :
    P w'.bridge.state := by
  obtain ⟨calls, hbridge⟩ := hperformed.bridge
  rw [hbridge]
  clear hbridge
  generalize w.bridge = b at h
  induction calls generalizing b with
  | nil => exact h
  | cons call calls ih => exact ih _ (Bridge.keeps_receive hP call h)

end SessionBridge.World
