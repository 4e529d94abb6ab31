import SessionBridge.Bus.Scripted

/-! The one table that a loopback bus keeps, also under a script. Registration replaces it, clearing
removes it, a call that fails leaves it, and every callback goes through the table of its moment. -/
namespace SessionBridge

def Through (table table' : Option CallbackTable) (incidents : List Incident) : Prop :=
  ∀ used call, Incident.callback used call ∈ incidents → used = table ∨ used = table'

theorem through_nil (table table' : Option CallbackTable) : Through table table' [] := nofun

theorem Through.append {table table' : Option CallbackTable} {first second : List Incident}
    (hfirst : Through table table' first) (hsecond : Through table table' second) :
    Through table table' (first ++ second) := by
  intro used call hmem
  rcases List.mem_append.mp hmem with hmem | hmem
  · exact hfirst used call hmem
  · exact hsecond used call hmem

theorem through_playHook (table : Option CallbackTable) (steps : List HookStep) :
    ∀ used call, Incident.callback used call ∈ (playHook table steps).1 → used = table := by
  intro used call hmem
  induction steps with
  | nil => cases hmem
  | cons step steps ih =>
    cases step with
    | callback call' =>
      rcases List.mem_cons.mp hmem with heq | hmem
      · cases heq
        rfl
      · exact ih hmem
    | connect mode sessionName handle =>
      rcases List.mem_cons.mp hmem with heq | hmem
      · cases heq
      · exact ih hmem
    | glimpse =>
      rcases List.mem_cons.mp hmem with heq | hmem
      · cases heq
      · exact ih hmem
    | panic => cases hmem

/-- How a native call treats the table: the callbacks go through the one before or the one it leaves
behind, a success leaves `granted`, and a failure leaves the table as it was. -/
structure Turn.Handles (tableOf : β → Option CallbackTable) (table granted : Option CallbackTable)
    (turn : Turn β α) : Prop where
  through : Through table (tableOf turn.bus) turn.incidents
  value : ∀ a, turn.outcome = .value a → tableOf turn.bus = granted
  failure : ∀ f, turn.outcome = .failure f → tableOf turn.bus = table

/-! ### The loopback -/

namespace Loopback

variable {o : NativeOperation} {act : Loopback → Turn Loopback α} {l : Loopback}

theorem handles_perform {granted : Option CallbackTable}
    (hact : ∀ l' : Loopback, l'.table = l.table → (act l').Handles table l.table granted) :
    (perform o act l).Handles table l.table granted := by
  unfold perform
  split
  · exact ⟨through_nil _ _, nofun, fun _ _ => rfl⟩
  · exact hact (l.log o) rfl

theorem handles_registerCallbacks (t : CallbackTable) (l : Loopback) :
    (NativeBus.registerCallbacks t l).Handles table l.table (some t) :=
  handles_perform fun _ _ => ⟨through_nil _ _, fun _ _ => rfl, nofun⟩

theorem handles_clearCallbacks (l : Loopback) :
    (NativeBus.clearCallbacks l).Handles table l.table none :=
  handles_perform fun _ _ => ⟨through_nil _ _, fun _ _ => rfl, nofun⟩

theorem handles_openNext (o : NativeOperation) (target : BusTarget) (l : Loopback) :
    (perform o (openNext o target) l).Handles table l.table l.table := by
  refine handles_perform fun l' htable => ?_
  unfold openNext
  dsimp only
  split
  · exact ⟨through_nil _ _, nofun, fun _ _ => htable⟩
  · exact ⟨through_nil _ _, fun _ _ => htable, nofun⟩

theorem handles_leave (id : SessionId) (l : Loopback) :
    (NativeBus.leave id l).Handles table l.table l.table := by
  refine handles_perform fun l' htable => ?_
  unfold close
  rcases hplay : playHook l'.table l'.leaveHook with ⟨incidents, panicked⟩
  have hhook : Through l.table l'.table incidents := by
    intro used call hmem
    have hused := through_playHook l'.table l'.leaveHook used call (by rw [hplay]; exact hmem)
    exact .inr hused
  dsimp only
  split
  · exact ⟨hhook, nofun, nofun⟩
  split
  · exact ⟨hhook, fun _ _ => htable, nofun⟩
  · exact ⟨hhook, nofun, fun _ _ => htable⟩

theorem handles_send (id : SessionId) (text : String) (l : Loopback) :
    (NativeBus.send id text l).Handles table l.table l.table := by
  refine handles_perform fun l' htable => ?_
  unfold emit
  split
  · exact ⟨through_nil _ _, fun _ _ => htable, nofun⟩
  · exact ⟨through_nil _ _, nofun, fun _ _ => htable⟩

end Loopback

/-! ### The loopback under a script -/

namespace Scripted

def table (s : Scripted) : Option CallbackTable :=
  s.loopback.table

theorem through_hook (s : Scripted) (o : NativeOperation) (m : Moment)
    (other : Option CallbackTable) : Through s.table other (s.runHook o m).1.1 :=
  fun used call hmem => .inl (through_playHook _ _ used call hmem)

variable {o : NativeOperation} {call : Loopback → Turn Loopback α} {s : Scripted}

/-- The script adds failures and callbacks to a call, and leaves the table to the loopback. -/
theorem handles_around {granted : Option CallbackTable}
    (hcall : (call s.loopback).Handles Loopback.table s.table granted) :
    (around o call s).Handles table s.table granted := by
  unfold around
  have hbefore (other : Option CallbackTable) :
      Through s.table other ((s.takeFailure o).2.runHook o .before).1.1 :=
    through_hook (s.takeFailure o).2 o .before other
  dsimp only
  split
  · exact ⟨hbefore _, nofun, nofun⟩
  split
  · exact ⟨hbefore _, nofun, fun _ _ => rfl⟩
  split
  · exact ⟨(hbefore _).append hcall.through, nofun, nofun⟩
  · refine ⟨((hbefore _).append hcall.through).append ?_, ?_, ?_⟩
    · intro used call' hmem
      exact .inr (through_playHook _ _ used call' hmem)
    · intro a hvalue
      dsimp only at hvalue
      split at hvalue
      · cases hvalue
      · exact hcall.value a hvalue
    · intro f hfailure
      dsimp only at hfailure
      split at hfailure
      · cases hfailure
      · exact hcall.failure f hfailure

theorem handles_rename {granted : Option CallbackTable} {turn : Turn Scripted SessionId}
    (h : turn.Handles table s.table granted) : (rename turn).Handles table s.table granted := by
  unfold rename
  split
  · rename_i id chosen houtcome _
    exact ⟨h.through, fun _ _ => h.value id houtcome, nofun⟩
  · exact h

theorem handles_registerCallbacks (t : CallbackTable) (s : Scripted) :
    (NativeBus.registerCallbacks t s).Handles table s.table (some t) :=
  handles_around (Loopback.handles_registerCallbacks t s.loopback)

theorem handles_clearCallbacks (s : Scripted) :
    (NativeBus.clearCallbacks s).Handles table s.table none :=
  handles_around (Loopback.handles_clearCallbacks s.loopback)

theorem handles_openSession (mode : SessionMode) (target : BusTarget) (sessionName : String)
    (s : Scripted) :
    (NativeBus.openSession mode target sessionName s).Handles table s.table s.table := by
  cases mode with
  | owner => exact handles_rename (handles_around (Loopback.handles_openNext _ target s.loopback))
  | joiner => exact handles_rename (handles_around (Loopback.handles_openNext _ target s.loopback))

theorem handles_leave (id : SessionId) (s : Scripted) :
    (NativeBus.leave id s).Handles table s.table s.table :=
  handles_around (Loopback.handles_leave _ s.loopback)

theorem handles_send (id : SessionId) (text : String) (s : Scripted) :
    (NativeBus.send id text s).Handles table s.table s.table :=
  handles_around (Loopback.handles_send _ text s.loopback)

end Scripted

end SessionBridge
