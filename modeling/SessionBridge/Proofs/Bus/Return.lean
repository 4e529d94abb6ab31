import SessionBridge.Bus.Scripted

/-! A scripted bus returns from every call as long as no hook panics: nothing else in it does. -/
namespace SessionBridge

theorem Outcome.value_ne_panic (a : α) : (value a : Outcome ε α) ≠ panic := nofun

theorem Outcome.failure_ne_panic (e : ε) : (failure e : Outcome ε α) ≠ panic := nofun

theorem playHook_returns (table : Option CallbackTable) {steps : List HookStep}
    (hsteps : HookStep.panic ∉ steps) : (playHook table steps).2 = false := by
  induction steps with
  | nil => rfl
  | cons step steps ih =>
    rw [List.mem_cons, not_or] at hsteps
    cases step with
    | callback call => exact ih hsteps.2
    | connect mode sessionName handle => exact ih hsteps.2
    | glimpse => exact ih hsteps.2
    | panic => exact absurd rfl hsteps.1

structure Turn.Returns (P : β → Prop) (turn : Turn β α) : Prop where
  outcome : turn.outcome ≠ .panic
  bus : P turn.bus

/-! ### The loopback -/

namespace Loopback

def Calm (l : Loopback) : Prop :=
  HookStep.panic ∉ l.leaveHook

variable {l : Loopback}

theorem returns_perform {o : NativeOperation} {act : Loopback → Turn Loopback α} (h : l.Calm)
    (hact : ∀ l' : Loopback, l'.Calm → (act l').Returns Calm) : (perform o act l).Returns Calm := by
  unfold perform
  split
  · exact ⟨Outcome.failure_ne_panic _, h⟩
  · exact hact (l.log o) h

theorem returns_registerCallbacks (t : CallbackTable) (h : l.Calm) :
    (NativeBus.registerCallbacks t l).Returns Calm :=
  returns_perform h fun _ h' => ⟨Outcome.value_ne_panic _, h'⟩

theorem returns_clearCallbacks (h : l.Calm) : (NativeBus.clearCallbacks l).Returns Calm :=
  returns_perform h fun _ h' => ⟨Outcome.value_ne_panic _, h'⟩

theorem returns_openNext (o : NativeOperation) (target : BusTarget) (h : l.Calm) :
    (perform o (openNext o target) l).Returns Calm := by
  refine returns_perform h fun l' h' => ?_
  unfold openNext
  dsimp only
  split
  · exact ⟨Outcome.failure_ne_panic _, h'⟩
  · exact ⟨Outcome.value_ne_panic _, h'⟩

theorem returns_leave (id : SessionId) (h : l.Calm) :
    (NativeBus.leave id l).Returns Calm := by
  refine returns_perform h fun l' h' => ?_
  unfold close
  simp only [playHook_returns l'.table h', Bool.false_eq_true, if_false]
  split
  · exact ⟨Outcome.value_ne_panic _, h'⟩
  · exact ⟨Outcome.failure_ne_panic _, h'⟩

theorem returns_send (id : SessionId) (text : String) (h : l.Calm) :
    (NativeBus.send id text l).Returns Calm := by
  refine returns_perform h fun l' h' => ?_
  unfold emit
  split
  · exact ⟨Outcome.value_ne_panic _, h'⟩
  · exact ⟨Outcome.failure_ne_panic _, h'⟩

end Loopback

/-! ### The loopback under a script -/

namespace Scripted

structure Calm (s : Scripted) : Prop where
  hooks : ∀ hook ∈ s.hooks, HookStep.panic ∉ hook.2
  loopback : s.loopback.Calm

theorem calm_idle : Calm idle :=
  ⟨nofun, nofun⟩

variable {s : Scripted}

theorem Calm.withLoopback {l : Loopback} (h : s.Calm) (hl : l.Calm) :
    Calm { s with loopback := l } :=
  ⟨h.hooks, hl⟩

theorem Calm.runHook (h : s.Calm) (o : NativeOperation) (m : Moment) :
    (s.runHook o m).1.2 = false ∧ (s.runHook o m).2.Calm := by
  refine ⟨playHook_returns _ ?_, ?_, h.loopback⟩
  · rcases hfound : s.hooks.lookup (o, m) with _ | steps
    · exact nofun
    · obtain ⟨before, after, hhooks, -⟩ := List.lookup_eq_some_iff.mp hfound
      exact h.hooks ((o, m), steps) (by simp [hhooks])
  · intro hook hmem
    exact h.hooks hook (List.mem_filter.mp hmem).1

theorem returns_around {o : NativeOperation} {call : Loopback → Turn Loopback α} (h : s.Calm)
    (hcall : (call s.loopback).Returns Loopback.Calm) : (around o call s).Returns Calm := by
  have htaken : (s.takeFailure o).2.Calm := ⟨h.hooks, h.loopback⟩
  obtain ⟨hbefore, hcalm⟩ := htaken.runHook o .before
  unfold around
  simp only [hbefore, Bool.false_eq_true, if_false]
  split
  · exact ⟨Outcome.failure_ne_panic _, hcalm⟩
  split
  · rename_i houtcome
    exact absurd houtcome hcall.outcome
  · obtain ⟨hafter, hcalm'⟩ := (hcalm.withLoopback hcall.bus).runHook o .after
    refine ⟨?_, hcalm'⟩
    dsimp only
    split
    · rename_i hpanicked
      exact absurd hpanicked (Bool.eq_false_iff.mp hafter)
    · exact hcall.outcome

theorem returns_rename {turn : Turn Scripted SessionId} (h : turn.Returns Calm) :
    (rename turn).Returns Calm := by
  unfold rename
  split
  · exact ⟨Outcome.value_ne_panic _, h.bus.hooks, h.bus.loopback⟩
  · exact h

theorem returns_registerCallbacks (t : CallbackTable) (h : s.Calm) :
    (NativeBus.registerCallbacks t s).Returns Calm :=
  returns_around h (Loopback.returns_registerCallbacks t h.loopback)

theorem returns_clearCallbacks (h : s.Calm) : (NativeBus.clearCallbacks s).Returns Calm :=
  returns_around h (Loopback.returns_clearCallbacks h.loopback)

theorem returns_openSession (mode : SessionMode) (target : BusTarget) (sessionName : String)
    (h : s.Calm) : (NativeBus.openSession mode target sessionName s).Returns Calm := by
  cases mode with
  | owner => exact returns_rename (returns_around h (Loopback.returns_openNext _ target h.loopback))
  | joiner => exact returns_rename (returns_around h (Loopback.returns_openNext _ target h.loopback))

theorem returns_leave (id : SessionId) (h : s.Calm) : (NativeBus.leave id s).Returns Calm :=
  returns_around h (Loopback.returns_leave _ h.loopback)

theorem returns_send (id : SessionId) (text : String) (h : s.Calm) :
    (NativeBus.send id text s).Returns Calm :=
  returns_around h (Loopback.returns_send _ text h.loopback)

end Scripted

end SessionBridge
