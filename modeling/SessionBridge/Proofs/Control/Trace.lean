import SessionBridge.Proofs.Control.Operation

/-! The trace of a run: each action with its outcome and the native calls it made. A property of runs
in which the bus returns from every call is shown action by action. -/
namespace SessionBridge

def Action.isControl : Action → Bool
  | .connect .. | .send _ | .disconnect => true
  | _ => false

structure Step where
  action : Action
  outcome : Outcome ControlError Unit
  exchanges : List Exchange

namespace Controller

variable {β : Type} [NativeBus β]

def step (c : Controller β) (a : Action) : Step where
  action := a
  outcome := (c.act a).1
  exchanges := (c.act a).2.world.exchanges.toList.drop c.world.exchanges.size

def steps (c : Controller β) : List Action → List Step
  | [] => []
  | a :: actions => c.step a :: (c.act a).2.steps actions

/-- What holds at the start and survives every action that returns holds after every run without a
panic. -/
theorem calm_induction {motive : List Step → Controller β → Prop} {c : Controller β}
    (start : motive [] c)
    (next : ∀ trace c a, motive trace c → (c.act a).1 ≠ .panic →
      motive (trace ++ [c.step a]) (c.act a).2)
    (actions : List Action) (hcalm : Outcome.panic ∉ (c.run actions).1) :
    motive (c.steps actions) (c.run actions).2 := by
  suffices hgeneral : ∀ trace, motive trace c →
      motive (trace ++ c.steps actions) (c.run actions).2 by
    simpa using hgeneral [] start
  clear start
  induction actions generalizing c with
  | nil =>
    intro trace h
    simpa [steps] using h
  | cons a actions ih =>
    intro trace h
    rw [run_cons, List.mem_cons, not_or] at hcalm
    have hnext := next trace c a h (Ne.symm hcalm.1)
    have hrest := ih hcalm.2 _ hnext
    simpa [steps] using hrest

end Controller

/-- What a connect that succeeded was asked for, and the id that the bus gave the session. -/
structure Opening where
  mode : SessionMode
  sessionName : String
  handle : String
  id : SessionId
  deriving DecidableEq

def Exchange.openedId? : Exchange → Option SessionId
  | openSession _ _ _ (.value id) => some id
  | _ => none

def Step.opening? (s : Step) : Option Opening :=
  match s.action, s.outcome with
  | .connect mode sessionName handle, .value () =>
    (s.exchanges.findSome? Exchange.openedId?).map fun id => ⟨mode, sessionName, handle, id⟩
  | _, _ => none

def lastOpening? (trace : List Step) : Option Opening :=
  (trace.filterMap Step.opening?).getLast?

theorem lastOpening?_snoc (trace : List Step) (s : Step) :
    lastOpening? (trace ++ [s]) = s.opening?.or (lastOpening? trace) := by
  unfold lastOpening?
  rw [List.filterMap_append]
  rcases hopening : s.opening? with _ | o
  · simp [hopening]
  · simp [hopening]

namespace Controller

variable {β : Type} [NativeBus β] {c c' : Controller β}

theorem opening?_of_failure {a : Action} {e : ControlError} (h : c.act a = (.failure e, c')) :
    (c.step a).opening? = none := by
  unfold step Step.opening?
  rw [h]
  cases a <;> rfl

theorem opening?_of_not_control {a : Action} (ha : a.isControl = false) :
    (c.step a).opening? = none := by
  cases a with
  | connect mode sessionName handle => cases ha
  | _ => rfl

theorem opening?_of_opened {mode : SessionMode} {sessionName handle : String}
    {target : BusTarget} {table : CallbackTable} {o : Outcome NativeFailure Unit} {id : SessionId}
    (h : c.act (.connect mode sessionName handle) = (.value (), c'))
    (hexchanges : c'.world.exchanges = (c.world.exchanges.push (.registerCallbacks table o)).push
      (.openSession mode target sessionName (.value id))) :
    (c.step (.connect mode sessionName handle)).opening? = some ⟨mode, sessionName, handle, id⟩ := by
  unfold step Step.opening?
  rw [h]
  simp only [hexchanges, Array.toList_push]
  rw [List.append_assoc, ← Array.length_toList, List.drop_left]
  rfl

end Controller

end SessionBridge
