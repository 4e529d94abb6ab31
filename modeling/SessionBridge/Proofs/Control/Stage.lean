import SessionBridge.Proofs.Bus.Return
import SessionBridge.Proofs.Control.Coupling

/-! A controller alone on a loopback bus that somebody else directs: calls are made to fail, callbacks
are placed before, inside and behind native calls, and between operations the bus calls back through
the table that it holds. None of this makes a call panic, so every operation returns. -/
namespace SessionBridge

inductive Cue where
  | failNext (o : NativeOperation)
  | during (o : NativeOperation) (m : Moment) (calls : List Callback)
  | onLeave (calls : List Callback)

namespace Scripted

def take (s : Scripted) : Cue → Scripted
  | .failNext o => s.mapLoopback (·.failNext o)
  | .during o m calls => s.setHook o m (calls.map .callback)
  | .onLeave calls => s.mapLoopback (·.onLeave (calls.map .callback))

theorem Calm.take {s : Scripted} (h : s.Calm) (q : Cue) : (s.take q).Calm := by
  have hcalls (calls : List Callback) : HookStep.panic ∉ calls.map HookStep.callback := by simp
  cases q with
  | failNext o => exact ⟨h.hooks, h.loopback⟩
  | onLeave calls => exact ⟨h.hooks, hcalls calls⟩
  | during o m calls =>
    refine ⟨?_, h.loopback⟩
    intro hook hmem
    rcases List.mem_cons.mp hmem with rfl | hmem
    · exact hcalls calls
    · exact h.hooks hook (List.mem_filter.mp hmem).1

end Scripted

inductive Move where
  | act (a : Action)
  | cue (q : Cue)
  /-- A callback through the table that the bus holds, while no operation is in progress. -/
  | deliver (call : Callback)

namespace Controller

def move (c : Controller Scripted) : Move → Outcome ControlError Unit × Controller Scripted
  | .act a => c.act a
  | .cue q => (.value (), c.onWorld fun w => { w with bus := w.bus.take q })
  | .deliver call =>
    (.value (), c.onWorld fun w => w.undergo true (.callback w.bus.loopback.table call))

def play (c : Controller Scripted) (moves : List Move) : Controller Scripted :=
  moves.foldl (fun c m => (c.move m).2) c

theorem play_induction {motive : Controller Scripted → Prop} {c : Controller Scripted}
    (start : motive c) (next : ∀ c m, motive c → motive (c.move m).2) (moves : List Move) :
    motive (c.play moves) := by
  induction moves generalizing c with
  | nil => exact start
  | cons m moves ih => exact ih (next c m start)

end Controller

/-! ### Native calls return -/

namespace World

variable {w : World Scripted}

def Back (result : Outcome ε α × World Scripted) : Prop :=
  result.1 ≠ .panic ∧ result.2.bus.Calm

theorem back_perform (attended : Bool) {call : Scripted → Turn Scripted α}
    (exchange : Outcome NativeFailure α → Exchange)
    (h : (call w.bus).Returns Scripted.Calm) : Back (w.perform attended call exchange) := by
  refine ⟨h.outcome, ?_⟩
  rw [bus_perform]
  exact h.bus

theorem back_registerCallbacks (t : CallbackTable) (h : w.bus.Calm) :
    Back (w.registerCallbacks t) :=
  back_perform _ _ (Scripted.returns_registerCallbacks t h)

theorem back_clearCallbacks (attended : Bool) (h : w.bus.Calm) : Back (w.clearCallbacks attended) :=
  back_perform _ _ (Scripted.returns_clearCallbacks h)

theorem back_openSession (mode : SessionMode) (target : BusTarget) (sessionName : String)
    (h : w.bus.Calm) : Back (w.openSession mode target sessionName) :=
  back_perform _ _ (Scripted.returns_openSession mode target sessionName h)

theorem back_send (id : SessionId) (text : String) (h : w.bus.Calm) : Back (w.send id text) :=
  back_perform _ _ (Scripted.returns_send id text h)

theorem back_leaveIfKnown (attended : Bool) (id? : Option SessionId) (h : w.bus.Calm) :
    Back (Controller.leaveIfKnown attended id? w) := by
  cases id? with
  | none => exact ⟨Outcome.value_ne_panic _, h⟩
  | some id => exact back_perform _ _ (Scripted.returns_leave id h)

end World

/-! ### Operations return -/

namespace Controller

def Home (result : Outcome ε α × Controller Scripted) : Prop :=
  result.1 ≠ .panic ∧ result.2.world.bus.Calm

variable {c : Controller Scripted} {w : World Scripted}

theorem back_withdraw (anchor : AnchorId) (f : NativeFailure) (h : w.bus.Calm) :
    World.Back (withdraw anchor f w : Outcome ControlError α × World Scripted) := by
  have hclear := w.back_clearCallbacks true h
  unfold withdraw
  rcases hresult : w.clearCallbacks true with ⟨_ | f' | _, w₁⟩
  all_goals rw [hresult] at hclear
  · exact ⟨Outcome.failure_ne_panic _, hclear.2⟩
  · exact ⟨Outcome.failure_ne_panic _, hclear.2⟩
  · exact absurd rfl hclear.1

theorem back_openLink (target : BusTarget) (anchor : AnchorId) (mode : SessionMode)
    (sessionName : String) (h : w.bus.Calm) :
    World.Back (openLink target anchor mode sessionName w) := by
  have hregister := w.back_registerCallbacks ⟨anchor⟩ h
  unfold openLink
  rcases hresult : w.registerCallbacks ⟨anchor⟩ with ⟨_ | f | _, w₁⟩
  all_goals rw [hresult] at hregister
  case failure => exact ⟨Outcome.failure_ne_panic _, hregister.2⟩
  case panic => exact absurd rfl hregister.1
  dsimp only
  have hopen := (w₁.report .status (target.wellKnownName sessionName ++ " is " ++
    mode.role)).back_openSession mode target sessionName hregister.2
  rcases hresult : (w₁.report .status (target.wellKnownName sessionName ++ " is " ++
    mode.role)).openSession mode target sessionName with ⟨id | f | _, w₂⟩
  all_goals rw [hresult] at hopen
  case value => exact ⟨Outcome.value_ne_panic _, hopen.2⟩
  case failure => exact back_withdraw anchor f hopen.2
  case panic => exact absurd rfl hopen.1

theorem home_connect (mode : SessionMode) (sessionName handle : String) (h : c.world.bus.Calm) :
    Home (c.connect mode sessionName handle) := by
  unfold connect
  rcases connectRefusal? false c.state sessionName handle with _ | e
  case some => exact ⟨Outcome.failure_ne_panic _, h⟩
  dsimp only
  have hopen := back_openLink (w := c.opening mode sessionName handle) c.config.target
    c.world.anchors.next mode sessionName h
  rw [opening] at hopen
  rcases hresult : openLink c.config.target c.world.anchors.next mode sessionName
    (c.world.advance (.connect mode sessionName handle)).issueAnchor with ⟨id | e | _, w⟩
  all_goals rw [hresult] at hopen
  case value => exact ⟨Outcome.value_ne_panic _, hopen.2⟩
  case failure => exact ⟨Outcome.failure_ne_panic _, hopen.2⟩
  case panic => exact absurd rfl hopen.1

theorem home_send (text : String) (h : c.world.bus.Calm) : Home (c.send text) := by
  unfold send
  split
  · exact ⟨Outcome.failure_ne_panic _, h⟩
  rcases c.state.session? with _ | session
  case none => exact ⟨Outcome.failure_ne_panic _, h⟩
  rcases c.link with _ | link
  case none => exact ⟨Outcome.failure_ne_panic _, h⟩
  have hsend := c.world.back_send session.id text h
  dsimp only
  rcases hresult : c.world.send session.id text with ⟨_ | f | _, w⟩
  all_goals rw [hresult] at hsend
  case value => exact ⟨Outcome.value_ne_panic _, hsend.2⟩
  case failure => exact ⟨Outcome.failure_ne_panic _, hsend.2⟩
  case panic => exact absurd rfl hsend.1

theorem home_disconnect (h : c.world.bus.Calm) : Home c.disconnect := by
  unfold disconnect
  cases c.state.isDisconnected with
  | true => exact ⟨Outcome.failure_ne_panic _, h⟩
  | false =>
    rcases c.link with _ | link
    case none => exact ⟨Outcome.failure_ne_panic _, h⟩
    have hleave := c.world.back_leaveIfKnown true c.state.sessionId? h
    dsimp only
    rcases hresult : leaveIfKnown true c.state.sessionId? c.world with ⟨_ | f | _, w₁⟩
    all_goals rw [hresult] at hleave
    case failure => exact ⟨Outcome.failure_ne_panic _, hleave.2⟩
    case panic => exact absurd rfl hleave.1
    have hclear := w₁.back_clearCallbacks true hleave.2
    dsimp only
    rcases hresult : w₁.clearCallbacks true with ⟨_ | f | _, w₂⟩
    all_goals rw [hresult] at hclear
    case value => exact ⟨Outcome.value_ne_panic _, hclear.2⟩
    case failure => exact ⟨Outcome.failure_ne_panic _, hclear.2⟩
    case panic => exact absurd rfl hclear.1

theorem home_move (m : Move) (h : c.world.bus.Calm) : Home (c.move m) := by
  cases m with
  | cue q => exact ⟨Outcome.value_ne_panic _, h.take q⟩
  | deliver call =>
    refine ⟨Outcome.value_ne_panic _, ?_⟩
    rw [move, onWorld, World.bus_undergo]
    exact h
  | act a =>
    cases a with
    | connect mode sessionName handle => exact home_connect mode sessionName handle h
    | send text => exact home_send text h
    | disconnect => exact home_disconnect h
    | callback call => exact ⟨Outcome.value_ne_panic _, h⟩
    | message text code => exact ⟨Outcome.value_ne_panic _, h⟩
    | participant name => exact ⟨Outcome.value_ne_panic _, h⟩
    | install handlers => exact ⟨Outcome.value_ne_panic _, h⟩
    | tick now => exact ⟨Outcome.value_ne_panic _, h⟩

end Controller

end SessionBridge
