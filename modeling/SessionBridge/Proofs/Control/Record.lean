import SessionBridge.Bus.Loopback
import SessionBridge.Proofs.Control.Trace

/-! The record of native calls against the bus itself. What relates a bus to the calls made of it, and
is kept up by every call, relates it to the record after every operation. A bus that keeps a log of
what it is asked, in whatever detail, therefore finds there the same calls in the same order. -/
namespace SessionBridge

/-- A relation between a bus and the calls made of it that every call keeps up. -/
structure Tracks {β : Type} [NativeBus β] (P : β → List Exchange → Prop) : Prop where
  registerCallbacks : ∀ t b calls, P b calls → P (NativeBus.registerCallbacks t b).bus
    (calls ++ [.registerCallbacks t (NativeBus.registerCallbacks t b).outcome])
  clearCallbacks : ∀ b calls, P b calls → P (NativeBus.clearCallbacks b).bus
    (calls ++ [.clearCallbacks (NativeBus.clearCallbacks b).outcome])
  openSession : ∀ mode target name b calls, P b calls →
    P (NativeBus.openSession mode target name b).bus
      (calls ++ [.openSession mode target name (NativeBus.openSession mode target name b).outcome])
  leave : ∀ id b calls, P b calls → P (NativeBus.leave id b).bus
    (calls ++ [.leave id (NativeBus.leave id b).outcome])
  send : ∀ id text b calls, P b calls → P (NativeBus.send id text b).bus
    (calls ++ [.send id text (NativeBus.send id text b).outcome])

/-- The log of a bus grows by one line with every call, which shows the call and its answer as `view`
shows them. -/
structure Logs {β γ : Type} [NativeBus β] (view : Exchange → γ) (log : β → List γ) : Prop where
  registerCallbacks : ∀ t b, log (NativeBus.registerCallbacks t b).bus =
    log b ++ [view (.registerCallbacks t (NativeBus.registerCallbacks t b).outcome)]
  clearCallbacks : ∀ b, log (NativeBus.clearCallbacks b).bus =
    log b ++ [view (.clearCallbacks (NativeBus.clearCallbacks b).outcome)]
  advertise : ∀ target name b, log (NativeBus.advertise target name b).bus =
    log b ++ [view (.openSession .owner target name (NativeBus.advertise target name b).outcome)]
  discoverAndJoin : ∀ target name b, log (NativeBus.discoverAndJoin target name b).bus =
    log b ++ [view (.openSession .joiner target name
      (NativeBus.discoverAndJoin target name b).outcome)]
  leave : ∀ id b, log (NativeBus.leave id b).bus =
    log b ++ [view (.leave id (NativeBus.leave id b).outcome)]
  send : ∀ id text b, log (NativeBus.send id text b).bus =
    log b ++ [view (.send id text (NativeBus.send id text b).outcome)]

theorem Logs.tracks {β γ : Type} [NativeBus β] {view : Exchange → γ} {log : β → List γ}
    (h : Logs view log) (earlier : List γ) :
    Tracks fun (b : β) calls => log b = earlier ++ calls.map view := by
  have hgrows {b b' : β} {calls : List Exchange} {e : Exchange}
      (hcalls : log b = earlier ++ calls.map view) (hlog : log b' = log b ++ [view e]) :
      log b' = earlier ++ (calls ++ [e]).map view := by
    rw [hlog, hcalls]
    simp
  constructor
  · exact fun t b calls hcalls => hgrows hcalls (h.registerCallbacks t b)
  · exact fun b calls hcalls => hgrows hcalls (h.clearCallbacks b)
  · intro mode target name b calls hcalls
    cases mode with
    | owner => exact hgrows hcalls (h.advertise target name b)
    | joiner => exact hgrows hcalls (h.discoverAndJoin target name b)
  · exact fun id b calls hcalls => hgrows hcalls (h.leave id b)
  · exact fun id text b calls hcalls => hgrows hcalls (h.send id text b)

namespace Loopback

theorem operations_perform {α : Type} {o : NativeOperation} {act : Loopback → Turn Loopback α}
    {l : Loopback} (hact : ∀ l' : Loopback, (act l').bus.operations = l'.operations) :
    (perform o act l).bus.operations.toList = l.operations.toList ++ [o] := by
  have hlog : (l.log o).operations.toList = l.operations.toList ++ [o] := Array.toList_push
  unfold perform
  split
  · exact hlog
  · rw [hact, hlog]

theorem operations_openNext (o : NativeOperation) (target : BusTarget) (l : Loopback) :
    (openNext o target l).bus.operations = l.operations := by
  unfold openNext
  dsimp only
  split <;> rfl

theorem operations_close (id : SessionId) (l : Loopback) :
    (close id l).bus.operations = l.operations := by
  unfold close
  dsimp only
  split
  · rfl
  · split <;> rfl

theorem operations_emit (id : SessionId) (text : String) (l : Loopback) :
    (emit id text l).bus.operations = l.operations := by
  unfold emit
  split <;> rfl

theorem logs_operations : Logs Exchange.operation fun l : Loopback => l.operations.toList where
  registerCallbacks _ _ := operations_perform fun _ => rfl
  clearCallbacks _ := operations_perform fun _ => rfl
  advertise target _ _ := operations_perform (operations_openNext _ target)
  discoverAndJoin target _ _ := operations_perform (operations_openNext _ target)
  leave id _ := operations_perform (operations_close id)
  send id text _ := operations_perform (operations_emit id text)

end Loopback

section
variable {β : Type} {P : β → List Exchange → Prop}

namespace World

def Tracked (w : World β) (P : β → List Exchange → Prop) : Prop :=
  P w.bus w.exchanges.toList

variable {w w' : World β}

theorem Tracked.perform {α : Type} {attended : Bool} {call : β → Turn β α}
    {exchange : Outcome NativeFailure α → Exchange} {o : Outcome NativeFailure α}
    (h : w.Tracked P)
    (hcall : ∀ calls, P w.bus calls →
      P (call w.bus).bus (calls ++ [exchange (call w.bus).outcome]))
    (hresult : w.perform attended call exchange = (o, w')) : w'.Tracked P := by
  have houtcome : (call w.bus).outcome = o := congrArg Prod.fst hresult
  have hbus : w'.bus = (call w.bus).bus := by
    rw [← bus_perform w attended call exchange, hresult]
  have hrecord : w'.exchanges.toList = w.exchanges.toList ++ [exchange o] :=
    (congrArg Array.toList (performed hresult).exchanges).trans Array.toList_push
  unfold Tracked
  rw [hbus, hrecord, ← houtcome]
  exact hcall _ h

variable [NativeBus β]

theorem Tracked.registerCallbacks {t : CallbackTable} {o : Outcome NativeFailure Unit}
    (h : w.Tracked P) (htracks : Tracks P) (hresult : w.registerCallbacks t = (o, w')) :
    w'.Tracked P :=
  h.perform (htracks.registerCallbacks t w.bus) hresult

theorem Tracked.clearCallbacks {attended : Bool} {o : Outcome NativeFailure Unit}
    (h : w.Tracked P) (htracks : Tracks P) (hresult : w.clearCallbacks attended = (o, w')) :
    w'.Tracked P :=
  h.perform (htracks.clearCallbacks w.bus) hresult

theorem Tracked.openSession {mode : SessionMode} {target : BusTarget} {sessionName : String}
    {o : Outcome NativeFailure SessionId} (h : w.Tracked P) (htracks : Tracks P)
    (hresult : w.openSession mode target sessionName = (o, w')) : w'.Tracked P :=
  h.perform (htracks.openSession mode target sessionName w.bus) hresult

theorem Tracked.send {id : SessionId} {text : String} {o : Outcome NativeFailure Unit}
    (h : w.Tracked P) (htracks : Tracks P) (hresult : w.send id text = (o, w')) : w'.Tracked P :=
  h.perform (htracks.send id text w.bus) hresult

theorem Tracked.leaveIfKnown {attended : Bool} {id? : Option SessionId}
    {o : Outcome NativeFailure Unit} (h : w.Tracked P) (htracks : Tracks P)
    (hresult : Controller.leaveIfKnown attended id? w = (o, w')) : w'.Tracked P := by
  cases id? with
  | none =>
    cases hresult
    exact h
  | some id => exact h.perform (htracks.leave id w.bus) hresult

end World

namespace Controller

variable [NativeBus β] {c : Controller β} {mode : SessionMode} {sessionName handle : String}

theorem Asked.tracked {o : Outcome NativeFailure SessionId} {w₁ w₂ : World β}
    (hasked : Asked c mode sessionName handle o w₁ w₂) (htracks : Tracks P)
    (h : c.world.Tracked P) : w₂.Tracked P := by
  have hopening : (c.opening mode sessionName handle).Tracked P := h
  have hregistered := hopening.registerCallbacks htracks hasked.registered
  have hreported : (w₁.report .status (c.statusLine mode sessionName)).Tracked P := hregistered
  exact hreported.openSession htracks hasked.asked

theorem Left.tracked {link : Link} {o : Outcome NativeFailure Unit} {w₁ w₂ : World β}
    (hleft : Left c link o w₁ w₂) (htracks : Tracks P) (h : c.world.Tracked P) : w₂.Tracked P :=
  (h.leaveIfKnown htracks hleft.left).clearCallbacks htracks hleft.cleared

theorem tracked_connect (htracks : Tracks P) (h : c.world.Tracked P)
    (hcalm : (c.connect mode sessionName handle).1 ≠ .panic) :
    (c.connect mode sessionName handle).2.world.Tracked P := by
  have hconnects := connect_connects hcalm
  generalize (c.connect mode sessionName handle).1 = outcome at hconnects
  generalize (c.connect mode sessionName handle).2 = c' at hconnects
  cases hconnects with
  | refused => exact h
  | unregistered hallowed hregister =>
    have hopening : (c.opening mode sessionName handle).Tracked P := h
    have hregistered := hopening.registerCallbacks htracks hregister
    exact hregistered
  | withdrawn hasked hclear =>
    have hcleared := (hasked.tracked htracks h).clearCallbacks htracks hclear
    exact hcleared
  | leaked hasked hclear =>
    have hcleared := (hasked.tracked htracks h).clearCallbacks htracks hclear
    exact hcleared
  | opened hasked => exact hasked.tracked htracks h

theorem tracked_send {text : String} (htracks : Tracks P) (h : c.world.Tracked P)
    (hcalm : (c.send text).1 ≠ .panic) : (c.send text).2.world.Tracked P := by
  have hsends := send_sends hcalm
  generalize (c.send text).1 = outcome at hsends
  generalize (c.send text).2 = c' at hsends
  cases hsends with
  | tooLong => exact h
  | unestablished => exact h
  | unlinked => exact h
  | failed hspoken => exact h.send htracks hspoken.sent
  | sent hspoken =>
    have hsent := h.send htracks hspoken.sent
    exact hsent

theorem tracked_disconnect (htracks : Tracks P) (h : c.world.Tracked P)
    (hcalm : c.disconnect.1 ≠ .panic) : c.disconnect.2.world.Tracked P := by
  have hdisconnects := disconnect_disconnects hcalm
  generalize c.disconnect.1 = outcome at hdisconnects
  generalize c.disconnect.2 = c' at hdisconnects
  cases hdisconnects with
  | refused => exact h
  | kept hactive hlink hleave => exact h.leaveIfKnown htracks hleave
  | cleared hleft => exact hleft.tracked htracks h
  | leaked hleft => exact hleft.tracked htracks h

theorem tracked_act {a : Action} (htracks : Tracks P) (h : c.world.Tracked P)
    (hcalm : (c.act a).1 ≠ .panic) : (c.act a).2.world.Tracked P := by
  cases a with
  | connect mode sessionName handle => exact tracked_connect htracks h hcalm
  | send text => exact tracked_send htracks h hcalm
  | disconnect => exact tracked_disconnect htracks h hcalm
  | callback call => exact h
  | message text code => exact h
  | participant name => exact h
  | install handlers => exact h
  | tick now => exact h

theorem tracked_run (htracks : Tracks P) (h : c.world.Tracked P) (actions : List Action)
    (hcalm : Outcome.panic ∉ (c.run actions).1) : (c.run actions).2.world.Tracked P :=
  calm_induction (motive := fun _ c => c.world.Tracked P) h
    (fun _ _ _ h hact => tracked_act htracks h hact) actions hcalm

theorem Abandoned.tracked {link : Link} {o o' : Outcome NativeFailure Unit} {w₁ w₂ : World β}
    (habandoned : Abandoned c link o o' w₁ w₂) (htracks : Tracks P) (h : c.world.Tracked P) :
    w₂.Tracked P := by
  have hmuted : c.muted.Tracked P := h
  exact (hmuted.leaveIfKnown htracks habandoned.left).clearCallbacks htracks habandoned.cleared

theorem tracked_release (htracks : Tracks P) (h : c.world.Tracked P) : c.release.2.Tracked P := by
  have hmuted : c.muted.Tracked P := h
  have hreleases := c.release_releases
  generalize c.release.1 = panicked at hreleases
  generalize c.release.2 = w at hreleases
  cases hreleases with
  | unlinked => exact hmuted
  | broken hlink hleave =>
    have hleft := hmuted.leaveIfKnown htracks hleave
    exact hleft
  | stopped habandoned => exact habandoned.tracked htracks h
  | released habandoned => exact habandoned.tracked htracks h
  | leaked habandoned => exact habandoned.tracked htracks h

end Controller

end

end SessionBridge
