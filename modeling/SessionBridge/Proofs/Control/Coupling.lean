import SessionBridge.Proofs.Bus.Return
import SessionBridge.Proofs.Control.Trace

/-! The link and the session state are two variables that operations change at different moments,
while callbacks move the state at any of them. At rest they agree all the same: a link is held
exactly while a session is open or being opened, and the state describes the session of the last
successful connect. The checks for a link without a session and for a session without a link
therefore never fire. -/
namespace SessionBridge

/-! ### What the state says about a session -/

namespace SessionState

/-- The state of the session that `o` opened: waiting for a participant, or established. -/
def Serves (o : Opening) : SessionState → Prop
  | disconnected => False
  | connecting a =>
    a.mode = o.mode ∧ a.sessionName = o.sessionName ∧ a.handle = o.handle ∧ a.sessionId = some o.id
  | owner s =>
    o.mode = .owner ∧ s.mode = .owner ∧ s.name = o.sessionName ∧ s.handle = o.handle ∧ s.id = o.id
  | joined s =>
    o.mode = .joiner ∧ s.mode = .joiner ∧ s.name = o.sessionName ∧ s.handle = o.handle ∧ s.id = o.id

/-- The state while the bus has not returned from the open call. -/
def Awaits (mode : SessionMode) (sessionName handle : String) : SessionState → Prop
  | connecting a =>
    a.mode = mode ∧ a.sessionName = sessionName ∧ a.handle = handle ∧ a.sessionId = none
  | _ => False

theorem Serves.sessionId? {o : Opening} {s : SessionState} (h : s.Serves o) :
    s.sessionId? = some o.id := by
  cases s with
  | disconnected => exact h.elim
  | connecting a => exact h.2.2.2
  | owner s => exact congrArg some h.2.2.2.2
  | joined s => exact congrArg some h.2.2.2.2

theorem Serves.ne_disconnected {o : Opening} {s : SessionState} (h : s.Serves o) :
    s ≠ disconnected := by
  rintro rfl
  exact h

theorem serves_established {o : Opening} {a : Attempt} (hmode : a.mode = o.mode)
    (hname : a.sessionName = o.sessionName) (hhandle : a.handle = o.handle) (now : Timestamp) :
    (established (a.establish o.id now)).Serves o := by
  unfold established Attempt.establish
  rcases hrole : a.mode with _ | _
  · exact ⟨hmode.symm.trans hrole, rfl, hname, hhandle, rfl⟩
  · exact ⟨hmode.symm.trans hrole, rfl, hname, hhandle, rfl⟩

theorem keptByJoins_serves (o : Opening) : KeptByJoins (Serves o) := by
  intro now s h
  cases s with
  | disconnected => exact h.elim
  | connecting a =>
    obtain ⟨hmode, hname, hhandle, hid⟩ := h
    simp only [after, next?, hid]
    exact serves_established hmode hname hhandle now
  | owner s => exact h
  | joined s => exact h

theorem keptByJoins_awaits (mode : SessionMode) (sessionName handle : String) :
    KeptByJoins (Awaits mode sessionName handle) := by
  intro now s h
  cases s with
  | connecting a =>
    obtain ⟨hmode, hname, hhandle, hid⟩ := h
    simp only [after, next?, hid]
    exact ⟨hmode, hname, hhandle, rfl⟩
  | disconnected => exact h.elim
  | owner s => exact h.elim
  | joined s => exact h.elim

theorem awaits_after_connect (now : Timestamp) (mode : SessionMode) (sessionName handle : String) :
    (disconnected.after now (.connect mode sessionName handle)).Awaits mode sessionName handle :=
  ⟨rfl, rfl, rfl, rfl⟩

theorem Awaits.accepts {mode : SessionMode} {sessionName handle : String} {s : SessionState}
    (h : s.Awaits mode sessionName handle) (now : Timestamp) (id : SessionId) :
    (∃ t, s.transition now (.nativeAccepted id) = .ok t) ∧
      (s.after now (.nativeAccepted id)).Serves ⟨mode, sessionName, handle, id⟩ := by
  cases s with
  | disconnected => exact h.elim
  | owner s => exact h.elim
  | joined s => exact h.elim
  | connecting a =>
    obtain ⟨hmode, hname, hhandle, hid⟩ := h
    simp only [transition, after, next?, hid]
    cases hearly : a.joinedEarly with
    | true =>
      refine ⟨⟨_, rfl⟩, ?_⟩
      exact serves_established (o := ⟨mode, sessionName, handle, id⟩) hmode hname hhandle now
    | false => exact ⟨⟨_, rfl⟩, hmode, hname, hhandle, rfl⟩

theorem Awaits.fails {mode : SessionMode} {sessionName handle : String} {s : SessionState}
    (h : s.Awaits mode sessionName handle) (now : Timestamp) (reason : String) :
    (∃ t, s.transition now (.connectFailed reason) = .ok t) ∧
      s.after now (.connectFailed reason) = disconnected := by
  cases s with
  | disconnected => exact h.elim
  | owner s => exact h.elim
  | joined s => exact h.elim
  | connecting a => exact ⟨⟨_, rfl⟩, rfl⟩

theorem Serves.disconnects {o : Opening} {s : SessionState} (h : s.Serves o) (now : Timestamp) :
    (∃ t, s.transition now .disconnect = .ok t) ∧ s.after now .disconnect = disconnected := by
  cases s with
  | disconnected => exact h.elim
  | connecting a => exact ⟨⟨_, rfl⟩, rfl⟩
  | owner s => exact ⟨⟨_, rfl⟩, rfl⟩
  | joined s => exact ⟨⟨_, rfl⟩, rfl⟩

end SessionState

namespace Controller

variable {β : Type}

/-! ### The two variables at rest -/

/-- A session state and a link belong together; they come from the successful connect `last`. -/
structure Coupled (last : Option Opening) (c : Controller β) : Prop where
  idle : c.link = none → c.state = .disconnected
  active : ∀ link, c.link = some link →
    ∃ o, last = some o ∧ link.sessionName = o.sessionName ∧ c.state.Serves o

variable {last : Option Opening}

theorem Coupled.link_isSome_iff {c : Controller β} (h : c.Coupled last) :
    c.link.isSome ↔ c.state ≠ .disconnected := by
  rcases hlink : c.link with _ | link
  · simp [h.idle hlink]
  · obtain ⟨o, -, -, hserves⟩ := h.active link hlink
    simp [hserves.ne_disconnected]

/-- Whatever keeps the link and moves the state as joins do keeps them together. -/
theorem Coupled.stays {c c' : Controller β} (h : c.Coupled last) (hlink : c'.link = c.link)
    (hstate : ∀ P, SessionState.KeptByJoins P → P c.state → P c'.state) : c'.Coupled last where
  idle hnone :=
    hstate (· = .disconnected) (by rintro now _ rfl; rfl) (h.idle (hlink.symm.trans hnone))
  active link hsome := by
    obtain ⟨o, hlast, hname, hserves⟩ := h.active link (hlink.symm.trans hsome)
    exact ⟨o, hlast, hname, hstate _ (SessionState.keptByJoins_serves o) hserves⟩

theorem Coupled.rests {c' : Controller β} (hlink : c'.link = none)
    (hstate : c'.state = .disconnected) : c'.Coupled last where
  idle _ := hstate
  active link hsome := by
    rw [hlink] at hsome
    cases hsome

/-! ### Connect -/

theorem disconnected_of_allowed {c : Controller β} {sessionName handle : String}
    (hallowed : connectRefusal? false c.state sessionName handle = none) :
    c.state = .disconnected := by
  unfold connectRefusal? at hallowed
  split at hallowed
  · cases hallowed
  split at hallowed
  · cases hallowed
  cases hstate : c.state with
  | disconnected => rfl
  | connecting a => simp [hstate, SessionState.isDisconnected] at hallowed
  | owner s => simp [hstate, SessionState.isDisconnected] at hallowed
  | joined s => simp [hstate, SessionState.isDisconnected] at hallowed

@[simp] theorem state_abortConnect (f : NativeFailure) (w : World β) :
    (abortConnect f w).bridge.state =
      w.bridge.state.after w.bridge.clock (.connectFailed f.message) :=
  Bridge.state_advance w.bridge _

@[simp] theorem state_conclude (link : Link) (w : World β) :
    (conclude link w).bridge.state = w.bridge.state.after w.bridge.clock .disconnect :=
  Bridge.state_advance w.bridge _

variable {c c' : Controller β} {mode : SessionMode} {sessionName handle : String}

theorem awaits_opening (hallowed : connectRefusal? false c.state sessionName handle = none) :
    (c.opening mode sessionName handle).bridge.state.Awaits mode sessionName handle := by
  have hstate : c.world.bridge.state = .disconnected := disconnected_of_allowed hallowed
  unfold opening World.advance World.issueAnchor
  dsimp only
  rw [Bridge.state_advance, hstate]
  exact SessionState.awaits_after_connect _ mode sessionName handle

theorem Coupled.link_eq_none (h : c.Coupled last)
    (hallowed : connectRefusal? false c.state sessionName handle = none) : c.link = none := by
  have hiff := h.link_isSome_iff
  rw [disconnected_of_allowed hallowed] at hiff
  simpa using hiff

variable [NativeBus β]

theorem awaits_registered {o : Outcome NativeFailure Unit} {w₁ : World β}
    (hallowed : connectRefusal? false c.state sessionName handle = none)
    (hregister : (c.opening mode sessionName handle).registerCallbacks ⟨c.world.anchors.next⟩ =
      (o, w₁)) : w₁.bridge.state.Awaits mode sessionName handle :=
  (World.performed hregister).keeps (SessionState.keptByJoins_awaits _ _ _) (awaits_opening hallowed)

theorem Asked.awaits {o : Outcome NativeFailure SessionId} {w₁ w₂ : World β}
    (hasked : Asked c mode sessionName handle o w₁ w₂) :
    w₂.bridge.state.Awaits mode sessionName handle := by
  have hregistered : w₁.bridge.state.Awaits mode sessionName handle :=
    awaits_registered hasked.allowed hasked.registered
  exact (World.performed hasked.asked).keeps (SessionState.keptByJoins_awaits _ _ _) hregistered

theorem Asked.exchanges {o : Outcome NativeFailure SessionId} {w₁ w₂ : World β}
    (hasked : Asked c mode sessionName handle o w₁ w₂) :
    w₂.exchanges = (c.world.exchanges.push
      (.registerCallbacks ⟨c.world.anchors.next⟩ (.value ()))).push
      (.openSession mode c.config.target sessionName o) := by
  have hregister := (World.performed hasked.registered).exchanges
  have hopen := (World.performed hasked.asked).exchanges
  rw [hopen]
  change w₁.exchanges.push _ = _
  rw [hregister]
  rfl

theorem Coupled.connect (h : c.Coupled last)
    (hcalm : (c.connect mode sessionName handle).1 ≠ .panic) :
    (c.connect mode sessionName handle).2.Coupled
      ((c.step (.connect mode sessionName handle)).opening?.or last) := by
  have hconnects := connect_connects hcalm
  rcases hresult : c.connect mode sessionName handle with ⟨outcome, c'⟩
  rw [hresult] at hconnects
  cases hconnects with
  | refused hrefused =>
    rw [opening?_of_failure (a := .connect mode sessionName handle) hresult]
    exact h
  | unregistered hallowed hregister =>
    refine .rests (h.link_eq_none hallowed) ?_
    exact (state_abortConnect _ _).trans ((awaits_registered hallowed hregister).fails _ _).2
  | withdrawn hasked hclear =>
    refine .rests (h.link_eq_none hasked.allowed) ?_
    have hawaits := (World.performed hclear).keeps
      (SessionState.keptByJoins_awaits mode sessionName handle) hasked.awaits
    exact (state_abortConnect _ _).trans (hawaits.fails _ _).2
  | leaked hasked hclear =>
    refine .rests (h.link_eq_none hasked.allowed) ?_
    have hawaits := (World.performed hclear).keeps
      (SessionState.keptByJoins_awaits mode sessionName handle) hasked.awaits
    exact (state_abortConnect _ _).trans (hawaits.fails _ _).2
  | @opened id w₁ w₂ hasked =>
    rw [opening?_of_opened hresult hasked.exchanges]
    constructor
    · intro hnone
      cases hnone
    · intro link hsome
      cases hsome
      refine ⟨⟨mode, sessionName, handle, id⟩, rfl, rfl, ?_⟩
      have hserves := (hasked.awaits.accepts w₂.bridge.clock id).2
      rwa [← Bridge.state_advance] at hserves

/-! ### The other operations -/

theorem Sends.keeps {text : String} {o : Outcome ControlError Unit} (h : Sends c text o c') :
    ∀ P, SessionState.KeptByJoins P → P c.state → P c'.state := by
  intro P hP hstate
  cases h with
  | failed hspoken => exact (World.performed hspoken.sent).keeps hP hstate
  | sent hspoken => exact (World.performed hspoken.sent).keeps hP hstate
  | _ => exact hstate

theorem Sends.link {text : String} {o : Outcome ControlError Unit} (h : Sends c text o c') :
    c'.link = c.link := by
  cases h <;> rfl

theorem Coupled.send {text : String} (h : c.Coupled last) (hcalm : (c.send text).1 ≠ .panic) :
    (c.send text).2.Coupled last := by
  have hsends := send_sends hcalm
  exact h.stays hsends.link hsends.keeps

theorem leaveIfKnown_known {attended : Bool} {id? : Option SessionId} {id : SessionId}
    (hid : id? = some id) (w : World β) : leaveIfKnown attended id? w = w.leave attended id := by
  rw [hid]
  rfl

theorem Left.serves {link : Link} {o : Outcome NativeFailure Unit} {w₁ w₂ : World β}
    (hleft : Left c link o w₁ w₂) {opening : Opening} (hserves : c.state.Serves opening) :
    w₂.bridge.state.Serves opening := by
  have hleave := hleft.left
  rw [leaveIfKnown_known hserves.sessionId?] at hleave
  have hkept := (World.performed hleave).keeps (SessionState.keptByJoins_serves opening) hserves
  exact (World.performed hleft.cleared).keeps (SessionState.keptByJoins_serves opening) hkept

theorem Coupled.disconnect (h : c.Coupled last) (hcalm : c.disconnect.1 ≠ .panic) :
    c.disconnect.2.Coupled last := by
  have hdisconnects := disconnect_disconnects hcalm
  generalize c.disconnect.1 = outcome at hdisconnects
  generalize c.disconnect.2 = c' at hdisconnects
  cases hdisconnects with
  | refused => exact h
  | kept hactive hlink hleave =>
    obtain ⟨o, -, -, hserves⟩ := h.active _ hlink
    rw [leaveIfKnown_known hserves.sessionId?] at hleave
    exact h.stays rfl fun _ hP hstate => (World.performed hleave).keeps hP hstate
  | cleared hleft =>
    obtain ⟨o, -, -, hserves⟩ := h.active _ hleft.linked
    exact .rests rfl ((state_conclude _ _).trans ((hleft.serves hserves).disconnects _).2)
  | leaked hleft =>
    obtain ⟨o, -, -, hserves⟩ := h.active _ hleft.linked
    exact .rests rfl ((state_conclude _ _).trans ((hleft.serves hserves).disconnects _).2)

/-- What is no control operation makes no native call, and moves the state as joins do. -/
theorem act_of_not_control {a : Action} (ha : a.isControl = false) :
    ∃ f : Bridge → Bridge, c.act a = (.value (), c.onBridge f) ∧
      ∀ P, SessionState.KeptByJoins P → P c.state → P (f c.bridge).state := by
  cases a with
  | connect mode sessionName handle => cases ha
  | send text => cases ha
  | disconnect => cases ha
  | callback call => exact ⟨_, rfl, fun _ hP h => Bridge.keeps_receive hP call h⟩
  | message text code =>
    refine ⟨_, rfl, fun P _ h => ?_⟩
    exact (congrArg P (Bridge.state_deliverMessage c.world.bridge text code)).mpr h
  | participant name => exact ⟨_, rfl, fun _ hP h => Bridge.keeps_deliverParticipant hP name h⟩
  | install handlers =>
    refine ⟨_, rfl, fun P _ h => ?_⟩
    exact (congrArg P (Bridge.state_install c.world.bridge handlers)).mpr h
  | tick now => exact ⟨_, rfl, fun _ _ h => h⟩

theorem Coupled.act {a : Action} (h : c.Coupled last) (hcalm : (c.act a).1 ≠ .panic) :
    (c.act a).2.Coupled ((c.step a).opening?.or last) := by
  cases hcontrol : a.isControl with
  | false =>
    obtain ⟨f, hact, hstate⟩ := act_of_not_control (c := c) hcontrol
    rw [opening?_of_not_control hcontrol, hact]
    exact h.stays rfl hstate
  | true =>
    cases a with
    | connect mode sessionName handle => exact h.connect hcalm
    | send text => exact h.send hcalm
    | disconnect => exact h.disconnect hcalm
    | _ => cases hcontrol

theorem coupled_run {config : BusConfig} {bus : β} {now : Timestamp} {opened : String}
    (hcreate : create config bus now opened = .value c) (actions : List Action)
    (hcalm : Outcome.panic ∉ (c.run actions).1) :
    (c.run actions).2.Coupled (lastOpening? (c.steps actions)) := by
  obtain ⟨-, feed, -, rfl⟩ := create_eq_value_iff.mp hcreate
  refine calm_induction (motive := fun trace c => c.Coupled (lastOpening? trace)) (.rests rfl rfl)
    (fun trace c a h hact => ?_) actions hcalm
  rw [lastOpening?_snoc]
  exact h.act hact

/-! ### The guarded branches -/

/-- The events that an operation gives the session by itself, each with the bridge that it meets:
the failure of a connect, the acceptance of one, and the end of a session that has been left. -/
inductive Offers (c : Controller β) : Action → Bridge → SessionEvent → Prop where
  | unregistered {mode : SessionMode} {sessionName handle : String} {f : NativeFailure}
      {w₁ : World β} (hallowed : connectRefusal? false c.state sessionName handle = none)
      (hregister : (c.opening mode sessionName handle).registerCallbacks ⟨c.world.anchors.next⟩ =
        (.failure f, w₁)) :
      Offers c (.connect mode sessionName handle) w₁.bridge (.connectFailed f.message)
  | unopened {mode : SessionMode} {sessionName handle : String} {f : NativeFailure}
      {o : Outcome NativeFailure Unit} {w₁ w₂ w₃ : World β}
      (hasked : Asked c mode sessionName handle (.failure f) w₁ w₂)
      (hclear : w₂.clearCallbacks true = (o, w₃)) (hcalm : o ≠ .panic) :
      Offers c (.connect mode sessionName handle) w₃.bridge (.connectFailed f.message)
  | accepted {mode : SessionMode} {sessionName handle : String} {id : SessionId} {w₁ w₂ : World β}
      (hasked : Asked c mode sessionName handle (.value id) w₁ w₂) :
      Offers c (.connect mode sessionName handle) w₂.bridge (.nativeAccepted id)
  | left {link : Link} {o : Outcome NativeFailure Unit} {w₁ w₂ : World β}
      (hleft : Left c link o w₁ w₂) (hcalm : o ≠ .panic) : Offers c .disconnect w₂.bridge .disconnect

def epilogue (c : Controller β) : SessionEvent → Bridge → Bridge
  | .connectFailed reason, b => b.report .error ("Connect failed: " ++ reason)
  | .disconnect, b =>
    match c.link with
    | some link => (b.report .status
        ("Disconnected from " ++ link.target.wellKnownName link.sessionName)).publish .disconnected
    | none => b
  | _, b => b

/-- The bridge takes the event just as the operation meets it, and hears of nothing else after it. -/
theorem Offers.bridge_act {a : Action} {b : Bridge} {e : SessionEvent} (h : c.Offers a b e) :
    (c.act a).2.bridge = c.epilogue e (b.advance e) := by
  cases h with
  | unregistered hallowed hregister =>
    rw [opening] at hregister
    unfold act connect openLink
    simp only [hallowed, hregister]
    rfl
  | @unopened mode sessionName handle f o w₁ w₂ w₃ hasked hclear hcalm =>
    obtain ⟨hallowed, hregister, hopen⟩ := hasked
    rw [opening] at hregister
    rw [statusLine] at hopen
    unfold act connect openLink withdraw
    simp only [hallowed, hregister, hopen, hclear]
    cases o with
    | value _ => rfl
    | failure _ => rfl
    | panic => exact absurd rfl hcalm
  | accepted hasked =>
    obtain ⟨hallowed, hregister, hopen⟩ := hasked
    rw [opening] at hregister
    rw [statusLine] at hopen
    unfold act connect openLink
    simp only [hallowed, hregister, hopen]
    rfl
  | @left link o w₁ w₂ hleft hcalm =>
    obtain ⟨hactive, hlink, hleave, hclear⟩ := hleft
    unfold act disconnect epilogue
    simp only [hactive, hlink, hleave, hclear]
    cases o with
    | value _ => rfl
    | failure _ => rfl
    | panic => exact absurd rfl hcalm

theorem Connects.offers_or_keeps {o : Outcome ControlError Unit}
    (h : Connects c mode sessionName handle o c') :
    (∃ b e, c.Offers (.connect mode sessionName handle) b e) ∨
      ∀ P, SessionState.KeptByJoins P → P c.state → P c'.state := by
  cases h with
  | refused => exact .inr fun _ _ hstate => hstate
  | unregistered hallowed hregister => exact .inl ⟨_, _, .unregistered hallowed hregister⟩
  | withdrawn hasked hclear =>
    exact .inl ⟨_, _, .unopened hasked hclear (Outcome.value_ne_panic ())⟩
  | leaked hasked hclear =>
    exact .inl ⟨_, _, .unopened hasked hclear (Outcome.failure_ne_panic _)⟩
  | opened hasked => exact .inl ⟨_, _, .accepted hasked⟩

theorem Disconnects.offers_or_keeps {o : Outcome ControlError Unit} (h : Disconnects c o c') :
    (∃ b e, c.Offers .disconnect b e) ∨
      ∀ P, SessionState.KeptByJoins P → P c.state → P c'.state := by
  cases h with
  | refused => exact .inr fun _ _ hstate => hstate
  | kept hactive hlink hleave =>
    refine .inr fun _ hP hstate => ?_
    rcases hid : c.state.sessionId? with _ | id
    · rw [hid] at hleave
      cases hleave
    · rw [leaveIfKnown_known hid] at hleave
      exact (World.performed hleave).keeps hP hstate
  | cleared hleft => exact .inl ⟨_, _, .left hleft (Outcome.value_ne_panic ())⟩
  | leaked hleft => exact .inl ⟨_, _, .left hleft (Outcome.failure_ne_panic _)⟩

/-- There are no other events: an action that gives the session none moves it only as joins do. -/
theorem offers_or_keeps {a : Action} (hcalm : (c.act a).1 ≠ .panic) :
    (∃ b e, c.Offers a b e) ∨
      ∀ P, SessionState.KeptByJoins P → P c.state → P (c.act a).2.state := by
  cases hcontrol : a.isControl with
  | false =>
    obtain ⟨f, hact, hstate⟩ := act_of_not_control (c := c) hcontrol
    rw [hact]
    exact .inr hstate
  | true =>
    cases a with
    | connect mode sessionName handle => exact (connect_connects hcalm).offers_or_keeps
    | send text => exact .inr (send_sends hcalm).keeps
    | disconnect => exact (disconnect_disconnects hcalm).offers_or_keeps
    | _ => cases hcontrol

theorem apply_eq_ok {b : Bridge} {e : SessionEvent}
    (h : ∃ t, b.state.transition b.clock e = .ok t) : ∃ t, (b.apply e).1 = .ok t := by
  obtain ⟨t, ht⟩ := h
  refine ⟨t, ?_⟩
  unfold Bridge.apply
  rw [ht]
  rcases hsession : t.materialized with _ | session <;> simp only [hsession]

theorem Coupled.takes (h : c.Coupled last) {a : Action} {b : Bridge}
    {e : SessionEvent} (hoffers : c.Offers a b e) : ∃ t, (b.apply e).1 = .ok t := by
  apply apply_eq_ok
  cases hoffers with
  | unregistered hallowed hregister => exact ((awaits_registered hallowed hregister).fails _ _).1
  | unopened hasked hclear _ =>
    exact (((World.performed hclear).keeps (SessionState.keptByJoins_awaits _ _ _)
      hasked.awaits).fails _ _).1
  | accepted hasked => exact (hasked.awaits.accepts _ _).1
  | left hleft _ =>
    obtain ⟨o, -, -, hserves⟩ := h.active _ hleft.linked
    exact ((hleft.serves hserves).disconnects _).1

theorem Coupled.send_ne_notConnected (h : c.Coupled last) (text : String) :
    (c.send text).1 ≠ .failure (.session .notConnected) := by
  intro hsend
  have hcalm : (c.send text).1 ≠ .panic := by
    rw [hsend]
    exact nofun
  have hsends := send_sends hcalm
  rw [hsend] at hsends
  generalize (c.send text).2 = c' at hsends
  cases hsends with
  | unlinked _ hsession hlink =>
    rw [h.idle hlink] at hsession
    cases hsession

theorem exchanges_disconnect {link : Link} {id : SessionId} (hlink : c.link = some link)
    (hactive : c.state.isDisconnected = false) (hid : c.state.sessionId? = some id) :
    ∃ o rest, c.disconnect.2.world.exchanges.toList =
      c.world.exchanges.toList ++ .leave id o :: rest := by
  unfold disconnect
  simp only [hactive, hlink, leaveIfKnown_known hid]
  rcases hleave : c.world.leave true id with ⟨o, w₁⟩
  have hleft := (World.performed hleave).exchanges
  refine ⟨o, ?_⟩
  rcases o with _ | f | _
  case failure => exact ⟨[], by simp [hleft]⟩
  case panic => exact ⟨[], by simp [hleft]⟩
  dsimp only
  rcases hclear : w₁.clearCallbacks true with ⟨o, w₂⟩
  have hcleared := (World.performed hclear).exchanges
  rw [hleft] at hcleared
  refine ⟨[.clearCallbacks o], ?_⟩
  rcases o with _ | f | _ <;> exact (congrArg Array.toList hcleared).trans (by simp)

theorem disconnect_leaves {link : Link} {id : SessionId} (hlink : c.link = some link)
    (hactive : c.state.isDisconnected = false) (hid : c.state.sessionId? = some id) :
    ∃ o, (c.step .disconnect).exchanges.head? = some (.leave id o) := by
  obtain ⟨o, rest, hexchanges⟩ := exchanges_disconnect hlink hactive hid
  refine ⟨o, ?_⟩
  unfold step act
  dsimp only
  rw [hexchanges, ← Array.length_toList, List.drop_left]
  rfl

/-- After every run in which the bus returns from its calls, with callbacks at rest and inside every
native call, a link is held exactly while the session is not disconnected, and the session is the one
that the last successful connect was asked for, under the id that its open call returned. The guarded
branches of the operations are therefore dead: no event that they give the session is rejected, a
send never misses its link, and a disconnect always leaves the session first. -/
theorem link_agrees_with_state {config : BusConfig} {bus : β} {now : Timestamp} {opened : String}
    (hcreate : create config bus now opened = .value c) (actions : List Action)
    (hcalm : Outcome.panic ∉ (c.run actions).1) :
    let c' := (c.run actions).2
    let last := lastOpening? (c.steps actions)
    (c'.link.isSome ↔ c'.state ≠ .disconnected) ∧
      (∀ link, c'.link = some link → ∃ o, last = some o ∧ link.sessionName = o.sessionName ∧
        c'.state.sessionId? = some o.id ∧ c'.state.Serves o) ∧
      (∀ a b e, c'.Offers a b e → (∃ t, (b.apply e).1 = .ok t) ∧
        (c'.act a).2.bridge = c'.epilogue e (b.apply e).2) ∧
      (∀ a, (c'.act a).1 ≠ .panic → (∃ b e, c'.Offers a b e) ∨
        ∀ P, SessionState.KeptByJoins P → P c'.state → P (c'.act a).2.state) ∧
      (∀ text, (c'.send text).1 ≠ .failure (.session .notConnected)) ∧
      (c'.state ≠ .disconnected → ∃ o outcome, last = some o ∧
        (c'.step .disconnect).exchanges.head? = some (.leave o.id outcome)) := by
  intro c' last
  have hcoupled : c'.Coupled last := coupled_run hcreate actions hcalm
  refine ⟨hcoupled.link_isSome_iff, ?_,
    fun _ _ _ hoffers => ⟨hcoupled.takes hoffers, hoffers.bridge_act⟩, fun _ => offers_or_keeps,
    hcoupled.send_ne_notConnected, ?_⟩
  · intro link hlink
    obtain ⟨o, hlast, hname, hserves⟩ := hcoupled.active link hlink
    exact ⟨o, hlast, hname, hserves.sessionId?, hserves⟩
  · intro hstate
    obtain ⟨link, hlink⟩ := Option.isSome_iff_exists.mp (hcoupled.link_isSome_iff.mpr hstate)
    obtain ⟨o, hlast, -, hserves⟩ := hcoupled.active link hlink
    have hactive : c'.state.isDisconnected = false := by
      cases hcase : c'.state with
      | disconnected => exact absurd hcase hstate
      | _ => rfl
    obtain ⟨outcome, hleaves⟩ := disconnect_leaves hlink hactive hserves.sessionId?
    exact ⟨o, outcome, hlast, hleaves⟩

/-- A session that is used and left, and a second one that waits for its first participant. -/
def reconnecting : List Action :=
  [.connect .owner "lobby" "ann", .participant "bob", .send "hi", .disconnect,
    .connect .joiner "lobby" "ann"]

theorem link_agrees_with_state_reconnecting :
    create .standard Loopback.idle ⟨0⟩ "noon" = .value (standard Loopback.idle ⟨0⟩ "noon") ∧
      Outcome.panic ∉ ((standard Loopback.idle ⟨0⟩ "noon").run reconnecting).1 ∧
      (((standard Loopback.idle ⟨0⟩ "noon").run reconnecting).2.link.isSome ↔
        ((standard Loopback.idle ⟨0⟩ "noon").run reconnecting).2.state ≠ .disconnected) := by
  have hcreate := create_standard Loopback.idle ⟨0⟩ "noon"
  have hcalm : Outcome.panic ∉ ((standard Loopback.idle ⟨0⟩ "noon").run reconnecting).1 := by
    decide +kernel
  exact ⟨hcreate, hcalm, (link_agrees_with_state hcreate reconnecting hcalm).1⟩

end Controller

end SessionBridge
