import SessionBridge.Bus.Scripted
import SessionBridge.Proofs.Control.Protocol

/-! Operations that are not ruled out by their arguments or the state get as far as the bus, with one
exception that only a panic of the bus can bring about: it may leave an attempt behind that has no link,
and such an attempt cannot be disconnected. -/
namespace SessionBridge

/-! ### Attempts without a link -/

/-- The controller waits for a connect that does not run any more. -/
def Controller.Stranded {β : Type} (c : Controller β) : Prop :=
  c.link = none ∧ ∃ mode sessionName handle, c.state.Awaits mode sessionName handle

def Step.BrokenConnect (s : Step) : Prop :=
  (∃ mode sessionName handle, s.action = .connect mode sessionName handle) ∧ s.outcome = .panic

inductive Controller.Settled {β : Type} (trace : List Step) (c : Controller β) : Prop where
  | coupled (h : ∃ last, c.Coupled last)
  | stranded (h : c.Stranded) (hbroken : ∃ s ∈ trace, s.BrokenConnect)

namespace SessionState

variable {mode : SessionMode} {sessionName handle : String} {state : SessionState}

theorem Awaits.eq_connecting (h : state.Awaits mode sessionName handle) :
    ∃ a, state = .connecting a := by
  cases state with
  | connecting a => exact ⟨a, rfl⟩
  | disconnected => exact h.elim
  | owner s => exact h.elim
  | joined s => exact h.elim

end SessionState

namespace Controller

variable {β : Type} {c c' : Controller β} {last : Option Opening}

theorem Stranded.rejects_connect (h : c.Stranded) (mode : SessionMode)
    (sessionName handle : String) :
    ∃ e, Rejects c.limit false c.state (.connect mode sessionName handle) e := by
  obtain ⟨-, _, _, _, hawaits⟩ := h
  obtain ⟨a, hstate⟩ := hawaits.eq_connecting
  rcases hrefusal : connectRefusal? false c.state sessionName handle with _ | e
  · rw [disconnected_of_allowed hrefusal] at hstate
    cases hstate
  · exact ⟨e, rejects_connect_iff.mpr hrefusal⟩

theorem Stranded.session?_eq_none (h : c.Stranded) : c.state.session? = none := by
  obtain ⟨-, _, _, _, hawaits⟩ := h
  exact SessionState.session?_eq_none_iff.mpr (.inr hawaits.eq_connecting)

variable [NativeBus β]

theorem stranded_of_collapses {mode : SessionMode} {sessionName handle : String}
    (h : c.Coupled last) (hcollapses : Collapses c mode sessionName handle c') : c'.Stranded := by
  cases hcollapses with
  | registering hallowed hregister =>
    have hawaits := awaits_registered hallowed hregister
    exact ⟨h.link_eq_none hallowed, mode, sessionName, handle, hawaits⟩
  | asking hasked => exact ⟨h.link_eq_none hasked.allowed, _, _, _, hasked.awaits⟩
  | withdrawing hasked hclear =>
    have hawaits := (World.performed hclear).keeps
      (SessionState.keptByJoins_awaits mode sessionName handle) hasked.awaits
    exact ⟨h.link_eq_none hasked.allowed, _, _, _, hawaits⟩

theorem Coupled.breaks (h : c.Coupled last) (hbreaks : Breaks c c') : c'.Coupled last := by
  cases hbreaks with
  | leaving hactive hlink hleave =>
    obtain ⟨o, -, -, hserves⟩ := h.active _ hlink
    rw [leaveIfKnown_known hserves.sessionId?] at hleave
    exact h.stays rfl fun _ hP hstate => (World.performed hleave).keeps hP hstate
  | clearing hleft =>
    obtain ⟨o, -, -, hserves⟩ := h.active _ hleft.linked
    have hleave := hleft.left
    rw [leaveIfKnown_known hserves.sessionId?] at hleave
    exact h.stays rfl fun _ hP hstate =>
      (World.performed hleft.cleared).keeps hP ((World.performed hleave).keeps hP hstate)

theorem disconnect_unlinked (hlink : c.link = none) :
    c.disconnect = (.failure (.session .notConnected), c) := by
  unfold disconnect
  rw [hlink]
  cases c.state.isDisconnected <;> rfl

theorem Stranded.act (h : c.Stranded) (a : Action) : (c.act a).2.Stranded := by
  cases hcontrol : a.isControl with
  | false =>
    obtain ⟨f, hact, hstate⟩ := act_of_not_control (c := c) hcontrol
    obtain ⟨hnone, mode, sessionName, handle, hawaits⟩ := h
    rw [hact]
    exact ⟨hnone, mode, sessionName, handle,
      hstate _ (SessionState.keptByJoins_awaits mode sessionName handle) hawaits⟩
  | true =>
    cases a with
    | connect mode sessionName handle =>
      obtain ⟨e, hrejects⟩ := h.rejects_connect mode sessionName handle
      rw [act_of_rejects hrejects]
      exact h
    | send text =>
      obtain ⟨e, hrejects⟩ := rejects_send h.session?_eq_none text
      rw [act_of_rejects hrejects]
      exact h
    | disconnect =>
      rw [show c.act .disconnect = (_, c) from disconnect_unlinked h.1]
      exact h
    | _ => cases hcontrol

theorem Settled.act {trace : List Step} (h : c.Settled trace) (a : Action) :
    (c.act a).2.Settled (trace ++ [c.step a]) := by
  cases h with
  | stranded h hbroken =>
    obtain ⟨s, hmem, hs⟩ := hbroken
    exact .stranded (h.act a) ⟨s, List.mem_append_left _ hmem, hs⟩
  | coupled h =>
    obtain ⟨last, h⟩ := h
    -- Of the three operations only a connect has changed the state before its first native call, so
    -- only its panic can part state and link.
    by_cases hpanic : (c.act a).1 = .panic
    case neg => exact .coupled ⟨_, h.act hpanic⟩
    cases a with
    | connect mode sessionName handle =>
      rcases c.connect_ends mode sessionName handle with hconnects | ⟨-, hcollapses⟩
      · exact absurd hpanic hconnects.calm
      · exact .stranded (stranded_of_collapses h hcollapses)
          ⟨c.step (.connect mode sessionName handle), List.mem_append_right _ List.mem_cons_self,
            ⟨mode, sessionName, handle, rfl⟩, hpanic⟩
    | send text =>
      rcases c.send_ends text with hsends | ⟨-, session, w, hspoken, heq⟩
      · exact absurd hpanic hsends.calm
      · have hcoupled : Coupled last { c with world := w } :=
          h.stays rfl fun _ hP hstate => (World.performed hspoken.sent).keeps hP hstate
        rw [← heq] at hcoupled
        exact .coupled ⟨last, hcoupled⟩
    | disconnect =>
      rcases c.disconnect_ends with hdisconnects | ⟨-, hbreaks⟩
      · exact absurd hpanic hdisconnects.calm
      · exact .coupled ⟨last, h.breaks hbreaks⟩
    | _ => cases hpanic

theorem settled_run {trace : List Step} (h : c.Settled trace) (actions : List Action) :
    (c.run actions).2.Settled (trace ++ c.steps actions) := by
  induction actions generalizing c trace with
  | nil =>
    rw [steps, List.append_nil]
    exact h
  | cons a actions ih =>
    have hrest := ih (h.act a)
    rw [List.append_assoc] at hrest
    exact hrest

/-! ### Everything else reaches the bus -/

theorem step_ne_nil {a : Action} {calls : List Exchange} {e : Exchange}
    (h : (c.act a).2.world.exchanges.toList = c.world.exchanges.toList ++ e :: calls) :
    (c.step a).exchanges ≠ [] := by
  rw [step_of_appended h]
  exact List.cons_ne_nil e calls

theorem connect_calls {mode : SessionMode} {sessionName handle : String}
    (hallowed : connectRefusal? false c.state sessionName handle = none) :
    (c.step (.connect mode sessionName handle)).exchanges ≠ [] := by
  have hregistered {o : Outcome NativeFailure Unit} {w₁ : World β}
      (hregister : (c.opening mode sessionName handle).registerCallbacks ⟨c.world.anchors.next⟩ =
        (o, w₁)) :
      w₁.exchanges.toList =
        c.world.exchanges.toList ++ [.registerCallbacks ⟨c.world.anchors.next⟩ o] :=
    (congrArg Array.toList (World.performed hregister).exchanges).trans Array.toList_push
  suffices hcalls : ∃ e calls, (c.connect mode sessionName handle).2.world.exchanges.toList =
      c.world.exchanges.toList ++ e :: calls by
    obtain ⟨e, calls, hcalls⟩ := hcalls
    exact step_ne_nil hcalls
  have hends := c.connect_ends mode sessionName handle
  generalize (c.connect mode sessionName handle).1 = outcome at hends
  generalize (c.connect mode sessionName handle).2 = c' at hends
  rcases hends with hconnects | ⟨-, hcollapses⟩
  · cases hconnects with
    | refused hrefused =>
      rw [hallowed] at hrefused
      cases hrefused
    | unregistered _ hregister =>
      have hcalls := hregistered hregister
      exact ⟨_, _, hcalls⟩
    | withdrawn hasked hclear =>
      have hcalls := hasked.calls_cleared hclear
      exact ⟨_, _, hcalls⟩
    | leaked hasked hclear =>
      have hcalls := hasked.calls_cleared hclear
      exact ⟨_, _, hcalls⟩
    | opened hasked => exact ⟨_, _, hasked.calls⟩
  · cases hcollapses with
    | registering _ hregister =>
      have hcalls := hregistered hregister
      exact ⟨_, _, hcalls⟩
    | asking hasked => exact ⟨_, _, hasked.calls⟩
    | withdrawing hasked hclear =>
      have hcalls := hasked.calls_cleared hclear
      exact ⟨_, _, hcalls⟩

theorem send_calls {text : String} {session : Session} (hfits : text.utf8ByteSize ≤ c.limit)
    (hsession : c.state.session? = some session) {link : Link} (hlink : c.link = some link) :
    (c.step (.send text)).exchanges ≠ [] := by
  rcases hsend : c.world.send session.id text with ⟨o, w⟩
  have hcalls : w.exchanges.toList = c.world.exchanges.toList ++ [.send session.id text o] :=
    (congrArg Array.toList (World.performed hsend).exchanges).trans Array.toList_push
  have hresult : (c.send text).2.world.exchanges = w.exchanges := by
    have hshort : ¬c.config.maxMessageLength.toNat < text.utf8ByteSize := Nat.not_lt_of_le hfits
    unfold send
    rw [if_neg hshort, hsession, hlink]
    dsimp only
    rw [hsend]
    cases o <;> rfl
  rw [← hresult] at hcalls
  exact step_ne_nil hcalls

theorem Coupled.rejects_or_calls (h : c.Coupled last) {a : Action} (ha : a.isControl = true) :
    (∃ e, Rejects c.limit false c.state a e) ∨ (c.step a).exchanges ≠ [] := by
  have hlinked (hactive : c.state ≠ .disconnected) : ∃ link, c.link = some link :=
    Option.isSome_iff_exists.mp (h.link_isSome_iff.mpr hactive)
  cases a with
  | connect mode sessionName handle =>
    rcases hrefusal : connectRefusal? false c.state sessionName handle with _ | e
    · exact .inr (connect_calls hrefusal)
    · exact .inl ⟨e, rejects_connect_iff.mpr hrefusal⟩
  | send text =>
    rcases hsession : c.state.session? with _ | session
    · exact .inl (rejects_send hsession text)
    have hactive : c.state ≠ .disconnected := by
      intro hstate
      rw [hstate] at hsession
      cases hsession
    obtain ⟨link, hlink⟩ := hlinked hactive
    by_cases hlong : c.limit < text.utf8ByteSize
    · exact .inl ⟨_, .messageTooLong hlong⟩
    · exact .inr (send_calls (Nat.le_of_not_lt hlong) hsession hlink)
  | disconnect =>
    by_cases hstate : c.state = .disconnected
    · exact .inl ⟨_, .notConnected hstate⟩
    obtain ⟨link, hlink⟩ := hlinked hstate
    obtain ⟨o, -, -, hserves⟩ := h.active link hlink
    have hactive := Bool.eq_false_iff.mpr (mt SessionState.isDisconnected_iff.mp hstate)
    obtain ⟨_, _, hcalls⟩ := exchanges_disconnect hlink hactive hserves.sessionId?
    exact .inr (step_ne_nil hcalls)
  | _ => cases ha

/-- In every state that a controller can be in, even after panics of the bus, an operation that the
arguments or the state rule out fails with just that error, arguments before state, and changes nothing
at all; a connect from inside a native call is refused with the error that its arguments deserve, or
because another operation runs, and changes nothing either. Every other operation makes a native call,
unless it is the disconnect of an attempt that has lost its link because the bus panicked on an earlier
connect: that one is answered like the disconnect of a disconnected session. -/
theorem refusals_change_nothing {config : BusConfig} {bus : β} {now : Timestamp} {opened : String}
    (hcreate : create config bus now opened = .value c) (actions : List Action) :
    let c' := (c.run actions).2
    (∀ a e, Rejects c'.limit false c'.state a e → c'.act a = (.failure e, c')) ∧
      (∀ (w : World β) mode sessionName handle,
        ∃ e, Rejects c'.limit true w.bridge.state (.connect mode sessionName handle) e ∧
          w.undergo true (.connect mode sessionName handle) =
            { w with notes := w.notes.push (.refused e) }) ∧
      ∀ a, a.isControl = true →
        (∃ e, Rejects c'.limit false c'.state a e) ∨ (c'.step a).exchanges ≠ [] ∨
          (a = .disconnect ∧ (∃ s ∈ c.steps actions, s.BrokenConnect) ∧ c'.link = none ∧
            (∃ attempt, c'.state = .connecting attempt) ∧
            c'.act a = (.failure (.session .notConnected), c')) := by
  intro c'
  have hstart : c.Settled [] := by
    obtain ⟨-, feed, -, rfl⟩ := create_eq_value_iff.mp hcreate
    exact .coupled ⟨none, .rests rfl rfl⟩
  refine ⟨fun _ _ => act_of_rejects, World.undergo_connect _, ?_⟩
  intro a ha
  cases settled_run hstart actions with
  | coupled h =>
    obtain ⟨last, h⟩ := h
    rcases h.rejects_or_calls ha with hrejects | hcalls
    · exact .inl hrejects
    · exact .inr (.inl hcalls)
  | stranded h hbroken =>
    cases a with
    | connect mode sessionName handle => exact .inl (h.rejects_connect mode sessionName handle)
    | send text => exact .inl (rejects_send h.session?_eq_none text)
    | disconnect =>
      obtain ⟨hlink, mode, sessionName, handle, hawaits⟩ := h
      exact .inr (.inr ⟨rfl, hbroken, hlink, hawaits.eq_connecting, disconnect_unlinked hlink⟩)
    | _ => cases ha

theorem refusals_change_nothing_reconnecting :
    let c := standard Loopback.idle ⟨0⟩ "noon"
    let c' := (c.run reconnecting).2
    create .standard Loopback.idle ⟨0⟩ "noon" = .value c ∧
      c'.act (.connect .owner "den" "ann") =
        (.failure (.session (.alreadyActive "Connecting")), c') := by
  intro c c'
  have hcreate : create .standard Loopback.idle ⟨0⟩ "noon" = .value c := create_standard _ _ _
  have hproper : ¬Blank "den" ∧ ¬Blank "ann" := by
    rw [← isBlankText_iff, ← isBlankText_iff]
    decide
  have hactive : c'.state ≠ .disconnected := by
    decide +kernel
  have hname : c'.state.name = "Connecting" := by
    decide +kernel
  have hrejects : Rejects c'.limit false c'.state (.connect .owner "den" "ann")
      (.session (.alreadyActive c'.state.name)) := .alreadyActive hproper.1 hproper.2 rfl hactive
  rw [← hname]
  exact ⟨hcreate, (refusals_change_nothing hcreate reconnecting).1 _ _ hrejects⟩

/-- The bus panics on the registration of the first connect, and the disconnect that follows is neither
of those that are refused nor does it reach the bus. -/
theorem stranded_disconnect_calls_nothing :
    let bus := Scripted.idle.setHook .registerCallbacks .before [.panic]
    let c := standard bus ⟨0⟩ "noon"
    let c' := (c.run [.connect .owner "chat1" "alice"]).2
    create .standard bus ⟨0⟩ "noon" = .value c ∧
      (¬∃ e, Rejects c'.limit false c'.state .disconnect e) ∧ (c'.step .disconnect).exchanges = [] := by
  intro bus c c'
  refine ⟨create_standard bus ⟨0⟩ "noon", ?_, by decide +kernel⟩
  rintro ⟨e, hrejects⟩
  cases hrejects with
  | notConnected hstate =>
    have hactive : c'.state ≠ .disconnected := by decide +kernel
    exact hactive hstate

end Controller

end SessionBridge
