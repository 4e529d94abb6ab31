import SessionBridge.Proofs.Bridge.Replica
import SessionBridge.Proofs.Control.Operation

/-! What no operation can break. Whatever a controller does to its bridge comes down to callbacks, lines
and events of its own, and moves of the session state; a property that survives these survives every
operation, on every bus and on every way through it, the ways that end in a panic included. The echo of
a send, the installation of handlers and their muting are left to the property itself. -/
namespace SessionBridge

namespace Bridge

/-- A property of bridges that every delivery keeps, and every line and every other event of this side. -/
structure Abiding (P : Bridge → Prop) : Prop where
  unseen : ∀ b b', b'.journal = b.journal → b'.registry = b.registry → b'.handlers = b.handlers →
    b'.shown = b.shown → P b → P b'
  report : ∀ b kind text, P b → P (b.report kind text)
  publish : ∀ b e, e.isEntry = false → P b → P (b.publish e)
  message : ∀ b text code, P b → P (b.deliverMessage text code)
  participant : ∀ b name, P b → P (b.deliverParticipant name)

variable {P : Bridge → Prop} {b : Bridge}

theorem Abiding.advance (hP : Abiding P) (e : SessionEvent) (h : P b) : P (b.advance e) := by
  have hadvances := b.advance_advances e
  generalize b.advance e = b' at hadvances
  cases hadvances with
  | rejected => exact h
  | moved => exact hP.unseen b _ rfl rfl rfl rfl h
  | established =>
    apply hP.publish _ _ rfl
    apply hP.report
    exact hP.unseen b _ rfl rfl rfl rfl h

theorem Abiding.receive (hP : Abiding P) (call : Callback) (h : P b) : P (b.receive call) := by
  rcases call with ⟨_ | _, text, code⟩ | ⟨_ | _, name⟩
  · exact h
  · unfold Bridge.receive receiveText
    dsimp only
    split
    · exact hP.report b .error _ h
    · exact hP.message b _ code h
  · exact h
  · unfold Bridge.receive receiveText
    dsimp only
    split
    · exact hP.report b .error _ h
    · exact hP.participant b _ h

theorem Abiding.callbacks (hP : Abiding P) (calls : List Callback) (h : P b) :
    P (calls.foldl Bridge.receive b) := by
  induction calls generalizing b with
  | nil => exact h
  | cons call calls ih => exact ih (hP.receive call h)

end Bridge

namespace World

variable {β : Type} {w w' : World β} {P : Bridge → Prop}

theorem Performed.abides {e : Exchange} (hperformed : Performed w w' e) (hP : Bridge.Abiding P)
    (h : P w.bridge) : P w'.bridge := by
  obtain ⟨calls, hbridge⟩ := hperformed.bridge
  rw [hbridge]
  exact hP.callbacks calls h

theorem abides_leaveIfKnown [NativeBus β] {attended : Bool} {id? : Option SessionId}
    {o : Outcome NativeFailure Unit} (hP : Bridge.Abiding P) (h : P w.bridge)
    (hresult : Controller.leaveIfKnown attended id? w = (o, w')) : P w'.bridge := by
  cases id? with
  | none =>
    cases hresult
    exact h
  | some id => exact (performed hresult).abides hP h

end World

namespace Controller

variable {β : Type} {P : Bridge → Prop}

/-! ### Single operations -/

theorem abides_abortConnect (hP : Bridge.Abiding P) (f : NativeFailure) (w : World β)
    (h : P w.bridge) : P (abortConnect f w).bridge :=
  hP.report _ .error _ (hP.advance (.connectFailed f.message) h)

theorem abides_conclude (hP : Bridge.Abiding P) (link : Link) (w : World β) (h : P w.bridge) :
    P (conclude link w).bridge :=
  hP.publish _ _ rfl (hP.report _ .status _ (hP.advance .disconnect h))

variable [NativeBus β] {c : Controller β} {mode : SessionMode} {sessionName handle : String}

theorem abides_registered {o : Outcome NativeFailure Unit} {w₁ : World β} (hP : Bridge.Abiding P)
    (hregister : (c.opening mode sessionName handle).registerCallbacks ⟨c.world.anchors.next⟩ =
      (o, w₁)) (h : P c.bridge) : P w₁.bridge :=
  (World.performed hregister).abides hP (hP.advance (.connect mode sessionName handle) h)

theorem Asked.abides {o : Outcome NativeFailure SessionId} {w₁ w₂ : World β}
    (hasked : Asked c mode sessionName handle o w₁ w₂) (hP : Bridge.Abiding P) (h : P c.bridge) :
    P w₂.bridge :=
  (World.performed hasked.asked).abides hP
    (hP.report _ .status _ (abides_registered hP hasked.registered h))

theorem abides_connect (hP : Bridge.Abiding P) (h : P c.bridge) :
    P (c.connect mode sessionName handle).2.bridge := by
  have hends := c.connect_ends mode sessionName handle
  generalize (c.connect mode sessionName handle).1 = outcome at hends
  generalize (c.connect mode sessionName handle).2 = c' at hends
  rcases hends with hconnects | ⟨-, hcollapses⟩
  · cases hconnects with
    | refused => exact h
    | unregistered hallowed hregister =>
      exact abides_abortConnect hP _ _ (abides_registered hP hregister h)
    | withdrawn hasked hclear =>
      have hcleared := (World.performed hclear).abides hP (hasked.abides hP h)
      exact abides_abortConnect hP _ _ hcleared
    | leaked hasked hclear =>
      have hcleared := (World.performed hclear).abides hP (hasked.abides hP h)
      exact abides_abortConnect hP _ _ hcleared
    | opened hasked => exact hP.advance _ (hasked.abides hP h)
  · cases hcollapses with
    | registering hallowed hregister =>
      have hregistered := abides_registered hP hregister h
      exact hregistered
    | asking hasked => exact hasked.abides hP h
    | withdrawing hasked hclear => exact (World.performed hclear).abides hP (hasked.abides hP h)

theorem abides_send {text : String} (hP : Bridge.Abiding P)
    (hecho : ∀ b text, P b → P (b.record .outbound .status text)) (h : P c.bridge) :
    P (c.send text).2.bridge := by
  rcases c.send_ends text with hsends | ⟨-, session, w, hspoken, heq⟩
  · generalize (c.send text).1 = outcome at hsends
    generalize (c.send text).2 = c' at hsends
    cases hsends with
    | tooLong => exact h
    | unestablished => exact h
    | unlinked => exact h
    | failed hspoken => exact (World.performed hspoken.sent).abides hP h
    | sent hspoken => exact hecho _ _ ((World.performed hspoken.sent).abides hP h)
  · rw [heq]
    exact (World.performed hspoken.sent).abides hP h

theorem Left.abides {link : Link} {o : Outcome NativeFailure Unit} {w₁ w₂ : World β}
    (hleft : Left c link o w₁ w₂) (hP : Bridge.Abiding P) (h : P c.bridge) : P w₂.bridge :=
  (World.performed hleft.cleared).abides hP (World.abides_leaveIfKnown hP h hleft.left)

theorem abides_disconnect (hP : Bridge.Abiding P) (h : P c.bridge) : P c.disconnect.2.bridge := by
  have hends := c.disconnect_ends
  generalize c.disconnect.1 = outcome at hends
  generalize c.disconnect.2 = c' at hends
  rcases hends with hdisconnects | ⟨-, hbreaks⟩
  · cases hdisconnects with
    | refused => exact h
    | kept hactive hlink hleave => exact World.abides_leaveIfKnown hP h hleave
    | cleared hleft => exact abides_conclude hP _ _ (hleft.abides hP h)
    | leaked hleft => exact abides_conclude hP _ _ (hleft.abides hP h)
  · cases hbreaks with
    | leaving hactive hlink hleave => exact World.abides_leaveIfKnown hP h hleave
    | clearing hleft => exact hleft.abides hP h

theorem Abandoned.abides {link : Link} {o o' : Outcome NativeFailure Unit} {w₁ w₂ : World β}
    (habandoned : Abandoned c link o o' w₁ w₂) (hP : Bridge.Abiding P) (h : P c.bridge.mute) :
    P w₂.bridge :=
  (World.performed habandoned.cleared).abides hP (World.abides_leaveIfKnown hP h habandoned.left)

theorem abides_release (hP : Bridge.Abiding P) (h : P c.bridge.mute) : P c.release.2.bridge := by
  have hreleases := c.release_releases
  generalize c.release.1 = panicked at hreleases
  generalize c.release.2 = w at hreleases
  cases hreleases with
  | unlinked => exact h
  | broken hlink hleave =>
    have hleft := World.abides_leaveIfKnown (w := c.muted) hP h hleave
    exact hleft
  | stopped habandoned => exact habandoned.abides hP h
  | released habandoned => exact habandoned.abides hP h
  | leaked habandoned => exact habandoned.abides hP h

/-! ### Actions and runs -/

theorem abides_act {a : Action} (hP : Bridge.Abiding P)
    (hsend : ∀ text, a = .send text → P (c.send text).2.bridge)
    (hinstall : ∀ handlers, a = .install handlers → P (c.bridge.install handlers).2)
    (h : P c.bridge) : P (c.act a).2.bridge := by
  cases a with
  | connect mode sessionName handle => exact abides_connect hP h
  | send text => exact hsend text rfl
  | disconnect => exact abides_disconnect hP h
  | callback call => exact hP.receive call h
  | message text code => exact hP.message _ text code h
  | participant name => exact hP.participant _ name h
  | install handlers => exact hinstall handlers rfl
  | tick now => exact hP.unseen c.bridge _ rfl rfl rfl rfl h

theorem abides_run (hP : Bridge.Abiding P)
    (hecho : ∀ b text, P b → P (b.record .outbound .status text)) (h : P c.bridge)
    {actions : List Action}
    (hinstall : ∀ handlers, .install handlers ∈ actions → ∀ b, P b → P (b.install handlers).2) :
    P (c.run actions).2.bridge := by
  induction actions generalizing c with
  | nil => exact h
  | cons a actions ih =>
    apply ih
    · apply abides_act hP (fun text _ => abides_send hP hecho h) _ h
      rintro handlers rfl
      exact hinstall handlers List.mem_cons_self _ h
    · intro handlers hmem
      exact hinstall handlers (List.mem_cons_of_mem a hmem)

end Controller

end SessionBridge
