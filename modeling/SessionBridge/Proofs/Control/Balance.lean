import SessionBridge.Proofs.Control.Account
import SessionBridge.Proofs.Control.Refusal

/-! The account of anchors on any bus. Whatever the bus returns and whichever call it panics on, the
anchor in use at rest is the one of the link, and all others that are live were leaked. -/
namespace SessionBridge

namespace World

variable {β : Type} {w w' : World β}

def Balanced (w : World β) (owner : Option AnchorId) : Prop :=
  Ledger w.anchors w.exchanges owner

variable {owner : Option AnchorId} {id : AnchorId}

theorem Balanced.performed {e : Exchange} (h : w.Balanced owner) (hperformed : Performed w w' e)
    (hclear : e.isFailedClear = false)
    (haccepted : ∀ t, e = .registerCallbacks t (.value ()) → t.anchor.number < w.anchors.issued) :
    w'.Balanced owner := by
  unfold Balanced
  rw [hperformed.anchors, hperformed.exchanges]
  exact h.push hclear haccepted

theorem Balanced.leaked {f : NativeFailure} (h : w.Balanced (some id))
    (hperformed : Performed w w' (.clearCallbacks (.failure f))) : (w'.leakAnchor id).Balanced none := by
  unfold Balanced leakAnchor
  dsimp only
  rw [hperformed.anchors, hperformed.exchanges]
  exact h.leak f

theorem Balanced.leaveIfKnown [NativeBus β] {attended : Bool} {id? : Option SessionId}
    {o : Outcome NativeFailure Unit} (h : w.Balanced owner)
    (hresult : Controller.leaveIfKnown attended id? w = (o, w')) : w'.Balanced owner := by
  cases id? with
  | none =>
    cases hresult
    exact h
  | some session => exact h.performed (World.performed hresult) rfl nofun

end World

namespace Controller

variable {β : Type} {c c' : Controller β}

/-- The anchor in use is the one of the link, and the link is for the configured target. -/
structure Accounted (c : Controller β) : Prop where
  balanced : c.world.Balanced (c.link.map Link.anchor)
  target : ∀ link, c.link = some link → link.target = c.config.target

theorem Accounted.stays (h : c.Accounted) (hconfig : c'.config = c.config) (hlink : c'.link = c.link)
    (hbalanced : c'.world.Balanced (c.link.map Link.anchor)) : c'.Accounted := by
  refine ⟨hlink ▸ hbalanced, ?_⟩
  rw [hlink, hconfig]
  exact h.target

theorem accounted_unlinked (hlink : c.link = none) (hbalanced : c.world.Balanced none) :
    c.Accounted := by
  refine ⟨hlink ▸ hbalanced, ?_⟩
  rw [hlink]
  exact nofun

theorem settled_create {config : BusConfig} {bus : β} {now : Timestamp} {opened : String}
    (hcreate : create config bus now opened = .value c) : c.Settled [] ∧ c.Accounted := by
  obtain ⟨-, feed, -, rfl⟩ := create_eq_value_iff.mp hcreate
  exact ⟨.coupled ⟨none, .rests rfl rfl⟩, accounted_unlinked rfl Ledger.none⟩

variable {mode : SessionMode} {sessionName handle : String}

theorem Settled.link_eq_none {trace : List Step} (h : c.Settled trace)
    (hallowed : connectRefusal? false c.state sessionName handle = none) : c.link = none := by
  cases h with
  | stranded h => exact h.1
  | coupled h =>
    obtain ⟨last, h⟩ := h
    exact h.link_eq_none hallowed

/-! ### Operations -/

variable [NativeBus β]

theorem balanced_registered {o : Outcome NativeFailure Unit} {w₁ : World β}
    (h : c.world.Balanced none)
    (hregister : (c.opening mode sessionName handle).registerCallbacks ⟨c.world.anchors.next⟩ =
      (o, w₁)) : w₁.Balanced (some c.world.anchors.next) := by
  have hissued : (c.opening mode sessionName handle).Balanced (some c.world.anchors.next) := h.issue
  refine hissued.performed (World.performed hregister) rfl ?_
  rintro t heq
  cases heq
  exact Nat.lt_succ_self _

theorem Asked.balanced {o : Outcome NativeFailure SessionId} {w₁ w₂ : World β}
    (hasked : Asked c mode sessionName handle o w₁ w₂) (h : c.world.Balanced none) :
    w₂.Balanced (some c.world.anchors.next) := by
  have hregistered := balanced_registered h hasked.registered
  have hreported : (w₁.report .status (c.statusLine mode sessionName)).Balanced
      (some c.world.anchors.next) := hregistered
  exact hreported.performed (World.performed hasked.asked) rfl nofun

theorem Accounted.connect (h : c.Accounted)
    (hlink : connectRefusal? false c.state sessionName handle = none → c.link = none) :
    (c.connect mode sessionName handle).2.Accounted := by
  -- Each way a connect can go issues its anchor onto an account that has none in use.
  have hnone (hallowed : connectRefusal? false c.state sessionName handle = none) :
      c.world.Balanced none := by
    have hbalanced := h.balanced
    rwa [hlink hallowed] at hbalanced
  have hends := c.connect_ends mode sessionName handle
  generalize (c.connect mode sessionName handle).1 = outcome at hends
  generalize (c.connect mode sessionName handle).2 = c' at hends
  rcases hends with hconnects | ⟨-, hcollapses⟩
  · cases hconnects with
    | refused => exact h
    | unregistered hallowed hregister =>
      have hregistered := balanced_registered (hnone hallowed) hregister
      exact accounted_unlinked (hlink hallowed) hregistered.release
    | withdrawn hasked hclear =>
      have hcleared := (hasked.balanced (hnone hasked.allowed)).performed (World.performed hclear)
        rfl nofun
      exact accounted_unlinked (hlink hasked.allowed) hcleared.release
    | leaked hasked hclear =>
      have hleaked := (hasked.balanced (hnone hasked.allowed)).leaked (World.performed hclear)
      exact accounted_unlinked (hlink hasked.allowed) hleaked
    | opened hasked =>
      refine ⟨hasked.balanced (hnone hasked.allowed), ?_⟩
      rintro link ⟨⟩
      rfl
  · cases hcollapses with
    | registering hallowed hregister =>
      have hregistered := balanced_registered (hnone hallowed) hregister
      exact accounted_unlinked (hlink hallowed) hregistered.release
    | asking hasked =>
      exact accounted_unlinked (hlink hasked.allowed)
        (hasked.balanced (hnone hasked.allowed)).release
    | withdrawing hasked hclear =>
      have hcleared := (hasked.balanced (hnone hasked.allowed)).performed (World.performed hclear)
        rfl nofun
      exact accounted_unlinked (hlink hasked.allowed) hcleared.release

theorem Accounted.send (h : c.Accounted) (text : String) : (c.send text).2.Accounted := by
  rcases c.send_ends text with hsends | ⟨-, session, w, hspoken, heq⟩
  · generalize (c.send text).1 = outcome at hsends
    generalize (c.send text).2 = c' at hsends
    cases hsends with
    | tooLong => exact h
    | unestablished => exact h
    | unlinked => exact h
    | failed hspoken =>
      exact h.stays rfl rfl (h.balanced.performed (World.performed hspoken.sent) rfl nofun)
    | sent hspoken =>
      have hsent := h.balanced.performed (World.performed hspoken.sent) rfl nofun
      exact h.stays rfl rfl hsent
  · rw [heq]
    exact h.stays rfl rfl (h.balanced.performed (World.performed hspoken.sent) rfl nofun)

theorem Left.balanced {link : Link} {o : Outcome NativeFailure Unit} {w₁ w₂ : World β}
    (hleft : Left c link o w₁ w₂) (h : c.Accounted) : w₁.Balanced (some link.anchor) := by
  have hbalanced := h.balanced.leaveIfKnown hleft.left
  rwa [hleft.linked] at hbalanced

theorem Accounted.disconnect (h : c.Accounted) : c.disconnect.2.Accounted := by
  have hends := c.disconnect_ends
  generalize c.disconnect.1 = outcome at hends
  generalize c.disconnect.2 = c' at hends
  rcases hends with hdisconnects | ⟨-, hbreaks⟩
  · cases hdisconnects with
    | refused => exact h
    | kept hactive hlink hleave => exact h.stays rfl rfl (h.balanced.leaveIfKnown hleave)
    | cleared hleft =>
      have hcleared := (hleft.balanced h).performed (World.performed hleft.cleared) rfl nofun
      exact accounted_unlinked rfl hcleared.release
    | leaked hleft =>
      have hleaked := (hleft.balanced h).leaked (World.performed hleft.cleared)
      exact accounted_unlinked rfl hleaked
  · cases hbreaks with
    | leaving hactive hlink hleave => exact h.stays rfl rfl (h.balanced.leaveIfKnown hleave)
    | clearing hleft =>
      refine h.stays rfl rfl ?_
      rw [hleft.linked]
      exact (hleft.balanced h).performed (World.performed hleft.cleared) rfl nofun

/-! ### Runs -/

theorem Accounted.act {trace : List Step} (h : c.Accounted) (hsettled : c.Settled trace) (a : Action) :
    (c.act a).2.Accounted := by
  cases a with
  | connect mode sessionName handle => exact h.connect hsettled.link_eq_none
  | send text => exact h.send text
  | disconnect => exact h.disconnect
  | _ => exact ⟨h.balanced, h.target⟩

theorem accounted_run {trace : List Step} (h : c.Accounted) (hsettled : c.Settled trace)
    (actions : List Action) : (c.run actions).2.Accounted := by
  induction actions generalizing c trace with
  | nil => exact h
  | cons a actions ih => exact ih (h.act hsettled a) (hsettled.act a)

end Controller

end SessionBridge
