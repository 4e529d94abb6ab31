import SessionBridge.Proofs.Control.Lifetime

/-! Every operation of a controller on a loopback bus keeps callbacks safe and the account of anchors
in order, and so does giving the controller up. What holds at rest goes from move to move; the moments
inside an operation follow from it. -/
namespace SessionBridge.Controller

/-! ### Moments inside operations -/

/-- The worlds between the native calls of an operation or of the release, each with the anchor that
the operation or the link holds meanwhile. -/
inductive Passes [NativeBus β] (c : Controller β) : AnchorId → World β → Prop where
  | issued {mode : SessionMode} {sessionName handle : String}
      (hallowed : connectRefusal? false c.state sessionName handle = none) :
      Passes c c.world.anchors.next (c.opening mode sessionName handle)
  | registered {mode : SessionMode} {sessionName handle : String} {o : Outcome NativeFailure Unit}
      {w₁ : World β} (hallowed : connectRefusal? false c.state sessionName handle = none)
      (hregister : (c.opening mode sessionName handle).registerCallbacks ⟨c.world.anchors.next⟩ =
        (o, w₁)) :
      Passes c c.world.anchors.next w₁
  | asked {mode : SessionMode} {sessionName handle : String} {o : Outcome NativeFailure SessionId}
      {w₁ w₂ : World β} (hasked : Asked c mode sessionName handle o w₁ w₂) :
      Passes c c.world.anchors.next w₂
  | withdrawn {mode : SessionMode} {sessionName handle : String} {f : NativeFailure}
      {o : Outcome NativeFailure Unit} {w₁ w₂ w₃ : World β}
      (hasked : Asked c mode sessionName handle (.failure f) w₁ w₂)
      (hclear : w₂.clearCallbacks true = (o, w₃)) :
      Passes c c.world.anchors.next w₃
  | spoken {link : Link} {text : String} {session : Session} {o : Outcome NativeFailure Unit}
      {w : World β} (hlink : c.link = some link) (hspoken : Spoken c text session o w) :
      Passes c link.anchor w
  | leaving {link : Link} {o : Outcome NativeFailure Unit} {w : World β}
      (hlink : c.link = some link)
      (hleave : leaveIfKnown true c.state.sessionId? c.world = (o, w)) :
      Passes c link.anchor w
  | left {link : Link} {o : Outcome NativeFailure Unit} {w₁ w₂ : World β}
      (hleft : Left c link o w₁ w₂) : Passes c link.anchor w₂
  | abandoning {link : Link} {o : Outcome NativeFailure Unit} {w : World β}
      (hlink : c.link = some link)
      (hleave : leaveIfKnown false c.state.sessionId? c.muted = (o, w)) :
      Passes c link.anchor w
  | abandoned {link : Link} {o o' : Outcome NativeFailure Unit} {w₁ w₂ : World β}
      (hlink : c.link = some link)
      (hleave : leaveIfKnown false c.state.sessionId? c.muted = (o, w₁))
      (hclear : w₁.clearCallbacks false = (o', w₂)) :
      Passes c link.anchor w₂

/-! ### Operations -/

structure Kept (c : Controller Scripted) : Prop where
  coupled : ∃ last, c.Coupled last
  world : c.world.Kept (c.link.map Link.anchor)

variable {c : Controller Scripted} {mode : SessionMode} {sessionName handle : String}
  {w₁ w₂ : World Scripted}

theorem Kept.linked (h : c.Kept) {link : Link} (hlink : c.link = some link) :
    c.world.Kept (some link.anchor) := by
  have hworld := h.world
  rw [hlink] at hworld
  exact hworld

theorem Kept.unlinked (h : c.Kept) (hlink : c.link = none) : c.world.Kept none := by
  have hworld := h.world
  rw [hlink] at hworld
  exact hworld

theorem Kept.link_eq_none (h : c.Kept)
    (hallowed : connectRefusal? false c.state sessionName handle = none) : c.link = none := by
  obtain ⟨last, hcoupled⟩ := h.coupled
  exact hcoupled.link_eq_none hallowed

theorem Kept.opening (h : c.Kept)
    (hallowed : connectRefusal? false c.state sessionName handle = none) :
    (c.opening mode sessionName handle).Kept (some c.world.anchors.next) :=
  ((h.unlinked (h.link_eq_none hallowed)).onBridge _).issue

theorem Kept.asked (h : c.Kept) {o : Outcome NativeFailure SessionId}
    (hasked : Asked c mode sessionName handle o w₁ w₂) :
    w₂.Kept (some c.world.anchors.next) :=
  (((h.opening hasked.allowed).registerCallbacks hasked.registered).onBridge _).openSession
    hasked.asked

theorem Kept.connect (h : c.Kept) (hcalm : (c.connect mode sessionName handle).1 ≠ .panic) :
    (c.connect mode sessionName handle).2.world.Kept
      ((c.connect mode sessionName handle).2.link.map Link.anchor) := by
  have hconnects := connect_connects hcalm
  generalize (c.connect mode sessionName handle).1 = outcome at hconnects
  generalize (c.connect mode sessionName handle).2 = c' at hconnects
  cases hconnects with
  | refused hrefused => exact h.world
  | unregistered hallowed hregister =>
    have hlink := h.link_eq_none hallowed
    dsimp only
    rw [hlink]
    have hadvanced : (c.world.advance (.connect mode sessionName handle)).Kept none :=
      (h.unlinked hlink).onBridge _
    have hreleased := hadvanced.unregistered hregister
    exact hreleased.onBridge _
  | withdrawn hasked hclear =>
    dsimp only
    rw [h.link_eq_none hasked.allowed]
    exact ((h.asked hasked).cleared hclear).2.onBridge _
  | leaked hasked hclear =>
    dsimp only
    rw [h.link_eq_none hasked.allowed]
    exact ((h.asked hasked).uncleared hclear).2.2.onBridge _
  | opened hasked => exact (h.asked hasked).onBridge _

theorem Kept.send (h : c.Kept) {text : String} (hcalm : (c.send text).1 ≠ .panic) :
    (c.send text).2.world.Kept ((c.send text).2.link.map Link.anchor) := by
  have hsends := send_sends hcalm
  generalize (c.send text).1 = outcome at hsends
  generalize (c.send text).2 = c' at hsends
  cases hsends with
  | tooLong => exact h.world
  | unestablished => exact h.world
  | unlinked => exact h.world
  | failed hspoken => exact h.world.send hspoken.sent
  | sent hspoken => exact (h.world.send hspoken.sent).onBridge _

theorem Kept.disconnect (h : c.Kept) (hcalm : c.disconnect.1 ≠ .panic) :
    c.disconnect.2.world.Kept (c.disconnect.2.link.map Link.anchor) := by
  have hdisconnects := disconnect_disconnects hcalm
  generalize c.disconnect.1 = outcome at hdisconnects
  generalize c.disconnect.2 = c' at hdisconnects
  cases hdisconnects with
  | refused => exact h.world
  | kept hactive hlink hleave => exact h.world.leaveIfKnown hleave
  | cleared hleft =>
    exact (((h.linked hleft.linked).leaveIfKnown hleft.left).cleared hleft.cleared).2.onBridge _
  | leaked hleft =>
    exact (((h.linked hleft.linked).leaveIfKnown hleft.left).uncleared hleft.cleared).2.2.onBridge _

theorem Kept.act (h : c.Kept) {a : Action} (hcalm : (c.act a).1 ≠ .panic) : (c.act a).2.Kept := by
  obtain ⟨last, hcoupled⟩ := h.coupled
  refine ⟨⟨_, hcoupled.act hcalm⟩, ?_⟩
  cases a with
  | connect mode sessionName handle => exact h.connect hcalm
  | send text => exact h.send hcalm
  | disconnect => exact h.disconnect hcalm
  | callback call => exact h.world.onBridge _
  | message text code => exact h.world.onBridge _
  | participant name => exact h.world.onBridge _
  | install handlers => exact h.world.onBridge _
  | tick now => exact h.world.onBridge _

theorem Kept.cue (h : c.Kept) (q : Cue) : (c.move (.cue q)).2.Kept := by
  obtain ⟨last, hcoupled⟩ := h.coupled
  refine ⟨⟨last, hcoupled.stays rfl fun _ _ hstate => hstate⟩, ?_⟩
  have htable : (c.world.bus.take q).table = c.world.bus.table := by
    cases q <;> rfl
  have hsafe := h.world.safe
  refine ⟨h.world.calm.take q, ⟨?_, hsafe.heard, hsafe.confirmed⟩, h.world.ledger⟩
  intro t ht
  exact hsafe.tabled t (htable.symm.trans ht)

theorem Kept.deliver (h : c.Kept) (call : Callback) : (c.move (.deliver call)).2.Kept := by
  obtain ⟨last, hcoupled⟩ := h.coupled
  have hsafe := h.world.safe
  constructor
  · refine ⟨last, hcoupled.stays rfl fun P hP hstate => ?_⟩
    change P ((c.world.undergo true (.callback c.world.bus.table call)).bridge.state)
    rcases World.bridge_undergo true c.world (.callback c.world.bus.table call) with
      hbridge | ⟨call', hbridge⟩
    · rw [hbridge]
      exact hstate
    · rw [hbridge]
      exact Bridge.keeps_receive hP call' hstate
  · change (c.world.undergo true (.callback c.world.bus.table call)).Kept _
    refine ⟨?_, ⟨?_, ?_, ?_⟩, ?_⟩
    · rw [World.bus_undergo]
      exact h.world.calm
    · rw [World.bus_undergo, World.anchors_undergo]
      exact hsafe.tabled
    · refine World.heard_undergo hsafe.heard fun t call' hcallback => ?_
      injection hcallback with htable
      exact hsafe.tabled t htable
    · rw [World.exchanges_undergo, World.anchors_undergo]
      exact hsafe.confirmed
    · rw [World.exchanges_undergo, World.anchors_undergo]
      exact h.world.ledger

theorem Kept.move (h : c.Kept) (m : Move) : (c.move m).2.Kept := by
  cases m with
  | act a => exact h.act (home_move (.act a) h.world.calm).1
  | cue q => exact h.cue q
  | deliver call => exact h.deliver call

theorem Kept.release (h : c.Kept) : c.release.1 = false ∧ c.release.2.Kept none := by
  have hleft {link : Link} {o : Outcome NativeFailure Unit} {w₁ : World Scripted}
      (hlink : c.link = some link)
      (hleave : leaveIfKnown false c.state.sessionId? c.muted = (o, w₁)) :
      o ≠ .panic ∧ w₁.Kept (some link.anchor) := by
    have hworld : c.muted.Kept (some link.anchor) := (h.linked hlink).onBridge _
    have hback := c.muted.back_leaveIfKnown false c.state.sessionId? hworld.calm
    rw [hleave] at hback
    exact ⟨hback.1, hworld.leaveIfKnown hleave⟩
  have hreleases := c.release_releases
  generalize c.release.1 = panicked at hreleases
  generalize c.release.2 = w at hreleases
  cases hreleases with
  | unlinked hlink => exact ⟨rfl, (h.unlinked hlink).onBridge _⟩
  | broken hlink hleave => exact absurd rfl (hleft hlink hleave).1
  | @stopped link o w₁ w₂ habandoned =>
    have hworld := (hleft habandoned.linked habandoned.left).2
    have hclearing := w₁.back_clearCallbacks false hworld.calm
    rw [habandoned.cleared] at hclearing
    exact absurd rfl hclearing.1
  | released habandoned =>
    have hworld := (hleft habandoned.linked habandoned.left).2
    exact ⟨rfl, (hworld.cleared habandoned.cleared).2⟩
  | leaked habandoned =>
    have hworld := (hleft habandoned.linked habandoned.left).2
    exact ⟨rfl, (hworld.uncleared habandoned.cleared).2.2⟩

theorem Kept.passes (h : c.Kept) {anchor : AnchorId} {w : World Scripted}
    (hpasses : c.Passes anchor w) : w.Safe ∧ w.anchors.held = [anchor] := by
  have hkept {w : World Scripted} (hw : w.Kept (some anchor)) : w.Safe ∧ w.anchors.held = [anchor] :=
    ⟨hw.safe, hw.ledger.held⟩
  have hcleared {attended : Bool} {w w' : World Scripted} {o : Outcome NativeFailure Unit}
      (hw : w.Kept (some anchor)) (hclear : w.clearCallbacks attended = (o, w')) :
      w'.Safe ∧ w'.anchors.held = [anchor] := by
    have hclearing := w.back_clearCallbacks attended hw.calm
    rw [hclear] at hclearing
    cases o with
    | value _ => exact hkept (hw.cleared hclear).1
    | failure f => exact ⟨(hw.uncleared hclear).1, (hw.uncleared hclear).2.1⟩
    | panic => exact absurd rfl hclearing.1
  cases hpasses with
  | issued hallowed => exact hkept (h.opening hallowed)
  | registered hallowed hregister => exact hkept ((h.opening hallowed).registerCallbacks hregister)
  | asked hasked => exact hkept (h.asked hasked)
  | withdrawn hasked hclear => exact hcleared (h.asked hasked) hclear
  | spoken hlink hspoken => exact hkept ((h.linked hlink).send hspoken.sent)
  | leaving hlink hleave => exact hkept ((h.linked hlink).leaveIfKnown hleave)
  | left hleft => exact hcleared ((h.linked hleft.linked).leaveIfKnown hleft.left) hleft.cleared
  | abandoning hlink hleave => exact hkept (((h.linked hlink).onBridge _).leaveIfKnown hleave)
  | abandoned hlink hleave hclear =>
    exact hcleared (((h.linked hlink).onBridge _).leaveIfKnown hleave) hclear

/-! ### Whole plays -/

theorem kept_create {config : BusConfig} {now : Timestamp} {opened : String}
    (hcreate : create config Scripted.idle now opened = .value c) : c.Kept := by
  obtain ⟨-, feed, -, rfl⟩ := create_eq_value_iff.mp hcreate
  refine ⟨⟨none, .rests rfl rfl⟩, Scripted.calm_idle, ⟨nofun, nofun, ?_⟩, .none⟩
  intro i t hregister
  cases hregister

theorem kept_play {config : BusConfig} {now : Timestamp} {opened : String}
    (hcreate : create config Scripted.idle now opened = .value c) (moves : List Move) :
    (c.play moves).Kept :=
  play_induction (kept_create hcreate) (fun _ m h => h.move m) moves

/-- However its calls fail and wherever the bus calls back, a controller that has a loopback bus for
itself keeps the context of every table that the bus can still use. At rest and at every moment of
the operation or of the release that comes next, the table that the bus holds has a live anchor, no
callback has met a dead one, and an anchor whose table was accepted is gone only behind a later clear
that succeeded. At rest the live anchors are the one of the link and one for each clear that failed;
once the controller is given up, only the latter. -/
theorem callbacks_stay_anchored {config : BusConfig} {now : Timestamp} {opened : String}
    (hcreate : create config Scripted.idle now opened = .value c) (moves : List Move) :
    let c' := c.play moves
    let gone := c'.release
    c'.world.Safe ∧
      (∀ anchor w, c'.Passes anchor w → w.Safe ∧ w.anchors.held = [anchor]) ∧
      c'.world.anchors.held = (c'.link.map Link.anchor).toList ∧
      (c'.world.anchors.held ++ c'.world.anchors.leaked).Nodup ∧
      c'.world.anchors.count =
        (if c'.link.isSome then 1 else 0) + failedClears c'.world.exchanges ∧
      gone.1 = false ∧ gone.2.Safe ∧ gone.2.anchors.held = [] ∧
      gone.2.anchors.count = failedClears gone.2.exchanges ∧
      ∀ m, (c'.move m).1 ≠ .panic := by
  intro c' gone
  have hkept : c'.Kept := kept_play hcreate moves
  obtain ⟨hreturned, hgone⟩ := hkept.release
  have hledger := hkept.world.ledger
  have hcount := hledger.count_eq
  rw [Option.isSome_map] at hcount
  refine ⟨hkept.world.safe, fun _ _ => hkept.passes, hledger.held, hledger.distinct, hcount,
    hreturned, hgone.safe, hgone.ledger.held, ?_, fun m => (home_move m hkept.world.calm).1⟩
  rw [hgone.ledger.count_eq]
  exact Nat.zero_add _

/-- A connect whose clear fails too, a callback through the table that it leaves behind, and a second
session that is opened over it. -/
def leaking : List Move :=
  [.cue (.failNext .advertise), .cue (.failNext .clearCallbacks),
    .cue (.during .clearCallbacks .before [.ofParticipant "bob"]),
    .act (.connect .owner "lobby" "ann"), .deliver (.ofMessage "hi" 0),
    .act (.connect .joiner "lobby" "ann")]

theorem callbacks_stay_anchored_leaking :
    create .standard Scripted.idle ⟨0⟩ "noon" = .value (standard Scripted.idle ⟨0⟩ "noon") ∧
      ((standard Scripted.idle ⟨0⟩ "noon").play leaking).world.Safe ∧
      ((standard Scripted.idle ⟨0⟩ "noon").play leaking).world.anchors.count = 1 + 1 := by
  have hcreate := create_standard Scripted.idle ⟨0⟩ "noon"
  obtain ⟨hsafe, -, -, -, hcount, -⟩ := callbacks_stay_anchored hcreate leaking
  have hlink : ((standard Scripted.idle ⟨0⟩ "noon").play leaking).link.isSome = true := by
    decide +kernel
  have hfailed : failedClears ((standard Scripted.idle ⟨0⟩ "noon").play leaking).world.exchanges =
      1 := by
    decide +kernel
  rw [hlink, hfailed] at hcount
  exact ⟨hcreate, hsafe, hcount⟩

end SessionBridge.Controller
