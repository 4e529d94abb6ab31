import SessionBridge.Control.Run
import SessionBridge.Proofs.Control.Native

/-! Everything a control operation can do: one case for each way through it, with the worlds between its
native calls. Proofs about operations go by these cases. The ways on which the bus panics stand apart:
the panic goes through the operation to its caller, and what the operation would have taken back stays
done. -/
namespace SessionBridge.Controller

variable {β : Type}

theorem create_eq_value_iff {config : BusConfig} {bus : β} {now : Timestamp} {opened : String}
    {c : Controller β} :
    create config bus now opened = .value c ↔
      config.validate = .ok () ∧
        ∃ feed, Feed.ofSize? (max 1 config.eventBufferSize.toNat) = some feed ∧
          c = ⟨config, .start bus (.start feed now opened), none⟩ := by
  unfold create Bridge.ofSize?
  rcases hvalid : config.validate with e | ⟨⟩
  · simp
  · rcases hfeed : Feed.ofSize? (max 1 config.eventBufferSize.toNat) with _ | feed
    · simp
    · simp [eq_comm]

def standard (bus : β) (now : Timestamp) (opened : String) : Controller β :=
  ⟨.standard, .start bus (.start ⟨64, #[]⟩ now opened), none⟩

theorem create_standard (bus : β) (now : Timestamp) (opened : String) :
    create .standard bus now opened = .value (standard bus now opened) := by
  have hvalid : BusConfig.standard.validate = .ok () := by rfl
  have hsize : Feed.ofSize? (max 1 BusConfig.standard.eventBufferSize.toNat) = some ⟨64, #[]⟩ := by
    decide +kernel
  exact create_eq_value_iff.mpr ⟨hvalid, _, hsize, rfl⟩

variable [NativeBus β]

def opening (c : Controller β) (mode : SessionMode) (sessionName handle : String) : World β :=
  (c.world.advance (.connect mode sessionName handle)).issueAnchor

def statusLine (c : Controller β) (mode : SessionMode) (sessionName : String) : String :=
  c.config.target.wellKnownName sessionName ++ " is " ++ mode.role

structure Asked (c : Controller β) (mode : SessionMode) (sessionName handle : String)
    (o : Outcome NativeFailure SessionId) (w₁ w₂ : World β) : Prop where
  allowed : connectRefusal? false c.state sessionName handle = none
  registered : (c.opening mode sessionName handle).registerCallbacks ⟨c.world.anchors.next⟩ =
    (.value (), w₁)
  asked : (w₁.report .status (c.statusLine mode sessionName)).openSession mode c.config.target
    sessionName = (o, w₂)

inductive Connects (c : Controller β) (mode : SessionMode) (sessionName handle : String) :
    Outcome ControlError Unit → Controller β → Prop where
  | refused {e : ControlError}
      (hrefused : connectRefusal? false c.state sessionName handle = some e) :
      Connects c mode sessionName handle (.failure e) c
  | unregistered {f : NativeFailure} {w₁ : World β}
      (hallowed : connectRefusal? false c.state sessionName handle = none)
      (hregister : (c.opening mode sessionName handle).registerCallbacks ⟨c.world.anchors.next⟩ =
        (.failure f, w₁)) :
      Connects c mode sessionName handle (.failure (.native f))
        { c with world := (abortConnect f w₁).releaseAnchor c.world.anchors.next }
  | withdrawn {f : NativeFailure} {w₁ w₂ w₃ : World β}
      (hasked : Asked c mode sessionName handle (.failure f) w₁ w₂)
      (hclear : w₂.clearCallbacks true = (.value (), w₃)) :
      Connects c mode sessionName handle (.failure (.native f))
        { c with world := abortConnect f (w₃.releaseAnchor c.world.anchors.next) }
  | leaked {f f' : NativeFailure} {w₁ w₂ w₃ : World β}
      (hasked : Asked c mode sessionName handle (.failure f) w₁ w₂)
      (hclear : w₂.clearCallbacks true = (.failure f', w₃)) :
      Connects c mode sessionName handle (.failure (.native f))
        { c with world := abortConnect f (w₃.leakAnchor c.world.anchors.next) }
  | opened {id : SessionId} {w₁ w₂ : World β}
      (hasked : Asked c mode sessionName handle (.value id) w₁ w₂) :
      Connects c mode sessionName handle (.value ())
        { c with
          world := w₂.advance (.nativeAccepted id)
          link := some ⟨c.config.target, c.world.anchors.next, sessionName⟩ }

theorem Connects.calm {c c' : Controller β} {mode : SessionMode} {sessionName handle : String}
    {o : Outcome ControlError Unit} (h : Connects c mode sessionName handle o c') : o ≠ .panic := by
  rintro rfl
  cases h

/-- What a connect leaves behind that the bus panics on, at any of its calls: an attempt that has lost
its anchor. -/
inductive Collapses (c : Controller β) (mode : SessionMode) (sessionName handle : String) :
    Controller β → Prop where
  | registering {w₁ : World β}
      (hallowed : connectRefusal? false c.state sessionName handle = none)
      (hregister : (c.opening mode sessionName handle).registerCallbacks ⟨c.world.anchors.next⟩ =
        (.panic, w₁)) :
      Collapses c mode sessionName handle { c with world := w₁.releaseAnchor c.world.anchors.next }
  | asking {w₁ w₂ : World β} (hasked : Asked c mode sessionName handle .panic w₁ w₂) :
      Collapses c mode sessionName handle { c with world := w₂.releaseAnchor c.world.anchors.next }
  | withdrawing {f : NativeFailure} {w₁ w₂ w₃ : World β}
      (hasked : Asked c mode sessionName handle (.failure f) w₁ w₂)
      (hclear : w₂.clearCallbacks true = (.panic, w₃)) :
      Collapses c mode sessionName handle { c with world := w₃.releaseAnchor c.world.anchors.next }

theorem connect_ends (c : Controller β) (mode : SessionMode) (sessionName handle : String) :
    Connects c mode sessionName handle (c.connect mode sessionName handle).1
        (c.connect mode sessionName handle).2 ∨
      (c.connect mode sessionName handle).1 = .panic ∧
        Collapses c mode sessionName handle (c.connect mode sessionName handle).2 := by
  unfold connect
  rcases hrefusal : connectRefusal? false c.state sessionName handle with _ | e
  case some => exact .inl (.refused hrefusal)
  unfold openLink
  rcases hregister : (c.opening mode sessionName handle).registerCallbacks
    ⟨c.world.anchors.next⟩ with ⟨_ | f | _, w₁⟩
  case failure =>
    rw [opening] at hregister
    simp only [hregister]
    exact .inl (.unregistered hrefusal hregister)
  case panic =>
    rw [opening] at hregister
    simp only [hregister]
    exact .inr ⟨trivial, .registering hrefusal hregister⟩
  rw [opening] at hregister
  simp only [hregister]
  rcases hopen : (w₁.report .status (c.statusLine mode sessionName)).openSession mode
    c.config.target sessionName with ⟨id | f | _, w₂⟩
  case value =>
    rw [statusLine] at hopen
    simp only [hopen]
    exact .inl (.opened ⟨hrefusal, hregister, hopen⟩)
  case panic =>
    rw [statusLine] at hopen
    simp only [hopen]
    exact .inr ⟨trivial, .asking ⟨hrefusal, hregister, hopen⟩⟩
  have hasked : Asked c mode sessionName handle (.failure f) w₁ w₂ := ⟨hrefusal, hregister, hopen⟩
  rw [statusLine] at hopen
  simp only [hopen]
  unfold withdraw
  rcases hclear : w₂.clearCallbacks true with ⟨_ | f' | _, w₃⟩
  case value => exact .inl (.withdrawn hasked hclear)
  case failure => exact .inl (.leaked hasked hclear)
  case panic => exact .inr ⟨rfl, .withdrawing hasked hclear⟩

theorem connect_connects {c : Controller β} {mode : SessionMode} {sessionName handle : String}
    (hcalm : (c.connect mode sessionName handle).1 ≠ .panic) :
    Connects c mode sessionName handle (c.connect mode sessionName handle).1
      (c.connect mode sessionName handle).2 :=
  (c.connect_ends mode sessionName handle).resolve_right fun hends => hcalm hends.1

structure Spoken (c : Controller β) (text : String) (session : Session)
    (o : Outcome NativeFailure Unit) (w : World β) : Prop where
  fits : text.utf8ByteSize ≤ c.config.maxMessageLength.toNat
  established : c.state.session? = some session
  linked : c.link.isSome
  sent : c.world.send session.id text = (o, w)

inductive Sends (c : Controller β) (text : String) :
    Outcome ControlError Unit → Controller β → Prop where
  | tooLong (hlong : c.config.maxMessageLength.toNat < text.utf8ByteSize) :
      Sends c text (.failure (.config
        (.messageTooLong text.utf8ByteSize c.config.maxMessageLength.toNat))) c
  | unestablished (hfits : text.utf8ByteSize ≤ c.config.maxMessageLength.toNat)
      (hsession : c.state.session? = none) :
      Sends c text (.failure (.session (.notEstablished c.state.name))) c
  | unlinked {session : Session} (hfits : text.utf8ByteSize ≤ c.config.maxMessageLength.toNat)
      (hsession : c.state.session? = some session) (hlink : c.link = none) :
      Sends c text (.failure (.session .notConnected)) c
  | failed {session : Session} {f : NativeFailure} {w : World β}
      (hspoken : Spoken c text session (.failure f) w) :
      Sends c text (.failure (.native f)) { c with world := w }
  | sent {session : Session} {w : World β} (hspoken : Spoken c text session (.value ()) w) :
      Sends c text (.value ()) { c with
        world := { w with
          bridge := w.bridge.record .outbound .status (session.handle ++ ": " ++ text) } }

theorem Sends.calm {c c' : Controller β} {text : String} {o : Outcome ControlError Unit}
    (h : Sends c text o c') : o ≠ .panic := by
  rintro rfl
  cases h

theorem send_ends (c : Controller β) (text : String) :
    Sends c text (c.send text).1 (c.send text).2 ∨
      (c.send text).1 = .panic ∧
        ∃ session w, Spoken c text session .panic w ∧ (c.send text).2 = { c with world := w } := by
  unfold send
  by_cases hlong : c.config.maxMessageLength.toNat < text.utf8ByteSize
  · simp only [hlong, if_true]
    exact .inl (.tooLong hlong)
  have hfits : text.utf8ByteSize ≤ c.config.maxMessageLength.toNat := by omega
  simp only [hlong, if_false]
  rcases hsession : c.state.session? with _ | session
  case none => exact .inl (.unestablished hfits hsession)
  rcases hlink : c.link with _ | link
  case none => exact .inl (.unlinked hfits hsession hlink)
  simp only
  have hlinked : c.link.isSome := by rw [hlink]; rfl
  rcases hsend : c.world.send session.id text with ⟨_ | f | _, w⟩
  case value => exact .inl (hlink ▸ .sent ⟨hfits, hsession, hlinked, hsend⟩)
  case failure => exact .inl (hlink ▸ .failed ⟨hfits, hsession, hlinked, hsend⟩)
  case panic => exact .inr ⟨rfl, session, w, ⟨hfits, hsession, hlinked, hsend⟩, hlink ▸ rfl⟩

theorem send_sends {c : Controller β} {text : String} (hcalm : (c.send text).1 ≠ .panic) :
    Sends c text (c.send text).1 (c.send text).2 :=
  (c.send_ends text).resolve_right fun hends => hcalm hends.1

structure Left (c : Controller β) (link : Link) (o : Outcome NativeFailure Unit) (w₁ w₂ : World β) :
    Prop where
  active : c.state.isDisconnected = false
  linked : c.link = some link
  left : leaveIfKnown true c.state.sessionId? c.world = (.value (), w₁)
  cleared : w₁.clearCallbacks true = (o, w₂)

inductive Disconnects (c : Controller β) : Outcome ControlError Unit → Controller β → Prop where
  | refused (hidle : c.state.isDisconnected ∨ c.link = none) :
      Disconnects c (.failure (.session .notConnected)) c
  | kept {link : Link} {f : NativeFailure} {w : World β}
      (hactive : c.state.isDisconnected = false) (hlink : c.link = some link)
      (hleave : leaveIfKnown true c.state.sessionId? c.world = (.failure f, w)) :
      Disconnects c (.failure (.native f)) { c with world := w }
  | cleared {link : Link} {w₁ w₂ : World β} (hleft : Left c link (.value ()) w₁ w₂) :
      Disconnects c (.value ())
        { c with world := (conclude link w₂).releaseAnchor link.anchor, link := none }
  | leaked {link : Link} {f : NativeFailure} {w₁ w₂ : World β}
      (hleft : Left c link (.failure f) w₁ w₂) :
      Disconnects c (.failure (.native f))
        { c with world := (conclude link w₂).leakAnchor link.anchor, link := none }

theorem Disconnects.calm {c c' : Controller β} {o : Outcome ControlError Unit}
    (h : Disconnects c o c') : o ≠ .panic := by
  rintro rfl
  cases h

/-- What a disconnect leaves behind that the bus panics on: the link, whether the session was left or
not. -/
inductive Breaks (c : Controller β) : Controller β → Prop where
  | leaving {link : Link} {w : World β} (hactive : c.state.isDisconnected = false)
      (hlink : c.link = some link)
      (hleave : leaveIfKnown true c.state.sessionId? c.world = (.panic, w)) :
      Breaks c { c with world := w }
  | clearing {link : Link} {w₁ w₂ : World β} (hleft : Left c link .panic w₁ w₂) :
      Breaks c { c with world := w₂ }

theorem disconnect_ends (c : Controller β) :
    Disconnects c c.disconnect.1 c.disconnect.2 ∨
      c.disconnect.1 = .panic ∧ Breaks c c.disconnect.2 := by
  unfold disconnect
  cases hactive : c.state.isDisconnected with
  | true => exact .inl (.refused (.inl hactive))
  | false =>
    rcases hlink : c.link with _ | link
    case none => exact .inl (.refused (.inr hlink))
    simp only
    rcases hleave : leaveIfKnown true c.state.sessionId? c.world with ⟨_ | f | _, w₁⟩
    case failure => exact .inl (hlink ▸ .kept hactive hlink hleave)
    case panic => exact .inr ⟨rfl, hlink ▸ .leaving hactive hlink hleave⟩
    simp only
    rcases hclear : w₁.clearCallbacks true with ⟨_ | f | _, w₂⟩
    case value => exact .inl (.cleared ⟨hactive, hlink, hleave, hclear⟩)
    case failure => exact .inl (.leaked ⟨hactive, hlink, hleave, hclear⟩)
    case panic => exact .inr ⟨rfl, hlink ▸ .clearing ⟨hactive, hlink, hleave, hclear⟩⟩

theorem disconnect_disconnects {c : Controller β} (hcalm : c.disconnect.1 ≠ .panic) :
    Disconnects c c.disconnect.1 c.disconnect.2 :=
  c.disconnect_ends.resolve_right fun hends => hcalm hends.1

def muted (c : Controller β) : World β :=
  { c.world with bridge := c.world.bridge.mute }

/-- The calls of a release that gets as far as the clear. -/
structure Abandoned (c : Controller β) (link : Link) (o o' : Outcome NativeFailure Unit)
    (w₁ w₂ : World β) : Prop where
  linked : c.link = some link
  left : leaveIfKnown false c.state.sessionId? c.muted = (o, w₁)
  returned : o ≠ .panic
  cleared : w₁.clearCallbacks false = (o', w₂)

inductive Releases (c : Controller β) : Bool → World β → Prop where
  | unlinked (hlink : c.link = none) : Releases c false c.muted
  | broken {link : Link} {w : World β} (hlink : c.link = some link)
      (hleave : leaveIfKnown false c.state.sessionId? c.muted = (.panic, w)) :
      Releases c true (w.releaseAnchor link.anchor)
  | stopped {link : Link} {o : Outcome NativeFailure Unit} {w₁ w₂ : World β}
      (habandoned : Abandoned c link o .panic w₁ w₂) :
      Releases c true (w₂.releaseAnchor link.anchor)
  | released {link : Link} {o : Outcome NativeFailure Unit} {w₁ w₂ : World β}
      (habandoned : Abandoned c link o (.value ()) w₁ w₂) :
      Releases c false (w₂.releaseAnchor link.anchor)
  | leaked {link : Link} {o : Outcome NativeFailure Unit} {f : NativeFailure} {w₁ w₂ : World β}
      (habandoned : Abandoned c link o (.failure f) w₁ w₂) :
      Releases c false (w₂.leakAnchor link.anchor)

theorem release_releases (c : Controller β) : Releases c c.release.1 c.release.2 := by
  unfold release
  rcases hlink : c.link with _ | link
  case none => exact .unlinked hlink
  rcases hleave : leaveIfKnown false c.state.sessionId? c.muted with ⟨o, w₁⟩
  rcases hclear : w₁.clearCallbacks false with ⟨o', w₂⟩
  have habandoned (hreturned : o ≠ .panic) : Abandoned c link o o' w₁ w₂ :=
    ⟨hlink, hleave, hreturned, hclear⟩
  rw [muted] at hleave
  simp only [hleave]
  cases o with
  | panic => exact .broken hlink hleave
  | value _ =>
    simp only [hclear]
    cases o' with
    | value _ => exact .released (habandoned nofun)
    | failure f => exact .leaked (habandoned nofun)
    | panic => exact .stopped (habandoned nofun)
  | failure f =>
    simp only [hclear]
    cases o' with
    | value _ => exact .released (habandoned nofun)
    | failure f => exact .leaked (habandoned nofun)
    | panic => exact .stopped (habandoned nofun)

end SessionBridge.Controller
