import SessionBridge.Proofs.Bus.Return
import SessionBridge.Proofs.Control.Coupling
import SessionBridge.Proofs.Control.Record
import SessionBridge.Proofs.Control.Rejection

/-! The protocol that a controller speaks with its bus. Between operations there are two phases only:
no session is open, or the one that a connect opened and that nobody has left since. In each phase an
operation makes one of a few sequences of native calls, which depend on what the calls before them were
answered. It makes none only if its arguments or the state rule it out. -/
namespace SessionBridge

structure Scene where
  state : SessionState
  step : Step

/-- Where the native calls made so far have led. -/
inductive Phase where
  | idle
  | opened (o : Opening)

def Phase.Shows : Phase → SessionState → Prop
  | .idle, state => state = .disconnected
  | .opened o, state => state.Serves o

/-- The native calls of one action in a phase, with their answers, and the phase that they lead to. -/
inductive Speaks (config : BusConfig) : Phase → Scene → Phase → Prop where
  | quiet {p : Phase} {s : SessionState} {a : Action} (hquiet : a.isControl = false) :
      Speaks config p ⟨s, a, .value (), []⟩ p
  | refused {p : Phase} {s : SessionState} {a : Action} {e : ControlError}
      (hrejects : Rejects config.maxMessageLength.toNat false s a e) :
      Speaks config p ⟨s, a, .failure e, []⟩ p
  | unregistered {s : SessionState} {mode : SessionMode} {sessionName handle : String}
      {t : CallbackTable} {f : NativeFailure} :
      Speaks config .idle
        ⟨s, .connect mode sessionName handle, .failure (.native f),
          [.registerCallbacks t (.failure f)]⟩
        .idle
  /-- Whether the callbacks could be taken back makes no difference. -/
  | unopened {s : SessionState} {mode : SessionMode} {sessionName handle : String}
      {t : CallbackTable} {f : NativeFailure} {r : Outcome NativeFailure Unit} :
      Speaks config .idle
        ⟨s, .connect mode sessionName handle, .failure (.native f),
          [.registerCallbacks t (.value ()), .openSession mode config.target sessionName (.failure f),
            .clearCallbacks r]⟩
        .idle
  | opened {s : SessionState} {mode : SessionMode} {sessionName handle : String}
      {t : CallbackTable} {id : SessionId} :
      Speaks config .idle
        ⟨s, .connect mode sessionName handle, .value (),
          [.registerCallbacks t (.value ()), .openSession mode config.target sessionName (.value id)]⟩
        (.opened ⟨mode, sessionName, handle, id⟩)
  /-- Only the session of the open that has come into being is sent to. -/
  | unsent {o : Opening} {since : Timestamp} {text : String} {f : NativeFailure} :
      Speaks config (.opened o)
        ⟨.established ⟨o.mode, o.id, o.sessionName, o.handle, since⟩, .send text,
          .failure (.native f), [.send o.id text (.failure f)]⟩
        (.opened o)
  | sent {o : Opening} {since : Timestamp} {text : String} :
      Speaks config (.opened o)
        ⟨.established ⟨o.mode, o.id, o.sessionName, o.handle, since⟩, .send text,
          .value (), [.send o.id text (.value ())]⟩
        (.opened o)
  | kept {o : Opening} {s : SessionState} {f : NativeFailure} :
      Speaks config (.opened o)
        ⟨s, .disconnect, .failure (.native f), [.leave o.id (.failure f)]⟩
        (.opened o)
  | uncleared {o : Opening} {s : SessionState} {f : NativeFailure} :
      Speaks config (.opened o)
        ⟨s, .disconnect, .failure (.native f),
          [.leave o.id (.value ()), .clearCallbacks (.failure f)]⟩
        .idle
  | closed {o : Opening} {s : SessionState} :
      Speaks config (.opened o)
        ⟨s, .disconnect, .value (), [.leave o.id (.value ()), .clearCallbacks (.value ())]⟩
        .idle

/-- A word of the protocol: the scenes of a run, each in a state of the phase that the ones before it
have led to, and speaking in it. -/
inductive Conversation (config : BusConfig) : Phase → List Scene → Phase → Prop where
  | nil (p : Phase) : Conversation config p [] p
  | cons {p p' p'' : Phase} {scene : Scene} {scenes : List Scene} (shown : p.Shows scene.state)
      (first : Speaks config p scene p') (rest : Conversation config p' scenes p'') :
      Conversation config p (scene :: scenes) p''

inductive Phase.Departs : Phase → List Exchange → Prop where
  | idle : Departs .idle []
  | opened {o : Opening} (r r' : Outcome NativeFailure Unit) :
      Departs (.opened o) [.leave o.id r, .clearCallbacks r']

/-- The bus returns from a leave of the session, and then from clearing the callbacks. -/
def NativeBus.LetsGo {β : Type} [NativeBus β] (bus : β) (id : SessionId) : Prop :=
  (leave id bus).outcome ≠ .panic ∧ (clearCallbacks (leave id bus).bus).outcome ≠ .panic

theorem Loopback.Calm.letsGo {l : Loopback} (h : l.Calm) (id : SessionId) :
    NativeBus.LetsGo l id :=
  have hleft := returns_leave id h
  ⟨hleft.outcome, (returns_clearCallbacks hleft.bus).outcome⟩

namespace SessionState

theorem Serves.eq_established {o : Opening} {state : SessionState} {s : Session}
    (h : state.Serves o) (hsession : state.session? = some s) :
    state = .established ⟨o.mode, o.id, o.sessionName, o.handle, s.establishedAt⟩ := by
  obtain ⟨mode, sessionName, handle, id⟩ := o
  cases state with
  | disconnected => exact h.elim
  | connecting a => cases hsession
  | owner s' =>
    cases hsession
    obtain ⟨mode', id', name', handle', since⟩ := s
    obtain ⟨rfl, rfl, rfl, rfl, rfl⟩ := h
    rfl
  | joined s' =>
    cases hsession
    obtain ⟨mode', id', name', handle', since⟩ := s
    obtain ⟨rfl, rfl, rfl, rfl, rfl⟩ := h
    rfl

end SessionState

namespace Controller

variable {β : Type}

/-! ### Phases of a controller -/

def Rests (c : Controller β) : Phase → Prop
  | .idle => c.link = none ∧ c.state = .disconnected
  | .opened o => ∃ link, c.link = some link ∧ link.sessionName = o.sessionName ∧ c.state.Serves o

end Controller

def Phase.opening? : Phase → Option Opening
  | .idle => none
  | .opened o => some o

namespace Controller

variable {β : Type} {c c' : Controller β} {p : Phase}

theorem Rests.coupled (h : c.Rests p) : c.Coupled p.opening? := by
  cases p with
  | idle => exact .rests h.1 h.2
  | opened o =>
    obtain ⟨link, hlink, hname, hserves⟩ := h
    constructor
    · intro hnone
      rw [hlink] at hnone
      cases hnone
    · intro link' hlink'
      rw [hlink] at hlink'
      cases hlink'
      exact ⟨o, rfl, hname, hserves⟩

theorem Coupled.rests_idle {last : Option Opening} (h : c.Coupled last) (hlink : c.link = none) :
    c.Rests .idle :=
  ⟨hlink, h.idle hlink⟩

theorem Coupled.rests_opened {o : Opening} {link : Link} (h : c.Coupled (some o))
    (hlink : c.link = some link) : c.Rests (.opened o) := by
  obtain ⟨o', hlast, hname, hserves⟩ := h.active link hlink
  cases hlast
  exact ⟨link, hlink, hname, hserves⟩

theorem Rests.stays (h : c.Rests p) (hcoupled : c'.Coupled p.opening?) (hlink : c'.link = c.link) :
    c'.Rests p := by
  cases p with
  | idle => exact hcoupled.rests_idle (hlink.trans h.1)
  | opened o =>
    obtain ⟨link, hsome, -⟩ := h
    exact hcoupled.rests_opened (hlink.trans hsome)

theorem Rests.shows (h : c.Rests p) : p.Shows c.state := by
  cases p with
  | idle => exact h.2
  | opened o =>
    obtain ⟨link, -, -, hserves⟩ := h
    exact hserves

theorem Rests.eq_idle (h : c.Rests p) (hstate : c.state = .disconnected) : p = .idle := by
  cases p with
  | idle => rfl
  | opened o =>
    obtain ⟨link, -, -, hserves⟩ := h
    exact absurd hstate hserves.ne_disconnected

theorem Rests.eq_opened (h : c.Rests p) (hlink : c.link.isSome = true) :
    ∃ o, p = .opened o ∧ c.state.Serves o := by
  cases p with
  | idle =>
    rw [h.1] at hlink
    cases hlink
  | opened o =>
    obtain ⟨link, -, -, hserves⟩ := h
    exact ⟨o, rfl, hserves⟩

/-! ### Single operations -/

structure Spoke (c : Controller β) (p : Phase) (a : Action) (o : Outcome ControlError Unit)
    (c' : Controller β) : Prop where
  config : c'.config = c.config
  calls : ∃ calls, c'.world.exchanges.toList = c.world.exchanges.toList ++ calls ∧
    ∃ p', Speaks c.config p ⟨c.state, a, o, calls⟩ p' ∧ c'.Rests p'

theorem Rests.spoke_refused {a : Action} {e : ControlError} (h : c.Rests p)
    (hrejects : Rejects c.limit false c.state a e) : c.Spoke p a (.failure e) c :=
  ⟨rfl, [], (List.append_nil _).symm, p, .refused hrejects, h⟩

variable [NativeBus β] {mode : SessionMode} {sessionName handle : String}

theorem Asked.calls {o : Outcome NativeFailure SessionId} {w₁ w₂ : World β}
    (hasked : Asked c mode sessionName handle o w₁ w₂) :
    w₂.exchanges.toList = c.world.exchanges.toList ++
      [.registerCallbacks ⟨c.world.anchors.next⟩ (.value ()),
        .openSession mode c.config.target sessionName o] := by
  rw [hasked.exchanges]
  simp

theorem Asked.calls_cleared {o : Outcome NativeFailure SessionId}
    {r : Outcome NativeFailure Unit} {w₁ w₂ w₃ : World β}
    (hasked : Asked c mode sessionName handle o w₁ w₂) (hclear : w₂.clearCallbacks true = (r, w₃)) :
    w₃.exchanges.toList = c.world.exchanges.toList ++
      [.registerCallbacks ⟨c.world.anchors.next⟩ (.value ()),
        .openSession mode c.config.target sessionName o, .clearCallbacks r] := by
  rw [(World.performed hclear).exchanges, hasked.exchanges]
  simp

theorem Rests.connect (h : c.Rests p) (hcalm : (c.connect mode sessionName handle).1 ≠ .panic) :
    c.Spoke p (.connect mode sessionName handle) (c.connect mode sessionName handle).1
      (c.connect mode sessionName handle).2 := by
  have hconnects := connect_connects hcalm
  have hcoupled := h.coupled.connect hcalm
  rcases hresult : c.connect mode sessionName handle with ⟨outcome, c'⟩
  rw [hresult] at hconnects hcoupled
  have hidle (hallowed : connectRefusal? false c.state sessionName handle = none) : p = .idle :=
    h.eq_idle (disconnected_of_allowed hallowed)
  cases hconnects with
  | refused hrefused => exact h.spoke_refused (rejects_connect_iff.mpr hrefused)
  | unregistered hallowed hregister =>
    cases hidle hallowed
    have hcalls := (World.performed hregister).exchanges
    exact ⟨rfl, [_], (congrArg Array.toList hcalls).trans Array.toList_push, _, .unregistered,
      hcoupled.rests_idle h.1⟩
  | withdrawn hasked hclear =>
    cases hidle hasked.allowed
    have hcalls := hasked.calls_cleared hclear
    exact ⟨rfl, _, hcalls, _, .unopened, hcoupled.rests_idle h.1⟩
  | leaked hasked hclear =>
    cases hidle hasked.allowed
    have hcalls := hasked.calls_cleared hclear
    exact ⟨rfl, _, hcalls, _, .unopened, hcoupled.rests_idle h.1⟩
  | opened hasked =>
    cases hidle hasked.allowed
    rw [opening?_of_opened hresult hasked.exchanges] at hcoupled
    exact ⟨rfl, _, hasked.calls, _, .opened, hcoupled.rests_opened rfl⟩

theorem Spoken.eq_established {text : String} {session : Session} {r : Outcome NativeFailure Unit}
    {w : World β} (hspoken : Spoken c text session r w) {o : Opening} (hserves : c.state.Serves o) :
    session.id = o.id ∧
      c.state = .established ⟨o.mode, o.id, o.sessionName, o.handle, session.establishedAt⟩ := by
  have hstate := hserves.eq_established hspoken.established
  have hsession := hspoken.established
  rw [hstate, SessionState.session?_established] at hsession
  exact ⟨(congrArg Session.id (Option.some.inj hsession)).symm, hstate⟩

theorem Rests.send {text : String} (h : c.Rests p) (hcalm : (c.send text).1 ≠ .panic) :
    c.Spoke p (.send text) (c.send text).1 (c.send text).2 := by
  have hsends := send_sends hcalm
  have hcoupled := h.coupled.send hcalm
  generalize (c.send text).1 = outcome at hsends ⊢
  generalize (c.send text).2 = c' at hsends hcoupled ⊢
  cases hsends with
  | tooLong hlong => exact h.spoke_refused (.messageTooLong hlong)
  | unestablished hfits hsession =>
    exact h.spoke_refused (.notEstablished hfits (SessionState.session?_eq_none_iff.mp hsession))
  | unlinked _ hsession hlink =>
    rw [h.coupled.idle hlink] at hsession
    cases hsession
  | failed hspoken =>
    obtain ⟨o, rfl, hserves⟩ := h.eq_opened hspoken.linked
    obtain ⟨hid, hstate⟩ := hspoken.eq_established hserves
    have hcalls := (World.performed hspoken.sent).exchanges
    rw [hid] at hcalls
    refine ⟨rfl, [_], (congrArg Array.toList hcalls).trans Array.toList_push, _, ?_,
      h.stays hcoupled rfl⟩
    rw [hstate]
    exact .unsent
  | sent hspoken =>
    obtain ⟨o, rfl, hserves⟩ := h.eq_opened hspoken.linked
    obtain ⟨hid, hstate⟩ := hspoken.eq_established hserves
    have hcalls := (World.performed hspoken.sent).exchanges
    rw [hid] at hcalls
    refine ⟨rfl, [_], (congrArg Array.toList hcalls).trans Array.toList_push, _, ?_,
      h.stays hcoupled rfl⟩
    rw [hstate]
    exact .sent

theorem leave_of_serves {o : Opening} {attended : Bool} {r : Outcome NativeFailure Unit}
    {w w' : World β} (hserves : c.state.Serves o)
    (hleave : leaveIfKnown attended c.state.sessionId? w = (r, w')) :
    w'.exchanges = w.exchanges.push (.leave o.id r) := by
  rw [leaveIfKnown_known hserves.sessionId?] at hleave
  exact (World.performed hleave).exchanges

theorem Left.exchanges {link : Link} {o : Opening} {r : Outcome NativeFailure Unit}
    {w₁ w₂ : World β} (hleft : Left c link r w₁ w₂) (hserves : c.state.Serves o) :
    w₂.exchanges.toList =
      c.world.exchanges.toList ++ [.leave o.id (.value ()), .clearCallbacks r] := by
  have hcalls := (World.performed hleft.cleared).exchanges
  rw [leave_of_serves hserves hleft.left] at hcalls
  rw [hcalls]
  simp

theorem Rests.disconnect (h : c.Rests p) (hcalm : c.disconnect.1 ≠ .panic) :
    c.Spoke p .disconnect c.disconnect.1 c.disconnect.2 := by
  have hdisconnects := disconnect_disconnects hcalm
  have hcoupled := h.coupled.disconnect hcalm
  generalize c.disconnect.1 = outcome at hdisconnects ⊢
  generalize c.disconnect.2 = c' at hdisconnects hcoupled ⊢
  cases hdisconnects with
  | refused hidle =>
    have hstate : c.state = .disconnected :=
      hidle.elim SessionState.isDisconnected_iff.mp h.coupled.idle
    exact h.spoke_refused (.notConnected hstate)
  | kept hactive hlink hleave =>
    obtain ⟨o, rfl, hserves⟩ := h.eq_opened (Option.isSome_of_eq_some hlink)
    have hcalls := leave_of_serves hserves hleave
    exact ⟨rfl, [_], (congrArg Array.toList hcalls).trans Array.toList_push, _, .kept,
      h.stays hcoupled rfl⟩
  | cleared hleft =>
    obtain ⟨o, rfl, hserves⟩ := h.eq_opened (Option.isSome_of_eq_some hleft.linked)
    exact ⟨rfl, _, hleft.exchanges hserves, _, .closed, hcoupled.rests_idle rfl⟩
  | leaked hleft =>
    obtain ⟨o, rfl, hserves⟩ := h.eq_opened (Option.isSome_of_eq_some hleft.linked)
    exact ⟨rfl, _, hleft.exchanges hserves, _, .uncleared, hcoupled.rests_idle rfl⟩

/-- Every action that returns speaks the protocol. -/
theorem Rests.act {a : Action} (h : c.Rests p) (hcalm : (c.act a).1 ≠ .panic) :
    c.Spoke p a (c.act a).1 (c.act a).2 := by
  cases hcontrol : a.isControl with
  | false =>
    obtain ⟨f, hact, hstate⟩ := act_of_not_control (c := c) hcontrol
    rw [hact]
    have hcoupled : (c.onBridge f).Coupled p.opening? := h.coupled.stays rfl hstate
    exact ⟨rfl, [], (List.append_nil _).symm, p, .quiet hcontrol, h.stays hcoupled rfl⟩
  | true =>
    cases a with
    | connect mode sessionName handle => exact h.connect hcalm
    | send text => exact h.send hcalm
    | disconnect => exact h.disconnect hcalm
    | _ => cases hcontrol

/-! ### Runs -/

def scenes (c : Controller β) : List Action → List Scene
  | [] => []
  | a :: actions => ⟨c.state, c.step a⟩ :: (c.act a).2.scenes actions

def spoken (scenes : List Scene) : List Exchange :=
  scenes.flatMap (·.step.exchanges)

theorem step_of_appended {a : Action} {calls : List Exchange}
    (h : (c.act a).2.world.exchanges.toList = c.world.exchanges.toList ++ calls) :
    c.step a = ⟨a, (c.act a).1, calls⟩ := by
  unfold step
  rw [h, ← Array.length_toList, List.drop_left]

/-- A run that starts in a phase is a word of the protocol from that phase on. -/
theorem Rests.run (h : c.Rests p) (actions : List Action)
    (hcalm : Outcome.panic ∉ (c.run actions).1) :
    ∃ p', Conversation c.config p (c.scenes actions) p' ∧ (c.run actions).2.Rests p' ∧
      (c.run actions).2.world.exchanges.toList =
        c.world.exchanges.toList ++ spoken (c.scenes actions) := by
  induction actions generalizing c p with
  | nil => exact ⟨p, .nil p, h, (List.append_nil _).symm⟩
  | cons a actions ih =>
    rw [run_cons, List.mem_cons, not_or] at hcalm
    obtain ⟨hconfig, calls, hcalls, p', hspeaks, hrests⟩ := h.act (Ne.symm hcalm.1)
    obtain ⟨p'', hrest, hend, hrecord⟩ := ih hrests hcalm.2
    rw [hconfig] at hrest
    rw [← step_of_appended hcalls] at hspeaks
    refine ⟨p'', .cons h.shows hspeaks hrest, hend, ?_⟩
    rw [run_cons, hrecord, hcalls, List.append_assoc, scenes, step_of_appended hcalls]
    rfl

theorem Abandoned.exchanges {link : Link} {o : Opening} {r r' : Outcome NativeFailure Unit}
    {w₁ w₂ : World β} (habandoned : Abandoned c link r r' w₁ w₂) (hserves : c.state.Serves o) :
    w₂.exchanges.toList = c.world.exchanges.toList ++ [.leave o.id r, .clearCallbacks r'] := by
  have hcalls := (World.performed habandoned.cleared).exchanges
  rw [leave_of_serves hserves habandoned.left] at hcalls
  rw [hcalls, muted]
  simp

/-- Giving the controller up leaves the session that is open, and only that. -/
theorem Rests.release (h : c.Rests p) (hreturned : c.release.1 = false) :
    ∃ calls, c.release.2.exchanges.toList = c.world.exchanges.toList ++ calls ∧ p.Departs calls := by
  have hreleases := c.release_releases
  generalize c.release.1 = panicked at hreleases hreturned
  generalize c.release.2 = w at hreleases ⊢
  cases hreleases with
  | unlinked hlink =>
    cases h.eq_idle (h.coupled.idle hlink)
    exact ⟨[], (List.append_nil _).symm, .idle⟩
  | broken => cases hreturned
  | stopped => cases hreturned
  | released habandoned =>
    obtain ⟨o, rfl, hserves⟩ := h.eq_opened (Option.isSome_of_eq_some habandoned.linked)
    exact ⟨_, habandoned.exchanges hserves, .opened _ _⟩
  | leaked habandoned =>
    obtain ⟨o, rfl, hserves⟩ := h.eq_opened (Option.isSome_of_eq_some habandoned.linked)
    exact ⟨_, habandoned.exchanges hserves, .opened _ _⟩

theorem leave_outcome {attended : Bool} {id : SessionId} {r : Outcome NativeFailure Unit}
    {w w' : World β} (hid : c.state.sessionId? = some id)
    (hleave : leaveIfKnown attended c.state.sessionId? w = (r, w')) :
    (NativeBus.leave id w.bus).outcome = r ∧ w'.bus = (NativeBus.leave id w.bus).bus := by
  rw [leaveIfKnown_known hid] at hleave
  refine ⟨congrArg Prod.fst hleave, ?_⟩
  rw [← show _ = w' from congrArg Prod.snd hleave]
  exact World.bus_perform _ _ _ _

theorem Abandoned.letsGo_iff {link : Link} {id : SessionId} {r r' : Outcome NativeFailure Unit}
    {w₁ w₂ : World β} (habandoned : Abandoned c link r r' w₁ w₂)
    (hid : c.state.sessionId? = some id) :
    NativeBus.LetsGo c.world.bus id ↔ r' ≠ .panic := by
  obtain ⟨hleft, hbus⟩ := leave_outcome hid habandoned.left
  have hcleared : (NativeBus.clearCallbacks w₁.bus).outcome = r' :=
    congrArg Prod.fst habandoned.cleared
  rw [hbus] at hcleared
  unfold NativeBus.LetsGo
  change (NativeBus.leave id c.muted.bus).outcome ≠ .panic ∧
    (NativeBus.clearCallbacks (NativeBus.leave id c.muted.bus).bus).outcome ≠ .panic ↔ _
  rw [hleft, hcleared]
  exact and_iff_right habandoned.returned

/-- Giving the controller up panics only if one of its two calls does. -/
theorem Rests.release_returns_iff (h : c.Rests p) :
    c.release.1 = false ↔
      ∀ id, c.state.sessionId? = some id → NativeBus.LetsGo c.world.bus id := by
  have hopen {link : Link} (hlink : c.link = some link) : ∃ id, c.state.sessionId? = some id := by
    obtain ⟨o, -, hserves⟩ := h.eq_opened (Option.isSome_of_eq_some hlink)
    exact ⟨o.id, hserves.sessionId?⟩
  have hreleases := c.release_releases
  generalize c.release.1 = panicked at hreleases ⊢
  generalize c.release.2 = w at hreleases
  cases hreleases with
  | unlinked hlink =>
    rw [h.coupled.idle hlink]
    exact iff_of_true rfl nofun
  | broken hlink hleave =>
    obtain ⟨id, hid⟩ := hopen hlink
    refine iff_of_false nofun fun hletsGo => ?_
    exact (hletsGo id hid).1 (leave_outcome hid hleave).1
  | stopped habandoned =>
    obtain ⟨id, hid⟩ := hopen habandoned.linked
    refine iff_of_false nofun fun hletsGo => ?_
    exact (habandoned.letsGo_iff hid).mp (hletsGo id hid) rfl
  | released habandoned =>
    refine iff_of_true rfl fun id hid => ?_
    exact (habandoned.letsGo_iff hid).mpr nofun
  | leaked habandoned =>
    refine iff_of_true rfl fun id hid => ?_
    exact (habandoned.letsGo_iff hid).mpr nofun

/-- On every bus that returns from its calls, whatever they come to, the native calls of a run are a
word of the protocol: a connect registers the callbacks and then opens the session in the mode, on the
target and under the name that it was asked for, and takes the callbacks back if that fails; the open
session is all that is sent to, once it has come into being, and left; when it has been left the
callbacks are cleared, and nothing else is called before the next connect. An operation that makes no
call was ruled out by its arguments or by the state of its phase. The word is all that the bus has been
asked. Giving the controller up returns if the bus does, and then has left the session that is open and
cleared the callbacks, whatever the leave came to, or called nothing. -/
theorem native_calls_follow_protocol {config : BusConfig} {bus : β} {now : Timestamp}
    {opened : String} (hcreate : create config bus now opened = .value c) (actions : List Action)
    (hcalm : Outcome.panic ∉ (c.run actions).1) :
    let c' := (c.run actions).2
    let word := spoken (c.scenes actions)
    ∃ p, Conversation config .idle (c.scenes actions) p ∧ c'.Rests p ∧
      c'.world.exchanges.toList = word ∧
      (∀ (γ : Type) (view : Exchange → γ) (log : β → List γ), Logs view log →
        log c'.world.bus = log bus ++ word.map view) ∧
      (c'.release.1 = false ↔
        ∀ id, c'.state.sessionId? = some id → NativeBus.LetsGo c'.world.bus id) ∧
      (c'.release.1 = false → ∃ calls, c'.release.2.exchanges.toList = word ++ calls ∧
        p.Departs calls) := by
  intro c' word
  obtain ⟨-, feed, -, rfl⟩ := create_eq_value_iff.mp hcreate
  have hstart : Rests ⟨config, .start bus (.start feed now opened), none⟩ .idle := ⟨rfl, rfl⟩
  obtain ⟨p, hconversation, hrests, hrecord⟩ := hstart.run actions hcalm
  rw [show (World.start bus (.start feed now opened)).exchanges.toList = [] from rfl,
    List.nil_append] at hrecord
  refine ⟨p, hconversation, hrests, hrecord, ?_, hrests.release_returns_iff, ?_⟩
  · intro γ view log hlogs
    have hempty : (World.start bus (.start feed now opened)).Tracked
        fun b calls => log b = log bus ++ calls.map view := (List.append_nil _).symm
    have htracked := tracked_run (hlogs.tracks (log bus)) hempty actions hcalm
    unfold World.Tracked at htracked
    rw [hrecord] at htracked
    exact htracked
  · intro hreturned
    obtain ⟨calls, hcalls, hdeparts⟩ := hrests.release hreturned
    exact ⟨calls, hcalls.trans (congrArg (· ++ calls) hrecord), hdeparts⟩

theorem native_calls_follow_protocol_reconnecting :
    create .standard Loopback.idle ⟨0⟩ "noon" = .value (standard Loopback.idle ⟨0⟩ "noon") ∧
      Outcome.panic ∉ ((standard Loopback.idle ⟨0⟩ "noon").run reconnecting).1 ∧
      ((standard Loopback.idle ⟨0⟩ "noon").run reconnecting).2.world.bus.operations.toList =
        (spoken ((standard Loopback.idle ⟨0⟩ "noon").scenes reconnecting)).map
          Exchange.operation ∧
      ∃ p calls, Conversation .standard .idle
          ((standard Loopback.idle ⟨0⟩ "noon").scenes reconnecting) p ∧
        ((standard Loopback.idle ⟨0⟩ "noon").run reconnecting).2.release.2.exchanges.toList =
          spoken ((standard Loopback.idle ⟨0⟩ "noon").scenes reconnecting) ++ calls ∧
        p.Departs calls ∧ calls.map Exchange.operation = [.leave, .clearCallbacks] := by
  have hcreate := create_standard Loopback.idle ⟨0⟩ "noon"
  have hcalm : Outcome.panic ∉ ((standard Loopback.idle ⟨0⟩ "noon").run reconnecting).1 := by
    decide +kernel
  have hhook : ((standard Loopback.idle ⟨0⟩ "noon").run reconnecting).2.world.bus.Calm := by
    unfold Loopback.Calm
    decide +kernel
  have hoperations :
      ((standard Loopback.idle ⟨0⟩ "noon").run reconnecting).2.release.2.exchanges.toList.map
          Exchange.operation =
        (spoken ((standard Loopback.idle ⟨0⟩ "noon").scenes reconnecting)).map
          Exchange.operation ++ [.leave, .clearCallbacks] := by
    decide +kernel
  obtain ⟨p, hconversation, -, -, hlog, hreturns, hdeparts⟩ :=
    native_calls_follow_protocol hcreate reconnecting hcalm
  obtain ⟨calls, hcalls, hdeparts⟩ := hdeparts (hreturns.mpr fun id _ => hhook.letsGo id)
  rw [hcalls, List.map_append] at hoperations
  exact ⟨hcreate, hcalm, hlog _ _ _ Loopback.logs_operations, p, calls, hconversation, hcalls,
    hdeparts, List.append_cancel_left hoperations⟩

end Controller

end SessionBridge
