import SessionBridge.Bus.Scripted
import SessionBridge.Proofs.Bridge.Replica
import SessionBridge.Proofs.Control.Archive
import SessionBridge.Proofs.Control.Balance
import SessionBridge.Proofs.Control.Turn

/-! The ways a disconnect can go. A session that could not be left stays with everything that belongs to
it; once it has been left it is over on this side, and what the clear returns decides about the anchor
alone. The callbacks that are heard meanwhile take their effect in either case. -/
namespace SessionBridge

namespace Bridge

variable {b : Bridge}

def partings (b : Bridge) : Nat :=
  b.feed.published.toList.count .disconnected

theorem partings_publish (b : Bridge) {e : BridgeEvent} (he : e ≠ .disconnected) :
    (b.publish e).partings = b.partings := by
  have hpublished : (b.publish e).feed.published.toList = b.feed.published.toList ++ [e] :=
    Array.toList_push
  unfold partings
  rw [hpublished, List.count_append, List.count_singleton, if_neg (by simpa using he)]
  rfl

theorem partings_record (b : Bridge) (origin : Origin) (kind : InformType) (text : String) :
    (b.record origin kind text).partings = b.partings :=
  b.partings_publish (e := .transcript (b.transcript.place (b.line origin kind text))) nofun

theorem steady_partings (n : Nat) : Steady fun b => b.partings = n where
  record b origin kind text _ h := (b.partings_record origin kind text).trans h
  showed _ _ h := h
  enroll b p _ h := by
    refine (partings_publish _ (e := .participantJoined p) nofun).trans ?_
    exact (partings_record { b with registry := b.registry.insert p } .system .status _).trans h
  join b h := by
    have hadvances := b.advance_advances .participantJoined
    generalize b.advance .participantJoined = b' at hadvances
    cases hadvances with
    | rejected => exact h
    | moved => exact h
    | @established s =>
      refine (partings_publish _ (e := .sessionEstablished s) nofun).trans ?_
      exact (partings_record { b with state := .established s, established := b.established + 1 }
        .system .status _).trans h

def ended (b : Bridge) (text : String) : Bridge :=
  (({ b with state := .disconnected } : Bridge).report .status text).publish .disconnected

theorem toList_ended (b : Bridge) (text : String) :
    (b.ended text).transcript.toList =
      b.transcript.toList ++ [⟨b.line .system .status text, b.transcript.size⟩] :=
  Transcript.toList_append _ _

theorem published_ended (b : Bridge) (text : String) :
    (b.ended text).feed.published.toList = b.feed.published.toList ++
      [.transcript ⟨b.line .system .status text, b.transcript.size⟩, .disconnected] := by
  unfold ended publish report record feed Journal.publish Journal.append Feed.publish
  dsimp only
  rw [Array.toList_push, Array.toList_push, List.append_assoc]
  rfl

theorem partings_ended (b : Bridge) (text : String) : (b.ended text).partings = b.partings + 1 := by
  unfold partings
  rw [published_ended, List.count_append]
  rfl

end Bridge

namespace Ledger

variable {a : Anchors} {exchanges : Array Exchange} {id : AnchorId}

theorem isHeld (h : Ledger a exchanges (some id)) : a.isHeld id = true := by
  unfold Anchors.isHeld
  rw [h.held]
  exact List.contains_iff_mem.mpr List.mem_cons_self

theorem isLive_release (h : Ledger a exchanges (some id)) : (a.release id).isLive id = false := by
  have hdistinct := h.distinct
  rw [h.held] at hdistinct
  have hleaked : id ∉ a.leaked := (List.nodup_cons.mp hdistinct).1
  rw [← Bool.not_eq_true, Anchors.isLive_iff, h.release.held]
  rintro (hheld | hmem)
  · cases hheld
  · exact hleaked hmem

theorem isLive_leak (h : Ledger a exchanges (some id)) : (a.leak id).isLive id = true := by
  have hheld : id ∈ a.held := List.contains_iff_mem.mp h.isHeld
  rw [Anchors.isLive_leak hheld, Anchors.isLive_iff]
  exact .inl hheld

end Ledger

namespace SessionState

variable {o : Opening} {s : SessionState}

/-- Whoever joins a session that is open finds it established, or establishes it. -/
theorem Serves.canSend_joined (h : s.Serves o) (now : Timestamp) :
    (s.after now .participantJoined).canSend = true := by
  cases s with
  | disconnected => exact h.elim
  | owner s => rfl
  | joined s => rfl
  | connecting a =>
    have hjoin : (connecting a).after now .participantJoined = established (a.establish o.id now) := by
      simp [after, next?, h.2.2.2]
    rw [hjoin]
    exact congrArg Option.isSome (session?_established _)

end SessionState

namespace Controller

variable {β : Type} {c : Controller β} {link : Link} {id : SessionId} {o : Opening}

def hearing (c : Controller β) (calls : List Callback) : Bridge :=
  calls.foldl Bridge.receive c.bridge

theorem serves_hearing (hserves : c.state.Serves o) (calls : List Callback) :
    (c.hearing calls).state.Serves o :=
  Bridge.keeps_callbacks (SessionState.keptByJoins_serves o) calls hserves

theorem established_hearing (hserves : c.state.Serves o) (calls : List Callback) :
    (c.hearing calls).established =
      c.bridge.established + (!c.state.canSend && c.bridge.tells calls).toNat := by
  have hcount := c.bridge.established_callbacks calls
  have hstate := c.bridge.state_callbacks calls
  change (c.hearing calls).established + c.state.canSend.toNat =
    c.bridge.established + (c.hearing calls).state.canSend.toNat at hcount
  change (c.hearing calls).state = if c.bridge.tells calls then
    c.state.after c.bridge.clock .participantJoined else c.state at hstate
  have hjoined := hserves.canSend_joined c.bridge.clock
  rw [hstate] at hcount
  cases htells : c.bridge.tells calls with
  | false =>
    rw [htells, if_neg Bool.false_ne_true] at hcount
    rw [Bool.and_false]
    exact Nat.add_right_cancel hcount
  | true =>
    rw [htells, if_pos rfl, hjoined] at hcount
    cases hsend : c.state.canSend <;> rw [hsend] at hcount
    · exact hcount
    · exact Nat.add_right_cancel hcount

theorem isDisconnected_of_serves (hserves : c.state.Serves o) : c.state.isDisconnected = false :=
  Bool.eq_false_iff.mpr (mt SessionState.isDisconnected_iff.mp hserves.ne_disconnected)

theorem Accounted.ledger (h : c.Accounted) (hlink : c.link = some link) :
    Ledger c.world.anchors c.world.exchanges (some link.anchor) := by
  have hbalanced := h.balanced
  rwa [hlink] at hbalanced

theorem bridge_conclude {w : World β} (hserves : w.bridge.state.Serves o) (link : Link) :
    (conclude link w).bridge =
      w.bridge.ended ("Disconnected from " ++ link.target.wellKnownName link.sessionName) := by
  have hadvance : w.bridge.advance .disconnect = { w.bridge with state := .disconnected } := by
    obtain ⟨state, hadvance, -⟩ := w.bridge.advance_disconnect
    have hstate := w.bridge.state_advance .disconnect
    rw [(hserves.disconnects _).2, hadvance] at hstate
    rw [hadvance, ← hstate]
  unfold conclude World.publish World.report World.advance
  dsimp only
  rw [hadvance]
  rfl

variable [NativeBus β]

def leaving (c : Controller β) (id : SessionId) : Turn β Unit :=
  NativeBus.leave id c.world.bus

def clearing (c : Controller β) (id : SessionId) : Turn β Unit :=
  NativeBus.clearCallbacks (c.leaving id).bus

def farewell (c : Controller β) (id : SessionId) : List Callback :=
  (c.leaving id).heard ++ (c.clearing id).heard

theorem exists_left (c : Controller β) (id : SessionId) :
    ∃ w₁, c.world.leave true id = ((c.leaving id).outcome, w₁) ∧ w₁.bus = (c.leaving id).bus ∧
      w₁.bridge = c.hearing (c.leaving id).heard ∧
      w₁.anchors = c.world.anchors ∧
      w₁.exchanges = c.world.exchanges.push (.leave id (c.leaving id).outcome) := by
  rcases hleave : c.world.leave true id with ⟨o, w₁⟩
  obtain ⟨rfl, hbus, hbridge⟩ := World.took hleave
  have hperformed := World.performed hleave
  exact ⟨w₁, rfl, hbus, hbridge, hperformed.anchors, hperformed.exchanges⟩

theorem disconnect_of_leave (hactive : c.state.isDisconnected = false) (hlink : c.link = some link)
    (hid : c.state.sessionId? = some id) :
    c.disconnect =
      match c.world.leave true id with
      | (.panic, w) => (.panic, { c with world := w })
      | (.failure f, w) => (.failure (.native f), { c with world := w })
      | (.value (), w) =>
        match w.clearCallbacks true with
        | (.panic, w) => (.panic, { c with world := w })
        | (.value (), w) =>
          (.value (), { c with world := (conclude link w).releaseAnchor link.anchor, link := none })
        | (.failure f, w) =>
          (.failure (.native f),
            { c with world := (conclude link w).leakAnchor link.anchor, link := none }) := by
  unfold disconnect
  rw [hlink, leaveIfKnown_known hid]
  generalize c.state.isDisconnected = idle at hactive ⊢
  subst hactive
  rfl

theorem disconnect_of_failure {f : NativeFailure} (hactive : c.state.isDisconnected = false)
    (hlink : c.link = some link) (hid : c.state.sessionId? = some id)
    (hfail : (c.leaving id).outcome = .failure f) :
    ∃ w, c.disconnect = (.failure (.native f), { c with world := w }) ∧ w.bus = (c.leaving id).bus ∧
      w.bridge = c.hearing (c.leaving id).heard ∧ w.anchors = c.world.anchors ∧
      w.exchanges = c.world.exchanges.push (.leave id (.failure f)) := by
  obtain ⟨w, hleave, hbus, hbridge, hanchors, hexchanges⟩ := c.exists_left id
  rw [hfail] at hleave hexchanges
  refine ⟨w, ?_, hbus, hbridge, hanchors, hexchanges⟩
  rw [disconnect_of_leave hactive hlink hid, hleave]

theorem disconnect_of_left (hactive : c.state.isDisconnected = false) (hlink : c.link = some link)
    (hid : c.state.sessionId? = some id) (hleft : (c.leaving id).outcome = .value ()) :
    ∃ w, w.bus = (c.clearing id).bus ∧ w.anchors = c.world.anchors ∧
      w.bridge = c.hearing (c.farewell id) ∧
      c.disconnect =
        match (c.clearing id).outcome with
        | .panic => (.panic, { c with world := w })
        | .value () =>
          (.value (), { c with world := (conclude link w).releaseAnchor link.anchor, link := none })
        | .failure f =>
          (.failure (.native f),
            { c with world := (conclude link w).leakAnchor link.anchor, link := none }) := by
  obtain ⟨w₁, hleave, hbus, hbridge, hanchors, -⟩ := c.exists_left id
  rw [hleft] at hleave
  rcases hclear : w₁.clearCallbacks true with ⟨o, w⟩
  have htook := World.took hclear
  rw [hbus] at htook
  obtain ⟨rfl, hbus₂, hbridge₂⟩ := htook
  refine ⟨w, hbus₂, (World.performed hclear).anchors.trans hanchors, ?_, ?_⟩
  · rw [hbridge₂, hbridge, hearing, hearing, farewell, List.foldl_append]
    rfl
  · rw [disconnect_of_leave hactive hlink hid, hleave]
    dsimp only
    rw [hclear]
    unfold clearing
    cases (NativeBus.clearCallbacks (c.leaving id).bus).outcome <;> rfl

def lastEntry (c : Controller β) (link : Link) (calls : List Callback) : Entry :=
  ⟨⟨c.bridge.clock, .system, .status,
    "Disconnected from " ++ (c.config.namePrefix ++ link.sessionName)⟩,
    (c.hearing calls).transcript.size⟩

structure Stays (c : Controller β) (link : Link) (o : Opening) (f : NativeFailure) : Prop where
  outcome : c.disconnect.1 = .failure (.native f)
  linked : c.disconnect.2.link = some link
  anchors : c.disconnect.2.world.anchors = c.world.anchors
  live : c.world.anchors.isLive link.anchor = true
  bus : c.disconnect.2.world.bus = (c.leaving o.id).bus
  exchanges : c.disconnect.2.world.exchanges = c.world.exchanges.push (.leave o.id (.failure f))
  bridge : c.disconnect.2.bridge = c.hearing (c.leaving o.id).heard
  state : c.disconnect.2.state = if c.bridge.tells (c.leaving o.id).heard then
    c.state.after c.bridge.clock .participantJoined else c.state
  serves : c.disconnect.2.state.Serves o

/-- What becomes of a session that has been left and whose clear returned, where `calls` have been heard
meanwhile. -/
structure Ends (c : Controller β) (link : Link) (o : Opening) (calls : List Callback) : Prop where
  state : c.disconnect.2.state = .disconnected
  unlinked : c.disconnect.2.link = none
  bus : c.disconnect.2.world.bus = (c.clearing o.id).bus
  transcript : c.disconnect.2.bridge.transcript.toList =
    (c.hearing calls).transcript.toList ++ [c.lastEntry link calls]
  kept : c.bridge.transcript.toList <+: (c.hearing calls).transcript.toList
  published : c.disconnect.2.bridge.feed.published.toList =
    (c.hearing calls).feed.published.toList ++
      [.transcript (c.lastEntry link calls), .disconnected]
  partings : c.disconnect.2.bridge.partings = c.bridge.partings + 1
  registry : c.disconnect.2.bridge.registry =
    (c.bridge.registry.registerAll (Callback.reports c.bridge.clock calls)).2
  established : c.disconnect.2.bridge.established =
    c.bridge.established + (!c.state.canSend && c.bridge.tells calls).toNat
  cleared : c.disconnect.1 = .value () ↔ (c.clearing o.id).outcome = .value ()
  uncleared : ∀ f, c.disconnect.1 = .failure (.native f) ↔ (c.clearing o.id).outcome = .failure f
  released : c.disconnect.2.world.anchors.isLive link.anchor = false ↔
    (c.clearing o.id).outcome = .value ()
  count : c.disconnect.2.world.anchors.count +
    (if (c.clearing o.id).outcome = .value () then 1 else 0) = c.world.anchors.count

theorem stays_of_failure {f : NativeFailure} (h : c.Accounted) (hlink : c.link = some link)
    (hserves : c.state.Serves o) (hfail : (c.leaving o.id).outcome = .failure f) : c.Stays link o f := by
  obtain ⟨w, hdisconnect, hbus, hbridge, hanchors, hexchanges⟩ :=
    disconnect_of_failure (isDisconnected_of_serves hserves) hlink hserves.sessionId? hfail
  have hlive : c.world.anchors.isLive link.anchor = true :=
    Anchors.isLive_iff.mpr (.inl (List.contains_iff_mem.mp (h.ledger hlink).isHeld))
  refine ⟨?_, ?_, ?_, hlive, ?_, ?_, ?_, ?_, ?_⟩ <;> rw [hdisconnect]
  · exact hlink
  · exact hanchors
  · exact hbus
  · exact hexchanges
  · exact hbridge
  · exact (congrArg Bridge.state hbridge).trans (c.bridge.state_callbacks _)
  · change w.bridge.state.Serves o
    rw [hbridge]
    exact serves_hearing hserves (c.leaving o.id).heard

/-- The result and the anchor of a session that has been left go by the clear. -/
theorem settles_of_left (h : c.Accounted) (hlink : c.link = some link) (hserves : c.state.Serves o)
    (hleft : (c.leaving o.id).outcome = .value ()) (hcalm : (c.clearing o.id).outcome ≠ .panic) :
    (c.disconnect.1 = .value () ↔ (c.clearing o.id).outcome = .value ()) ∧
      (∀ f, c.disconnect.1 = .failure (.native f) ↔ (c.clearing o.id).outcome = .failure f) ∧
      (c.disconnect.2.world.anchors.isLive link.anchor = false ↔
        (c.clearing o.id).outcome = .value ()) ∧
      c.disconnect.2.world.anchors.count +
        (if (c.clearing o.id).outcome = .value () then 1 else 0) = c.world.anchors.count := by
  obtain ⟨w, -, hanchors, -, hdisconnect⟩ :=
    disconnect_of_left (isDisconnected_of_serves hserves) hlink hserves.sessionId? hleft
  have hledger := h.ledger hlink
  rw [hdisconnect]
  rcases houtcome : (c.clearing o.id).outcome with _ | f | _
  case panic => exact absurd houtcome hcalm
  case value =>
    have hrest : ((conclude link w).releaseAnchor link.anchor).anchors =
        c.world.anchors.release link.anchor := congrArg (Anchors.release · link.anchor) hanchors
    dsimp only
    rw [hrest]
    exact ⟨by simp, by simp, iff_of_true hledger.isLive_release rfl,
      Anchors.count_release hledger.isHeld⟩
  case failure =>
    have hrest : ((conclude link w).leakAnchor link.anchor).anchors =
        c.world.anchors.leak link.anchor := congrArg (Anchors.leak · link.anchor) hanchors
    dsimp only
    rw [hrest, hledger.isLive_leak]
    exact ⟨by simp, by simp, by simp, Anchors.count_leak hledger.isHeld⟩

theorem ends_of_left (h : c.Accounted) (hlink : c.link = some link) (hserves : c.state.Serves o)
    (hleft : (c.leaving o.id).outcome = .value ()) (hcalm : (c.clearing o.id).outcome ≠ .panic) :
    c.Ends link o (c.farewell o.id) := by
  obtain ⟨w, hbus, -, hbridge, hdisconnect⟩ :=
    disconnect_of_left (isDisconnected_of_serves hserves) hlink hserves.sessionId? hleft
  obtain ⟨hcleared, huncleared, hreleased, hcount⟩ := settles_of_left h hlink hserves hleft hcalm
  have hkept : w.bridge.state.Serves o := hbridge ▸ serves_hearing hserves (c.farewell o.id)
  have hended : c.disconnect.2.bridge =
        w.bridge.ended ("Disconnected from " ++ link.target.wellKnownName link.sessionName) ∧
      c.disconnect.2.link = none ∧ c.disconnect.2.world.bus = w.bus := by
    rw [hdisconnect]
    rcases houtcome : (c.clearing o.id).outcome with _ | f | _
    · exact ⟨bridge_conclude hkept link, rfl, rfl⟩
    · exact ⟨bridge_conclude hkept link, rfl, rfl⟩
    · exact absurd houtcome hcalm
  obtain ⟨hconclude, hunlinked, hsame⟩ := hended
  rw [hbridge] at hconclude
  -- From here on it does not matter during which of the two calls something was heard.
  generalize c.farewell o.id = calls at hconclude
  have hentry : (⟨(c.hearing calls).line .system .status ("Disconnected from " ++
      link.target.wellKnownName link.sessionName), (c.hearing calls).transcript.size⟩ : Entry) =
        c.lastEntry link calls := by
    unfold lastEntry Bridge.line BusTarget.wellKnownName
    rw [hearing, Bridge.clock_callbacks, h.target link hlink]
    rfl
  refine ⟨?_, hunlinked, hsame.trans hbus, ?_, ?_, ?_, ?_, ?_, ?_, hcleared, huncleared, hreleased,
    hcount⟩
  · exact congrArg Bridge.state hconclude
  · rw [hconclude, Bridge.toList_ended, hentry]
  · exact ((Bridge.lasting_transcript c.bridge.transcript).steady.callbacks calls (.refl _)).toList
  · rw [hconclude, Bridge.published_ended, hentry]
  · rw [hconclude, Bridge.partings_ended]
    exact congrArg (· + 1) ((Bridge.steady_partings c.bridge.partings).callbacks calls rfl)
  · exact (congrArg Bridge.registry hconclude).trans (c.bridge.registry_callbacks calls)
  · exact (congrArg Bridge.established hconclude).trans (established_hearing hserves calls)

/-- Disconnecting while anything is going on. There is a link and an open session, and if it cannot be
left it stays: the failure is returned, no further call is made, and nothing has happened but what was
heard during the call. If it can be left, and the clear returns, it is over whatever the clear returns:
the line with its name and the event are the last ones, and the result and the anchor go by the clear.
Only behind a connect that the bus panicked on there is no link, and nothing is called. -/
theorem disconnect_outcomes {config : BusConfig} {bus : β} {now : Timestamp} {opened : String}
    {c₀ c : Controller β} {actions : List Action}
    (hcreate : create config bus now opened = .value c₀) (hrun : (c₀.run actions).2 = c)
    (hactive : c.state ≠ .disconnected) :
    (∃ link o, c.link = some link ∧ c.state.Serves o ∧ link.sessionName = o.sessionName ∧
      (∀ f, (c.leaving o.id).outcome = .failure f → c.Stays link o f) ∧
      ((c.leaving o.id).outcome = .value () → (c.clearing o.id).outcome ≠ .panic →
        c.Ends link o (c.farewell o.id))) ∨
    ((∃ s ∈ c₀.steps actions, s.BrokenConnect) ∧ c.link = none ∧
      c.disconnect = (.failure (.session .notConnected), c)) := by
  obtain ⟨hrests, haccounted⟩ := settled_create hcreate
  have hsettled := settled_run hrests actions
  have h := accounted_run haccounted hrests actions
  rw [hrun] at hsettled h
  cases hsettled with
  | stranded hstranded hbroken => exact .inr ⟨hbroken, hstranded.1, disconnect_unlinked hstranded.1⟩
  | coupled hcoupled =>
    obtain ⟨last, hcoupled⟩ := hcoupled
    obtain ⟨link, hlink⟩ := Option.isSome_iff_exists.mp (hcoupled.link_isSome_iff.mpr hactive)
    obtain ⟨o, -, hname, hserves⟩ := hcoupled.active link hlink
    exact .inl ⟨link, o, hlink, hserves, hname, fun f => stays_of_failure h hlink hserves,
      ends_of_left h hlink hserves⟩

def interrupted (failing : NativeOperation) : Scripted :=
  (Scripted.idle.failWith (Loopback.injected failing)).setHook .leave .before
    [.callback (.ofParticipant "bob")]

theorem disconnect_outcomes_interrupted :
    let kept := ((standard (interrupted .leave) ⟨0⟩ "noon").run [.connect .owner "lobby" "ann"]).2
    let lost := ((standard (interrupted .clearCallbacks) ⟨0⟩ "noon").run
      [.connect .owner "lobby" "ann"]).2
    (kept.state.canSend = false ∧
      kept.disconnect.1 = .failure (.native (Loopback.injected .leave)) ∧
      kept.disconnect.2.state = kept.state.after kept.bridge.clock .participantJoined ∧
      kept.disconnect.2.link.isSome) ∧
    lost.state.canSend = false ∧
      lost.disconnect.1 = .failure (.native (Loopback.injected .clearCallbacks)) ∧
      lost.disconnect.2.state = .disconnected ∧ lost.disconnect.2.link = none ∧
      lost.disconnect.2.bridge.partings = 1 ∧ lost.disconnect.2.bridge.established = 1 ∧
      lost.disconnect.2.world.anchors.count = 1 := by
  intro kept lost
  have hkept : kept.link.isSome ∧ kept.state.sessionId? = some ⟨1⟩ ∧
      kept.state.canSend = false ∧
      (kept.leaving ⟨1⟩).outcome = .failure (Loopback.injected .leave) ∧
      kept.bridge.tells (kept.leaving ⟨1⟩).heard = true := by decide +kernel
  have hlost : lost.link.isSome ∧ lost.state.sessionId? = some ⟨1⟩ ∧
      lost.state.canSend = false ∧ (lost.leaving ⟨1⟩).outcome = .value () ∧
      (lost.clearing ⟨1⟩).outcome = .failure (Loopback.injected .clearCallbacks) ∧
      lost.bridge.tells (lost.farewell ⟨1⟩) = true ∧ lost.bridge.partings = 0 ∧
      lost.bridge.established = 0 ∧ lost.world.anchors.count = 1 := by decide +kernel
  have hactive {s : SessionState} (h : s.sessionId? = some ⟨1⟩) : s ≠ .disconnected := by
    rintro rfl
    cases h
  refine ⟨?_, ?_⟩
  · have hrun : ((standard (interrupted .leave) ⟨0⟩ "noon").run
        [.connect .owner "lobby" "ann"]).2 = kept := rfl
    clear_value kept
    obtain ⟨hlinked, hid, hwaits, hleave, htells⟩ := hkept
    rcases disconnect_outcomes (create_standard _ _ _) hrun (hactive hid) with
      ⟨link, ⟨mode, sessionName, handle, id⟩, hlink, hserves, -, hstays, -⟩ | ⟨-, hnone, -⟩
    · cases hserves.sessionId?.symm.trans hid
      obtain ⟨houtcome, hlink', -, -, -, -, -, hstate, -⟩ := hstays _ hleave
      rw [htells, if_pos rfl] at hstate
      exact ⟨hwaits, houtcome, hstate, by rw [hlink']; rfl⟩
    · rw [hnone] at hlinked
      cases hlinked
  · have hrun : ((standard (interrupted .clearCallbacks) ⟨0⟩ "noon").run
        [.connect .owner "lobby" "ann"]).2 = lost := rfl
    clear_value lost
    obtain ⟨hlinked, hid, hwaits, hleave, hclear, htells, hpartings, hestablished, hcount⟩ := hlost
    rcases disconnect_outcomes (create_standard _ _ _) hrun (hactive hid) with
      ⟨link, ⟨mode, sessionName, handle, id⟩, hlink, hserves, -, -, hends⟩ | ⟨-, hnone, -⟩
    · cases hserves.sessionId?.symm.trans hid
      have h := hends hleave (by rw [hclear]; nofun)
      refine ⟨hwaits, (h.uncleared _).mpr hclear, h.state, h.unlinked, ?_, ?_, ?_⟩
      · rw [h.partings, hpartings]
      · rw [h.established, hestablished, hwaits, htells]
        rfl
      · have hrest := h.count
        rw [hclear, hcount, if_neg nofun] at hrest
        exact hrest
    · rw [hnone] at hlinked
      cases hlinked

end Controller

end SessionBridge
