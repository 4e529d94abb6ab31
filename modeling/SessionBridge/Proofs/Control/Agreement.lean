import SessionBridge.Proofs.Control.Custody
import SessionBridge.Proofs.Control.Standing
import SessionBridge.Proofs.Control.Succession

/-! A loopback bus and its only user agree on the session that is open. The controller speaks the
protocol, every call of the protocol is in place, and a call in place fails only if that was asked
for; so neither side can be left behind by a failure of the other, and there is always a way on. -/
namespace SessionBridge

/-! ### The protocol is in place -/

def Phase.current? (p : Phase) : Option SessionId :=
  p.opening?.map Opening.id

theorem Speaks.fits {config : BusConfig} {p p' : Phase} {scene : Scene}
    (h : Speaks config p scene p') :
    Exchange.AllFit p.current? scene.step.exchanges ∧
      scene.step.exchanges.foldl Exchange.after p.current? = p'.current? := by
  cases h with
  | quiet => exact ⟨trivial, rfl⟩
  | refused => exact ⟨trivial, rfl⟩
  | unregistered => exact ⟨⟨trivial, trivial⟩, rfl⟩
  | unopened => exact ⟨⟨trivial, rfl, trivial, trivial⟩, rfl⟩
  | opened => exact ⟨⟨trivial, rfl, trivial⟩, rfl⟩
  | unsent => exact ⟨⟨rfl, trivial⟩, rfl⟩
  | sent => exact ⟨⟨rfl, trivial⟩, rfl⟩
  | kept => exact ⟨⟨rfl, trivial⟩, rfl⟩
  | uncleared => exact ⟨⟨rfl, trivial, trivial⟩, rfl⟩
  | closed => exact ⟨⟨rfl, trivial, trivial⟩, rfl⟩

theorem Phase.Departs.fits {p : Phase} {calls : List Exchange} (h : p.Departs calls) :
    Exchange.AllFit p.current? calls := by
  cases h with
  | idle => trivial
  | opened r r' => exact ⟨rfl, trivial, trivial⟩

namespace Scripted

/-- The calls made since `earlier` have taken the bus from `start` to where it stands. -/
structure Follows (start : Standing) (earlier : List Exchange) (s : Scripted)
    (calls : List Exchange) : Prop where
  plain : s.Plain
  calm : s.Calm
  along : ∃ new, calls = earlier ++ new ∧ start.Along new s.standing

theorem tracks_follows (start : Standing) (earlier : List Exchange) :
    Tracks (Follows start earlier) := by
  have hstep {α : Type} {s : Scripted} {calls : List Exchange} {turn : Turn Scripted α}
      {exchange : Outcome NativeFailure α → Exchange} (h : Follows start earlier s calls)
      (hserves : s.Serves exchange turn) (hreturns : turn.Returns Calm) :
      Follows start earlier turn.bus (calls ++ [exchange turn.outcome]) := by
    obtain ⟨new, rfl, halong⟩ := h.along
    exact ⟨hserves.plain, hreturns.bus, new ++ [exchange turn.outcome], List.append_assoc _ _ _,
      halong.snoc hserves.answers⟩
  constructor
  · intro t s calls h
    exact hstep h (serves_registerCallbacks t h.plain h.calm) (returns_registerCallbacks t h.calm)
  · intro s calls h
    exact hstep h (serves_clearCallbacks h.plain h.calm) (returns_clearCallbacks h.calm)
  · intro mode target name s calls h
    exact hstep h (serves_openSession mode target name h.plain h.calm)
      (returns_openSession mode target name h.calm)
  · intro id s calls h
    exact hstep h (serves_leave id h.plain h.calm) (returns_leave id h.calm)
  · intro id text s calls h
    exact hstep h (serves_send id text h.plain h.calm) (returns_send id text h.calm)

end Scripted

namespace Controller

/-! ### Both sides together -/

/-- What holds whenever no operation is in progress: the bus has the session open that the phase says,
nothing has failed but what was asked to, and the sessions are numbered. -/
structure InStep (c : Controller Scripted) (p : Phase) : Prop where
  rests : c.Rests p
  plain : c.world.bus.Plain
  calm : c.world.bus.Calm
  current : c.world.bus.standing.current = p.current?
  injected : ∀ e ∈ c.world.exchanges.toList, ∀ f, e.failure? = some f →
    f = Loopback.injected e.operation
  counts : c.world.bus.standing.Counts c.world.openedIds
  numbered : c.world.Numbered

variable {c : Controller Scripted} {p : Phase}

theorem Rests.sessionId? {β : Type} {c : Controller β} {p : Phase} (h : c.Rests p) :
    c.state.sessionId? = p.current? := by
  cases p with
  | idle =>
    rw [h.2]
    rfl
  | opened o =>
    obtain ⟨link, -, -, hserves⟩ := h
    exact hserves.sessionId?

theorem Rests.current?_eq_none_iff {β : Type} {c : Controller β} {p : Phase} (h : c.Rests p) :
    p.current? = none ↔ c.state = .disconnected := by
  cases p with
  | idle => exact iff_of_true rfl h.2
  | opened o =>
    obtain ⟨link, -, -, hserves⟩ := h
    exact iff_of_false nofun hserves.ne_disconnected

theorem InStep.along {w : World Scripted} {calls : List Exchange} (h : c.InStep p)
    (htracked : c.world.Tracked
        (Scripted.Follows c.world.bus.standing c.world.exchanges.toList) →
      w.Tracked (Scripted.Follows c.world.bus.standing c.world.exchanges.toList))
    (hcalls : w.exchanges.toList = c.world.exchanges.toList ++ calls) :
    w.bus.Plain ∧ w.bus.Calm ∧ c.world.bus.standing.Along calls w.bus.standing := by
  obtain ⟨hplain, hcalm, new, hnew, halong⟩ :=
    htracked ⟨h.plain, h.calm, [], (List.append_nil _).symm, .nil _⟩
  rw [hcalls] at hnew
  rw [← List.append_cancel_left hnew] at halong
  exact ⟨hplain, hcalm, halong⟩

/-- An action with its calls: they are in place, and the two sides agree behind them. -/
theorem InStep.spoke (h : c.InStep p) (a : Action) :
    ∃ calls p', (c.act a).2.world.exchanges.toList = c.world.exchanges.toList ++ calls ∧
      Speaks c.config p ⟨c.state, a, (c.act a).1, calls⟩ p' ∧
      c.world.bus.standing.Along calls (c.act a).2.world.bus.standing ∧
      (c.act a).2.InStep p' := by
  have hcalm := (home_move (.act a) h.calm).1
  obtain ⟨-, calls, hcalls, p', hspeaks, hrests⟩ := h.rests.act hcalm
  obtain ⟨hplain', hcalm', halong⟩ :=
    h.along (fun hstart => tracked_act (Scripted.tracks_follows _ _) hstart hcalm) hcalls
  -- The controller's side says that the calls are in place, and to calls in place the bus's side has
  -- only one answer that was not asked for.
  obtain ⟨hfit, hcurrent⟩ := hspeaks.fits
  refine ⟨calls, p', hcalls, hspeaks, halong, hrests, hplain', hcalm', ?_, ?_, ?_,
    numbered_act h.numbered hcalm⟩
  · rw [halong.current, h.current]
    exact hcurrent
  · intro e hmem f hfailure
    rw [hcalls] at hmem
    rcases List.mem_append.mp hmem with hmem | hmem
    · exact h.injected e hmem f hfailure
    · rw [← h.current] at hfit
      exact halong.injected_of_fits hfit e hmem f hfailure
  · unfold World.openedIds
    rw [hcalls, List.filterMap_append]
    exact halong.counts h.counts

theorem InStep.cue (h : c.InStep p) (q : Cue) : (c.move (.cue q)).2.InStep p := by
  have hplain : (c.world.bus.take q).Plain := by
    cases q <;> exact ⟨h.plain.failures, h.plain.nextId, h.plain.aliases⟩
  have hcurrent : (c.world.bus.take q).standing.current = c.world.bus.standing.current := by
    cases q <;> rfl
  have hopened : (c.world.bus.take q).standing.opened = c.world.bus.standing.opened := by
    cases q <;> rfl
  have hcoupled : (c.move (.cue q)).2.Coupled p.opening? :=
    h.rests.coupled.stays rfl fun _ _ hstate => hstate
  exact ⟨h.rests.stays hcoupled rfl, hplain, h.calm.take q, hcurrent.trans h.current, h.injected,
    h.counts.of_opened hopened, h.numbered⟩

theorem InStep.hears {w : World Scripted} (h : c.InStep p) (hbus : w.bus = c.world.bus)
    (hexchanges : w.exchanges = c.world.exchanges)
    (hbridge : w.bridge = c.world.bridge ∨ ∃ call, w.bridge = c.world.bridge.receive call) :
    InStep { c with world := w } p := by
  have hcoupled : Coupled p.opening? { c with world := w } := by
    refine h.rests.coupled.stays rfl fun P hP hstate => ?_
    change P w.bridge.state
    rcases hbridge with hsame | ⟨call, hcall⟩
    · rw [hsame]
      exact hstate
    · rw [hcall]
      exact Bridge.keeps_receive hP call hstate
  have hids : w.openedIds = c.world.openedIds := by
    unfold World.openedIds
    rw [hexchanges]
  have hnumbered : w.Numbered := by
    unfold World.Numbered
    rw [hids]
    rcases hbridge with hsame | ⟨call, hcall⟩
    · rw [hsame]
      exact h.numbered
    · rw [hcall]
      exact (Bridge.steady_claims _).receive call h.numbered
  refine ⟨h.rests.stays hcoupled rfl, ?_, ?_, ?_, ?_, ?_, hnumbered⟩
  · exact hbus ▸ h.plain
  · exact hbus ▸ h.calm
  · exact hbus ▸ h.current
  · exact hexchanges ▸ h.injected
  · change w.bus.standing.Counts w.openedIds
    rw [hids, hbus]
    exact h.counts

theorem InStep.move (h : c.InStep p) (m : Move) : ∃ p', (c.move m).2.InStep p' := by
  cases m with
  | act a =>
    obtain ⟨calls, p', -, -, -, hagrees⟩ := h.spoke a
    exact ⟨p', hagrees⟩
  | cue q => exact ⟨p, h.cue q⟩
  | deliver call =>
    exact ⟨p, h.hears (World.bus_undergo ..) (World.exchanges_undergo ..)
      (World.bridge_undergo ..)⟩

theorem inStep_create {config : BusConfig} {now : Timestamp} {opened : String}
    (hcreate : create config Scripted.idle now opened = .value c) : c.InStep .idle := by
  obtain ⟨-, feed, hfeed, rfl⟩ := create_eq_value_iff.mp hcreate
  have hempty : feed.published = #[] := by
    unfold Feed.ofSize? at hfeed
    split at hfeed
    · cases hfeed
    · cases hfeed
      rfl
  have hsessions : (Bridge.start feed now opened).sessions = [] := by
    change (feed.published.push _).toList.filterMap BridgeEvent.session? = []
    rw [hempty]
    rfl
  refine ⟨⟨rfl, rfl⟩, Scripted.plain_idle, Scripted.calm_idle, rfl, nofun, ?_, ?_, ?_⟩
  · exact fun _ => ⟨rfl, .nil, nofun⟩
  · exact congrArg List.length hsessions
  · unfold Bridge.claimed
    change ((Bridge.start feed now opened).sessions.map Session.id ++ []).Sublist _
    rw [hsessions]
    exact .slnil

theorem inStep_play {config : BusConfig} {now : Timestamp} {opened : String}
    (hcreate : create config Scripted.idle now opened = .value c) (moves : List Move) :
    ∃ p, (c.play moves).InStep p :=
  play_induction (motive := fun c => ∃ p, c.InStep p) ⟨.idle, inStep_create hcreate⟩
    (fun _ m ⟨_, h⟩ => h.move m) moves

/-! ### The way on -/

theorem InStep.succeeds (h : c.InStep p) (hasked : c.world.bus.standing.failing = []) (a : Action) :
    ∃ calls p', Speaks c.config p ⟨c.state, a, (c.act a).1, calls⟩ p' ∧
      (∀ e ∈ calls, e.failure? = none) ∧ (c.act a).2.InStep p' ∧
      (c.act a).2.world.bus.standing.failing = [] := by
  obtain ⟨calls, p', -, hspeaks, halong, hstep⟩ := h.spoke a
  have hfit := hspeaks.fits.1
  rw [← h.current] at hfit
  exact ⟨calls, p', hspeaks, halong.succeeds hfit hasked, hstep, halong.unasked hasked⟩

theorem InStep.disconnect_succeeds (h : c.InStep p) (hasked : c.world.bus.standing.failing = [])
    (hactive : c.state ≠ .disconnected) :
    c.disconnect.1 = .value () ∧ c.disconnect.2.InStep .idle ∧
      c.disconnect.2.world.bus.standing.failing = [] := by
  obtain ⟨calls, p', hspeaks, hsucceeds, hstep, hasked'⟩ := h.succeeds hasked .disconnect
  generalize hresult : (c.act .disconnect).1 = outcome at hspeaks
  generalize c.state = state at hspeaks hactive
  cases hspeaks with
  | quiet hquiet => cases hquiet
  | refused hrejects =>
    cases hrejects with
    | notConnected hstate => exact absurd hstate hactive
  | kept => cases hsucceeds _ List.mem_cons_self
  | uncleared => cases hsucceeds _ (List.mem_cons_of_mem _ List.mem_cons_self)
  | closed => exact ⟨hresult, hstep, hasked'⟩

theorem InStep.connect_succeeds (h : c.InStep p) (hasked : c.world.bus.standing.failing = [])
    (hidle : c.state = .disconnected) (mode : SessionMode) {sessionName handle : String}
    (hname : Text.isBlankText sessionName = false) (hhandle : Text.isBlankText handle = false) :
    let reached := (c.connect mode sessionName handle).2
    (c.connect mode sessionName handle).1 = .value () ∧ ∃ id,
      reached.world.bus.loopback.current = some id ∧ reached.state ≠ .disconnected ∧
        reached.state.Serves ⟨mode, sessionName, handle, id⟩ := by
  intro reached
  have hallowed : connectRefusal? false c.state sessionName handle = none := by
    unfold connectRefusal?
    rw [hname, hhandle, hidle]
    rfl
  obtain ⟨calls, p', hspeaks, hsucceeds, hstep, -⟩ :=
    h.succeeds hasked (.connect mode sessionName handle)
  generalize hresult : (c.act (.connect mode sessionName handle)).1 = outcome at hspeaks
  generalize c.state = state at hspeaks hallowed
  cases hspeaks with
  | quiet hquiet => cases hquiet
  | refused hrejects =>
    rw [rejects_connect_iff, hallowed] at hrejects
    cases hrejects
  | unregistered => cases hsucceeds _ List.mem_cons_self
  | unopened => cases hsucceeds _ (List.mem_cons_of_mem _ List.mem_cons_self)
  | opened =>
    have hserves := hstep.rests.shows
    exact ⟨hresult, _, hstep.current, hserves.ne_disconnected, hserves⟩

theorem InStep.release (h : c.InStep p) (hreturned : c.release.1 = false) :
    ∀ e ∈ c.release.2.exchanges.toList, ∀ f, e.failure? = some f →
      f = Loopback.injected e.operation := by
  obtain ⟨calls, hcalls, hdeparts⟩ := h.rests.release hreturned
  obtain ⟨-, -, halong⟩ :=
    h.along (fun hstart => tracked_release (Scripted.tracks_follows _ _) hstart) hcalls
  have hfit := hdeparts.fits
  rw [← h.current] at hfit
  intro e hmem f hfailure
  rw [hcalls] at hmem
  rcases List.mem_append.mp hmem with hmem | hmem
  · exact h.injected e hmem f hfailure
  · exact halong.injected_of_fits hfit e hmem f hfailure

/-- However its calls were made to fail and wherever the bus called back, a loopback bus and the
controller that has it for itself agree, whenever no operation is in progress, on the session that is
open. No native call of such a run is ever out of place, not even when the controller is given up: what
fails was made to. The ids of the published sessions, which are all that were established, increase
until the numbers run out. And there is a way on from everywhere: unless a failure is still asked for,
an active session can be disconnected, which leaves neither side with one, and then every connect with
proper names succeeds, which leaves both with the session that it asked for. -/
theorem bus_agrees_with_state {config : BusConfig} {now : Timestamp} {opened : String}
    (hcreate : create config Scripted.idle now opened = .value c) (moves : List Move) :
    let c' := c.play moves
    let bus := c'.world.bus.loopback
    bus.current = c'.state.sessionId? ∧
      (bus.current = none ↔ c'.state = .disconnected) ∧
      (∀ e, e ∈ c'.world.exchanges ∨ e ∈ c'.release.2.exchanges →
        ∀ f, e.failure? = some f → f = Loopback.injected e.operation ∧
          (∀ o, f ≠ Loopback.alreadyOpen o) ∧ ∀ o id, f ≠ Loopback.notOpen o id) ∧
      c'.bridge.sessions.length = c'.bridge.established ∧
      (c'.world.openedIds.length < 2 ^ 32 →
        (c'.bridge.sessions.map Session.id).Pairwise (·.value < ·.value)) ∧
      (bus.failing = [] →
        (c'.state ≠ .disconnected → c'.disconnect.1 = .value () ∧
          c'.disconnect.2.state = .disconnected ∧
          c'.disconnect.2.world.bus.loopback.current = none) ∧
        ∀ mode sessionName handle, Text.isBlankText sessionName = false →
          Text.isBlankText handle = false →
            let rested := if c'.state = .disconnected then c' else c'.disconnect.2
            let reached := (rested.connect mode sessionName handle).2
            (rested.connect mode sessionName handle).1 = .value () ∧ ∃ id,
              reached.world.bus.loopback.current = some id ∧ reached.state ≠ .disconnected ∧
                reached.state.Serves ⟨mode, sessionName, handle, id⟩) := by
  intro c' bus
  obtain ⟨p, h⟩ := inStep_play hcreate moves
  have hcurrent : bus.current = p.current? := h.current
  refine ⟨hcurrent.trans h.rests.sessionId?.symm, ?_, ?_, h.numbered.counted, ?_, ?_⟩
  · rw [hcurrent]
    exact h.rests.current?_eq_none_iff
  · intro e hmem f hfailure
    have hinjected : f = Loopback.injected e.operation := by
      rcases hmem with hmem | hmem
      · exact h.injected e (Array.mem_def.mp hmem) f hfailure
      · exact h.release (kept_play hcreate moves).release.1 e (Array.mem_def.mp hmem) f hfailure
    rw [hinjected]
    exact ⟨rfl, Loopback.injected_ne_alreadyOpen _, Loopback.injected_ne_notOpen _⟩
  · intro hroom
    have hclaimed := (List.sublist_append_left _ _).trans h.numbered.claimed
    exact (h.counts hroom).2.1.sublist hclaimed
  · intro hasked
    constructor
    · intro hactive
      obtain ⟨hvalue, hstep, -⟩ := h.disconnect_succeeds hasked hactive
      exact ⟨hvalue, hstep.rests.shows, hstep.current⟩
    · intro mode sessionName handle hname hhandle
      by_cases hstate : c'.state = .disconnected
      · rw [if_pos hstate]
        exact h.connect_succeeds hasked hstate mode hname hhandle
      · rw [if_neg hstate]
        obtain ⟨-, hstep, hasked'⟩ := h.disconnect_succeeds hasked hstate
        exact hstep.connect_succeeds hasked' hstep.rests.shows mode hname hhandle

/-- An open that fails behind a failed clear, a session, a leave that fails, and a failure that still
waits. -/
def failing : List Move :=
  [.cue (.failNext .advertise), .cue (.failNext .clearCallbacks),
    .act (.connect .owner "lobby" "ann"), .act (.connect .owner "lobby" "ann"),
    .deliver (.ofParticipant "bob"), .cue (.failNext .leave), .act .disconnect, .act .disconnect,
    .act (.connect .joiner "den" "ann"), .deliver (.ofParticipant "eve"), .cue (.failNext .send)]

theorem bus_agrees_with_state_failing :
    create .standard Scripted.idle ⟨0⟩ "noon" = .value (standard Scripted.idle ⟨0⟩ "noon") ∧
      (((standard Scripted.idle ⟨0⟩ "noon").play failing).bridge.sessions.map Session.id).Pairwise
        (·.value < ·.value) := by
  have hcreate := create_standard Scripted.idle ⟨0⟩ "noon"
  obtain ⟨-, -, -, -, hincreasing, -⟩ := bus_agrees_with_state hcreate failing
  have hroom : ((standard Scripted.idle ⟨0⟩ "noon").play failing).world.openedIds.length < 2 ^ 32 := by
    decide +kernel
  exact ⟨hcreate, hincreasing hroom⟩

end Controller

end SessionBridge
