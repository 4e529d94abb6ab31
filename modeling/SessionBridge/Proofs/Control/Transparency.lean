import SessionBridge.Bus.Loopback
import SessionBridge.Proofs.Bridge.Display
import SessionBridge.Proofs.Control.Operation

/-! Whole runs with and without display handlers, side by side. As long as the participant handler is
passive, the bus is asked the same and the user is told the same on both sides, even when the bus
panics; a participant handler that crashes or delivers messages itself shows in some run. -/
namespace SessionBridge

namespace World

structure Mirrors (h : Handlers) (w w' : World β) : Prop where
  bus : w'.bus = w.bus
  anchors : w'.anchors = w.anchors
  exchanges : w'.exchanges = w.exchanges
  bridge : w.bridge.Mirrors h w'.bridge

variable {β α : Type} {h : Handlers} {w w' : World β}

/-! ### Steps -/

theorem Mirrors.report (hm : w.Mirrors h w') (kind : InformType) (text : String) :
    (w.report kind text).Mirrors h (w'.report kind text) :=
  ⟨hm.bus, hm.anchors, hm.exchanges, hm.bridge.report kind text⟩

theorem Mirrors.advance (hm : w.Mirrors h w') (e : SessionEvent) :
    (w.advance e).Mirrors h (w'.advance e) :=
  ⟨hm.bus, hm.anchors, hm.exchanges, hm.bridge.advance e⟩

theorem Mirrors.publish (hm : w.Mirrors h w') (e : BridgeEvent) :
    (w.publish e).Mirrors h (w'.publish e) :=
  ⟨hm.bus, hm.anchors, hm.exchanges, hm.bridge.publish e⟩

theorem Mirrors.issue (hm : w.Mirrors h w') : w.issueAnchor.Mirrors h w'.issueAnchor :=
  ⟨hm.bus, congrArg Anchors.issue hm.anchors, hm.exchanges, hm.bridge⟩

theorem Mirrors.release (hm : w.Mirrors h w') (id : AnchorId) :
    (w.releaseAnchor id).Mirrors h (w'.releaseAnchor id) :=
  ⟨hm.bus, congrArg (·.release id) hm.anchors, hm.exchanges, hm.bridge⟩

theorem Mirrors.leak (hm : w.Mirrors h w') (id : AnchorId) :
    (w.leakAnchor id).Mirrors h (w'.leakAnchor id) :=
  ⟨hm.bus, congrArg (·.leak id) hm.anchors, hm.exchanges, hm.bridge⟩

/-! ### Native calls -/

def Alike {ε : Type} (h : Handlers) (r r' : Outcome ε α × World β) : Prop :=
  ∃ o v v', r = (o, v) ∧ r' = (o, v') ∧ v.Mirrors h v'

theorem Mirrors.alike {ε : Type} {o : Outcome ε α} (hm : w.Mirrors h w') :
    Alike h (o, w) (o, w') :=
  ⟨o, w, w', rfl, rfl, hm⟩

theorem Mirrors.undergo (hm : w.Mirrors h w') (hpassive : h.Passive) (attended : Bool)
    (i : Incident) : (w.undergo attended i).Mirrors h (w'.undergo attended i) := by
  refine ⟨?_, ?_, ?_, ?_⟩
  · rw [bus_undergo, bus_undergo, hm.bus]
  · rw [anchors_undergo, anchors_undergo, hm.anchors]
  · rw [exchanges_undergo, exchanges_undergo, hm.exchanges]
  cases i with
  | callback table call =>
    cases table with
    | none => exact hm.bridge
    | some t => exact hm.bridge.receive hpassive call
  | connect mode sessionName handle =>
    unfold World.undergo
    dsimp only
    rw [hm.bridge.state]
    split <;> exact hm.bridge
  | glimpse registered => exact hm.bridge

theorem Mirrors.foldl_undergo (hm : w.Mirrors h w') (hpassive : h.Passive) (attended : Bool)
    (incidents : List Incident) :
    (incidents.foldl (World.undergo attended) w).Mirrors h
      (incidents.foldl (World.undergo attended) w') := by
  induction incidents generalizing w w' with
  | nil => exact hm
  | cons i incidents ih => exact ih (hm.undergo hpassive attended i)

theorem Mirrors.perform (hm : w.Mirrors h w') (hpassive : h.Passive) (attended : Bool)
    (call : β → Turn β α) (exchange : Outcome NativeFailure α → Exchange) :
    Alike h (w.perform attended call exchange) (w'.perform attended call exchange) := by
  unfold World.perform
  rw [hm.bus]
  have hcalled : Mirrors h { w with bus := (call w.bus).bus } { w' with bus := (call w.bus).bus } :=
    ⟨rfl, hm.anchors, hm.exchanges, hm.bridge⟩
  have hundergone := hcalled.foldl_undergo hpassive attended (call w.bus).incidents
  exact Mirrors.alike ⟨hundergone.bus, hundergone.anchors,
    congrArg (·.push (exchange (call w.bus).outcome)) hundergone.exchanges, hundergone.bridge⟩

end World

namespace Controller

variable {β α : Type} {h : Handlers} {w w' : World β} {c c' : Controller β}

structure Mirrors (h : Handlers) (c c' : Controller β) : Prop where
  config : c'.config = c.config
  link : c'.link = c.link
  world : c.world.Mirrors h c'.world

def Alike {ε : Type} (h : Handlers) (r r' : Outcome ε α × Controller β) : Prop :=
  r'.1 = r.1 ∧ r.2.Mirrors h r'.2

theorem Mirrors.onBridge (hm : c.Mirrors h c') (f : Bridge → Bridge)
    (hf : (f c.world.bridge).Mirrors h (f c'.world.bridge)) :
    (c.onBridge f).Mirrors h (c'.onBridge f) :=
  ⟨hm.config, hm.link, hm.world.bus, hm.world.anchors, hm.world.exchanges, hf⟩

/-! ### Parts of operations -/

theorem mirrors_abortConnect (hm : w.Mirrors h w') (f : NativeFailure) :
    (abortConnect f w).Mirrors h (abortConnect f w') :=
  (hm.advance _).report _ _

theorem mirrors_conclude (hm : w.Mirrors h w') (link : Link) :
    (conclude link w).Mirrors h (conclude link w') :=
  ((hm.advance _).report _ _).publish _

variable [NativeBus β]

theorem alike_leaveIfKnown (hm : w.Mirrors h w') (hpassive : h.Passive) (attended : Bool)
    (id? : Option SessionId) :
    World.Alike h (leaveIfKnown attended id? w) (leaveIfKnown attended id? w') := by
  cases id? with
  | none => exact hm.alike
  | some id => exact hm.perform hpassive attended _ _

theorem alike_withdraw (hm : w.Mirrors h w') (hpassive : h.Passive) (anchor : AnchorId)
    (f : NativeFailure) :
    World.Alike h (withdraw anchor f w : Outcome ControlError α × World β)
      (withdraw anchor f w') := by
  have hclear : World.Alike h (w.clearCallbacks true) (w'.clearCallbacks true) :=
    hm.perform hpassive true _ _
  obtain ⟨o, v, v', hleft, hright, hcleared⟩ := hclear
  unfold withdraw
  rw [hleft, hright]
  cases o with
  | panic => exact (hcleared.release anchor).alike
  | value _ => exact (mirrors_abortConnect (hcleared.release anchor) f).alike
  | failure _ => exact (mirrors_abortConnect (hcleared.leak anchor) f).alike

theorem alike_openLink (hm : w.Mirrors h w') (hpassive : h.Passive) (target : BusTarget)
    (anchor : AnchorId) (mode : SessionMode) (sessionName : String) :
    World.Alike h (openLink target anchor mode sessionName w)
      (openLink target anchor mode sessionName w') := by
  have hregister : World.Alike h (w.registerCallbacks ⟨anchor⟩) (w'.registerCallbacks ⟨anchor⟩) :=
    hm.perform hpassive true _ _
  obtain ⟨o, v, v', hleft, hright, hregistered⟩ := hregister
  unfold openLink
  rw [hleft, hright]
  cases o with
  | panic => exact (hregistered.release anchor).alike
  | failure f => exact ((mirrors_abortConnect hregistered f).release anchor).alike
  | value _ =>
    have hstatus := hregistered.report .status
      (target.wellKnownName sessionName ++ " is " ++ mode.role)
    obtain ⟨o, u, u', hleft, hright, hopened⟩ := hstatus.perform hpassive true
      (NativeBus.openSession mode target sessionName) (.openSession mode target sessionName)
    rw [← World.openSession] at hleft hright
    dsimp only
    rw [hleft, hright]
    cases o with
    | panic => exact (hopened.release anchor).alike
    | value id => exact hopened.alike
    | failure f => exact alike_withdraw hopened hpassive anchor f

/-! ### Operations -/

theorem Mirrors.connect (hm : c.Mirrors h c') (hpassive : h.Passive) (mode : SessionMode)
    (sessionName handle : String) :
    Alike h (c.connect mode sessionName handle) (c'.connect mode sessionName handle) := by
  obtain ⟨config', w', link'⟩ := c'
  obtain ⟨rfl, rfl, hworld⟩ := hm
  have hstate : Controller.state ⟨c.config, w', c.link⟩ = c.state := hworld.bridge.state
  unfold Controller.connect
  rw [hstate]
  dsimp only at hworld ⊢
  rw [hworld.anchors]
  rcases hrefusal : connectRefusal? false c.state sessionName handle with _ | e
  case some => exact ⟨rfl, rfl, rfl, hworld⟩
  obtain ⟨o, v, v', hleft, hright, hopened⟩ := alike_openLink
    (hworld.advance (.connect mode sessionName handle)).issue hpassive c.config.target
    c.world.anchors.next mode sessionName
  dsimp only
  rw [hleft, hright]
  cases o with
  | panic => exact ⟨rfl, rfl, rfl, hopened⟩
  | failure e => exact ⟨rfl, rfl, rfl, hopened⟩
  | value id => exact ⟨rfl, rfl, rfl, hopened.advance _⟩

theorem Mirrors.send (hm : c.Mirrors h c') (hpassive : h.Passive) (text : String) :
    Alike h (c.send text) (c'.send text) := by
  obtain ⟨config, w, link⟩ := c
  obtain ⟨config', w', link'⟩ := c'
  obtain ⟨rfl, rfl, hworld⟩ := hm
  have hstate : Controller.state ⟨config', w', link'⟩ = Controller.state ⟨config', w, link'⟩ :=
    hworld.bridge.state
  unfold Controller.send
  rw [hstate]
  dsimp only at hworld ⊢
  split
  · exact ⟨rfl, rfl, rfl, hworld⟩
  rcases (Controller.state ⟨config', w, link'⟩).session? with _ | session
  case none => exact ⟨rfl, rfl, rfl, hworld⟩
  rcases link' with _ | link
  case none => exact ⟨rfl, rfl, rfl, hworld⟩
  have hsend : World.Alike h (w.send session.id text) (w'.send session.id text) :=
    hworld.perform hpassive true _ _
  obtain ⟨o, v, v', hleft, hright, hsent⟩ := hsend
  dsimp only
  rw [hleft, hright]
  cases o with
  | panic => exact ⟨rfl, rfl, rfl, hsent⟩
  | failure f => exact ⟨rfl, rfl, rfl, hsent⟩
  | value _ =>
    exact ⟨rfl, rfl, rfl, hsent.bus, hsent.anchors, hsent.exchanges, hsent.bridge.record _ _ _⟩

theorem Mirrors.disconnect (hm : c.Mirrors h c') (hpassive : h.Passive) :
    Alike h c.disconnect c'.disconnect := by
  obtain ⟨config, w, link⟩ := c
  obtain ⟨config', w', link'⟩ := c'
  obtain ⟨rfl, rfl, hworld⟩ := hm
  have hstate : Controller.state ⟨config', w', link'⟩ = Controller.state ⟨config', w, link'⟩ :=
    hworld.bridge.state
  unfold Controller.disconnect
  rw [hstate]
  dsimp only at hworld ⊢
  cases (Controller.state ⟨config', w, link'⟩).isDisconnected with
  | true => exact ⟨rfl, rfl, rfl, hworld⟩
  | false =>
    rcases link' with _ | link
    case none => exact ⟨rfl, rfl, rfl, hworld⟩
    obtain ⟨o, v, v', hleft, hright, hleaving⟩ :=
      alike_leaveIfKnown hworld hpassive true (Controller.state ⟨config', w, some link⟩).sessionId?
    dsimp only
    rw [hleft, hright]
    cases o with
    | panic => exact ⟨rfl, rfl, rfl, hleaving⟩
    | failure f => exact ⟨rfl, rfl, rfl, hleaving⟩
    | value _ =>
      have hclear : World.Alike h (v.clearCallbacks true) (v'.clearCallbacks true) :=
        hleaving.perform hpassive true _ _
      obtain ⟨o, u, u', hleft, hright, hcleared⟩ := hclear
      dsimp only
      rw [hleft, hright]
      cases o with
      | panic => exact ⟨rfl, rfl, rfl, hcleared⟩
      | value _ => exact ⟨rfl, rfl, rfl, (mirrors_conclude hcleared link).release _⟩
      | failure f => exact ⟨rfl, rfl, rfl, (mirrors_conclude hcleared link).leak _⟩

theorem Mirrors.act (hm : c.Mirrors h c') (hpassive : h.Passive) {a : Action}
    (ha : ∀ h', a ≠ .install h') : Alike h (c.act a) (c'.act a) := by
  have hbridge := hm.world.bridge
  cases a with
  | connect mode sessionName handle => exact hm.connect hpassive mode sessionName handle
  | send text => exact hm.send hpassive text
  | disconnect => exact hm.disconnect hpassive
  | callback call =>
    exact ⟨rfl, hm.onBridge (·.receive call) (hbridge.receive hpassive call)⟩
  | message text code =>
    exact ⟨rfl, hm.onBridge (·.deliverMessage text code) (hbridge.deliverMessage text code)⟩
  | participant name =>
    exact ⟨rfl, hm.onBridge (·.deliverParticipant name) (hbridge.deliverParticipant hpassive name)⟩
  | tick now =>
    exact ⟨rfl, hm.onBridge (fun b => { b with clock := now }) (hbridge.tick now)⟩
  | install h' => exact absurd rfl (ha h')

theorem Mirrors.run (hm : c.Mirrors h c') (hpassive : h.Passive) {actions : List Action}
    (hactions : ∀ h', .install h' ∉ actions) :
    (c'.run actions).1 = (c.run actions).1 ∧ (c.run actions).2.Mirrors h (c'.run actions).2 := by
  induction actions generalizing c c' with
  | nil => exact ⟨rfl, hm⟩
  | cons a actions ih =>
    have ha : ∀ h', a ≠ .install h' := by
      rintro h' rfl
      exact hactions h' List.mem_cons_self
    have hrest : ∀ h', .install h' ∉ actions :=
      fun h' hmem => hactions h' (List.mem_cons_of_mem a hmem)
    obtain ⟨hsame, hnext⟩ := hm.act hpassive ha
    obtain ⟨houtcomes, hend⟩ := ih hnext hrest
    rw [run_cons, run_cons, hsame, houtcomes]
    exact ⟨rfl, hend⟩

/-! ### Transparency -/

/-- Two runs in which everything is the same but lines about crashes in the second transcript. -/
structure Agrees (r r' : List (Outcome ControlError Unit) × Controller β) : Prop where
  outcomes : r'.1 = r.1
  state : r'.2.state = r.2.state
  established : r'.2.bridge.established = r.2.bridge.established
  registry : r'.2.bridge.registry = r.2.bridge.registry
  exchanges : r'.2.world.exchanges = r.2.world.exchanges
  lines : Annotated r.2.bridge.lines r'.2.bridge.lines

end Controller

/-- On every bus, every run with the handlers agrees with the same run without any. -/
def Handlers.Transparent (h : Handlers) : Prop :=
  ∀ (β : Type) [NativeBus β] (config : BusConfig) (bus : β) (now : Timestamp) (opened : String)
    (c : Controller β), Controller.create config bus now opened = .value c →
    ∀ actions : List Action, (∀ h', .install h' ∉ actions) →
      Controller.Agrees (c.run actions) ((c.act (.install h)).2.run actions)

namespace Controller

variable {h : Handlers}

theorem transparent_of_passive (hpassive : h.Passive) : h.Transparent := by
  intro β _ config bus now opened c hcreate actions hactions
  obtain ⟨-, feed, -, rfl⟩ := create_eq_value_iff.mp hcreate
  have hinstalled : Mirrors h ⟨config, .start bus (.start feed now opened), none⟩
      (act ⟨config, .start bus (.start feed now opened), none⟩ (.install h)).2 :=
    ⟨rfl, rfl, rfl, rfl, rfl, Bridge.mirrors_install rfl⟩
  obtain ⟨houtcomes, hend⟩ := hinstalled.run hpassive hactions
  have hbridge := hend.world.bridge
  exact ⟨houtcomes, hbridge.state, hbridge.established, hbridge.registry, hend.world.exchanges,
    hbridge.lines⟩

def meeting (name : String) : List Action :=
  [.connect .owner "lobby" "ann", .participant name]

def waiting (h? : Option Handlers) (now : Timestamp) : Bridge :=
  (connect (onBridge (standard Loopback.idle now "noon") ({ · with handlers := h? }))
    .owner "lobby" "ann").2.bridge

theorem run_meeting (now : Timestamp) (name : String) :
    ((standard Loopback.idle now "noon").run (meeting name)).2.bridge =
      (waiting none now).deliverParticipant name :=
  rfl

theorem run_meeting_installed (h : Handlers) (now : Timestamp) (name : String) :
    (((standard Loopback.idle now "noon").act (.install h)).2.run (meeting name)).2.bridge =
      (waiting (some h) now).deliverParticipant name :=
  rfl

theorem contains_waiting (h? : Option Handlers) (now : Timestamp) (name : String) :
    (waiting h? now).registry.contains name = false := by
  have hempty : (waiting h? now).registry = .empty := rfl
  rw [hempty, Registry.contains_empty]

theorem established_waiting_bare (now : Timestamp) (name : String) :
    ((waiting none now).deliverParticipant name).established = 1 := by
  rw [Bridge.deliverParticipant_bare rfl (contains_waiting none now name)]
  rfl

theorem passive_of_transparent (htransparent : h.Transparent) : h.Passive := by
  -- Every participant can come first to a session that waits; one short run shows both faults.
  have hagrees (p : Participant) := htransparent Loopback .standard Loopback.idle p.joinedAt "noon"
    (standard Loopback.idle p.joinedAt "noon") (create_standard _ _ _) (meeting p.name) (by
      simp [meeting])
  constructor
  · intro p
    have hsame := (hagrees p).lines.countP_inbound
    rw [run_meeting, run_meeting_installed] at hsame
    have hbare := Bridge.inbound_deliverParticipant_bare (b := waiting none p.joinedAt) rfl
      (contains_waiting none p.joinedAt p.name)
    have hshown := Bridge.inbound_deliverParticipant (b := waiting (some h) p.joinedAt) rfl
      (contains_waiting (some h) p.joinedAt p.name)
    have hbefore : (waiting (some h) p.joinedAt).inbound = (waiting none p.joinedAt).inbound := rfl
    have hcount : (h.onParticipant p).echoes.length = 0 := by
      have hsum := hshown.symm.trans (hsame.trans hbare)
      rw [hbefore] at hsum
      exact Nat.add_left_cancel hsum
    exact List.eq_nil_of_length_eq_zero hcount
  · intro p
    have hestablished := (hagrees p).established
    rw [run_meeting, run_meeting_installed, established_waiting_bare] at hestablished
    rcases hcrash : (h.onParticipant p).crash with _ | crash
    · rfl
    · have hlost := (Bridge.deliverParticipant_new (b := waiting (some h) p.joinedAt) rfl
        (contains_waiting (some h) p.joinedAt p.name)).2 (by
          change (h.onParticipant p).crash ≠ none
          rw [hcrash]
          exact nofun)
      rw [hlost.2] at hestablished
      cases hestablished

/-- Display handlers leave every run as it would be without them exactly if the participant handler
neither crashes nor delivers messages itself; a message handler may crash as it likes. A join is lost
exactly if it comes from a newcomer on whom the handler crashes and would have moved the session. -/
theorem transparent_iff_passive (h : Handlers) :
    (h.Transparent ↔ h.Passive) ∧
      ∀ (b : Bridge) (name : String), b.handlers = some h →
        ((b.deliverParticipant name).state = b.state.after b.clock .participantJoined ↔
          ¬(b.registry.contains name = false ∧ (h.onParticipant ⟨name, b.clock⟩).crash ≠ none ∧
            b.state.after b.clock .participantJoined ≠ b.state)) :=
  ⟨⟨passive_of_transparent, transparent_of_passive⟩,
    fun _ name hshown => Bridge.state_deliverParticipant_iff hshown name⟩

def crashing : Handlers :=
  ⟨fun _ => none, fun _ => ⟨[], some (.text "boom")⟩⟩

/-- The first participant establishes the session, but not before the eyes of a handler that crashes. -/
theorem crash_loses_session :
    ((standard Loopback.idle ⟨0⟩ "noon").run (meeting "bob")).2.state =
        .owner ⟨.owner, ⟨1⟩, "lobby", "ann", ⟨0⟩⟩ ∧
      (((standard Loopback.idle ⟨0⟩ "noon").act (.install crashing)).2.run (meeting "bob")).2.state =
        .connecting ⟨.owner, "lobby", "ann", some ⟨1⟩, false, ⟨0⟩⟩ := by
  decide +kernel

end Controller

end SessionBridge
