import SessionBridge.Proofs.Bridge.Acceptance
import SessionBridge.Proofs.Control.Abort
import SessionBridge.Proofs.Control.Archive

/-! Deliveries around the return of an open call. It makes no difference whether the bus delivers while it
still works on the call or when the connect has returned: the attempt remembers a participant who comes
before its id, and the session is established once it has both. -/
namespace SessionBridge

namespace Controller

variable {β γ : Type}

def onBus (c : Controller β) (bus : γ) : Controller γ :=
  ⟨c.config, ⟨bus, c.bridge, c.world.anchors, c.world.exchanges, c.world.notes⟩, c.link⟩

def deliveries (later : List (Timestamp × Callback)) : List Action :=
  later.flatMap fun d => [.tick d.1, .callback d.2]

variable [NativeBus β] [NativeBus γ]

/-- The native calls of a connect succeed with this id. Of these callbacks the open call lets some be
heard; the others come behind the connect, at some of these times. -/
structure Splits (c : Controller β) (mode : SessionMode) (sessionName : String)
    (times : Set Timestamp) (id : SessionId) (calls : List Callback)
    (later : List (Timestamp × Callback)) : Prop where
  registered : c.registration.outcome = .value ()
  opened : (c.request mode sessionName).outcome = .value id
  sequence : (c.request mode sessionName).heard ++ later.map Prod.snd = calls
  within : ∀ d ∈ later, d.1 ∈ times

variable {c : Controller β} {mode : SessionMode} {sessionName handle : String} {times : Set Timestamp}
  {id : SessionId} {calls : List Callback} {later : List (Timestamp × Callback)}

theorem bridge_deliveries (c : Controller β) (later : List (Timestamp × Callback)) :
    (c.run (deliveries later)).2.bridge = c.bridge.hear later := by
  induction later generalizing c with
  | nil => rfl
  | cons d later ih => exact ih ((c.act (.tick d.1)).2.act (.callback d.2)).2

theorem Asked.bridge {o : Outcome NativeFailure SessionId} {w₁ w₂ : World β}
    (hasked : Asked c mode sessionName handle o w₁ w₂) :
    w₂.bridge = (c.request mode sessionName).heard.foldl Bridge.receive
      ((c.registration.heard.foldl Bridge.receive
        (c.bridge.advance (.connect mode sessionName handle))).report .status
          (c.statusLine mode sessionName)) := by
  have hregistered := World.took hasked.registered
  have hopened := World.took hasked.asked
  have hbus : w₁.bus = c.registration.bus := hregistered.bus
  have hbridge := hopened.bridge
  change w₂.bridge = (NativeBus.openSession mode c.config.target sessionName w₁.bus).heard.foldl
    Bridge.receive (w₁.bridge.report .status (c.statusLine mode sessionName)) at hbridge
  rw [hbus, hregistered.bridge] at hbridge
  exact hbridge

theorem Splits.connect (h : c.Splits mode sessionName times id calls later)
    (hallowed : connectRefusal? false c.state sessionName handle = none) :
    (c.connect mode sessionName handle).1 = .value () ∧
      (c.connect mode sessionName handle).2.bridge =
        ((c.request mode sessionName).heard.foldl Bridge.receive
          ((c.registration.heard.foldl Bridge.receive
            (c.bridge.advance (.connect mode sessionName handle))).report .status
              (c.statusLine mode sessionName))).advance (.nativeAccepted id) := by
  obtain ⟨w₁, w₂, hasked, -⟩ := exists_asked hallowed h.registered mode
  have hbridge := hasked.bridge
  rw [h.opened] at hasked
  rw [connect_of_allowed hallowed, openLink_of_asked hasked]
  refine ⟨rfl, ?_⟩
  change w₂.bridge.advance _ = _
  rw [hbridge]

def overhearing (c : Controller β) (mode : SessionMode) (sessionName : String)
    (calls : List Callback) : Bridge :=
  calls.foldl Bridge.receive ((c.registration.heard.foldl Bridge.receive c.bridge).report .status
    (c.statusLine mode sessionName))

theorem Splits.follows (h : c.Splits mode sessionName times id calls later)
    (hidle : c.state = .disconnected) (hname : ¬Blank sessionName) (hhandle : ¬Blank handle)
    (hnow : c.bridge.clock ∈ times) (hcalm : c.bridge.Calm times) :
    Bridge.Follows times ⟨mode, id, sessionName, handle, ⟨0⟩⟩ c.bridge.established true
      ((c.registration.heard ++ calls).any (·.participant?.isSome))
      (c.overhearing mode sessionName calls)
      (c.run (.connect mode sessionName handle :: deliveries later)).2.bridge := by
  obtain ⟨-, hbridge⟩ := h.connect (allowed_of_proper hidle hname hhandle)
  have hadvance : c.bridge.advance (.connect mode sessionName handle) = { c.bridge with
      state := .connecting ⟨mode, sessionName, handle, none, false, c.bridge.clock⟩ } := by
    unfold Bridge.advance Bridge.apply SessionState.transition
    rw [show c.bridge.state = .disconnected from hidle]
    rfl
  have hstart : Bridge.Follows times ⟨mode, id, sessionName, handle, ⟨0⟩⟩ c.bridge.established false
      false c.bridge (c.bridge.advance (.connect mode sessionName handle)) := by
    rw [hadvance]
    exact ⟨hidle, hcalm, hnow, hnow, rfl, rfl, rfl, rfl, .waiting rfl rfl rfl⟩
  have hregistered := (hstart.callbacks c.registration.heard rfl).record .system .status
    (c.statusLine mode sessionName)
  have haccepted := (hregistered.callbacks (c.request mode sessionName).heard rfl).accept rfl
  have hheard := haccepted.hear rfl h.within
  rw [← List.foldl_append, h.sequence, Bool.or_assoc, ← List.any_append, h.sequence, Bool.false_or,
    ← List.any_append] at hheard
  rw [run_cons, bridge_deliveries]
  change Bridge.Follows _ _ _ _ _ _ ((c.connect mode sessionName handle).2.bridge.hear later)
  rw [hbridge]
  exact hheard

omit [NativeBus β] in
theorem opened_of_stands {n : Nat} {xs : List Line} {joined : Bool} {b : Bridge}
    (h : Bridge.Stands ⟨mode, id, sessionName, handle, ⟨0⟩⟩ n xs true joined b) :
    b.state.untimed = .opened mode sessionName handle id ⟨0⟩ joined := by
  cases h with
  | opened hstate => exact hstate
  | established hstate => exact hstate

/-- A connect whose open call returns before the deliveries, behind them, or anywhere between. From a
controller that is disconnected, with handlers that do not crash and whose own messages, if they deliver
any, do not depend on the time, two buses let the same callbacks be heard, each of them any number of the
first ones during the open call and the others when the connect has returned. Both connects succeed, and in
the end the states, the registries, the numbers of established sessions and the calls of handlers are the
same up to times and numbers. So are the transcripts, but for the place of the one line that reports the
session, and in both the entries are numbered by their places. Without a participant there is no such line,
and both controllers are left connecting, with the id. -/
theorem acceptance_commutes_with_deliveries {config : BusConfig} {bus : β} {now : Timestamp}
    {opened : String} {c₀ c : Controller β} {actions : List Action} {bus' : γ}
    {later later' : List (Timestamp × Callback)}
    (hcreate : create config bus now opened = .value c₀) (hrun : (c₀.run actions).2 = c)
    (hidle : c.state = .disconnected) (hname : ¬Blank sessionName) (hhandle : ¬Blank handle)
    (hnow : c.bridge.clock ∈ times) (hcalm : c.bridge.Calm times)
    (hsplits : c.Splits mode sessionName times id calls later)
    (hsplits' : (c.onBus bus').Splits mode sessionName times id calls later')
    (hbefore : (c.onBus bus').registration.heard = c.registration.heard) :
    let d := (c.run (.connect mode sessionName handle :: deliveries later)).2
    let d' := ((c.onBus bus').run (.connect mode sessionName handle :: deliveries later')).2
    let s : Session := ⟨mode, id, sessionName, handle, ⟨0⟩⟩
    let joined := (c.registration.heard ++ calls).any (·.participant?.isSome)
    (c.connect mode sessionName handle).1 = .value () ∧
      ((c.onBus bus').connect mode sessionName handle).1 = .value () ∧
      d.bridge.Indistinct s c.bridge.established joined d'.bridge ∧
      d.bridge.transcript.Dense ∧ d'.bridge.transcript.Dense ∧
      d.state.untimed = .opened mode sessionName handle id ⟨0⟩ joined := by
  intro d d' s joined
  have hallowed := allowed_of_proper hidle hname hhandle
  have hfollows := hsplits.follows hidle hname hhandle hnow hcalm
  have hfollows' := hsplits'.follows (c := c.onBus bus') hidle hname hhandle hnow hcalm
  have hsame : (c.onBus bus').overhearing mode sessionName calls =
      c.overhearing mode sessionName calls := by
    unfold overhearing
    rw [hbefore]
    rfl
  rw [hsame, hbefore] at hfollows'
  have hdense : c.bridge.transcript.Dense := by
    rw [← hrun]
    exact (transcript_extends_run c₀ actions).dense (transcript_dense_create hcreate)
  refine ⟨(hsplits.connect hallowed).1, (hsplits'.connect hallowed).1,
    hfollows.indistinct hfollows', (transcript_extends_run c _).dense hdense,
    (transcript_extends_run (c.onBus bus') _).dense hdense, opened_of_stands hfollows.stands⟩

def welcoming : Handlers :=
  ⟨fun _ => none, fun p => ⟨[("welcome " ++ p.name, 1)], none⟩⟩

theorem calm_welcoming (times : Set Timestamp) : welcoming.Calm times :=
  ⟨fun _ => rfl, fun _ => rfl, fun _ _ _ _ _ => rfl⟩

def hasty : Scripted :=
  Scripted.idle.setHook .advertise .after
    [.callback (.ofParticipant "bob"), .callback (.ofMessage "hi" 1)]

theorem acceptance_commutes_with_deliveries_hasty :
    let c := ((standard hasty ⟨0⟩ "noon").run [.install welcoming]).2
    let d := (c.run (.connect .owner "lobby" "ann" :: deliveries [])).2
    let d' := ((c.onBus Scripted.idle).run (.connect .owner "lobby" "ann" ::
      deliveries [(⟨5⟩, .ofParticipant "bob"), (⟨7⟩, .ofMessage "hi" 1)])).2
    d.bridge.Indistinct ⟨.owner, ⟨1⟩, "lobby", "ann", ⟨0⟩⟩ 0 true d'.bridge ∧
      (d.bridge.lines.drop 2).map Line.text =
        ["bob joined", "welcome bob", "hi", "Session 1 established as Owner"] ∧
      (d'.bridge.lines.drop 2).map Line.text =
        ["bob joined", "welcome bob", "Session 1 established as Owner", "hi"] := by
  intro c d d'
  have hproper : ¬Blank "lobby" ∧ ¬Blank "ann" := by
    simp only [← isBlankText_iff]
    decide
  have hcalm : c.bridge.Calm Set.univ := by
    intro h hhandlers
    cases hhandlers
    exact calm_welcoming _
  have hsplits : c.Splits .owner "lobby" Set.univ ⟨1⟩ [.ofParticipant "bob", .ofMessage "hi" 1] [] :=
    ⟨by decide +kernel, by decide +kernel, by decide +kernel, fun _ _ => trivial⟩
  have hsplits' : (c.onBus Scripted.idle).Splits .owner "lobby" Set.univ ⟨1⟩
      [.ofParticipant "bob", .ofMessage "hi" 1]
      [(⟨5⟩, .ofParticipant "bob"), (⟨7⟩, .ofMessage "hi" 1)] :=
    ⟨by decide +kernel, by decide +kernel, by decide +kernel, fun _ _ => trivial⟩
  have hbefore : (c.onBus Scripted.idle).registration.heard = c.registration.heard := by
    decide +kernel
  have hrun : ((standard hasty ⟨0⟩ "noon").run [.install welcoming]).2 = c := rfl
  obtain ⟨-, -, hsame, -⟩ := acceptance_commutes_with_deliveries (create_standard hasty ⟨0⟩ "noon")
    hrun rfl hproper.1 hproper.2 (Set.mem_univ _) hcalm hsplits hsplits' hbefore
  exact ⟨hsame, by decide +kernel, by decide +kernel⟩

end Controller

end SessionBridge
