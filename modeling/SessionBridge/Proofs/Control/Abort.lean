import SessionBridge.Bus.Scripted
import SessionBridge.Proofs.Control.Balance
import SessionBridge.Proofs.Control.Turn

/-! A connect that fails, and the connects behind it. All that stays of a failed connect is what was
written down meanwhile, and an anchor if nobody knows whether the callbacks have stopped; so the next
connect starts where the first one did. -/
namespace SessionBridge

/-! ### States -/

namespace SessionState

def opened (mode : SessionMode) (sessionName handle : String) (id : SessionId) (now : Timestamp)
    (joined : Bool) : SessionState :=
  let a : Attempt := ⟨mode, sessionName, handle, some id, false, now⟩
  if joined then established (a.establish id now) else connecting a

def bare : SessionState → SessionState
  | disconnected => disconnected
  | connecting a =>
    connecting { a with sessionId := a.sessionId.map fun _ => ⟨0⟩, startedAt := ⟨0⟩ }
  | owner s => owner { s with id := ⟨0⟩, establishedAt := ⟨0⟩ }
  | joined s => joined { s with id := ⟨0⟩, establishedAt := ⟨0⟩ }

def Alike (s t : SessionState) : Prop :=
  s.bare = t.bare

theorem alike_opened (mode : SessionMode) (sessionName handle : String) (id id' : SessionId)
    (now now' : Timestamp) (joined : Bool) :
    (opened mode sessionName handle id now joined).Alike
      (opened mode sessionName handle id' now' joined) := by
  cases joined <;> cases mode <;> rfl

theorem after_nativeAccepted (mode : SessionMode) (sessionName handle : String) (id : SessionId)
    (now : Timestamp) (joined : Bool) :
    (connecting ⟨mode, sessionName, handle, none, joined, now⟩).after now (.nativeAccepted id) =
      opened mode sessionName handle id now joined := by
  cases joined <;> rfl

end SessionState

/-! ### Bridges on which an attempt waits -/

def BridgeEvent.isNews : BridgeEvent → Bool
  | transcript _ | participantJoined _ => true
  | sessionEstablished _ | disconnected => false

namespace Bridge

/-- Nothing has come or gone since but lines and newcomers. -/
structure Quiet (b b' : Bridge) : Prop where
  established : b'.established = b.established
  published : ∃ events, b'.feed.published.toList = b.feed.published.toList ++ events ∧
    ∀ e ∈ events, e.isNews = true
  transcript : b.transcript.toList <+: b'.transcript.toList

variable {b b' : Bridge}

theorem Quiet.refl (b : Bridge) : b.Quiet b :=
  ⟨rfl, ⟨[], (List.append_nil _).symm, nofun⟩, List.prefix_refl _⟩

theorem Quiet.unseen (h : b.Quiet b') {b'' : Bridge} (hjournal : b''.journal = b'.journal)
    (hestablished : b''.established = b'.established) : b.Quiet b'' := by
  obtain ⟨established, published, transcript⟩ := h
  unfold feed Bridge.transcript at *
  rw [← hjournal] at published transcript
  exact ⟨hestablished.trans established, published, transcript⟩

theorem Quiet.publish (h : b.Quiet b') {e : BridgeEvent} (he : e.isNews = true) :
    b.Quiet (b'.publish e) := by
  obtain ⟨events, hpublished, hnews⟩ := h.published
  refine ⟨h.established, ⟨events ++ [e], ?_, ?_⟩, h.transcript⟩
  · rw [← List.append_assoc, ← hpublished]
    exact Array.toList_push
  · intro e' hmem
    rcases List.mem_append.mp hmem with hmem | hmem
    · exact hnews e' hmem
    · rw [List.mem_singleton.mp hmem]
      exact he

theorem Quiet.record (h : b.Quiet b') (origin : Origin) (kind : InformType) (text : String) :
    b.Quiet (b'.record origin kind text) := by
  have hpublished := h.publish (e := .transcript (b'.transcript.place (b'.line origin kind text))) rfl
  refine ⟨h.established, hpublished.published, h.transcript.trans ?_⟩
  exact ⟨_, (Transcript.toList_append _ _).symm⟩

theorem steady_quiet (b : Bridge) (mode : SessionMode) (sessionName handle : String) :
    Steady fun b' => b'.state.Awaits mode sessionName handle ∧ b.Quiet b' where
  record b' origin kind text _ h := ⟨h.1, h.2.record origin kind text⟩
  showed _ _ h := ⟨h.1, h.2.unseen rfl rfl⟩
  enroll b' p _ h := by
    have hentered : b.Quiet { b' with registry := b'.registry.insert p } := h.2.unseen rfl rfl
    exact ⟨h.1, (hentered.record .system .status _).publish rfl⟩
  join b' h := by
    obtain ⟨hawaits, hquiet⟩ := h
    refine ⟨?_, ?_⟩
    · rw [state_advance]
      exact SessionState.keptByJoins_awaits mode sessionName handle _ _ hawaits
    · have hadvances := b'.advance_advances .participantJoined
      generalize b'.advance .participantJoined = b'' at hadvances
      cases hadvances with
      | rejected => exact hquiet
      | moved => exact hquiet.unseen rfl rfl
      | established hnext =>
        obtain ⟨a, hstate⟩ := hawaits.eq_connecting
        rw [hstate] at hawaits hnext
        obtain ⟨-, -, -, hid⟩ := hawaits
        simp [SessionState.next?, hid] at hnext

/-- Since `b` an attempt waits for its id, and these callbacks have been heard. -/
structure Waits (mode : SessionMode) (sessionName handle : String) (b : Bridge)
    (calls : List Callback) (b' : Bridge) : Prop where
  state : b'.state = .connecting ⟨mode, sessionName, handle, none, b.tells calls, b.clock⟩
  quiet : b.Quiet b'
  registry : b'.registry = (b.registry.registerAll (Callback.reports b.clock calls)).2
  clock : b'.clock = b.clock
  handlers : b'.handlers = b.handlers

variable {mode : SessionMode} {sessionName handle : String} {calls : List Callback}

theorem waits_connect (hstate : b.state = .disconnected) (mode : SessionMode)
    (sessionName handle : String) :
    Waits mode sessionName handle b [] (b.advance (.connect mode sessionName handle)) := by
  have hadvance : b.advance (.connect mode sessionName handle) =
      { b with state := .connecting ⟨mode, sessionName, handle, none, false, b.clock⟩ } := by
    unfold advance apply SessionState.transition
    rw [hstate]
    rfl
  rw [hadvance]
  exact ⟨rfl, (Quiet.refl b).unseen rfl rfl, rfl, rfl, rfl⟩

theorem Waits.hears (h : Waits mode sessionName handle b calls b') (more : List Callback) :
    Waits mode sessionName handle b (calls ++ more) (more.foldl receive b') where
  state := by
    have hsame : (calls.foldl receive b).tells more = b'.tells more := by
      refine (tells_congr ?_ ?_ ?_ more).symm
      · rw [h.registry, registry_callbacks]
      · rw [h.handlers, handlers_callbacks]
      · rw [h.clock, clock_callbacks]
    rw [state_callbacks_connecting h.state rfl, tells_append, hsame]
  quiet := ((steady_quiet b mode sessionName handle).callbacks more
    ⟨by rw [h.state]; exact ⟨rfl, rfl, rfl, rfl⟩, h.quiet⟩).2
  registry := by
    rw [registry_callbacks, h.registry, h.clock, Callback.reports_append,
      Registry.registerAll_append]
  clock := (clock_callbacks b' more).trans h.clock
  handlers := (handlers_callbacks b' more).trans h.handlers

theorem Waits.report (h : Waits mode sessionName handle b calls b') (kind : InformType)
    (text : String) : Waits mode sessionName handle b calls (b'.report kind text) :=
  ⟨h.state, h.quiet.record .system kind text, h.registry, h.clock, h.handlers⟩

theorem Waits.fails (h : Waits mode sessionName handle b calls b') (reason : String) :
    b'.advance (.connectFailed reason) = { b' with state := .disconnected } := by
  unfold advance apply SessionState.transition
  rw [h.state]
  rfl

end Bridge

/-! ### The native calls of a connect -/

namespace Controller

variable {β : Type} [NativeBus β]

def registration (c : Controller β) : Turn β Unit :=
  NativeBus.registerCallbacks ⟨c.world.anchors.next⟩ c.world.bus

def request (c : Controller β) (mode : SessionMode) (sessionName : String) : Turn β SessionId :=
  NativeBus.openSession mode c.config.target sessionName c.registration.bus

def withdrawal (c : Controller β) (mode : SessionMode) (sessionName : String) : Turn β Unit :=
  NativeBus.clearCallbacks (c.request mode sessionName).bus

/-- How the native calls of a connect fail: with which failure, whether the clear that follows fails too,
what is heard meanwhile, and the bus behind them. -/
inductive Fails (c : Controller β) (mode : SessionMode) (sessionName : String) :
    NativeFailure → Bool → List Callback → β → Prop where
  | unregistered {f : NativeFailure} (hregister : c.registration.outcome = .failure f) :
      Fails c mode sessionName f false c.registration.heard c.registration.bus
  | withdrawn {f : NativeFailure} (hregister : c.registration.outcome = .value ())
      (hrequest : (c.request mode sessionName).outcome = .failure f)
      (hclear : (c.withdrawal mode sessionName).outcome = .value ()) :
      Fails c mode sessionName f false
        (c.registration.heard ++ (c.request mode sessionName).heard ++
          (c.withdrawal mode sessionName).heard)
        (c.withdrawal mode sessionName).bus
  | leaked {f f' : NativeFailure} (hregister : c.registration.outcome = .value ())
      (hrequest : (c.request mode sessionName).outcome = .failure f)
      (hclear : (c.withdrawal mode sessionName).outcome = .failure f') :
      Fails c mode sessionName f true
        (c.registration.heard ++ (c.request mode sessionName).heard ++
          (c.withdrawal mode sessionName).heard)
        (c.withdrawal mode sessionName).bus

structure Opens (c : Controller β) (mode : SessionMode) (sessionName : String) (id : SessionId)
    (calls : List Callback) : Prop where
  registered : c.registration.outcome = .value ()
  opened : (c.request mode sessionName).outcome = .value id
  heard : calls = c.registration.heard ++ (c.request mode sessionName).heard

variable {c : Controller β} {mode : SessionMode} {sessionName handle : String}

theorem exists_registered (hstate : c.state = .disconnected) (mode : SessionMode)
    (sessionName handle : String) :
    ∃ w₁, (c.opening mode sessionName handle).registerCallbacks ⟨c.world.anchors.next⟩ =
        (c.registration.outcome, w₁) ∧ w₁.bus = c.registration.bus ∧
      w₁.anchors = c.world.anchors.issue ∧
      Bridge.Waits mode sessionName handle c.bridge c.registration.heard w₁.bridge := by
  rcases hregister : (c.opening mode sessionName handle).registerCallbacks
    ⟨c.world.anchors.next⟩ with ⟨o, w₁⟩
  obtain ⟨rfl, hbus, hbridge⟩ := World.took hregister
  refine ⟨w₁, rfl, hbus, (World.performed hregister).anchors, ?_⟩
  rw [hbridge]
  exact (Bridge.waits_connect hstate mode sessionName handle).hears c.registration.heard

theorem exists_asked (hallowed : connectRefusal? false c.state sessionName handle = none)
    (hregister : c.registration.outcome = .value ()) (mode : SessionMode) :
    ∃ w₁ w₂, Asked c mode sessionName handle (c.request mode sessionName).outcome w₁ w₂ ∧
      w₂.bus = (c.request mode sessionName).bus ∧ w₂.anchors = c.world.anchors.issue ∧
      Bridge.Waits mode sessionName handle c.bridge
        (c.registration.heard ++ (c.request mode sessionName).heard) w₂.bridge := by
  obtain ⟨w₁, hregistered, hbus, hanchors, hwaits⟩ :=
    exists_registered (disconnected_of_allowed hallowed) mode sessionName handle
  rw [hregister] at hregistered
  rcases hask : (w₁.report .status (c.statusLine mode sessionName)).openSession mode
    c.config.target sessionName with ⟨o, w₂⟩
  have htook := World.took hask
  change World.Took (NativeBus.openSession mode c.config.target sessionName w₁.bus) _ o w₂ at htook
  rw [hbus] at htook
  obtain ⟨rfl, hbus₂, hbridge⟩ := htook
  refine ⟨w₁, w₂, ⟨hallowed, hregistered, hask⟩, hbus₂, ?_, ?_⟩
  · exact (World.performed hask).anchors.trans hanchors
  · rw [hbridge]
    exact (hwaits.report .status _).hears _

theorem exists_withdrawn {f : NativeFailure}
    (hallowed : connectRefusal? false c.state sessionName handle = none)
    (hregister : c.registration.outcome = .value ())
    (hrequest : (c.request mode sessionName).outcome = .failure f) :
    ∃ w₁ w₂ w₃, Asked c mode sessionName handle (.failure f) w₁ w₂ ∧
      w₂.clearCallbacks true = ((c.withdrawal mode sessionName).outcome, w₃) ∧
      w₃.bus = (c.withdrawal mode sessionName).bus ∧ w₃.anchors = c.world.anchors.issue ∧
      Bridge.Waits mode sessionName handle c.bridge
        (c.registration.heard ++ (c.request mode sessionName).heard ++
          (c.withdrawal mode sessionName).heard) w₃.bridge := by
  obtain ⟨w₁, w₂, hasked, hbus, hanchors, hwaits⟩ := exists_asked hallowed hregister mode
  rw [hrequest] at hasked
  rcases hclear : w₂.clearCallbacks true with ⟨o, w₃⟩
  have htook := World.took hclear
  rw [hbus] at htook
  obtain ⟨rfl, hbus₃, hbridge⟩ := htook
  refine ⟨w₁, w₂, w₃, hasked, hclear, hbus₃, (World.performed hclear).anchors.trans hanchors, ?_⟩
  rw [hbridge]
  exact hwaits.hears _

theorem connect_of_allowed (hallowed : connectRefusal? false c.state sessionName handle = none) :
    c.connect mode sessionName handle =
      match openLink c.config.target c.world.anchors.next mode sessionName
        (c.opening mode sessionName handle) with
      | (.panic, w) => (.panic, { c with world := w })
      | (.failure e, w) => (.failure e, { c with world := w })
      | (.value id, w) => (.value (), { c with
          world := w.advance (.nativeAccepted id)
          link := some ⟨c.config.target, c.world.anchors.next, sessionName⟩ }) := by
  unfold connect
  rw [hallowed]
  rfl

theorem openLink_of_asked {o : Outcome NativeFailure SessionId} {w₁ w₂ : World β}
    (hasked : Asked c mode sessionName handle o w₁ w₂) :
    openLink c.config.target c.world.anchors.next mode sessionName
        (c.opening mode sessionName handle) =
      match o with
      | .panic => (.panic, w₂.releaseAnchor c.world.anchors.next)
      | .value id => (.value id, w₂)
      | .failure f => withdraw c.world.anchors.next f w₂ := by
  have hask := hasked.asked
  unfold statusLine at hask
  unfold openLink
  rw [hasked.registered]
  dsimp only
  rw [hask]
  cases o <;> rfl

theorem Fails.connect {f : NativeFailure} {leaks : Bool} {calls : List Callback} {bus : β}
    (h : c.Fails mode sessionName f leaks calls bus)
    (hallowed : connectRefusal? false c.state sessionName handle = none) :
    ∃ w : World β, Bridge.Waits mode sessionName handle c.bridge calls w.bridge ∧ w.bus = bus ∧
      w.anchors = (if leaks then c.world.anchors.issue.leak c.world.anchors.next
        else c.world.anchors.issue.release c.world.anchors.next) ∧
      c.connect mode sessionName handle =
        (.failure (.native f), { c with world := abortConnect f w }) := by
  rw [connect_of_allowed hallowed]
  cases h with
  | unregistered hregister =>
    obtain ⟨w₁, hregistered, hbus, hanchors, hwaits⟩ :=
      exists_registered (disconnected_of_allowed hallowed) mode sessionName handle
    rw [hregister] at hregistered
    refine ⟨w₁.releaseAnchor c.world.anchors.next, hwaits, hbus,
      congrArg (Anchors.release · c.world.anchors.next) hanchors, ?_⟩
    rw [openLink, hregistered]
    rfl
  | withdrawn hregister hrequest hclear =>
    obtain ⟨w₁, w₂, w₃, hasked, hcleared, hbus, hanchors, hwaits⟩ :=
      exists_withdrawn hallowed hregister hrequest
    rw [hclear] at hcleared
    refine ⟨w₃.releaseAnchor c.world.anchors.next, hwaits, hbus,
      congrArg (Anchors.release · c.world.anchors.next) hanchors, ?_⟩
    rw [openLink_of_asked hasked]
    dsimp only
    rw [withdraw, hcleared]
  | leaked hregister hrequest hclear =>
    obtain ⟨w₁, w₂, w₃, hasked, hcleared, hbus, hanchors, hwaits⟩ :=
      exists_withdrawn hallowed hregister hrequest
    rw [hclear] at hcleared
    refine ⟨w₃.leakAnchor c.world.anchors.next, hwaits, hbus,
      congrArg (Anchors.leak · c.world.anchors.next) hanchors, ?_⟩
    rw [openLink_of_asked hasked]
    dsimp only
    rw [withdraw, hcleared]

theorem Opens.connect {id : SessionId} {calls : List Callback} (h : c.Opens mode sessionName id calls)
    (hallowed : connectRefusal? false c.state sessionName handle = none) :
    (c.connect mode sessionName handle).1 = .value () ∧
      (c.connect mode sessionName handle).2.state =
        .opened mode sessionName handle id c.bridge.clock (c.bridge.tells calls) := by
  obtain ⟨w₁, w₂, hasked, -, -, hwaits⟩ := exists_asked hallowed h.registered mode
  rw [h.opened] at hasked
  rw [← h.heard] at hwaits
  rw [connect_of_allowed hallowed, openLink_of_asked hasked]
  refine ⟨rfl, ?_⟩
  change (w₂.bridge.advance (.nativeAccepted id)).state = _
  rw [Bridge.state_advance, hwaits.state, hwaits.clock]
  exact SessionState.after_nativeAccepted mode sessionName handle id _ _

omit [NativeBus β] in
theorem allowed_of_proper (hidle : c.state = .disconnected) (hname : ¬Blank sessionName)
    (hhandle : ¬Blank handle) : connectRefusal? false c.state sessionName handle = none := by
  unfold connectRefusal?
  rw [if_neg (mt isBlankText_iff.mp hname), if_neg (mt isBlankText_iff.mp hhandle),
    if_neg Bool.false_ne_true, if_pos (SessionState.isDisconnected_iff.mpr hidle)]

theorem count_issue_settled (a : Anchors) (leaks : Bool) :
    (if leaks then a.issue.leak a.next else a.issue.release a.next).count =
      a.count + if leaks then 1 else 0 := by
  have hheld : a.issue.isHeld a.next = true := List.contains_iff_mem.mpr List.mem_cons_self
  cases leaks with
  | true => exact (Anchors.count_leak hheld).trans a.count_issue
  | false => exact Nat.succ.inj ((Anchors.count_release hheld).trans a.count_issue)

/-- What a connect that failed has left of the controller `c`: what was written down meanwhile, and an
anchor if nobody knows whether the callbacks have stopped. -/
structure Restores (c c' : Controller β) (f : NativeFailure) (leaks : Bool) (calls : List Callback)
    (bus : β) : Prop where
  state : c'.state = .disconnected
  unlinked : c'.link = none
  bus : c'.world.bus = bus
  established : c'.bridge.established = c.bridge.established
  published : ∃ events, c'.bridge.feed.published.toList = c.bridge.feed.published.toList ++ events ∧
    ∀ e ∈ events, e.isNews = true
  transcript : ∃ before, c.bridge.transcript.toList <+: before ∧ c'.bridge.transcript.toList =
    before ++ [⟨⟨c.bridge.clock, .system, .error, "Connect failed: " ++ f.message⟩, before.length⟩]
  count : c'.world.anchors.count = c.world.anchors.count + (if leaks then 1 else 0)
  registry : c'.bridge.registry =
    (c.bridge.registry.registerAll (Callback.reports c.bridge.clock calls)).2

/-- Every connect from here whose native calls succeed leads to the state of its own arguments, which is
like that of any first connect in which a participant gets through to the session, or none does, as
well. -/
def Restarts (c : Controller β) : Prop :=
  ∀ mode sessionName handle id calls, c.state = .disconnected → ¬Blank sessionName → ¬Blank handle →
    c.Opens mode sessionName id calls →
    (c.connect mode sessionName handle).1 = .value () ∧
      (c.connect mode sessionName handle).2.state =
        .opened mode sessionName handle id c.bridge.clock (c.bridge.tells calls) ∧
      ∀ {γ : Type} [NativeBus γ] (first : Controller γ) id₁ calls₁,
        first.state = .disconnected → first.Opens mode sessionName id₁ calls₁ →
        first.bridge.tells calls₁ = c.bridge.tells calls →
        (c.connect mode sessionName handle).2.state.Alike
          (first.connect mode sessionName handle).2.state

theorem Fails.restores {f : NativeFailure} {leaks : Bool} {calls : List Callback} {bus : β}
    (h : c.Fails mode sessionName f leaks calls bus)
    (hallowed : connectRefusal? false c.state sessionName handle = none) (hlink : c.link = none) :
    (c.connect mode sessionName handle).1 = .failure (.native f) ∧
      c.Restores (c.connect mode sessionName handle).2 f leaks calls bus := by
  obtain ⟨w, hwaits, hbus, hanchors, hconnect⟩ := h.connect hallowed
  rw [hconnect]
  have hbridge : (abortConnect f w).bridge =
      ({ w.bridge with state := .disconnected } : Bridge).report .error
        ("Connect failed: " ++ f.message) := by
    rw [← hwaits.fails f.message]
    rfl
  have hstopped : c.bridge.Quiet { w.bridge with state := .disconnected } :=
    hwaits.quiet.unseen rfl rfl
  have hquiet : c.bridge.Quiet (abortConnect f w).bridge := by
    rw [hbridge]
    exact hstopped.record .system .error _
  refine ⟨rfl, congrArg Bridge.state hbridge, hlink, hbus, hquiet.established, hquiet.published,
    ⟨w.bridge.transcript.toList, hwaits.quiet.transcript, ?_⟩, ?_, ?_⟩
  · change (abortConnect f w).bridge.transcript.toList = _
    rw [hbridge, ← hwaits.clock, Transcript.length_toList]
    exact Transcript.toList_append _ _
  · change w.anchors.count = _
    rw [hanchors]
    exact count_issue_settled c.world.anchors leaks
  · change (abortConnect f w).bridge.registry = _
    rw [hbridge]
    exact hwaits.registry

theorem restarts (c : Controller β) : c.Restarts := by
  intro mode sessionName handle id calls hidle hname hhandle hopens
  obtain ⟨hvalue, hstate⟩ := hopens.connect (allowed_of_proper hidle hname hhandle)
  refine ⟨hvalue, hstate, ?_⟩
  intro γ _ first id₁ calls₁ hfirst hopens₁ htold
  obtain ⟨-, hstate₁⟩ := hopens₁.connect (allowed_of_proper hfirst hname hhandle)
  rw [hstate, hstate₁, htold]
  exact SessionState.alike_opened ..

/-- A connect whose registration or open call fails returns that failure, also if the clear behind it
fails. Whatever is heard meanwhile, the controller is disconnected and without a link as before; no
session was established, and nothing was published but lines and newcomers; the last line says what
failed; the account has one anchor more exactly if the clear failed, and the registry is what the
reports made of it. Wherever the controller gets from there, nothing of the failed connect is left in
the state of another one. Without reports nobody gets through to a session, and with a handler that never
crashes everybody does. -/
theorem failed_connect_restores {config : BusConfig} {bus bus' : β} {now : Timestamp}
    {opened : String} {c₀ c : Controller β} {actions : List Action} {f : NativeFailure} {leaks : Bool}
    {calls : List Callback} (hcreate : create config bus now opened = .value c₀)
    (hrun : (c₀.run actions).2 = c) (hidle : c.state = .disconnected) (hname : ¬Blank sessionName)
    (hhandle : ¬Blank handle) (hfails : c.Fails mode sessionName f leaks calls bus') :
    let c' := (c.connect mode sessionName handle).2
    (c.connect mode sessionName handle).1 = .failure (.native f) ∧
      c.Restores c' f leaks calls bus' ∧ (∀ actions', (c'.run actions').2.Restarts) ∧
      (∀ (b : Bridge) calls, (∀ call ∈ calls, call.participant? = none) → b.tells calls = false) ∧
      ∀ (b : Bridge) calls, (∀ p, b.crashesOn p = false) →
        b.tells calls = calls.any (·.participant?.isSome) := by
  intro c'
  have hallowed := allowed_of_proper hidle hname hhandle
  have hsettled := settled_run (settled_create hcreate).1 actions
  rw [hrun] at hsettled
  obtain ⟨hresult, hrestores⟩ := hfails.restores hallowed (hsettled.link_eq_none hallowed)
  exact ⟨hresult, hrestores, fun actions' => (c'.run actions').2.restarts,
    fun _ _ => Bridge.tells_eq_false, fun _ calls h => Bridge.tells_of_harmless h calls⟩

def faltering : Scripted :=
  ((Scripted.idle.failWith (Loopback.injected .advertise)).failWith
    (Loopback.injected .clearCallbacks)).setHook .advertise .before
      [.callback (.ofParticipant "bob")]

theorem failed_connect_restores_faltering :
    let c := standard faltering ⟨0⟩ "noon"
    let c' := (c.connect .owner "lobby" "ann").2
    create .standard faltering ⟨0⟩ "noon" = .value c ∧
      (c.connect .owner "lobby" "ann").1 = .failure (.native (Loopback.injected .advertise)) ∧
      c'.state = .disconnected ∧ c'.world.anchors.count = 0 + 1 ∧
      c'.bridge.registry.toList = [⟨"bob", ⟨0⟩⟩] ∧
      (c'.connect .joiner "den" "ann").2.state =
        .opened .joiner "den" "ann" ⟨1⟩ c'.bridge.clock false := by
  intro c c'
  have hcreate : create .standard faltering ⟨0⟩ "noon" = .value c := create_standard _ _ _
  have hproper : ¬Blank "lobby" ∧ ¬Blank "den" ∧ ¬Blank "ann" := by
    simp only [← isBlankText_iff]
    decide
  have hregister : c.registration.outcome = .value () := by decide +kernel
  have hrequest : (c.request .owner "lobby").outcome =
      .failure (Loopback.injected .advertise) := by decide +kernel
  have hclear : (c.withdrawal .owner "lobby").outcome =
      .failure (Loopback.injected .clearCallbacks) := by decide +kernel
  have hrun : (c.run []).2 = c := rfl
  obtain ⟨hresult, hrestores, hnext, -⟩ := failed_connect_restores hcreate hrun rfl hproper.1
    hproper.2.2 (.leaked hregister hrequest hclear)
  have hopens : c'.Opens .joiner "den" ⟨1⟩ [] :=
    ⟨by decide +kernel, by decide +kernel, by decide +kernel⟩
  have hsecond := hnext [] .joiner "den" "ann" ⟨1⟩ []
  simp only [run_nil, Bridge.tells] at hsecond
  refine ⟨hcreate, hresult, hrestores.state, ?_, ?_,
    (hsecond hrestores.state hproper.2.1 hproper.2.2 hopens).2.1⟩
  · rw [hrestores.count]
    rfl
  · rw [hrestores.registry]
    decide +kernel

end Controller

end SessionBridge
