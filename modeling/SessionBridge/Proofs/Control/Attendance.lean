import SessionBridge.Proofs.Bridge.Audience
import SessionBridge.Proofs.Control.Archive
import SessionBridge.Proofs.Control.Membership

/-! Handlers over a whole life. The first ones that are installed stay, and from then on they are called
with exactly what the log and the registry take in, through failed operations, disconnects and
reconnects, and while the controller is given up; before that nobody is called. -/
namespace SessionBridge

namespace Bridge

theorem abiding_handlers (handlers? : Option Handlers) :
    Abiding fun b => b.handlers = handlers? where
  unseen _ _ _ _ hhandlers _ h := hhandlers.trans h
  report _ _ _ h := h
  publish _ _ _ h := h
  message b text code h := (b.contains_deliverMessage text code).handlers.trans h
  participant b name h :=
    ((steady_surroundings b.clock b.handlers).deliverParticipant name ⟨rfl, rfl⟩).2.trans h

def Unattended (b : Bridge) : Prop :=
  b.handlers = none ∧ b.shown = #[]

theorem abiding_unattended : Abiding Unattended where
  unseen b b' _ _ hhandlers hshown h := ⟨hhandlers.trans h.1, hshown.trans h.2⟩
  report _ _ _ h := h
  publish _ _ _ h := h
  message b text code h := by
    rw [deliverMessage_bare h.1]
    exact h
  participant b name h := by
    have hhandlers := (abiding_handlers none).participant b name h.1
    exact ⟨hhandlers, (shown_deliverParticipant_bare h.1 name).trans h.2⟩

/-- There are handlers, and they have seen what was added to the first bridge. -/
def Attended (b b' : Bridge) : Prop :=
  b'.isInstalled = true ∧ ∃ entries joined, b.Attends b' entries joined

theorem abiding_attended (b : Bridge) : Abiding b.Attended where
  unseen b' b'' hjournal hregistry hhandlers hshown h := by
    obtain ⟨hinstalled, entries, joined, hattends⟩ := h
    exact ⟨(congrArg Option.isSome hhandlers).trans hinstalled, _, _,
      hattends.trans (attends_unseen hjournal hregistry hshown)⟩
  report b' kind text h := by
    obtain ⟨hinstalled, entries, joined, hattends⟩ := h
    obtain ⟨_, hreport⟩ := b'.attends_report kind text
    exact ⟨hinstalled, _, _, hattends.trans hreport⟩
  publish b' e _ h := by
    obtain ⟨hinstalled, entries, joined, hattends⟩ := h
    exact ⟨hinstalled, _, _, hattends.trans (b'.attends_publish e)⟩
  message b' text code h := by
    obtain ⟨hinstalled, entries, joined, hattends⟩ := h
    obtain ⟨_, hdeliver⟩ := attends_deliverMessage hinstalled text code
    exact ⟨(b'.isInstalled_deliverMessage text code).trans hinstalled, _, _, hattends.trans hdeliver⟩
  participant b' name h := by
    obtain ⟨hinstalled, entries, joined, hattends⟩ := h
    obtain ⟨_, _, hdeliver⟩ := attends_deliverParticipant hinstalled name
    have hsame := (abiding_handlers b'.handlers).participant b' name rfl
    exact ⟨(congrArg Option.isSome hsame).trans hinstalled, _, _, hattends.trans hdeliver⟩

theorem Attended.witnessed {b b' : Bridge} {t : Transcript} {r : Registry} (h : b.Attended b')
    (hbefore : b.shown = #[]) (hdense : t.Dense) (htranscript : t.Extends b'.transcript)
    (hindexed : r.Indexed) (hregistry : r.Extends b'.registry) : b.Witnessed b' := by
  obtain ⟨-, entries, joined, hattends⟩ := h
  obtain ⟨reports, hreports⟩ := hregistry
  apply hattends.witnessed hbefore (htranscript.dense hdense)
  rw [hreports]
  exact hindexed.registerAll reports

theorem install_attended {b : Bridge} {h : Handlers} (hhandlers : b.handlers = some h)
    (h' : Handlers) : b.install h' = (.alreadyInstalled, b) := by
  simp only [install, hhandlers]

theorem install_unattended {b : Bridge} (hbare : b.handlers = none) (h : Handlers) :
    b.install h = (.installed, { b with handlers := some h }) := by
  simp only [install, hbare]

end Bridge

namespace Controller

variable {β : Type} [NativeBus β] {c : Controller β}

theorem unattended_run (h : c.bridge.Unattended) {actions : List Action}
    (hbare : ∀ handlers, .install handlers ∉ actions) : (c.run actions).2.bridge.Unattended :=
  abides_run Bridge.abiding_unattended (fun _ _ h => h) h
    fun handlers hmem => absurd hmem (hbare handlers)

theorem handlers_run {h : Handlers} (hhandlers : c.bridge.handlers = some h) (actions : List Action) :
    (c.run actions).2.bridge.handlers = some h := by
  apply abides_run (Bridge.abiding_handlers (some h)) (fun _ _ h => h) hhandlers
  intro handlers _ b hb
  rw [Bridge.install_attended hb]
  exact hb

theorem attended_run (hinstalled : c.bridge.isInstalled = true) (actions : List Action) :
    c.bridge.Attended (c.run actions).2.bridge := by
  apply abides_run (Bridge.abiding_attended c.bridge) _ ⟨hinstalled, _, _, .refl _⟩
  · intro handlers _ b hb
    obtain ⟨h, hhandlers⟩ := Option.isSome_iff_exists.mp hb.1
    rw [Bridge.install_attended hhandlers]
    exact hb
  · intro b text hb
    obtain ⟨hinstalled, entries, joined, hattends⟩ := hb
    exact ⟨hinstalled, _, _, hattends.trans (b.attends_record .outbound .status text nofun)⟩

theorem attended_release {b : Bridge} (h : b.Attended c.bridge) : b.Attended c.release.2.bridge := by
  apply abides_release (Bridge.abiding_attended b)
  obtain ⟨hinstalled, entries, joined, hattends⟩ := h
  refine ⟨?_, _, _, hattends.trans (Bridge.attends_unseen rfl rfl rfl)⟩
  exact Option.isSome_map.trans hinstalled

theorem unattended_release (h : c.bridge.Unattended) : c.release.2.bridge.Unattended := by
  apply abides_release Bridge.abiding_unattended
  exact ⟨congrArg (Option.map Handlers.muted) h.1, h.2⟩

theorem attended_install (hbare : c.bridge.handlers = none) (h : Handlers) (after : List Action) :
    (c.run (.install h :: after)).2.bridge.handlers = some h ∧
      c.bridge.Attended (c.run (.install h :: after)).2.bridge := by
  have hbridge : (c.act (.install h)).2.bridge = { c.bridge with handlers := some h } :=
    congrArg Prod.snd (Bridge.install_unattended hbare h)
  have hhandlers : (c.act (.install h)).2.bridge.handlers = some h := by rw [hbridge]
  refine ⟨handlers_run hhandlers after, ?_⟩
  obtain ⟨hinstalled, entries, joined, hattends⟩ :=
    attended_run (c := (c.act (.install h)).2) (congrArg Option.isSome hhandlers) after
  rw [hbridge] at hattends
  exact ⟨hinstalled, entries, joined, hattends.log, hattends.messages, hattends.members,
    hattends.participants⟩

/-- Handlers see exactly what is recorded, in every life of a controller. Until handlers are installed
nobody is called. The first installation takes effect, every later one is told so and changes nothing,
so that only the first handlers are ever called. They have been called, at any moment from then on and
even while the controller is given up, with the entries that came from the bus since their installation
and with the participants who joined since, as these are stored and in their order, each once and
whatever crashed. -/
theorem handlers_see_what_is_recorded {config : BusConfig} {bus : β} {now : Timestamp}
    {opened : String} {c₀ : Controller β} (hcreate : create config bus now opened = .value c₀)
    {before : List Action} (hbefore : ∀ handlers, .install handlers ∉ before) :
    let c₁ := (c₀.run before).2
    (c₁.bridge.handlers = none ∧ c₁.bridge.shown = #[] ∧ c₁.release.2.bridge.shown = #[]) ∧
      ∀ (h : Handlers) (after : List Action),
        let c := (c₀.run (before ++ .install h :: after)).2
        (c₁.bridge.install h).1 = .installed ∧ c.bridge.handlers = some h ∧
          (∀ h', c.bridge.install h' = (.alreadyInstalled, c.bridge)) ∧
          c₁.bridge.Witnessed c.bridge ∧ c₁.bridge.Witnessed c.release.2.bridge := by
  intro c₁
  have hdense := transcript_dense_create hcreate
  have hstart : c₀.bridge.Unattended ∧ c₀.bridge.registry.Indexed := by
    obtain ⟨-, feed, -, rfl⟩ := create_eq_value_iff.mp hcreate
    exact ⟨⟨rfl, rfl⟩, Registry.indexed_empty⟩
  obtain ⟨hunattended, hindexed⟩ := hstart
  have hbare : c₁.bridge.Unattended := unattended_run hunattended hbefore
  refine ⟨⟨hbare.1, hbare.2, (unattended_release hbare).2⟩, ?_⟩
  intro h after c
  have htranscript : c₀.bridge.transcript.Extends c.bridge.transcript :=
    c₀.transcript_extends_run _
  have hregistry : c₀.bridge.registry.Extends c.bridge.registry :=
    lasting_run (Bridge.lasting_extends c₀.bridge.registry) (fun _ _ h => h) (.refl _) _
  have hrun : c = (c₁.run (.install h :: after)).2 := by
    change (c₀.run (before ++ .install h :: after)).2 = _
    rw [run_append]
  obtain ⟨hhandlers, hattended⟩ := attended_install hbare.1 h after
  rw [← hrun] at hhandlers hattended
  refine ⟨congrArg Prod.fst (Bridge.install_unattended hbare.1 h), hhandlers,
    Bridge.install_attended hhandlers,
    hattended.witnessed hbare.2 hdense htranscript hindexed hregistry, ?_⟩
  apply (attended_release hattended).witnessed hbare.2 hdense _ hindexed
  · exact lasting_release (Bridge.lasting_extends c₀.bridge.registry) hregistry
  · exact lasting_release (Bridge.lasting_transcript c₀.bridge.transcript) htranscript

def startled : Handlers :=
  ⟨fun e => some (.text e.text), fun p => ⟨[("who is " ++ p.name, 1)], some .wordless⟩⟩

/-- Two lives of a session with a participant who was there before the handlers, one who is reported
twice, and a text that cannot be read. -/
def startling : List Action :=
  [.connect .owner "lobby" "ann", .participant "bob", .participant "eve", .install startled,
    .callback (.message true ⟨none, 3⟩ 1), .disconnect, .connect .joiner "den" "ann",
    .participant "bob", .message "hi" 1]

def early : List Action :=
  [.participant "eve", .message "early" 1]

theorem handlers_see_what_is_recorded_startled :
    let c := ((standard Loopback.idle ⟨0⟩ "noon").run (early ++ .install startled :: startling)).2
    (∀ handlers, .install handlers ∉ early) ∧
      c.bridge.shownMessages = [⟨⟨⟨0⟩, .inbound, .remote, "who is bob"⟩, 5⟩,
        ⟨⟨⟨0⟩, .inbound, .remote, "hi"⟩, 13⟩] ∧
      c.bridge.shownParticipants = [⟨"bob", ⟨0⟩⟩] ∧
      c.bridge.install startled = (.alreadyInstalled, c.bridge) := by
  intro c
  have hearly : ∀ handlers, .install handlers ∉ early := by simp [early]
  obtain ⟨-, hlater⟩ := handlers_see_what_is_recorded (create_standard Loopback.idle ⟨0⟩ "noon") hearly
  obtain ⟨-, -, hinstall, hwitnessed, -⟩ := hlater startled startling
  refine ⟨hearly, hwitnessed.messages.trans ?_, hwitnessed.participants.trans ?_, hinstall startled⟩
  · decide +kernel
  · decide +kernel

end Controller

end SessionBridge
