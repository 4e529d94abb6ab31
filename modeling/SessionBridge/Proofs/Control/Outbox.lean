import SessionBridge.Proofs.Control.Dispatch
import SessionBridge.Proofs.Control.Lasting

/-! What was sent, told three times: by the list of the bus, by the lines of the local user in the
transcript, and by the sends of the run. A send is two effects, the native call and the echo, with
whatever the bus calls back in between; the three accounts agree all the same, text by text, and each
text went to the session that the last connect had opened. -/
namespace SessionBridge

/-! ### The transcript -/

def Line.content (l : Line) : InformType × String :=
  (l.kind, l.text)

namespace Bridge

def outbound (b : Bridge) : List Line :=
  b.lines.filter (·.origin = .outbound)

theorem outbound_echo (b : Bridge) (kind : InformType) (text : String) :
    (b.record .outbound kind text).outbound.map Line.content =
      b.outbound.map Line.content ++ [(kind, text)] := by
  unfold outbound
  rw [lines_record, List.filter_append, List.map_append]
  rfl

theorem lasting_outbound (lines : List Line) : Lasting fun b => b.outbound = lines where
  same b b' hjournal _ h := by
    unfold outbound Bridge.lines transcript at h ⊢
    rw [hjournal]
    exact h
  record b origin kind text horigin h := by
    unfold outbound at h ⊢
    rw [lines_record, List.filter_append, h]
    simp [line, horigin]
  publish _ _ h := h
  insert _ _ _ h := h

end Bridge

namespace Controller

section
variable {β : Type} [NativeBus β] {c : Controller β} {text : String}

theorem state_send (c : Controller β) (text : String) :
    (c.send text).2.state = c.state ∧ (c.send text).2.link = c.link := by
  -- The callbacks of the native call find the session established, and joins leave that alone.
  have hsent {session : Session} {o : Outcome NativeFailure Unit} {w : World β}
      (hspoken : Spoken c text session o w) : w.bridge.state = c.state := by
    have hkept : SessionState.KeptByJoins (· = c.state) := by
      rintro now _ rfl
      have hsession := hspoken.established
      cases hstate : c.state with
      | disconnected => rfl
      | connecting a =>
        rw [hstate] at hsession
        cases hsession
      | owner s => rfl
      | joined s => rfl
    exact (World.performed hspoken.sent).keeps hkept rfl
  rcases c.send_ends text with hsends | ⟨-, session, w, hspoken, heq⟩
  · generalize (c.send text).1 = outcome at hsends
    generalize (c.send text).2 = c' at hsends
    cases hsends with
    | tooLong => exact ⟨rfl, rfl⟩
    | unestablished => exact ⟨rfl, rfl⟩
    | unlinked => exact ⟨rfl, rfl⟩
    | failed hspoken => exact ⟨hsent hspoken, rfl⟩
    | sent hspoken =>
      have hstate := hsent hspoken
      exact ⟨hstate, rfl⟩
  · rw [heq]
    exact ⟨hsent hspoken, rfl⟩

theorem Spoken.outbound {session : Session} {o : Outcome NativeFailure Unit} {w : World β}
    (hspoken : Spoken c text session o w) : w.bridge.outbound = c.bridge.outbound :=
  (World.performed hspoken.sent).lasting (Bridge.lasting_outbound c.bridge.outbound) rfl

theorem outbound_unsent (hfailed : (c.send text).1 ≠ .value ()) :
    (c.send text).2.bridge.outbound = c.bridge.outbound := by
  rcases c.send_ends text with hsends | ⟨-, session, w, hspoken, heq⟩
  · generalize (c.send text).1 = outcome at hsends hfailed
    generalize (c.send text).2 = c' at hsends
    cases hsends with
    | tooLong => rfl
    | unestablished => rfl
    | unlinked => rfl
    | failed hspoken => exact hspoken.outbound
    | sent => exact absurd rfl hfailed
  · rw [heq]
    exact hspoken.outbound

theorem outbound_sent (hsent : (c.send text).1 = .value ()) :
    ∃ session, c.state.session? = some session ∧
      (c.send text).2.bridge.outbound.map Line.content =
        c.bridge.outbound.map Line.content ++ [(.status, session.handle ++ ": " ++ text)] := by
  have hcalm : (c.send text).1 ≠ .panic := by
    rw [hsent]
    exact Outcome.value_ne_panic ()
  have hsends := send_sends hcalm
  rw [hsent] at hsends
  generalize (c.send text).2 = c' at hsends
  cases hsends with
  | @sent session w hspoken =>
    refine ⟨session, hspoken.established, ?_⟩
    rw [← hspoken.outbound]
    exact Bridge.outbound_echo w.bridge .status (session.handle ++ ": " ++ text)

theorem outbound_act {a : Action} (ha : ∀ text, a ≠ .send text) :
    (c.act a).2.bridge.outbound = c.bridge.outbound :=
  lasting_act (Bridge.lasting_outbound c.bridge.outbound)
    (fun text heq => absurd heq (ha text)) rfl

theorem fits_of_called (hcalled : (c.step (.send text)).exchanges ≠ []) :
    text.utf8ByteSize ≤ c.config.maxMessageLength.toNat := by
  rcases Nat.lt_or_ge c.config.maxMessageLength.toNat text.utf8ByteSize with hlong | hfits
  · refine absurd ?_ hcalled
    have hrefused : (c.send text).2 = c := by
      unfold send
      rw [if_pos hlong]
    change (c.send text).2.world.exchanges.toList.drop c.world.exchanges.size = []
    rw [hrefused, ← Array.length_toList, List.drop_length]
  · exact hfits

end

/-! ### Plays -/

def scene? (c : Controller Scripted) : Move → Option Scene
  | .act a => some ⟨c.state, c.step a⟩
  | _ => none

def acted (c : Controller Scripted) : List Move → List Scene
  | [] => []
  | m :: moves => (c.scene? m).toList ++ (c.move m).2.acted moves

theorem spoken_append (first second : List Scene) :
    spoken (first ++ second) = spoken first ++ spoken second :=
  List.flatMap_append

/-- What moves with these scenes have come to: a word of the protocol, which is what the record has
got, with no text that is too long, and an echo of everything that was dispatched. -/
structure Plays (c : Controller Scripted) (p : Phase) (scenes : List Scene)
    (c' : Controller Scripted) (p' : Phase) : Prop where
  config : c'.config = c.config
  inStep : c'.InStep p'
  word : Conversation c.config p scenes p'
  record : c'.world.exchanges.toList = c.world.exchanges.toList ++ spoken scenes
  fits : ∀ scene ∈ scenes, ∀ id text o, .send id text o ∈ scene.step.exchanges →
    text.utf8ByteSize ≤ c.config.maxMessageLength.toNat
  echoes : ∀ last, p.OpenedBy last →
    c'.bridge.outbound.map Line.content = c.bridge.outbound.map Line.content ++
      (dispatches last (scenes.map Scene.step)).map Dispatch.echo

variable {c c' c'' : Controller Scripted} {p p' p'' : Phase} {scenes scenes' : List Scene}

theorem Plays.refl (h : c.InStep p) : c.Plays p [] c p :=
  ⟨rfl, h, .nil p, (List.append_nil _).symm, fun _ hmem => absurd hmem List.not_mem_nil,
    fun _ _ => (List.append_nil _).symm⟩

theorem Plays.trans (h : c.Plays p scenes c' p') (h' : c'.Plays p' scenes' c'' p'') :
    c.Plays p (scenes ++ scenes') c'' p'' := by
  refine ⟨h'.config.trans h.config, h'.inStep, ?_, ?_, ?_, ?_⟩
  · have hword := h'.word
    rw [h.config] at hword
    exact h.word.append hword
  · rw [h'.record, h.record, spoken_append, List.append_assoc]
  · intro scene hmem
    rcases List.mem_append.mp hmem with hmem | hmem
    · exact h.fits scene hmem
    · have hfits := h'.fits scene hmem
      rw [h.config] at hfits
      exact hfits
  · intro last hlast
    rw [h'.echoes _ (h.word.openedBy hlast), h.echoes last hlast, List.map_append,
      dispatches_append, List.map_append, List.append_assoc]

theorem InStep.echoes (h : c.InStep p) (a : Action) {last : Option Opening}
    (hlast : p.OpenedBy last) :
    (c.act a).2.bridge.outbound.map Line.content = c.bridge.outbound.map Line.content ++
      ((c.step a).dispatch? last).toList.map Dispatch.echo := by
  have hnothing (hdispatch : (c.step a).dispatch? last = none)
      (houtbound : (c.act a).2.bridge.outbound = c.bridge.outbound) :
      (c.act a).2.bridge.outbound.map Line.content = c.bridge.outbound.map Line.content ++
        ((c.step a).dispatch? last).toList.map Dispatch.echo := by
    rw [hdispatch, houtbound, Option.toList_none, List.map_nil, List.append_nil]
  by_cases hsend : ∃ text, a = .send text
  · obtain ⟨text, rfl⟩ := hsend
    by_cases hsent : (c.send text).1 = .value ()
    · obtain ⟨calls, p', -, hspeaks, -, -⟩ := h.spoke (.send text)
      obtain ⟨session, hsession, houtbound⟩ := outbound_sent hsent
      rw [show (c.act (.send text)).1 = .value () from hsent] at hspeaks
      obtain ⟨o, rfl, hhandle⟩ := hspeaks.handle hsession hlast
      have hdispatch : (c.step (.send text)).dispatch? (some o) = some ⟨o, text⟩ := by
        unfold Step.dispatch? step
        rw [show (c.act (.send text)).1 = .value () from hsent]
        rfl
      rw [hdispatch, Option.toList_some, List.map_singleton, Dispatch.echo, hhandle]
      exact houtbound
    · refine hnothing ?_ (outbound_unsent hsent)
      unfold Step.dispatch?
      split
      · rename_i houtcome
        exact absurd houtcome hsent
      · rfl
  · have hother : ∀ text, a ≠ .send text := fun text heq => hsend ⟨text, heq⟩
    exact hnothing (Step.dispatch?_of_not_send hother last) (outbound_act hother)

theorem InStep.plays_act (h : c.InStep p) (a : Action) :
    ∃ p', c.Plays p [⟨c.state, c.step a⟩] (c.act a).2 p' := by
  have hcalm := (home_move (.act a) h.calm).1
  obtain ⟨calls, p', hcalls, hspeaks, -, hstep⟩ := h.spoke a
  rw [← step_of_appended hcalls] at hspeaks
  refine ⟨p', (h.rests.act hcalm).config, hstep, .cons h.rests.shows hspeaks (.nil p'), ?_, ?_, ?_⟩
  · rw [hcalls, step_of_appended hcalls]
    simp [spoken]
  · intro scene hmem id text o hsend
    rw [List.mem_singleton.mp hmem] at hsend
    obtain ⟨haction, -⟩ := hspeaks.of_send hsend
    obtain rfl : a = .send text := haction
    exact fits_of_called (List.ne_nil_of_mem hsend)
  · intro last hlast
    rw [h.echoes a hlast]
    simp [dispatches]

theorem InStep.plays_quiet (h : c.InStep p) {m : Move} (hquiet : ∀ a, m ≠ .act a) :
    c.Plays p [] (c.move m).2 p := by
  have houtbound : (c.move m).2.bridge.outbound = c.bridge.outbound :=
    lasting_move (Bridge.lasting_outbound c.bridge.outbound)
      (fun text heq => absurd heq (hquiet _)) rfl
  have hinStep : (c.move m).2.InStep p := by
    cases m with
    | act a => exact absurd rfl (hquiet a)
    | cue q => exact h.cue q
    | deliver call =>
      exact h.hears (World.bus_undergo ..) (World.exchanges_undergo ..) (World.bridge_undergo ..)
  have hrecord : (c.move m).2.world.exchanges = c.world.exchanges := by
    cases m with
    | act a => exact absurd rfl (hquiet a)
    | cue q => rfl
    | deliver call => exact World.exchanges_undergo ..
  have hconfig : (c.move m).2.config = c.config := by
    cases m with
    | act a => exact absurd rfl (hquiet a)
    | cue q => rfl
    | deliver call => rfl
  refine ⟨hconfig, hinStep, .nil p, ?_, fun _ hmem => absurd hmem List.not_mem_nil, ?_⟩
  · rw [hrecord]
    exact (List.append_nil _).symm
  · intro last hlast
    rw [houtbound]
    exact (List.append_nil _).symm

theorem InStep.plays_move (h : c.InStep p) (m : Move) :
    ∃ p', c.Plays p (c.scene? m).toList (c.move m).2 p' := by
  cases m with
  | act a => exact h.plays_act a
  | cue q => exact ⟨p, h.plays_quiet nofun⟩
  | deliver call => exact ⟨p, h.plays_quiet nofun⟩

theorem InStep.plays (h : c.InStep p) (moves : List Move) :
    ∃ p', c.Plays p (c.acted moves) (c.play moves) p' := by
  induction moves generalizing c p with
  | nil => exact ⟨p, .refl h⟩
  | cons m moves ih =>
    obtain ⟨p', hmove⟩ := h.plays_move m
    obtain ⟨p'', hrest⟩ := ih hmove.inStep
    exact ⟨p'', hmove.trans hrest⟩

theorem posted_play (hstart : c.world.Tracked (Scripted.Posted [] [])) (moves : List Move) :
    (c.play moves).world.Tracked (Scripted.Posted [] []) := by
  refine play_induction (motive := fun c => c.world.Tracked (Scripted.Posted [] [])) hstart ?_ moves
  intro c m h
  have hcalm := home_move m h.calm
  cases m with
  | act a => exact tracked_act (Scripted.tracks_posted [] []) h hcalm.1
  | cue q =>
    obtain ⟨hplain, -, hposted⟩ := h
    refine ⟨?_, hcalm.2, ?_⟩
    · cases q <;> exact ⟨hplain.failures, hplain.nextId, hplain.aliases⟩
    · cases q <;> exact hposted
  | deliver call =>
    unfold World.Tracked
    change Scripted.Posted [] [] (c.world.undergo true _).bus (c.world.undergo true _).exchanges.toList
    rw [World.bus_undergo, World.exchanges_undergo]
    exact h

theorem posted_create {config : BusConfig} {now : Timestamp} {opened : String}
    (hcreate : create config Scripted.idle now opened = .value c) :
    c.world.Tracked (Scripted.Posted [] []) := by
  obtain ⟨-, feed, -, rfl⟩ := create_eq_value_iff.mp hcreate
  exact ⟨Scripted.plain_idle, Scripted.calm_idle, [], rfl, rfl⟩

theorem outbound_create {config : BusConfig} {bus : Scripted} {now : Timestamp} {opened : String}
    (hcreate : create config bus now opened = .value c) : c.bridge.outbound = [] := by
  obtain ⟨-, feed, -, rfl⟩ := create_eq_value_iff.mp hcreate
  rfl

/-- What was sent is exactly what the transcript says was sent. Whatever a loopback bus was made to
fail and wherever it called back, its list and the lines of the local user are the dispatches of the
play, one for one and in order: each went out with the id of the last opening and was echoed under its
handle. Every native send was asked for a text that fits, on the session that the last opening had
opened, that had been established and that nobody had left. A send that does not succeed leaves the
lines of the local user, the state and the link as they were. -/
theorem sends_are_echoed {config : BusConfig} {now : Timestamp} {opened : String}
    (hcreate : create config Scripted.idle now opened = .value c) (moves : List Move) :
    let c' := c.play moves
    let scenes := c.acted moves
    let sent := dispatches none (scenes.map Scene.step)
    c'.world.bus.loopback.sent.toList = sent.map Dispatch.address ∧
      c'.bridge.outbound.map Line.content = sent.map Dispatch.echo ∧
      c'.world.exchanges.toList = spoken scenes ∧
      (∀ before scene after, scenes = before ++ scene :: after →
        ∀ id text o, .send id text o ∈ scene.step.exchanges →
          text.utf8ByteSize ≤ config.maxMessageLength.toNat ∧ scene.step.action = .send text ∧
            (spoken before).foldl Exchange.after none = some id ∧
            ∃ opening since, lastOpening? (before.map Scene.step) = some opening ∧
              opening.id = id ∧
              scene.state = .established
                ⟨opening.mode, opening.id, opening.sessionName, opening.handle, since⟩) ∧
      (∀ d ∈ sent, d.text.utf8ByteSize ≤ config.maxMessageLength.toNat) ∧
      ∀ text, (c'.send text).1 ≠ .value () →
        (c'.send text).2.bridge.outbound = c'.bridge.outbound ∧
          (c'.send text).2.state = c'.state ∧ (c'.send text).2.link = c'.link := by
  intro c' scenes sent
  have hconfig : c.config = config := by
    obtain ⟨-, feed, -, rfl⟩ := create_eq_value_iff.mp hcreate
    rfl
  have hempty : c.world.exchanges.toList = [] := by
    obtain ⟨-, feed, -, rfl⟩ := create_eq_value_iff.mp hcreate
    rfl
  have hidle : Phase.OpenedBy .idle none := nofun
  obtain ⟨p, hplays⟩ := (inStep_create hcreate).plays moves
  have hrecord : c'.world.exchanges.toList = spoken scenes := by
    rw [hplays.record, hempty, List.nil_append]
  have hposted : c'.world.bus.loopback.sent.toList =
      (spoken scenes).filterMap Exchange.sent? := by
    obtain ⟨-, -, new, hnew, hposted⟩ := posted_play (posted_create hcreate) moves
    rw [← hrecord, hnew]
    exact hposted
  have haddresses : (spoken scenes).filterMap Exchange.sent? = sent.map Dispatch.address :=
    hplays.word.dispatches hidle
  refine ⟨hposted.trans haddresses, ?_, hrecord, ?_, ?_, ?_⟩
  · rw [hplays.echoes none hidle, outbound_create hcreate]
    rfl
  · intro before scene after hsplit id text o hsend
    have hword := hplays.word
    have hmem : scene ∈ scenes := by
      rw [hsplit]
      exact List.mem_append_right _ List.mem_cons_self
    have hfits := hplays.fits scene hmem id text o hsend
    rw [hconfig] at hfits
    rw [show c.acted moves = before ++ scene :: after from hsplit] at hword
    obtain ⟨p₁, p₂, hbefore, hspeaks⟩ := hword.split
    obtain ⟨haction, opening, since, rfl, rfl, hstate⟩ := hspeaks.of_send hsend
    have hlast := hbefore.openedBy hidle opening rfl
    rw [Option.or_none] at hlast
    exact ⟨hfits, haction, hbefore.current?, opening, since, hlast, rfl, hstate⟩
  · intro d hmem
    have haddress : d.address ∈ (spoken scenes).filterMap Exchange.sent? := by
      rw [haddresses]
      exact List.mem_map_of_mem hmem
    obtain ⟨e, hspoken, hsent⟩ := List.mem_filterMap.mp haddress
    obtain ⟨scene, hscene, hcall⟩ := List.mem_flatMap.mp hspoken
    rw [← hconfig]
    unfold Exchange.sent? at hsent
    split at hsent
    · cases hsent
      exact hplays.fits scene hscene _ _ _ hcall
    · cases hsent
  · intro text hfailed
    exact ⟨outbound_unsent hfailed, state_send c' text⟩

/-- Two sessions under two handles. A send fails, another one waits for a first participant who comes
inside a native call, and a callback comes between a native send and its echo. -/
def talking : List Move :=
  [.act (.connect .owner "lobby" "ann"), .deliver (.ofParticipant "bob"), .act (.send "hi"),
    .cue (.failNext .send), .act (.send "lost"), .act .disconnect,
    .cue (.during .discoverAndJoin .after [.ofParticipant "bob"]),
    .act (.connect .joiner "den" "eve"), .cue (.during .send .after [.ofMessage "yes?" 1]),
    .act (.send "there?")]

theorem sends_are_echoed_talking :
    create .standard Scripted.idle ⟨0⟩ "noon" = .value (standard Scripted.idle ⟨0⟩ "noon") ∧
      ((standard Scripted.idle ⟨0⟩ "noon").play talking).world.bus.loopback.sent.toList =
        [(⟨1⟩, "hi"), (⟨2⟩, "there?")] ∧
      ((standard Scripted.idle ⟨0⟩ "noon").play talking).bridge.outbound.map Line.content =
        [(.status, "ann: hi"), (.status, "eve: there?")] := by
  have hcreate := create_standard Scripted.idle ⟨0⟩ "noon"
  obtain ⟨hsent, hechoed, -⟩ := sends_are_echoed hcreate talking
  have hdispatches : dispatches none
      (((standard Scripted.idle ⟨0⟩ "noon").acted talking).map Scene.step) =
        [⟨⟨.owner, "lobby", "ann", ⟨1⟩⟩, "hi"⟩, ⟨⟨.joiner, "den", "eve", ⟨2⟩⟩, "there?"⟩] := by
    decide +kernel
  rw [hdispatches] at hsent hechoed
  exact ⟨hcreate, hsent, hechoed⟩

end Controller

end SessionBridge
