import SessionBridge.Proofs.Bridge.Delivery

/-! Two bridges side by side, one without handlers and one that shows everything to a pair of them.
What a message handler does stays on its side but for the lines about its crashes. A participant
handler runs before the session hears of a newcomer, so the two bridges stay together only while it
returns and delivers nothing itself. -/
namespace SessionBridge

inductive Annotated : List Line → List Line → Prop where
  | nil : Annotated [] []
  | line {ls ls' : List Line} (l : Line) (h : Annotated ls ls') : Annotated (l :: ls) (l :: ls')
  | crash {ls ls' : List Line} (now : Timestamp) (callback : EntryPoint) (crash : Crash)
      (h : Annotated ls ls') :
      Annotated ls
        (⟨now, .system, .error, (CallbackFault.panicked callback.name crash.message).message⟩ :: ls')

namespace Annotated

variable {ls ls' rest rest' : List Line}

theorem refl (ls : List Line) : Annotated ls ls := by
  induction ls with
  | nil => exact .nil
  | cons l ls ih => exact .line l ih

theorem append (h : Annotated ls ls') (hrest : Annotated rest rest') :
    Annotated (ls ++ rest) (ls' ++ rest') := by
  induction h with
  | nil => exact hrest
  | line l _ ih => exact .line l ih
  | crash now callback crash _ ih => exact .crash now callback crash ih

theorem countP_inbound (h : Annotated ls ls') :
    ls'.countP (·.origin = .inbound) = ls.countP (·.origin = .inbound) := by
  induction h with
  | nil => rfl
  | line l _ ih => rw [List.countP_cons, List.countP_cons, ih]
  | crash now callback crash _ ih =>
    rw [List.countP_cons, ih]
    rfl

end Annotated

structure Handlers.Passive (h : Handlers) : Prop where
  silent : ∀ p, (h.onParticipant p).echoes = []
  returns : ∀ p, (h.onParticipant p).crash = none

namespace Bridge

/-- The second bridge shows everything to `h`, the first to nobody, and nothing else is different
but lines about crashes. -/
structure Mirrors (h : Handlers) (b b' : Bridge) : Prop where
  bare : b.handlers = none
  shown : b'.handlers = some h
  state : b'.state = b.state
  established : b'.established = b.established
  registry : b'.registry = b.registry
  clock : b'.clock = b.clock
  lines : Annotated b.lines b'.lines

variable {h : Handlers} {b b' : Bridge}

/-! ### Steps -/

theorem mirrors_install (hbare : b.handlers = none) : b.Mirrors h (b.install h).2 := by
  unfold install
  rw [hbare]
  exact ⟨hbare, rfl, rfl, rfl, rfl, rfl, .refl _⟩

theorem Mirrors.record (hm : b.Mirrors h b') (origin : Origin) (kind : InformType) (text : String) :
    (b.record origin kind text).Mirrors h (b'.record origin kind text) where
  bare := hm.bare
  shown := hm.shown
  state := hm.state
  established := hm.established
  registry := hm.registry
  clock := hm.clock
  lines := by
    rw [lines_record, lines_record, line, line, hm.clock]
    exact hm.lines.append (.refl _)

theorem Mirrors.report (hm : b.Mirrors h b') (kind : InformType) (text : String) :
    (b.report kind text).Mirrors h (b'.report kind text) :=
  hm.record .system kind text

theorem Mirrors.publish (hm : b.Mirrors h b') (e : BridgeEvent) :
    (b.publish e).Mirrors h (b'.publish e) :=
  ⟨hm.bare, hm.shown, hm.state, hm.established, hm.registry, hm.clock, hm.lines⟩

theorem Mirrors.showed (hm : b.Mirrors h b') (s : Showing) : b.Mirrors h (b'.showed s) :=
  ⟨hm.bare, hm.shown, hm.state, hm.established, hm.registry, hm.clock, hm.lines⟩

theorem Mirrors.tick (hm : b.Mirrors h b') (now : Timestamp) :
    Mirrors h { b with clock := now } { b' with clock := now } :=
  ⟨hm.bare, hm.shown, hm.state, hm.established, hm.registry, rfl, hm.lines⟩

theorem Mirrors.announceSession (hm : b.Mirrors h b') (s : Session) (stateName : String) :
    (b.announceSession s stateName).Mirrors h (b'.announceSession s stateName) := by
  have hcounted : Mirrors h { b with established := b.established + 1 }
      { b' with established := b'.established + 1 } :=
    ⟨hm.bare, hm.shown, hm.state, congrArg (· + 1) hm.established, hm.registry, hm.clock, hm.lines⟩
  exact (hcounted.report _ _).publish _

theorem Mirrors.advance (hm : b.Mirrors h b') (e : SessionEvent) :
    (b.advance e).Mirrors h (b'.advance e) := by
  have hanswer : b'.state.transition b'.clock e = b.state.transition b.clock e := by
    rw [hm.state, hm.clock]
  unfold Bridge.advance apply
  rw [hanswer]
  rcases b.state.transition b.clock e with r | t
  · exact hm
  · have hmoved : Mirrors h { b with state := t.newState } { b' with state := t.newState } :=
      ⟨hm.bare, hm.shown, rfl, hm.established, hm.registry, hm.clock, hm.lines⟩
    dsimp only
    rcases t.materialized with _ | s
    · exact hmoved
    · exact hmoved.announceSession s t.newState.name

theorem Mirrors.enroll (hm : b.Mirrors h b') (p : Participant) :
    (b.enroll p).Mirrors h (b'.enroll p) := by
  have hentered : Mirrors h { b with registry := b.registry.insert p }
      { b' with registry := b'.registry.insert p } :=
    ⟨hm.bare, hm.shown, hm.state, hm.established, congrArg (·.insert p) hm.registry, hm.clock,
      hm.lines⟩
  exact (hentered.report _ _).publish _

/-! ### Deliveries -/

/-- A crash is a line more on the side of the handlers. -/
theorem Mirrors.crashed (hm : b.Mirrors h b') (callback : EntryPoint) (crash : Crash) :
    b.Mirrors h (b'.recordFault (.panicked callback.name crash.message)) where
  bare := hm.bare
  shown := hm.shown
  state := hm.state
  established := hm.established
  registry := hm.registry
  clock := hm.clock
  lines := by
    unfold recordFault
    rw [lines_report]
    have hadded := hm.lines.append (.crash b'.clock callback crash .nil)
    rw [List.append_nil] at hadded
    exact hadded

theorem deliverMessage_bare (hbare : b.handlers = none) (text : String) (code : Int32) :
    b.deliverMessage text code = b.record .inbound (.ofCode code) text := by
  simp only [deliverMessage, acceptMessage, showMessage, hbare, contain, record]

theorem deliverMessage_shown (hshown : b.handlers = some h) (text : String) (code : Int32) :
    b.deliverMessage text code =
      let e := b.transcript.place (b.line .inbound (.ofCode code) text)
      contain .message
        (h.onMessage e, (b.record .inbound (.ofCode code) text).showed (.message e)) := by
  simp only [deliverMessage, acceptMessage, showMessage, hshown, record]

theorem Mirrors.deliverMessage (hm : b.Mirrors h b') (text : String) (code : Int32) :
    (b.deliverMessage text code).Mirrors h (b'.deliverMessage text code) := by
  have hrecorded := hm.record .inbound (.ofCode code) text
  rw [deliverMessage_bare hm.bare, deliverMessage_shown hm.shown]
  dsimp only
  rcases h.onMessage _ with _ | crash
  · exact hrecorded.showed _
  · exact (hrecorded.showed _).crashed .message crash

theorem deliverParticipant_bare (hbare : b.handlers = none) {name : String}
    (hnew : b.registry.contains name = false) :
    b.deliverParticipant name = (b.enroll ⟨name, b.clock⟩).advance .participantJoined := by
  refine deliverParticipant_shown hnew ?_
  have hhandlers : (b.enroll ⟨name, b.clock⟩).handlers = none := hbare
  unfold showParticipant
  rw [hhandlers]

theorem Mirrors.deliverParticipant (hm : b.Mirrors h b') (hpassive : h.Passive) (name : String) :
    (b.deliverParticipant name).Mirrors h (b'.deliverParticipant name) := by
  have hclock := hm.clock
  cases hknown : b.registry.contains name with
  | true =>
    rw [deliverParticipant_known hknown,
      deliverParticipant_known (by rw [hm.registry]; exact hknown)]
    exact hm.advance _
  | false =>
    have hshown : (b'.enroll ⟨name, b'.clock⟩).showParticipant ⟨name, b'.clock⟩ =
        (none, (b'.enroll ⟨name, b'.clock⟩).showed (.participant ⟨name, b'.clock⟩)) := by
      unfold showParticipant
      rw [(hm.enroll _).shown]
      dsimp only
      rw [hpassive.silent, hpassive.returns]
      rfl
    rw [deliverParticipant_bare hm.bare hknown,
      deliverParticipant_shown (by rw [hm.registry]; exact hknown) hshown, hclock]
    exact ((hm.enroll _).showed _).advance _

theorem Mirrors.receive (hm : b.Mirrors h b') (hpassive : h.Passive) (call : Callback) :
    (b.receive call).Mirrors h (b'.receive call) := by
  cases call with
  | message hasContext text code =>
    cases hasContext with
    | false => exact hm
    | true =>
      unfold Bridge.receive receiveText
      dsimp only
      split
      · exact hm.report _ _
      · exact hm.deliverMessage _ code
  | participant hasContext name =>
    cases hasContext with
    | false => exact hm
    | true =>
      unfold Bridge.receive receiveText
      dsimp only
      split
      · exact hm.report _ _
      · exact hm.deliverParticipant hpassive _

/-! ### What a participant handler can do -/

def inbound (b : Bridge) : Nat :=
  b.lines.countP (·.origin = .inbound)

theorem Mirrors.inbound (hm : b.Mirrors h b') : b'.inbound = b.inbound :=
  hm.lines.countP_inbound

theorem inbound_record (b : Bridge) (origin : Origin) (kind : InformType) (text : String) :
    (b.record origin kind text).inbound = b.inbound + if origin = .inbound then 1 else 0 := by
  unfold Bridge.inbound
  rw [lines_record, List.countP_append, List.countP_singleton]
  cases origin <;> rfl

theorem inbound_advance (b : Bridge) (e : SessionEvent) : (b.advance e).inbound = b.inbound := by
  unfold advance apply
  rcases b.state.transition b.clock e with r | t
  · rfl
  · dsimp only
    rcases t.materialized with _ | s
    · rfl
    · exact inbound_record { b with state := t.newState, established := b.established + 1 } .system _ _

theorem inbound_contain (callback : EntryPoint) (crash? : Option Crash) (b : Bridge) :
    (contain callback (crash?, b)).inbound = b.inbound := by
  rcases crash? with _ | crash
  · rfl
  · exact inbound_record b .system _ _

theorem inbound_deliverMessage (b : Bridge) (text : String) (code : Int32) :
    (b.deliverMessage text code).inbound = b.inbound + 1 := by
  have hrecorded := inbound_record b .inbound (.ofCode code) text
  rcases hhandlers : b.handlers with _ | h
  · rw [deliverMessage_bare hhandlers]
    exact hrecorded
  · rw [deliverMessage_shown hhandlers]
    exact (inbound_contain _ _ _).trans hrecorded

theorem inbound_echo (echoes : List (String × Int32)) (b : Bridge) :
    (echoes.foldl (fun b echo => b.deliverMessage echo.1 echo.2) b).inbound =
      b.inbound + echoes.length := by
  induction echoes generalizing b with
  | nil => rfl
  | cons echo echoes ih =>
    rw [List.foldl_cons, ih, inbound_deliverMessage, List.length_cons]
    omega

theorem inbound_showParticipant (hshown : b.handlers = some h) (p : Participant) :
    (b.showParticipant p).2.inbound = b.inbound + (h.onParticipant p).echoes.length := by
  unfold showParticipant
  rw [hshown]
  exact inbound_echo _ b

theorem crash_showParticipant (hshown : b.handlers = some h) (p : Participant) :
    (b.showParticipant p).1 = (h.onParticipant p).crash := by
  unfold showParticipant
  rw [hshown]

theorem inbound_enroll (b : Bridge) (p : Participant) : (b.enroll p).inbound = b.inbound :=
  inbound_record { b with registry := b.registry.insert p } .system _ _

theorem inbound_deliverParticipant_bare (hbare : b.handlers = none) {name : String}
    (hnew : b.registry.contains name = false) :
    (b.deliverParticipant name).inbound = b.inbound := by
  rw [deliverParticipant_bare hbare hnew, inbound_advance, inbound_enroll]

theorem inbound_deliverParticipant (hshown : b.handlers = some h) {name : String}
    (hnew : b.registry.contains name = false) :
    (b.deliverParticipant name).inbound =
      b.inbound + (h.onParticipant ⟨name, b.clock⟩).echoes.length := by
  have hcount : ((b.enroll ⟨name, b.clock⟩).showParticipant ⟨name, b.clock⟩).2.inbound =
      b.inbound + (h.onParticipant ⟨name, b.clock⟩).echoes.length := by
    rw [inbound_showParticipant (b := b.enroll ⟨name, b.clock⟩) hshown, inbound_enroll]
  rcases hshow : (b.enroll ⟨name, b.clock⟩).showParticipant ⟨name, b.clock⟩ with
    ⟨_ | crash, after⟩
  · rw [hshow] at hcount
    rw [deliverParticipant_shown hnew hshow, inbound_advance]
    exact hcount
  · rw [hshow] at hcount
    rw [deliverParticipant_crashed hnew hshow]
    exact (inbound_contain .participant (some crash) after).trans hcount

theorem deliverParticipant_new (hshown : b.handlers = some h) {name : String}
    (hnew : b.registry.contains name = false) :
    ((h.onParticipant ⟨name, b.clock⟩).crash = none →
        (b.deliverParticipant name).state = b.state.after b.clock .participantJoined) ∧
      ((h.onParticipant ⟨name, b.clock⟩).crash ≠ none →
        (b.deliverParticipant name).state = b.state ∧
          (b.deliverParticipant name).established = b.established) := by
  obtain ⟨journal, shown, hafter⟩ := (b.enroll ⟨name, b.clock⟩).showParticipant_eq ⟨name, b.clock⟩
  have hcrash := crash_showParticipant (b := b.enroll ⟨name, b.clock⟩) hshown ⟨name, b.clock⟩
  rcases hshow : (b.enroll ⟨name, b.clock⟩).showParticipant ⟨name, b.clock⟩ with
    ⟨_ | crash, after⟩
  all_goals
    rw [hshow] at hafter hcrash
    dsimp only at hafter hcrash
  · refine ⟨fun _ => ?_, fun hcrashes => absurd hcrash.symm hcrashes⟩
    rw [deliverParticipant_shown hnew hshow, state_advance, hafter]
    rfl
  · refine ⟨fun hreturns => ?_, fun _ => ?_⟩
    · rw [hreturns] at hcrash
      cases hcrash
    · rw [deliverParticipant_crashed hnew hshow, hafter]
      exact ⟨rfl, rfl⟩

/-- A join is lost exactly if it would have moved the session and comes from a newcomer on whom the
handler crashes. -/
theorem state_deliverParticipant_iff (hshown : b.handlers = some h) (name : String) :
    (b.deliverParticipant name).state = b.state.after b.clock .participantJoined ↔
      ¬(b.registry.contains name = false ∧ (h.onParticipant ⟨name, b.clock⟩).crash ≠ none ∧
        b.state.after b.clock .participantJoined ≠ b.state) := by
  cases hknown : b.registry.contains name with
  | true =>
    rw [deliverParticipant_known hknown, state_advance]
    simp
  | false =>
    obtain ⟨hreturns, hcrashes⟩ := deliverParticipant_new hshown hknown
    by_cases hcrash : (h.onParticipant ⟨name, b.clock⟩).crash = none
    · simp [hcrash, hreturns hcrash]
    · rw [(hcrashes hcrash).1]
      simp [hcrash, eq_comm]

end Bridge

end SessionBridge
