import SessionBridge.Bridge.Callback

/-! What a delivery can change. A message changes the journal and what was shown, nothing else; a
participant may also enter the registry and be told to the session. The session state therefore
moves only as participants move it, and whatever they cannot break survives every callback. -/
namespace SessionBridge

namespace Bridge

/-! ### Single steps -/

@[simp] theorem state_install (b : Bridge) (h : Handlers) : (b.install h).2.state = b.state := by
  unfold install
  split <;> rfl

def lines (b : Bridge) : List Line :=
  b.transcript.toList.map Entry.toLine

@[simp] theorem lines_record (b : Bridge) (origin : Origin) (kind : InformType) (text : String) :
    (b.record origin kind text).lines = b.lines ++ [b.line origin kind text] := by
  simp [lines, record, transcript, Transcript.place]

@[simp] theorem lines_report (b : Bridge) (kind : InformType) (text : String) :
    (b.report kind text).lines = b.lines ++ [b.line .system kind text] :=
  lines_record b .system kind text

@[simp] theorem lines_publish (b : Bridge) (e : BridgeEvent) : (b.publish e).lines = b.lines := rfl

@[simp] theorem state_advance (b : Bridge) (e : SessionEvent) :
    (b.advance e).state = b.state.after b.clock e := by
  unfold advance apply SessionState.transition SessionState.after
  rcases h : b.state.next? b.clock e with _ | ⟨s, _ | session⟩ <;> rfl

/-! ### Deliveries -/

theorem deliverMessage_eq (b : Bridge) (text : String) (code : Int32) :
    ∃ journal shown, b.deliverMessage text code = { b with journal, shown } := by
  unfold deliverMessage acceptMessage showMessage
  dsimp only
  split
  · exact ⟨_, _, rfl⟩
  · rename_i h _
    rcases h.onMessage _ with _ | crash <;> exact ⟨_, _, rfl⟩

theorem echo_eq (echoes : List (String × Int32)) (b : Bridge) :
    ∃ journal shown,
      echoes.foldl (fun b echo => b.deliverMessage echo.1 echo.2) b = { b with journal, shown } := by
  induction echoes generalizing b with
  | nil => exact ⟨_, _, rfl⟩
  | cons echo echoes ih =>
    obtain ⟨journal, shown, hfirst⟩ := b.deliverMessage_eq echo.1 echo.2
    obtain ⟨journal', shown', hrest⟩ := ih { b with journal, shown }
    exact ⟨journal', shown', by rw [List.foldl_cons, hfirst, hrest]⟩

theorem showParticipant_eq (b : Bridge) (p : Participant) :
    ∃ journal shown, (b.showParticipant p).2 = { b with journal, shown } := by
  unfold showParticipant
  split
  · exact ⟨_, _, rfl⟩
  · rename_i h _
    obtain ⟨journal, shown, hecho⟩ := b.echo_eq (h.onParticipant p).echoes
    refine ⟨journal, shown.push (.participant p), ?_⟩
    dsimp only
    rw [hecho]
    rfl

def enroll (b : Bridge) (p : Participant) : Bridge :=
  ({ b with registry := b.registry.insert p } : Bridge).announceParticipant p

theorem deliverParticipant_known {b : Bridge} {name : String}
    (hknown : b.registry.contains name = true) :
    b.deliverParticipant name = b.advance .participantJoined := by
  simp [deliverParticipant, acceptParticipant, register, Registry.register, Registry.newcomer?,
    hknown, contain]

theorem deliverParticipant_shown {b after : Bridge} {name : String}
    (hnew : b.registry.contains name = false)
    (hshow : (b.enroll ⟨name, b.clock⟩).showParticipant ⟨name, b.clock⟩ = (none, after)) :
    b.deliverParticipant name = after.advance .participantJoined := by
  unfold enroll at hshow
  simp [deliverParticipant, acceptParticipant, register, Registry.register, Registry.newcomer?,
    hnew, hshow, contain]

theorem deliverParticipant_crashed {b after : Bridge} {name : String} {crash : Crash}
    (hnew : b.registry.contains name = false)
    (hshow : (b.enroll ⟨name, b.clock⟩).showParticipant ⟨name, b.clock⟩ = (some crash, after)) :
    b.deliverParticipant name =
      after.recordFault (.panicked EntryPoint.participant.name crash.message) := by
  unfold enroll at hshow
  simp [deliverParticipant, acceptParticipant, register, Registry.register, Registry.newcomer?,
    hnew, hshow, contain]

theorem state_deliverParticipant (b : Bridge) (name : String) :
    (b.deliverParticipant name).state = b.state ∨
      (b.deliverParticipant name).state = b.state.after b.clock .participantJoined := by
  cases hknown : b.registry.contains name with
  | true =>
    rw [deliverParticipant_known hknown]
    exact .inr (state_advance b _)
  | false =>
    obtain ⟨journal, shown, hafter⟩ := (b.enroll ⟨name, b.clock⟩).showParticipant_eq ⟨name, b.clock⟩
    rcases hshow : (b.enroll ⟨name, b.clock⟩).showParticipant ⟨name, b.clock⟩ with
      ⟨_ | crash, after⟩
    · rw [deliverParticipant_shown hknown hshow, state_advance]
      rw [hshow] at hafter
      dsimp only at hafter
      rw [hafter]
      exact .inr rfl
    · rw [deliverParticipant_crashed hknown hshow]
      rw [hshow] at hafter
      dsimp only at hafter
      rw [hafter]
      exact .inl rfl

@[simp] theorem state_deliverMessage (b : Bridge) (text : String) (code : Int32) :
    (b.deliverMessage text code).state = b.state := by
  obtain ⟨journal, shown, heq⟩ := b.deliverMessage_eq text code
  rw [heq]

theorem state_receive (b : Bridge) (call : Callback) :
    (b.receive call).state = b.state ∨
      (b.receive call).state = b.state.after b.clock .participantJoined := by
  cases call with
  | message hasContext text code =>
    left
    cases hasContext with
    | false => rfl
    | true =>
      unfold receive receiveText
      dsimp only
      split
      · rfl
      · exact state_deliverMessage b _ code
  | participant hasContext name =>
    cases hasContext with
    | false => exact .inl rfl
    | true =>
      unfold receive receiveText
      dsimp only
      split
      · exact .inl rfl
      · exact state_deliverParticipant b _

end Bridge

/-! ### What joins cannot break -/

/-- A property of session states that no participant can break. -/
def SessionState.KeptByJoins (P : SessionState → Prop) : Prop :=
  ∀ now s, P s → P (s.after now .participantJoined)

namespace Bridge

variable {P : SessionState → Prop}

theorem keeps_deliverParticipant (hP : SessionState.KeptByJoins P) {b : Bridge} (name : String)
    (h : P b.state) : P (b.deliverParticipant name).state := by
  rcases b.state_deliverParticipant name with hstate | hstate
  · rw [hstate]
    exact h
  · rw [hstate]
    exact hP _ _ h

theorem keeps_receive (hP : SessionState.KeptByJoins P) {b : Bridge} (call : Callback)
    (h : P b.state) : P (b.receive call).state := by
  rcases b.state_receive call with hstate | hstate
  · rw [hstate]
    exact h
  · rw [hstate]
    exact hP _ _ h

end Bridge

end SessionBridge
