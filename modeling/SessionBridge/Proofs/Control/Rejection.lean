import SessionBridge.Proofs.Control.Trace

/-! What is refused on this side, before any native call. It follows from the arguments, the session
state and whether another operation runs, in this order, and nothing comes of it but the error. -/
namespace SessionBridge

def Blank (s : String) : Prop :=
  ∀ c ∈ s.toList, Text.isBlank c = true

theorem isBlankText_iff {s : String} : Text.isBlankText s = true ↔ Blank s :=
  List.all_eq_true

/-- What is refused, with the error: in a session state, with texts of at most `limit` bytes to be sent,
and while another operation runs if `busy`. -/
inductive Rejects (limit : Nat) (busy : Bool) (state : SessionState) : Action → ControlError → Prop where
  | emptySessionName {mode : SessionMode} {sessionName handle : String} (hname : Blank sessionName) :
      Rejects limit busy state (.connect mode sessionName handle) (.config .emptySessionName)
  | emptyHandle {mode : SessionMode} {sessionName handle : String} (hname : ¬Blank sessionName)
      (hhandle : Blank handle) :
      Rejects limit busy state (.connect mode sessionName handle) (.config .emptyHandle)
  | controlBusy {mode : SessionMode} {sessionName handle : String} (hname : ¬Blank sessionName)
      (hhandle : ¬Blank handle) (hbusy : busy = true) :
      Rejects limit busy state (.connect mode sessionName handle) (.session .controlBusy)
  | alreadyActive {mode : SessionMode} {sessionName handle : String} (hname : ¬Blank sessionName)
      (hhandle : ¬Blank handle) (hfree : busy = false) (hactive : state ≠ .disconnected) :
      Rejects limit busy state (.connect mode sessionName handle)
        (.session (.alreadyActive state.name))
  | messageTooLong {text : String} (hlong : limit < text.utf8ByteSize) :
      Rejects limit busy state (.send text) (.config (.messageTooLong text.utf8ByteSize limit))
  | notEstablished {text : String} (hfits : text.utf8ByteSize ≤ limit)
      (hstate : state = .disconnected ∨ ∃ a, state = .connecting a) :
      Rejects limit busy state (.send text) (.session (.notEstablished state.name))
  | notConnected (hstate : state = .disconnected) :
      Rejects limit busy state .disconnect (.session .notConnected)

theorem SessionState.isDisconnected_iff {state : SessionState} :
    state.isDisconnected = true ↔ state = .disconnected := by
  cases state <;> simp [isDisconnected]

theorem SessionState.session?_eq_none_iff {state : SessionState} :
    state.session? = none ↔ state = .disconnected ∨ ∃ a, state = .connecting a := by
  cases state <;> simp [session?]

theorem rejects_connect_iff {limit : Nat} {busy : Bool} {state : SessionState} {mode : SessionMode}
    {sessionName handle : String} {e : ControlError} :
    Rejects limit busy state (.connect mode sessionName handle) e ↔
      connectRefusal? busy state sessionName handle = some e := by
  unfold connectRefusal?
  constructor
  · intro h
    cases h with
    | emptySessionName hname => rw [if_pos (isBlankText_iff.mpr hname)]
    | emptyHandle hname hhandle =>
      rw [if_neg (mt isBlankText_iff.mp hname), if_pos (isBlankText_iff.mpr hhandle)]
    | controlBusy hname hhandle hbusy =>
      rw [if_neg (mt isBlankText_iff.mp hname), if_neg (mt isBlankText_iff.mp hhandle), if_pos hbusy]
    | alreadyActive hname hhandle hfree hactive =>
      rw [if_neg (mt isBlankText_iff.mp hname), if_neg (mt isBlankText_iff.mp hhandle),
        if_neg (Bool.eq_false_iff.mp hfree), if_neg (mt SessionState.isDisconnected_iff.mp hactive)]
  · intro h
    split at h
    · rename_i hname
      cases h
      exact .emptySessionName (isBlankText_iff.mp hname)
    rename_i hname
    have hproper : ¬Blank sessionName := mt isBlankText_iff.mpr hname
    split at h
    · rename_i hhandle
      cases h
      exact .emptyHandle hproper (isBlankText_iff.mp hhandle)
    rename_i hhandle
    have hproper' : ¬Blank handle := mt isBlankText_iff.mpr hhandle
    split at h
    · rename_i hbusy
      cases h
      exact .controlBusy hproper hproper' hbusy
    rename_i hfree
    split at h
    · cases h
    · rename_i hactive
      cases h
      exact .alreadyActive hproper hproper' (Bool.eq_false_iff.mpr hfree)
        (mt SessionState.isDisconnected_iff.mpr hactive)

namespace World

variable {β : Type}

theorem connectRefusal?_busy (state : SessionState) (sessionName handle : String) :
    ∃ e, connectRefusal? true state sessionName handle = some e := by
  unfold connectRefusal?
  split
  · exact ⟨_, rfl⟩
  split
  · exact ⟨_, rfl⟩
  · exact ⟨_, rfl⟩

theorem undergo_connect (limit : Nat) (w : World β) (mode : SessionMode)
    (sessionName handle : String) :
    ∃ e, Rejects limit true w.bridge.state (.connect mode sessionName handle) e ∧
      w.undergo true (.connect mode sessionName handle) =
        { w with notes := w.notes.push (.refused e) } := by
  obtain ⟨e, hrefused⟩ := connectRefusal?_busy w.bridge.state sessionName handle
  refine ⟨e, rejects_connect_iff.mpr hrefused, ?_⟩
  simp only [undergo, hrefused]
  rfl

end World

namespace Controller

variable {β : Type} {c : Controller β}

def limit (c : Controller β) : Nat :=
  c.config.maxMessageLength.toNat

theorem rejects_send (hstate : c.state.session? = none) (text : String) :
    ∃ e, Rejects c.limit false c.state (.send text) e := by
  by_cases hlong : c.limit < text.utf8ByteSize
  · exact ⟨_, .messageTooLong hlong⟩
  · exact ⟨_, .notEstablished (Nat.le_of_not_lt hlong) (SessionState.session?_eq_none_iff.mp hstate)⟩

variable [NativeBus β]

/-- Nothing comes of an action that is rejected but the error. -/
theorem act_of_rejects {a : Action} {e : ControlError} (h : Rejects c.limit false c.state a e) :
    c.act a = (.failure e, c) := by
  cases a with
  | connect mode sessionName handle =>
    have hrefused := rejects_connect_iff.mp h
    change c.connect mode sessionName handle = _
    unfold connect
    rw [hrefused]
  | send text =>
    unfold act send
    cases h with
    | messageTooLong hlong => exact if_pos hlong
    | notEstablished hfits hstate =>
      have hsession := SessionState.session?_eq_none_iff.mpr hstate
      have hshort : ¬c.config.maxMessageLength.toNat < text.utf8ByteSize := Nat.not_lt_of_le hfits
      dsimp only
      rw [if_neg hshort, hsession]
  | disconnect =>
    cases h with
    | notConnected hstate =>
      unfold act disconnect
      dsimp only
      rw [SessionState.isDisconnected_iff.mpr hstate]
  | _ => cases h

end Controller

end SessionBridge
