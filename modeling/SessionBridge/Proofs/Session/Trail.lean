import SessionBridge.Proofs.Session.Next

/-! The audit trail of a session. Whatever state it starts in, whatever events come and whichever of them
are rejected, the entries of the accepted ones lead without a gap from the first state to the last, along
the arrows of one diagram; a session comes into being only on the way out of an attempt, and once it is
there nothing but a disconnect changes it. -/
namespace SessionBridge

/-- Entries that lead from one state to another without a gap. -/
inductive Walk : String → List AuditEntry → String → Prop where
  | stay (name : String) : Walk name [] name
  | go (entry : AuditEntry) {entries : List AuditEntry} {name : String}
      (h : Walk entry.toState entries name) : Walk entry.fromState (entry :: entries) name

namespace SessionState

/-- The arrows of the session: from a state, at an event of some kind, to a state. -/
def diagram : List (String × SessionEvent.Kind × String) :=
  [("Disconnected", .connect, "Connecting"),
    ("Connecting", .nativeAccepted, "Connecting"), ("Connecting", .nativeAccepted, "Owner"),
    ("Connecting", .nativeAccepted, "Joined"),
    ("Connecting", .participantJoined, "Connecting"), ("Connecting", .participantJoined, "Owner"),
    ("Connecting", .participantJoined, "Joined"),
    ("Connecting", .connectFailed, "Disconnected"),
    ("Owner", .participantJoined, "Owner"), ("Joined", .participantJoined, "Joined"),
    ("Connecting", .disconnect, "Disconnected"), ("Owner", .disconnect, "Disconnected"),
    ("Joined", .disconnect, "Disconnected")]

/-- Takes events one after the other, each at the time beside it. Gives the entries of the accepted ones
and the state in the end; a rejected event leaves the state as it was. -/
def audited (state : SessionState) : List (Timestamp × SessionEvent) → List AuditEntry × SessionState
  | [] => ([], state)
  | (now, e) :: events =>
    match state.transition now e with
    | .error _ => state.audited events
    | .ok t =>
      let (entries, last) := t.newState.audited events
      (t.audit :: entries, last)

structure Accepted (state : SessionState) (e : SessionEvent) (t : Transition) : Prop where
  fromState : t.audit.fromState = state.name
  toState : t.audit.toState = t.newState.name
  event : t.audit.event = e.text
  arrow : (t.audit.fromState, e.kind, t.audit.toState) ∈ diagram
  establishes : t.materialized.isSome = true ↔
    t.audit.fromState = "Connecting" ∧ (t.audit.toState = "Owner" ∨ t.audit.toState = "Joined")
  materialized : ∀ s, t.materialized = some s → t.newState = established s
  ends : e = .disconnect → t.newState = disconnected
  keeps : ∀ s, state.session? = some s → e ≠ .disconnect → t.newState = state

structure Refused (state : SessionState) (e : SessionEvent) (r : Rejection) : Prop where
  fromState : r.fromState = state.name
  event : r.event = e.text
  reason : r.reason = "Event " ++ e.text ++ " not valid for state " ++ state.name
  unanswered : (∀ name, (state.name, e.kind, name) ∉ diagram) ∨
    e.kind = .nativeAccepted ∧ state.name = "Connecting" ∧ state.sessionId?.isSome = true

variable {state state' : SessionState} {now : Timestamp} {e : SessionEvent}
  {session? : Option Session} {events : List (Timestamp × SessionEvent)}

/-! ### One event -/

theorem name_established_cases (s : Session) :
    (established s).name = "Owner" ∨ (established s).name = "Joined" := by
  unfold established
  cases s.mode with
  | owner => exact .inl rfl
  | joiner => exact .inr rfl

theorem Next.arrow (h : Next now state e state' session?) :
    (state.name, e.kind, state'.name) ∈ diagram := by
  -- A session is established under one of two names, and of the states only their names count.
  have hestablished (s : Session) (kind : SessionEvent.Kind)
      (howner : ("Connecting", kind, "Owner") ∈ diagram)
      (hjoined : ("Connecting", kind, "Joined") ∈ diagram) :
      ("Connecting", kind, (established s).name) ∈ diagram := by
    rcases name_established_cases s with hname | hname
    · rwa [hname]
    · rwa [hname]
  cases h with
  | attempted => simp [diagram, name, SessionEvent.kind]
  | accepted hid => simp [diagram, name, SessionEvent.kind]
  | completed hid => exact hestablished _ .nativeAccepted (by decide) (by decide)
  | failed => simp [diagram, name, SessionEvent.kind]
  | early hid => simp [diagram, name, SessionEvent.kind]
  | first hid => exact hestablished _ .participantJoined (by decide) (by decide)
  | again hsession =>
    cases state with
    | disconnected => cases hsession
    | connecting a => cases hsession
    | owner s => simp [diagram, name, SessionEvent.kind]
    | joined s => simp [diagram, name, SessionEvent.kind]
  | ended hactive =>
    cases state with
    | disconnected => exact absurd rfl hactive
    | connecting a => simp [diagram, name, SessionEvent.kind]
    | owner s => simp [diagram, name, SessionEvent.kind]
    | joined s => simp [diagram, name, SessionEvent.kind]

/-- A session comes into being on the way out of an attempt, and only there. -/
theorem Next.establishes (h : Next now state e state' session?) :
    session?.isSome = true ↔
      state.name = "Connecting" ∧ (state'.name = "Owner" ∨ state'.name = "Joined") := by
  cases h with
  | attempted => simp [name]
  | accepted hid => simp [name]
  | completed hid => exact iff_of_true rfl ⟨rfl, name_established_cases _⟩
  | failed => simp [name]
  | early hid => simp [name]
  | first hid => exact iff_of_true rfl ⟨rfl, name_established_cases _⟩
  | again hsession =>
    cases state with
    | disconnected => cases hsession
    | connecting a => cases hsession
    | owner s => simp [name]
    | joined s => simp [name]
  | ended hactive => simp [name]

theorem Next.keeps (h : Next now state e state' session?) (hsession : state.session?.isSome = true)
    (hdisconnect : e ≠ .disconnect) : state' = state := by
  cases h with
  | again => rfl
  | ended hactive => exact absurd rfl hdisconnect
  | _ => cases hsession

theorem Next.accepted_transition (h : Next now state e state' session?) :
    Accepted state e ⟨state', session?, ⟨now, state.name, state'.name, e.text⟩⟩ where
  fromState := rfl
  toState := rfl
  event := rfl
  arrow := h.arrow
  establishes := h.establishes
  materialized s hs := by
    subst hs
    exact h.materialized.1
  ends he := by
    subst he
    cases h
    rfl
  keeps s hs := h.keeps (Option.isSome_of_eq_some hs)

/-- A state rejects what it has no arrow for, and a second acceptance. -/
theorem unanswered_of_none (h : state.next? now e = none) :
    (∀ name, (state.name, e.kind, name) ∉ diagram) ∨
      e.kind = .nativeAccepted ∧ state.name = "Connecting" ∧ state.sessionId?.isSome = true := by
  cases state with
  | disconnected =>
    cases e with
    | connect mode sessionName handle => cases h
    | _ => exact .inl (by simp [diagram, name, SessionEvent.kind])
  | connecting a =>
    cases e with
    | connect mode sessionName handle => exact .inl (by simp [diagram, name, SessionEvent.kind])
    | connectFailed reason => cases h
    | disconnect => cases h
    | nativeAccepted id =>
      rcases hid : a.sessionId with _ | first
      · cases hearly : a.joinedEarly <;> simp [next?, hid, hearly] at h
      · exact .inr ⟨rfl, rfl, Option.isSome_of_eq_some hid⟩
    | participantJoined => rcases hid : a.sessionId with _ | id <;> simp [next?, hid] at h
  | owner s =>
    cases e with
    | participantJoined => cases h
    | disconnect => cases h
    | _ => exact .inl (by simp [diagram, name, SessionEvent.kind])
  | joined s =>
    cases e with
    | participantJoined => cases h
    | disconnect => cases h
    | _ => exact .inl (by simp [diagram, name, SessionEvent.kind])

theorem answers (state : SessionState) (now : Timestamp) (e : SessionEvent) :
    (∃ t, state.transition now e = .ok t ∧ Accepted state e t) ∨
      ∃ r, state.transition now e = .error r ∧ Refused state e r := by
  unfold transition
  rcases hnext : state.next? now e with _ | ⟨state', session?⟩
  · exact .inr ⟨_, rfl, rfl, rfl, rfl, unanswered_of_none hnext⟩
  · exact .inl ⟨_, rfl, (next_of_next? hnext).accepted_transition⟩

/-! ### Runs -/

theorem audited_ok {t : Transition} (h : state.transition now e = .ok t) :
    state.audited ((now, e) :: events) =
      (t.audit :: (t.newState.audited events).1, (t.newState.audited events).2) := by
  rw [audited, h]

theorem audited_error {r : Rejection} (h : state.transition now e = .error r) :
    state.audited ((now, e) :: events) = state.audited events := by
  rw [audited, h]

theorem audited_append (state : SessionState) (xs ys : List (Timestamp × SessionEvent)) :
    state.audited (xs ++ ys) =
      ((state.audited xs).1 ++ ((state.audited xs).2.audited ys).1,
        ((state.audited xs).2.audited ys).2) := by
  induction xs generalizing state with
  | nil => rfl
  | cons event xs ih =>
    obtain ⟨now, e⟩ := event
    rw [List.cons_append]
    rcases h : state.transition now e with r | t
    · rw [audited_error h, audited_error h, ih]
    · rw [audited_ok h, audited_ok h, ih, List.cons_append]

theorem walk_audited (state : SessionState) (events : List (Timestamp × SessionEvent)) :
    Walk state.name (state.audited events).1 (state.audited events).2.name := by
  induction events generalizing state with
  | nil => exact .stay state.name
  | cons event events ih =>
    obtain ⟨now, e⟩ := event
    rcases answers state now e with ⟨t, ht, haccepted⟩ | ⟨r, hr, -⟩
    · rw [audited_ok ht, ← haccepted.fromState]
      refine .go t.audit ?_
      rw [haccepted.toState]
      exact ih t.newState
    · rw [audited_error hr]
      exact ih state

theorem audited_of_session {s : Session} (hsession : state.session? = some s)
    (h : ∀ event ∈ events, event.2 ≠ .disconnect) : (state.audited events).2 = state := by
  induction events with
  | nil => rfl
  | cons event events ih =>
    obtain ⟨now, e⟩ := event
    obtain ⟨he, hevents⟩ := List.forall_mem_cons.mp h
    rcases answers state now e with ⟨t, ht, haccepted⟩ | ⟨r, hr, -⟩
    · rw [audited_ok ht, haccepted.keeps s hsession he]
      exact ih hevents
    · rw [audited_error hr]
      exact ih hevents

/-- What the audit trail of a session says, from whatever state and for whatever events. It is a walk
without a gap from the first state to the last. Each event on the way is either accepted, which goes along
an arrow of the diagram, adds one entry, and establishes a session, the one that is then there, exactly on
the way from an attempt to a session; or it is rejected, which adds nothing and leaves the state as it was.
A session that is there stays as it is up to the disconnect that ends it. -/
theorem audit_trail_walks_diagram (state : SessionState) (events : List (Timestamp × SessionEvent)) :
    Walk state.name (state.audited events).1 (state.audited events).2.name ∧
    (∀ before now e later, events = before ++ (now, e) :: later →
      let here := (state.audited before).2
      (∃ t, here.transition now e = .ok t ∧ Accepted here e t ∧
          state.audited (before ++ [(now, e)]) =
            ((state.audited before).1 ++ [t.audit], t.newState)) ∨
        ∃ r, here.transition now e = .error r ∧ Refused here e r ∧
          state.audited (before ++ [(now, e)]) = state.audited before) ∧
    ∀ before middle later session, events = before ++ middle ++ later →
      (state.audited before).2.session? = some session →
      (∀ event ∈ middle, event.2 ≠ .disconnect) →
      (state.audited (before ++ middle)).2 = (state.audited before).2 := by
  refine ⟨walk_audited state events, ?_, ?_⟩
  · intro before now e later _ here
    rw [audited_append]
    rcases answers here now e with ⟨t, ht, haccepted⟩ | ⟨r, hr, hrefused⟩
    · refine .inl ⟨t, ht, haccepted, ?_⟩
      rw [audited_ok ht]
      rfl
    · refine .inr ⟨r, hr, hrefused, ?_⟩
      rw [audited_error hr]
      exact Prod.ext (List.append_nil _) rfl
  · intro before middle later session _ hsession hmiddle
    rw [audited_append]
    exact audited_of_session hsession hmiddle

theorem audit_trail_walks_diagram_restored :
    let state := owner ⟨.joiner, ⟨3⟩, "den", "ann", ⟨0⟩⟩
    let before : List (Timestamp × SessionEvent) := [(⟨1⟩, .participantJoined)]
    let middle : List (Timestamp × SessionEvent) :=
      [(⟨2⟩, .nativeAccepted ⟨4⟩), (⟨3⟩, .connectFailed "late")]
    let later : List (Timestamp × SessionEvent) :=
      [(⟨4⟩, .disconnect), (⟨5⟩, .connect .joiner "lobby" "ann"), (⟨6⟩, .participantJoined),
        (⟨7⟩, .nativeAccepted ⟨9⟩)]
    let events := before ++ middle ++ later
    (∀ event ∈ middle, event.2 ≠ .disconnect) ∧ (state.audited (before ++ middle)).2 = state ∧
      (state.audited events).1.length = 5 ∧ Walk "Owner" (state.audited events).1 "Joined" := by
  intro state before middle later events
  have hmiddle : ∀ event ∈ middle, event.2 ≠ .disconnect := by decide
  obtain ⟨hwalk, -, hstays⟩ := audit_trail_walks_diagram state events
  exact ⟨hmiddle, hstays before middle later _ rfl rfl hmiddle, by decide +kernel, hwalk⟩

end SessionState

end SessionBridge
