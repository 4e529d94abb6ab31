import SessionBridge.Proofs.Bridge.Delivery
import SessionBridge.Proofs.Session.Chronicle
import SessionBridge.Proofs.Session.Next

/-! When a session comes into being, and that nobody is told of it twice. Events reach the session in
any order, repeated, stale or too early; the stretches that they fall into say which session is there
in the end, and how many have been counted, published and written down. -/
namespace SessionBridge

def Session.announcement (s : Session) : Line :=
  ⟨s.establishedAt, .system, .status,
    "Session " ++ s.id.text ++ " established as " ++ (SessionState.established s).name⟩

def BridgeEvent.session? : BridgeEvent → Option Session
  | .sessionEstablished s => some s
  | _ => none

namespace Bridge

/-- Gives the session one event after the other, each at the clock reading beside it, and tells what
came of them. -/
def applyAll (b : Bridge) : List (Timestamp × SessionEvent) → List Occurrence × Bridge
  | [] => ([], b)
  | (now, e) :: events =>
    let (answer, b) := ({ b with clock := now } : Bridge).apply e
    let (occurrences, b) := b.applyAll events
    (⟨e, answer⟩ :: occurrences, b)

/-- From one bridge to the other exactly these sessions were reported: counted, each written down in
one line and published in one event, with no other line. -/
structure Reports (b b' : Bridge) (sessions : List Session) : Prop where
  established : b'.established = b.established + sessions.length
  lines : b'.lines = b.lines ++ sessions.map Session.announcement
  published : ∃ events, b'.feed.published.toList = b.feed.published.toList ++ events ∧
    events.filterMap BridgeEvent.session? = sessions

theorem Reports.refl (b : Bridge) : b.Reports b [] :=
  ⟨rfl, (List.append_nil _).symm, [], (List.append_nil _).symm, rfl⟩

theorem Reports.trans {b b' b'' : Bridge} {first second : List Session}
    (hfirst : b.Reports b' first) (hsecond : b'.Reports b'' second) :
    b.Reports b'' (first ++ second) := by
  obtain ⟨events, hevents, hsessions⟩ := hfirst.published
  obtain ⟨events', hevents', hsessions'⟩ := hsecond.published
  refine ⟨?_, ?_, events ++ events', ?_, ?_⟩
  · rw [hsecond.established, hfirst.established, List.length_append, Nat.add_assoc]
  · rw [hsecond.lines, hfirst.lines, List.map_append, List.append_assoc]
  · rw [hevents', hevents, List.append_assoc]
  · rw [List.filterMap_append, hsessions, hsessions']

theorem Reports.lines_since {b b' : Bridge} {sessions : List Session} (h : b.Reports b' sessions) :
    (b'.transcript.since b.transcript.size).map Entry.toLine =
      sessions.map Session.announcement := by
  unfold Transcript.since
  rw [List.map_drop, ← Transcript.length_toList]
  exact (congrArg _ h.lines).trans (List.drop_left' (List.length_map Entry.toLine))

theorem Reports.published_since {b b' : Bridge} {sessions : List Session}
    (h : b.Reports b' sessions) :
    (b'.feed.published.toList.drop b.feed.published.size).filterMap BridgeEvent.session? =
      sessions := by
  obtain ⟨events, hevents, hsessions⟩ := h.published
  rw [hevents, ← Array.length_toList, List.drop_left]
  exact hsessions

theorem announceSession_reports (b : Bridge) {s : Session} (hnow : s.establishedAt = b.clock) :
    b.Reports (b.announceSession s (SessionState.established s).name) [s] := by
  refine ⟨rfl, ?_, [.transcript (b.transcript.place s.announcement), .sessionEstablished s], ?_, rfl⟩
  · unfold announceSession
    rw [lines_publish, lines_report]
    simp [Session.announcement, line, hnow, lines, transcript]
  · unfold announceSession report record feed
    simp [Session.announcement, line, hnow, publish, Journal.append, Journal.publish, transcript]

theorem Reports.restart {b b' : Bridge} {sessions : List Session} {state : SessionState}
    {clock : Timestamp} (h : Reports { b with state, clock } b' sessions) : b.Reports b' sessions :=
  ⟨h.established, h.lines, h.published⟩

theorem answer_apply (b : Bridge) (e : SessionEvent) :
    (b.apply e).1 = b.state.transition b.clock e := by
  unfold apply
  rcases b.state.transition b.clock e with r | t
  · rfl
  · dsimp only
    rcases t.materialized with _ | s <;> rfl

theorem advance_reports (b : Bridge) (e : SessionEvent) :
    b.Reports (b.advance e) (b.state.meet b.clock e).materialized?.toList := by
  unfold advance apply SessionState.transition
  rcases hnext : b.state.next? b.clock e with _ | ⟨state', session?⟩
  · rw [(SessionState.meet_rejected hnext).2.1]
    exact .refl b
  · rw [(SessionState.meet_accepted hnext).2.1]
    rcases session? with _ | s
    · exact .restart (.refl { b with state := state' })
    · obtain ⟨rfl, hnow⟩ := SessionState.next?_materialized hnext
      exact .restart (announceSession_reports { b with state := .established s } hnow)

theorem applyAll_cons (b : Bridge) (now : Timestamp) (e : SessionEvent)
    (events : List (Timestamp × SessionEvent)) :
    b.applyAll ((now, e) :: events) =
      (b.state.meet now e :: ((({ b with clock := now } : Bridge).advance e).applyAll events).1,
        ((({ b with clock := now } : Bridge).advance e).applyAll events).2) := by
  have hanswer := answer_apply { b with clock := now } e
  exact Prod.ext (congrArg (fun answer => Occurrence.mk e answer :: _) hanswer) rfl

theorem applyAll_kept {c : Chronicle} {b : Bridge} (h : c.Kept b.state)
    (events : List (Timestamp × SessionEvent)) :
    ((b.applyAll events).1.foldl Chronicle.record c).Kept (b.applyAll events).2.state ∧
      ((b.applyAll events).1.foldl Chronicle.record c).completed =
        c.completed + ((b.applyAll events).1.filterMap Occurrence.materialized?).length ∧
      b.Reports (b.applyAll events).2
        ((b.applyAll events).1.filterMap Occurrence.materialized?) := by
  induction events generalizing c b with
  | nil => exact ⟨h, rfl, .refl b⟩
  | cons event events ih =>
    obtain ⟨now, e⟩ := event
    have htakes := h.takes now e
    have hreports := advance_reports { b with clock := now } e
    have hkept := htakes.kept
    rw [show b.state.after now e = (({ b with clock := now } : Bridge).advance e).state from
      (state_advance { b with clock := now } e).symm] at hkept
    obtain ⟨hrest, hcompleted, hreported⟩ := ih hkept
    have hsessions (occurrences : List Occurrence) :
        (b.state.meet now e :: occurrences).filterMap Occurrence.materialized? =
          (b.state.meet now e).materialized?.toList ++
            occurrences.filterMap Occurrence.materialized? := by
      rcases hm : (b.state.meet now e).materialized? with _ | s <;> simp [hm]
    rw [applyAll_cons]
    dsimp only
    rw [hsessions, List.length_append, List.foldl_cons]
    refine ⟨hrest, ?_, hreports.restart.trans hreported⟩
    rw [hcompleted, htakes.completed, Nat.add_assoc]

/-- From a disconnected bridge, whatever events come in whatever order: a session is there exactly if
the open stretch holds an acceptance and a join, and it is the one that the connect of the stretch
asked for, under the first id that was offered. Every stretch establishes one session when it is
complete and none otherwise, and each of these sessions is counted once, published once and written
down in one line, with nothing else written down. -/
theorem materializes_iff_accepted_and_joined (b : Bridge) (hstate : b.state = .disconnected)
    (events : List (Timestamp × SessionEvent)) :
    let occurrences := (b.applyAll events).1
    let b' := (b.applyAll events).2
    let chronicle := Chronicle.ofOccurrences occurrences
    let sessions := occurrences.filterMap Occurrence.materialized?
    ((∃ s, b'.state = .owner s ∨ b'.state = .joined s) ↔
        ∃ a, chronicle.current = some a ∧ a.firstId?.isSome = true ∧ a.joined = true) ∧
      (∀ s, b'.state = .owner s ∨ b'.state = .joined s →
        b'.state = .established s ∧ ∃ a, chronicle.current = some a ∧ s.mode = a.mode ∧
          s.name = a.sessionName ∧ s.handle = a.handle ∧ a.firstId? = some s.id) ∧
      (∀ a ∈ chronicle.all, a.sessions.length =
        if a.firstId?.isSome = true ∧ a.joined = true then 1 else 0) ∧
      b'.established = b.established + chronicle.completed ∧
      sessions.length = chronicle.completed ∧
      (b'.transcript.since b.transcript.size).map Entry.toLine = sessions.map Session.announcement ∧
      (b'.feed.published.toList.drop b.feed.published.size).filterMap BridgeEvent.session? =
        sessions := by
  intro occurrences b' chronicle sessions
  have hstart : Chronicle.empty.Kept b.state := hstate ▸ Chronicle.kept_empty
  obtain ⟨hkept, hcompleted, hreports⟩ := applyAll_kept hstart events
  have hcount : sessions.length = chronicle.completed := (Nat.zero_add _).symm.trans hcompleted.symm
  refine ⟨?_, ?_, ?_, ?_, hcount, ?_, ?_⟩
  · simp only [← SessionState.session?_eq_some_iff]
    exact hkept.explains.session_iff
  · intro s hs
    obtain ⟨hestablished, a, hcurrent, hmode, hname, hhandle, -, hid⟩ :=
      hkept.explains.session (SessionState.session?_eq_some_iff.mpr hs)
    exact ⟨hestablished, a, hcurrent, hmode, hname, hhandle, hid⟩
  · intro a ha
    rw [hkept.sessions a ha, Stretch.isComplete]
    cases a.firstId?.isSome <;> cases a.joined <;> rfl
  · rw [← hcount]
    exact hreports.established
  · exact hreports.lines_since
  · exact hreports.published_since

def restless : List (Timestamp × SessionEvent) :=
  [(⟨1⟩, .participantJoined), (⟨2⟩, .connect .owner "lobby" "ann"), (⟨3⟩, .participantJoined),
    (⟨4⟩, .nativeAccepted ⟨7⟩), (⟨5⟩, .nativeAccepted ⟨8⟩), (⟨6⟩, .connectFailed "late"),
    (⟨7⟩, .disconnect), (⟨8⟩, .connect .joiner "den" "ann"), (⟨9⟩, .connectFailed "busy"),
    (⟨10⟩, .connect .joiner "den" "ann"), (⟨11⟩, .nativeAccepted ⟨9⟩)]

theorem materializes_iff_accepted_and_joined_restless :
    (start ⟨64, #[]⟩ ⟨0⟩ "noon").state = .disconnected ∧
      ((start ⟨64, #[]⟩ ⟨0⟩ "noon").applyAll restless).2.established = 0 + 1 := by
  have hstate : (start ⟨64, #[]⟩ ⟨0⟩ "noon").state = .disconnected := rfl
  obtain ⟨-, -, -, hestablished, -⟩ := materializes_iff_accepted_and_joined _ hstate restless
  have hcompleted : (Chronicle.ofOccurrences
      ((start ⟨64, #[]⟩ ⟨0⟩ "noon").applyAll restless).1).completed = 1 := by
    decide +kernel
  rw [hcompleted] at hestablished
  exact ⟨hstate, hestablished⟩

end Bridge

end SessionBridge
