import SessionBridge.Proofs.Bridge.Materialization
import SessionBridge.Proofs.Session.Next

/-! What deliveries and session events are made of. A delivery comes to lines of the transcript,
newcomers, calls of handlers and joins, in some order; an event is rejected, moves the state, or
establishes a session and reports it. What each of these steps keeps is kept by everything that the
bus calls back. -/
namespace SessionBridge

namespace Bridge

inductive Advances (b : Bridge) (e : SessionEvent) : Bridge → Prop where
  | rejected (hnext : b.state.next? b.clock e = none) : Advances b e b
  | moved {state : SessionState} (hnext : b.state.next? b.clock e = some (state, none)) :
      Advances b e { b with state }
  | established {s : Session}
      (hnext : b.state.next? b.clock e = some (.established s, some s)) :
      Advances b e (({ b with state := .established s } : Bridge).announceSession s
        (SessionState.established s).name)

theorem advance_advances (b : Bridge) (e : SessionEvent) : b.Advances e (b.advance e) := by
  unfold advance apply SessionState.transition
  rcases hnext : b.state.next? b.clock e with _ | ⟨state, session?⟩
  · exact .rejected hnext
  · rcases session? with _ | s
    · exact .moved hnext
    · obtain ⟨rfl, -⟩ := SessionState.next?_materialized hnext
      exact .established hnext

theorem advance_eq (b : Bridge) (e : SessionEvent) :
    ∃ journal state established, b.advance e = { b with journal, state, established } := by
  have hadvances := b.advance_advances e
  generalize b.advance e = b' at hadvances
  cases hadvances <;> exact ⟨_, _, _, rfl⟩

theorem install_eq (b : Bridge) (h : Handlers) :
    ∃ handlers, (b.install h).2 = { b with handlers } := by
  unfold install
  split
  · exact ⟨b.handlers, rfl⟩
  · exact ⟨some h, rfl⟩

/-! ### Deliveries -/

/-- A property of bridges that every step of a delivery keeps. No delivery records a line of the local
user's, and none enrolls anybody twice. -/
structure Steady (P : Bridge → Prop) : Prop where
  record : ∀ b origin kind text, origin ≠ .outbound → P b → P (b.record origin kind text)
  showed : ∀ b s, P b → P (b.showed s)
  enroll : ∀ b p, b.registry.contains p.name = false → P b → P (b.enroll p)
  join : ∀ b, P b → P (b.advance .participantJoined)

variable {P : Bridge → Prop} {b : Bridge}

theorem Steady.report (hP : Steady P) (kind : InformType) (text : String) (h : P b) :
    P (b.report kind text) :=
  hP.record b .system kind text nofun h

theorem Steady.contain (hP : Steady P) (callback : EntryPoint) (crash? : Option Crash) (h : P b) :
    P (contain callback (crash?, b)) := by
  rcases crash? with _ | crash
  · exact h
  · exact hP.report .error _ h

theorem Steady.showMessage (hP : Steady P) (e : Entry) (h : P b) :
    P (Bridge.contain .message (b.showMessage e)) := by
  unfold Bridge.showMessage
  split
  · exact h
  · exact hP.contain .message _ (hP.showed b _ h)

theorem Steady.deliverMessage (hP : Steady P) (text : String) (code : Int32) (h : P b) :
    P (b.deliverMessage text code) := by
  have hrecorded := hP.record b .inbound (.ofCode code) text nofun h
  exact hP.showMessage _ hrecorded

theorem Steady.echo (hP : Steady P) (echoes : List (String × Int32)) (h : P b) :
    P (echoes.foldl (fun b echo => b.deliverMessage echo.1 echo.2) b) := by
  induction echoes generalizing b with
  | nil => exact h
  | cons echo echoes ih => exact ih (hP.deliverMessage echo.1 echo.2 h)

theorem Steady.showParticipant (hP : Steady P) (p : Participant) (h : P b) :
    P (b.showParticipant p).2 := by
  unfold Bridge.showParticipant
  split
  · exact h
  · exact hP.showed _ _ (hP.echo _ h)

theorem Steady.deliverParticipant (hP : Steady P) (name : String) (h : P b) :
    P (b.deliverParticipant name) := by
  cases hknown : b.registry.contains name with
  | true =>
    rw [deliverParticipant_known hknown]
    exact hP.join b h
  | false =>
    have hshown := hP.showParticipant ⟨name, b.clock⟩ (hP.enroll b ⟨name, b.clock⟩ hknown h)
    rcases hshow : (b.enroll ⟨name, b.clock⟩).showParticipant ⟨name, b.clock⟩ with
      ⟨_ | crash, after⟩
    all_goals rw [hshow] at hshown
    · rw [deliverParticipant_shown hknown hshow]
      exact hP.join after hshown
    · rw [deliverParticipant_crashed hknown hshow]
      exact hP.report .error _ hshown

theorem Steady.receive (hP : Steady P) (call : Callback) (h : P b) : P (b.receive call) := by
  cases call with
  | message hasContext text code =>
    cases hasContext with
    | false => exact h
    | true =>
      unfold Bridge.receive receiveText
      dsimp only
      split
      · exact hP.report .error _ h
      · exact hP.deliverMessage _ code h
  | participant hasContext name =>
    cases hasContext with
    | false => exact h
    | true =>
      unfold Bridge.receive receiveText
      dsimp only
      split
      · exact hP.report .error _ h
      · exact hP.deliverParticipant _ h

theorem Steady.callbacks (hP : Steady P) (calls : List Callback) (h : P b) :
    P (calls.foldl Bridge.receive b) := by
  induction calls generalizing b with
  | nil => exact h
  | cons call calls ih => exact ih (hP.receive call h)

end Bridge

end SessionBridge
