import SessionBridge.Proofs.Bus.Posting
import SessionBridge.Proofs.Control.Agreement

/-! What a run has sent, read off its steps: the text of every send that succeeded, with the last
opening before it. In a word of the protocol that opening is the one of the session that is open, so
the native sends of the word that succeed are its dispatches. -/
namespace SessionBridge

/-! ### Dispatches -/

structure Dispatch where
  opening : Opening
  text : String
  deriving DecidableEq

namespace Dispatch

def address (d : Dispatch) : SessionId × String :=
  (d.opening.id, d.text)

def echo (d : Dispatch) : InformType × String :=
  (.status, d.opening.handle ++ ": " ++ d.text)

end Dispatch

def Step.dispatch? (last : Option Opening) (s : Step) : Option Dispatch :=
  match s.action, s.outcome with
  | .send text, .value () => last.map (⟨·, text⟩)
  | _, _ => none

def dispatches (last : Option Opening) : List Step → List Dispatch
  | [] => []
  | s :: trace => (s.dispatch? last).toList ++ dispatches (s.opening?.or last) trace

theorem Step.dispatch?_of_not_send {s : Step} (h : ∀ text, s.action ≠ .send text)
    (last : Option Opening) : s.dispatch? last = none := by
  unfold dispatch?
  split
  · rename_i text haction _
    exact absurd haction (h text)
  · rfl

/-! ### Words of the protocol -/

def Phase.OpenedBy (p : Phase) (last : Option Opening) : Prop :=
  ∀ o, p.opening? = some o → last = some o

theorem lastOpening?_cons (s : Step) (trace : List Step) :
    lastOpening? (s :: trace) = (lastOpening? trace).or s.opening? := by
  unfold lastOpening?
  rcases hopening : s.opening? with _ | o
  · simp [hopening]
  · rcases hlast : (trace.filterMap Step.opening?).getLast? with _ | o' <;>
      simp [hopening, hlast, List.getLast?_cons]

theorem dispatches_append (last : Option Opening) (first second : List Step) :
    dispatches last (first ++ second) =
      dispatches last first ++ dispatches ((lastOpening? first).or last) second := by
  induction first generalizing last with
  | nil => rfl
  | cons s first ih =>
    rw [List.cons_append, dispatches, dispatches, ih, List.append_assoc, lastOpening?_cons,
      Option.or_assoc]

section
variable {config : BusConfig} {p p' : Phase} {scene : Scene} {scenes : List Scene}
  {last : Option Opening}

theorem Speaks.openedBy (h : Speaks config p scene p') (hlast : p.OpenedBy last) :
    p'.OpenedBy (scene.step.opening?.or last) := by
  intro o ho
  cases h with
  | @quiet p s a hquiet =>
    have hnone : Step.opening? ⟨a, .value (), []⟩ = none := by
      cases a <;> rfl
    rw [hnone]
    exact hlast o ho
  | @refused p s a e hrejects =>
    have hnone : Step.opening? ⟨a, .failure e, []⟩ = none := by
      cases a <;> rfl
    rw [hnone]
    exact hlast o ho
  | unregistered => cases ho
  | unopened => cases ho
  | opened => exact ho
  | unsent => exact hlast o ho
  | sent => exact hlast o ho
  | kept => exact hlast o ho
  | uncleared => cases ho
  | closed => cases ho

theorem Speaks.dispatch? (h : Speaks config p scene p') (hlast : p.OpenedBy last) :
    scene.step.exchanges.filterMap Exchange.sent? =
      (scene.step.dispatch? last).toList.map Dispatch.address := by
  cases h with
  | @quiet p s a hquiet =>
    have hother : ∀ text, a ≠ .send text := by
      rintro text rfl
      cases hquiet
    rw [Step.dispatch?_of_not_send hother]
    rfl
  | @refused p s a e hrejects =>
    have hnone : Step.dispatch? last ⟨a, .failure e, []⟩ = none := by
      cases a <;> rfl
    rw [hnone]
    rfl
  | @sent o since text =>
    rw [hlast o rfl]
    rfl
  | _ => rfl

theorem Speaks.handle {state : SessionState} {text : String} {calls : List Exchange}
    {session : Session} (h : Speaks config p ⟨state, .send text, .value (), calls⟩ p')
    (hsession : state.session? = some session) (hlast : p.OpenedBy last) :
    ∃ o, last = some o ∧ o.handle = session.handle := by
  cases h with
  | quiet hquiet => cases hquiet
  | @sent o since text =>
    rw [SessionState.session?_established] at hsession
    cases hsession
    exact ⟨o, hlast o rfl, rfl⟩

theorem Speaks.of_send (h : Speaks config p scene p') {id : SessionId} {text : String}
    {r : Outcome NativeFailure Unit} (hsend : .send id text r ∈ scene.step.exchanges) :
    scene.step.action = .send text ∧ ∃ o since, p = .opened o ∧ o.id = id ∧
      scene.state = .established ⟨o.mode, o.id, o.sessionName, o.handle, since⟩ := by
  cases h with
  | @unsent o since text' f =>
    cases List.mem_singleton.mp hsend
    exact ⟨rfl, o, since, rfl, rfl, rfl⟩
  | @sent o since text' =>
    cases List.mem_singleton.mp hsend
    exact ⟨rfl, o, since, rfl, rfl, rfl⟩
  | _ => simp at hsend

namespace Conversation

theorem append {p'' : Phase} {scenes' : List Scene} (h : Conversation config p scenes p')
    (h' : Conversation config p' scenes' p'') : Conversation config p (scenes ++ scenes') p'' := by
  induction h with
  | nil p => exact h'
  | cons shown first rest ih => exact .cons shown first (ih h')

/-- Every scene of a word speaks in the phase that the scenes before it have led to. -/
theorem split {before after : List Scene}
    (h : Conversation config p (before ++ scene :: after) p') :
    ∃ p₁ p₂, Conversation config p before p₁ ∧ Speaks config p₁ scene p₂ := by
  induction before generalizing p with
  | nil =>
    cases h with
    | cons shown first rest => exact ⟨p, _, .nil p, first⟩
  | cons scene' before ih =>
    cases h with
    | cons shown first rest =>
      obtain ⟨p₁, p₂, hbefore, hscene⟩ := ih rest
      exact ⟨p₁, p₂, .cons shown first hbefore, hscene⟩

theorem current? (h : Conversation config p scenes p') :
    (Controller.spoken scenes).foldl Exchange.after p.current? = p'.current? := by
  induction h with
  | nil p => rfl
  | cons _ first rest ih =>
    unfold Controller.spoken at ih ⊢
    rw [List.flatMap_cons, List.foldl_append, first.fits.2, ih]

theorem openedBy (h : Conversation config p scenes p') (hlast : p.OpenedBy last) :
    p'.OpenedBy ((lastOpening? (scenes.map Scene.step)).or last) := by
  induction h generalizing last with
  | nil p => exact hlast
  | cons _ first rest ih =>
    rw [List.map_cons, lastOpening?_cons, Option.or_assoc]
    exact ih (first.openedBy hlast)

theorem dispatches (h : Conversation config p scenes p') (hlast : p.OpenedBy last) :
    (Controller.spoken scenes).filterMap Exchange.sent? =
      (dispatches last (scenes.map Scene.step)).map Dispatch.address := by
  induction h generalizing last with
  | nil p => rfl
  | cons _ first rest ih =>
    unfold Controller.spoken at ih ⊢
    rw [List.flatMap_cons, List.filterMap_append, first.dispatch? hlast,
      ih (first.openedBy hlast), List.map_cons, SessionBridge.dispatches, List.map_append]

end Conversation
end

end SessionBridge
