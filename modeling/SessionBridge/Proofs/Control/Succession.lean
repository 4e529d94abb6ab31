import SessionBridge.Proofs.Bridge.Steps
import SessionBridge.Proofs.Control.Protocol

/-! The ids of the sessions that are established, against those that the bus has handed out. A session
takes the id of an open call, no id is taken twice, and none is taken out of turn: the published
sessions, with the one that waits for its first participant, follow the open calls in their order. -/
namespace SessionBridge

def SessionEvent.offeredId? : SessionEvent → Option SessionId
  | nativeAccepted id => some id
  | _ => none

namespace SessionState

def pending? : SessionState → Option SessionId
  | connecting a => a.sessionId
  | _ => none

@[simp] theorem pending?_established (s : Session) : (established s).pending? = none := by
  unfold established
  split <;> rfl

theorem Next.pending {now : Timestamp} {state state' : SessionState} {e : SessionEvent}
    {session? : Option Session} (h : Next now state e state' session?) :
    ((session?.map Session.id).toList ++ state'.pending?.toList).Sublist
      (state.pending?.toList ++ e.offeredId?.toList) := by
  cases h with
  | attempted => exact .slnil
  | accepted => exact List.sublist_append_right _ _
  | completed =>
    rw [pending?_established]
    exact List.sublist_append_right _ _
  | failed => exact List.nil_sublist _
  | @early a hid =>
    change a.sessionId.toList.Sublist _
    rw [hid]
    exact List.nil_sublist _
  | @first a id hid =>
    rw [pending?_established]
    change [id].Sublist (a.sessionId.toList ++ [])
    rw [hid]
    exact .refl _
  | again => exact List.sublist_append_left _ _
  | ended => exact List.nil_sublist _

end SessionState

namespace Bridge

def sessions (b : Bridge) : List Session :=
  b.feed.published.toList.filterMap BridgeEvent.session?

def claimed (b : Bridge) : List SessionId :=
  b.sessions.map Session.id ++ b.state.pending?.toList

/-- The sessions took their ids from `ids`, in order and each id once, and all were published. -/
structure Claims (ids : List SessionId) (b : Bridge) : Prop where
  counted : b.sessions.length = b.established
  claimed : b.claimed.Sublist ids

theorem filterMap_publish {α : Type} (read : BridgeEvent → Option α) (b : Bridge) (e : BridgeEvent) :
    (b.publish e).feed.published.toList.filterMap read =
      b.feed.published.toList.filterMap read ++ (read e).toList := by
  unfold publish feed Journal.publish
  rw [Feed.published_publish, Array.toList_push, List.filterMap_append]
  rcases hread : read e with _ | a <;> simp [hread]

theorem filterMap_record {α : Type} {read : BridgeEvent → Option α}
    (hread : ∀ entry, read (.transcript entry) = none) (b : Bridge) (origin : Origin)
    (kind : InformType) (text : String) :
    (b.record origin kind text).feed.published.toList.filterMap read =
      b.feed.published.toList.filterMap read := by
  have hpublished := filterMap_publish read b
    (.transcript (b.transcript.place (b.line origin kind text)))
  rw [hread, Option.toList_none, List.append_nil] at hpublished
  exact hpublished

theorem sessions_publish (b : Bridge) (e : BridgeEvent) :
    (b.publish e).sessions = b.sessions ++ e.session?.toList :=
  filterMap_publish BridgeEvent.session? b e

@[simp] theorem sessions_record (b : Bridge) (origin : Origin) (kind : InformType) (text : String) :
    (b.record origin kind text).sessions = b.sessions :=
  filterMap_record (fun _ => rfl) b origin kind text

variable {ids : List SessionId} {b b' : Bridge}

theorem Claims.same (h : b.Claims ids) (hsessions : b'.sessions = b.sessions)
    (hstate : b'.state = b.state) (hestablished : b'.established = b.established) :
    b'.Claims ids := by
  refine ⟨?_, ?_⟩
  · rw [hsessions, hestablished]
    exact h.counted
  · unfold Bridge.claimed
    rw [hsessions, hstate]
    exact h.claimed

theorem Claims.record (h : b.Claims ids) (origin : Origin) (kind : InformType) (text : String) :
    (b.record origin kind text).Claims ids :=
  h.same (sessions_record b origin kind text) rfl rfl

theorem Claims.report (h : b.Claims ids) (kind : InformType) (text : String) :
    (b.report kind text).Claims ids :=
  h.record .system kind text

theorem Claims.publish (h : b.Claims ids) {e : BridgeEvent} (he : e.session? = none) :
    (b.publish e).Claims ids := by
  refine h.same ?_ rfl rfl
  rw [sessions_publish, he]
  exact List.append_nil _

theorem Claims.advance (h : b.Claims ids) (e : SessionEvent) :
    (b.advance e).Claims (ids ++ e.offeredId?.toList) := by
  have htaken {taken : List SessionId}
      (hsub : taken.Sublist (b.state.pending?.toList ++ e.offeredId?.toList)) :
      (b.sessions.map Session.id ++ taken).Sublist (ids ++ e.offeredId?.toList) := by
    refine (List.Sublist.append_left hsub _).trans ?_
    rw [← List.append_assoc]
    exact h.claimed.append_right _
  have hadvances := b.advance_advances e
  generalize b.advance e = b' at hadvances
  cases hadvances with
  | rejected hnext => exact ⟨h.counted, htaken (List.sublist_append_left _ _)⟩
  | moved hnext => exact ⟨h.counted, htaken (SessionState.next_of_next? hnext).pending⟩
  | @established s hnext =>
    have hsessions : (({ b with state := .established s } : Bridge).announceSession s
        (SessionState.established s).name).sessions = b.sessions ++ [s] := by
      unfold announceSession
      rw [sessions_publish]
      exact congrArg (· ++ [s]) (sessions_record _ .system .status _)
    refine ⟨?_, ?_⟩
    · rw [hsessions, List.length_append, h.counted]
      rfl
    · unfold Bridge.claimed
      rw [hsessions, List.map_append, List.append_assoc]
      exact htaken (SessionState.next_of_next? hnext).pending

theorem Claims.advance_unoffered (h : b.Claims ids) {e : SessionEvent} (he : e.offeredId? = none) :
    (b.advance e).Claims ids := by
  have hadvanced := h.advance e
  rw [he, Option.toList_none, List.append_nil] at hadvanced
  exact hadvanced

theorem steady_claims (ids : List SessionId) : Steady (Claims ids) where
  record _ origin kind text _ h := h.record origin kind text
  showed _ _ h := h.same rfl rfl rfl
  enroll b p _ h := by
    have hinserted : Claims ids { b with registry := b.registry.insert p } := h.same rfl rfl rfl
    exact (hinserted.report _ _).publish rfl
  join _ h := h.advance_unoffered rfl

end Bridge

namespace World

variable {β : Type} {w w' : World β}

theorem Performed.steady {P : Bridge → Prop} {e : Exchange} (hperformed : Performed w w' e)
    (hP : Bridge.Steady P) (h : P w.bridge) : P w'.bridge := by
  obtain ⟨calls, hbridge⟩ := hperformed.bridge
  rw [hbridge]
  exact hP.callbacks calls h

def openedIds (w : World β) : List SessionId :=
  w.exchanges.toList.filterMap Exchange.openedId?

/-- Every session has an id that the bus returned, in the order of the open calls. -/
def Numbered (w : World β) : Prop :=
  w.bridge.Claims w.openedIds

theorem Performed.openedIds {e : Exchange} (hperformed : Performed w w' e) :
    w'.openedIds = w.openedIds ++ e.openedId?.toList := by
  unfold World.openedIds
  rw [hperformed.exchanges, Array.toList_push, List.filterMap_append]
  rcases hid : e.openedId? with _ | id <;> simp [hid]

theorem Numbered.advance (h : w.Numbered) {e : SessionEvent} (he : e.offeredId? = none) :
    (w.advance e).Numbered :=
  Bridge.Claims.advance_unoffered h he

theorem Numbered.report (h : w.Numbered) (kind : InformType) (text : String) :
    (w.report kind text).Numbered :=
  Bridge.Claims.report h kind text

theorem Numbered.performed {e : Exchange} (h : w.Numbered) (hperformed : Performed w w' e)
    (he : e.openedId? = none) : w'.Numbered := by
  unfold Numbered
  rw [hperformed.openedIds, he, Option.toList_none, List.append_nil]
  exact hperformed.steady (Bridge.steady_claims w.openedIds) h

theorem Numbered.accepted {mode : SessionMode} {target : BusTarget} {sessionName : String}
    {id : SessionId} (h : w.Numbered)
    (hperformed : Performed w w' (.openSession mode target sessionName (.value id))) :
    (w'.advance (.nativeAccepted id)).Numbered := by
  have hclaims := hperformed.steady (Bridge.steady_claims w.openedIds) h
  change (w'.bridge.advance (.nativeAccepted id)).Claims w'.openedIds
  rw [hperformed.openedIds]
  exact hclaims.advance (.nativeAccepted id)

theorem Numbered.abortConnect (h : w.Numbered) (f : NativeFailure) :
    (Controller.abortConnect f w).Numbered :=
  (h.advance rfl).report _ _

theorem Numbered.conclude (h : w.Numbered) (link : Link) : (Controller.conclude link w).Numbered :=
  Bridge.Claims.publish ((h.advance rfl).report _ _) rfl

variable [NativeBus β]

theorem Numbered.leaveIfKnown {attended : Bool} {id? : Option SessionId}
    {o : Outcome NativeFailure Unit} (h : w.Numbered)
    (hresult : Controller.leaveIfKnown attended id? w = (o, w')) : w'.Numbered := by
  cases id? with
  | none =>
    cases hresult
    exact h
  | some id => exact h.performed (World.performed hresult) rfl

end World

namespace Controller

variable {β : Type} [NativeBus β] {c : Controller β} {mode : SessionMode}
  {sessionName handle : String}

theorem numbered_registered {o : Outcome NativeFailure Unit} {w₁ : World β}
    (h : c.world.Numbered)
    (hregister : (c.opening mode sessionName handle).registerCallbacks ⟨c.world.anchors.next⟩ =
      (o, w₁)) : w₁.Numbered := by
  have hopening : (c.opening mode sessionName handle).Numbered := h.advance rfl
  exact hopening.performed (World.performed hregister) rfl

theorem Asked.numbered {f : NativeFailure} {w₁ w₂ : World β}
    (hasked : Asked c mode sessionName handle (.failure f) w₁ w₂) (h : c.world.Numbered) :
    w₂.Numbered :=
  ((numbered_registered h hasked.registered).report _ _).performed (World.performed hasked.asked) rfl

theorem numbered_connect (h : c.world.Numbered)
    (hcalm : (c.connect mode sessionName handle).1 ≠ .panic) :
    (c.connect mode sessionName handle).2.world.Numbered := by
  have hconnects := connect_connects hcalm
  generalize (c.connect mode sessionName handle).1 = outcome at hconnects
  generalize (c.connect mode sessionName handle).2 = c' at hconnects
  cases hconnects with
  | refused => exact h
  | unregistered hallowed hregister =>
    have haborted := (numbered_registered h hregister).abortConnect
    exact haborted _
  | withdrawn hasked hclear =>
    have hcleared := (hasked.numbered h).performed (World.performed hclear) rfl
    exact hcleared.abortConnect _
  | leaked hasked hclear =>
    have hcleared := (hasked.numbered h).performed (World.performed hclear) rfl
    exact hcleared.abortConnect _
  | opened hasked =>
    have hregistered := numbered_registered h hasked.registered
    exact (hregistered.report _ _).accepted (World.performed hasked.asked)

theorem numbered_send {text : String} (h : c.world.Numbered) (hcalm : (c.send text).1 ≠ .panic) :
    (c.send text).2.world.Numbered := by
  have hsends := send_sends hcalm
  generalize (c.send text).1 = outcome at hsends
  generalize (c.send text).2 = c' at hsends
  cases hsends with
  | tooLong => exact h
  | unestablished => exact h
  | unlinked => exact h
  | failed hspoken => exact h.performed (World.performed hspoken.sent) rfl
  | sent hspoken =>
    have hsent := h.performed (World.performed hspoken.sent) rfl
    exact Bridge.Claims.record hsent _ _ _

theorem Left.numbered {link : Link} {o : Outcome NativeFailure Unit} {w₁ w₂ : World β}
    (hleft : Left c link o w₁ w₂) (h : c.world.Numbered) : w₂.Numbered :=
  (h.leaveIfKnown hleft.left).performed (World.performed hleft.cleared) rfl

theorem numbered_disconnect (h : c.world.Numbered) (hcalm : c.disconnect.1 ≠ .panic) :
    c.disconnect.2.world.Numbered := by
  have hdisconnects := disconnect_disconnects hcalm
  generalize c.disconnect.1 = outcome at hdisconnects
  generalize c.disconnect.2 = c' at hdisconnects
  cases hdisconnects with
  | refused => exact h
  | kept hactive hlink hleave => exact h.leaveIfKnown hleave
  | cleared hleft => exact (hleft.numbered h).conclude _
  | leaked hleft => exact (hleft.numbered h).conclude _

theorem numbered_act {a : Action} (h : c.world.Numbered) (hcalm : (c.act a).1 ≠ .panic) :
    (c.act a).2.world.Numbered := by
  have hsteady := Bridge.steady_claims c.world.openedIds
  cases a with
  | connect mode sessionName handle => exact numbered_connect h hcalm
  | send text => exact numbered_send h hcalm
  | disconnect => exact numbered_disconnect h hcalm
  | callback call => exact hsteady.receive call h
  | message text code => exact hsteady.deliverMessage text code h
  | participant name => exact hsteady.deliverParticipant name h
  | install handlers =>
    obtain ⟨installed, hinstall⟩ := c.world.bridge.install_eq handlers
    have hinstalled : Bridge.Claims c.world.openedIds
        { c.world.bridge with handlers := installed } := h.same rfl rfl rfl
    rw [← hinstall] at hinstalled
    exact hinstalled
  | tick now => exact h.same rfl rfl rfl

end Controller

end SessionBridge
