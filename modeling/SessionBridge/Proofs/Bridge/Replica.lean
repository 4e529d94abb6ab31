import SessionBridge.Bus.Target
import SessionBridge.Proofs.Bridge.Steps

/-! The feed as all that a display needs. From a copy of what the bridge shows, and the events that
follow, the display keeps its copy up to date: every change is published, nothing is published that is
no change, and an event that is no line of the transcript comes right behind the line that reports it. -/
namespace SessionBridge

structure Replica where
  transcript : List Entry
  participants : List Participant
  session : Option Session

namespace Replica

def take (r : Replica) : BridgeEvent → Replica
  | .transcript e => { r with transcript := r.transcript ++ [e] }
  | .participantJoined p => { r with participants := r.participants ++ [p] }
  | .sessionEstablished s => { r with session := some s }
  | .disconnected => { r with session := none }

end Replica

/-! ### Lines behind which events come -/

def BridgeEvent.Reported : BridgeEvent → String → Prop
  | transcript _, _ => False
  | participantJoined p, text => text = p.name ++ " joined"
  | sessionEstablished s, text =>
    text = "Session " ++ s.id.text ++ " established as " ++ (SessionState.established s).name
  | disconnected, text => ∃ (target : BusTarget) (sessionName : String),
    text = "Disconnected from " ++ target.wellKnownName sessionName

def BridgeEvent.isEntry : BridgeEvent → Bool
  | transcript _ => true
  | _ => false

/-- Every event that is no line comes right behind the line that reports it. -/
def Heralded (events : List BridgeEvent) : Prop :=
  ∀ before e after, events = before ++ e :: after → e.isEntry = false →
    ∃ entry, before.getLast? = some (.transcript entry) ∧ entry.origin = .system ∧
      entry.kind = .status ∧ e.Reported entry.text

theorem heralded_nil : Heralded [] := by
  intro before e after hsplit
  simp at hsplit

theorem heralded_entry (entry : Entry) : Heralded [.transcript entry] := by
  intro before e after hsplit hevent
  rcases before with _ | ⟨first, before⟩
  · cases hsplit
    cases hevent
  · simp at hsplit

theorem heralded_pair {entry : Entry} {e : BridgeEvent} (horigin : entry.origin = .system)
    (hkind : entry.kind = .status) (hreported : e.Reported entry.text) :
    Heralded [.transcript entry, e] := by
  intro before e' after hsplit hevent
  rcases before with _ | ⟨first, _ | ⟨second, before⟩⟩
  · cases hsplit
    cases hevent
  · cases hsplit
    exact ⟨entry, rfl, horigin, hkind, hreported⟩
  · simp at hsplit

theorem Heralded.append {first second : List BridgeEvent} (hfirst : Heralded first)
    (hsecond : Heralded second) : Heralded (first ++ second) := by
  intro before e after hsplit hevent
  -- The line stands in the same part as its event: no part begins with an event that is no line.
  rcases List.append_eq_append_iff.mp hsplit with ⟨rest, hbefore, hrest⟩ | ⟨rest, hbefore, hrest⟩
  · obtain ⟨entry, hlast, hreported⟩ := hsecond rest e after hrest hevent
    refine ⟨entry, ?_, hreported⟩
    rw [hbefore, List.getLast?_append, hlast]
    rfl
  · rcases rest with _ | ⟨e', rest⟩
    · obtain ⟨entry, hlast, -⟩ := hsecond [] e after hrest.symm hevent
      cases hlast
    · cases hrest
      exact hfirst before e rest hbefore hevent

theorem Heralded.of_append {first second : List BridgeEvent} (h : Heralded (first ++ second)) :
    Heralded first := by
  intro before e after hsplit hevent
  refine h before e (after ++ second) ?_ hevent
  rw [hsplit, List.append_assoc]
  rfl

namespace Bridge

def replica (b : Bridge) : Replica :=
  ⟨b.transcript.toList, b.registry.toList, b.state.session?⟩

/-- Between the two bridges everything that a display sees was published, in order. -/
structure Grows (b b' : Bridge) : Prop where
  capacity : b'.feed.capacity = b.feed.capacity
  published : ∃ events, b'.feed.published.toList = b.feed.published.toList ++ events ∧
    Heralded events ∧ events.foldl Replica.take b.replica = b'.replica

variable {b b' b'' : Bridge}

theorem Grows.refl (b : Bridge) : b.Grows b :=
  ⟨rfl, [], (List.append_nil _).symm, heralded_nil, rfl⟩

theorem Grows.trans (h : b.Grows b') (h' : b'.Grows b'') : b.Grows b'' := by
  obtain ⟨events, hpublished, hheralded, hreplica⟩ := h.published
  obtain ⟨events', hpublished', hheralded', hreplica'⟩ := h'.published
  refine ⟨h'.capacity.trans h.capacity, events ++ events', ?_, hheralded.append hheralded', ?_⟩
  · rw [hpublished', hpublished, List.append_assoc]
  · rw [List.foldl_append, hreplica, hreplica']

theorem grows_unseen (hjournal : b'.journal = b.journal) (hregistry : b'.registry = b.registry)
    (hsession : b'.state.session? = b.state.session?) : b.Grows b' := by
  have hfeed : b'.feed = b.feed := congrArg Journal.feed hjournal
  refine ⟨congrArg Feed.capacity hfeed, [], ?_, heralded_nil, ?_⟩
  · rw [hfeed, List.append_nil]
  · unfold replica transcript
    rw [hjournal, hregistry, hsession]
    rfl

theorem grows_record (b : Bridge) (origin : Origin) (kind : InformType) (text : String) :
    b.Grows (b.record origin kind text) := by
  refine ⟨rfl, [.transcript (b.transcript.place (b.line origin kind text))], ?_, heralded_entry _, ?_⟩
  · exact Array.toList_push
  · unfold replica
    exact congrArg (Replica.mk · b.registry.toList b.state.session?)
      (Transcript.toList_append _ _).symm

theorem grows_announced (e : BridgeEvent) (text : String) (hreported : e.Reported text)
    (hjournal : b'.journal = ((b.report .status text).publish e).journal)
    (hreplica : b'.replica = (b.report .status text).replica.take e) : b.Grows b' := by
  have hfeed : b'.feed = ((b.report .status text).publish e).feed := congrArg Journal.feed hjournal
  have hcapacity := congrArg Feed.capacity hfeed
  refine ⟨hcapacity,
    [.transcript (b.transcript.place (b.line .system .status text)), e], ?_,
    heralded_pair rfl rfl hreported, ?_⟩
  · rw [hfeed]
    unfold publish report record feed Journal.publish Journal.append
    simp [transcript]
  · rw [hreplica]
    refine congrArg (Replica.take · e) ?_
    exact congrArg (Replica.mk · b.registry.toList b.state.session?)
      (Transcript.toList_append _ _).symm

theorem grows_enroll (b : Bridge) (p : Participant) : b.Grows (b.enroll p) := by
  refine grows_announced (.participantJoined p) (p.name ++ " joined") rfl rfl ?_
  unfold replica
  exact congrArg (Replica.mk _ · _) (Registry.toList_insert _ _)

/-! ### Session events -/

/-- Only the end of a session changes it without establishing another one. -/
theorem session?_of_next {now : Timestamp} {state state' : SessionState} {e : SessionEvent}
    (h : SessionState.Next now state e state' none) (he : e ≠ .disconnect) :
    state'.session? = state.session? := by
  cases h with
  | ended => exact absurd rfl he
  | _ => rfl

theorem grows_advance (b : Bridge) {e : SessionEvent} (he : e ≠ .disconnect) :
    b.Grows (b.advance e) := by
  have hadvances := b.advance_advances e
  generalize b.advance e = b' at hadvances
  cases hadvances with
  | rejected => exact .refl b
  | moved hnext => exact grows_unseen rfl rfl (session?_of_next (SessionState.next_of_next? hnext) he)
  | @established s hnext =>
    refine grows_announced (.sessionEstablished s)
      ("Session " ++ s.id.text ++ " established as " ++ (SessionState.established s).name) rfl rfl ?_
    unfold replica
    exact congrArg (Replica.mk _ _) (SessionState.session?_established s)

theorem session?_of_disconnect {now : Timestamp} {state state' : SessionState}
    {session? : Option Session} (h : SessionState.Next now state .disconnect state' session?) :
    session? = none ∧ state'.session? = none := by
  cases h with
  | ended => exact ⟨rfl, rfl⟩

theorem advance_disconnect (b : Bridge) :
    ∃ state, b.advance .disconnect = { b with state } ∧ state.session? = none := by
  have hadvances := b.advance_advances .disconnect
  generalize b.advance .disconnect = b' at hadvances
  cases hadvances with
  | rejected hnext =>
    refine ⟨b.state, rfl, ?_⟩
    cases hstate : b.state with
    | disconnected => rfl
    | _ =>
      rw [hstate] at hnext
      cases hnext
  | @moved state hnext =>
    exact ⟨state, rfl, (session?_of_disconnect (SessionState.next_of_next? hnext)).2⟩
  | established hnext =>
    cases (session?_of_disconnect (SessionState.next_of_next? hnext)).1

theorem grows_conclude (b : Bridge) (target : BusTarget) (sessionName : String) :
    b.Grows (((b.advance .disconnect).report .status
      ("Disconnected from " ++ target.wellKnownName sessionName)).publish .disconnected) := by
  obtain ⟨state, hadvance, hsession⟩ := b.advance_disconnect
  rw [hadvance]
  refine grows_announced .disconnected ("Disconnected from " ++ target.wellKnownName sessionName)
    ⟨target, sessionName, rfl⟩ rfl ?_
  unfold replica
  exact congrArg (Replica.mk _ _) hsession

theorem steady_grows (b : Bridge) : Steady b.Grows where
  record b' origin kind text _ h := h.trans (b'.grows_record origin kind text)
  showed _ _ h := h.trans (grows_unseen rfl rfl rfl)
  enroll b' p _ h := h.trans (b'.grows_enroll p)
  join b' h := h.trans (b'.grows_advance nofun)

end Bridge

end SessionBridge
