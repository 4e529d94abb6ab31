import SessionBridge.Proofs.Bridge.Replica
import SessionBridge.Proofs.Control.Succession

/-! A display that subscribes between two operations and misses no event shows what the controller
shows, whatever happens from then on. Failed connects, failed leaves, crashing handlers and even
panics of the bus take paths of their own through an operation; all of them publish what they change. -/
namespace SessionBridge

def Reading.event? : Reading → Option BridgeEvent
  | event e => some e
  | _ => none

namespace Feed

structure Extends (f f' : Feed) : Prop where
  capacity : f'.capacity = f.capacity
  published : f.published.toList <+: f'.published.toList

/-- What a receiver has been given that subscribed at `start` and never fell behind. It reads at any
time, also while an operation runs: all that it can meet then is a feed on the way to the next one. -/
inductive Watched (start : Feed) : Feed → Receiver → List BridgeEvent → Prop where
  | subscribed : Watched start start start.subscribe []
  | grown {f f' : Feed} {r : Receiver} {received : List BridgeEvent}
      (h : Watched start f r received) (hextends : f.Extends f') : Watched start f' r received
  | read {f : Feed} {r r' : Receiver} {received : List BridgeEvent} {e : BridgeEvent}
      (h : Watched start f r received) (hread : f.read false r = (.event e, r')) :
      Watched start f r' (received ++ [e])

/-- Everything that a read can come to while there is somebody to publish. -/
inductive Reads (f : Feed) (r : Receiver) : Reading → Receiver → Prop where
  | lagged {missed : Nat} {r' : Receiver} (hbehind : f.capacity < f.pending r) :
      Reads f r (.lagged missed) r'
  | event {e : BridgeEvent} (hevent : f.published.toList[r.next]? = some e) :
      Reads f r (.event e) ⟨r.next + 1⟩
  | empty (hend : f.published.toList[r.next]? = none) : Reads f r .empty r

theorem read_reads (f : Feed) (r : Receiver) : f.Reads r (f.read false r).1 (f.read false r).2 := by
  unfold read
  split
  · rename_i hbehind
    exact .lagged hbehind
  · rcases hnext : f.published[r.next]? with _ | e
    · exact .empty (Array.getElem?_toList.trans hnext)
    · exact .event (Array.getElem?_toList.trans hnext)

variable {start f : Feed} {r : Receiver} {given : List BridgeEvent}

/-- A receiver that never fell behind has been given everything up to its position. -/
theorem Watched.position (h : start.Watched f r given) :
    r.next = (start.published.toList ++ given).length ∧
      ∃ rest, f.published.toList = start.published.toList ++ given ++ rest := by
  -- A read takes the head of `rest`, and what is published in between goes to its end.
  induction h with
  | subscribed => exact ⟨by simp [subscribe], [], by simp⟩
  | @grown f f' r given h hextends ih =>
    obtain ⟨hnext, rest, hpublished⟩ := ih
    obtain ⟨events, hevents⟩ := hextends.published
    refine ⟨hnext, rest ++ events, ?_⟩
    rw [← hevents, hpublished, List.append_assoc]
  | @read f r r' given e h hread ih =>
    obtain ⟨hnext, rest, hpublished⟩ := ih
    have hreads := f.read_reads r
    rw [hread] at hreads
    cases hreads with
    | event hevent =>
      rw [hnext, hpublished, List.getElem?_append_right (Nat.le_refl _), Nat.sub_self] at hevent
      rcases rest with _ | ⟨e', rest⟩
      · cases hevent
      · cases hevent
        refine ⟨?_, rest, ?_⟩
        · simp [hnext, Nat.add_assoc]
        · rw [hpublished]
          simp

theorem Watched.caught_up (h : start.Watched f r given) (hempty : (f.read false r).1 = .empty) :
    f.published.toList = start.published.toList ++ given := by
  obtain ⟨hnext, rest, hpublished⟩ := h.position
  have hreads := f.read_reads r
  rw [hempty] at hreads
  generalize (f.read false r).2 = r' at hreads
  cases hreads with
  | empty hend =>
    rw [hnext, hpublished, List.getElem?_append_right (Nat.le_refl _), Nat.sub_self] at hend
    rcases rest with _ | ⟨e, rest⟩
    · rw [hpublished, List.append_nil]
    · cases hend

theorem Watched.receive (h : start.Watched f r given) (hclose : f.pending r ≤ f.capacity)
    (max : Nat) :
    start.Watched f (f.receive false max r).2
      (given ++ (f.receive false max r).1.filterMap Reading.event?) := by
  induction max generalizing r given with
  | zero =>
    rw [show f.receive false 0 r = ([], r) from rfl, List.filterMap_nil, List.append_nil]
    exact h
  | succ max ih =>
    have hreads := f.read_reads r
    unfold Feed.receive
    rcases hread : f.read false r with ⟨reading, r'⟩
    rw [hread] at hreads
    cases hreads with
    | lagged hbehind => exact absurd hclose (Nat.not_le_of_lt hbehind)
    | empty =>
      rw [show List.filterMap Reading.event? [.empty] = [] from rfl, List.append_nil]
      exact h
    | event =>
      have hcloser : f.pending ⟨r.next + 1⟩ ≤ f.capacity := by
        unfold pending at hclose ⊢
        dsimp only
        omega
      have hrest := ih (h.read hread) hcloser
      rw [List.append_assoc] at hrest
      exact hrest

end Feed

namespace World

variable {β : Type} {w w' : World β}

theorem Performed.grows {e : Exchange} (h : Performed w w' e) : w.bridge.Grows w'.bridge :=
  h.steady (Bridge.steady_grows w.bridge) (.refl _)

theorem grows_report (w : World β) (kind : InformType) (text : String) :
    w.bridge.Grows (w.report kind text).bridge :=
  w.bridge.grows_record .system kind text

variable [NativeBus β]

theorem grows_leaveIfKnown {attended : Bool} {id? : Option SessionId}
    {o : Outcome NativeFailure Unit}
    (hresult : Controller.leaveIfKnown attended id? w = (o, w')) : w.bridge.Grows w'.bridge := by
  cases id? with
  | none =>
    cases hresult
    exact .refl _
  | some id => exact (performed hresult).grows

end World

namespace Controller

variable {β : Type} {c : Controller β} {mode : SessionMode} {sessionName handle : String}

/-! ### Operations publish what they change -/

theorem grows_abortConnect (f : NativeFailure) (w : World β) :
    w.bridge.Grows (abortConnect f w).bridge := by
  have hadvanced : w.bridge.Grows (w.advance (.connectFailed f.message)).bridge :=
    w.bridge.grows_advance nofun
  exact hadvanced.trans (World.grows_report _ _ _)

theorem grows_conclude (link : Link) (w : World β) : w.bridge.Grows (conclude link w).bridge :=
  w.bridge.grows_conclude link.target link.sessionName

variable [NativeBus β]

theorem grows_registered {o : Outcome NativeFailure Unit} {w₁ : World β}
    (hregister : (c.opening mode sessionName handle).registerCallbacks ⟨c.world.anchors.next⟩ =
      (o, w₁)) : c.bridge.Grows w₁.bridge := by
  have hopening : c.bridge.Grows (c.opening mode sessionName handle).bridge :=
    c.bridge.grows_advance nofun
  exact hopening.trans (World.performed hregister).grows

theorem Asked.grows {o : Outcome NativeFailure SessionId} {w₁ w₂ : World β}
    (hasked : Asked c mode sessionName handle o w₁ w₂) : c.bridge.Grows w₂.bridge :=
  ((grows_registered hasked.registered).trans (World.grows_report _ _ _)).trans
    (World.performed hasked.asked).grows

theorem Asked.grows_cleared {o : Outcome NativeFailure SessionId} {r : Outcome NativeFailure Unit}
    {w₁ w₂ w₃ : World β} (hasked : Asked c mode sessionName handle o w₁ w₂)
    (hclear : w₂.clearCallbacks true = (r, w₃)) : c.bridge.Grows w₃.bridge :=
  hasked.grows.trans (World.performed hclear).grows

theorem grows_connect (c : Controller β) (mode : SessionMode) (sessionName handle : String) :
    c.bridge.Grows (c.connect mode sessionName handle).2.bridge := by
  have hends := c.connect_ends mode sessionName handle
  generalize (c.connect mode sessionName handle).1 = outcome at hends
  generalize (c.connect mode sessionName handle).2 = c' at hends
  rcases hends with hconnects | ⟨-, hcollapses⟩
  · cases hconnects with
    | refused => exact .refl _
    | unregistered hallowed hregister =>
      exact (grows_registered hregister).trans (grows_abortConnect _ _)
    | withdrawn hasked hclear => exact (hasked.grows_cleared hclear).trans (grows_abortConnect _ _)
    | leaked hasked hclear => exact (hasked.grows_cleared hclear).trans (grows_abortConnect _ _)
    | @opened id w₁ w₂ hasked =>
      have haccepted : w₂.bridge.Grows (w₂.advance (.nativeAccepted id)).bridge :=
        w₂.bridge.grows_advance nofun
      exact hasked.grows.trans haccepted
  · cases hcollapses with
    | registering hallowed hregister =>
      have hregistered := grows_registered hregister
      exact hregistered
    | asking hasked => exact hasked.grows
    | withdrawing hasked hclear =>
      have hcleared := hasked.grows_cleared hclear
      exact hcleared

theorem grows_send (c : Controller β) (text : String) :
    c.bridge.Grows (c.send text).2.bridge := by
  rcases c.send_ends text with hsends | ⟨-, session, w, hspoken, heq⟩
  · generalize (c.send text).1 = outcome at hsends
    generalize (c.send text).2 = c' at hsends
    cases hsends with
    | tooLong => exact .refl _
    | unestablished => exact .refl _
    | unlinked => exact .refl _
    | failed hspoken => exact (World.performed hspoken.sent).grows
    | sent hspoken =>
      exact (World.performed hspoken.sent).grows.trans (Bridge.grows_record _ _ _ _)
  · rw [heq]
    exact (World.performed hspoken.sent).grows

theorem Left.grows {link : Link} {o : Outcome NativeFailure Unit} {w₁ w₂ : World β}
    (hleft : Left c link o w₁ w₂) : c.bridge.Grows w₂.bridge :=
  (World.grows_leaveIfKnown hleft.left).trans (World.performed hleft.cleared).grows

theorem grows_disconnect (c : Controller β) : c.bridge.Grows c.disconnect.2.bridge := by
  have hends := c.disconnect_ends
  generalize c.disconnect.1 = outcome at hends
  generalize c.disconnect.2 = c' at hends
  rcases hends with hdisconnects | ⟨-, hbreaks⟩
  · cases hdisconnects with
    | refused => exact .refl _
    | kept hactive hlink hleave => exact World.grows_leaveIfKnown hleave
    | cleared hleft => exact hleft.grows.trans (grows_conclude _ _)
    | leaked hleft => exact hleft.grows.trans (grows_conclude _ _)
  · cases hbreaks with
    | leaving hactive hlink hleave => exact World.grows_leaveIfKnown hleave
    | clearing hleft => exact hleft.grows

theorem grows_act (c : Controller β) (a : Action) : c.bridge.Grows (c.act a).2.bridge := by
  have hsteady := Bridge.steady_grows c.bridge
  cases a with
  | connect mode sessionName handle => exact c.grows_connect mode sessionName handle
  | send text => exact c.grows_send text
  | disconnect => exact c.grows_disconnect
  | callback call => exact hsteady.receive call (.refl _)
  | message text code => exact hsteady.deliverMessage text code (.refl _)
  | participant name => exact hsteady.deliverParticipant name (.refl _)
  | install handlers =>
    obtain ⟨installed, hinstall⟩ := c.bridge.install_eq handlers
    have hunseen : c.bridge.Grows { c.bridge with handlers := installed } :=
      Bridge.grows_unseen rfl rfl rfl
    rw [← hinstall] at hunseen
    exact hunseen
  | tick now => exact Bridge.grows_unseen rfl rfl rfl

theorem grows_run (c : Controller β) (actions : List Action) :
    c.bridge.Grows (c.run actions).2.bridge := by
  induction actions generalizing c with
  | nil => exact .refl _
  | cons a actions ih => exact (c.grows_act a).trans (ih (c.act a).2)

/-- A display that copies what a controller shows between two operations and subscribes at that moment
keeps up with the controller through every run, as long as its receiver does not fall behind: whenever
it has been given everything, its copy is what the controller shows. That holds whatever the bus
returns or calls back, also from inside native calls, whether handlers crash or the bus panics, and
whenever the receiver reads. At no time has it been given a participant, an established session or a
disconnect but right behind the line that reports it. -/
theorem replica_follows_feed (c : Controller β) (actions : List Action) :
    let c' := (c.run actions).2
    c.bridge.feed.Extends c'.bridge.feed ∧
      ∀ r given, c.bridge.feed.Watched c'.bridge.feed r given →
        Heralded given ∧
          ((c'.bridge.feed.read false r).1 = .empty →
            given.foldl Replica.take c.bridge.replica = c'.bridge.replica) := by
  intro c'
  obtain ⟨hcapacity, events, hpublished, hheralded, hreplica⟩ := c.grows_run actions
  refine ⟨⟨hcapacity, events, hpublished.symm⟩, ?_⟩
  intro r given hwatched
  refine ⟨?_, ?_⟩
  · obtain ⟨-, rest, hgiven⟩ := hwatched.position
    rw [hpublished, List.append_assoc] at hgiven
    rw [List.append_cancel_left hgiven] at hheralded
    exact hheralded.of_append
  · intro hempty
    have hgiven := hwatched.caught_up hempty
    rw [hpublished] at hgiven
    rw [← List.append_cancel_left hgiven]
    exact hreplica

def chatting : List Action :=
  [.participant "bob", .send "hi", .disconnect, .connect .joiner "den" "ann"]

theorem replica_follows_feed_chatting :
    let c := ((standard Loopback.idle ⟨0⟩ "noon").connect .owner "lobby" "ann").2
    let c' := (c.run chatting).2
    let given := (c'.bridge.feed.receive false 64 c.bridge.feed.subscribe).1.filterMap
      Reading.event?
    given.length = 8 ∧ given.foldl Replica.take c.bridge.replica = c'.bridge.replica := by
  intro c c' given
  obtain ⟨hextends, hfollows⟩ := replica_follows_feed c chatting
  have hclose : c'.bridge.feed.pending c.bridge.feed.subscribe ≤ c'.bridge.feed.capacity := by
    decide +kernel
  have hempty : (c'.bridge.feed.read false
      (c'.bridge.feed.receive false 64 c.bridge.feed.subscribe).2).1 = .empty := by
    decide +kernel
  have hlength : given.length = 8 := by
    decide +kernel
  have hwatched := (Feed.Watched.subscribed.grown hextends).receive hclose 64
  rw [List.nil_append] at hwatched
  exact ⟨hlength, (hfollows _ _ hwatched).2 hempty⟩

end Controller

end SessionBridge
