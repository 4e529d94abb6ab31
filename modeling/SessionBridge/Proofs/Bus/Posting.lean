import SessionBridge.Proofs.Control.Record
import SessionBridge.Proofs.Control.Standing

/-! What a loopback bus has sent. A text is sent by a send call that is answered with success and by
nothing else, so the list that the bus keeps can be read off the record of the calls made of it. -/
namespace SessionBridge

def Exchange.sent? : Exchange → Option (SessionId × String)
  | send id text (.value ()) => some (id, text)
  | _ => none

def Turn.Posts (sent : β → List (SessionId × String)) (bus : β)
    (exchange : Outcome NativeFailure α → Exchange) (turn : Turn β α) : Prop :=
  sent turn.bus = sent bus ++ (exchange turn.outcome).sent?.toList

/-! ### The loopback -/

namespace Loopback

def posted (l : Loopback) : List (SessionId × String) :=
  l.sent.toList

theorem posts_perform {l : Loopback} {o : NativeOperation} {act : Loopback → Turn Loopback α}
    {exchange : Outcome NativeFailure α → Exchange}
    (hfailure : (exchange (.failure (injected o))).sent? = none)
    (hact : (act (l.log o)).Posts posted (l.log o) exchange) :
    (perform o act l).Posts posted l exchange := by
  unfold perform
  split
  · unfold Turn.Posts
    rw [hfailure, Option.toList_none, List.append_nil]
    rfl
  · exact hact

theorem posts_of_silent {l : Loopback} {turn : Turn Loopback α}
    {exchange : Outcome NativeFailure α → Exchange} (hsilent : ∀ o, (exchange o).sent? = none)
    (hsent : turn.bus.sent = l.sent) : turn.Posts posted l exchange := by
  unfold Turn.Posts posted
  rw [hsilent, hsent, Option.toList_none, List.append_nil]

theorem sent_openNext (o : NativeOperation) (target : BusTarget) (l : Loopback) :
    (openNext o target l).bus.sent = l.sent := by
  unfold openNext
  dsimp only
  split <;> rfl

theorem sent_close (id : SessionId) (l : Loopback) : (close id l).bus.sent = l.sent := by
  unfold close
  dsimp only
  split
  · rfl
  · split <;> rfl

theorem posts_emit (id : SessionId) (text : String) (l : Loopback) :
    (emit id text l).Posts posted l (.send id text) := by
  unfold emit Turn.Posts posted
  split
  · exact Array.toList_push
  · exact (List.append_nil _).symm

end Loopback

/-! ### The loopback under a script -/

namespace Scripted

def posted (s : Scripted) : List (SessionId × String) :=
  s.loopback.posted

variable {s : Scripted}

theorem around_passes {o : NativeOperation} {call : Loopback → Turn Loopback α} (hplain : s.Plain)
    (hcalm : s.Calm) (hreturns : (call s.loopback).Returns Loopback.Calm) :
    (around o call s).outcome = (call s.loopback).outcome ∧
      (around o call s).bus.loopback = (call s.loopback).bus := by
  have htaken : (s.takeFailure o).1 = none := by
    unfold takeFailure
    rw [hplain.failures]
    rfl
  have hcalm' : (s.takeFailure o).2.Calm := ⟨hcalm.hooks, hcalm.loopback⟩
  obtain ⟨hbefore, hcalm''⟩ := hcalm'.runHook o .before
  unfold around
  simp only [htaken, hbefore, Bool.false_eq_true, if_false]
  split
  · rename_i houtcome
    exact absurd houtcome hreturns.outcome
  · have hafter := ((hcalm''.withLoopback hreturns.bus).runHook o .after).1
    refine ⟨?_, rfl⟩
    dsimp only
    split
    · rename_i hpanicked
      exact absurd hpanicked (Bool.eq_false_iff.mp hafter)
    · rfl

theorem posts_around {o : NativeOperation} {call : Loopback → Turn Loopback α}
    {exchange : Outcome NativeFailure α → Exchange} (hplain : s.Plain) (hcalm : s.Calm)
    (hreturns : (call s.loopback).Returns Loopback.Calm)
    (hposts : (call s.loopback).Posts Loopback.posted s.loopback exchange) :
    (around o call s).Posts posted s exchange := by
  obtain ⟨houtcome, hbus⟩ := around_passes (o := o) hplain hcalm hreturns
  unfold Turn.Posts posted
  rw [houtcome, hbus]
  exact hposts

theorem posts_registerCallbacks (t : CallbackTable) (hplain : s.Plain) (hcalm : s.Calm) :
    (NativeBus.registerCallbacks t s).Posts posted s (.registerCallbacks t) :=
  posts_around hplain hcalm (Loopback.returns_registerCallbacks t hcalm.loopback)
    (Loopback.posts_perform rfl (Loopback.posts_of_silent (fun _ => rfl) rfl))

theorem posts_clearCallbacks (hplain : s.Plain) (hcalm : s.Calm) :
    (NativeBus.clearCallbacks s).Posts posted s .clearCallbacks :=
  posts_around hplain hcalm (Loopback.returns_clearCallbacks hcalm.loopback)
    (Loopback.posts_perform rfl (Loopback.posts_of_silent (fun _ => rfl) rfl))

theorem posts_openSession (mode : SessionMode) (target : BusTarget) (sessionName : String)
    (hplain : s.Plain) (hcalm : s.Calm) :
    (NativeBus.openSession mode target sessionName s).Posts posted s
      (.openSession mode target sessionName) := by
  have hposts : (around mode.openOperation
      (Loopback.perform mode.openOperation (Loopback.openNext mode.openOperation target)) s).Posts
      posted s (.openSession mode target sessionName) :=
    posts_around hplain hcalm (Loopback.returns_openNext _ target hcalm.loopback)
      (Loopback.posts_perform rfl
        (Loopback.posts_of_silent (fun _ => rfl) (Loopback.sent_openNext _ target _)))
  have hserves : s.Serves (.openSession mode target sessionName)
      (around mode.openOperation
        (Loopback.perform mode.openOperation (Loopback.openNext mode.openOperation target)) s) :=
    serves_around hplain hcalm (Loopback.returns_openNext _ target hcalm.loopback)
      (Loopback.answers_openNext mode target sessionName s.loopback)
  rw [← rename_eq hserves.plain.nextId] at hposts
  cases mode with
  | owner => exact hposts
  | joiner => exact hposts

theorem posts_leave (id : SessionId) (hplain : s.Plain) (hcalm : s.Calm) :
    (NativeBus.leave id s).Posts posted s (.leave id) := by
  change (around .leave (NativeBus.leave (s.underlying id)) s).Posts posted s (.leave id)
  exact posts_around hplain hcalm (Loopback.returns_leave _ hcalm.loopback)
    (Loopback.posts_perform rfl (Loopback.posts_of_silent (fun _ => rfl) (Loopback.sent_close _ _)))

theorem posts_send (id : SessionId) (text : String) (hplain : s.Plain) (hcalm : s.Calm) :
    (NativeBus.send id text s).Posts posted s (.send id text) := by
  change (around .send (NativeBus.send (s.underlying id) text) s).Posts posted s (.send id text)
  rw [underlying_eq hplain]
  exact posts_around hplain hcalm (Loopback.returns_send id text hcalm.loopback)
    (Loopback.posts_perform rfl (Loopback.posts_emit id text _))

structure Posted (start : List (SessionId × String)) (earlier : List Exchange) (s : Scripted)
    (calls : List Exchange) : Prop where
  plain : s.Plain
  calm : s.Calm
  posted : ∃ new, calls = earlier ++ new ∧ s.posted = start ++ new.filterMap Exchange.sent?

theorem tracks_posted (start : List (SessionId × String)) (earlier : List Exchange) :
    Tracks (Posted start earlier) := by
  have hstep {α : Type} {s : Scripted} {calls : List Exchange} {turn : Turn Scripted α}
      {exchange : Outcome NativeFailure α → Exchange} (h : Posted start earlier s calls)
      (hserves : s.Serves exchange turn) (hreturns : turn.Returns Calm)
      (hposts : turn.Posts posted s exchange) :
      Posted start earlier turn.bus (calls ++ [exchange turn.outcome]) := by
    obtain ⟨new, rfl, hposted⟩ := h.posted
    refine ⟨hserves.plain, hreturns.bus, new ++ [exchange turn.outcome],
      List.append_assoc _ _ _, ?_⟩
    rw [hposts, hposted, List.filterMap_append, List.append_assoc]
    rcases hsent : (exchange turn.outcome).sent? with _ | sent <;> simp [hsent]
  constructor
  · intro t s calls h
    exact hstep h (serves_registerCallbacks t h.plain h.calm) (returns_registerCallbacks t h.calm)
      (posts_registerCallbacks t h.plain h.calm)
  · intro s calls h
    exact hstep h (serves_clearCallbacks h.plain h.calm) (returns_clearCallbacks h.calm)
      (posts_clearCallbacks h.plain h.calm)
  · intro mode target name s calls h
    exact hstep h (serves_openSession mode target name h.plain h.calm)
      (returns_openSession mode target name h.calm)
      (posts_openSession mode target name h.plain h.calm)
  · intro id s calls h
    exact hstep h (serves_leave id h.plain h.calm) (returns_leave id h.calm)
      (posts_leave id h.plain h.calm)
  · intro id text s calls h
    exact hstep h (serves_send id text h.plain h.calm) (returns_send id text h.calm)
      (posts_send id text h.plain h.calm)

end Scripted

end SessionBridge
