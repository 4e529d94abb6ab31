import Mathlib.Algebra.Group.Nat.Defs
import SessionBridge.Proofs.Bus.Return
import SessionBridge.Proofs.Control.Trace

/-! What a loopback bus answers depends on three things: the session that it has open, how many it has
opened before, and the failures that were asked for. Each native call is one step of a small machine
over these, labelled with the call and its answer, and a script that neither forges failures nor
chooses ids leaves that machine alone. -/
namespace SessionBridge

def Outcome.failure? : Outcome ε α → Option ε
  | .failure e => some e
  | _ => none

def Exchange.failure? : Exchange → Option NativeFailure
  | registerCallbacks _ o => o.failure?
  | clearCallbacks o => o.failure?
  | openSession _ _ _ o => o.failure?
  | leave _ o => o.failure?
  | send _ _ o => o.failure?

namespace Exchange

def after (current : Option SessionId) : Exchange → Option SessionId
  | openSession _ _ _ (.value id) => some id
  | leave _ (.value ()) => none
  | _ => current

/-- Whether the call is in place: sessions are opened one at a time, and only the open one is used. -/
def Fits (current : Option SessionId) : Exchange → Prop
  | openSession .. => current = none
  | leave id _ => current = some id
  | send id _ _ => current = some id
  | _ => True

def AllFit (current : Option SessionId) : List Exchange → Prop
  | [] => True
  | e :: es => e.Fits current ∧ AllFit (e.after current) es

end Exchange

structure Standing where
  current : Option SessionId
  opened : UInt32
  failing : List NativeOperation

namespace Standing

/-- A request to fail is gone with the call that took it. -/
def without (s : Standing) (o : NativeOperation) : Standing :=
  { s with failing := s.failing.filter (· ≠ o) }

inductive Answers (s : Standing) : Exchange → Standing → Prop where
  | injected {e : Exchange} (hasked : e.operation ∈ s.failing)
      (hfailure : e.failure? = some (Loopback.injected e.operation)) :
      Answers s e (s.without e.operation)
  | registered {t : CallbackTable} :
      Answers s (.registerCallbacks t (.value ())) (s.without .registerCallbacks)
  | cleared : Answers s (.clearCallbacks (.value ())) (s.without .clearCallbacks)
  | opened {mode : SessionMode} {target : BusTarget} {sessionName : String}
      (hfree : s.current = none) :
      Answers s (.openSession mode target sessionName (.value ⟨s.opened + 1⟩))
        { s.without mode.openOperation with
          current := some ⟨s.opened + 1⟩, opened := s.opened + 1 }
  | occupied {mode : SessionMode} {target : BusTarget} {sessionName : String}
      (hopen : s.current ≠ none) :
      Answers s (.openSession mode target sessionName
        (.failure (Loopback.alreadyOpen mode.openOperation))) (s.without mode.openOperation)
  | left {id : SessionId} (hopen : s.current = some id) :
      Answers s (.leave id (.value ())) { s.without .leave with current := none }
  | unleft {id : SessionId} (hclosed : s.current ≠ some id) :
      Answers s (.leave id (.failure (Loopback.notOpen .leave id))) (s.without .leave)
  | sent {id : SessionId} {text : String} (hopen : s.current = some id) :
      Answers s (.send id text (.value ())) (s.without .send)
  | unsent {id : SessionId} {text : String} (hclosed : s.current ≠ some id) :
      Answers s (.send id text (.failure (Loopback.notOpen .send id))) (s.without .send)

inductive Along : Standing → List Exchange → Standing → Prop where
  | nil (s : Standing) : Along s [] s
  | cons {s s' s'' : Standing} {e : Exchange} {es : List Exchange} (first : s.Answers e s')
      (rest : Along s' es s'') : Along s (e :: es) s''

variable {s s' s'' : Standing} {e : Exchange} {es : List Exchange}

theorem Along.snoc (h : s.Along es s') (last : s'.Answers e s'') : s.Along (es ++ [e]) s'' := by
  induction h with
  | nil s => exact .cons last (.nil s'')
  | cons first _ ih => exact .cons first (ih last)

theorem Answers.current (h : s.Answers e s') : s'.current = e.after s.current := by
  cases h with
  | injected hasked hfailure =>
    cases e with
    | openSession mode target sessionName o =>
      cases o with
      | value id => cases hfailure
      | _ => rfl
    | leave id o =>
      cases o with
      | value _ => cases hfailure
      | _ => rfl
    | _ => rfl
  | _ => rfl

theorem Along.current (h : s.Along es s') : s'.current = es.foldl Exchange.after s.current := by
  induction h with
  | nil s => rfl
  | cons first _ ih =>
    rw [ih, first.current]
    rfl

/-! ### Failures -/

theorem Answers.unasked (h : s.Answers e s') (hfailing : s.failing = []) : s'.failing = [] := by
  cases h <;> simp [without, hfailing]

theorem Along.unasked (h : s.Along es s') (hfailing : s.failing = []) : s'.failing = [] := by
  induction h with
  | nil s => exact hfailing
  | cons first _ ih => exact ih (first.unasked hfailing)

/-- A call that is in place fails only if that was asked for. -/
theorem Answers.injected_of_fits (h : s.Answers e s') (hfits : e.Fits s.current)
    {f : NativeFailure} (hfailure : e.failure? = some f) :
    f = Loopback.injected e.operation ∧ e.operation ∈ s.failing := by
  cases h with
  | injected hasked hinjected =>
    rw [hinjected] at hfailure
    exact ⟨(Option.some.inj hfailure).symm, hasked⟩
  | occupied hopen => exact absurd hfits hopen
  | unleft hclosed => exact absurd hfits hclosed
  | unsent hclosed => exact absurd hfits hclosed
  | _ => cases hfailure

theorem Along.injected_of_fits (h : s.Along es s') (hfit : Exchange.AllFit s.current es) :
    ∀ e ∈ es, ∀ f, e.failure? = some f → f = Loopback.injected e.operation := by
  induction h with
  | nil s => exact nofun
  | cons first _ ih =>
    intro e hmem f hfailure
    rcases List.mem_cons.mp hmem with rfl | hmem
    · exact (first.injected_of_fits hfit.1 hfailure).1
    · have hrest := hfit.2
      rw [← first.current] at hrest
      exact ih hrest e hmem f hfailure

theorem Along.succeeds (h : s.Along es s') (hfit : Exchange.AllFit s.current es)
    (hfailing : s.failing = []) : ∀ e ∈ es, e.failure? = none := by
  induction h with
  | nil s => exact nofun
  | @cons s s₁ s₂ e es first _ ih =>
    intro e' hmem
    rcases List.mem_cons.mp hmem with rfl | hmem
    · rcases hfailure : e'.failure? with _ | f
      · rfl
      · have hasked := (first.injected_of_fits hfit.1 hfailure).2
        rw [hfailing] at hasked
        cases hasked
    · have hrest := hfit.2
      rw [← first.current] at hrest
      exact ih hrest (first.unasked hfailing) e' hmem

/-! ### Numbers -/

/-- The ids that were handed out are the numbers up to the present one, until those run out. -/
def Counts (s : Standing) (ids : List SessionId) : Prop :=
  ids.length < 2 ^ 32 →
    s.opened.toNat = ids.length ∧ ids.Pairwise (·.value < ·.value) ∧ ∀ id ∈ ids, id.value ≤ s.opened

variable {ids : List SessionId}

theorem Counts.of_opened (h : s.Counts ids) (hopened : s'.opened = s.opened) : s'.Counts ids := by
  unfold Counts
  rw [hopened]
  exact h

theorem Answers.openedId? (h : s.Answers e s') :
    s'.opened = s.opened + 1 ∧ e.openedId? = some ⟨s.opened + 1⟩ ∨
      s'.opened = s.opened ∧ e.openedId? = none := by
  cases h with
  | injected hasked hfailure =>
    refine .inr ⟨rfl, ?_⟩
    cases e with
    | openSession mode target sessionName o =>
      cases o with
      | value id => cases hfailure
      | _ => rfl
    | _ => rfl
  | opened => exact .inl ⟨rfl, rfl⟩
  | _ => exact .inr ⟨rfl, rfl⟩

theorem Answers.counts (h : s.Answers e s') (hcounts : s.Counts ids) :
    s'.Counts (ids ++ e.openedId?.toList) := by
  rcases h.openedId? with ⟨hopened, hid⟩ | ⟨hopened, hid⟩
  · rw [hid]
    intro hroom
    rw [Option.toList_some, List.length_append, List.length_singleton] at hroom
    obtain ⟨hnumber, hpairwise, hbound⟩ := hcounts (by omega)
    have hnext : (s.opened + 1).toNat = ids.length + 1 := by
      rw [UInt32.toNat_add, hnumber]
      exact Nat.mod_eq_of_lt hroom
    have hlater : s.opened < s.opened + 1 := by
      rw [UInt32.lt_iff_toNat_lt]
      omega
    rw [hopened]
    refine ⟨?_, ?_, ?_⟩
    · rw [hnext, Option.toList_some, List.length_append, List.length_singleton]
    · refine List.pairwise_append.mpr ⟨hpairwise, List.pairwise_singleton _ _, ?_⟩
      intro id hmem id' hmem'
      rw [List.mem_singleton.mp hmem']
      exact UInt32.lt_of_le_of_lt (hbound id hmem) hlater
    · intro id hmem
      rcases List.mem_append.mp hmem with hmem | hmem
      · exact UInt32.le_of_lt (UInt32.lt_of_le_of_lt (hbound id hmem) hlater)
      · rw [List.mem_singleton.mp hmem]
        exact UInt32.le_refl _
  · rw [hid, Option.toList_none, List.append_nil]
    exact hcounts.of_opened hopened

theorem Along.counts (h : s.Along es s') (hcounts : s.Counts ids) :
    s'.Counts (ids ++ es.filterMap Exchange.openedId?) := by
  induction h generalizing ids with
  | nil s =>
    rw [List.filterMap_nil, List.append_nil]
    exact hcounts
  | @cons s s₁ s₂ e es first _ ih =>
    have hrest := ih (first.counts hcounts)
    rw [List.append_assoc] at hrest
    rcases hid : e.openedId? with _ | id
    · rw [List.filterMap_cons_none hid]
      rw [hid] at hrest
      exact hrest
    · rw [List.filterMap_cons_some hid]
      rw [hid] at hrest
      exact hrest

end Standing

/-! ### The loopback -/

namespace Loopback

/-- A failure that was asked for is told from the bus's own by its status. -/
theorem injected_ne_alreadyOpen (o o' : NativeOperation) : injected o ≠ alreadyOpen o' := by
  intro h
  have hstatus : injectedStatus = 1 := congrArg NativeFailure.status h
  exact absurd hstatus (by decide)

theorem injected_ne_notOpen (o o' : NativeOperation) (id : SessionId) :
    injected o ≠ notOpen o' id := by
  intro h
  have hstatus : injectedStatus = 1 := congrArg NativeFailure.status h
  exact absurd hstatus (by decide)

def standing (l : Loopback) : Standing :=
  ⟨l.current, l.opened, l.failing⟩

variable {l : Loopback}

theorem answers_perform {o : NativeOperation} {act : Loopback → Turn Loopback α}
    {exchange : Outcome NativeFailure α → Exchange}
    (hoperation : (exchange (.failure (injected o))).operation = o)
    (hfailure : (exchange (.failure (injected o))).failure? = some (injected o))
    (hact : l.standing.Answers (exchange (act (l.log o)).outcome) (act (l.log o)).bus.standing) :
    l.standing.Answers (exchange (perform o act l).outcome) (perform o act l).bus.standing := by
  unfold perform
  split
  · rename_i hasked
    have hinjected : l.standing.Answers (exchange (.failure (injected o)))
        (l.standing.without (exchange (.failure (injected o))).operation) := by
      refine .injected ?_ ?_
      · rw [hoperation]
        exact List.contains_iff_mem.mp hasked
      · rw [hfailure, hoperation]
    rw [hoperation] at hinjected
    exact hinjected
  · exact hact

theorem answers_registerCallbacks (t : CallbackTable) (l : Loopback) :
    l.standing.Answers (.registerCallbacks t (NativeBus.registerCallbacks t l).outcome)
      (NativeBus.registerCallbacks t l).bus.standing :=
  answers_perform rfl rfl .registered

theorem answers_clearCallbacks (l : Loopback) :
    l.standing.Answers (.clearCallbacks (NativeBus.clearCallbacks l).outcome)
      (NativeBus.clearCallbacks l).bus.standing :=
  answers_perform rfl rfl .cleared

theorem answers_openNext (mode : SessionMode) (target : BusTarget) (sessionName : String)
    (l : Loopback) :
    l.standing.Answers
      (.openSession mode target sessionName
        (perform mode.openOperation (openNext mode.openOperation target) l).outcome)
      (perform mode.openOperation (openNext mode.openOperation target) l).bus.standing := by
  have hoperation (o : Outcome NativeFailure SessionId) :
      (Exchange.openSession mode target sessionName o).operation = mode.openOperation := rfl
  refine answers_perform (hoperation _) rfl ?_
  unfold openNext
  dsimp only [log]
  split
  · rename_i id hopen
    refine .occupied ?_
    change l.current ≠ none
    rw [hopen]
    exact nofun
  · rename_i hfree
    exact .opened hfree

theorem answers_leave (id : SessionId) (hcalm : l.Calm) :
    l.standing.Answers (.leave id (NativeBus.leave id l).outcome)
      (NativeBus.leave id l).bus.standing := by
  refine answers_perform rfl rfl ?_
  have hplay : (playHook (l.log .leave).table (l.log .leave).leaveHook).2 = false :=
    playHook_returns _ hcalm
  unfold close
  simp only [hplay, Bool.false_eq_true, if_false]
  split
  · rename_i hopen
    exact .left hopen
  · rename_i hclosed
    exact .unleft hclosed

theorem answers_send (id : SessionId) (text : String) (l : Loopback) :
    l.standing.Answers (.send id text (NativeBus.send id text l).outcome)
      (NativeBus.send id text l).bus.standing := by
  refine answers_perform rfl rfl ?_
  unfold emit
  split
  · rename_i hopen
    exact .sent hopen
  · rename_i hclosed
    exact .unsent hclosed

end Loopback

/-! ### The loopback under a script -/

namespace Scripted

def standing (s : Scripted) : Standing :=
  s.loopback.standing

structure Plain (s : Scripted) : Prop where
  failures : s.failures = []
  nextId : s.nextId = none
  aliases : s.aliases = []

theorem plain_idle : Plain idle :=
  ⟨rfl, rfl, rfl⟩

structure Serves (s : Scripted) (exchange : Outcome NativeFailure α → Exchange)
    (turn : Turn Scripted α) : Prop where
  answers : s.standing.Answers (exchange turn.outcome) turn.bus.standing
  plain : turn.bus.Plain

variable {s : Scripted}

theorem serves_around {o : NativeOperation} {call : Loopback → Turn Loopback α}
    {exchange : Outcome NativeFailure α → Exchange} (hplain : s.Plain) (hcalm : s.Calm)
    (hreturns : (call s.loopback).Returns Loopback.Calm)
    (hanswers : s.standing.Answers (exchange (call s.loopback).outcome)
      (call s.loopback).bus.standing) : s.Serves exchange (around o call s) := by
  have htaken : (s.takeFailure o).1 = none := by
    unfold takeFailure
    rw [hplain.failures]
    rfl
  have hrest : (s.takeFailure o).2.failures = [] := by
    unfold takeFailure
    rw [hplain.failures]
    rfl
  have hcalm' : (s.takeFailure o).2.Calm := ⟨hcalm.hooks, hcalm.loopback⟩
  obtain ⟨hbefore, hcalm''⟩ := hcalm'.runHook o .before
  unfold around
  simp only [htaken, hbefore, Bool.false_eq_true, if_false]
  split
  · rename_i houtcome
    exact absurd houtcome hreturns.outcome
  · have hafter := ((hcalm''.withLoopback hreturns.bus).runHook o .after).1
    refine ⟨?_, hrest, hplain.nextId, hplain.aliases⟩
    dsimp only
    split
    · rename_i hpanicked
      exact absurd hpanicked (Bool.eq_false_iff.mp hafter)
    · exact hanswers

theorem serves_registerCallbacks (t : CallbackTable) (hplain : s.Plain) (hcalm : s.Calm) :
    s.Serves (.registerCallbacks t) (NativeBus.registerCallbacks t s) :=
  serves_around hplain hcalm (Loopback.returns_registerCallbacks t hcalm.loopback)
    (Loopback.answers_registerCallbacks t s.loopback)

theorem serves_clearCallbacks (hplain : s.Plain) (hcalm : s.Calm) :
    s.Serves .clearCallbacks (NativeBus.clearCallbacks s) :=
  serves_around hplain hcalm (Loopback.returns_clearCallbacks hcalm.loopback)
    (Loopback.answers_clearCallbacks s.loopback)

theorem rename_eq {turn : Turn Scripted SessionId} (h : turn.bus.nextId = none) :
    rename turn = turn := by
  unfold rename
  rw [h]
  rcases turn.outcome with _ | _ | _ <;> rfl

theorem serves_openSession (mode : SessionMode) (target : BusTarget) (sessionName : String)
    (hplain : s.Plain) (hcalm : s.Calm) :
    s.Serves (.openSession mode target sessionName)
      (NativeBus.openSession mode target sessionName s) := by
  have hserves : s.Serves (.openSession mode target sessionName)
      (around mode.openOperation
        (Loopback.perform mode.openOperation (Loopback.openNext mode.openOperation target)) s) :=
    serves_around hplain hcalm (Loopback.returns_openNext _ target hcalm.loopback)
      (Loopback.answers_openNext mode target sessionName s.loopback)
  rw [← rename_eq hserves.plain.nextId] at hserves
  cases mode with
  | owner => exact hserves
  | joiner => exact hserves

theorem underlying_eq (hplain : s.Plain) (id : SessionId) : s.underlying id = id := by
  unfold underlying
  rw [hplain.aliases]
  rfl

theorem serves_leave (id : SessionId) (hplain : s.Plain) (hcalm : s.Calm) :
    s.Serves (.leave id) (NativeBus.leave id s) := by
  change s.Serves (.leave id) (around .leave (NativeBus.leave (s.underlying id)) s)
  rw [underlying_eq hplain]
  exact serves_around hplain hcalm (Loopback.returns_leave id hcalm.loopback)
    (Loopback.answers_leave id hcalm.loopback)

theorem serves_send (id : SessionId) (text : String) (hplain : s.Plain) (hcalm : s.Calm) :
    s.Serves (.send id text) (NativeBus.send id text s) := by
  change s.Serves (.send id text) (around .send (NativeBus.send (s.underlying id) text) s)
  rw [underlying_eq hplain]
  exact serves_around hplain hcalm (Loopback.returns_send id text hcalm.loopback)
    (Loopback.answers_send id text s.loopback)

end Scripted

end SessionBridge
