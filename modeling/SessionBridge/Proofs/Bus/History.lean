import SessionBridge.Proofs.Bus.Posting

/-! A loopback bus and its history. What its user does is to make calls and to ask that the next call of some
operation fail; the history is that with the answers. Everything that the bus keeps can be read off there, and
so can its next answer: a call fails on request exactly if it is the first one of its operation since that was
asked for, and else by the one session that is open. -/
namespace SessionBridge

inductive NativeCall where
  | registerCallbacks (table : CallbackTable)
  | clearCallbacks
  | openSession (mode : SessionMode) (target : BusTarget) (sessionName : String)
  | leave (id : SessionId)
  | send (id : SessionId) (text : String)
  deriving DecidableEq

def NativeCall.operation : NativeCall → NativeOperation
  | registerCallbacks _ => .registerCallbacks
  | clearCallbacks => .clearCallbacks
  | openSession mode .. => mode.openOperation
  | leave _ => .leave
  | send .. => .send

inductive Deed where
  /-- Asks that the next call of an operation fail. -/
  | request (o : NativeOperation)
  | call (c : NativeCall)
  deriving DecidableEq

def Deed.operation? : Deed → Option NativeOperation
  | request _ => none
  | call c => some c.operation

inductive Happening where
  | requested (o : NativeOperation)
  | exchanged (e : Exchange)
  deriving DecidableEq

namespace Exchange

def call : Exchange → NativeCall
  | registerCallbacks table _ => .registerCallbacks table
  | clearCallbacks _ => .clearCallbacks
  | openSession mode target sessionName _ => .openSession mode target sessionName
  | leave id _ => .leave id
  | send id text _ => .send id text

def Succeeds : Exchange → Prop
  | registerCallbacks _ o => o = .value ()
  | clearCallbacks o => o = .value ()
  | openSession _ _ _ o => ∃ id, o = .value id
  | leave _ o => o = .value ()
  | send _ _ o => o = .value ()

def IsInjected (e : Exchange) : Prop :=
  e.failure? = some (Loopback.injected e.operation)

instance (e : Exchange) : Decidable e.IsInjected :=
  inferInstanceAs (Decidable (_ = _))

def tableAfter (table : Option CallbackTable) : Exchange → Option CallbackTable
  | registerCallbacks t (.value ()) => some t
  | clearCallbacks (.value ()) => none
  | _ => table

/-- The target of a call that opens a session, successful or not, unless it was made to fail. -/
def target? (e : Exchange) : Option BusTarget :=
  match e with
  | openSession _ target .. => if e.IsInjected then none else some target
  | _ => none

end Exchange

namespace Happening

def deed : Happening → Deed
  | requested o => .request o
  | exchanged e => .call e.call

def exchange? : Happening → Option Exchange
  | requested _ => none
  | exchanged e => some e

end Happening

/-! ### What a history says -/

namespace History

def exchanges (past : List Happening) : List Exchange :=
  past.filterMap Happening.exchange?

def Due (o : NativeOperation) (past : List Happening) : Prop :=
  ∃ before behind, past = before ++ .requested o :: behind ∧
    ∀ e, .exchanged e ∈ behind → e.operation ≠ o

def current (past : List Happening) : Option SessionId :=
  (exchanges past).foldl Exchange.after none

def table (past : List Happening) : Option CallbackTable :=
  (exchanges past).foldl Exchange.tableAfter none

def openedIds (past : List Happening) : List SessionId :=
  (exchanges past).filterMap Exchange.openedId?

def sent (past : List Happening) : List (SessionId × String) :=
  (exchanges past).filterMap Exchange.sent?

def targets (past : List Happening) : List BusTarget :=
  (exchanges past).filterMap Exchange.target?

end History

namespace Loopback

def answer (l : Loopback) : NativeCall → Exchange × Loopback
  | .registerCallbacks t =>
    let turn := NativeBus.registerCallbacks t l
    (.registerCallbacks t turn.outcome, turn.bus)
  | .clearCallbacks =>
    let turn := NativeBus.clearCallbacks l
    (.clearCallbacks turn.outcome, turn.bus)
  | .openSession mode target sessionName =>
    let turn := NativeBus.openSession mode target sessionName l
    (.openSession mode target sessionName turn.outcome, turn.bus)
  | .leave id =>
    let turn := NativeBus.leave id l
    (.leave id turn.outcome, turn.bus)
  | .send id text =>
    let turn := NativeBus.send id text l
    (.send id text turn.outcome, turn.bus)

def undergo (life : List Happening × Loopback) : Deed → List Happening × Loopback
  | .request o => (life.1 ++ [.requested o], life.2.failNext o)
  | .call c => (life.1 ++ [.exchanged (life.2.answer c).1], (life.2.answer c).2)

def live (deeds : List Deed) : List Happening × Loopback :=
  deeds.foldl undergo ([], idle)

/-- A call, its answer and what it leaves of the bus. -/
inductive Replies (l : Loopback) : Exchange → Loopback → Prop where
  | injected {e : Exchange} (hasked : e.operation ∈ l.failing) (hinjected : e.IsInjected) :
      Replies l e (l.log e.operation)
  | registered {t : CallbackTable} (hunasked : .registerCallbacks ∉ l.failing) :
      Replies l (.registerCallbacks t (.value ())) { l.log .registerCallbacks with table := some t }
  | cleared (hunasked : .clearCallbacks ∉ l.failing) :
      Replies l (.clearCallbacks (.value ())) { l.log .clearCallbacks with table := none }
  | opened {mode : SessionMode} {target : BusTarget} {sessionName : String}
      (hunasked : mode.openOperation ∉ l.failing) (hfree : l.current = none) :
      Replies l (.openSession mode target sessionName (.value ⟨l.opened + 1⟩))
        { l.log mode.openOperation with
          targets := l.targets.push target, opened := l.opened + 1, current := some ⟨l.opened + 1⟩ }
  | occupied {mode : SessionMode} {target : BusTarget} {sessionName : String}
      (hunasked : mode.openOperation ∉ l.failing) (hopen : l.current ≠ none) :
      Replies l (.openSession mode target sessionName (.failure (alreadyOpen mode.openOperation)))
        { l.log mode.openOperation with targets := l.targets.push target }
  | left {id : SessionId} (hunasked : .leave ∉ l.failing) (hopen : l.current = some id) :
      Replies l (.leave id (.value ())) { l.log .leave with current := none }
  | unleft {id : SessionId} (hunasked : .leave ∉ l.failing) (hclosed : l.current ≠ some id) :
      Replies l (.leave id (.failure (notOpen .leave id))) (l.log .leave)
  | sent {id : SessionId} {text : String} (hunasked : .send ∉ l.failing) (hopen : l.current = some id) :
      Replies l (.send id text (.value ())) { l.log .send with sent := l.sent.push (id, text) }
  | unsent {id : SessionId} {text : String} (hunasked : .send ∉ l.failing)
      (hclosed : l.current ≠ some id) :
      Replies l (.send id text (.failure (notOpen .send id))) (l.log .send)

variable {l l' : Loopback} {e : Exchange} {past : List Happening}

/-! ### One call -/

theorem replies_perform {o : NativeOperation} {act : Loopback → Turn Loopback α}
    (exchange : Outcome NativeFailure α → Exchange) (hoperation : ∀ outcome, (exchange outcome).operation = o)
    (hfailure : (exchange (.failure (injected o))).failure? = some (injected o))
    (hact : o ∉ l.failing → l.Replies (exchange (act (l.log o)).outcome) (act (l.log o)).bus) :
    l.Replies (exchange (perform o act l).outcome) (perform o act l).bus := by
  unfold perform
  split
  next hasked =>
    have hinjected : l.Replies (exchange (.failure (injected o)))
        (l.log (exchange (.failure (injected o))).operation) := by
      refine .injected ?_ ?_
      · rw [hoperation]
        exact List.contains_iff_mem.mp hasked
      · unfold Exchange.IsInjected
        rw [hfailure, hoperation]
    rw [hoperation] at hinjected
    exact hinjected
  next hunasked => exact hact (mt List.contains_iff_mem.mpr hunasked)

theorem replies_openNext (mode : SessionMode) (target : BusTarget) (sessionName : String)
    (hunasked : mode.openOperation ∉ l.failing) :
    l.Replies
      (.openSession mode target sessionName
        (openNext mode.openOperation target (l.log mode.openOperation)).outcome)
      (openNext mode.openOperation target (l.log mode.openOperation)).bus := by
  unfold openNext
  dsimp only [log]
  split
  next id hopen => exact .occupied hunasked (by rw [hopen]; exact nofun)
  next hfree => exact .opened hunasked hfree

theorem replies_close (id : SessionId) (hhook : l.leaveHook = []) (hunasked : .leave ∉ l.failing) :
    l.Replies (.leave id (close id (l.log .leave)).outcome) (close id (l.log .leave)).bus := by
  have hplay : playHook (l.log .leave).table (l.log .leave).leaveHook = ([], false) := by
    change playHook l.table l.leaveHook = _
    rw [hhook]
    rfl
  unfold close
  rw [hplay]
  dsimp only
  rw [if_neg Bool.false_ne_true]
  split
  next hopen => exact .left hunasked hopen
  next hclosed => exact .unleft hunasked hclosed

theorem replies_emit (id : SessionId) (text : String) (hunasked : .send ∉ l.failing) :
    l.Replies (.send id text (emit id text (l.log .send)).outcome) (emit id text (l.log .send)).bus := by
  unfold emit
  split
  next hopen => exact .sent hunasked hopen
  next hclosed => exact .unsent hunasked hclosed

theorem replies_answer (hhook : l.leaveHook = []) (c : NativeCall) :
    l.Replies (l.answer c).1 (l.answer c).2 := by
  cases c with
  | registerCallbacks t => exact replies_perform (.registerCallbacks t) (fun _ => rfl) rfl .registered
  | clearCallbacks => exact replies_perform .clearCallbacks (fun _ => rfl) rfl .cleared
  | openSession mode target sessionName =>
    cases mode with
    | owner =>
      exact replies_perform (.openSession .owner target sessionName) (fun _ => rfl) rfl
        (replies_openNext .owner target sessionName)
    | joiner =>
      exact replies_perform (.openSession .joiner target sessionName) (fun _ => rfl) rfl
        (replies_openNext .joiner target sessionName)
  | leave id => exact replies_perform (.leave id) (fun _ => rfl) rfl (replies_close id hhook)
  | send id text => exact replies_perform (.send id text) (fun _ => rfl) rfl (replies_emit id text)

theorem call_answer (l : Loopback) (c : NativeCall) : (l.answer c).1.call = c := by
  cases c <;> rfl

/-! ### Requests -/

theorem mem_failing_failNext {o o' : NativeOperation} :
    o ∈ (l.failNext o').failing ↔ o = o' ∨ o ∈ l.failing := by
  unfold failNext
  dsimp only
  split
  next hasked =>
    constructor
    · exact .inr
    · rintro (rfl | h)
      · exact List.contains_iff_mem.mp hasked
      · exact h
  next => exact List.mem_cons

/-- A request is gone with the next call of its operation, whatever comes of it, and stays until then. -/
theorem Replies.mem_failing {o : NativeOperation} (h : l.Replies e l') :
    o ∈ l'.failing ↔ o ≠ e.operation ∧ o ∈ l.failing := by
  have hlog (o' : NativeOperation) : o ∈ (l.log o').failing ↔ o ≠ o' ∧ o ∈ l.failing := by
    unfold log
    simp [and_comm]
  cases h <;> exact hlog _

end Loopback

namespace History

open Loopback

variable {past : List Happening} {e : Exchange} {o : NativeOperation}

theorem due_requested {o' : NativeOperation} : Due o (past ++ [.requested o']) ↔ o = o' ∨ Due o past := by
  constructor
  · rintro ⟨before, behind, hsplit, hcalls⟩
    rcases List.eq_nil_or_concat behind with rfl | ⟨behind, last, rfl⟩
    · obtain ⟨-, hlast⟩ := List.append_inj' hsplit rfl
      cases hlast
      exact .inl rfl
    · rw [List.concat_eq_append, ← List.cons_append, ← List.append_assoc] at hsplit
      obtain ⟨rfl, -⟩ := List.append_inj' hsplit rfl
      exact .inr ⟨before, behind, rfl, fun e hmem => hcalls e (by simp [hmem])⟩
  · rintro (rfl | ⟨before, behind, rfl, hcalls⟩)
    · exact ⟨past, [], rfl, nofun⟩
    · refine ⟨before, behind ++ [.requested o'], by simp, fun e hmem => ?_⟩
      rcases List.mem_append.mp hmem with hmem | hmem
      · exact hcalls e hmem
      · cases List.mem_singleton.mp hmem

theorem due_exchanged : Due o (past ++ [.exchanged e]) ↔ o ≠ e.operation ∧ Due o past := by
  constructor
  · rintro ⟨before, behind, hsplit, hcalls⟩
    rcases List.eq_nil_or_concat behind with rfl | ⟨behind, last, rfl⟩
    · obtain ⟨-, hlast⟩ := List.append_inj' hsplit rfl
      cases hlast
    · rw [List.concat_eq_append, ← List.cons_append, ← List.append_assoc] at hsplit
      obtain ⟨rfl, hlast⟩ := List.append_inj' hsplit rfl
      cases hlast
      exact ⟨(hcalls e (by simp)).symm, before, behind, rfl, fun e hmem => hcalls e (by simp [hmem])⟩
  · rintro ⟨hother, before, behind, rfl, hcalls⟩
    refine ⟨before, behind ++ [.exchanged e], by simp, fun e' hmem => ?_⟩
    rcases List.mem_append.mp hmem with hmem | hmem
    · exact hcalls e' hmem
    · cases List.mem_singleton.mp hmem
      exact hother.symm

theorem exchanges_requested : exchanges (past ++ [.requested o]) = exchanges past := by
  rw [exchanges, List.filterMap_append]
  exact List.append_nil _

theorem exchanges_exchanged : exchanges (past ++ [.exchanged e]) = exchanges past ++ [e] := by
  rw [exchanges, List.filterMap_append]
  rfl

end History

/-! ### What a call changes -/

structure Exchange.Idle (e : Exchange) : Prop where
  after : ∀ current, e.after current = current
  tableAfter : ∀ table, e.tableAfter table = table
  openedId? : e.openedId? = none
  sent? : e.sent? = none
  fails : ¬e.Succeeds

theorem Exchange.idle_of_failure {e : Exchange} {f : NativeFailure} (h : e.failure? = some f) : e.Idle := by
  cases e with
  | registerCallbacks t o =>
    cases o with
    | failure f => exact ⟨fun _ => rfl, fun _ => rfl, rfl, rfl, nofun⟩
    | _ => cases h
  | clearCallbacks o =>
    cases o with
    | failure f => exact ⟨fun _ => rfl, fun _ => rfl, rfl, rfl, nofun⟩
    | _ => cases h
  | openSession mode target sessionName o =>
    cases o with
    | failure f => exact ⟨fun _ => rfl, fun _ => rfl, rfl, rfl, nofun⟩
    | _ => cases h
  | leave id o =>
    cases o with
    | failure f => exact ⟨fun _ => rfl, fun _ => rfl, rfl, rfl, nofun⟩
    | _ => cases h
  | send id text o =>
    cases o with
    | failure f => exact ⟨fun _ => rfl, fun _ => rfl, rfl, rfl, nofun⟩
    | _ => cases h

theorem Exchange.IsInjected.target? {e : Exchange} (h : e.IsInjected) : e.target? = none := by
  cases e with
  | openSession mode target sessionName o => exact if_pos h
  | _ => rfl

theorem Exchange.target?_openSession {mode : SessionMode} {target : BusTarget} {sessionName : String}
    {o : Outcome NativeFailure SessionId} (h : ¬(openSession mode target sessionName o).IsInjected) :
    (openSession mode target sessionName o).target? = some target :=
  if_neg h

namespace Loopback

variable {l l' : Loopback} {e : Exchange} {past : List Happening}

theorem Replies.leaveHook (h : l.Replies e l') : l'.leaveHook = l.leaveHook := by
  cases h <;> rfl

theorem Replies.operations (h : l.Replies e l') :
    l'.operations.toList = l.operations.toList ++ [e.operation] := by
  cases h <;> exact Array.toList_push

theorem Replies.current (h : l.Replies e l') : l'.current = e.after l.current := by
  cases h with
  | injected _ hinjected => exact ((Exchange.idle_of_failure hinjected).after _).symm
  | _ => rfl

theorem Replies.table (h : l.Replies e l') : l'.table = e.tableAfter l.table := by
  cases h with
  | injected _ hinjected => exact ((Exchange.idle_of_failure hinjected).tableAfter _).symm
  | _ => rfl

theorem Replies.posted (h : l.Replies e l') : l'.sent.toList = l.sent.toList ++ e.sent?.toList := by
  cases h with
  | injected _ hinjected =>
    rw [(Exchange.idle_of_failure hinjected).sent?]
    exact (List.append_nil _).symm
  | sent => exact Array.toList_push
  | _ => exact (List.append_nil _).symm

theorem Replies.targets (h : l.Replies e l') :
    l'.targets.toList = l.targets.toList ++ e.target?.toList := by
  cases h with
  | injected _ hinjected =>
    rw [hinjected.target?]
    exact (List.append_nil _).symm
  | opened =>
    rw [Exchange.target?_openSession fun h => by cases h]
    exact Array.toList_push
  | @occupied mode target sessionName =>
    have hother : ¬(Exchange.openSession mode target sessionName
        (.failure (alreadyOpen mode.openOperation))).IsInjected := fun hinjected =>
      injected_ne_alreadyOpen _ _ (Option.some.inj hinjected).symm
    rw [Exchange.target?_openSession hother]
    exact Array.toList_push
  | _ => exact (List.append_nil _).symm

def Numbers (opened : UInt32) (ids : List SessionId) : Prop :=
  ids.length < 2 ^ 32 → opened.toNat = ids.length ∧ ids.map (·.value.toNat) = List.range' 1 ids.length

theorem Replies.numbers {ids : List SessionId} (h : l.Replies e l') (hids : Numbers l.opened ids) :
    Numbers l'.opened (ids ++ e.openedId?.toList) := by
  cases h with
  | injected _ hinjected =>
    rw [(Exchange.idle_of_failure hinjected).openedId?, Option.toList_none, List.append_nil]
    exact hids
  | opened =>
    intro hroom
    change (ids ++ [(⟨l.opened + 1⟩ : SessionId)]).length < _ at hroom
    rw [List.length_append, List.length_singleton] at hroom
    obtain ⟨hopened, hnumbers⟩ := hids (by omega)
    have hnext : (l.opened + 1).toNat = ids.length + 1 := by
      rw [UInt32.toNat_add, hopened]
      exact Nat.mod_eq_of_lt hroom
    change (l.opened + 1).toNat = (ids ++ [(⟨l.opened + 1⟩ : SessionId)]).length ∧
      (ids ++ [(⟨l.opened + 1⟩ : SessionId)]).map (·.value.toNat) =
        List.range' 1 (ids ++ [(⟨l.opened + 1⟩ : SessionId)]).length
    rw [List.length_append, List.length_singleton, List.map_append, hnumbers, List.range'_concat]
    refine ⟨hnext, ?_⟩
    rw [List.map_singleton, hnext, Nat.one_mul, Nat.add_comm]
  | _ =>
    change Numbers _ (ids ++ [])
    rw [List.append_nil]
    exact hids

/-! ### A life -/

structure Records (es : List Exchange) (l : Loopback) : Prop where
  operations : l.operations.toList = es.map Exchange.operation
  current : l.current = es.foldl Exchange.after none
  table : l.table = es.foldl Exchange.tableAfter none
  sent : l.sent.toList = es.filterMap Exchange.sent?
  targets : l.targets.toList = es.filterMap Exchange.target?
  numbers : Numbers l.opened (es.filterMap Exchange.openedId?)

theorem Records.replies {es : List Exchange} (h : Records es l) (hreplies : l.Replies e l') :
    Records (es ++ [e]) l' where
  operations := by
    rw [hreplies.operations, h.operations, List.map_append]
    rfl
  current := by
    rw [hreplies.current, h.current, List.foldl_append]
    rfl
  table := by
    rw [hreplies.table, h.table, List.foldl_append]
    rfl
  sent := by
    rw [hreplies.posted, h.sent, List.filterMap_append]
    rfl
  targets := by
    rw [hreplies.targets, h.targets, List.filterMap_append]
    rfl
  numbers := by
    rw [List.filterMap_append]
    exact hreplies.numbers h.numbers

/-- The bus is what its history makes of it. -/
structure Keeps (past : List Happening) (l : Loopback) : Prop where
  leaveHook : l.leaveHook = []
  failing : ∀ o, o ∈ l.failing ↔ History.Due o past
  records : Records (History.exchanges past) l

theorem keeps_idle : Keeps [] idle where
  leaveHook := rfl
  failing o := by
    refine iff_of_false nofun ?_
    rintro ⟨before, behind, hsplit, -⟩
    simp at hsplit
  records := ⟨rfl, rfl, rfl, rfl, rfl, fun _ => ⟨rfl, rfl⟩⟩

theorem Keeps.request (h : Keeps past l) (o : NativeOperation) :
    Keeps (past ++ [.requested o]) (l.failNext o) where
  leaveHook := h.leaveHook
  failing o' := by
    rw [mem_failing_failNext, h.failing, History.due_requested]
  records := by
    rw [History.exchanges_requested]
    exact { h.records with }

theorem Keeps.replies (h : Keeps past l) (hreplies : l.Replies e l') :
    Keeps (past ++ [.exchanged e]) l' where
  leaveHook := hreplies.leaveHook.trans h.leaveHook
  failing o := by
    rw [hreplies.mem_failing, h.failing, History.due_exchanged]
  records := by
    rw [History.exchanges_exchanged]
    exact h.records.replies hreplies

theorem keeps_undergo {life : List Happening × Loopback} (h : Keeps life.1 life.2) (d : Deed) :
    Keeps (undergo life d).1 (undergo life d).2 := by
  cases d with
  | request o => exact h.request o
  | call c => exact h.replies (replies_answer h.leaveHook c)

theorem keeps_foldl {life : List Happening × Loopback} (h : Keeps life.1 life.2) (deeds : List Deed) :
    Keeps (deeds.foldl undergo life).1 (deeds.foldl undergo life).2 := by
  induction deeds generalizing life with
  | nil => exact h
  | cons d deeds ih => exact ih (keeps_undergo h d)

theorem keeps_live (deeds : List Deed) : Keeps (live deeds).1 (live deeds).2 :=
  keeps_foldl keeps_idle deeds

theorem deeds_undergo (life : List Happening × Loopback) (d : Deed) :
    (undergo life d).1.map Happening.deed = life.1.map Happening.deed ++ [d] := by
  cases d with
  | request o => exact List.map_append
  | call c =>
    change (life.1 ++ [Happening.exchanged (life.2.answer c).1]).map Happening.deed = _
    rw [List.map_append, List.map_singleton, Happening.deed, call_answer]

theorem deeds_foldl (life : List Happening × Loopback) (deeds : List Deed) :
    (deeds.foldl undergo life).1.map Happening.deed = life.1.map Happening.deed ++ deeds := by
  induction deeds generalizing life with
  | nil => exact (List.append_nil _).symm
  | cons d deeds ih =>
    rw [List.foldl_cons, ih, deeds_undergo, List.append_assoc]
    rfl

theorem deeds_live (deeds : List Deed) : (live deeds).1.map Happening.deed = deeds :=
  deeds_foldl _ deeds

end Loopback

theorem Exchange.operation_call (e : Exchange) : e.call.operation = e.operation := by
  cases e <;> rfl

theorem History.operations_exchanges (past : List Happening) :
    (exchanges past).map Exchange.operation = (past.map Happening.deed).filterMap Deed.operation? := by
  induction past with
  | nil => rfl
  | cons h past ih =>
    cases h with
    | requested o => exact ih
    | exchanged e =>
      change e.operation :: (exchanges past).map Exchange.operation =
        e.call.operation :: (past.map Happening.deed).filterMap Deed.operation?
      rw [ih, e.operation_call]

/-! ### The next call -/

namespace Loopback

variable {l l' : Loopback} {e : Exchange}

theorem one_ne_injectedStatus : (1 : Int32) ≠ injectedStatus := by decide

theorem Replies.status (h : l.Replies e l') :
    e.failure?.map (·.status) = some injectedStatus ↔ e.operation ∈ l.failing := by
  cases h with
  | injected hasked hinjected =>
    rw [hinjected]
    exact iff_of_true rfl hasked
  | registered hunasked => exact iff_of_false nofun hunasked
  | cleared hunasked => exact iff_of_false nofun hunasked
  | opened hunasked => exact iff_of_false nofun hunasked
  | left hunasked => exact iff_of_false nofun hunasked
  | sent hunasked => exact iff_of_false nofun hunasked
  | occupied hunasked => exact iff_of_false (fun h => one_ne_injectedStatus (Option.some.inj h)) hunasked
  | unleft hunasked => exact iff_of_false (fun h => one_ne_injectedStatus (Option.some.inj h)) hunasked
  | unsent hunasked => exact iff_of_false (fun h => one_ne_injectedStatus (Option.some.inj h)) hunasked

theorem Replies.eq_log (h : l.Replies e l') (hasked : e.operation ∈ l.failing) :
    l' = l.log e.operation := by
  cases h with
  | injected => rfl
  | registered hunasked | cleared hunasked | opened hunasked | left hunasked | sent hunasked
  | occupied hunasked | unleft hunasked | unsent hunasked => exact absurd hasked hunasked

theorem Replies.succeeds_iff (h : l.Replies e l') (hunasked : e.operation ∉ l.failing) :
    e.Succeeds ↔ e.Fits l.current := by
  cases h with
  | injected hasked => exact absurd hasked hunasked
  | registered | cleared => exact iff_of_true rfl trivial
  | opened _ hfree => exact iff_of_true ⟨_, rfl⟩ hfree
  | occupied _ hopen => exact iff_of_false (fun ⟨_, h⟩ => nomatch h) hopen
  | left _ hopen | sent _ hopen => exact iff_of_true rfl hopen
  | unleft _ hclosed | unsent _ hclosed => exact iff_of_false nofun hclosed

/-- What a bus has kept, and the answer to every next call, as its history has them: a call fails on
request exactly if it is the first of its operation since that was asked for, and then nothing else comes of
it; any other call succeeds exactly if it is in place. -/
theorem bus_follows_history {deeds : List Deed} {past : List Happening} {l : Loopback}
    (hlive : live deeds = (past, l)) :
    past.map Happening.deed = deeds ∧
    l.operations.toList = deeds.filterMap Deed.operation? ∧
    l.current = History.current past ∧
    l.table = History.table past ∧
    l.sent.toList = History.sent past ∧
    l.targets.toList = History.targets past ∧
    ((History.openedIds past).length < 2 ^ 32 →
      (History.openedIds past).map (·.value.toNat) = List.range' 1 (History.openedIds past).length) ∧
    ∀ c e l', l.answer c = (e, l') →
      e.call = c ∧
      (e.failure?.map (·.status) = some 36864 ↔ History.Due c.operation past) ∧
      (History.Due c.operation past →
        l' = { l with
          operations := l.operations.push c.operation
          failing := l.failing.filter (· ≠ c.operation) }) ∧
      (¬History.Due c.operation past → (e.Succeeds ↔ e.Fits (History.current past))) := by
  have hkeeps : Keeps past l := by
    have h := keeps_live deeds
    rwa [hlive] at h
  have hdeeds : past.map Happening.deed = deeds := by
    have h := deeds_live deeds
    rwa [hlive] at h
  have hrecords := hkeeps.records
  have hcurrent : l.current = History.current past := hrecords.current
  refine ⟨hdeeds, ?_, hcurrent, hrecords.table, hrecords.sent, hrecords.targets, ?_, ?_⟩
  · rw [hrecords.operations, History.operations_exchanges, hdeeds]
  · exact fun hroom => (hrecords.numbers hroom).2
  · intro c e l' hanswer
    have hreplies : l.Replies e l' := by
      have h := replies_answer hkeeps.leaveHook c
      rwa [hanswer] at h
    have hcall : e.call = c := by
      have h := call_answer l c
      rwa [hanswer] at h
    have hoperation : c.operation = e.operation := by
      rw [← hcall, e.operation_call]
    have hdue : History.Due c.operation past ↔ e.operation ∈ l.failing := by
      rw [hoperation, hkeeps.failing]
    refine ⟨hcall, hreplies.status.trans hdue.symm, fun h => ?_, fun h => ?_⟩
    · rw [hoperation]
      exact hreplies.eq_log (hdue.mp h)
    · rw [← hcurrent]
      exact hreplies.succeeds_iff (mt hdue.mpr h)

def pestered : List Deed :=
  [.request .advertise, .request .advertise, .call (.openSession .owner default "den"),
    .call (.openSession .owner default "lobby"), .call (.openSession .joiner default "bar"),
    .call (.send ⟨1⟩ "hi"), .request .leave]

theorem bus_follows_history_pestered :
    let past := (live pestered).1
    let l := (live pestered).2
    (History.openedIds past).length < 2 ^ 32 ∧
      (History.openedIds past).map (·.value.toNat) = [1] ∧
      l.targets.toList = [default, default] ∧
      History.Due .leave past ∧
      (l.answer (.leave ⟨1⟩)).1.failure?.map (·.status) = some 36864 ∧
      (l.answer (.leave ⟨1⟩)).2.current = some ⟨1⟩ ∧
      ¬History.Due .send past ∧
      (l.answer (.send ⟨1⟩ "ho")).1.Succeeds := by
  intro past l
  have hlive : live pestered = (past, l) := rfl
  obtain ⟨-, -, hcurrent, -, -, htargets, hnumbers, hnext⟩ := bus_follows_history hlive
  have hroom : (History.openedIds past).length < 2 ^ 32 := by decide +kernel
  have hleave : History.Due .leave past :=
    ⟨past.dropLast, [], by decide +kernel, nofun⟩
  have hsend : ¬History.Due .send past := by
    rintro ⟨before, behind, hsplit, -⟩
    have hasked : Happening.requested .send ∈ past := by
      rw [hsplit]
      simp
    exact absurd hasked (by decide +kernel)
  obtain ⟨-, hfails, hlost, -⟩ := hnext (.leave ⟨1⟩) _ (l.answer (.leave ⟨1⟩)).2 rfl
  obtain ⟨-, -, -, hsucceeds⟩ := hnext (.send ⟨1⟩ "ho") _ (l.answer (.send ⟨1⟩ "ho")).2 rfl
  refine ⟨hroom, (hnumbers hroom).trans ?_, htargets.trans ?_, hleave, hfails.mpr hleave, ?_, hsend,
    (hsucceeds hsend).mpr ?_⟩
  · decide +kernel
  · decide +kernel
  · rw [hlost hleave]
    exact hcurrent.trans (by decide +kernel)
  · change History.current past = some ⟨1⟩
    decide +kernel

end Loopback

end SessionBridge
