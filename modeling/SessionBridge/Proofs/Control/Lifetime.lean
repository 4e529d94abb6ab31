import SessionBridge.Proofs.Bus.Table
import SessionBridge.Proofs.Control.Account
import SessionBridge.Proofs.Control.Stage

/-! Callbacks must not outlive the context that their anchor keeps. The table that the bus holds may be
one that an earlier session leaked, so what is kept through every call is that its anchor is live,
together with the account of who holds which anchor. An anchor is let go in two places only: when its
table was never accepted, and behind a clear that succeeded. Between a clear that fails and the leak
that answers it the account is open. -/
namespace SessionBridge

namespace World

/-- No callback meets a context that is gone, and none can. -/
structure Safe (w : World Scripted) : Prop where
  tabled : ∀ t, w.bus.table = some t → w.anchors.isLive t.anchor = true
  heard : Note.delivered false ∉ w.notes
  /-- An anchor whose table was accepted is gone only after a clear that succeeded since. -/
  confirmed : ∀ (i : Nat) (t : CallbackTable),
    w.exchanges[i]? = some (.registerCallbacks t (.value ())) → w.anchors.isLive t.anchor = false →
      ∃ j, i < j ∧ w.exchanges[j]? = some (.clearCallbacks (.value ()))

variable {w w' : World Scripted}

theorem Safe.onBridge (h : w.Safe) (b : Bridge) : Safe { w with bridge := b } :=
  ⟨h.tabled, h.heard, h.confirmed⟩

/-! ### Native calls -/

theorem heard_undergo {attended : Bool} {i : Incident} (h : Note.delivered false ∉ w.notes)
    (hlive : ∀ t call, i = .callback (some t) call → w.anchors.isLive t.anchor = true) :
    Note.delivered false ∉ (w.undergo attended i).notes := by
  have hnote (n : Note) (hn : n ≠ .delivered false) (w' : World Scripted) (hw : w'.notes = w.notes) :
      Note.delivered false ∉ (w'.note n).notes := by
    unfold note
    rw [Array.mem_push, hw, not_or]
    exact ⟨h, Ne.symm hn⟩
  unfold undergo
  split
  · exact hnote .unheard nofun w rfl
  · rename_i t call
    refine hnote _ ?_ { w with bridge := w.bridge.receive call } rfl
    rw [hlive t call rfl]
    exact nofun
  · split
    · exact hnote (.refused _) nofun w rfl
    · exact hnote .gone nofun w rfl
  · refine hnote _ ?_ w rfl
    split <;> exact nofun

theorem heard_foldl_undergo {attended : Bool} {incidents : List Incident}
    (h : Note.delivered false ∉ w.notes)
    (hlive : ∀ t call, .callback (some t) call ∈ incidents → w.anchors.isLive t.anchor = true) :
    Note.delivered false ∉ (incidents.foldl (undergo attended) w).notes := by
  induction incidents generalizing w with
  | nil => exact h
  | cons i incidents ih =>
    refine ih (heard_undergo h ?_) ?_
    · rintro t call rfl
      exact hlive t call List.mem_cons_self
    · intro t call hmem
      rw [anchors_undergo]
      exact hlive t call (List.mem_cons_of_mem i hmem)

section
variable {α : Type} {attended : Bool} {call : Scripted → Turn Scripted α}
  {exchange : Outcome NativeFailure α → Exchange} {granted : Option CallbackTable}
  {o : Outcome NativeFailure α}

theorem table_of_value {a : α} (hhandles : (call w.bus).Handles Scripted.table table granted)
    (hresult : w.perform attended call exchange = (.value a, w')) : w'.bus.table = granted := by
  have houtcome : (call w.bus).outcome = .value a := congrArg Prod.fst hresult
  rw [← hhandles.value a houtcome, ← bus_perform w attended call exchange, hresult]

theorem table_of_failure {f : NativeFailure}
    (hhandles : (call w.bus).Handles Scripted.table table granted)
    (hresult : w.perform attended call exchange = (.failure f, w')) : w'.bus.table = table := by
  have houtcome : (call w.bus).outcome = .failure f := congrArg Prod.fst hresult
  rw [← hhandles.failure f houtcome, ← bus_perform w attended call exchange, hresult]

theorem Safe.perform (h : w.Safe)
    (hhandles : (call w.bus).Handles Scripted.table w.bus.table granted)
    (hresult : w.perform attended call exchange = (o, w')) (hcalm : o ≠ .panic)
    (hgranted : ∀ t, granted = some t → w.anchors.isLive t.anchor = true)
    (haccepted : ∀ t, exchange o = .registerCallbacks t (.value ()) →
      w.anchors.isLive t.anchor = true) : w'.Safe := by
  have hperformed := performed hresult
  -- No anchor changes during the call, so the tables at both ends are all that matters.
  have hbehind : ∀ t, w'.bus.table = some t → w.anchors.isLive t.anchor = true := by
    intro t htable
    cases o with
    | value a => exact hgranted t ((table_of_value hhandles hresult).symm.trans htable)
    | failure f => exact h.tabled t ((table_of_failure hhandles hresult).symm.trans htable)
    | panic => exact absurd rfl hcalm
  refine ⟨?_, ?_, ?_⟩
  · intro t htable
    rw [hperformed.anchors]
    exact hbehind t htable
  · have hlive : ∀ t call', .callback (some t) call' ∈ (call w.bus).incidents →
        w.anchors.isLive t.anchor = true := by
      intro t call' hmem
      rcases hhandles.through _ _ hmem with htable | htable
      · exact h.tabled t htable.symm
      · refine hbehind t ?_
        rw [← bus_perform w attended call exchange, hresult] at htable
        exact htable.symm
    obtain ⟨-, rfl⟩ := Prod.mk.inj hresult
    exact heard_foldl_undergo (w := { w with bus := (call w.bus).bus }) h.heard hlive
  · intro i t hregister hgone
    rw [hperformed.anchors] at hgone
    rw [hperformed.exchanges, Array.getElem?_push] at hregister
    split at hregister
    · rw [haccepted t (Option.some.inj hregister)] at hgone
      cases hgone
    · obtain ⟨j, hlater, hcleared⟩ := h.confirmed i t hregister hgone
      have hsize : j < w.exchanges.size := (Array.getElem?_eq_some_iff.mp hcleared).1
      refine ⟨j, hlater, ?_⟩
      rw [hperformed.exchanges, Array.getElem?_push, if_neg (Nat.ne_of_lt hsize)]
      exact hcleared

end

/-! ### Anchors -/

theorem Safe.issue (h : w.Safe) : w.issueAnchor.Safe where
  tabled t htable := by
    rw [issueAnchor, Anchors.isLive_issue, h.tabled t htable, Bool.or_true]
  heard := h.heard
  confirmed i t hregister hgone := by
    rw [issueAnchor, Anchors.isLive_issue, Bool.or_eq_false_iff] at hgone
    exact h.confirmed i t hregister hgone.2

theorem Safe.release_unknown {id : AnchorId} (h : w.Safe)
    (htable : ∀ t, w.bus.table = some t → t.anchor ≠ id)
    (hrecord : ∀ t, .registerCallbacks t (.value ()) ∈ w.exchanges → t.anchor ≠ id) :
    (w.releaseAnchor id).Safe where
  tabled t hheld := by
    rw [releaseAnchor, Anchors.isLive_release_of_ne (htable t hheld)]
    exact h.tabled t hheld
  heard := h.heard
  confirmed i t hregister hgone := by
    have hne := hrecord t (Array.mem_of_getElem? hregister)
    rw [releaseAnchor, Anchors.isLive_release_of_ne hne] at hgone
    exact h.confirmed i t hregister hgone

/-- Any anchor can be let go right behind a clear that succeeded. -/
theorem Safe.release_cleared {exchanges : Array Exchange} (h : w.Safe)
    (htable : w.bus.table = none)
    (hlast : w.exchanges = exchanges.push (.clearCallbacks (.value ()))) (id : AnchorId) :
    (w.releaseAnchor id).Safe where
  tabled t hheld := by
    rw [show (w.releaseAnchor id).bus.table = none from htable] at hheld
    cases hheld
  heard := h.heard
  confirmed i t hregister _ := by
    change w.exchanges[i]? = _ at hregister
    refine ⟨exchanges.size, ?_, ?_⟩
    · rw [hlast, Array.getElem?_push] at hregister
      split at hregister
      · cases hregister
      · exact (Array.getElem?_eq_some_iff.mp hregister).1
    · change w.exchanges[exchanges.size]? = _
      rw [hlast, Array.getElem?_push_size]

theorem Safe.leak {id : AnchorId} (h : w.Safe) (hheld : id ∈ w.anchors.held) :
    (w.leakAnchor id).Safe where
  tabled t htable := by
    rw [leakAnchor, Anchors.isLive_leak hheld]
    exact h.tabled t htable
  heard := h.heard
  confirmed i t hregister hgone := by
    rw [leakAnchor, Anchors.isLive_leak hheld] at hgone
    exact h.confirmed i t hregister hgone

/-! ### Safety with the account -/

/-- What holds before and after every step while `owner` is the anchor in use. -/
structure Kept (w : World Scripted) (owner : Option AnchorId) : Prop where
  calm : w.bus.Calm
  safe : w.Safe
  ledger : Ledger w.anchors w.exchanges owner

variable {owner : Option AnchorId} {id : AnchorId}

theorem Kept.onBridge (h : w.Kept owner) (b : Bridge) : Kept { w with bridge := b } owner :=
  ⟨h.calm, h.safe.onBridge b, h.ledger⟩

theorem Kept.issue (h : w.Kept none) : w.issueAnchor.Kept (some w.anchors.next) :=
  ⟨h.calm, h.safe.issue, h.ledger.issue⟩

theorem Kept.isLive (h : w.Kept (some id)) : w.anchors.isLive id = true := by
  rw [Anchors.isLive_iff, h.ledger.held]
  exact .inl List.mem_cons_self

theorem Kept.perform {attended : Bool} {call : Scripted → Turn Scripted α}
    {exchange : Outcome NativeFailure α → Exchange} {o : Outcome NativeFailure α} (h : w.Kept owner)
    (hreturns : (call w.bus).Returns Scripted.Calm)
    (hhandles : (call w.bus).Handles Scripted.table w.bus.table w.bus.table)
    (hresult : w.perform attended call exchange = (o, w'))
    (hclear : (exchange o).isFailedClear = false)
    (hregister : ∀ t, exchange o ≠ .registerCallbacks t (.value ())) : w'.Kept owner := by
  have hback := back_perform attended exchange hreturns
  rw [hresult] at hback
  have hperformed := performed hresult
  refine ⟨hback.2, ?_, ?_⟩
  · exact h.safe.perform hhandles hresult hback.1 h.safe.tabled fun t ht => absurd ht (hregister t)
  · rw [hperformed.anchors, hperformed.exchanges]
    exact h.ledger.push hclear fun t ht => absurd ht (hregister t)

theorem Kept.openSession {mode : SessionMode} {target : BusTarget} {sessionName : String}
    {o : Outcome NativeFailure SessionId} (h : w.Kept owner)
    (hresult : w.openSession mode target sessionName = (o, w')) : w'.Kept owner :=
  h.perform (Scripted.returns_openSession mode target sessionName h.calm)
    (Scripted.handles_openSession mode target sessionName w.bus) hresult rfl nofun

theorem Kept.send {session : SessionId} {text : String} {o : Outcome NativeFailure Unit}
    (h : w.Kept owner) (hresult : w.send session text = (o, w')) : w'.Kept owner :=
  h.perform (Scripted.returns_send session text h.calm)
    (Scripted.handles_send session text w.bus) hresult rfl nofun

theorem Kept.leaveIfKnown {attended : Bool} {id? : Option SessionId}
    {o : Outcome NativeFailure Unit} (h : w.Kept owner)
    (hresult : Controller.leaveIfKnown attended id? w = (o, w')) : w'.Kept owner := by
  cases id? with
  | none =>
    cases hresult
    exact h
  | some session =>
    exact h.perform (Scripted.returns_leave session h.calm)
      (Scripted.handles_leave session w.bus) hresult rfl nofun

theorem Kept.registerCallbacks {o : Outcome NativeFailure Unit} (h : w.Kept (some id))
    (hresult : w.registerCallbacks ⟨id⟩ = (o, w')) : w'.Kept (some id) := by
  have hback := w.back_registerCallbacks ⟨id⟩ h.calm
  rw [hresult] at hback
  have hperformed := performed hresult
  refine ⟨hback.2, ?_, ?_⟩
  · refine h.safe.perform (Scripted.handles_registerCallbacks ⟨id⟩ w.bus) hresult hback.1 ?_ ?_
    · intro t ht
      cases ht
      exact h.isLive
    · intro t ht
      cases ht
      exact h.isLive
  · rw [hperformed.anchors, hperformed.exchanges]
    refine h.ledger.push rfl ?_
    intro t ht
    cases ht
    exact h.ledger.issued id h.isLive

theorem Kept.unregistered {f : NativeFailure} (h : w.Kept none)
    (hresult : w.issueAnchor.registerCallbacks ⟨w.anchors.next⟩ = (.failure f, w')) :
    (w'.releaseAnchor w.anchors.next).Kept none := by
  have hkept := h.issue.registerCallbacks hresult
  have hperformed := performed hresult
  refine ⟨hkept.calm, hkept.safe.release_unknown ?_ ?_, hkept.ledger.release⟩
  · -- The bus still holds the table from before, whose anchor is live and so not the new one.
    intro t ht heq
    have htable : w'.bus.table = w.bus.table :=
      table_of_failure (w := w.issueAnchor) (Scripted.handles_registerCallbacks _ w.bus) hresult
    change w'.bus.table = some t at ht
    rw [htable] at ht
    have hlive := h.safe.tabled t ht
    rw [heq, h.ledger.next_not_live] at hlive
    cases hlive
  · intro t hmem heq
    rw [hperformed.exchanges] at hmem
    rcases Array.mem_push.mp hmem with hmem | hpushed
    · have hbefore := h.ledger.accepted t hmem
      rw [heq] at hbefore
      exact absurd hbefore (Nat.lt_irrefl _)
    · cases hpushed

theorem Kept.cleared {attended : Bool} (h : w.Kept (some id))
    (hresult : w.clearCallbacks attended = (.value (), w')) :
    w'.Kept (some id) ∧ (w'.releaseAnchor id).Kept none := by
  have hback := w.back_clearCallbacks attended h.calm
  rw [hresult] at hback
  have hperformed := performed hresult
  have htable : w'.bus.table = none :=
    table_of_value (Scripted.handles_clearCallbacks w.bus) hresult
  have hsafe : w'.Safe :=
    h.safe.perform (Scripted.handles_clearCallbacks w.bus) hresult hback.1 nofun nofun
  have hledger : Ledger w'.anchors w'.exchanges (some id) := by
    rw [hperformed.anchors, hperformed.exchanges]
    exact h.ledger.push rfl nofun
  exact ⟨⟨hback.2, hsafe, hledger⟩, hback.2, hsafe.release_cleared htable hperformed.exchanges id,
    hledger.release⟩

theorem Kept.uncleared {attended : Bool} {f : NativeFailure} (h : w.Kept (some id))
    (hresult : w.clearCallbacks attended = (.failure f, w')) :
    w'.Safe ∧ w'.anchors.held = [id] ∧ (w'.leakAnchor id).Kept none := by
  have hback := w.back_clearCallbacks attended h.calm
  rw [hresult] at hback
  have hperformed := performed hresult
  have hsafe : w'.Safe :=
    h.safe.perform (Scripted.handles_clearCallbacks w.bus) hresult hback.1 nofun nofun
  have hheld : w'.anchors.held = [id] := by
    rw [hperformed.anchors]
    exact h.ledger.held
  refine ⟨hsafe, hheld, hback.2, hsafe.leak (by simp [hheld]), ?_⟩
  rw [leakAnchor, hperformed.anchors, hperformed.exchanges]
  exact h.ledger.leak f

end World

end SessionBridge
