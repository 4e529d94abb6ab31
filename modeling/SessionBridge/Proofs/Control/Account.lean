import SessionBridge.Control.World

/-! The account of anchors against the record of native calls. At most one anchor is in use at a time;
the others that are still live were leaked, one by each clear that failed. -/
namespace SessionBridge

namespace Exchange

def isFailedClear : Exchange → Bool
  | clearCallbacks (.failure _) => true
  | _ => false

end Exchange

def failedClears (exchanges : Array Exchange) : Nat :=
  exchanges.countP Exchange.isFailedClear

namespace Anchors

variable {a : Anchors} {id : AnchorId}

theorem isLive_iff : a.isLive id = true ↔ id ∈ a.held ∨ id ∈ a.leaked := by
  unfold isLive
  rw [Bool.or_eq_true, List.contains_iff_mem, List.contains_iff_mem]

theorem isLive_release_of_ne {other : AnchorId} (hne : other ≠ id) :
    (a.release id).isLive other = a.isLive other := by
  rw [Bool.eq_iff_iff, isLive_iff, isLive_iff]
  exact or_congr_left (List.mem_erase_of_ne hne)

theorem isLive_of_isLive_release {other : AnchorId} (h : (a.release id).isLive other = true) :
    a.isLive other = true := by
  rw [isLive_iff] at h ⊢
  exact h.imp_left List.mem_of_mem_erase

theorem leak_of_held (hheld : id ∈ a.held) :
    a.leak id = { a with held := a.held.erase id, leaked := id :: a.leaked } :=
  if_pos (List.contains_iff_mem.mpr hheld)

theorem isLive_leak (hheld : id ∈ a.held) (other : AnchorId) :
    (a.leak id).isLive other = a.isLive other := by
  rw [Bool.eq_iff_iff, isLive_iff, isLive_iff, leak_of_held hheld]
  by_cases hsame : other = id
  · subst hsame
    simp [hheld]
  · simp [hsame, List.mem_erase_of_ne hsame]

end Anchors

/-- The account is in order while `owner` is the anchor in use. -/
structure Ledger (a : Anchors) (exchanges : Array Exchange) (owner : Option AnchorId) : Prop where
  held : a.held = owner.toList
  leaked : a.leaked.length = failedClears exchanges
  distinct : (a.held ++ a.leaked).Nodup
  issued : ∀ id, a.isLive id = true → id.number < a.issued
  accepted : ∀ t, .registerCallbacks t (.value ()) ∈ exchanges → t.anchor.number < a.issued

namespace Ledger

variable {a : Anchors} {exchanges : Array Exchange} {owner : Option AnchorId} {id : AnchorId}

theorem none : Ledger .none #[] none :=
  ⟨rfl, rfl, List.nodup_nil, nofun, nofun⟩

theorem next_not_live (h : Ledger a exchanges owner) : a.isLive a.next = false := by
  rw [← Bool.not_eq_true]
  intro hlive
  exact absurd (h.issued _ hlive) (Nat.lt_irrefl _)

theorem issue (h : Ledger a exchanges .none) : Ledger a.issue exchanges (some a.next) where
  held := by rw [Anchors.issue, h.held]; rfl
  leaked := h.leaked
  distinct := by
    have hnew : a.next ∉ a.held ++ a.leaked := by
      rw [List.mem_append, ← Anchors.isLive_iff, h.next_not_live]
      exact Bool.false_ne_true
    exact List.nodup_cons.mpr ⟨hnew, h.distinct⟩
  issued id hlive := by
    rw [Anchors.isLive_issue, Bool.or_eq_true, decide_eq_true_iff] at hlive
    change id.number < a.issued + 1
    rcases hlive with rfl | hlive
    · exact Nat.lt_succ_self _
    · exact Nat.lt_succ_of_lt (h.issued id hlive)
  accepted t hmem := Nat.lt_succ_of_lt (h.accepted t hmem)

theorem push (h : Ledger a exchanges owner) {e : Exchange} (hclear : e.isFailedClear = false)
    (haccepted : ∀ t, e = .registerCallbacks t (.value ()) → t.anchor.number < a.issued) :
    Ledger a (exchanges.push e) owner where
  held := h.held
  leaked := by
    unfold failedClears
    rw [Array.countP_push, hclear, if_neg Bool.false_ne_true]
    exact h.leaked
  distinct := h.distinct
  issued := h.issued
  accepted t hmem := by
    rcases Array.mem_push.mp hmem with hmem | rfl
    · exact h.accepted t hmem
    · exact haccepted t rfl

theorem release (h : Ledger a exchanges (some id)) : Ledger (a.release id) exchanges .none where
  held := by rw [Anchors.release, h.held]; simp
  leaked := h.leaked
  distinct := h.distinct.sublist (List.erase_sublist.append_right _)
  issued other hlive := h.issued other (Anchors.isLive_of_isLive_release hlive)
  accepted := h.accepted

theorem leak (h : Ledger a exchanges (some id)) (f : NativeFailure) :
    Ledger (a.leak id) (exchanges.push (.clearCallbacks (.failure f))) .none := by
  have hheld : id ∈ a.held := by simp [h.held]
  have hleak : a.leak id = { a with held := [], leaked := id :: a.leaked } := by
    have herase : a.held.erase id = [] := by rw [h.held]; simp
    rw [Anchors.leak_of_held hheld, herase]
  have hdistinct : (id :: a.leaked).Nodup := by
    have hall := h.distinct
    rw [h.held] at hall
    exact hall
  refine ⟨?_, ?_, ?_, ?_, ?_⟩
  · rw [hleak]
    rfl
  · rw [hleak]
    unfold failedClears
    rw [Array.countP_push]
    exact congrArg (· + 1) h.leaked
  · rw [hleak]
    exact hdistinct
  · intro other hlive
    rw [Anchors.isLive_leak hheld] at hlive
    rw [hleak]
    exact h.issued other hlive
  · intro t hmem
    rw [hleak]
    rcases Array.mem_push.mp hmem with hmem | heq
    · exact h.accepted t hmem
    · cases heq

theorem count_eq (h : Ledger a exchanges owner) :
    a.count = (if owner.isSome then 1 else 0) + failedClears exchanges := by
  unfold Anchors.count
  rw [h.held, h.leaked]
  cases owner <;> rfl

end Ledger

end SessionBridge
