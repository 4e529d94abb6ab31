/-! Anchors keep the context of a callback table alive. One that is released lets
it go; one that is leaked never does, because nobody confirmed that the calls have stopped. -/
namespace SessionBridge

structure AnchorId where
  number : Nat
  deriving DecidableEq, Inhabited

structure CallbackTable where
  anchor : AnchorId
  deriving DecidableEq, Inhabited

structure Anchors where
  issued : Nat
  held : List AnchorId
  leaked : List AnchorId
  deriving DecidableEq

namespace Anchors

def none : Anchors := ⟨0, [], []⟩

instance : Inhabited Anchors := ⟨none⟩

def next (a : Anchors) : AnchorId :=
  ⟨a.issued⟩

def issue (a : Anchors) : Anchors where
  issued := a.issued + 1
  held := a.next :: a.held
  leaked := a.leaked

def isHeld (a : Anchors) (id : AnchorId) : Bool :=
  a.held.contains id

def isLive (a : Anchors) (id : AnchorId) : Bool :=
  a.held.contains id || a.leaked.contains id

def release (a : Anchors) (id : AnchorId) : Anchors :=
  { a with held := a.held.erase id }

def leak (a : Anchors) (id : AnchorId) : Anchors :=
  if a.isHeld id then { a with held := a.held.erase id, leaked := id :: a.leaked } else a

def count (a : Anchors) : Nat :=
  a.held.length + a.leaked.length

def anchored (a : Anchors) : Bool :=
  a.count ≠ 0

@[simp] theorem count_issue (a : Anchors) : a.issue.count = a.count + 1 := by
  simp only [issue, count, List.length_cons]
  omega

theorem count_release {a : Anchors} {id : AnchorId} (h : a.isHeld id) :
    (a.release id).count + 1 = a.count := by
  have hmem : id ∈ a.held := List.contains_iff_mem.mp h
  have := List.length_pos_of_mem hmem
  simp only [count, release, List.length_erase_of_mem hmem]
  omega

theorem count_leak {a : Anchors} {id : AnchorId} (h : a.isHeld id) :
    (a.leak id).count = a.count := by
  have hmem : id ∈ a.held := List.contains_iff_mem.mp h
  have := List.length_pos_of_mem hmem
  simp only [count, leak, h, if_true, List.length_erase_of_mem hmem, List.length_cons]
  omega

@[simp] theorem isLive_issue (a : Anchors) (id : AnchorId) :
    a.issue.isLive id = (decide (id = a.next) || a.isLive id) := by
  simp [issue, isLive, Bool.or_assoc]

end Anchors

end SessionBridge
