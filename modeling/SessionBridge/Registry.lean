import Std.Data.TreeMap
import SessionBridge.Timestamp

/-! The participants of the session in the order they joined. A name joins once, with the time of its
first report; the index answers where a name stands without a search. -/
namespace SessionBridge

structure Participant where
  name : String
  joinedAt : Timestamp
  deriving DecidableEq, Inhabited

structure Registry where
  order : Array Participant
  /-- The position of every name in `order`. -/
  index : Std.TreeMap String Nat

namespace Registry

def empty : Registry := ⟨#[], ∅⟩

instance : Inhabited Registry := ⟨empty⟩

def contains (r : Registry) (name : String) : Bool :=
  r.index.contains name

def newcomer? (r : Registry) (name : String) (joinedAt : Timestamp) : Option Participant :=
  if r.contains name then none else some ⟨name, joinedAt⟩

def insert (r : Registry) (p : Participant) : Registry :=
  ⟨r.order.push p, r.index.insert p.name r.order.size⟩

def register (r : Registry) (name : String) (joinedAt : Timestamp) : Option Participant × Registry :=
  match r.newcomer? name joinedAt with
  | some p => (some p, r.insert p)
  | none => (none, r)

def size (r : Registry) : Nat :=
  r.order.size

def isEmpty (r : Registry) : Bool :=
  r.order.isEmpty

def toList (r : Registry) : List Participant :=
  r.order.toList

@[simp] theorem toList_empty : empty.toList = [] := rfl

@[simp] theorem toList_insert (r : Registry) (p : Participant) :
    (r.insert p).toList = r.toList ++ [p] := by
  simp [insert, toList]

@[simp] theorem contains_empty (name : String) : empty.contains name = false := by
  simp [contains, empty]

@[simp] theorem contains_insert (r : Registry) (p : Participant) (name : String) :
    (r.insert p).contains name = (p.name == name || r.contains name) := by
  have h : (compare p.name name == .eq) = (p.name == name) := by
    rw [Bool.eq_iff_iff, beq_iff_eq, beq_iff_eq]
    exact Std.compare_eq_iff_eq
  simp [contains, insert, Std.TreeMap.contains_insert, h]

@[simp] theorem contains_register (r : Registry) (name : String) (joinedAt : Timestamp)
    (other : String) :
    (r.register name joinedAt).2.contains other = (name == other || r.contains other) := by
  unfold register newcomer?
  cases h : r.contains name with
  | false => simp
  | true =>
    by_cases heq : name = other
    · subst heq
      simp [h]
    · simp [heq]

end Registry

end SessionBridge
