import Mathlib.Data.Finset.Dedup
import Mathlib.Data.Finset.Card
import SessionBridge.Registry

/-! The registry as a plain ordered set. Behind any sequence of reports it holds the first report of every
name, in the order of the reports; and its two structures, the order and the index, say the same. -/
namespace SessionBridge

def firstReports : List Participant → List Participant
  | [] => []
  | p :: reports => p :: (firstReports reports).filter (·.name ≠ p.name)

namespace Registry

def registerAll (r : Registry) : List Participant → List (Option Participant) × Registry
  | [] => ([], r)
  | p :: reports =>
    let (joined?, r) := r.register p.name p.joinedAt
    let (rest, r) := r.registerAll reports
    (joined? :: rest, r)

@[simp] theorem registerAll_nil (r : Registry) : r.registerAll [] = ([], r) := rfl

theorem registerAll_cons (r : Registry) (p : Participant) (reports : List Participant) :
    r.registerAll (p :: reports) =
      ((r.register p.name p.joinedAt).1 ::
          ((r.register p.name p.joinedAt).2.registerAll reports).1,
        ((r.register p.name p.joinedAt).2.registerAll reports).2) := rfl

theorem registerAll_append (r : Registry) (first second : List Participant) :
    r.registerAll (first ++ second) =
      ((r.registerAll first).1 ++ ((r.registerAll first).2.registerAll second).1,
        ((r.registerAll first).2.registerAll second).2) := by
  induction first generalizing r with
  | nil => rfl
  | cons p first ih => simp [registerAll_cons, ih]

theorem length_registerAll (r : Registry) (reports : List Participant) :
    (r.registerAll reports).1.length = reports.length := by
  induction reports generalizing r with
  | nil => rfl
  | cons p reports ih => simp [registerAll_cons, ih]

theorem register_known {r : Registry} {p : Participant} (h : r.contains p.name = true) :
    r.register p.name p.joinedAt = (none, r) := by
  simp [register, newcomer?, h]

theorem register_new {r : Registry} {p : Participant} (h : r.contains p.name = false) :
    r.register p.name p.joinedAt = (some p, r.insert p) := by
  simp [register, newcomer?, h]

theorem contains_registerAll (r : Registry) (reports : List Participant) (name : String) :
    (r.registerAll reports).2.contains name = true ↔
      r.contains name = true ∨ name ∈ reports.map Participant.name := by
  induction reports generalizing r with
  | nil => simp
  | cons p reports ih =>
    rw [registerAll_cons, ih, contains_register, List.map_cons, List.mem_cons]
    simp only [Bool.or_eq_true, beq_iff_eq]
    tauto

theorem toList_registerAll (r : Registry) (reports : List Participant) :
    (r.registerAll reports).2.toList =
      r.toList ++ (firstReports reports).filter (!r.contains ·.name) := by
  induction reports generalizing r with
  | nil => simp [firstReports]
  | cons p reports ih =>
    rw [registerAll_cons, ih, firstReports]
    cases hknown : r.contains p.name with
    | true =>
      rw [register_known hknown, List.filter_cons_of_neg (by simp [hknown]), List.filter_filter]
      refine congrArg (r.toList ++ ·) (List.filter_congr fun q _ => ?_)
      by_cases hname : q.name = p.name
      · simp [hname, hknown]
      · simp [hname]
    | false =>
      rw [register_new hknown, List.filter_cons_of_pos (by simp [hknown]), List.filter_filter,
        toList_insert, List.append_assoc, List.singleton_append]
      refine congrArg (r.toList ++ p :: ·) (List.filter_congr fun q _ => ?_)
      by_cases hname : q.name = p.name
      · simp [hname]
      · simp [hname, Ne.symm hname]

theorem filterMap_registerAll (r : Registry) (reports : List Participant) :
    (r.registerAll reports).2.toList = r.toList ++ (r.registerAll reports).1.filterMap id := by
  induction reports generalizing r with
  | nil => simp
  | cons p reports ih =>
    rw [registerAll_cons, ih]
    cases hknown : r.contains p.name with
    | true => simp [register_known hknown]
    | false => simp [register_new hknown]

theorem answer_registerAll (r : Registry) (before after : List Participant) (p : Participant) :
    (r.registerAll (before ++ p :: after)).1[before.length]? =
      some (if (r.registerAll before).2.contains p.name then none else some p) := by
  rw [registerAll_append, List.getElem?_append_right (Nat.le_of_eq (length_registerAll r before)),
    length_registerAll, Nat.sub_self, registerAll_cons]
  cases hknown : (r.registerAll before).2.contains p.name with
  | true => simp [register_known hknown]
  | false => simp [register_new hknown]

/-! ### Growth -/

def Extends (r r' : Registry) : Prop :=
  ∃ reports, r' = (r.registerAll reports).2

theorem Extends.refl (r : Registry) : r.Extends r :=
  ⟨[], rfl⟩

theorem Extends.insert {r r' : Registry} {p : Participant} (h : r.Extends r')
    (hnew : r'.contains p.name = false) : r.Extends (r'.insert p) := by
  obtain ⟨reports, rfl⟩ := h
  refine ⟨reports ++ [p], ?_⟩
  rw [registerAll_append, registerAll_cons, register_new hnew]
  rfl

theorem extends_of_begins {earlier later : List Participant} (h : earlier <+: later)
    (r : Registry) : (r.registerAll earlier).2.Extends (r.registerAll later).2 := by
  obtain ⟨between, rfl⟩ := h
  exact ⟨between, by rw [registerAll_append]⟩

theorem Extends.toList {r r' : Registry} (h : r.Extends r') : r.toList <+: r'.toList := by
  obtain ⟨reports, rfl⟩ := h
  rw [filterMap_registerAll]
  exact List.prefix_append _ _

/-! ### The index -/

def names (r : Registry) : List String :=
  r.toList.map Participant.name

@[simp] theorem names_insert (r : Registry) (p : Participant) :
    (r.insert p).names = r.names ++ [p.name] := by
  simp [names]

@[simp] theorem length_names (r : Registry) : r.names.length = r.size := by
  simp [names, toList, size]

/-- The index gives every name in the order its position, and nothing else. -/
def Indexed (r : Registry) : Prop :=
  ∀ (name : String) (i : Nat), r.index[name]? = some i ↔ r.names[i]? = some name

variable {r : Registry}

theorem indexed_empty : empty.Indexed := by
  intro name i
  simp [empty, names, toList]

theorem Indexed.contains_iff (h : r.Indexed) (name : String) :
    r.contains name = true ↔ name ∈ r.names := by
  rw [contains, Std.TreeMap.contains_eq_isSome_getElem?, Option.isSome_iff_exists,
    List.mem_iff_getElem?]
  exact exists_congr fun i => h name i

theorem Indexed.nodup (h : r.Indexed) : r.names.Nodup := by
  rw [List.nodup_iff_getElem?_ne_getElem?]
  intro i j hij hj heq
  have hlater : r.names[j]? = some r.names[j] := List.getElem?_eq_getElem hj
  have hindex := (h _ j).mpr hlater
  rw [(h _ i).mpr (heq.trans hlater), Option.some.injEq] at hindex
  omega

theorem Indexed.insert {p : Participant} (h : r.Indexed) (hnew : r.contains p.name = false) :
    (r.insert p).Indexed := by
  intro name i
  have hfresh : p.name ∉ r.names := by
    rw [← h.contains_iff, hnew]
    exact Bool.false_ne_true
  have hindex : (r.insert p).index[name]? =
      if compare p.name name = .eq then some r.size else r.index[name]? :=
    Std.TreeMap.getElem?_insert
  rw [hindex, names_insert, List.getElem?_append, length_names, List.getElem?_singleton]
  by_cases hname : p.name = name
  · subst hname
    rw [if_pos Std.compare_self, Option.some.injEq]
    by_cases hi : i < r.size
    · have hnowhere : r.names[i]? ≠ some p.name := fun hfound =>
        hfresh (List.mem_of_getElem? hfound)
      rw [if_pos hi]
      exact iff_of_false (by omega) hnowhere
    · simp only [hi, if_false, Option.ite_none_right_eq_some, and_true]
      omega
  · have hother : compare p.name name ≠ .eq := mt Std.compare_eq_iff_eq.mp hname
    rw [if_neg hother, h name i]
    by_cases hi : i < r.size
    · rw [if_pos hi]
    · have hbeyond : r.names[i]? = none := by
        rw [List.getElem?_eq_none_iff, length_names]
        omega
      rw [if_neg hi, hbeyond]
      simp [hname]

theorem Indexed.registerAll (h : r.Indexed) (reports : List Participant) :
    (r.registerAll reports).2.Indexed := by
  induction reports generalizing r with
  | nil => exact h
  | cons p reports ih =>
    rw [registerAll_cons]
    cases hknown : r.contains p.name with
    | true =>
      rw [register_known hknown]
      exact ih h
    | false =>
      rw [register_new hknown]
      exact ih (h.insert hknown)

/-- Behind reports alone, the order and the index agree. -/
theorem indexed_reports (reports : List Participant) : (empty.registerAll reports).2.Indexed :=
  indexed_empty.registerAll reports

theorem mem_names_reports (reports : List Participant) (name : String) :
    name ∈ (empty.registerAll reports).2.names ↔ name ∈ reports.map Participant.name := by
  rw [← (indexed_reports reports).contains_iff, contains_registerAll, contains_empty]
  simp

theorem toList_reports (reports : List Participant) :
    (empty.registerAll reports).2.toList = firstReports reports := by
  rw [toList_registerAll]
  simp

theorem size_reports (reports : List Participant) :
    (empty.registerAll reports).2.size = (reports.map Participant.name).toFinset.card := by
  have hnames : (reports.map Participant.name).toFinset =
      (empty.registerAll reports).2.names.toFinset := by
    ext name
    rw [List.mem_toFinset, List.mem_toFinset, mem_names_reports]
  rw [hnames, List.toFinset_card_of_nodup (indexed_reports reports).nodup, length_names]

end Registry

end SessionBridge
