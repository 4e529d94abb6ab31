import SessionBridge.Host.FileTree

/-! Where a log file lies. A name of the right form holds no slash, so putting it behind a directory
makes a path that leads through this directory and one name further, whatever the directory's own path
looks like. -/
namespace SessionBridge

/-! ### Names -/

namespace Text

theorem isDigit_of_mem_padded {width n : Nat} {c : Char} (h : c ∈ (padded width n).toList) :
    c.isDigit = true := by
  unfold padded paddedDigits at h
  rw [String.toList_ofList, List.mem_append, List.mem_replicate] at h
  rcases h with ⟨-, rfl⟩ | h
  · rfl
  · exact isDigit_of_mem_digits h

theorem slash_not_mem_padded (width n : Nat) : '/' ∉ (padded width n).toList := by
  intro h
  have hdigit := isDigit_of_mem_padded h
  revert hdigit
  decide

end Text

namespace DateTime

theorem slash_not_mem_yearText (year : Int) : '/' ∉ (yearText year).toList := by
  unfold yearText
  split
  · split
    · exact Text.slash_not_mem_padded _ _
    · simp [Text.slash_not_mem_padded]
  · simp [Text.slash_not_mem_padded]

theorem slash_not_mem_stamp (t : DateTime) : '/' ∉ t.stamp.toList := by
  simp [stamp, slash_not_mem_yearText, Text.slash_not_mem_padded]

end DateTime

namespace LogFile

theorem slash_not_mem_name {stem : String} (h : '/' ∉ stem.toList) (started : DateTime) :
    '/' ∉ (name stem started).toList := by
  simp [name, h, started.slash_not_mem_stamp]

/-- The ending keeps a log file apart from the names that lead nowhere new. -/
theorem name_genuine (stem : String) (started : DateTime) :
    name stem started ≠ "" ∧ name stem started ≠ "." ∧ name stem started ≠ ".." := by
  have hlength : 4 ≤ (name stem started).toList.length := by
    simp only [name, String.toList_append, List.length_append, ".txt".length_toList]
    exact Nat.le_add_left 4 _
  refine ⟨?_, ?_, ?_⟩ <;>
    · intro heq
      rw [heq] at hlength
      exact absurd hlength (by decide)

end LogFile

namespace FileTree

/-! ### Following -/

def entry (t : FileTree) (here : List String) (name : String) : Except OsError Place :=
  if nameLimit < name.utf8ByteSize then .error .nameTooLong
  else match t.node? (here ++ [name]) with
    | some n => .ok (.found (here ++ [name]) n)
    | none => .ok (.vacant (here ++ [name]))

variable {t : FileTree} {start here names : List String} {n : Node}

theorem exists_next_of_follow {name : String}
    (h : t.follow start (name :: names) = .ok (.found here n)) :
    ∃ next, t.follow next names = .ok (.found here n) ∧
      ∀ more, t.follow start (name :: more) = t.follow next more := by
  rw [follow] at h
  rcases hnode : t.node? start with _ | _ | _ <;> rw [hnode] at h <;> dsimp only at h
  · cases h
  · by_cases hdot : name = "."
    · rw [if_pos hdot] at h
      refine ⟨start, h, fun more => ?_⟩
      rw [follow, hnode]
      exact if_pos hdot
    rw [if_neg hdot] at h
    by_cases hup : name = ".."
    · rw [if_pos hup] at h
      refine ⟨start.dropLast, h, fun more => ?_⟩
      rw [follow, hnode]
      exact (if_neg hdot).trans (if_pos hup)
    rw [if_neg hup] at h
    split at h
    · cases h
    · rename_i hlong
      split at h
      · rename_i hthere
        refine ⟨start ++ [name], h, fun more => ?_⟩
        rw [follow, hnode]
        exact (if_neg hdot).trans ((if_neg hup).trans ((if_neg hlong).trans (if_pos hthere)))
      · split at h <;> cases h
  · cases h

theorem node?_of_follow (h : t.follow start names = .ok (.found here n)) :
    t.node? here = some n := by
  induction names generalizing start with
  | nil =>
    unfold follow at h
    split at h
    · rename_i hnode
      cases h
      exact hnode
    · cases h
  | cons name names ih =>
    obtain ⟨next, hnext, -⟩ := exists_next_of_follow h
    exact ih hnext

theorem follow_append (h : t.follow start names = .ok (.found here n)) (more : List String) :
    t.follow start (names ++ more) = t.follow here more := by
  induction names generalizing start with
  | nil =>
    unfold follow at h
    split at h
    · cases h
      rfl
    · cases h
  | cons name names ih =>
    obtain ⟨next, hnext, hlead⟩ := exists_next_of_follow h
    exact (hlead (names ++ more)).trans (ih hnext)

theorem follow_entry (hnode : t.node? here = some .directory) {name : String} (hdot : name ≠ ".")
    (hup : name ≠ "..") : t.follow here [name] = t.entry here name := by
  unfold follow entry
  rw [hnode]
  dsimp only
  rw [if_neg hdot, if_neg hup]
  rcases hthere : t.node? (here ++ [name]) with _ | n
  · rfl
  · rw [follow, hthere]
    rfl

/-! ### Paths -/

theorem namesOf_of_slash_not_mem {name : String} (hslash : '/' ∉ name.toList) (hne : name ≠ "") :
    namesOf name = [name] := by
  have hchars : name.toList ≠ [] := by simpa using hne
  unfold namesOf
  rw [List.splitOn_eq_singleton hslash]
  simp [hchars]

theorem namesOf_slash (dir name : String) : namesOf (dir ++ "/" ++ name) = namesOf dir ++ namesOf name := by
  have hsplit : (dir ++ "/" ++ name).toList.splitOn '/' =
      dir.toList.splitOn '/' ++ name.toList.splitOn '/' := by
    rw [String.toList_append, String.toList_append, List.append_assoc]
    exact List.splitOnP_append_cons _ _ (beq_self_eq_true '/')
  unfold namesOf
  rw [hsplit, List.filter_append, List.map_append]

theorem exists_of_endsInSlash {dir : String} (h : endsInSlash dir = true) :
    ∃ front : String, dir = front ++ "/" := by
  unfold endsInSlash at h
  obtain ⟨front, hfront⟩ := List.getLast?_eq_some_iff.mp (of_decide_eq_true h)
  refine ⟨String.ofList front, ?_⟩
  rw [← String.toList_inj, hfront]
  simp

variable {name : String}

theorem joinPath_of_slash_not_mem (dir : String) (hslash : '/' ∉ name.toList) :
    joinPath dir name =
      if dir = "" ∨ endsInSlash dir = true then dir ++ name else dir ++ "/" ++ name := by
  have hhead : name.toList.head? ≠ some '/' := fun h => hslash (List.mem_of_mem_head? h)
  unfold joinPath
  rw [if_neg hhead]
  simp only [endsInSlash, Bool.or_eq_true, String.isEmpty_iff, decide_eq_true_eq]

theorem namesOf_joinPath (dir : String) (hslash : '/' ∉ name.toList) :
    namesOf (joinPath dir name) = namesOf dir ++ namesOf name := by
  rw [joinPath_of_slash_not_mem dir hslash]
  split
  · rename_i hend
    rcases hend with rfl | hend
    · rw [String.empty_append]
      rfl
    · obtain ⟨front, rfl⟩ := exists_of_endsInSlash hend
      have hfront : namesOf (front ++ "/") = namesOf front := by
        have hempty := namesOf_slash front ""
        rwa [String.append_empty, show namesOf "" = [] from rfl, List.append_nil] at hempty
      rw [namesOf_slash, hfront]
  · exact namesOf_slash dir name

theorem isAbsolute_joinPath (dir : String) (hslash : '/' ∉ name.toList) :
    isAbsolute (joinPath dir name) = isAbsolute dir := by
  have hhead : name.toList.head? ≠ some '/' := fun h => hslash (List.mem_of_mem_head? h)
  by_cases hdir : dir = ""
  · subst hdir
    rw [joinPath_of_slash_not_mem "" hslash, if_pos (.inl rfl), String.empty_append]
    exact decide_eq_false hhead
  · obtain ⟨c, cs, hchars⟩ := List.exists_cons_of_ne_nil (mt String.toList_eq_nil_iff.mp hdir)
    rw [joinPath_of_slash_not_mem dir hslash]
    unfold isAbsolute
    split <;> simp [hchars]

/-- A path leads one name further than a directory: from the same start, through the directory, to what
stands there at that name. -/
structure IsEntry (dir path name : String) : Prop where
  absolute : isAbsolute path = isAbsolute dir
  names : namesOf path = namesOf dir ++ [name]
  leads : ∀ (t : FileTree) {start here : List String},
    t.follow start (namesOf dir) = .ok (.found here .directory) →
      t.follow start (namesOf path) = t.entry here name

theorem isEntry_joinPath (dir : String) (hslash : '/' ∉ name.toList)
    (hname : name ≠ "" ∧ name ≠ "." ∧ name ≠ "..") : IsEntry dir (joinPath dir name) name where
  absolute := isAbsolute_joinPath dir hslash
  names := by
    rw [namesOf_joinPath dir hslash, namesOf_of_slash_not_mem hslash hname.1]
  leads t start here hdir := by
    rw [namesOf_joinPath dir hslash, namesOf_of_slash_not_mem hslash hname.1, follow_append hdir]
    exact follow_entry (node?_of_follow hdir) hname.2.1 hname.2.2

end FileTree

end SessionBridge
