import SessionBridge.Proofs.Host.Passage

/-! The command line that is shown, taken apart again. The program name is a single word and the arguments
are joined to it with single spaces, so the pieces between the spaces are the name and then the pieces of the
arguments. They are the arguments themselves as long as none of these has a space in it, the empty one
included, which is an empty piece. -/
namespace SessionBridge

namespace Text

/-- The pieces between the spaces of a text. Two spaces in a row have an empty piece between them, and so has
a space at either end of the text beside it; a text without spaces is its only piece. -/
def words (s : String) : List String :=
  (s.toList.splitOn ' ').map String.ofList

variable {s t w : String} {ws : List String}

theorem words_of_space_not_mem (h : ' ' ∉ s.toList) : words s = [s] := by
  rw [words, List.splitOn_eq_singleton h, List.map_singleton, String.ofList_toList]

theorem words_append_space (s t : String) : words (s ++ " " ++ t) = words s ++ words t := by
  have hsplit : (s ++ " " ++ t).toList.splitOn ' ' = s.toList.splitOn ' ' ++ t.toList.splitOn ' ' := by
    rw [String.toList_append, String.toList_append, List.append_assoc]
    exact List.splitOn_append_cons_self _ _
  rw [words, hsplit, List.map_append, words, words]

theorem words_intercalate (h : ws ≠ []) : words (" ".intercalate ws) = ws.flatMap words := by
  induction ws with
  | nil => exact absurd rfl h
  | cons w ws ih =>
    cases ws with
    | nil => simp
    | cons w' ws =>
      rw [String.intercalate_cons_cons, words_append_space, ih (List.cons_ne_nil w' ws)]
      exact List.flatMap_cons.symm

theorem intercalate_words (s : String) : " ".intercalate (words s) = s := by
  have hchars : (words s).map String.toList = s.toList.splitOn ' ' := by
    simp [words, Function.comp_def]
  rw [← String.toList_inj, String.toList_intercalate, hchars]
  exact List.intercalate_splitOn ' '

theorem words_inj : words s = words t ↔ s = t := by
  refine ⟨fun h => ?_, congrArg words⟩
  rw [← intercalate_words s, h, intercalate_words]

theorem not_mem_of_mem_splitOn {a : Char} {cs piece : List Char} (h : piece ∈ cs.splitOn a) :
    a ∉ piece := by
  induction cs generalizing piece with
  | nil =>
    rw [List.splitOn_nil, List.mem_singleton] at h
    rw [h]
    exact List.not_mem_nil
  | cons c cs ih =>
    obtain ⟨first, rest, hsplit⟩ := List.exists_cons_of_ne_nil (List.splitOn_ne_nil a cs)
    rw [List.splitOn_cons_eq_if_modifyHead, hsplit] at h
    rw [hsplit] at ih
    split at h
    · rcases List.mem_cons.mp h with rfl | hmem
      · exact List.not_mem_nil
      · exact ih hmem
    · rename_i hother
      rcases List.mem_cons.mp h with rfl | hmem
      · refine List.not_mem_cons_of_ne_of_not_mem ?_ (ih List.mem_cons_self)
        rintro rfl
        exact hother (beq_self_eq_true a)
      · exact ih (List.mem_cons_of_mem first hmem)

theorem space_not_mem_of_mem_words (h : w ∈ words s) : ' ' ∉ w.toList := by
  obtain ⟨piece, hpiece, rfl⟩ := List.mem_map.mp h
  rw [String.toList_ofList]
  exact not_mem_of_mem_splitOn hpiece

theorem flatMap_words_eq_self_iff : ws.flatMap words = ws ↔ ∀ w ∈ ws, ' ' ∉ w.toList := by
  constructor
  · intro hsame w hmem
    rw [← hsame] at hmem
    obtain ⟨s, -, hpiece⟩ := List.mem_flatMap.mp hmem
    exact space_not_mem_of_mem_words hpiece
  · intro hspaceless
    induction ws with
    | nil => rfl
    | cons w ws ih =>
      obtain ⟨hfirst, hrest⟩ := List.forall_mem_cons.mp hspaceless
      rw [List.flatMap_cons, words_of_space_not_mem hfirst, ih hrest, List.singleton_append]

end Text

theorem HostConfig.space_not_mem_programName {c : HostConfig} (h : c.validate = .ok ()) :
    ' ' ∉ c.programName.toList := by
  obtain ⟨-, ⟨-, hblankless⟩, -⟩ := validate_eq_ok_iff.mp h
  exact fun hmem => hblankless ' ' hmem (by decide)

namespace ServiceArgs

theorem words_commandLine {programName : String} (hname : ' ' ∉ programName.toList) (a : ServiceArgs) :
    Text.words (a.commandLine programName) = programName :: a.forwarded.flatMap Text.words := by
  rw [commandLine, Text.words_intercalate (List.cons_ne_nil programName a.forwarded), List.flatMap_cons,
    Text.words_of_space_not_mem hname, List.singleton_append]

/-- The command line under a program name that passes the check, split at every single space. Its first piece
is the program name, whatever the arguments are, and the others are the pieces of the arguments; these are
the arguments as they were forwarded exactly if there is no space in any of them. Then no two lists of
arguments have the same line. In general two lines are the same exactly if the names are and the arguments
have the same pieces. -/
theorem command_line_splits_back {c : HostConfig} (hvalid : c.validate = .ok ()) :
    (∀ a : ServiceArgs, Text.words (a.commandLine c.programName) =
      c.programName :: a.forwarded.flatMap Text.words) ∧
    (∀ a : ServiceArgs, Text.words (a.commandLine c.programName) = c.programName :: a.forwarded ↔
      ∀ arg ∈ a.forwarded, ' ' ∉ arg.toList) ∧
    (∀ a a' : ServiceArgs, (∀ arg ∈ a.forwarded, ' ' ∉ arg.toList) →
      (∀ arg ∈ a'.forwarded, ' ' ∉ arg.toList) →
      (a.commandLine c.programName = a'.commandLine c.programName ↔ a.forwarded = a'.forwarded)) ∧
    ∀ (c' : HostConfig) (a a' : ServiceArgs), c'.validate = .ok () →
      (a.commandLine c.programName = a'.commandLine c'.programName ↔
        c.programName = c'.programName ∧
          a.forwarded.flatMap Text.words = a'.forwarded.flatMap Text.words) := by
  have hname := HostConfig.space_not_mem_programName hvalid
  refine ⟨words_commandLine hname, fun a => ?_, fun a a' ha ha' => ?_, fun c' a a' hvalid' => ?_⟩
  · rw [words_commandLine hname, List.cons_inj_right, Text.flatMap_words_eq_self_iff]
  · rw [← Text.words_inj, words_commandLine hname, words_commandLine hname, List.cons_inj_right,
      Text.flatMap_words_eq_self_iff.mpr ha, Text.flatMap_words_eq_self_iff.mpr ha']
  · have hname' := HostConfig.space_not_mem_programName hvalid'
    rw [← Text.words_inj, words_commandLine hname, words_commandLine hname', List.cons_eq_cons]

theorem command_line_splits_back_tabbed :
    let tabbed : ServiceArgs := ⟨Option.none, ["", "a\t\u3000b", "--nofork"]⟩
    let spaced : ServiceArgs := ⟨Option.none, ["", "a b", "--nofork"]⟩
    let apart : ServiceArgs := ⟨some "/logs", ["", "a", "b", "--nofork"]⟩
    HostConfig.standard.validate = .ok () ∧ (∀ arg ∈ tabbed.forwarded, ' ' ∉ arg.toList) ∧
      Text.words (tabbed.commandLine "AlljoynService") =
        ["AlljoynService", "", "a\t\u3000b", "--nofork"] ∧
      spaced.commandLine "AlljoynService" = apart.commandLine "AlljoynService" := by
  intro tabbed spaced apart
  have hvalid : HostConfig.standard.validate = .ok () := by rfl
  have htabbed : ∀ arg ∈ tabbed.forwarded, ' ' ∉ arg.toList := by decide
  obtain ⟨-, hback, -, hlines⟩ := command_line_splits_back hvalid
  exact ⟨hvalid, htabbed, (hback tabbed).mpr htabbed,
    (hlines .standard spaced apart hvalid).mpr ⟨rfl, by decide⟩⟩

end ServiceArgs

end SessionBridge
