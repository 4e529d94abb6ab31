import SessionBridge.Host.Arguments

/-! How a list of arguments is split. A log path argument is recognized by its key alone, and only the
last one counts, whether its value is any good or not; all other arguments are forwarded as they are and
in their order. -/
namespace SessionBridge.ServiceArgs

/-! ### Log path arguments -/

/-- Blanks, the key in letters of either case, and a value. -/
def IsLogPath (arg : String) (value : List Char) : Prop :=
  ∃ blanks key, arg.toList = blanks ++ key ++ value ∧ (∀ c ∈ blanks, Text.isBlank c = true) ∧
    key.map Char.toLower = logPathKey

theorem toLower_of_isBlank {c : Char} (h : Text.isBlank c = true) : c.toLower = c := by
  have hupper : ¬(c.val ≥ 'A'.val ∧ c.val ≤ 'Z'.val) := by
    simp only [Text.isBlank, Char.toNat, Bool.or_eq_true, Bool.and_eq_true, decide_eq_true_eq,
      beq_iff_eq, ge_iff_le, UInt32.le_iff_toNat_le] at h ⊢
    have hA : 'A'.val.toNat = 65 := rfl
    have hZ : 'Z'.val.toNat = 90 := rfl
    omega
  unfold Char.toLower
  rw [dif_neg hupper]

theorem trimStart_of_key {key value : List Char} (h : key.map Char.toLower = logPathKey) :
    Text.trimStart (key ++ value) = key ++ value := by
  rcases key with _ | ⟨c, key⟩
  · cases h
  refine List.dropWhile_cons_of_neg fun hblank => ?_
  have hletter : c.toLower = 'l' := (List.cons.inj h).1
  rw [toLower_of_isBlank hblank] at hletter
  subst hletter
  revert hblank
  decide

theorem isLogPath_iff_trimStart {arg : String} {value : List Char} :
    IsLogPath arg value ↔
      ∃ key, Text.trimStart arg.toList = key ++ value ∧ key.map Char.toLower = logPathKey := by
  constructor
  · rintro ⟨blanks, key, htext, hblanks, hkey⟩
    refine ⟨key, ?_, hkey⟩
    rw [htext, List.append_assoc]
    exact (List.dropWhile_append_of_pos hblanks).trans (trimStart_of_key hkey)
  · rintro ⟨key, htrim, hkey⟩
    refine ⟨arg.toList.takeWhile Text.isBlank, key, ?_, ?_, hkey⟩
    · rw [List.append_assoc, ← htrim]
      exact List.takeWhile_append_dropWhile.symm
    · intro c hmem
      exact List.all_eq_true.mp List.all_takeWhile c hmem

theorem logPathValue?_eq_some_iff {arg : String} {value : List Char} :
    logPathValue? arg = some value ↔ IsLogPath arg value := by
  rw [isLogPath_iff_trimStart]
  unfold logPathValue?
  constructor
  · intro h
    dsimp only at h
    split at h
    · rename_i hkey
      cases h
      exact ⟨_, (List.take_append_drop ..).symm, hkey⟩
    · cases h
  · rintro ⟨key, htrim, hkey⟩
    have hlength : key.length = logPathKey.length := by rw [← hkey, List.length_map]
    dsimp only
    rw [htrim, List.take_left' hlength, List.drop_left' hlength, if_pos hkey]

theorem logPathValue?_eq_none_iff {arg : String} :
    logPathValue? arg = Option.none ↔ ¬∃ value, IsLogPath arg value := by
  simp only [← logPathValue?_eq_some_iff, ← Option.isSome_iff_exists, Option.not_isSome_iff_eq_none]

instance (arg : String) : Decidable (∃ value, IsLogPath arg value) :=
  decidable_of_iff ((logPathValue? arg).isSome = true) <| by
    simp only [Option.isSome_iff_exists, logPathValue?_eq_some_iff]

def own (args : List String) : List String :=
  args.filter fun arg => ¬∃ value, IsLogPath arg value

def LastLogPath (args : List String) (value : List Char) : Prop :=
  ∃ before arg after, args = before ++ arg :: after ∧ IsLogPath arg value ∧
    ∀ later ∈ after, ¬∃ value, IsLogPath later value

def NoLogPath (args : List String) : Prop :=
  (∀ arg ∈ args, ¬∃ value, IsLogPath arg value) ∨
    ∃ value, LastLogPath args value ∧ (unquoted value = [] ∨ '"' ∈ unquoted value)

/-! ### Values -/

theorem cleanPath_eq_none_iff {value : List Char} :
    cleanPath value = Option.none ↔ unquoted value = [] ∨ '"' ∈ unquoted value := by
  unfold cleanPath isMalformed isQuote
  rw [ite_eq_left_iff]
  simp only [Bool.or_eq_true, List.isEmpty_iff, List.any_beq', List.contains_iff_mem, reduceCtorEq,
    imp_false, Classical.not_not]

/-! ### Splitting -/

theorem forwarded_foldl (parsed : ServiceArgs) (args : List String) :
    (args.foldl take parsed).forwarded = parsed.forwarded ++ own args := by
  induction args generalizing parsed with
  | nil => exact (List.append_nil _).symm
  | cons arg args ih =>
    rw [List.foldl_cons, ih, take]
    rcases hvalue : logPathValue? arg with _ | value
    · have hown : ¬∃ value, IsLogPath arg value := logPathValue?_eq_none_iff.mp hvalue
      simp [own, hown]
    · have hpath : ∃ value, IsLogPath arg value := ⟨value, logPathValue?_eq_some_iff.mp hvalue⟩
      simp [own, hpath]

theorem forwarded_parse (args : List String) : (parse args).forwarded = own args :=
  forwarded_foldl none args

theorem logPath_foldl (parsed : ServiceArgs) {args : List String}
    (h : ∀ arg ∈ args, ¬∃ value, IsLogPath arg value) :
    (args.foldl take parsed).logPath = parsed.logPath := by
  induction args generalizing parsed with
  | nil => rfl
  | cons arg args ih =>
    have hown := logPathValue?_eq_none_iff.mpr (h arg List.mem_cons_self)
    rw [List.foldl_cons, ih _ fun later hmem => h later (List.mem_cons_of_mem arg hmem), take, hown]

theorem logPath_parse_of_none {args : List String}
    (h : ∀ arg ∈ args, ¬∃ value, IsLogPath arg value) : (parse args).logPath = Option.none :=
  logPath_foldl none h

theorem LastLogPath.logPath_parse {args : List String} {value : List Char}
    (h : LastLogPath args value) : (parse args).logPath = cleanPath value := by
  obtain ⟨before, arg, after, rfl, hvalue, hafter⟩ := h
  unfold parse
  rw [List.foldl_append, List.foldl_cons, logPath_foldl _ hafter, take,
    logPathValue?_eq_some_iff.mpr hvalue]

theorem exists_lastLogPath (args : List String) :
    (∃ value, LastLogPath args value) ∨ ∀ arg ∈ args, ¬∃ value, IsLogPath arg value := by
  induction args with
  | nil => exact .inr (by simp)
  | cons arg args ih =>
    rcases ih with ⟨value, before, last, after, rfl, hvalue, hafter⟩ | hnone
    · exact .inl ⟨value, arg :: before, last, after, rfl, hvalue, hafter⟩
    · by_cases harg : ∃ value, IsLogPath arg value
      · obtain ⟨value, hvalue⟩ := harg
        exact .inl ⟨value, [], arg, args, rfl, hvalue, hnone⟩
      · exact .inr (List.forall_mem_cons.mpr ⟨harg, hnone⟩)

theorem logPath_parse_eq_some_iff {args : List String} {dir : String} :
    (parse args).logPath = some dir ↔
      ∃ value, LastLogPath args value ∧ cleanPath value = some dir := by
  constructor
  · intro h
    rcases exists_lastLogPath args with ⟨value, hlast⟩ | hnone
    · exact ⟨value, hlast, hlast.logPath_parse.symm.trans h⟩
    · rw [logPath_parse_of_none hnone] at h
      cases h
  · rintro ⟨value, hlast, hclean⟩
    exact hlast.logPath_parse.trans hclean

theorem logPath_parse_eq_none_iff {args : List String} :
    (parse args).logPath = Option.none ↔ NoLogPath args := by
  constructor
  · intro h
    rcases exists_lastLogPath args with ⟨value, hlast⟩ | hnone
    · exact .inr ⟨value, hlast, cleanPath_eq_none_iff.mp (hlast.logPath_parse.symm.trans h)⟩
    · exact .inl hnone
  · rintro (hnone | ⟨value, hlast, hbad⟩)
    · exact logPath_parse_of_none hnone
    · exact hlast.logPath_parse.trans (cleanPath_eq_none_iff.mpr hbad)

end SessionBridge.ServiceArgs
