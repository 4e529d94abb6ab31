import SessionBridge.Outcome
import SessionBridge.Proofs.Host.LogPath
import SessionBridge.Proofs.Text.Boundary

/-! What the split of an argument list depends on. The key of a log path argument takes eight bytes and ends
between two characters, so that nobody who cuts there by byte offsets cuts a character in two. Lists split
part by part, and of the log path arguments all but the last could as well be missing. -/
namespace SessionBridge.ServiceArgs

variable {arg : String} {key value : List Char} {args xs ys before after : List String}

/-! ### Byte offsets -/

theorem utf8Size_toLower (c : Char) : c.toLower.utf8Size = c.utf8Size := by
  unfold Char.toLower
  split
  · rename_i h
    obtain ⟨hlower, hupper⟩ := h
    rw [ge_iff_le, UInt32.le_iff_toNat_le] at hlower
    rw [UInt32.le_iff_toNat_le] at hupper
    have hA : 'A'.val.toNat = 65 := rfl
    have hZ : 'Z'.val.toNat = 90 := rfl
    have hshift : ('a'.val - 'A'.val).toNat = 32 := rfl
    have hone : c.utf8Size = 1 := by
      rw [Char.utf8Size_eq_one_iff, UInt32.le_iff_toNat_le]
      change c.val.toNat ≤ 127
      omega
    rw [hone, Char.utf8Size_eq_one_iff, UInt32.le_iff_toNat_le, UInt32.toNat_add, hshift]
    change _ ≤ 127
    omega
  · rfl

theorem length_encode_toLower (cs : List Char) :
    (Utf8.encode (cs.map Char.toLower)).length = (Utf8.encode cs).length := by
  induction cs with
  | nil => rfl
  | cons c cs ih =>
    rw [List.map_cons, Utf8.length_encode_cons, Utf8.length_encode_cons, ih, utf8Size_toLower]

def keySize : Nat :=
  (Utf8.encode logPathKey).length

/-- What stands behind the key, read by byte offsets. There may be no text up to the offset at which the key
would end; to cut a text there that has none is a fault. -/
def slicedValue (arg : String) : Outcome Empty (Option (List Char)) :=
  let cs := Text.trimStart arg.toList
  match Utf8.splitAt? cs keySize with
  | .none => .value .none
  | some (key, _) =>
    if key.map Char.toLower = logPathKey then
      match Utf8.splitAt? cs keySize with
      | .none => .panic
      | some (_, value) => .value (some value)
    else .value .none

/-- The split of an argument list by byte offsets, up to the first fault. -/
def parseSliced (parsed : ServiceArgs) : List String → Outcome Empty ServiceArgs
  | [] => .value parsed
  | arg :: args =>
    match slicedValue arg with
    | .value (some value) => parseSliced { parsed with logPath := cleanPath value } args
    | .value .none => parseSliced { parsed with forwarded := parsed.forwarded ++ [arg] } args
    | .panic => .panic

theorem splitAt?_of_key (hkey : key.map Char.toLower = logPathKey) (value : List Char) :
    Utf8.splitAt? (key ++ value) keySize = some (key, value) := by
  have hsize : keySize = (Utf8.encode key).length := by
    rw [keySize, ← hkey, length_encode_toLower]
  rw [hsize, Utf8.splitAt?_append]

theorem slicedValue_eq (arg : String) : slicedValue arg = .value (logPathValue? arg) := by
  unfold slicedValue
  dsimp only
  rcases hvalue : logPathValue? arg with _ | value
  · rcases hcut : Utf8.splitAt? (Text.trimStart arg.toList) keySize with _ | ⟨key, value⟩
    · rfl
    · obtain ⟨htrim, -⟩ := Utf8.splitAt?_eq_some_iff.mp hcut
      have hkey : ¬key.map Char.toLower = logPathKey := fun hkey =>
        logPathValue?_eq_none_iff.mp hvalue ⟨value, isLogPath_iff_trimStart.mpr ⟨key, htrim, hkey⟩⟩
      exact if_neg hkey
  · obtain ⟨key, htrim, hkey⟩ := isLogPath_iff_trimStart.mp (logPathValue?_eq_some_iff.mp hvalue)
    rw [htrim, splitAt?_of_key hkey]
    exact if_pos hkey

theorem parseSliced_eq (parsed : ServiceArgs) (args : List String) :
    parseSliced parsed args = .value (args.foldl take parsed) := by
  induction args generalizing parsed with
  | nil => rfl
  | cons arg args ih =>
    rw [parseSliced, slicedValue_eq, List.foldl_cons, take]
    rcases logPathValue? arg with _ | value
    · exact ih _
    · exact ih _

/-! ### Parts of a list -/

theorem own_append (xs ys : List String) : own (xs ++ ys) = own xs ++ own ys :=
  List.filter_append ..

theorem own_cons_of_isLogPath (h : IsLogPath arg value) (args : List String) :
    own (arg :: args) = own args :=
  List.filter_cons_of_neg (by simpa using ⟨value, h⟩)

theorem own_own (args : List String) : own (own args) = own args :=
  List.filter_eq_self.mpr fun _ hmem => (List.mem_filter.mp hmem).2

theorem not_isLogPath_of_mem_own (h : arg ∈ own args) : ¬∃ value, IsLogPath arg value := by
  simpa using (List.mem_filter.mp h).2

theorem parse_eq (args : List String) : parse args = ⟨(parse args).logPath, own args⟩ := by
  rw [← forwarded_parse]

theorem parse_congr (hown : own xs = own ys) (hpath : (parse xs).logPath = (parse ys).logPath) :
    parse xs = parse ys := by
  rw [parse_eq xs, parse_eq ys, hown, hpath]

theorem LastLogPath.append_left (h : LastLogPath ys value) (xs : List String) :
    LastLogPath (xs ++ ys) value := by
  obtain ⟨before, arg, after, rfl, hvalue, hafter⟩ := h
  exact ⟨xs ++ before, arg, after, (List.append_assoc ..).symm, hvalue, hafter⟩

theorem logPath_parse_append (h : ∃ arg ∈ ys, ∃ value, IsLogPath arg value) (xs : List String) :
    (parse (xs ++ ys)).logPath = (parse ys).logPath := by
  rcases exists_lastLogPath ys with ⟨value, hlast⟩ | hnone
  · rw [(hlast.append_left xs).logPath_parse, hlast.logPath_parse]
  · obtain ⟨arg, hmem, hpath⟩ := h
    exact absurd hpath (hnone arg hmem)

theorem parse_superseded (harg : IsLogPath arg value)
    (hlater : ∃ later ∈ after, ∃ value, IsLogPath later value) (before : List String) :
    parse (before ++ arg :: after) = parse (before ++ after) := by
  refine parse_congr ?_ ?_
  · rw [own_append, own_append, own_cons_of_isLogPath harg]
  · rw [List.append_cons, logPath_parse_append hlater, logPath_parse_append hlater]

theorem parse_own (args : List String) : parse (own args) = ⟨.none, own args⟩ := by
  rw [parse_eq (own args), own_own, logPath_parse_of_none fun _ hmem => not_isLogPath_of_mem_own hmem]

/-- How argument lists are split. No cut by byte offsets is a fault. A log path argument is one that goes on
with the eight characters of the key, in either case, behind its blanks. All others are forwarded as they are
and in their order, and the log path is that of the last log path argument, however bad. So two lists split
as their parts do, the log path being that of the second part if it has such an argument; one with another
behind it could be missing or have any value; and what is forwarded is forwarded again as it is. -/
theorem splits_off_log_paths :
    (∀ args, parseSliced none args = .value (parse args)) ∧
    (∀ arg value, (logPathValue? arg = some value ↔ IsLogPath arg value) ∧
      (IsLogPath arg value ↔ ∃ key, Text.trimStart arg.toList = key ++ value ∧ key.length = 8 ∧
        key.map Char.toLower = logPathKey)) ∧
    (∀ args, (parse args).forwarded = args.filter fun arg => ¬∃ value, IsLogPath arg value) ∧
    (∀ args, (∀ arg ∈ args, ¬∃ value, IsLogPath arg value) → (parse args).logPath = Option.none) ∧
    (∀ args value, LastLogPath args value → (parse args).logPath = cleanPath value) ∧
    (∀ xs ys, (parse (xs ++ ys)).forwarded = (parse xs).forwarded ++ (parse ys).forwarded) ∧
    (∀ xs ys, (parse (xs ++ ys)).logPath =
      if ∃ arg ∈ ys, ∃ value, IsLogPath arg value then (parse ys).logPath else (parse xs).logPath) ∧
    (∀ before arg after value, IsLogPath arg value →
      (∃ later ∈ after, ∃ value, IsLogPath later value) →
      parse (before ++ arg :: after) = parse (before ++ after) ∧
      ∀ arg' value', IsLogPath arg' value' →
        parse (before ++ arg' :: after) = parse (before ++ arg :: after)) ∧
    ∀ args, parse (parse args).forwarded = ⟨.none, (parse args).forwarded⟩ := by
  refine ⟨parseSliced_eq none, fun arg value => ⟨logPathValue?_eq_some_iff, ?_⟩, forwarded_parse,
    fun args => logPath_parse_of_none, fun args value => LastLogPath.logPath_parse, ?_, ?_, ?_, ?_⟩
  · rw [isLogPath_iff_trimStart]
    constructor
    · rintro ⟨key, htrim, hkey⟩
      refine ⟨key, htrim, ?_, hkey⟩
      rw [← List.length_map Char.toLower, hkey]
      rfl
    · rintro ⟨key, htrim, -, hkey⟩
      exact ⟨key, htrim, hkey⟩
  · intro xs ys
    rw [forwarded_parse, forwarded_parse, forwarded_parse, own_append]
  · intro xs ys
    split
    · rename_i hpath
      exact logPath_parse_append hpath xs
    · rename_i hnone
      rw [parse, List.foldl_append]
      exact logPath_foldl _ fun arg hmem hpath => hnone ⟨arg, hmem, hpath⟩
  · intro before arg after value harg hlater
    refine ⟨parse_superseded harg hlater before, fun arg' value' harg' => ?_⟩
    rw [parse_superseded harg hlater, parse_superseded harg' hlater]
  · intro args
    rw [forwarded_parse, parse_own]

theorem splits_off_log_paths_mixed :
    let args := ["-v", "\tLogPath=/first", "logpath€", "LOGPATH=\""]
    IsLogPath "\tLogPath=/first" "/first".toList ∧
      (∃ later ∈ ["logpath€", "LOGPATH=\""], ∃ value, IsLogPath later value) ∧
      parse args = parse ["-v", "logpath€", "LOGPATH=\""] ∧
      parse args = ⟨.none, ["-v", "logpath€"]⟩ ∧ parseSliced none args = .value (parse args) := by
  intro args
  have hfirst : IsLogPath "\tLogPath=/first" "/first".toList :=
    logPathValue?_eq_some_iff.mp (by decide +kernel)
  have hlater : ∃ later ∈ ["logpath€", "LOGPATH=\""], ∃ value, IsLogPath later value := by
    refine ⟨"LOGPATH=\"", by simp, ['"'], logPathValue?_eq_some_iff.mp ?_⟩
    decide +kernel
  obtain ⟨hsliced, -, -, -, -, -, -, hsuperseded, -⟩ := splits_off_log_paths
  exact ⟨hfirst, hlater, (hsuperseded ["-v"] _ _ _ hfirst hlater).1, by decide +kernel, hsliced args⟩

end SessionBridge.ServiceArgs
