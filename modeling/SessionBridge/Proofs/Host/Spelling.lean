import Mathlib.Data.List.DropRight
import SessionBridge.Proofs.Host.LogPath

/-! How a log path may be spelled. Blanks, any number of double quotes and blanks again may stand on
either side of it, balanced or not; inside it blanks are its own. Every value that gives a log path is
such a spelling, and of one path only. -/
namespace SessionBridge

/-! ### Stripping -/

namespace Text

variable {p : Char → Bool} {cs middle front back : List Char} {c : Char}

theorem strip_eq (p : Char → Bool) (cs : List Char) : strip p cs = (cs.dropWhile p).rdropWhile p :=
  rfl

theorem exists_strip (p : Char → Bool) (cs : List Char) :
    ∃ front back, cs = front ++ strip p cs ++ back ∧ (∀ c ∈ front, p c = true) ∧
      ∀ c ∈ back, p c = true := by
  refine ⟨cs.takeWhile p, (cs.dropWhile p).rtakeWhile p, ?_, ?_, ?_⟩
  · rw [strip_eq, List.append_assoc, List.rdropWhile_append_rtakeWhile,
      List.takeWhile_append_dropWhile]
  · exact fun c => List.mem_takeWhile_imp
  · exact fun c => List.mem_rtakeWhile_imp

theorem head?_strip (h : (strip p cs).head? = some c) : p c = false := by
  have hdropped : (cs.dropWhile p).head? = some c := by
    obtain ⟨back, hback⟩ := List.rdropWhile_prefix p (cs.dropWhile p)
    rw [← hback, ← strip_eq, List.head?_append, h, Option.some_or]
  have hnot := List.head?_dropWhile_not p cs
  rw [hdropped] at hnot
  exact hnot

theorem getLast?_strip (h : (strip p cs).getLast? = some c) : p c = false := by
  obtain ⟨hne, rfl⟩ := List.mem_getLast?_eq_getLast h
  exact Bool.eq_false_iff.mpr (List.rdropWhile_last_not p _ hne)

theorem dropWhile_append_of_head (hne : middle ≠ []) (hhead : ∀ c, middle.head? = some c → p c = false)
    (front : List Char) : (front ++ middle).dropWhile p = front.dropWhile p ++ middle := by
  have hmiddle : middle.dropWhile p = middle := by
    obtain ⟨c, rest, rfl⟩ := List.exists_cons_of_ne_nil hne
    exact List.dropWhile_cons_of_neg (by simp [hhead c rfl])
  rw [List.dropWhile_append, hmiddle]
  split
  · rename_i hempty
    rw [List.isEmpty_iff.mp hempty, List.nil_append]
  · rfl

theorem rdropWhile_append_of_getLast (hne : middle ≠ [])
    (hlast : ∀ c, middle.getLast? = some c → p c = false) (back : List Char) :
    (middle ++ back).rdropWhile p = middle ++ back.rdropWhile p := by
  have hreversed := dropWhile_append_of_head (p := p) (List.reverse_ne_nil_iff.mpr hne)
    (by simpa using hlast) back.reverse
  unfold List.rdropWhile
  rw [List.reverse_append, hreversed, List.reverse_append, List.reverse_reverse]

theorem strip_append (hne : middle ≠ []) (hhead : ∀ c, middle.head? = some c → p c = false)
    (hlast : ∀ c, middle.getLast? = some c → p c = false) (front back : List Char) :
    strip p (front ++ middle ++ back) = front.dropWhile p ++ middle ++ back.rdropWhile p := by
  have hrest : ∀ c, (middle ++ back).head? = some c → p c = false := by
    intro c hc
    rw [List.head?_append_of_ne_nil _ hne] at hc
    exact hhead c hc
  rw [strip_eq, List.append_assoc,
    dropWhile_append_of_head (List.append_ne_nil_of_left_ne_nil hne back) hrest,
    ← List.append_assoc]
  refine rdropWhile_append_of_getLast (List.append_ne_nil_of_right_ne_nil _ hne) ?_ back
  intro c hc
  rw [List.getLast?_append_of_ne_nil _ hne] at hc
  exact hlast c hc

end Text

namespace ServiceArgs

/-! ### Spellings -/

/-- What may stand beside a path: blanks, double quotes and blanks again. -/
def IsMargin (cs : List Char) : Prop :=
  ∃ outer quotes inner, cs = outer ++ quotes ++ inner ∧ (∀ c ∈ outer, Text.isBlank c = true) ∧
    (∀ c ∈ quotes, c = '"') ∧ ∀ c ∈ inner, Text.isBlank c = true

/-- A path that can be spelled: there is something of it, no double quote is in it, and it has no
blanks at its ends. -/
structure IsPath (path : List Char) : Prop where
  nonempty : path ≠ []
  quoteless : '"' ∉ path
  head : ∀ c, path.head? = some c → Text.isBlank c = false
  last : ∀ c, path.getLast? = some c → Text.isBlank c = false

def Spells (value path : List Char) : Prop :=
  IsPath path ∧ ∃ before after, value = before ++ path ++ after ∧ IsMargin before ∧ IsMargin after

def peel (front : List Char) : List Char :=
  ((front.dropWhile Text.isBlank).dropWhile isQuote).dropWhile Text.isBlank

variable {cs path value front back : List Char}

theorem isMargin_nil : IsMargin [] :=
  ⟨[], [], [], rfl, nofun, nofun, nofun⟩

theorem IsMargin.reverse (h : IsMargin cs) : IsMargin cs.reverse := by
  obtain ⟨outer, quotes, inner, rfl, houter, hquotes, hinner⟩ := h
  refine ⟨inner.reverse, quotes.reverse, outer.reverse, ?_, ?_, ?_, ?_⟩
  · simp
  · simpa using hinner
  · simpa using hquotes
  · simpa using houter

theorem IsMargin.peel_eq (h : IsMargin cs) : peel cs = [] := by
  obtain ⟨outer, quotes, inner, rfl, houter, hquotes, hinner⟩ := h
  -- After the quotes at most blanks are left, of which the last trimming takes care.
  have hrest : ((quotes ++ inner).dropWhile Text.isBlank).dropWhile isQuote ⊆ inner := by
    rcases quotes with _ | ⟨q, quotes⟩
    · exact ((List.dropWhile_sublist _).trans (List.dropWhile_sublist _)).subset
    · have hquote : ¬Text.isBlank q = true := by
        rw [hquotes q List.mem_cons_self]
        decide
      have hdropped : ∀ c ∈ q :: quotes, isQuote c = true := fun c hc => beq_iff_eq.mpr (hquotes c hc)
      rw [List.cons_append, List.dropWhile_cons_of_neg hquote, ← List.cons_append,
        List.dropWhile_append_of_pos hdropped]
      exact (List.dropWhile_sublist _).subset
  unfold peel
  rw [List.append_assoc, List.dropWhile_append_of_pos houter]
  exact List.dropWhile_eq_nil_iff.mpr fun c hc => hinner c (hrest hc)

theorem rdropWhile_peel (back : List Char) :
    ((back.rdropWhile Text.isBlank).rdropWhile isQuote).rdropWhile Text.isBlank =
      (peel back.reverse).reverse := by
  unfold peel List.rdropWhile
  simp only [List.reverse_reverse]

theorem IsPath.head_not_quote (h : IsPath path) :
    ∀ c, path.head? = some c → isQuote c = false := by
  intro c hc
  refine beq_eq_false_iff_ne.mpr ?_
  rintro rfl
  exact h.quoteless (List.mem_of_mem_head? hc)

theorem IsPath.last_not_quote (h : IsPath path) :
    ∀ c, path.getLast? = some c → isQuote c = false := by
  intro c hc
  refine beq_eq_false_iff_ne.mpr ?_
  rintro rfl
  exact h.quoteless (List.mem_of_getLast? hc)

theorem IsPath.unquoted_append (h : IsPath path) (front back : List Char) :
    unquoted (front ++ path ++ back) = peel front ++ path ++ (peel back.reverse).reverse := by
  unfold ServiceArgs.unquoted Text.trim
  rw [Text.strip_append h.nonempty h.head h.last,
    Text.strip_append h.nonempty h.head_not_quote h.last_not_quote,
    Text.strip_append h.nonempty h.head h.last, rdropWhile_peel]
  rfl

theorem Spells.unquoted_eq (h : Spells value path) : unquoted value = path := by
  obtain ⟨hpath, before, after, rfl, hbefore, hafter⟩ := h
  rw [hpath.unquoted_append, hbefore.peel_eq, hafter.reverse.peel_eq, List.reverse_nil,
    List.nil_append, List.append_nil]

theorem exists_margins (value : List Char) :
    ∃ before after, value = before ++ unquoted value ++ after ∧ IsMargin before ∧ IsMargin after := by
  obtain ⟨outer, outer', houter, hblank, hblank'⟩ := Text.exists_strip Text.isBlank value
  obtain ⟨quotes, quotes', hquotes, hquote, hquote'⟩ :=
    Text.exists_strip isQuote (Text.strip Text.isBlank value)
  obtain ⟨inner, inner', hinner, hpad, hpad'⟩ :=
    Text.exists_strip Text.isBlank (Text.strip isQuote (Text.strip Text.isBlank value))
  refine ⟨outer ++ quotes ++ inner, inner' ++ quotes' ++ outer', ?_,
    ⟨outer, quotes, inner, rfl, hblank, fun c hc => beq_iff_eq.mp (hquote c hc), hpad⟩,
    ⟨inner', quotes', outer', rfl, hpad', fun c hc => beq_iff_eq.mp (hquote' c hc), hblank'⟩⟩
  calc value = outer ++ Text.strip Text.isBlank value ++ outer' := houter
    _ = outer ++ (quotes ++ Text.strip isQuote (Text.strip Text.isBlank value) ++ quotes') ++
        outer' := by rw [← hquotes]
    _ = outer ++ (quotes ++ (inner ++ unquoted value ++ inner') ++ quotes') ++ outer' := by
        rw [unquoted, Text.trim, Text.trim, ← hinner]
    _ = _ := by simp only [List.append_assoc]

theorem isPath_unquoted (hne : unquoted value ≠ []) (hquote : '"' ∉ unquoted value) :
    IsPath (unquoted value) where
  nonempty := hne
  quoteless := hquote
  head _ := Text.head?_strip
  last _ := Text.getLast?_strip

theorem cleanPath_of_isPath (h : IsPath (unquoted value)) :
    cleanPath value = some (String.ofList (unquoted value)) := by
  unfold cleanPath isMalformed isQuote
  rw [if_neg]
  simp [h.nonempty, h.quoteless]

theorem cleanPath_eq_some_iff {path : String} :
    cleanPath value = some path ↔ Spells value path.toList := by
  constructor
  · intro h
    have hgood : ¬(unquoted value = [] ∨ '"' ∈ unquoted value) := by
      rw [← cleanPath_eq_none_iff, h]
      nofun
    obtain ⟨hne, hquote⟩ := not_or.mp hgood
    have hpath := isPath_unquoted hne hquote
    rw [cleanPath_of_isPath hpath] at h
    rw [← Option.some.inj h, String.toList_ofList]
    exact ⟨hpath, exists_margins value⟩
  · intro h
    have hpath : IsPath (unquoted value) := by
      rw [h.unquoted_eq]
      exact h.1
    rw [cleanPath_of_isPath hpath, h.unquoted_eq, String.ofList_toList]

theorem IsPath.spells (h : IsPath path) : Spells path path :=
  ⟨h, [], [], by simp, isMargin_nil, isMargin_nil⟩

theorem Spells.unique {path' : List Char} (h : Spells value path) (h' : Spells value path') :
    path = path' :=
  h.unquoted_eq.symm.trans h'.unquoted_eq

theorem cleanPath_eq_none_iff_not_spells : cleanPath value = Option.none ↔ ¬∃ path, Spells value path := by
  rw [← Option.not_isSome_iff_eq_none, Option.isSome_iff_exists, not_iff_not]
  simp only [cleanPath_eq_some_iff]
  constructor
  · rintro ⟨path, h⟩
    exact ⟨_, h⟩
  · rintro ⟨path, h⟩
    exact ⟨String.ofList path, by rwa [String.toList_ofList]⟩

/-- What a log path argument gives. If its value spells a path, between margins of any form, it gives
exactly this path; if it spells none, it gives none; and no value spells two. A path that was given
spells itself, so to clean it once more changes nothing. -/
theorem log_paths_are_spelled :
    (∀ args value, LastLogPath args value →
      (∀ path : String, (parse args).logPath = some path ↔ Spells value path.toList) ∧
      ((parse args).logPath = Option.none ↔ ¬∃ path, Spells value path)) ∧
    (∀ value path path', Spells value path → Spells value path' → path = path') ∧
    ∀ value path, cleanPath value = some path →
      Spells path.toList path.toList ∧ cleanPath path.toList = some path := by
  refine ⟨?_, fun value path path' => Spells.unique, ?_⟩
  · intro args value hlast
    rw [hlast.logPath_parse]
    exact ⟨fun path => cleanPath_eq_some_iff, cleanPath_eq_none_iff_not_spells⟩
  · intro value path hclean
    have hspells : Spells path.toList path.toList := (cleanPath_eq_some_iff.mp hclean).1.spells
    exact ⟨hspells, cleanPath_eq_some_iff.mpr hspells⟩

theorem log_paths_are_spelled_unbalanced :
    let value := " \"\"\u3000/srv/bus logs\t\" ".toList
    let args := ["-v", "LogPath= \"\"\u3000/srv/bus logs\t\" "]
    LastLogPath args value ∧ Spells value "/srv/bus logs".toList ∧
      (parse args).logPath = some "/srv/bus logs" ∧
      cleanPath "/srv/bus logs".toList = some "/srv/bus logs" := by
  intro value args
  have hvalue : IsLogPath "LogPath= \"\"\u3000/srv/bus logs\t\" " value :=
    logPathValue?_eq_some_iff.mp (by decide +kernel)
  have hlast : LastLogPath args value := ⟨["-v"], _, [], rfl, hvalue, nofun⟩
  have hpath : IsPath "/srv/bus logs".toList :=
    ⟨by decide, by decide, fun c hc => by cases hc; decide, fun c hc => by cases hc; decide⟩
  have hspells : Spells value "/srv/bus logs".toList :=
    ⟨hpath, [' ', '"', '"', '\u3000'], ['\t', '"', ' '], by decide +kernel,
      ⟨[' '], ['"', '"'], ['\u3000'], rfl, List.forall_mem_singleton.mpr rfl, by simp,
        List.forall_mem_singleton.mpr rfl⟩,
      ⟨['\t'], ['"'], [' '], rfl, List.forall_mem_singleton.mpr rfl, by simp,
        List.forall_mem_singleton.mpr rfl⟩⟩
  obtain ⟨hgives, -, hagain⟩ := log_paths_are_spelled
  have hgiven := ((hgives args value hlast).1 "/srv/bus logs").mpr hspells
  refine ⟨hlast, hspells, hgiven, (hagain value _ ?_).2⟩
  exact hlast.logPath_parse.symm.trans hgiven

end ServiceArgs

end SessionBridge
