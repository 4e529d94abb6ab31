import SessionBridge.Transcript.Log

/-! The transcript as a dense log. Every entry is stored under its position, with everything else as it
came, and nothing that was stored is touched again; so the entries behind a position are those with a
sequence number from there on, and a reader who counts what it gets misses nothing and sees nothing
twice. -/
namespace SessionBridge.Transcript

variable {t t' t'' : Transcript}

/-! ### Storing -/

def storeAll (t : Transcript) : List Entry → List Entry × Transcript
  | [] => ([], t)
  | e :: entries =>
    let (stored, t) := t.store e
    let (rest, t) := t.storeAll entries
    (stored :: rest, t)

@[simp] theorem storeAll_nil (t : Transcript) : t.storeAll [] = ([], t) := rfl

theorem storeAll_cons (t : Transcript) (e : Entry) (entries : List Entry) :
    t.storeAll (e :: entries) =
      (t.place e.toLine :: ((t.append e.toLine).storeAll entries).1,
        ((t.append e.toLine).storeAll entries).2) := rfl

theorem storeAll_append (t : Transcript) (first second : List Entry) :
    t.storeAll (first ++ second) =
      ((t.storeAll first).1 ++ ((t.storeAll first).2.storeAll second).1,
        ((t.storeAll first).2.storeAll second).2) := by
  induction first generalizing t with
  | nil => rfl
  | cons e first ih => simp [storeAll_cons, ih]

theorem toList_storeAll (t : Transcript) (entries : List Entry) :
    (t.storeAll entries).2.toList = t.toList ++ (t.storeAll entries).1 := by
  induction entries generalizing t with
  | nil => simp
  | cons e entries ih => simp [storeAll_cons, ih]

theorem toLine_storeAll (t : Transcript) (entries : List Entry) :
    (t.storeAll entries).1.map Entry.toLine = entries.map Entry.toLine := by
  induction entries generalizing t with
  | nil => rfl
  | cons e entries ih => simp [storeAll_cons, ih, place]

/-! ### Positions -/

/-- Every entry has its position as its sequence number. -/
def Dense (t : Transcript) : Prop :=
  ∀ (i : Nat) (e : Entry), t.toList[i]? = some e → e.sequence = i

theorem dense_empty : empty.Dense := by
  intro i e he
  simp at he

theorem Dense.append (h : t.Dense) (line : Line) : (t.append line).Dense := by
  intro i e he
  rw [toList_append, List.getElem?_append, length_toList] at he
  by_cases hi : i < t.size
  · rw [if_pos hi] at he
    exact h i e he
  · rw [if_neg hi, List.getElem?_singleton, Option.ite_none_right_eq_some, Option.some.injEq] at he
    obtain ⟨hend, rfl⟩ := he
    change t.size = i
    omega

theorem Dense.storeAll (h : t.Dense) (entries : List Entry) : (t.storeAll entries).2.Dense := by
  induction entries generalizing t with
  | nil => exact h
  | cons e entries ih => exact ih (h.append e.toLine)

theorem dense_start (now : Timestamp) (opened : String) : (start now opened).Dense :=
  dense_empty.append _

theorem Dense.since_eq_filter (h : t.Dense) (position : Nat) :
    t.since position = t.toList.filter (position ≤ ·.sequence) := by
  have hbefore : (t.toList.take position).filter (position ≤ ·.sequence) = [] := by
    rw [List.filter_eq_nil_iff]
    intro e hmem
    obtain ⟨i, hi, rfl⟩ := List.mem_take_iff_getElem.mp hmem
    have hsequence := h i _ (List.getElem?_eq_getElem (by omega))
    rw [hsequence, decide_eq_true_eq]
    omega
  have hbehind : (t.toList.drop position).filter (position ≤ ·.sequence) =
      t.toList.drop position := by
    rw [List.filter_eq_self]
    intro e hmem
    obtain ⟨i, hi, rfl⟩ := List.mem_drop_iff_getElem.mp hmem
    have hsequence := h (position + i) _ (List.getElem?_eq_getElem (by omega))
    rw [hsequence, decide_eq_true_eq]
    omega
  calc t.since position
      = (t.toList.take position ++ t.toList.drop position).filter (position ≤ ·.sequence) := by
        rw [List.filter_append, hbefore, hbehind, List.nil_append]
        rfl
    _ = t.toList.filter (position ≤ ·.sequence) := by rw [List.take_append_drop]

/-! ### Growth -/

def Extends (t t' : Transcript) : Prop :=
  ∃ entries, t' = (t.storeAll entries).2

theorem Extends.refl (t : Transcript) : t.Extends t :=
  ⟨[], rfl⟩

theorem Extends.trans (h : t.Extends t') (h' : t'.Extends t'') : t.Extends t'' := by
  obtain ⟨entries, rfl⟩ := h
  obtain ⟨entries', rfl⟩ := h'
  exact ⟨entries ++ entries', by rw [storeAll_append]⟩

theorem extends_append (t : Transcript) (line : Line) : t.Extends (t.append line) :=
  ⟨[⟨line, 0⟩], rfl⟩

theorem extends_of_begins {earlier later : List Entry} (h : earlier <+: later) (t : Transcript) :
    (t.storeAll earlier).2.Extends (t.storeAll later).2 := by
  obtain ⟨between, rfl⟩ := h
  exact ⟨between, by rw [storeAll_append]⟩

theorem Extends.toList (h : t.Extends t') : t.toList <+: t'.toList := by
  obtain ⟨entries, rfl⟩ := h
  rw [toList_storeAll]
  exact List.prefix_append _ _

theorem Extends.since (h : t.Extends t') (position : Nat) :
    t.since position <+: t'.since position := by
  obtain ⟨entries, rfl⟩ := h
  unfold Transcript.since
  rw [toList_storeAll, List.drop_append]
  exact List.prefix_append _ _

theorem Extends.dense (h : t.Extends t') (hdense : t.Dense) : t'.Dense := by
  obtain ⟨entries, rfl⟩ := h
  exact hdense.storeAll entries

/-! ### Reading on -/

/-- What a reader has been given that started at the position `first`. It asks for the entries behind
its cursor whenever it likes, and moves the cursor by as many as it gets. -/
inductive Followed (first : Nat) : Transcript → Nat → List Entry → Prop where
  | opened (t : Transcript) : Followed first t first []
  | grown {t t' : Transcript} {cursor : Nat} {given : List Entry} (h : Followed first t cursor given)
      (hextends : t.Extends t') : Followed first t' cursor given
  | polled {t : Transcript} {cursor : Nat} {given : List Entry} (h : Followed first t cursor given) :
      Followed first t (cursor + (t.since cursor).length) (given ++ t.since cursor)

variable {first cursor : Nat} {given : List Entry}

theorem append_since_of_begins (h : given <+: t.since first) :
    given ++ t.since (first + given.length) = t.since first := by
  unfold since at h ⊢
  rw [← List.drop_drop]
  exact (List.prefix_iff_eq_append.mp h).symm ▸ rfl

theorem Followed.position (h : t.Followed first cursor given) :
    cursor = first + given.length ∧ given <+: t.since first := by
  induction h with
  | opened t => exact ⟨rfl, List.nil_prefix⟩
  | grown h hextends ih => exact ⟨ih.1, ih.2.trans (hextends.since first)⟩
  | @polled t cursor given h ih =>
    obtain ⟨rfl, hgiven⟩ := ih
    refine ⟨?_, ?_⟩
    · rw [List.length_append, Nat.add_assoc]
    · have hall := append_since_of_begins hgiven
      exact ⟨[], by rw [hall, List.append_nil]⟩

theorem Followed.complete (h : t.Followed first cursor given) (hdense : t.Dense) :
    given ++ t.since cursor = t.toList.filter (first ≤ ·.sequence) := by
  obtain ⟨rfl, hgiven⟩ := h.position
  rw [append_since_of_begins hgiven, hdense.since_eq_filter]

/-- Appends and polls in any order: an entry is stored, and where there is none the reader polls. Gives
the batches that the reader gets. -/
def follow (t : Transcript) (cursor : Nat) : List (Option Entry) → List (List Entry) × Transcript
  | [] => ([], t)
  | some e :: turns => (t.store e).2.follow cursor turns
  | none :: turns =>
    let (batches, t') := t.follow (cursor + (t.since cursor).length) turns
    (t.since cursor :: batches, t')

theorem follow_nil (t : Transcript) (cursor : Nat) : t.follow cursor [] = ([], t) := rfl

theorem follow_store (t : Transcript) (cursor : Nat) (e : Entry) (turns : List (Option Entry)) :
    t.follow cursor (some e :: turns) = (t.append e.toLine).follow cursor turns := rfl

theorem follow_poll (t : Transcript) (cursor : Nat) (turns : List (Option Entry)) :
    t.follow cursor (none :: turns) =
      (t.since cursor :: (t.follow (cursor + (t.since cursor).length) turns).1,
        (t.follow (cursor + (t.since cursor).length) turns).2) := rfl

/-- Polls miss nothing that the appends between them store: the last one makes the batches complete. -/
theorem Followed.flatten_follow (h : t.Followed first cursor given) (hdense : t.Dense)
    (turns : List (Option Entry)) :
    given ++ (t.follow cursor (turns ++ [none])).1.flatten =
      (t.follow cursor (turns ++ [none])).2.toList.filter (first ≤ ·.sequence) := by
  induction turns generalizing t cursor given with
  | nil =>
    rw [List.nil_append, follow_poll, follow_nil, List.flatten_singleton]
    exact h.complete hdense
  | cons turn turns ih =>
    cases turn with
    | some e =>
      rw [List.cons_append, follow_store]
      exact ih (h.grown (extends_append t e.toLine)) (hdense.append e.toLine)
    | none =>
      rw [List.cons_append, follow_poll, List.flatten_cons, ← List.append_assoc]
      exact ih h.polled hdense

end SessionBridge.Transcript
