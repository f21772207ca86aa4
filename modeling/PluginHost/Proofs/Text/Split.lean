import PluginHost.Text.Blank

namespace PluginHost.Text

variable {separator : Char} {s piece : String} {pieces : List String}

/-- The splitting is that of the library, whose laws then apply. -/
theorem splitAt_eq (separator : Char) (cs : List Char) : splitAt separator cs = cs.splitOn separator := by
  induction cs with
  | nil => rfl
  | cons c rest ih =>
    obtain ⟨first, more, whole⟩ := List.exists_cons_of_ne_nil (List.splitOn_ne_nil separator rest)
    rw [splitAt, ih, List.splitOn_cons_eq_if_modifyHead, whole]
    simp

theorem notMem_of_mem_splitAt {cs part : List Char} (member : part ∈ splitAt separator cs) : separator ∉ part := by
  induction cs generalizing part with
  | nil =>
    obtain rfl : part = [] := by simpa [splitAt] using member
    exact List.not_mem_nil
  | cons c rest ih =>
    rw [splitAt] at member
    split at member
    · rcases List.mem_cons.mp member with rfl | later
      · exact List.not_mem_nil
      · exact ih later
    · rename_i other
      split at member
      · obtain rfl := List.mem_singleton.mp member
        simpa using Ne.symm other
      · rename_i first more whole
        rcases List.mem_cons.mp member with rfl | later
        · simpa [Ne.symm other] using ih (whole ▸ List.mem_cons_self)
        · exact ih (whole ▸ List.mem_cons_of_mem _ later)

theorem split_ne_nil (separator : Char) (s : String) : split separator s ≠ [] := by
  simp [split, splitAt_eq, List.splitOn_ne_nil]

theorem notMem_of_mem_split (member : piece ∈ split separator s) : separator ∉ piece.toList := by
  obtain ⟨part, there, rfl⟩ := List.mem_map.mp member
  simpa using notMem_of_mem_splitAt there

theorem toList_split (separator : Char) (s : String) :
    (split separator s).map String.toList = s.toList.splitOn separator := by
  simp [split, splitAt_eq, Function.comp_def]

theorem intercalate_split (separator : Char) (s : String) :
    (String.singleton separator).intercalate (split separator s) = s := by
  rw [← String.toList_inj, String.toList_intercalate, toList_split, String.toList_singleton,
    List.intercalate_splitOn]

/-- Joining plain pieces and splitting again gives the pieces back; no pieces at all is the one exception. -/
theorem split_intercalate (nonempty : pieces ≠ []) (plain : ∀ piece ∈ pieces, separator ∉ piece.toList) :
    split separator ((String.singleton separator).intercalate pieces) = pieces := by
  have apart : ∀ part ∈ pieces.map String.toList, separator ∉ part := by
    simpa using plain
  rw [split, splitAt_eq, String.toList_intercalate, String.toList_singleton,
    List.splitOn_intercalate separator apart (by simpa using nonempty)]
  simp [Function.comp_def]

/-- The pieces are the only plain ones that join to the text. -/
theorem split_eq_iff : split separator s = pieces ↔ pieces ≠ [] ∧ (∀ piece ∈ pieces, separator ∉ piece.toList) ∧
    (String.singleton separator).intercalate pieces = s := by
  constructor
  · rintro rfl
    exact ⟨split_ne_nil separator s, fun _ => notMem_of_mem_split, intercalate_split separator s⟩
  · rintro ⟨nonempty, plain, rfl⟩
    exact split_intercalate nonempty plain

theorem split_of_append (before after : List Char) (whole : s.toList = before ++ separator :: after) :
    split separator s = split separator (.ofList before) ++ split separator (.ofList after) := by
  simp [split, splitAt_eq, whole, List.splitOn_append_cons_self]

theorem split_of_notMem (plain : separator ∉ s.toList) : split separator s = [s] := by
  rw [split, splitAt_eq, List.splitOn_eq_singleton plain]
  simp

/-- Where a piece stands in a text: behind a separator or at the start, and before one or at the end. -/
theorem mem_split_iff : piece ∈ split separator s ↔ separator ∉ piece.toList ∧ ∃ before after : List Char,
    s.toList = before ++ piece.toList ++ after ∧ (before = [] ∨ before.getLast? = some separator) ∧
      (after = [] ∨ after.head? = some separator) := by
  constructor
  · intro member
    refine ⟨notMem_of_mem_split member, ?_⟩
    obtain ⟨earlier, later, whole⟩ := List.append_of_mem member
    have joined := congrArg String.toList (intercalate_split separator s)
    rw [whole] at joined
    have front : ∃ before : List Char, (before = [] ∨ before.getLast? = some separator) ∧ s.toList =
        before ++ ((String.singleton separator).intercalate (piece :: later)).toList := by
      by_cases first : earlier = []
      · exact ⟨[], .inl rfl, by simp [← joined, first]⟩
      · refine ⟨((String.singleton separator).intercalate earlier).toList ++ [separator], .inr (by simp), ?_⟩
        rw [← joined, String.intercalate_append_of_ne_nil first (List.cons_ne_nil _ _)]
        simp
    have back : ∃ after : List Char, (after = [] ∨ after.head? = some separator) ∧
        ((String.singleton separator).intercalate (piece :: later)).toList = piece.toList ++ after := by
      by_cases last : later = []
      · exact ⟨[], .inl rfl, by simp [last]⟩
      · refine ⟨separator :: ((String.singleton separator).intercalate later).toList, .inr rfl, ?_⟩
        rw [String.intercalate_cons_of_ne_nil last]
        simp
    obtain ⟨before, bounded, front⟩ := front
    obtain ⟨after, bounded', back⟩ := back
    exact ⟨before, after, by rw [front, back, List.append_assoc], bounded, bounded'⟩
  · rintro ⟨plain, before, after, whole, bounded, bounded'⟩
    -- what follows the piece is split apart from it, and so is what precedes it
    have here : ∀ rest : List Char, rest = piece.toList ++ after → piece ∈ split separator (.ofList rest) := by
      rintro rest rfl
      rcases bounded' with rfl | next
      · simp [split_of_notMem plain]
      · obtain ⟨more, rfl⟩ : ∃ more, after = separator :: more := List.head?_eq_some_iff.mp next
        rw [split_of_append piece.toList more (by simp), String.ofList_toList,
          split_of_notMem plain]
        exact List.mem_append_left _ (List.mem_singleton_self _)
    rcases bounded with rfl | previous
    · have found := here s.toList (by simpa using whole)
      rwa [String.ofList_toList] at found
    · obtain ⟨first, rfl⟩ := List.getLast?_eq_some_iff.mp previous
      rw [split_of_append first (piece.toList ++ after) (by simpa using whole)]
      exact List.mem_append_right _ (here _ rfl)

end PluginHost.Text
