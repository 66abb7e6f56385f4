import MachineConfig.Text.Search

/-!
Splitting at separators. No part holds a separator (`not_mem_of_mem_splitAt`), and parts that hold
none, joined with the separator between them, are split into themselves (`splitAt_intercalate`).
At a separator a text can be split first (`splitAt_append`).
-/

namespace MachineConfig.Text

theorem splitChars_of_not_mem {sep : Char} {cs : List Char} (h : sep ∉ cs) :
    splitChars sep cs = [cs] := by
  induction cs with
  | nil => rfl
  | cons c cs ih =>
    rw [List.mem_cons, not_or] at h
    rw [splitChars, ih h.2]
    exact if_neg (Ne.symm h.1)

theorem splitAt_of_not_mem {sep : Char} {s : String} (h : sep ∉ s.toList) :
    splitAt sep s = [s] := by
  rw [splitAt, splitChars_of_not_mem h, List.map_singleton, String.ofList_toList]

theorem splitChars_ne_nil (sep : Char) (cs : List Char) : splitChars sep cs ≠ [] := by
  cases cs with
  | nil => exact List.cons_ne_nil _ _
  | cons c cs =>
    rw [splitChars]
    split
    · exact List.cons_ne_nil _ _
    · split <;> exact List.cons_ne_nil _ _

/-- No part between separators holds one. -/
theorem not_mem_of_mem_splitChars {sep : Char} {cs part : List Char}
    (h : part ∈ splitChars sep cs) : sep ∉ part := by
  induction cs generalizing part with
  | nil =>
    obtain rfl := List.mem_singleton.1 h
    exact List.not_mem_nil
  | cons c cs ih =>
    rw [splitChars] at h
    split at h
    · next hnil => exact (splitChars_ne_nil sep cs hnil).elim
    next first parts hparts =>
    rw [hparts] at ih
    split at h
    · rcases List.mem_cons.1 h with rfl | hmem
      · exact List.not_mem_nil
      · exact ih hmem
    · next hne =>
      rcases List.mem_cons.1 h with rfl | hmem
      · rw [List.mem_cons, not_or]
        exact ⟨Ne.symm hne, ih List.mem_cons_self⟩
      · exact ih (List.mem_cons_of_mem _ hmem)

theorem not_mem_of_mem_splitAt {sep : Char} {s part : String} (h : part ∈ splitAt sep s) :
    sep ∉ part.toList := by
  obtain ⟨cs, hcs, rfl⟩ := List.mem_map.1 h
  rw [String.toList_ofList]
  exact not_mem_of_mem_splitChars hcs

theorem splitChars_append_cons (sep : Char) (cs ds : List Char) :
    splitChars sep (cs ++ sep :: ds) = splitChars sep cs ++ splitChars sep ds := by
  induction cs with
  | nil =>
    rw [List.nil_append, splitChars]
    cases hparts : splitChars sep ds with
    | nil => exact (splitChars_ne_nil sep ds hparts).elim
    | cons part parts => simp [splitChars, hparts]
  | cons c cs ih =>
    rw [List.cons_append, splitChars, splitChars, ih]
    cases hparts : splitChars sep cs with
    | nil => exact (splitChars_ne_nil sep cs hparts).elim
    | cons part parts =>
      simp only [List.cons_append]
      split <;> rfl

/-- The parts of a text are those before one of its separators and those behind it. -/
theorem splitAt_append (sep : Char) (s t : String) :
    splitAt sep (s ++ String.singleton sep ++ t) = splitAt sep s ++ splitAt sep t := by
  rw [splitAt, String.toList_append, String.toList_append, String.toList_singleton,
    List.append_assoc, List.singleton_append, splitChars_append_cons, List.map_append]
  rfl

theorem splitChars_eq_splitOn (sep : Char) (cs : List Char) :
    splitChars sep cs = cs.splitOn sep := by
  induction cs with
  | nil => rfl
  | cons c cs ih =>
    rw [splitChars, ih, List.splitOn, List.splitOn, List.splitOnP_cons_eq_if_modifyHead]
    cases hparts : cs.splitOnP (· == sep) with
    | nil => exact (List.splitOnP_ne_nil _ _ hparts).elim
    | cons part parts => simp

/-- Parts that hold no separator, joined with it between them, are split into themselves. -/
theorem splitAt_intercalate {sep : Char} {parts : List String} (hne : parts ≠ [])
    (h : ∀ part ∈ parts, sep ∉ part.toList) :
    splitAt sep ((String.singleton sep).intercalate parts) = parts := by
  have hsplit : ([sep].intercalate (parts.map String.toList)).splitOn sep =
      parts.map String.toList := by
    refine List.splitOn_intercalate sep ?_ ?_
    · simpa using h
    · simpa using hne
  rw [splitAt, splitChars_eq_splitOn, String.toList_intercalate, String.toList_singleton, hsplit,
    List.map_map]
  simp

end MachineConfig.Text
