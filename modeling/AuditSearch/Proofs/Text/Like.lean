import AuditSearch.Proofs.Text.Bytes
import AuditSearch.Roles

/-!
Patterns that find a text anywhere, and what they find in a list with a separator at both ends: its pieces.
-/
namespace AuditSearch.Text

theorem afterTests_isSome (part : List Char) : ∀ text : List Char,
    (afterTests? (part.map sameLetter) text).isSome ↔ part.map Char.toLower <+: text.map Char.toLower := by
  induction part with
  | nil => simp [afterTests?]
  | cons p part ih =>
    intro text
    cases text with
    | nil => simp [afterTests?]
    | cons c text =>
      by_cases h : p.toLower = c.toLower
      · simp [afterTests?, sameLetter, h, ih, List.cons_prefix_cons]
      · simp [afterTests?, sameLetter, h, List.cons_prefix_cons]

theorem afterFirst_isSome (part text : List Char) :
    (afterFirst? (part.map sameLetter) text).isSome ↔ part.map Char.toLower <:+: text.map Char.toLower := by
  induction text with
  | nil => simp [afterFirst?, afterTests_isSome]
  | cons c text ih =>
    rw [afterFirst?, Option.isSome_or, Bool.or_eq_true, afterTests_isSome, ih, List.map_cons, List.infix_cons_iff]

theorem ofWildcards_run (ps : List Char) : Pattern.ofWildcards (some wildcardEscape) ('%' :: ps) =
    (Pattern.ofWildcards (some wildcardEscape) ps).afterRun := by
  rw [Pattern.ofWildcards.eq_def]
  simp [wildcardEscape]

theorem ofWildcards_escape (c : Char) (ps : List Char) :
    Pattern.ofWildcards (some wildcardEscape) (wildcardEscape :: c :: ps) =
      (Pattern.ofWildcards (some wildcardEscape) ps).afterOne (sameLetter c) := by
  rw [Pattern.ofWildcards.eq_def]
  simp

theorem ofWildcards_plain {c : Char} (h : ¬(c = '%' ∨ c = '_' ∨ c = wildcardEscape)) (ps : List Char) :
    Pattern.ofWildcards (some wildcardEscape) (c :: ps) =
      (Pattern.ofWildcards (some wildcardEscape) ps).afterOne (sameLetter c) := by
  have hplain : c ≠ '%' ∧ (c == '_') = false ∧ c ≠ wildcardEscape := by simpa [not_or] using h
  rw [Pattern.ofWildcards.eq_def]
  simp [hplain]

/-- Characters that are escaped are tested one after the other. -/
theorem ofWildcards_escaped (part ps : List Char) :
    Pattern.ofWildcards (some wildcardEscape) (escapeWildcards part ++ ps) =
      { Pattern.ofWildcards (some wildcardEscape) ps with
        first := part.map sameLetter ++ (Pattern.ofWildcards (some wildcardEscape) ps).first } := by
  induction part with
  | nil => rfl
  | cons c part ih =>
    rw [escapeWildcards]
    split
    · rw [List.cons_append, List.cons_append, ofWildcards_escape, ih]
      rfl
    · rename_i hplain
      rw [List.cons_append, ofWildcards_plain hplain, ih]
      rfl

/-- A text is like a pattern with a wildcard at both ends if it contains what stands between them. -/
theorem isLike_containing (part text : List Char) :
    isLike (some wildcardEscape) ('%' :: escapeWildcards part ++ ['%']) text ↔
      part.map Char.toLower <:+: text.map Char.toLower := by
  rw [← afterFirst_isSome]
  have hpattern : Pattern.ofWildcards (some wildcardEscape) ('%' :: escapeWildcards part ++ ['%']) =
      ⟨[], [part.map sameLetter, []]⟩ := by
    have hbehind : Pattern.ofWildcards (some wildcardEscape) ['%'] = ⟨[], [[]]⟩ := rfl
    rw [List.cons_append, ofWildcards_run, ofWildcards_escaped, hbehind]
    simp [Pattern.afterRun]
  rw [isLike, hpattern]
  simp only [Pattern.covers, afterTests?, Pattern.coversRuns]
  cases afterFirst? (part.map sameLetter) text <;> simp

/-! ### Pieces -/

section
variable {separator : Char} {part : List Char}

theorem prefix_piece (h : separator ∉ part) (s : List Char) :
    part ++ [separator] <+: s ++ [separator] ↔ (s.splitOn separator).head? = some part := by
  induction s generalizing part with
  | nil =>
    cases part with
    | nil => simp
    | cons p part => simp [List.cons_prefix_cons]
  | cons c s ih =>
    rw [List.splitOn_cons_eq_if_modifyHead]
    cases part with
    | nil =>
      by_cases hc : c = separator
      · simp [hc, List.cons_prefix_cons]
      · cases s.splitOn separator <;> simp [hc, List.cons_prefix_cons, Ne.symm hc]
    | cons p part =>
      have hpart : separator ∉ part := fun hmem => h (List.mem_cons_of_mem p hmem)
      have hp : p ≠ separator := fun hp => h (by simp [hp])
      rw [List.cons_append, List.cons_append, List.cons_prefix_cons, ih hpart]
      by_cases hc : c = separator
      · simp [hc, hp]
      · cases s.splitOn separator <;> simp [hc, @eq_comm _ c]

theorem infix_piece (h : separator ∉ part) (s : List Char) :
    separator :: part ++ [separator] <:+: s ++ [separator] ↔ part ∈ (s.splitOn separator).tail := by
  induction s with
  | nil => simp [List.infix_cons_iff, List.cons_prefix_cons]
  | cons c s ih =>
    rw [show c :: s ++ [separator] = c :: (s ++ [separator]) from rfl, List.infix_cons_iff, ih, List.cons_append,
      List.cons_prefix_cons, prefix_piece h,
      List.splitOn_cons_eq_if_modifyHead]
    by_cases hc : c = separator
    · cases hsplit : s.splitOn separator with
      | nil => exact absurd hsplit (List.splitOn_ne_nil separator s)
      | cons first more => simp [hc, eq_comm]
    · cases s.splitOn separator <;> simp [hc, Ne.symm hc]

/-- A piece of a list stands between two separators in the list with a separator at both ends. -/
theorem infix_iff_mem_splitOn (h : separator ∉ part) (s : List Char) :
    separator :: part ++ [separator] <:+: separator :: s ++ [separator] ↔ part ∈ s.splitOn separator := by
  rw [show separator :: s ++ [separator] = separator :: (s ++ [separator]) from rfl, List.infix_cons_iff, infix_piece h, List.cons_append, List.cons_prefix_cons,
    prefix_piece h]
  cases hsplit : s.splitOn separator with
  | nil => exact absurd hsplit (List.splitOn_ne_nil separator s)
  | cons first more => simp [eq_comm]

end

end AuditSearch.Text
