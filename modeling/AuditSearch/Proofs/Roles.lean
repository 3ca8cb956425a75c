import AuditSearch.Condition.Clause
import AuditSearch.Condition.Meaning
import AuditSearch.Proofs.Text.Reading

/-!
Role names as they are stored, as patterns find them and as they are listed. Patterns see three characters as one,
so they find roles that are none of those listed.
-/
namespace AuditSearch

namespace Roles

open Text

/-- A stored list is clean if it is empty or none of its pieces is empty or has blanks at its ends. -/
def IsClean (stored : String) : Prop :=
  stored = "" ∨ ∀ piece ∈ stored.toList.splitOn separator,
    piece ≠ [] ∧ trim (String.ofList piece) = String.ofList piece

instance (stored : String) : Decidable (IsClean stored) :=
  inferInstanceAs (Decidable (_ ∨ _))

/-- Whether a stored list names a role, where characters are first read in some way. -/
def names (read : Char → Char) (role stored : String) : Bool :=
  (parse stored).any fun r => fold read r == fold read role

theorem listsRole_text (role stored : String) : Condition.listsRole role (.text stored) = names id role stored :=
  rfl

theorem parse_empty : parse "" = [] := by
  simp [parse, trim, trimStart, trimEnd]

theorem parse_of_isClean {stored : String} (h : IsClean stored) (hne : stored ≠ "") :
    parse stored = (stored.toList.splitOn separator).map String.ofList := by
  have hpieces := h.resolve_left hne
  have htrim : (stored.toList.splitOn separator).map (fun piece => trim (String.ofList piece)) =
      (stored.toList.splitOn separator).map String.ofList :=
    List.map_congr_left fun piece hpiece => (hpieces piece hpiece).2
  rw [parse, htrim, List.filter_eq_self]
  intro role hrole
  obtain ⟨piece, hpiece, rfl⟩ := List.mem_map.mp hrole
  simpa [String.isEmpty_iff, String.ofList_eq_empty_iff] using (hpieces piece hpiece).1

/-- A clean list is stored again as it was. -/
theorem join_parse {stored : String} (h : IsClean stored) : join (parse stored) = stored := by
  by_cases hne : stored = ""
  · rw [hne, parse_empty]
    rfl
  · rw [parse_of_isClean h hne, join]
    apply String.toList_inj.mp
    have hcomma : ",".toList = [separator] := rfl
    rw [String.toList_intercalate, List.map_map, hcomma]
    simp [Function.comp_def]

/-- A role that is told from others in a list: its name is not empty, without blanks at its ends and without
separators. -/
def IsName (role : String) : Prop :=
  role ≠ "" ∧ trim role = role ∧ separator ∉ role.toList

theorem isName_of_mem_parse {stored role : String} (h : role ∈ parse stored) : IsName role := by
  obtain ⟨hmem, hempty⟩ := List.mem_filter.mp h
  obtain ⟨piece, hpiece, rfl⟩ := List.mem_map.mp hmem
  refine ⟨by simpa [String.isEmpty_iff] using hempty, trim_trim _, fun hseparator => ?_⟩
  rw [List.splitOn_eq_splitOnP] at hpiece
  have hpart : separator ∈ piece := by
    simpa using (trim_isInfix (String.ofList piece)).subset hseparator
  simpa using (mem_splitOnP hpiece _ hpart).2

/-- Names that are joined are read back. -/
theorem parse_join {roles : List String} (h : ∀ role ∈ roles, IsName role) : parse (join roles) = roles := by
  by_cases hnil : roles = []
  · subst hnil
    exact parse_empty
  have hsplit : (join roles).toList.splitOn separator = roles.map String.toList := by
    have hcomma : ",".toList = [separator] := rfl
    rw [join, String.toList_intercalate, hcomma]
    exact List.splitOn_intercalate separator (List.forall_mem_map.mpr fun role hrole => (h role hrole).2.2)
      (by simpa using hnil)
  have hpieces : (roles.map String.toList).map (fun piece => trim (String.ofList piece)) = roles := by
    rw [List.map_map]
    refine (List.map_congr_left fun role hrole => ?_).trans (List.map_id roles)
    simpa using (h role hrole).2.1
  rw [parse, hsplit, hpieces, List.filter_eq_self]
  exact fun role hrole => by simpa [String.isEmpty_iff] using (h role hrole).1

/-- A list that was read is read again as it is. -/
theorem parse_join_parse (stored : String) : parse (join (parse stored)) = parse stored :=
  parse_join fun _ => isName_of_mem_parse

theorem splitOn_map {f : Char → Char} (hf : ∀ c, f c = separator ↔ c = separator) (cs : List Char) :
    (cs.map f).splitOn separator = (cs.splitOn separator).map (List.map f) := by
  induction cs with
  | nil => rfl
  | cons c cs ih =>
    rw [List.map_cons, List.splitOn_cons_eq_if_modifyHead, List.splitOn_cons_eq_if_modifyHead, ih]
    by_cases hc : c = separator
    · simp [hc, (hf separator).mpr rfl]
    · have hfc : f c ≠ separator := mt (hf c).mp hc
      cases cs.splitOn separator <;> simp [hc, hfc]

theorem seen_eq_separator (c : Char) : (seen c).toLower = separator ↔ c = separator := by
  have hlower (d : Char) : d.toLower = separator ↔ d = separator := by
    have hseparator : separator.toNat = 44 := rfl
    rw [← Char.toNat_inj, ← Char.toNat_inj, toNat_toLower, hseparator]
    split <;> omega
  rw [hlower, seen_eq_iff (by decide)]

/-- What stands between the separators of a stored list, with blanks and all. -/
def pieces (stored : String) : List String :=
  (stored.toList.splitOn separator).map String.ofList

theorem mem_parse {stored role : String} : role ∈ parse stored ↔ role ≠ "" ∧ ∃ piece ∈ pieces stored, trim piece = role := by
  simp [parse, pieces, and_comm]

/-- A piece that is read as a role without blanks at its ends is one of the names of its list. -/
theorem mem_parse_of_piece {read : Char → Char} (hread : ∀ c, isBlank (read c) = isBlank c) {role stored piece : String}
    (hrole : role ≠ "") (htrim : trim role = role) (hpiece : piece ∈ pieces stored)
    (hfold : fold read piece = fold read role) : piece ∈ parse stored := by
  refine mem_parse.mpr ⟨?_, piece, hpiece, ?_⟩
  · rintro rfl
    have hnil : fold read role = [] := hfold.symm
    exact hrole (by simpa [fold] using hnil)
  · exact trim_eq_of_map_eq (fun c => by rw [isBlank_toLower, hread]) hfold.symm htrim

/-- The pattern for a role finds it in a list that has it for a piece, up to how patterns see characters. -/
theorem isLike_rolePattern_iff {role stored : String} (hcompound : ¬isCompound role) (hroleNul : IsNulFree role)
    (hstoredNul : IsNulFree stored) :
    isLike (some wildcardEscape) (readable (Condition.rolePattern role)) (readable ("," ++ stored ++ ",")) ↔
      ∃ piece ∈ pieces stored, fold seen piece = fold seen role := by
  have hpattern : Condition.rolePattern role =
      String.ofList ('%' :: escapeWildcards ("," ++ role ++ ",").toList ++ ['%']) := by
    have hcomma : escapeWildcards ",".toList = [','] := rfl
    rw [Condition.rolePattern, String.toList_append, String.toList_append, escapeWildcards_append,
      escapeWildcards_append, hcomma]
    simp
  have hnul {s : String} (h : IsNulFree s) : IsNulFree ("," ++ s ++ ",") := by
    intro c hc
    simp only [String.toList_append, List.mem_append] at hc
    obtain (hc | hc) | hc := hc
    · simp_all
    · exact h c hc
    · simp_all
  have hfold (s : String) : fold seen ("," ++ s ++ ",") = separator :: fold seen s ++ [separator] := by
    simp [fold, separator]
    decide
  have hsingle : separator ∉ fold seen role := by
    simp only [fold, List.mem_map, seen_eq_separator, not_exists, not_and]
    rintro c hc rfl
    exact hcompound (by simpa [isCompound] using hc)
  rw [hpattern, isLike_readable (hnul hroleNul) (hnul hstoredNul), hfold, hfold, infix_iff_mem_splitOn hsingle, fold,
    splitOn_map seen_eq_separator]
  simp [pieces, fold]

/-- The pattern for a role finds it in a clean list that names it, up to how patterns see characters. -/
theorem isLike_rolePattern {role stored : String} (hrole : role ≠ "") (hcompound : ¬isCompound role)
    (hroleNul : IsNulFree role) (hclean : IsClean stored) (hstoredNul : IsNulFree stored) :
    isLike (some wildcardEscape) (readable (Condition.rolePattern role)) (readable ("," ++ stored ++ ",")) =
      names seen role stored := by
  rw [Bool.eq_iff_iff, isLike_rolePattern_iff hcompound hroleNul hstoredNul]
  by_cases hne : stored = ""
  · subst hne
    simp [names, parse_empty, pieces, fold, hrole]
  · simp [names, pieces, parse_of_isClean hclean hne]

/-! ### Roles that are told apart -/

/-- A role is told apart if patterns see no other one where they see it: it has blanks at its ends, as no listed
one has, or none of the characters that patterns see as one. -/
def IsTold (role : String) : Prop :=
  trim role ≠ role ∨ ∀ c ∈ role.toList, ¬isConfusable c

instance (role : String) : Decidable (IsTold role) :=
  letI := List.decidableBAll (fun c => ¬isConfusable c) role.toList
  inferInstanceAs (Decidable (_ ∨ _))

theorem trim_of_mem_parse {r stored : String} (h : IsClean stored) (hr : r ∈ parse stored) : trim r = r := by
  by_cases hne : stored = ""
  · simp [hne, parse_empty] at hr
  · rw [parse_of_isClean h hne] at hr
    obtain ⟨piece, hpiece, rfl⟩ := List.mem_map.mp hr
    exact (h.resolve_left hne piece hpiece).2

/-- A role with blanks at its ends is in no clean list, however characters are read. -/
theorem trim_of_names {read : Char → Char} (hread : ∀ c, isBlank (read c) = isBlank c) {role stored : String}
    (hclean : IsClean stored) (h : names read role stored) : trim role = role := by
  simp only [names, List.any_eq_true, beq_iff_eq] at h
  obtain ⟨r, hr, hfold⟩ := h
  exact trim_eq_of_map_eq (fun c => by rw [isBlank_toLower, hread]) hfold (trim_of_mem_parse hclean hr)

theorem names_of_isTold {role stored : String} (h : IsTold role) (hclean : IsClean stored) :
    names seen role stored = names id role stored := by
  obtain htrim | htold := h
  · have hseen : ¬names seen role stored := mt (trim_of_names isBlank_seen hclean) htrim
    have hid : ¬names id role stored := mt (trim_of_names (fun _ => rfl) hclean) htrim
    rw [Bool.eq_false_iff.mpr hseen, Bool.eq_false_iff.mpr hid]
  · have (r : String) : (fold seen r == fold seen role) = (fold id r == fold id role) := by
      rw [Bool.eq_iff_iff, beq_iff_eq, beq_iff_eq, fold_seen_eq_iff htold]
    simp only [names, this]

theorem pieces_twinOf {role : String} (hcompound : ¬isCompound role) :
    (twinOf role).toList.splitOn separator = [role.toList.map twin] := by
  rw [twinOf, String.toList_ofList]
  refine List.splitOn_eq_singleton fun hmem => hcompound ?_
  obtain ⟨c, hc, htwin⟩ := List.mem_map.mp hmem
  rw [twin_eq_iff (by decide)] at htwin
  simpa [isCompound, ← htwin] using hc

theorem isClean_twinOf {role : String} (hcompound : ¬isCompound role) (h : ¬IsTold role) : IsClean (twinOf role) := by
  obtain ⟨htrim, htold⟩ := not_or.mp h
  have hne : role.toList ≠ [] := by
    rintro hnil
    simp [hnil] at htold
  refine .inr fun piece hpiece => ?_
  rw [pieces_twinOf hcompound, List.mem_singleton] at hpiece
  subst hpiece
  refine ⟨by simpa using hne, ?_⟩
  refine trim_eq_of_map_eq (f := seen) (s := role) isBlank_seen ?_ (not_not.mp htrim)
  simp [Function.comp_def, seen_twin]

/-- A role that is not told apart is found in the list of its twin alone, which does not name it. -/
theorem names_twinOf {role : String} (hcompound : ¬isCompound role) (h : ¬IsTold role) :
    names seen role (twinOf role) = true ∧ names id role (twinOf role) = false := by
  have hparse : parse (twinOf role) = [twinOf role] := by
    have hne : twinOf role ≠ "" := by
      rintro hempty
      have htold := (not_or.mp h).2
      have : role.toList = [] := by simpa [twinOf] using hempty
      simp [this] at htold
    rw [parse_of_isClean (isClean_twinOf hcompound h) hne, pieces_twinOf hcompound]
    rfl
  constructor
  · have : fold seen (twinOf role) = fold seen role := by simp [fold, twinOf, Function.comp_def, seen_twin]
    simp [names, hparse, this]
  · have htold := (not_or.mp h).2
    simp only [not_forall, not_not] at htold
    obtain ⟨c, hc, hconfusable⟩ := htold
    have : fold id (twinOf role) ≠ fold id role := by
      intro hfold
      simp only [fold, twinOf, String.toList_ofList, List.map_map] at hfold
      exact toLower_twin hconfusable (List.map_inj_left.mp hfold c hc)
    simpa [names, hparse] using this

end Roles

end AuditSearch
