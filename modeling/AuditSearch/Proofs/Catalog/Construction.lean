import AuditSearch.Catalog
import AuditSearch.Proofs.Dictionary
import Mathlib

/-!
The construction of a catalog: when it succeeds, what it is blamed on otherwise, and what the names of a catalog stand
for. Fields are added before further names, each after those in front of it in its list, and a name is taken for good.
-/
namespace AuditSearch.Catalog

/-- The names of some fields, and the further names. -/
def namesOf (fields : List Field) (names : List (String × String)) : List String :=
  fields.map Field.name ++ names.map Prod.fst

/-- What a name stands for: the field of this name, or for a further name what its target stands for. -/
inductive StandsFor (fields : List Field) (names : List (String × String)) : String → Field → Prop where
  | field {f : Field} (hf : f ∈ fields) : StandsFor fields names f.name f
  | name {n : String × String} {f : Field} (hn : n ∈ names) (htarget : StandsFor fields names n.2 f) :
    StandsFor fields names n.1 f

/-- Further names of which each has a target among the names before it, and is none of these itself. -/
def AreFurther (fields : List Field) (names : List (String × String)) : Prop :=
  ∀ before n after, names = before ++ n :: after → n.2 ∈ namesOf fields before ∧ n.1 ∉ namesOf fields before

/-- What is wrong with the first field, or else with the first further name, that cannot be added. -/
inductive FirstFault (fields : List Field) (names : List (String × String)) : ConfigurationFault → Prop where
  | field {before : List Field} {f : Field} {after : List Field} (hsplit : fields = before ++ f :: after)
    (hbefore : (before.map Field.name).Nodup) (htaken : f.name ∈ before.map Field.name) :
    FirstFault fields names (.duplicateField f.name)
  | target {before : List (String × String)} {n : String × String} {after : List (String × String)}
    (hfields : (fields.map Field.name).Nodup) (hsplit : names = before ++ n :: after) (hbefore : AreFurther fields before)
    (hunknown : n.2 ∉ namesOf fields before) : FirstFault fields names (.unknownTarget n.1 n.2)
  | name {before : List (String × String)} {n : String × String} {after : List (String × String)}
    (hfields : (fields.map Field.name).Nodup) (hsplit : names = before ++ n :: after) (hbefore : AreFurther fields before)
    (htarget : n.2 ∈ namesOf fields before) (htaken : n.1 ∈ namesOf fields before) :
    FirstFault fields names (.duplicateField n.1)

/-- A catalog has just these fields, and a further name leads where its target leads. -/
structure Holds (c : Catalog) (fields : List Field) (names : List (String × String)) : Prop where
  field : ∀ f ∈ fields, c.get? f.name = some f
  name : ∀ n ∈ names, c.get? n.1 = c.get? n.2
  stands : ∀ name f, c.get? name = some f → StandsFor fields names name f
  known : ∀ name, (c.get? name).isSome ↔ name ∈ namesOf fields names
  size : c.entries.length = fields.length + names.length

variable {c : Catalog} {fields : List Field} {names : List (String × String)}

theorem mem_namesOf_left {f : Field} (h : f ∈ fields) : f.name ∈ namesOf fields names :=
  List.mem_append_left _ (List.mem_map_of_mem h)

theorem mem_namesOf_right {n : String × String} (h : n ∈ names) : n.1 ∈ namesOf fields names :=
  List.mem_append_right _ (List.mem_map_of_mem h)

theorem mem_namesOf_concat_field {f : Field} {name : String} :
    name ∈ namesOf (fields ++ [f]) [] ↔ name = f.name ∨ name ∈ namesOf fields [] := by
  simp only [namesOf, List.map_append, List.map_cons, List.map_nil, List.append_nil, List.mem_append,
    List.mem_singleton, or_comm]

theorem mem_namesOf_concat {n : String × String} {name : String} :
    name ∈ namesOf fields (names ++ [n]) ↔ name = n.1 ∨ name ∈ namesOf fields names := by
  simp only [namesOf, List.map_append, List.map_cons, List.map_nil, ← List.append_assoc, List.mem_append,
    List.mem_singleton, or_comm]

theorem StandsFor.mono {fields' : List Field} {names' : List (String × String)} (hfields : fields ⊆ fields')
    (hnames : names ⊆ names') {name : String} {f : Field} (h : StandsFor fields names name f) :
    StandsFor fields' names' name f := by
  induction h with
  | field hf => exact .field (hfields hf)
  | name hn _ ih => exact .name (hnames hn) ih

theorem AreFurther.of_append {after : List (String × String)} (h : AreFurther fields (names ++ after)) :
    AreFurther fields names :=
  fun before n rest hsplit => h before n (rest ++ after) (by simp [hsplit])

theorem areFurther_nil : AreFurther fields [] :=
  fun before n after hsplit => by simp at hsplit

theorem areFurther_concat_iff {n : String × String} : AreFurther fields (names ++ [n]) ↔
    AreFurther fields names ∧ n.2 ∈ namesOf fields names ∧ n.1 ∉ namesOf fields names := by
  constructor
  · exact fun h => ⟨h.of_append, h names n [] rfl⟩
  · rintro ⟨h, hn⟩ before m after hsplit
    obtain rfl | ⟨rest, r, rfl⟩ := List.eq_nil_or_concat after
    · obtain ⟨rfl, hm⟩ := List.append_inj' hsplit rfl
      exact (List.cons.inj hm).1 ▸ hn
    · have hlast : names ++ [n] = (before ++ m :: rest) ++ [r] := by simpa using hsplit
      exact h before m rest (List.append_inj' hlast rfl).1

/-! ### One field or name more -/

theorem holds_empty : Holds .empty [] [] where
  field := by simp
  name := by simp
  stands := fun name f h => by simp [Dictionary.get?, Dictionary.empty] at h
  known := fun name => by simp [Dictionary.get?, Dictionary.empty, namesOf]
  size := rfl

theorem Holds.get_eq_none_iff (h : Holds c fields names) {name : String} :
    c.get? name = none ↔ name ∉ namesOf fields names := by
  rw [← h.known, Option.not_isSome_iff_eq_none]

/-- What stood in a catalog is left as it was by a new name. -/
theorem get_insert_of_known {key : String} (hnew : key ∉ namesOf fields names) (f : Field) {name : String}
    (hname : name ∈ namesOf fields names) : (c.insert key f).get? name = c.get? name := by
  rw [Dictionary.get_insert, if_neg fun heq : name = key => hnew (heq ▸ hname)]

theorem Holds.known_insert (h : Holds c fields names) (key : String) (f : Field) (name : String) :
    ((c.insert key f).get? name).isSome ↔ name = key ∨ name ∈ namesOf fields names := by
  rw [Dictionary.get_insert, ← h.known]
  split <;> simp [*]

/-- The names of a catalog stand for what they stood for, and a new one for what is said of it. -/
theorem Holds.stands_insert (h : Holds c fields names) {fields' : List Field} {names' : List (String × String)}
    (hfields : fields ⊆ fields') (hnames : names ⊆ names') {key : String} {f : Field}
    (hkey : StandsFor fields' names' key f) {name : String} {g : Field} (hg : (c.insert key f).get? name = some g) :
    StandsFor fields' names' name g := by
  rw [Dictionary.get_insert] at hg
  split at hg
  · rename_i heq
    rw [heq, ← Option.some.inj hg]
    exact hkey
  · exact (h.stands name g hg).mono hfields hnames

theorem Holds.addField (h : Holds c fields []) {f : Field} (hnew : f.name ∉ namesOf fields []) :
    ∃ c', c.addField f = .ok c' ∧ Holds c' (fields ++ [f]) [] := by
  have hnone : c.get? f.name = none := h.get_eq_none_iff.mpr hnew
  refine ⟨c.insert f.name f, by rw [Catalog.addField, hnone]; rfl, ?_⟩
  constructor
  case field =>
    intro g hg
    obtain hg | hg := List.mem_append.mp hg
    · rw [get_insert_of_known hnew f (mem_namesOf_left hg), h.field g hg]
    · rw [List.mem_singleton.mp hg, Dictionary.get_insert, if_pos rfl]
  case name => simp
  case stands =>
    have hkey : StandsFor (fields ++ [f]) [] f.name f := .field (List.mem_append_right fields List.mem_cons_self)
    exact fun name g => h.stands_insert (List.subset_append_left fields [f]) (List.Subset.refl []) hkey
  case known => exact fun name => (h.known_insert f.name f name).trans mem_namesOf_concat_field.symm
  case size =>
    rw [Dictionary.length_insert hnone, h.size, List.length_append]
    rfl

theorem Holds.addField_taken (h : Holds c fields []) {f : Field} (htaken : f.name ∈ namesOf fields []) :
    c.addField f = .error (duplicate f.name) :=
  if_pos ((h.known f.name).mpr htaken)

theorem Holds.addName (h : Holds c fields names) {n : String × String} (htarget : n.2 ∈ namesOf fields names)
    (hnew : n.1 ∉ namesOf fields names) : ∃ c', c.addName n.1 n.2 = .ok c' ∧ Holds c' fields (names ++ [n]) := by
  have hnone : c.get? n.1 = none := h.get_eq_none_iff.mpr hnew
  obtain ⟨f, hf⟩ := Option.isSome_iff_exists.mp ((h.known n.2).mpr htarget)
  refine ⟨c.insert n.1 f, by rw [Catalog.addName, hf, hnone]; rfl, ?_⟩
  constructor
  case field => exact fun g hg => (get_insert_of_known hnew f (mem_namesOf_left hg)).trans (h.field g hg)
  case name =>
    intro m hm
    obtain hm | hm := List.mem_append.mp hm
    · have hknown : m.2 ∈ namesOf fields names := by
        rw [← h.known, ← h.name m hm, h.known]
        exact mem_namesOf_right hm
      rw [get_insert_of_known hnew f (mem_namesOf_right hm), get_insert_of_known hnew f hknown, h.name m hm]
    · rw [List.mem_singleton.mp hm, get_insert_of_known hnew f htarget, hf, Dictionary.get_insert, if_pos rfl]
  case stands =>
    have hmore := List.subset_append_left names [n]
    have hkey : StandsFor fields (names ++ [n]) n.1 f :=
      .name (List.mem_append_right names List.mem_cons_self) ((h.stands n.2 f hf).mono (List.Subset.refl fields) hmore)
    exact fun name g => h.stands_insert (List.Subset.refl fields) hmore hkey
  case known => exact fun name => (h.known_insert n.1 f name).trans mem_namesOf_concat.symm
  case size => rw [Dictionary.length_insert hnone, h.size, List.length_append, List.length_singleton, Nat.add_assoc]

theorem Holds.addName_unknown (h : Holds c fields names) {n : String × String} (hunknown : n.2 ∉ namesOf fields names) :
    c.addName n.1 n.2 = .error (.configuration (.unknownTarget n.1 n.2)) := by
  rw [Catalog.addName, h.get_eq_none_iff.mpr hunknown]

theorem Holds.addName_taken (h : Holds c fields names) {n : String × String} (htarget : n.2 ∈ namesOf fields names)
    (htaken : n.1 ∈ namesOf fields names) : c.addName n.1 n.2 = .error (duplicate n.1) := by
  obtain ⟨f, hf⟩ := Option.isSome_iff_exists.mp ((h.known n.2).mpr htarget)
  rw [Catalog.addName, hf]
  exact if_pos ((h.known n.1).mpr htaken)

/-! ### A whole construction -/

section Runs
variable {α σ ε : Type} {step : σ → α → Except ε σ} {a b : σ} {before : List α} {x : α}

theorem foldlM_append_of_ok (h : before.foldlM step a = .ok b) (after : List α) :
    (before ++ after).foldlM step a = after.foldlM step b := by
  rw [List.foldlM_append, h]
  rfl

theorem foldlM_concat_ok {b' : σ} (h : before.foldlM step a = .ok b) (hx : step b x = .ok b') :
    (before ++ [x]).foldlM step a = .ok b' := by
  rw [foldlM_append_of_ok h, List.foldlM_cons, hx]
  rfl

theorem foldlM_append_error {e : ε} (h : before.foldlM step a = .ok b) (hx : step b x = .error e) (after : List α) :
    (before ++ x :: after).foldlM step a = .error e := by
  rw [foldlM_append_of_ok h, List.foldlM_cons, hx]
  rfl

end Runs

theorem exists_foldlM_addField (h : (fields.map Field.name).Nodup) :
    ∃ c, fields.foldlM addField .empty = .ok c ∧ Holds c fields [] := by
  induction fields using List.reverseRecOn with
  | nil => exact ⟨.empty, rfl, holds_empty⟩
  | append_singleton fields f ih =>
    rw [List.map_append, List.nodup_append] at h
    obtain ⟨c, hc, hholds⟩ := ih h.1
    have hnew : f.name ∉ namesOf fields [] := by
      rw [namesOf, List.map_nil, List.append_nil]
      exact fun hmem => h.2.2 _ hmem _ List.mem_cons_self rfl
    obtain ⟨c', hc', hholds'⟩ := hholds.addField hnew
    exact ⟨c', foldlM_concat_ok hc hc', hholds'⟩

theorem build_of_fields (h : fields.foldlM addField .empty = .ok c) :
    build fields names = names.foldlM (fun c n => addName c n.1 n.2) c := by
  rw [build, h]
  rfl

/-- Fields of different names make a catalog, together with names that are further ones to them. -/
theorem exists_build (hfields : (fields.map Field.name).Nodup) (h : AreFurther fields names) :
    ∃ c, build fields names = .ok c ∧ Holds c fields names := by
  obtain ⟨c₀, hc₀, hholds₀⟩ := exists_foldlM_addField hfields
  induction names using List.reverseRecOn with
  | nil => exact ⟨c₀, build_of_fields hc₀, hholds₀⟩
  | append_singleton names n ih =>
    obtain ⟨hnames, htarget, hnew⟩ := areFurther_concat_iff.mp h
    obtain ⟨c, hc, hholds⟩ := ih hnames
    obtain ⟨c', hc', hholds'⟩ := hholds.addName htarget hnew
    rw [build_of_fields hc₀] at hc ⊢
    exact ⟨c', foldlM_concat_ok hc hc', hholds'⟩

/-- The construction ends at the first field or name that cannot be added. -/
theorem build_of_firstFault {fault : ConfigurationFault} (h : FirstFault fields names fault) :
    build fields names = .error (.configuration fault) := by
  -- A name that cannot be added stands behind names that make a catalog with the fields.
  have hname {before : List (String × String)} {n : String × String} {after : List (String × String)} {e : Failure}
      (hfields : (fields.map Field.name).Nodup) (hsplit : names = before ++ n :: after)
      (hbefore : AreFurther fields before) (hadd : ∀ c, Holds c fields before → c.addName n.1 n.2 = .error e) :
      build fields names = .error e := by
    obtain ⟨c₀, hc₀, -⟩ := exists_foldlM_addField hfields
    obtain ⟨c, hc, hholds⟩ := exists_build hfields hbefore
    rw [build_of_fields hc₀] at hc ⊢
    rw [hsplit]
    exact foldlM_append_error hc (hadd c hholds) after
  cases h with
  | @field before f after hsplit hbefore htaken =>
    obtain ⟨c, hc, hholds⟩ := exists_foldlM_addField hbefore
    have htaken' : f.name ∈ namesOf before [] := List.mem_append_left _ htaken
    rw [build, hsplit, foldlM_append_error hc (hholds.addField_taken htaken') after]
    rfl
  | target hfields hsplit hbefore hunknown =>
    exact hname hfields hsplit hbefore fun c hholds => hholds.addName_unknown hunknown
  | name hfields hsplit hbefore htarget htaken =>
    exact hname hfields hsplit hbefore fun c hholds => hholds.addName_taken htarget htaken

/-- Names of which one is there twice have a first one that is there before. -/
theorem exists_first_repeat (h : ¬ (fields.map Field.name).Nodup) :
    ∃ before f after, fields = before ++ f :: after ∧ (before.map Field.name).Nodup ∧
      f.name ∈ before.map Field.name := by
  induction fields using List.reverseRecOn with
  | nil => exact absurd .nil h
  | append_singleton fields f ih =>
    by_cases hfields : (fields.map Field.name).Nodup
    · refine ⟨fields, f, [], rfl, hfields, by_contra fun hnew => h ?_⟩
      rw [List.map_append, List.nodup_append]
      refine ⟨hfields, List.nodup_singleton _, fun name hname other hother heq => hnew ?_⟩
      rwa [← List.mem_singleton.mp hother, ← heq]
    · obtain ⟨before, g, after, rfl, hbefore⟩ := ih hfields
      exact ⟨before, g, after ++ [f], by simp, hbefore⟩

/-- Names that are not all further ones have a first one that is not. -/
theorem exists_first_not_further (h : ¬ AreFurther fields names) :
    ∃ before n after, names = before ++ n :: after ∧ AreFurther fields before ∧
      ¬ (n.2 ∈ namesOf fields before ∧ n.1 ∉ namesOf fields before) := by
  induction names using List.reverseRecOn with
  | nil => exact absurd areFurther_nil h
  | append_singleton names n ih =>
    by_cases hnames : AreFurther fields names
    · exact ⟨names, n, [], rfl, hnames, fun hn => h (areFurther_concat_iff.mpr ⟨hnames, hn⟩)⟩
    · obtain ⟨before, m, after, rfl, hbefore⟩ := ih hnames
      exact ⟨before, m, after ++ [n], by simp, hbefore⟩

theorem exists_firstFault (h : ¬ ((fields.map Field.name).Nodup ∧ AreFurther fields names)) :
    ∃ fault, FirstFault fields names fault := by
  by_cases hfields : (fields.map Field.name).Nodup
  · obtain ⟨before, n, after, hsplit, hbefore, hn⟩ := exists_first_not_further fun hnames => h ⟨hfields, hnames⟩
    by_cases htarget : n.2 ∈ namesOf fields before
    · exact ⟨_, .name hfields hsplit hbefore htarget (by_contra fun hnew => hn ⟨htarget, hnew⟩)⟩
    · exact ⟨_, .target hfields hsplit hbefore htarget⟩
  · obtain ⟨before, f, after, hsplit, hbefore, htaken⟩ := exists_first_repeat hfields
    exact ⟨_, .field hsplit hbefore htaken⟩

/-- A construction succeeds just when the names are different fields and further names. -/
theorem build_ok_iff : (∃ c, build fields names = .ok c) ↔ (fields.map Field.name).Nodup ∧ AreFurther fields names := by
  constructor
  · rintro ⟨c, hc⟩
    by_contra h
    obtain ⟨fault, hfault⟩ := exists_firstFault h
    rw [build_of_firstFault hfault] at hc
    cases hc
  · rintro ⟨hfields, hnames⟩
    obtain ⟨c, hc, -⟩ := exists_build hfields hnames
    exact ⟨c, hc⟩

theorem build_error_iff {e : Failure} :
    build fields names = .error e ↔ ∃ fault, FirstFault fields names fault ∧ e = .configuration fault := by
  constructor
  · intro he
    obtain ⟨fault, hfault⟩ : ∃ fault, FirstFault fields names fault := exists_firstFault fun h => by
      obtain ⟨c, hc⟩ := build_ok_iff.mpr h
      rw [hc] at he
      cases he
    exact ⟨fault, hfault, Except.error.inj (he.symm.trans (build_of_firstFault hfault))⟩
  · rintro ⟨fault, hfault, rfl⟩
    exact build_of_firstFault hfault

/-- What was constructed holds the fields and names that it was made of. -/
theorem holds_build (h : build fields names = .ok c) : Holds c fields names := by
  obtain ⟨hfields, hnames⟩ := build_ok_iff.mp ⟨c, h⟩
  obtain ⟨c', hc', hholds⟩ := exists_build hfields hnames
  exact Except.ok.inj (hc'.symm.trans h) ▸ hholds

theorem Holds.get_eq_some_iff (h : Holds c fields names) {name : String} {f : Field} :
    c.get? name = some f ↔ StandsFor fields names name f := by
  refine ⟨h.stands name f, fun hstands => ?_⟩
  induction hstands with
  | field hf => exact h.field _ hf
  | name hn _ ih => exact (h.name _ hn).trans ih

/-- The names that a catalog of columns has besides those of the columns. -/
def fixedNames : List String :=
  namesOf (metadataFields ++ identityFields ++ dayFields) furtherNames

example : fixedNames = ["post_title", "post_status", "post_type", "post_id", "user_id", "user_email", "user_first_name",
    "user_last_name", "user_role", "start_date", "end_date", "post_name"] := by
  rfl

theorem map_name_ofColumns (columns : List (String × ColumnType)) :
    (columns.map (fun c => Field.ofColumn c.1 c.2) ++ metadataFields ++ identityFields ++ dayFields).map Field.name =
      columns.map Prod.fst ++ (metadataFields ++ identityFields ++ dayFields).map Field.name := by
  simp only [List.map_append, List.map_map, List.append_assoc]
  rfl

/-- Columns make a catalog just when their names are different and none of the names that are always there. -/
theorem ofColumns_ok_iff (columns : List (String × ColumnType)) : (∃ c, ofColumns columns = .ok c) ↔
    (columns.map Prod.fst).Nodup ∧ ∀ name ∈ columns.map Prod.fst, name ∉ fixedNames := by
  have hfixed : ((metadataFields ++ identityFields ++ dayFields).map Field.name).Nodup := by decide
  have htarget : "post_title" ∈ (metadataFields ++ identityFields ++ dayFields).map Field.name := by decide
  have hnew : "post_name" ∉ (metadataFields ++ identityFields ++ dayFields).map Field.name := by decide
  have hfurther : furtherNames = [] ++ [("post_name", "post_title")] := rfl
  rw [ofColumns, build_ok_iff, hfurther, areFurther_concat_iff]
  simp only [namesOf, map_name_ofColumns, fixedNames, hfurther, List.nil_append, List.map_nil, List.map_cons,
    List.append_nil, List.nodup_append, List.mem_append, List.mem_singleton]
  constructor
  · rintro ⟨⟨hcolumns, -, hapart⟩, -, -, hname⟩
    refine ⟨hcolumns, fun name hmem h => ?_⟩
    obtain h | rfl := h
    · exact hapart name hmem name h rfl
    · exact hname (.inl hmem)
  · rintro ⟨hcolumns, hapart⟩
    refine ⟨⟨hcolumns, hfixed, fun name hmem other hother heq => hapart name hmem (.inl (heq ▸ hother))⟩,
      areFurther_nil, .inr htarget, ?_⟩
    rintro (hmem | hmem)
    · exact hapart _ hmem (.inr rfl)
    · exact hnew hmem

/-- A catalog is constructed just when its names are different fields, and further names that lead to names before
them; the first that is not is blamed otherwise. It then knows these names and no others, each for what it stands for,
and a catalog of columns is constructed just when no column has the name of another or one that is always there. -/
theorem build_exact :
    (∀ (fields : List Field) (names : List (String × String)),
      ((∃ c, build fields names = .ok c) ↔ (fields.map Field.name).Nodup ∧ AreFurther fields names) ∧
      (∀ e, build fields names = .error e ↔ ∃ fault, FirstFault fields names fault ∧ e = .configuration fault) ∧
      ∀ c, build fields names = .ok c →
        (∀ f ∈ fields, c.get? f.name = some f) ∧ (∀ n ∈ names, c.get? n.1 = c.get? n.2) ∧
        (∀ name f, c.get? name = some f ↔ StandsFor fields names name f) ∧
        (∀ name, c.get? name = none ↔ name ∉ namesOf fields names) ∧
        c.names.Pairwise (· < ·) ∧ (∀ name, name ∈ c.names ↔ name ∈ namesOf fields names) ∧
        c.entries.length = fields.length + names.length) ∧
    ∀ columns : List (String × ColumnType), (∃ c, ofColumns columns = .ok c) ↔
      (columns.map Prod.fst).Nodup ∧ ∀ name ∈ columns.map Prod.fst, name ∉ fixedNames := by
  refine ⟨fun fields names => ⟨build_ok_iff, fun e => build_error_iff, fun c hc => ?_⟩, ofColumns_ok_iff⟩
  have hholds := holds_build hc
  refine ⟨hholds.field, hholds.name, fun name f => hholds.get_eq_some_iff, fun name => hholds.get_eq_none_iff, ?_, ?_,
    hholds.size⟩
  · exact List.pairwise_map.mpr c.ascending
  · exact fun name => (Dictionary.isSome_get_iff c name).symm.trans (hholds.known name)

/-- A name of a name of a field stands for the field, and a name that leads nowhere is blamed. -/
theorem build_exact_chain :
    (∃ c, build [⟨"title", .metadata "PostTitle"⟩] [("headline", "title"), ("name", "headline")] = .ok c ∧
      c.get? "name" = some ⟨"title", .metadata "PostTitle"⟩ ∧ c.get? "subject" = none) ∧
    build [⟨"title", .metadata "PostTitle"⟩] [("name", "headline"), ("headline", "title")] =
      .error (.configuration (.unknownTarget "name" "headline")) := by
  constructor
  · obtain ⟨-, -, hcatalog⟩ := build_exact.1 [⟨"title", .metadata "PostTitle"⟩]
      [("headline", "title"), ("name", "headline")]
    obtain ⟨-, hname, hstands, hnone, -⟩ := hcatalog _ rfl
    refine ⟨_, rfl, (hstands _ _).mpr ?_, (hnone _).mpr (by decide)⟩
    have hheadline : StandsFor [⟨"title", .metadata "PostTitle"⟩] [("headline", "title"), ("name", "headline")]
        "headline" ⟨"title", .metadata "PostTitle"⟩ :=
      .name List.mem_cons_self (.field List.mem_cons_self)
    exact .name (List.mem_cons_of_mem _ List.mem_cons_self) hheadline
  · refine ((build_exact.1 _ _).2.1 _).mpr ⟨_, .target ?_ rfl areFurther_nil (by decide), rfl⟩
    decide

end AuditSearch.Catalog
