import AuditSearch.Proofs.Condition.Template
import AuditSearch.Proofs.Condition.Evaluation
import AuditSearch.Proofs.Text.Reading

/-!
Conditions of which the parameters of the clause can be filled in. A question mark of the clause is either a parameter
or stands in a quoted text of a long list, which is in the way of the parameters behind it.
-/
namespace AuditSearch.Condition

/-- The values that a test compares a column with. -/
def testedValues : Condition → List Literal
  | isIn _ values | notIn _ values => values
  | compare _ _ value => [value]
  | hasRole _ role => [.text role]
  | _ => []

/-- No text of a test has a null character in it. -/
def HasNulFreeTexts (c : Condition) : Prop :=
  ∀ v ∈ c.testedValues, Text.IsNulFree v.asText

instance : DecidablePred HasNulFreeTexts := fun c =>
  inferInstanceAs (Decidable (∀ v ∈ c.testedValues, Text.IsNulFree v.asText))

/-- A test for the values of a long list of which one has a question mark in it. -/
def WritesMark : Condition → Prop
  | isIn _ values | notIn _ values => maxBoundTexts < values.length ∧ ∃ v ∈ values, '?' ∈ v.quoted.toList
  | _ => False

instance : DecidablePred WritesMark
  | isIn _ values | notIn _ values =>
    inferInstanceAs (Decidable (maxBoundTexts < values.length ∧ ∃ v ∈ values, '?' ∈ v.quoted.toList))
  | always | never | all _ | any _ | not _ | isNull _ | compare _ _ _ | hasRole _ _ => isFalse id

/-- No test writes a question mark into the clause in front of one with a parameter. -/
def IsLegible (c : Condition) : Prop :=
  c.tests.Pairwise fun t u => t.WritesMark → u.paramCount = 0

instance : DecidablePred IsLegible := fun c =>
  inferInstanceAs (Decidable (c.tests.Pairwise fun t u => t.WritesMark → u.paramCount = 0))

theorem marks_partTemplate (c : Condition) : c.partTemplate.marks = c.template.marks := by
  simp only [partTemplate]
  split
  · exact Template.marks_parenthesised _
  · rfl

theorem marks_connectedTemplate {between neutral : String} (hbetween : '?' ∉ between.toList)
    (hneutral : '?' ∉ neutral.toList) (ds : List Template) :
    (connectedTemplate between neutral ds).marks = ds.flatMap Template.marks := by
  simp only [connectedTemplate, List.isEmpty_iff]
  split
  · rename_i hds
    rw [hds, Template.marks_text hneutral]
    rfl
  · exact Template.marks_joined hbetween ds

/-- What of a template counts for its being legible is what counts of the templates of the tests. -/
theorem marks_template (c : Condition) : c.template.marks = c.tests.flatMap fun t => t.template.marks := by
  induction c using partsInduction with
  | test c hc => simp [tests_of_isTest hc]
  | all parts ih | any parts ih =>
    rw [template, partTemplates_eq, marks_connectedTemplate (by decide) (by decide), List.flatMap_map]
    simp only [tests_all, tests_any, List.flatMap_assoc, marks_partTemplate]
    exact List.flatMap_congr ih
  | not c ih =>
    rw [template, Template.marks_append, Template.marks_text (by decide), Template.marks_parenthesised, ih]
    rfl

theorem isQuotable_iff {s : String} : isQuotable s ↔ Text.IsNulFree s := by
  simp only [isQuotable, Text.IsNulFree, Bool.not_eq_true', List.contains_eq_mem, decide_eq_false_iff_not]
  exact ⟨fun h c hc he => h (he ▸ hc), fun h hc => h _ hc rfl⟩

theorem valueFilter_quoted {v : Literal} (h : Text.IsNulFree v.asText) : valueFilter true v = .text v.quoted := by
  cases v with
  | integer n => rfl
  | text s =>
    have hquotable : isQuotable s := isQuotable_iff.mpr h
    simp [valueFilter, hquotable]

theorem joined_quoted {vs : List Literal} (h : ∀ v ∈ vs, Text.IsNulFree v.asText) :
    Filter.joined ", " (vs.map (valueFilter true)) = .text (", ".intercalate (vs.map Literal.quoted)) := by
  rw [List.map_congr_left fun v hv => valueFilter_quoted (h v hv)]
  ext1
  · simp [Function.comp_def]
  · simp [List.flatMap_map]

theorem listFilter_quoted {vs : List Literal} (h : ∀ v ∈ vs, Text.IsNulFree v.asText)
    (hlong : maxBoundTexts < vs.length) : listFilter vs = .text (", ".intercalate (vs.map Literal.quoted)) := by
  rw [listFilter, decide_eq_true hlong, joined_quoted h]

theorem mark_notMem_integer (n : Int64) : '?' ∉ (Literal.integer n).quoted.toList := by
  have hdigits : '?' ∉ Text.natDigits n.toInt.natAbs := fun h =>
    absurd (Text.isDigit_of_mem_natDigits h) (by decide)
  simp only [Literal.quoted, Text.ofInt, String.toList_ofList]
  split
  · simp [hdigits]
  · exact hdigits

theorem mark_mem_valueTemplate {long : Bool} {v : Literal} (hnul : Text.IsNulFree v.asText) :
    .inl '?' ∈ valueTemplate long v ↔ long ∧ '?' ∈ v.quoted.toList := by
  cases v with
  | integer n => simp [valueTemplate, Template.text, mark_notMem_integer]
  | text s =>
    have hquotable : isQuotable s := isQuotable_iff.mpr hnul
    cases long <;> simp [valueTemplate, hquotable, Template.text, Template.place]

theorem mark_mem_listTemplate {vs : List Literal} (hnul : ∀ v ∈ vs, Text.IsNulFree v.asText) :
    .inl '?' ∈ listTemplate vs ↔ maxBoundTexts < vs.length ∧ ∃ v ∈ vs, '?' ∈ v.quoted.toList := by
  rw [← Template.mark_mem_marks, listTemplate, Template.marks_joined (by decide), List.mem_flatMap]
  simp only [List.mem_map, exists_exists_and_eq_and, Template.mark_mem_marks]
  constructor
  · rintro ⟨v, hv, hmark⟩
    obtain ⟨hlong, hmark⟩ := (mark_mem_valueTemplate (hnul v hv)).mp hmark
    exact ⟨of_decide_eq_true hlong, v, hv, hmark⟩
  · rintro ⟨hlong, v, hv, hmark⟩
    exact ⟨v, hv, (mark_mem_valueTemplate (hnul v hv)).mpr ⟨decide_eq_true hlong, hmark⟩⟩

theorem mark_notMem_column (column : Column) : '?' ∉ column.name.toList := by
  cases column <;> decide

/-- The question marks of a test that are no parameters are those of the texts of a long list. -/
theorem mark_mem_template {c : Condition} (hc : c.isTest)
    (hcolumn : ∀ name ∈ c.testedColumn?, ∃ column : Column, column.name = name) (hnul : c.HasNulFreeTexts) :
    .inl '?' ∈ c.template ↔ c.WritesMark := by
  have hlist {word : String} (hword : '?' ∉ word.toList) {column : Column} {vs : List Literal}
      (hnul : ∀ v ∈ vs, Text.IsNulFree v.asText) :
      .inl '?' ∈ Template.text (column.name ++ word) ++ .parenthesised (listTemplate vs) ↔
        maxBoundTexts < vs.length ∧ ∃ v ∈ vs, '?' ∈ v.quoted.toList := by
    rw [← mark_mem_listTemplate hnul]
    simp [Template.parenthesised, Template.text, mark_notMem_column, hword]
  cases c with
  | always | never => simp [template, Template.text, WritesMark]
  | isIn name vs =>
    obtain ⟨column, rfl⟩ := hcolumn name rfl
    cases vs with
    | nil => simp [template, Template.text, WritesMark]
    | cons v vs => exact hlist (by decide) hnul
  | notIn name vs =>
    obtain ⟨column, rfl⟩ := hcolumn name rfl
    cases vs with
    | nil => simp [template, Template.text, WritesMark]
    | cons v vs => exact hlist (by decide) hnul
  | isNull name =>
    obtain ⟨column, rfl⟩ := hcolumn name rfl
    simp [template, Template.text, WritesMark, mark_notMem_column]
  | compare name bound value =>
    obtain ⟨column, rfl⟩ := hcolumn name rfl
    cases bound <;> simp [template, Template.text, Template.place, WritesMark, mark_notMem_column, Bound.sign]
  | hasRole name role =>
    obtain ⟨column, rfl⟩ := hcolumn name rfl
    simp only [template]
    split <;> simp [Template.text, Template.place, WritesMark, mark_notMem_column]
  | all _ | any _ | not _ => simp [isTest] at hc

theorem paramCount_eq_zero_iff (c : Condition) : c.paramCount = 0 ↔ ∀ v, .inr v ∉ c.template := by
  have hparams : c.toFilter.params = c.template.params := by rw [← toFilter_template]; rfl
  rw [paramCount, List.length_eq_zero_iff, hparams, List.eq_nil_iff_forall_not_mem]
  simp only [Template.mem_params]

theorem paramCount_of_writesMark {c : Condition} (hnul : c.HasNulFreeTexts) (hmark : c.WritesMark) :
    c.paramCount = 0 := by
  cases c with
  | isIn _ vs | notIn _ vs =>
    have hquoted : listFilter vs = _ := listFilter_quoted hnul hmark.1
    have hparams : (listFilter vs).params = [] := by rw [hquoted, Filter.text_params]
    simp only [paramCount, toFilter]
    split <;> simp [hparams]
  | _ => exact hmark.elim

theorem isLegible_of_isTest {c : Condition} (hc : c.isTest)
    (hcolumn : ∀ name ∈ c.testedColumn?, ∃ column : Column, column.name = name) (hnul : c.HasNulFreeTexts) :
    c.template.IsLegible := by
  refine List.pairwise_of_forall_mem_list fun a ha b hb hmark => ?_
  subst hmark
  have hzero := paramCount_of_writesMark hnul ((mark_mem_template hc hcolumn hnul).mp ha)
  cases b with
  | inl _ => rfl
  | inr v => exact absurd hb ((paramCount_eq_zero_iff c).mp hzero v)

theorem isLegible_template {c : Condition} (h : c.IsOverSchema) (hnul : ∀ t ∈ c.tests, t.HasNulFreeTexts) :
    c.template.IsLegible ↔ c.IsLegible := by
  -- Within a test nothing is in the way, since a long list has no parameters. What is left are the pairs of tests.
  have htest {t : Condition} (ht : t ∈ c.tests) : t.template.marks.IsLegible :=
    (Template.isLegible_marks _).mpr (isLegible_of_isTest (isTest_of_mem_tests ht) (h t ht) (hnul t ht))
  have hpair {t u : Condition} (ht : t ∈ c.tests) :
      (∀ a ∈ t.template.marks, ∀ b ∈ u.template.marks, a = .inl '?' → b.isLeft) ↔
        (t.WritesMark → u.paramCount = 0) := by
    rw [← mark_mem_template (isTest_of_mem_tests ht) (h t ht) (hnul t ht), paramCount_eq_zero_iff]
    constructor
    · exact fun hall hmark v hv => by
        simpa using hall _ (Template.mark_mem_marks.mpr hmark) _ (Template.place_mem_marks.mpr hv) rfl
    · rintro hnone _ ha (_ | v) hb rfl
      · rfl
      · exact absurd (Template.place_mem_marks.mp hb) (hnone (Template.mark_mem_marks.mp ha) v)
  rw [← Template.isLegible_marks, marks_template, Template.IsLegible, List.pairwise_flatMap]
  exact ⟨fun h => (List.Pairwise.iff_of_mem fun ht _ => hpair ht).mp h.2,
    fun h => ⟨fun t ht => htest ht, (List.Pairwise.iff_of_mem fun ht _ => hpair ht).mpr h⟩⟩

end AuditSearch.Condition
