import AuditSearch.Proofs.Condition.InPlace
import AuditSearch.Proofs.EventLog.Find

/-!
The clause of a condition with its parameters filled in. With each literal in the place of its parameter it selects the
same events. Filling in the question marks in turn gives that text unless a quoted text with a question mark in it
stands in front of a parameter, which then is left in the clause.
-/
namespace AuditSearch.EventLog

open Sql Condition

section
variable {c : Condition}

theorem find_inPlace (log : EventLog) (h : c.IsReadInPlace)
    (hheight : (written.expr 0 c).height (fun _ => 0) < maxHeight) :
    log.find (.text c.template.inPlace) = .ok ((Event.newestFirst
      (log.events.filter fun e => c.truthBy (storedTruth e) == some true)).map Event.readBack) := by
  obtain ⟨r, hr⟩ := h.whole
  have htokens : tokens? c.template.inPlace = some (r.tokens, 0) := by
    have := (hr.scans 0 [] (Nat.zero_le _) (by simp [EndsWord])).tokensWithin_eq
    simpa [tokens?, ParamNames.empty] using this
  have hhigh : r.written.height (fun _ => 0) ≤ maxHeight := Nat.le_trans (hr.height 0) hheight
  exact find_of_evaluates log (EventQuery.prepare_of_isWhole htokens hr.flat hr.form hhigh hr.resolves) fun e =>
    hr.evaluates _ _ e rfl

/-- Filling in the question marks of a clause puts each literal in its place just if the condition is legible. -/
theorem inlineText_toFilter_iff (h : c.IsOverSchema) (hnul : ∀ t ∈ c.tests, t.HasNulFreeTexts) :
    c.toFilter.inlineText = c.template.inPlace ↔ c.IsLegible := by
  rw [← toFilter_template, Template.inlineText_iff, isLegible_template h hnul]

/-- The clause of a condition selects the same events with its parameters as with the literals in their places. The
question marks of a legible condition, filled in, give the latter text, and those of any other condition do not. -/
theorem find_inlineText (log : EventLog) (h : c.IsOverSchema) (hnul : ∀ t ∈ c.tests, t.HasNulFreeTexts)
    (hlimits : c.IsWithinLimits) (hheight : (written.expr 0 c).height (fun _ => 0) < maxHeight) :
    ∃ answer, log.find c.toFilter = .ok answer ∧ log.find (.text c.template.inPlace) = .ok answer ∧
      (c.IsLegible → log.find (.text c.toFilter.inlineText) = .ok answer) ∧
      (¬c.IsLegible → c.toFilter.inlineText ≠ c.template.inPlace) := by
  have hinPlace := find_inPlace log (isReadInPlace h hnul hlimits.patterns) hheight
  refine ⟨_, find_toFilter log h hlimits, hinPlace, fun hlegible => ?_, fun hlegible heq => ?_⟩
  · rwa [(inlineText_toFilter_iff h hnul).mpr hlegible]
  · exact hlegible ((inlineText_toFilter_iff h hnul).mp heq)

end

/-- Names with a question mark and a quote in them, which are parameters of a short list. -/
def askedFor : Condition :=
  .all [.isIn "actor_login" [.text "who?", .text "o'brien"], .compare "alert_code" .atLeast (.integer (-1))]

theorem find_inlineText_asked : ∃ answer, (roleLog "admin").find askedFor.toFilter = .ok answer ∧
    (roleLog "admin").find (.text "actor_login IN ('who?', 'o''brien') AND alert_code >= -1") = .ok answer := by
  have htext : askedFor.toFilter.inlineText = "actor_login IN ('who?', 'o''brien') AND alert_code >= -1" := by decide
  obtain ⟨answer, hfind, -, hinline, -⟩ := find_inlineText (roleLog "admin") (c := askedFor) (by decide) (by decide)
    ⟨by decide, by decide, by decide⟩ (by decide)
  exact ⟨answer, hfind, htext ▸ hinline (by decide)⟩

/-! ### A parameter that is left -/

/-- Events on one of many objects from an instant on. -/
def amongMany (object : String) (others : List Literal) : Condition :=
  .all [.isIn "object" (.text object :: others), .compare "created_timestamp" .atLeast (.integer 5)]

section
variable {others : List Literal}

theorem exists_clause_amongMany (hlong : maxBoundTexts ≤ others.length)
    (hnul : ∀ v ∈ others, Text.IsNulFree v.asText) : ∃ rest, ∀ object, Text.IsNulFree object →
    (amongMany object others).toFilter.clause = "object IN (" ++ (Literal.text object).quoted ++ rest := by
  refine ⟨", " ++ ", ".intercalate (others.map Literal.quoted) ++ ") AND created_timestamp >= ?",
    fun object hobject => ?_⟩
  have hall : ∀ v ∈ Literal.text object :: others, Text.IsNulFree v.asText := List.forall_mem_cons.mpr ⟨hobject, hnul⟩
  have hothers : others.map Literal.quoted ≠ [] := by
    intro hnone
    obtain rfl := List.map_eq_nil_iff.mp hnone
    exact absurd hlong (by decide)
  have hlist := listFilter_quoted hall (Nat.lt_succ_of_le hlong)
  rw [List.map_cons, String.intercalate_cons_of_ne_nil hothers] at hlist
  rw [← String.toList_inj]
  simp [amongMany, toFilter, partFilter, isConnective, connected, parenthesised, hlist, Bound.sign]

/-- However many there are, the condition is over the columns and within all limits, and has one parameter. -/
theorem isRegular_amongMany (hlong : maxBoundTexts ≤ others.length) (hnul : ∀ v ∈ others, Text.IsNulFree v.asText)
    (object : String) (hobject : Text.IsNulFree object) :
    (amongMany object others).IsOverSchema ∧ (∀ t ∈ (amongMany object others).tests, t.HasNulFreeTexts) ∧
      (amongMany object others).toFilter.params = [.integer 5] ∧ (amongMany object others).IsWithinLimits := by
  have htests : (amongMany object others).tests =
      [.isIn "object" (.text object :: others), .compare "created_timestamp" .atLeast (.integer 5)] := rfl
  have hall : ∀ v ∈ Literal.text object :: others, Text.IsNulFree v.asText := List.forall_mem_cons.mpr ⟨hobject, hnul⟩
  have hlist := listFilter_quoted hall (Nat.lt_succ_of_le hlong)
  have hparams : (amongMany object others).toFilter.params = [.integer 5] := by
    simp [amongMany, toFilter, connected, hlist]
  refine ⟨?_, ?_, hparams, ?_, ?_, ?_⟩
  · rw [IsOverSchema, htests]
    simpa [testedColumn?] using ⟨⟨Column.object, rfl⟩, Column.createdTimestamp, rfl⟩
  · rw [htests]
    rintro t ht
    obtain rfl | rfl := by simpa using ht
    · exact hall
    · decide
  · rw [paramCount, hparams]
    decide
  · have hheight := height_inList_le .object (decide (maxBoundTexts < (Literal.text object :: others).length)) 0
      (.text object) others (fun _ => 0)
    have htime (k : Nat) : (Expr.compare .atLeast (written.column Column.createdTimestamp.name) (.param k)).height
        (fun _ => 0) = 2 := by simp [written, Expr.height]
    have hexpr : ∃ k, written.expr 0 (amongMany object others) = .and (inList (written.column Column.object.name)
        (listExprs (decide (maxBoundTexts < (Literal.text object :: others).length)) 0 (.text object :: others)))
        (.compare .atLeast (written.column Column.createdTimestamp.name) (.param k)) := ⟨_, rfl⟩
    obtain ⟨k, hexpr⟩ := hexpr
    rw [hexpr, Expr.height, htime]
    exact Nat.le_trans (Nat.succ_le_succ (Nat.max_le.mpr ⟨hheight, by decide⟩)) (by decide)
  · rw [htests]
    simp [HasShortPattern]

theorem inlineText_amongMany (hlong : maxBoundTexts ≤ others.length) (hnul : ∀ v ∈ others, Text.IsNulFree v.asText) :
    (amongMany "page?" others).toFilter.inlineText = (amongMany "page5" others).toFilter.clause := by
  obtain ⟨rest, hrest⟩ := exists_clause_amongMany hlong hnul
  have hparams := (isRegular_amongMany hlong hnul "page?" (by decide)).2.2.1
  have hmark : (Literal.text "page?").quoted = "'page?'" := by decide
  have hinteger : (Literal.integer 5).quoted = "5" := by decide
  have hfive : (Literal.text "page5").quoted = "'page5'" := by decide
  have htemplate : (amongMany "page?" others).toFilter =
      (Template.text "object IN ('page" ++ (.place (.integer 5) ++ .text ("'" ++ rest))).toFilter := by
    ext1
    · rw [hrest _ (by decide), hmark, ← String.toList_inj]
      simp
    · rw [hparams]
      simp
  rw [htemplate, (Template.inlineText_iff _).mpr (Template.isLegible_place (by decide) _ _), hrest _ (by decide), hfive,
    ← String.toList_inj]
  simp [hinteger]

/-- A question mark in one of many objects takes the value for the time, and the clause is left with a parameter. -/
theorem find_amongMany (log : EventLog) (hlong : maxBoundTexts ≤ others.length)
    (hnul : ∀ v ∈ others, Text.IsNulFree v.asText) :
    log.find (.text (amongMany "page?" others).toFilter.inlineText) = .error (.storage .queryNotRun) := by
  obtain ⟨hschema, -, hparams, hlimits⟩ := isRegular_amongMany hlong hnul "page5" (by decide)
  have hprepare := EventQuery.prepare_toFilter hschema hlimits.params hlimits.height
  rw [inlineText_amongMany hlong hnul, find, Filter.text_clause, hprepare]
  simp [paramCount, hparams]

end

/-- A long list may leave the text of a clause with a parameter that it has no value for, and no log answers it. -/
theorem inlineText_leaves_parameter : ∃ c : Condition, c.IsOverSchema ∧ (∀ t ∈ c.tests, t.HasNulFreeTexts) ∧
    c.IsWithinLimits ∧ ∀ log : EventLog, (∃ answer, log.find c.toFilter = .ok answer) ∧
      log.find (.text c.toFilter.inlineText) = .error (.storage .queryNotRun) := by
  have hlong : maxBoundTexts ≤ (List.replicate maxBoundTexts (Literal.text "page")).length := by simp
  have hnul : ∀ v ∈ List.replicate maxBoundTexts (Literal.text "page"), Text.IsNulFree v.asText := fun v hv => by
    rw [List.eq_of_mem_replicate hv]
    decide
  obtain ⟨hschema, htexts, -, hlimits⟩ := isRegular_amongMany hlong hnul "page?" (by decide)
  exact ⟨_, hschema, htexts, hlimits, fun log => ⟨⟨_, find_toFilter log hschema hlimits⟩,
    find_amongMany log hlong hnul⟩⟩

end AuditSearch.EventLog
