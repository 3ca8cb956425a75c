import AuditSearch.Proofs.Condition.Evaluation
import AuditSearch.Proofs.EventLog.Query

/-!
The clause of a condition means the condition: it is parsed into its connectives and tests, each parameter stands
at its own place, and its truth on a row is that of the condition.
-/
namespace AuditSearch.Condition

open Sql

/-- The numbers of the parameters among tokens, from left to right. -/
def placeholders (ts : List Token) : List Nat :=
  ts.filterMap fun
    | .param k => some k
    | _ => none

section
variable {ts us : List Token} {k : Nat}

@[simp] theorem placeholders_nil : placeholders [] = [] := rfl

@[simp] theorem placeholders_append : placeholders (ts ++ us) = placeholders ts ++ placeholders us :=
  List.filterMap_append ..

@[simp] theorem placeholders_enclosed (isEnclosed : Bool) : placeholders (enclosed isEnclosed ts) = placeholders ts := by
  cases isEnclosed <;> simp [enclosed, placeholders]

theorem placeholders_value (long : Bool) (v : Literal) :
    placeholders (valueTokens long k v) = List.range' k (valueFilter long v).params.length := by
  cases v with
  | integer n =>
    simp only [valueTokens, integerTokens]
    split <;> rfl
  | text s =>
    simp only [valueTokens, valueFilter]
    split <;> rfl

theorem placeholders_list (long : Bool) (vs : List Literal) : ∀ k, placeholders (listTokens long k vs) =
    List.range' k ((vs.map (valueFilter long)).flatMap Filter.params).length := by
  induction vs with
  | nil => exact fun _ => rfl
  | cons v vs ih =>
    intro k
    cases vs with
    | nil => simpa [listTokens] using placeholders_value long v
    | cons w vs =>
      have hmore := ih (k + (valueFilter long v).params.length)
      have hcomma (us : List Token) : placeholders (.comma :: us) = placeholders us := rfl
      rw [listTokens, placeholders_append, hcomma, hmore, placeholders_value, List.range'_append_1]
      simp

/-- The parameters of further parts go on where those of the parts in front end. -/
theorem placeholders_behind {word : Token} (hword : placeholders [word] = []) {cs : List Condition}
    (h : ∀ c ∈ cs, ∀ k, placeholders (c.tokens k) = List.range' k c.paramCount) :
    ∀ k, placeholders (tokensBehind word k cs) = List.range' k (cs.flatMap fun c => c.toFilter.params).length := by
  induction cs with
  | nil => exact fun _ => rfl
  | cons c cs ih =>
    intro k
    have hmore := ih (fun d hd => h d (by simp [hd])) (k + c.paramCount)
    have hfirst := h c (by simp) k
    have hsplit (us : List Token) : placeholders (word :: us) = placeholders us := by
      rw [← List.singleton_append, placeholders_append, hword, List.nil_append]
    rw [tokensBehind, List.cons_append, hsplit, placeholders_append, placeholders_enclosed, hfirst, hmore,
      List.range'_append_1]
    simp [paramCount]

theorem placeholders_parts {word : Token} (hword : placeholders [word] = []) {c : Condition} {cs : List Condition}
    (h : ∀ d ∈ c :: cs, ∀ k, placeholders (d.tokens k) = List.range' k d.paramCount) (k : Nat) :
    placeholders (enclosed (isConnective c) (c.tokens k) ++ tokensBehind word (k + c.paramCount) cs) =
      List.range' k ((c :: cs).flatMap fun d => d.toFilter.params).length := by
  rw [placeholders_append, placeholders_enclosed, h c (by simp),
    placeholders_behind hword (fun d hd => h d (by simp [hd])), List.range'_append_1]
  simp [paramCount]

theorem placeholders_test {c : Condition} (hc : c.isTest) (k : Nat) :
    placeholders (c.tokens k) = List.range' k c.paramCount := by
  cases c with
  | always | never => rfl
  | isIn _ vs | notIn _ vs =>
    cases vs with
    | nil => rfl
    | cons v vs =>
      have hlist := placeholders_list (decide (maxBoundTexts < (v :: vs).length)) (v :: vs) k
      simp only [placeholders] at hlist
      simpa [tokens, placeholders, enclosed, paramCount, toFilter, listFilter, List.filterMap_cons] using hlist
  | isNull _ => rfl
  | compare _ bound _ => cases bound <;> rfl
  | hasRole _ role => by_cases h : Roles.isCompound role <;> simp [tokens, h, paramCount, toFilter] <;> rfl
  | all _ | any _ | not _ => simp [isTest] at hc

/-- The parameters of a condition stand in its tokens in turn, from the number of the first one. -/
theorem placeholders_tokens (c : Condition) : ∀ k, placeholders (c.tokens k) = List.range' k c.paramCount := by
  induction c using partsInduction with
  | test c hc => exact placeholders_test hc
  | all parts ih =>
    intro k
    cases parts with
    | nil => rfl
    | cons c cs =>
      rw [tokens, placeholders_parts rfl ih]
      simp [paramCount, toFilter, connected, List.flatMap_map]
  | any parts ih =>
    intro k
    cases parts with
    | nil => rfl
    | cons c cs =>
      rw [tokens, placeholders_parts rfl ih]
      simp [paramCount, toFilter, connected, List.flatMap_map]
  | not c ih =>
    intro k
    have hnot (us : List Token) : placeholders (.not :: us) = placeholders us := rfl
    rw [tokens, hnot, placeholders_enclosed, ih]
    simp [paramCount, toFilter]

end

/-- What the database allows: so many parameters, an expression so high and patterns so long. -/
structure IsWithinLimits (c : Condition) : Prop where
  params : c.paramCount ≤ ParamNames.maxCount
  height : (written.expr 0 c).height (fun _ => 0) ≤ maxHeight
  patterns : ∀ t ∈ c.tests, t.HasShortPattern

/-- The clause of a condition is scanned into as many parameters as the filter has, which stand there in turn. It is
parsed as the connectives of the condition over its tests and prepared as one condition on the row of an event.
On each row that has the truth that the connectives give to the truth of the tests. -/
theorem toFilter_isFaithful {c : Condition} (h : c.IsOverSchema) (hlimits : c.IsWithinLimits) :
    ∃ ts f, tokens? c.toFilter.clause = some (ts, c.toFilter.params.length) ∧
      placeholders ts = List.range c.toFilter.params.length ∧
      leadingExpr? ts = some (written.expr 0 c, []) ∧
      EventQuery.prepare? c.toFilter.clause =
        some ⟨EventQuery.eventStatement f, c.toFilter.params.length, some f⟩ ∧
      ∀ (s : Session) (rows : Nat → Env → Walk Row) (e : Event), s.params = c.toFilter.params.map Value.ofLiteral →
        Expr.eval s rows (eventEnv e) .value f = some (.ofTruth (c.truthBy (storedTruth e))) ∧
        Expr.holds s rows (eventEnv e) f = some (c.truthBy (storedTruth e) == some true) := by
  refine ⟨c.tokens 0, found.expr 0 c, tokens_toFilter h hlimits.params, ?_, (isParsed h 0).whole.leadingExpr,
    EventQuery.prepare_toFilter h hlimits.params hlimits.height, fun s rows e hs => ?_⟩
  · rw [placeholders_tokens, List.range_eq_range', paramCount]
  · have hevaluates : Evaluates s rows (eventEnv e) (found.expr 0 c) (c.truthBy (storedTruth e)) :=
      evaluates_expr h hlimits.patterns hs 0 (List.prefix_refl _)
    have hholds := hevaluates.test false
    refine ⟨hevaluates.value, ?_⟩
    rcases htruth : c.truthBy (storedTruth e) with _ | _ | _ <;> simpa [Expr.holds, htruth] using hholds

/-- Texts that would end a clause or stand for parameters of it if they were read as part of it. -/
def hostile : Condition :=
  .all [.any [.isIn "actor_login" [.text "' OR 1 = 1 --", .text "?"], .all []],
    .not (.hasRole "actor_roles" "%' ESCAPE '\\"), .compare "alert_code" .atLeast (.integer (-1))]

theorem hostile_isFaithful : hostile.toFilter.params.length = 4 ∧
    ∃ ts f, tokens? hostile.toFilter.clause = some (ts, 4) ∧ placeholders ts = [0, 1, 2, 3] ∧
      leadingExpr? ts = some (written.expr 0 hostile, []) ∧
      EventQuery.prepare? hostile.toFilter.clause = some ⟨EventQuery.eventStatement f, 4, some f⟩ ∧
      ∀ (s : Session) (rows : Nat → Env → Walk Row) (e : Event),
        s.params = hostile.toFilter.params.map Value.ofLiteral →
          Expr.eval s rows (eventEnv e) .value f = some (.ofTruth (hostile.truthBy (storedTruth e))) ∧
          Expr.holds s rows (eventEnv e) f = some (hostile.truthBy (storedTruth e) == some true) :=
  ⟨rfl, toFilter_isFaithful (by decide) ⟨by decide, by decide, by decide⟩⟩

end AuditSearch.Condition
