import AuditSearch.EventLog.Search
import AuditSearch.Proofs.Condition.Naming
import AuditSearch.Proofs.Sql.Evaluation
import AuditSearch.Proofs.Text.Bytes

/-!
Evaluation of the expression of a condition on the row of an event. Its tests are evaluated by the rules of the
database, and the connectives combine their truth.
-/
namespace AuditSearch

/-- The text that a literal counts as where a text is asked for. -/
def Literal.asText : Literal → String
  | integer n => Text.ofInt n.toInt
  | text s => s

namespace Condition

open Sql

/-- Compares what is stored in a column with a literal, as the type of the column prefers. -/
def storedCompare (op : Comparison) (e : Event) (name : String) (v : Literal) : Truth :=
  (Column.named? name).elim none fun column =>
    Value.compareAs op .binary column.type.affinity (.ofLiteral? (e.value column)) (.ofLiteral v)

/-- The truth of a test by the rules of the database, over all of its values. -/
def storedTruth (e : Event) : Condition → Truth
  | always => some true
  | never => some false
  | isIn name vs => Truth.any (vs.map (storedCompare .equal e name))
  | notIn name vs => Truth.not (Truth.any (vs.map (storedCompare .equal e name)))
  | isNull name => some (e.column? name).isNone
  | compare name bound v => storedCompare (boundComparison bound) e name v
  | hasRole name role =>
    if Roles.isCompound role then some false
    else (e.column? name).map fun v =>
      Text.isLike (some Text.wildcardEscape) (Text.readable (rolePattern role)) (Text.readable ("," ++ v.asText ++ ","))
  | all _ | any _ | not _ => none

/-! ### Tests -/

theorem column?_name (e : Event) (column : Column) : e.column? column.name = e.value column := by
  simp [Event.column?, named_name]

section
variable {s : Session} {rows : Nat → Env → Walk Row} {ps : List Literal} {e : Event}

/-- The frame of the row of an event alone. -/
def eventEnv (e : Event) : Env :=
  [.ofRows [e.row]]

theorem eval_column (column : Column) (use : Expr.Use) :
    Expr.eval s rows (eventEnv e) use (found.column column.name) = some (.ofLiteral? (e.value column)) := by
  have hvalue : Expr.columnValue (eventEnv e) (eventShape.ref 0 0 column.number) = .ofLiteral? (e.value column) := by
    cases column <;> rfl
  have hfinish : use.finish (.ofLiteral? (e.value column)) = .ofLiteral? (e.value column) := by
    rcases e.value column with _ | _ | _ <;> cases use <;> rfl
  rw [found_column, columnExpr, Expr.eval_column, hvalue, hfinish]

theorem affinity_column (column : Column) : (found.column column.name).affinity? = some column.type.affinity := by
  cases column <;> rfl

theorem width_column (column : Column) : (found.column column.name).width = 1 := by
  rw [found_column]
  rfl

theorem collation_column (column : Column) : (found.column column.name).collation? = none := by
  rw [found_column]
  rfl

theorem isTotal_column (column : Column) (params : List Value) :
    (found.column column.name).isTotal params = true := by
  rw [found_column]
  rfl

theorem storedCompare_column (op : Comparison) (column : Column) (v : Literal) :
    storedCompare op e column.name v =
      Value.compareAs op .binary column.type.affinity (.ofLiteral? (e.value column)) (.ofLiteral v) := by
  simp [storedCompare, named_name]

theorem getD_params {k : Nat} {v : Literal} (hs : s.params = ps.map Value.ofLiteral) (h : [v] <+: ps.drop k) :
    s.params.getD k .null = .ofLiteral v := by
  obtain ⟨tail, htail⟩ := h
  have hk : ps[k]? = some v := by
    have := congrArg List.head? htail
    simpa [List.head?_drop] using this.symm
  rw [hs]
  simp [List.getD_eq_getElem?_getD, hk]

theorem eval_param {k : Nat} {v : Literal} (hs : s.params = ps.map Value.ofLiteral) (h : [v] <+: ps.drop k)
    (use : Expr.Use) : Expr.eval s rows (eventEnv e) use (.param k) = some (.ofLiteral v) := by
  rw [Expr.eval_param, getD_params hs h]

theorem ofInt_toInt (n : Int64) : Value.ofInt n.toInt = .integer n.toInt := by
  have hlow := n.le_toInt
  have hhigh := n.toInt_lt
  have hbounds : Int64.minValue.toInt = -9223372036854775808 ∧ Int64.maxValue.toInt = 9223372036854775807 := by decide
  simp [Value.ofInt, Text.toInt64?, hbounds]
  omega

theorem eval_value {long : Bool} {k : Nat} {v : Literal} (hs : s.params = ps.map Value.ofLiteral)
    (h : (valueFilter long v).params <+: ps.drop k) (use : Expr.Use) :
    Expr.eval s rows (eventEnv e) use (valueExpr long k v) = some (.ofLiteral v) := by
  cases v with
  | integer n => simp [valueExpr, Expr.eval_literal, Value.ofWritten, ofInt_toInt, Value.ofLiteral]
  | text t =>
    simp only [valueFilter, valueExpr] at h ⊢
    split
    · rfl
    · rename_i hshort
      rw [if_neg hshort] at h
      exact eval_param hs h use

/-- Parameters of two filters that are put together are those of the one and behind them those of the other. -/
theorem prefix_drop {α : Type} {as bs cs : List α} {k : Nat} (h : as ++ bs <+: cs.drop k) :
    as <+: cs.drop k ∧ bs <+: cs.drop (k + as.length) := by
  obtain ⟨tail, htail⟩ := h
  refine ⟨⟨bs ++ tail, by rw [← List.append_assoc, htail]⟩, tail, ?_⟩
  rw [← List.drop_drop, ← htail]
  simp

theorem evalEach_list {long : Bool} {vs : List Literal} (hs : s.params = ps.map Value.ofLiteral) :
    ∀ k, (vs.map (valueFilter long)).flatMap Filter.params <+: ps.drop k →
      Expr.evalEach s rows (eventEnv e) [] (listExprs long k vs) = vs.map fun v => some (.ofLiteral v) := by
  induction vs with
  | nil => exact fun _ _ => rfl
  | cons v vs ih =>
    intro k h
    obtain ⟨hv, hvs⟩ := prefix_drop h
    exact Expr.evalEach_cons (eval_value hs hv _) (ih _ hvs)

/-- Membership is looked for up to a value that is equal, which makes it true whatever the others are. -/
theorem memberTruth_eq (equals : Value → Truth) (xs : List Value) : ∀ seen : Truth, seen ≠ some true →
    memberTruth? equals seen (xs.map some) = some (Truth.or seen (Truth.any (xs.map equals))) := by
  induction xs with
  | nil =>
    intro seen hseen
    rcases seen with _ | _ | _ <;> simp_all [memberTruth?, Truth.any, Truth.or]
  | cons x xs ih =>
    intro seen hseen
    have hany : Truth.any ((x :: xs).map equals) = Truth.or (equals x) (Truth.any (xs.map equals)) := rfl
    rw [List.map_cons, memberTruth?, hany]
    by_cases hx : equals x = some true
    · rcases seen with _ | _ | _ <;> simp_all [Truth.or]
    · have hne : Truth.or seen (equals x) ≠ some true := by
        rcases seen with _ | _ | _ <;> rcases hequals : equals x with _ | _ | _ <;> simp_all [Truth.or]
      simp only [beq_iff_eq, hx, if_false]
      rw [ih _ hne, Truth.or_assoc]

theorem valueExpr_plain (long : Bool) (k : Nat) (v : Literal) :
    (valueExpr long k v).collation? = none ∧ (valueExpr long k v).affinity? = none ∧
      ∀ params, (valueExpr long k v).isTotal params = true := by
  cases v with
  | integer n => exact ⟨rfl, rfl, fun _ => rfl⟩
  | text t =>
    simp only [valueExpr]
    split <;> exact ⟨rfl, rfl, fun _ => rfl⟩

theorem areTotal_list (long : Bool) (params : List Value) (vs : List Literal) :
    ∀ k, Expr.areTotal params (listExprs long k vs) = true := by
  induction vs with
  | nil => exact fun _ => rfl
  | cons v vs ih => exact fun k => Bool.and_eq_true_iff.mpr ⟨(valueExpr_plain long k v).2.2 params, ih _⟩

/-- A comparison with an expression that is a literal, of no collation and no affinity. -/
theorem evaluates_compare {column : Column} {op : Comparison} {b : Expr} {v : Literal}
    (hvalue : Expr.eval s rows (eventEnv e) .value b = some (.ofLiteral v)) (hcollation : b.collation? = none)
    (haffinity : b.affinity? = none) (hb : b.isTotal s.params = true) :
    Evaluates s rows (eventEnv e) (.compare op (found.column column.name) b)
      (storedCompare op e column.name v) := by
  have hcollations : Expr.collationOf (found.column column.name) b = some .binary := by
    simp [Expr.collationOf, collation_column, hcollation]
  refine .ofEval (fun use => ?_) rfl ?_
  · rw [Expr.eval_compare _ (width_column column) hcollations (eval_column column _) hvalue]
    simp [affinity_column, haffinity, Affinity.common, storedCompare_column]
  · exact Expr.isTotal_compare _ (width_column column) hcollations (isTotal_column column _) hb

/-- An equation with a value that has no affinity, as membership in a list of it is read. -/
theorem evaluates_equation {column : Column} {long : Bool} {k : Nat} {v : Literal}
    (hs : s.params = ps.map Value.ofLiteral) (h : (valueFilter long v).params <+: ps.drop k) :
    Evaluates s rows (eventEnv e) (.compare .equal (found.column column.name) (.apply .plain [valueExpr long k v]))
      (storedCompare .equal e column.name v) := by
  obtain ⟨hcollation, -, htotal⟩ := valueExpr_plain long k v
  have hplain : Expr.eval s rows (eventEnv e) .value (.apply .plain [valueExpr long k v]) = some (.ofLiteral v) := by
    have hfinish : (Value.ofLiteral v).unmarked = .ofLiteral v := by cases v <;> rfl
    rw [Expr.eval_apply (by simp) (Expr.evalAll_cons (eval_value hs h _) rfl)]
    exact congrArg some hfinish
  exact evaluates_compare hplain (by simp [Expr.collation?, Expr.firstCollation?, hcollation]) rfl
    (Bool.and_eq_true_iff.mpr ⟨htotal _, rfl⟩)

theorem evaluates_among {column : Column} {long : Bool} {k : Nat} {vs : List Literal}
    (hs : s.params = ps.map Value.ofLiteral) (h : (vs.map (valueFilter long)).flatMap Filter.params <+: ps.drop k) :
    Evaluates s rows (eventEnv e) (.among (found.column column.name) (listExprs long k vs))
      (Truth.any (vs.map (storedCompare .equal e column.name))) := by
  have hlist : Expr.evalEach s rows (eventEnv e) [] (listExprs long k vs) = (vs.map Value.ofLiteral).map some := by
    rw [evalEach_list hs k h, List.map_map]
    rfl
  have hown : (found.column column.name).ownCollation = some .binary := by
    simp [Expr.ownCollation, collation_column]
  refine .ofEval (fun use => ?_) rfl ?_
  · have hmember := memberTruth_eq (fun y => Value.compareAs .equal .binary column.type.affinity
      (.ofLiteral? (e.value column)) y) (vs.map Value.ofLiteral) (some false) (by simp)
    have hequal : storedCompare .equal e column.name = _ := funext (storedCompare_column .equal column)
    rw [Expr.eval_among (width_column column) hown (eval_column column _) hlist, affinity_column, Option.getD_some,
      hmember, hequal, List.map_map, Truth.false_or]
    rfl
  · exact Expr.isTotal_among (width_column column) hown (isTotal_column column _) (areTotal_list long s.params _ k)

theorem evaluates_inList {column : Column} {long : Bool} {k : Nat} {v : Literal} {vs : List Literal}
    (hs : s.params = ps.map Value.ofLiteral)
    (h : ((v :: vs).map (valueFilter long)).flatMap Filter.params <+: ps.drop k) :
    Evaluates s rows (eventEnv e) (inList (found.column column.name) (listExprs long k (v :: vs)))
      (Truth.any ((v :: vs).map (storedCompare .equal e column.name))) := by
  cases vs with
  | nil =>
    have hrow : ∀ items, found.column column.name ≠ .row items := by simp [found_column, columnExpr]
    rw [listExprs, listExprs, inList_value hrow]
    have hequation : Evaluates s rows (eventEnv e) _ (storedCompare .equal e column.name v) :=
      evaluates_equation hs (prefix_drop h).1
    simpa [Truth.any, Truth.or_false] using hequation
  | cons w vs =>
    rw [listExprs, listExprs, inList_values, ← listExprs, ← listExprs]
    exact evaluates_among hs h

theorem evaluates_constant (holds : Bool) : Evaluates s rows (eventEnv e) (constantExpr holds) (some holds) := by
  refine .ofEval (fun use => ?_) rfl rfl
  cases holds <;> rfl

theorem evaluates_isNull (column : Column) :
    Evaluates s rows (eventEnv e) (found.isNull column.name) (some (e.column? column.name).isNone) := by
  have hfound : found.isNull column.name = nullTest true true (found.column column.name) := rfl
  rw [hfound, column?_name]
  by_cases hnull : (found.column column.name).mayBeNull
  · have happly : nullTest true true (found.column column.name) = .apply .isNull [found.column column.name] := by
      simp [nullTest, hnull]
    rw [happly]
    refine .ofEval (fun use => ?_) rfl ?_
    · have hnone : (Value.ofLiteral? (e.value column) == .null) = (e.value column).isNone := by
        rcases e.value column with _ | _ | _ <;> rfl
      rw [Expr.eval_apply (by simp) (Expr.evalAll_cons (eval_column column _) rfl)]
      show some (use.finish (.ofTruth (some (Value.ofLiteral? (e.value column) == .null)))) = _
      rw [hnone]
      cases (e.value column).isNone <;> cases use <;> rfl
    · rw [found_column]
      rfl
  · have hcoalesce : nullTest true true (found.column column.name) = .coalesce [.literal (.integer 0)] := by
      simp [nullTest, hnull]
    have hsome : (e.value column).isNone = false := by
      rw [found_column] at hnull
      cases column <;> first | rfl | exact absurd rfl hnull
    rw [hcoalesce, hsome]
    exact .ofEval (fun use => by cases use <;> rfl) rfl rfl

theorem concatenate_texts (x y : String) : Value.concatenate (.text x) (.text y) = .text (x ++ y) := by
  simp [Value.concatenate, Value.onAllBytes, Value.onBytes, Value.textBytes?, Value.ofTextBytes,
    ← Text.bytesOf_append, Text.ofBytes_bytesOf]

/-- Behind a text, a literal counts as its own text, and null makes the whole null. -/
theorem concatenate_ofLiteral? (x : String) (v : Option Literal) :
    (Value.text x).concatenate (.ofLiteral? v) = (v.map fun w => Value.text (x ++ w.asText)).getD .null := by
  rcases v with _ | n | t
  · rfl
  · have hnumber : (Value.text x).concatenate (.integer n.toInt) =
        (Value.text x).concatenate (.text (Text.ofInt n.toInt)) := rfl
    simp [Value.ofLiteral?, Value.ofLiteral, hnumber, concatenate_texts, Literal.asText]
  · simp [Value.ofLiteral?, Value.ofLiteral, concatenate_texts, Literal.asText]

/-- What is stored in a column with a separator at both ends, null if the column is null. -/
theorem eval_separated (column : Column) (use : Expr.Use) :
    Expr.eval s rows (eventEnv e) use (separated (found.column column.name)) =
      some (((e.value column).map fun v => Value.text ("," ++ v.asText ++ ",")).getD .null) := by
  have hinner : Expr.eval s rows (eventEnv e) .value
      (operation .concatenate (.literal (.text ",")) (found.column column.name)) =
        some ((Value.text ",").concatenate (.ofLiteral? (e.value column))) := by
    have hunmarked : ((Value.text ",").concatenate (.ofLiteral? (e.value column))).unmarked =
        (Value.text ",").concatenate (.ofLiteral? (e.value column)) := by
      rw [concatenate_ofLiteral?]
      cases e.value column <;> rfl
    rw [operation, Expr.eval_apply (by simp) (Expr.evalAll_cons rfl (Expr.evalAll_cons (eval_column column _) rfl))]
    exact congrArg some hunmarked
  rw [separated, operation, Expr.eval_apply (by simp) (Expr.evalAll_cons hinner (Expr.evalAll_cons rfl rfl))]
  refine congrArg some ?_
  show use.finish (((Value.text ",").concatenate _).concatenate (.text ",")) = _
  rw [concatenate_ofLiteral?]
  cases e.value column with
  | none => cases use <;> rfl
  | some v =>
    rw [Option.map_some, Option.map_some, Option.getD_some, Option.getD_some, concatenate_texts]
    cases use <;> rfl

theorem isTotal_separated (column : Column) (params : List Value) :
    (separated (found.column column.name)).isTotal params = true := by
  rw [found_column]
  rfl

/-- A pattern that is not too long is looked for in what is stored with a separator at both ends. -/
theorem likeEscaped_separated {pattern : String} (hshort : pattern.utf8ByteSize ≤ Value.maxPatternBytes)
    (stored : Option Literal) :
    Value.likeEscaped? (.text pattern) ((stored.map fun v => Value.text ("," ++ v.asText ++ ",")).getD .null)
        (.text "\\") =
      some (.ofTruth (stored.map fun v => Text.isLike (some Text.wildcardEscape) (Text.readable pattern)
        (Text.readable ("," ++ v.asText ++ ",")))) := by
  have hescape : Value.readable (Text.bytesOf "\\") = ['\\'] := by
    rw [Text.readable_bytesOf]
    rfl
  have hlength : ¬Value.maxPatternBytes < (Text.bytesOf pattern).length := by
    rw [Text.length_bytesOf]
    omega
  cases stored with
  | none => simp [Value.likeEscaped?, Value.textBytes?, hescape, Value.matched?, hlength]
  | some v =>
    simp [Value.likeEscaped?, Value.textBytes?, hescape, Value.matched?, hlength, Text.readable_bytesOf,
      Text.wildcardEscape]

/-- A test for a role by an expression that is the pattern for the role. -/
theorem evaluates_hasRole {column : Column} {role : String} {b : Expr}
    (hpattern : Expr.eval s rows (eventEnv e) .value b = some (.text (rolePattern role)))
    (hshort : (rolePattern role).utf8ByteSize ≤ Value.maxPatternBytes) (hb : b.isShortPattern s.params = true) :
    Evaluates s rows (eventEnv e)
      (found.isLike (separated (found.column column.name)) b (.literal (.text "\\")))
      ((e.column? column.name).map fun v =>
        Text.isLike (some Text.wildcardEscape) (Text.readable (rolePattern role))
          (Text.readable ("," ++ v.asText ++ ","))) := by
  have hisLike (a b c : Expr) : found.isLike a b c = .apply (.routine .like) [b, a, c] := rfl
  rw [column?_name, hisLike]
  refine .ofEval (fun use => ?_) rfl ?_
  · have hescape : Expr.eval s rows (eventEnv e) .value (.literal (.text "\\")) = some (.text "\\") := rfl
    rw [Expr.eval_apply (by simp) (Expr.evalAll_cons hpattern
      (Expr.evalAll_cons (eval_separated column _) (Expr.evalAll_cons hescape rfl)))]
    refine (congrArg (Option.map use.finish) (likeEscaped_separated hshort _)).trans ?_
    rcases (e.value column).map _ with _ | _ | _ <;> cases use <;> rfl
  · show (Expr.isShortPattern s.params b && Expr.isTotal s.params _ && Expr.isEscape _) = true
    rw [hb, isTotal_separated]
    rfl

theorem isShortPattern_param {k : Nat} {pattern : String} (hs : s.params = ps.map Value.ofLiteral)
    (h : [Literal.text pattern] <+: ps.drop k) (hshort : pattern.utf8ByteSize ≤ Value.maxPatternBytes) :
    (Expr.param k).isShortPattern s.params = true := by
  rw [Expr.isShortPattern, getD_params hs h]
  exact decide_eq_true hshort

/-! ### Conditions -/

/-- The pattern for the role that a test looks for is no longer than the database takes. -/
def HasShortPattern : Condition → Prop
  | hasRole _ role => Roles.isCompound role ∨ (rolePattern role).utf8ByteSize ≤ Value.maxPatternBytes
  | _ => True

instance : DecidablePred HasShortPattern
  | hasRole _ role =>
    inferInstanceAs (Decidable (Roles.isCompound role ∨ (rolePattern role).utf8ByteSize ≤ Value.maxPatternBytes))
  | always | never | all _ | any _ | not _ | isIn _ _ | notIn _ _ | isNull _ | compare _ _ _ => isTrue trivial

theorem evaluates_test {c : Condition} (hc : c.isTest)
    (hcolumn : ∀ name ∈ c.testedColumn?, ∃ column : Column, column.name = name) (hshort : c.HasShortPattern)
    (hs : s.params = ps.map Value.ofLiteral) {k : Nat} (h : c.toFilter.params <+: ps.drop k) :
    Evaluates s rows (eventEnv e) (found.test k c) (storedTruth e c) := by
  cases c with
  | always | never => exact evaluates_constant _
  | isIn name vs =>
    obtain ⟨column, rfl⟩ := hcolumn name rfl
    cases vs with
    | nil => exact evaluates_constant false
    | cons v vs => exact evaluates_inList hs (by simpa [toFilter, listFilter] using h)
  | notIn name vs =>
    obtain ⟨column, rfl⟩ := hcolumn name rfl
    cases vs with
    | nil => exact evaluates_constant true
    | cons v vs => exact (evaluates_inList hs (by simpa [toFilter, listFilter] using h)).not
  | isNull name =>
    obtain ⟨column, rfl⟩ := hcolumn name rfl
    exact evaluates_isNull column
  | compare name bound v =>
    obtain ⟨column, rfl⟩ := hcolumn name rfl
    exact evaluates_compare (eval_param hs h _) rfl rfl rfl
  | hasRole name role =>
    obtain ⟨column, rfl⟩ := hcolumn name rfl
    simp only [Wording.test, storedTruth]
    split
    · exact evaluates_constant false
    · rename_i hrole
      simp only [toFilter, hrole] at h
      have hshort := hshort.resolve_left hrole
      exact evaluates_hasRole (eval_param hs h _) hshort (isShortPattern_param hs h hshort)
  | all _ | any _ | not _ => simp [isTest] at hc

/-- Parts that are joined in turn have the truth of the parts, combined from the right. -/
theorem evaluates_behind {join : Expr → Expr → Expr} {combine : Truth → Truth → Truth} {neutral : Truth}
    (hjoin : ∀ {a b t u}, Evaluates s rows (eventEnv e) a t → Evaluates s rows (eventEnv e) b u →
      Evaluates s rows (eventEnv e) (join a b) (combine t u))
    (hassoc : ∀ t u v, combine (combine t u) v = combine t (combine u v)) (hneutral : ∀ t, combine t neutral = t)
    {truth : Condition → Truth} {cs : List Condition}
    (h : ∀ c ∈ cs, ∀ k, c.toFilter.params <+: ps.drop k →
      Evaluates s rows (eventEnv e) (c.exprBy found.test k) (truth c)) :
    ∀ k {a t}, Evaluates s rows (eventEnv e) a t → (cs.flatMap fun c => c.toFilter.params) <+: ps.drop k →
      Evaluates s rows (eventEnv e) (exprBehind found.test join a k cs)
        (combine t ((cs.map truth).foldr combine neutral)) := by
  induction cs with
  | nil =>
    intro k a t ha _
    simpa [exprBehind, hneutral] using ha
  | cons c cs ih =>
    intro k a t ha hparams
    obtain ⟨hc, hcs⟩ := prefix_drop hparams
    have hmore := ih (fun d hd => h d (by simp [hd])) _ (hjoin ha (h c (by simp) k hc)) hcs
    rw [hassoc] at hmore
    exact hmore

/-- The parameters of the parts of a connective follow each other, so each part finds its own from its number on. -/
theorem evaluates_parts {join : Expr → Expr → Expr} {combine : Truth → Truth → Truth} {neutral : Truth}
    (hjoin : ∀ {a b t u}, Evaluates s rows (eventEnv e) a t → Evaluates s rows (eventEnv e) b u →
      Evaluates s rows (eventEnv e) (join a b) (combine t u))
    (hassoc : ∀ t u v, combine (combine t u) v = combine t (combine u v)) (hneutral : ∀ t, combine t neutral = t)
    {truth : Condition → Truth} {c : Condition} {cs : List Condition}
    (h : ∀ d ∈ c :: cs, ∀ k, d.toFilter.params <+: ps.drop k →
      Evaluates s rows (eventEnv e) (found.expr k d) (truth d))
    {k : Nat} (hparams : ((c :: cs).flatMap fun d => d.toFilter.params) <+: ps.drop k) :
    Evaluates s rows (eventEnv e) (exprBehind found.test join (found.expr k c) (k + c.paramCount) cs)
      (((c :: cs).map truth).foldr combine neutral) := by
  obtain ⟨hc, hcs⟩ := prefix_drop hparams
  exact evaluates_behind hjoin hassoc hneutral (fun d hd => h d (by simp [hd])) _ (h c (by simp) k hc) hcs

/-- The expression of a condition evaluates to the truth that its connectives give to the truth of its tests. -/
theorem evaluates_expr {c : Condition} (h : c.IsOverSchema) (hshort : ∀ t ∈ c.tests, t.HasShortPattern)
    (hs : s.params = ps.map Value.ofLiteral) :
    ∀ k, c.toFilter.params <+: ps.drop k →
      Evaluates s rows (eventEnv e) (found.expr k c) (c.truthBy (storedTruth e)) := by
  induction c using partsInduction with
  | test c hc =>
    intro k hparams
    have htest : Evaluates s rows (eventEnv e) (found.test k c) (storedTruth e c) :=
      evaluates_test hc (h c (by simp [tests_of_isTest hc])) (hshort c (by simp [tests_of_isTest hc])) hs hparams
    rw [truthBy_of_isTest hc]
    cases c <;> first | exact htest | simp [isTest] at hc
  | all parts ih =>
    intro k hparams
    simp only [truthBy, truthsBy_eq, Truth.all]
    cases parts with
    | nil => exact evaluates_constant true
    | cons c cs =>
      refine evaluates_parts Evaluates.and Truth.and_assoc Truth.and_true (fun d hd => ih d hd
        (fun t ht => h t (mem_tests_all hd ht)) fun t ht => hshort t (mem_tests_all hd ht)) ?_
      simpa [toFilter, connected, List.flatMap_map] using hparams
  | any parts ih =>
    intro k hparams
    simp only [truthBy, truthsBy_eq, Truth.any]
    cases parts with
    | nil => exact evaluates_constant false
    | cons c cs =>
      refine evaluates_parts Evaluates.or Truth.or_assoc Truth.or_false (fun d hd => ih d hd
        (fun t ht => h t (mem_tests_any hd ht)) fun t ht => hshort t (mem_tests_any hd ht)) ?_
      simpa [toFilter, connected, List.flatMap_map] using hparams
  | not c ih =>
    intro k hparams
    exact (ih h hshort k (by simpa [toFilter] using hparams)).not

end

end Condition

end AuditSearch
