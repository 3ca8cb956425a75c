import AuditSearch.Proofs.Condition.Tokens
import AuditSearch.Proofs.Sql.Reading

/-! Parsing of the tokens of a condition, which gives its connectives and tests back. -/
namespace AuditSearch.Condition

open Sql

mutual

/-- The expression of a condition where `test` gives those of its tests, from the number of their first parameter. -/
def exprBy (test : Nat → Condition → Expr) (k : Nat) : Condition → Expr
  | all [] => test k always
  | all (c :: cs) => exprBehind test .and (c.exprBy test k) (k + c.paramCount) cs
  | any [] => test k never
  | any (c :: cs) => exprBehind test .or (c.exprBy test k) (k + c.paramCount) cs
  | not part => .not (part.exprBy test k)
  | c => test k c

def exprBehind (test : Nat → Condition → Expr) (join : Expr → Expr → Expr) (e : Expr) (k : Nat) :
    List Condition → Expr
  | [] => e
  | c :: cs => exprBehind test join (join e (c.exprBy test k)) (k + c.paramCount) cs

end

def valueExpr (long : Bool) (k : Nat) : Literal → Expr
  | .integer n => .literal (.integer n.toInt)
  | .text s => if long && isQuotable s then .literal (.text s) else .param k

/-- The values of a list, of which the first parameter has the number `k`. -/
def listExprs (long : Bool) : Nat → List Literal → List Expr
  | _, [] => []
  | k, v :: vs => valueExpr long k v :: listExprs long (k + (valueFilter long v).params.length) vs

def constantExpr (holds : Bool) : Expr :=
  .compare .equal (.literal (.integer 1)) (.literal (.integer (if holds then 1 else 0)))

def boundComparison : Bound → Comparison
  | .atLeast => .atLeast
  | .atMost => .atMost

/-- How the parts of tests are written. -/
structure Wording where
  column : String → Expr
  isNull : String → Expr
  isLike : Expr → Expr → Expr → Expr

/-- A stored role list with a separator at both ends. -/
def separated (column : Expr) : Expr :=
  operation .concatenate (operation .concatenate (.literal (.text ",")) column) (.literal (.text ","))

def Wording.test (w : Wording) (k : Nat) : Condition → Expr
  | isIn _ [] | never => constantExpr false
  | notIn _ [] | always => constantExpr true
  | isIn column vs => inList (w.column column) (listExprs (decide (maxBoundTexts < vs.length)) k vs)
  | notIn column vs => .not (inList (w.column column) (listExprs (decide (maxBoundTexts < vs.length)) k vs))
  | .isNull column => w.isNull column
  | compare column bound _ => .compare (boundComparison bound) (w.column column) (.param k)
  | hasRole column role =>
    if Roles.isCompound role then constantExpr false
    else w.isLike (separated (w.column column)) (.param k) (.literal (.text "\\"))
  | all _ | any _ | not _ => .literal .null

def Wording.expr (w : Wording) (k : Nat) (c : Condition) : Expr :=
  c.exprBy w.test k

def written : Wording where
  column name := .name ⟨[], name, .bare⟩
  isNull name := .apply .isNull [.name ⟨[], name, .bare⟩]
  isLike subject pattern escape := patternTest "like" subject pattern [escape]

/-! ### Tests -/

theorem nameExpr_column (column : Column) : nameExpr? column.name = some (written.column column.name) := by
  cases column <;> rfl

/-- A value is read whatever the binding strength is, if nothing goes on behind it. -/
theorem expression_valueTokens (long : Bool) (k : Nat) (v : Literal) {rest : List Token} {strength : Nat}
    (hrest : ∀ u ∈ rest.head?, u ≠ .leftParen ∧ u ≠ .dot) (hs : strength ≤ signStrength)
    (hend : ∀ n, ∀ s ≥ strength, ∀ e, further (n + 2) s e rest = some (e, rest)) (fuel : Nat) :
    expression (fuel + 5) strength (valueTokens long k v ++ rest) = some (valueExpr long k v, rest) := by
  cases v with
  | integer n =>
    have hnumber := expression_operand (t := .integer n.toInt.natAbs) rfl rest hrest
    simp only [valueTokens, integerTokens, valueExpr]
    split
    · rename_i hneg
      have habs : ((n.toInt.natAbs : Nat) : Int) = -n.toInt := by omega
      have hread := hnumber (fuel + 3) signStrength
      rw [hend _ _ hs] at hread
      simp [expression, hread, hend, negatedAt, negated, habs, hneg, Int.not_lt.mpr (Int.le_of_lt hneg)]
    · have habs : ((n.toInt.natAbs : Nat) : Int) = n.toInt := by omega
      have hread := hnumber (fuel + 4) strength
      rw [hend _ _ (Nat.le_refl _), habs] at hread
      exact hread
  | text s =>
    simp only [valueTokens, valueExpr]
    split
    · exact (expression_operand (t := .text s) rfl rest hrest _ _).trans (hend _ _ (Nat.le_refl _) _)
    · exact (expression_operand (t := .param k) rfl rest hrest _ _).trans (hend _ _ (Nat.le_refl _) _)

/-- Behind a value of a list stands a comma or a closing parenthesis. -/
def EndsValue (rest : List Token) : Prop :=
  ∃ t us, rest = t :: us ∧ (t = .rightParen ∨ t = .comma)

theorem expression_value (long : Bool) (k : Nat) (v : Literal) (rest : List Token) (h : EndsValue rest) (fuel : Nat) :
    expression (fuel + 5) 0 (valueTokens long k v ++ rest) = some (valueExpr long k v, rest) := by
  obtain ⟨t, us, rfl, ht⟩ := h
  refine expression_valueTokens long k v ?_ (Nat.zero_le _) (fun n s _ e => ?_) fuel
  · obtain rfl | rfl := ht <;> simp
  · exact further_end (by simpa using ht) s n e

theorem valueTokens_head (long : Bool) (k : Nat) (v : Literal) :
    ∃ t us, valueTokens long k v = t :: us ∧ startsOperand t := by
  cases v with
  | integer n => by_cases h : n.toInt < 0 <;> simp [valueTokens, integerTokens, h, startsOperand]
  | text s => by_cases h : long && isQuotable s <;> simp [valueTokens, h, startsOperand]

theorem listTokens_head (long : Bool) (k : Nat) (v : Literal) (vs : List Literal) :
    ∃ t us, listTokens long k (v :: vs) = t :: us ∧ startsOperand t := by
  obtain ⟨t, us, h, ht⟩ := valueTokens_head long k v
  cases vs with
  | nil => exact ⟨t, us, by simpa [listTokens] using h, ht⟩
  | cons w vs => exact ⟨t, _, by rw [listTokens, h]; rfl, ht⟩

/-- The values of a list are read up to the closing parenthesis. -/
theorem expressions_list (long : Bool) {vs : List Literal} (hvs : vs ≠ []) (rest : List Token) :
    ∀ k done fuel, (listTokens long k vs).length + 6 ≤ fuel →
      expressions fuel done (listTokens long k vs ++ .rightParen :: rest) =
        some (done.reverse ++ listExprs long k vs, rest) := by
  induction vs with
  | nil => exact absurd rfl hvs
  | cons v vs ih =>
    intro k done fuel hfuel
    obtain ⟨n, rfl⟩ : ∃ n, fuel = n + 6 := ⟨fuel - 6, by omega⟩
    cases vs with
    | nil =>
      have hread := expression_value long k v (.rightParen :: rest) ⟨_, _, rfl, .inl rfl⟩ n
      simp [listTokens, listExprs, expressions, hread]
    | cons w vs =>
      have hread := expression_value long k v (.comma :: (listTokens long
        (k + (valueFilter long v).params.length) (w :: vs) ++ .rightParen :: rest)) ⟨_, _, rfl, .inr rfl⟩ n
      have hmore := ih (by simp) (k + (valueFilter long v).params.length) (valueExpr long k v :: done) (n + 5)
        (by simp [listTokens] at hfuel ⊢; omega)
      simp only [listTokens, List.append_assoc, List.cons_append, expressions, hread, hmore]
      simp [listExprs]

theorem isOperand_constant (holds : Bool) : IsOperand (constantTokens holds) (constantExpr holds) := by
  refine ⟨2, by simp [constantTokens], fun rest hrest strength hs fuel hfuel => ?_⟩
  have hs : ¬4 < strength := Nat.not_lt.mpr (Nat.le_trans hs (by decide))
  obtain ⟨n, rfl⟩ : ∃ n, fuel = n + 6 := ⟨fuel - 6, by simp [constantTokens] at hfuel; omega⟩
  have hright := expression_lastOperand (t := .integer (if holds then 1 else 0)) (s := 5) rfl hrest (n + 1)
    (by decide)
  have hleft := expression_operand (t := .integer 1) rfl (.equal :: .integer (if holds then 1 else 0) :: rest)
    (by simp) (n + 5) strength
  simp only [constantTokens, List.cons_append, List.nil_append, hleft]
  cases holds <;> simp at hright <;> simp [further, operator?, testStrength, hs, hright, constantExpr]

variable (column : Column)

theorem isOperand_isNull :
    IsOperand [.name column.name, .is, .null] (written.isNull column.name) := by
  refine ⟨2, by simp, fun rest hrest strength hs fuel hfuel => ?_⟩
  have hs : ¬4 < strength := Nat.not_lt.mpr (Nat.le_trans hs (by decide))
  obtain ⟨n, rfl⟩ : ∃ n, fuel = n + 6 := ⟨fuel - 6, by simp at hfuel; omega⟩
  have hright := expression_lastOperand (t := .null) (s := 5) rfl hrest (n + 1) (by decide)
  have hleft := expression_operand (t := .name column.name) (nameExpr_column column) (.is :: .null :: rest)
    (by simp) (n + 5) strength
  simp only [List.cons_append, List.nil_append, hleft]
  simp [further, operator?, testStrength, hs, hright, suffix?, isTest?, sameness, written]

theorem isOperand_comparison (bound : Bound) {ts : List Token} {e : Expr} (hts : ts ≠ [])
    (hread : ∀ rest, EndsOperand rest → ∀ fuel, expression (fuel + 5) 6 (ts ++ rest) = some (e, rest)) :
    IsOperand (.name column.name :: bound.token :: ts)
      (.compare (boundComparison bound) (written.column column.name) e) := by
  refine ⟨2, by simp, fun rest hrest strength hs fuel hfuel => ?_⟩
  have hs : ¬5 < strength := Nat.not_lt.mpr (Nat.le_trans hs (by decide))
  have hpos := List.length_pos_iff.mpr hts
  obtain ⟨n, rfl⟩ : ∃ n, fuel = n + 7 := ⟨fuel - 7, by simp at hfuel; omega⟩
  have hright := hread rest hrest n
  have hleft := expression_operand (t := .name column.name) (nameExpr_column column)
    (bound.token :: ts ++ rest) (by cases bound <;> simp [Bound.token]) (n + 6) strength
  simp only [List.cons_append] at hleft ⊢
  rw [hleft]
  cases bound <;> simp [further, operator?, hs, hright, Bound.token, boundComparison]

theorem isOperand_compare (bound : Bound) (k : Nat) :
    IsOperand [.name column.name, bound.token, .param k]
      (.compare (boundComparison bound) (written.column column.name) (.param k)) :=
  isOperand_comparison column bound (by simp) fun _ hrest n =>
    expression_lastOperand rfl hrest (n + 2) (by decide)

theorem isOperand_list (opposite long : Bool) (k : Nat) (v : Literal) (vs : List Literal) :
    IsOperand (.name column.name :: ((if opposite then [.not, .isIn] else [.isIn]) ++
        enclosed true (listTokens long k (v :: vs))))
      (oppositeIf opposite (inList (written.column column.name) (listExprs long k (v :: vs)))) := by
  have hlength : 3 ≤ (.name column.name :: ((if opposite then [.not, .isIn] else [.isIn]) ++
      enclosed true (listTokens long k (v :: vs)))).length := by
    simp only [enclosed, if_true, List.length_append, List.length_cons]
    omega
  refine ⟨3, hlength, fun rest hrest strength hs fuel hfuel => ?_⟩
  have hs : ¬4 < strength := Nat.not_lt.mpr (Nat.le_trans hs (by decide))
  simp only [enclosed, if_true, List.length_cons, List.length_append, List.length_nil] at hfuel
  obtain ⟨n, rfl⟩ : ∃ n, fuel = n + 6 := ⟨fuel - 6, by omega⟩
  have hlist := expressions_list long (List.cons_ne_nil v vs) rest k [] (n + 3) (by omega)
  obtain ⟨t, us, htokens, ht⟩ := listTokens_head long k v vs
  -- The list is neither empty nor a query: its first token starts an operand.
  have hparen : t ≠ .rightParen := by rintro rfl; simp [startsOperand] at ht
  have hquery : ∀ n, t ≠ .query n := by rintro n rfl; simp [startsOperand] at ht
  rw [htokens] at hlist ⊢
  have hleft := expression_operand (t := .name column.name) (nameExpr_column column)
    ((if opposite then [.not, .isIn] else [.isIn]) ++ .leftParen :: (t :: us ++ .rightParen :: rest))
    (by cases opposite <;> simp) (n + 5) strength
  simp only [enclosed, if_true, List.cons_append, List.append_assoc, List.nil_append] at hlist hleft ⊢
  rw [hleft]
  cases opposite <;>
    simp [further, operator?, testStrength, hs, suffix?, isTest?, test, opposite?, hlist, hparen, hquery, membership,
      listExprs, oppositeIf]

theorem isWhole_separated :
    IsWhole [.text ",", .concat, .name column.name, .concat, .text ","] (separated (written.column column.name)) := by
  intro rest hrest fuel hfuel
  obtain ⟨n, rfl⟩ : ∃ n, fuel = n + 9 := ⟨fuel - 9, by simp at hfuel; omega⟩
  have hlast := expression_lastOperand (t := .text ",") (s := 11) rfl hrest.endsOperand (n + 3) (by decide)
  have hname := expression_operand (t := .name column.name) (nameExpr_column column)
    (.concat :: .text "," :: rest) (by simp) (n + 6) 11
  have hfirst := expression_operand (t := .text ",") rfl
    (.concat :: .name column.name :: .concat :: .text "," :: rest) (by simp) (n + 8) 0
  have hend := further_end (fun t ht => .inl (hrest t ht)) 0 (n + 4) (separated (written.column column.name))
  simp only [List.cons_append, List.nil_append, hfirst]
  simp [further, operator?, hname, hlast]
  exact hend

/-- A role list that is separated is like a pattern, which is one token. -/
theorem isOperand_hasRole {t : Token} {e : Expr} (ht : operand? t = some e) :
    IsOperand (enclosed true [.text ",", .concat, .name column.name, .concat, .text ","] ++
        [.like, t, .escape, .text "\\"])
      (written.isLike (separated (written.column column.name)) e (.literal (.text "\\"))) := by
  refine ⟨3, by simp [enclosed], fun rest hrest strength hs fuel hfuel => ?_⟩
  have hs : ¬4 < strength := Nat.not_lt.mpr (Nat.le_trans hs (by decide))
  simp only [enclosed, if_true, List.length_cons, List.length_append, List.length_nil] at hfuel
  obtain ⟨n, rfl⟩ : ∃ n, fuel = n + 7 := ⟨fuel - 7, by omega⟩
  have hsubject := isWhole_separated column (.rightParen :: .like :: t :: .escape :: .text "\\" :: rest)
    (by simp [EndsWhole]) (n + 6) (by simp; omega)
  have hpattern := expression_operand ht (.escape :: .text "\\" :: rest) (by simp) (n + 3) 5
  have hescape := expression_lastOperand (t := .text "\\") (s := 5) rfl hrest (n + 1) (by decide)
  simp only [List.cons_append, List.nil_append] at hsubject
  simp [enclosed, expression, hsubject, further, operator?, testStrength, hs, suffix?, isTest?, test, opposite?,
    patternWord?, hpattern, hescape, written, oppositeIf]

/-! ### Conditions -/

theorem tokens_head (c : Condition) (k : Nat) : ∃ t us, c.tokens k = t :: us ∧ startsOperand t := by
  induction c using partsInduction with
  | test c hc =>
    cases c with
    | always | never => exact ⟨_, _, rfl, rfl⟩
    | isIn _ vs | notIn _ vs => cases vs <;> exact ⟨_, _, rfl, rfl⟩
    | isNull _ | compare _ _ _ => exact ⟨_, _, rfl, rfl⟩
    | hasRole _ role =>
      by_cases h : Roles.isCompound role <;> simp [tokens, h, constantTokens, enclosed, startsOperand]
    | all _ | any _ | not _ => simp [isTest] at hc
  | all parts ih | any parts ih =>
    cases parts with
    | nil => exact ⟨_, _, rfl, rfl⟩
    | cons c cs =>
      obtain ⟨t, us, htokens, ht⟩ := ih c (by simp)
      simp only [tokens, enclosed]
      split
      · exact ⟨_, _, rfl, rfl⟩
      · exact ⟨t, _, by rw [htokens]; rfl, ht⟩
  | not c ih => exact ⟨_, _, rfl, rfl⟩

theorem isOperand_enclosed {c : Condition} {k : Nat} {e : Expr} (h : IsWhole (c.tokens k) e) :
    IsOperand (enclosed true (c.tokens k)) e := by
  obtain ⟨t, us, htokens, ht⟩ := tokens_head c k
  rw [htokens] at h ⊢
  exact h.enclosed ht

/-- The tokens of further parts with the expressions that they are read as. -/
def partsBehind (test : Nat → Condition → Expr) (k : Nat) : List Condition → List (List Token × Expr)
  | [] => []
  | c :: cs =>
    (enclosed (isConnective c) (c.tokens k), c.exprBy test k) :: partsBehind test (k + c.paramCount) cs

theorem tokensBehind_eq (test : Nat → Condition → Expr) (word : Token) (cs : List Condition) :
    ∀ k, tokensBehind word k cs = behind word (partsBehind test k cs) := by
  induction cs with
  | nil => exact fun _ => rfl
  | cons c cs ih => simp [tokensBehind, partsBehind, behind, ih]

theorem exprBehind_eq (test : Nat → Condition → Expr) (join : Expr → Expr → Expr) (cs : List Condition) :
    ∀ k e, exprBehind test join e k cs = chain join e (partsBehind test k cs) := by
  induction cs with
  | nil => exact fun _ _ => rfl
  | cons c cs ih => simp [exprBehind, partsBehind, chain, ih]

/-- What is shown of a condition: its tokens are read as its expression, by themselves and as those of a part. -/
structure IsParsed (k : Nat) (c : Condition) : Prop where
  whole : IsWhole (c.tokens k) (written.expr k c)
  operand : IsOperand (enclosed (isConnective c) (c.tokens k)) (written.expr k c)
  notZero : isZero (written.expr k c) = false

theorem isParsed_of_isOperand {c : Condition} {k : Nat} {e : Expr} (h : IsOperand (c.tokens k) e)
    (he : written.expr k c = e) (hzero : isZero e = false) : IsParsed k c := by
  subst he
  refine ⟨h.isWhole, ?_, hzero⟩
  by_cases hc : isConnective c
  · rw [hc]
    exact isOperand_enclosed h.isWhole
  · simpa [hc, enclosed] using h

theorem isParsed_of_isWhole {c : Condition} {k : Nat} (hc : isConnective c)
    (h : IsWhole (c.tokens k) (written.expr k c)) (hzero : isZero (written.expr k c) = false) : IsParsed k c :=
  ⟨h, hc ▸ isOperand_enclosed h, hzero⟩

theorem isZero_inList (a : Expr) (e : Expr) (es : List Expr) : isZero (inList a (e :: es)) = false := by
  unfold inList
  repeat' split
  all_goals simp_all [isZero]

/-- Parts that are parsed are so with words for a connective between them. -/
theorem isWhole_parts {word : Token} {join : Expr → Expr → Expr} (hjoin : Joins word join) {c : Condition}
    {cs : List Condition} (h : ∀ part ∈ c :: cs, ∀ k, IsParsed k part) (k : Nat) :
    IsWhole (enclosed (isConnective c) (c.tokens k) ++ tokensBehind word (k + c.paramCount) cs)
      (exprBehind written.test join (c.exprBy written.test k) (k + c.paramCount) cs) ∧
    isZero (exprBehind written.test join (c.exprBy written.test k) (k + c.paramCount) cs) = false := by
  have hc := h c (by simp) k
  have hparts : ∀ k, ∀ p ∈ partsBehind written.test k cs, IsOperand p.1 p.2 ∧ isZero p.2 = false := by
    have hcs : ∀ part ∈ cs, ∀ k, IsParsed k part := fun part hpart => h part (by simp [hpart])
    clear h hc
    induction cs with
    | nil => simp [partsBehind]
    | cons d ds ih =>
      intro k p hp
      rw [partsBehind, List.mem_cons] at hp
      obtain rfl | hp := hp
      · have hd := hcs d (by simp) k
        exact ⟨hd.operand, hd.notZero⟩
      · exact ih (fun part hpart => hcs part (by simp [hpart])) _ p hp
  rw [tokensBehind_eq written.test, exprBehind_eq]
  exact ⟨hc.operand.chain hc.notZero hjoin (hparts _), isZero_chain hjoin _ hc.notZero⟩

theorem isParsed_hasRole (column : Column) (k : Nat) (role : String) : IsParsed k (hasRole column.name role) := by
  by_cases hrole : Roles.isCompound role
  · have htokens : (hasRole column.name role).tokens k = constantTokens false := by simp [tokens, hrole]
    refine isParsed_of_isOperand (e := constantExpr false) (htokens ▸ isOperand_constant false) ?_ rfl
    simp [Wording.expr, exprBy, Wording.test, hrole]
  · refine isParsed_of_isOperand
      (e := written.isLike (separated (written.column column.name)) (.param k) (.literal (.text "\\"))) ?_ ?_ rfl
    · simpa [tokens, hrole] using isOperand_hasRole column (t := .param k) rfl
    · simp [Wording.expr, exprBy, Wording.test, hrole]

theorem isParsed_test {c : Condition} (hc : c.isTest)
    (hcolumn : ∀ name ∈ c.testedColumn?, ∃ column : Column, column.name = name) (k : Nat) : IsParsed k c := by
  cases c with
  | always => exact isParsed_of_isOperand (isOperand_constant true) rfl rfl
  | never => exact isParsed_of_isOperand (isOperand_constant false) rfl rfl
  | isIn name vs =>
    obtain ⟨column, rfl⟩ := hcolumn name rfl
    cases vs with
    | nil => exact isParsed_of_isOperand (isOperand_constant false) rfl rfl
    | cons v vs => exact isParsed_of_isOperand (isOperand_list column false _ k v vs) rfl (isZero_inList _ _ _)
  | notIn name vs =>
    obtain ⟨column, rfl⟩ := hcolumn name rfl
    cases vs with
    | nil => exact isParsed_of_isOperand (isOperand_constant true) rfl rfl
    | cons v vs => exact isParsed_of_isOperand (isOperand_list column true _ k v vs) rfl rfl
  | isNull name =>
    obtain ⟨column, rfl⟩ := hcolumn name rfl
    exact isParsed_of_isOperand (isOperand_isNull column) rfl rfl
  | compare name bound value =>
    obtain ⟨column, rfl⟩ := hcolumn name rfl
    exact isParsed_of_isOperand (isOperand_compare column bound k) rfl rfl
  | hasRole name role =>
    obtain ⟨column, rfl⟩ := hcolumn name rfl
    exact isParsed_hasRole column k role
  | all _ | any _ | not _ => simp [isTest] at hc

theorem isParsed {c : Condition} (h : c.IsOverSchema) : ∀ k, IsParsed k c := by
  induction c using partsInduction with
  | test c hc => exact isParsed_test hc (h c (by simp [tests_of_isTest hc]))
  | all parts ih =>
    intro k
    cases parts with
    | nil => exact isParsed_of_isOperand (isOperand_constant true) rfl rfl
    | cons c cs =>
      have hparts := isWhole_parts joins_and (fun part hpart => ih part hpart fun t ht =>
        h t (mem_tests_all hpart ht)) k
      exact isParsed_of_isWhole rfl hparts.1 hparts.2
  | any parts ih =>
    intro k
    cases parts with
    | nil => exact isParsed_of_isOperand (isOperand_constant false) rfl rfl
    | cons c cs =>
      have hparts := isWhole_parts joins_or (fun part hpart => ih part hpart fun t ht =>
        h t (mem_tests_any hpart ht)) k
      exact isParsed_of_isWhole rfl hparts.1 hparts.2
  | not c ih =>
    intro k
    have hinside := isOperand_enclosed (ih h k).whole
    exact isParsed_of_isOperand (hinside.not (by simp [enclosed])) rfl rfl

end AuditSearch.Condition
