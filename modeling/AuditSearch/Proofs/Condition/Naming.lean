import AuditSearch.EventLog.Query
import AuditSearch.Proofs.Condition.Parsing
import AuditSearch.Proofs.Sql.Numbering

/-!
The query that the clause of a condition is prepared as. Its condition is that of the clause, with columns of the
event table in the place of their names.
-/
namespace AuditSearch.Condition

open Sql

/-! ### Tokens without queries -/

theorem isFlat_value (long : Bool) (k : Nat) (v : Literal) : IsFlat (valueTokens long k v) := by
  cases v with
  | integer n =>
    simp only [valueTokens, integerTokens]
    split
    · exact .cons rfl (.inner rfl)
    · exact .inner rfl
  | text s =>
    simp only [valueTokens]
    split <;> exact .inner rfl

theorem isFlat_list (long : Bool) (vs : List Literal) : ∀ k, IsFlat (listTokens long k vs) := by
  induction vs with
  | nil => exact fun _ => .nil
  | cons v vs ih =>
    intro k
    cases vs with
    | nil => exact isFlat_value long k v
    | cons w vs => exact (isFlat_value long k v).append (.cons rfl (ih _))

theorem startsQuery_eq {t : Token} (ht : startsOperand t) (ts : List Token) : startsQuery (t :: ts) = false := by
  cases t <;> simp_all [startsOperand, startsQuery]

theorem isFlat_membership (long : Bool) (k : Nat) (v : Literal) (vs : List Literal) :
    IsFlat (.isIn :: enclosed true (listTokens long k (v :: vs))) := by
  obtain ⟨t, us, htokens, ht⟩ := listTokens_head long k v vs
  exact ((isFlat_list long (v :: vs) k).enclosed (by rw [htokens]; exact startsQuery_eq ht us)).2

theorem isFlat_enclosed {c : Condition} {k : Nat} (h : IsFlat (c.tokens k)) (isEnclosed : Bool) :
    IsFlat (enclosed isEnclosed (c.tokens k)) := by
  obtain ⟨t, us, htokens, ht⟩ := tokens_head c k
  cases isEnclosed with
  | false => exact h
  | true => exact (h.enclosed (by rw [htokens]; exact startsQuery_eq ht us)).1

theorem isFlat_tokensBehind {word : Token} (hword : isInner word) {cs : List Condition}
    (h : ∀ c ∈ cs, ∀ k, IsFlat (c.tokens k)) : ∀ k, IsFlat (tokensBehind word k cs) := by
  induction cs with
  | nil => exact fun _ => .nil
  | cons c cs ih =>
    intro k
    have hmore := ih (fun d hd => h d (by simp [hd])) (k + c.paramCount)
    exact (IsFlat.cons hword (isFlat_enclosed (h c (by simp) k) _)).append hmore

theorem isFlat_constant (holds : Bool) : IsFlat (constantTokens holds) :=
  .cons rfl (.cons rfl (.inner rfl))

/-- A test of a role column for a pattern, which is one token. -/
theorem isFlat_hasRole (column : String) {t : Token} (ht : isInner t) :
    IsFlat (enclosed true [.text ",", .concat, .name column, .concat, .text ","] ++ [.like, t, .escape, .text "\\"]) := by
  have hinside : IsFlat [.text ",", .concat, .name column, .concat, .text ","] :=
    .cons rfl (.cons rfl (.cons rfl (.cons rfl (.inner rfl))))
  exact (hinside.enclosed rfl).1.append (.cons rfl (.cons ht (.cons rfl (.inner rfl))))

theorem isFlat_tokens (c : Condition) : ∀ k, IsFlat (c.tokens k) := by
  induction c using partsInduction with
  | test c hc =>
    intro k
    cases c with
    | always | never => exact isFlat_constant _
    | isIn _ vs =>
      cases vs with
      | nil => exact isFlat_constant _
      | cons v vs => exact .cons rfl (isFlat_membership _ k v vs)
    | notIn _ vs =>
      cases vs with
      | nil => exact isFlat_constant _
      | cons v vs => exact .cons rfl (.cons rfl (isFlat_membership _ k v vs))
    | isNull _ => exact .cons rfl (.cons rfl (.inner rfl))
    | compare _ bound _ => exact .cons rfl (.cons (by cases bound <;> rfl) (.inner rfl))
    | hasRole column role =>
      simp only [tokens]
      split
      · exact isFlat_constant _
      · exact isFlat_hasRole column rfl
    | all _ | any _ | not _ => simp [isTest] at hc
  | all parts ih | any parts ih =>
    intro k
    cases parts with
    | nil => exact isFlat_constant _
    | cons c cs =>
      exact (isFlat_enclosed (ih c (by simp) k) _).append
        (isFlat_tokensBehind rfl (fun d hd => ih d (by simp [hd])) _)
  | not c ih => exact fun k => .cons rfl (isFlat_enclosed (ih k) true)

/-! ### Names -/

/-- The event table as names refer to it. -/
def eventShape : Shape :=
  .ofTable EventLog.eventTable

def columnExpr (c : Column) : Expr :=
  .column (eventShape.ref 0 0 c.number)

/-- How tests are written when their names have been looked up. -/
def found : Wording where
  column name := ((Column.named? name).map columnExpr).getD (.literal .null)
  isNull name := nullTest true true (((Column.named? name).map columnExpr).getD (.literal .null))
  isLike subject pattern escape := .apply (.routine .like) [pattern, subject, escape]

/-- Where the condition of a query for events stands, below so many others. -/
def conditionPlace (depth : Nat) : Sql.Place :=
  ⟨[⟨[eventShape], []⟩], false, true, false, depth, [], [], none, none⟩

/-- An expression of one value, compared as no collation says, that another one is when its names are looked up. -/
structure Resolves (inner : Place.Inner) (depth : Nat) (e f : Expr) : Prop where
  resolve : Place.resolve inner (conditionPlace depth) e = pure f
  width : f.width = 1
  parts : f.parts = [f]
  collation : f.collation? = none
  queries : f.queries = []
  levels : ∀ outer, f.aggregateLevels outer = []

section
variable {inner : Place.Inner} {depth : Nat} {a b a' b' : Expr}

attribute [local simp] Place.resolve Expr.collation? Expr.queries Expr.aggregateLevels

theorem named_name (column : Column) : Column.named? column.name = some column := by
  cases column <;> rfl

theorem found_column (column : Column) : found.column column.name = columnExpr column := by
  simp [found, named_name]

theorem resolves_literal (v : Value) : Resolves inner depth (.literal v) (.literal v) :=
  ⟨rfl, rfl, rfl, rfl, rfl, fun _ => rfl⟩

theorem resolves_param (i : Nat) : Resolves inner depth (.param i) (.param i) :=
  ⟨rfl, rfl, rfl, rfl, rfl, fun _ => rfl⟩

theorem resolves_column (column : Column) :
    Resolves inner depth (written.column column.name) (found.column column.name) := by
  rw [found_column]
  refine ⟨?_, rfl, rfl, rfl, rfl, fun _ => rfl⟩
  have hlookUp : lookUp? [⟨[eventShape], []⟩] false false ⟨[], column.name, .bare⟩ = some (columnExpr column) := by
    cases column <;> rfl
  simp [written, conditionPlace, hlookUp]
  rfl

namespace Resolves

theorem single (h : Resolves inner depth a a') :
    Place.single (Place.resolve inner (conditionPlace depth) a) = pure a' := by
  simp [Place.single, h.resolve, h.width]

theorem collationOf (h : Resolves inner depth a a') (h' : Resolves inner depth b b') :
    Expr.collationOf a' b' = some .binary := by
  simp [Expr.collationOf, h.collation, h'.collation]

theorem not (h : Resolves inner depth a a') : Resolves inner depth (.not a) (.not a') :=
  ⟨by simp [h.single], rfl, rfl, h.collation, h.queries, h.levels⟩

theorem and (h : Resolves inner depth a a') (h' : Resolves inner depth b b') :
    Resolves inner depth (.and a b) (.and a' b') :=
  ⟨by simp [h.single, h'.single], rfl, rfl, by simp [h.collation, h'.collation],
    by simp [h.queries, h'.queries], by simp [h.levels, h'.levels]⟩

theorem or (h : Resolves inner depth a a') (h' : Resolves inner depth b b') :
    Resolves inner depth (.or a b) (.or a' b') :=
  ⟨by simp [h.single, h'.single], rfl, rfl, by simp [h.collation, h'.collation],
    by simp [h.queries, h'.queries], by simp [h.levels, h'.levels]⟩

theorem resolveAll {as bs : List Expr} (h : List.Forall₂ (Resolves inner depth) as bs) :
    Place.resolveAll inner (conditionPlace depth) as = pure bs := by
  induction h with
  | nil => rfl
  | cons h _ ih => simp [Place.resolveAll, h.single, ih]

theorem ofAll {as bs : List Expr} (h : List.Forall₂ (Resolves inner depth) as bs) :
    Expr.firstCollation? bs = none ∧ Expr.allQueries bs = [] ∧ ∀ outer, Expr.allAggregateLevels outer bs = [] := by
  induction h with
  | nil => exact ⟨rfl, rfl, fun _ => rfl⟩
  | cons h _ ih =>
    simp [Expr.firstCollation?, h.collation, Expr.allQueries, h.queries, Expr.allAggregateLevels, h.levels, ih]

theorem apply {f : Function} (hf : f ≠ .isNull ∧ f ≠ .isNotNull) {as bs : List Expr}
    (h : List.Forall₂ (Resolves inner depth) as bs) : Resolves inner depth (.apply f as) (.apply f bs) := by
  obtain ⟨hcollation, hqueries, hlevels⟩ := ofAll h
  have hall := resolveAll h
  refine ⟨?_, rfl, rfl, hcollation, hqueries, hlevels⟩
  cases f <;> simp_all

theorem compare {op : Comparison} (hop : op ≠ .same ∧ op ≠ .notSame) (h : Resolves inner depth a a')
    (h' : Resolves inner depth b b') : Resolves inner depth (.compare op a b) (.compare op a' b') := by
  refine ⟨?_, rfl, rfl, by simp [h.collation, h'.collation],
    by simp [h.queries, h'.queries], by simp [h.levels, h'.levels]⟩
  have hknown : Place.knownForParts a' b' = pure () := by
    simp [Place.knownForParts, h.parts, h'.parts, Place.known, h.collationOf h']
  have hcompared : compared op a' b' = .compare op a' b' := by
    cases op <;> simp_all [compared]
  simp [h.resolve, h'.resolve, Place.sameWidth, h.width, h'.width, hknown, hcompared]

theorem among {as bs : List Expr} (hrow : ∀ items, a ≠ .row items) (h : Resolves inner depth a a')
    (h' : List.Forall₂ (Resolves inner depth) as bs) : Resolves inner depth (.among a as) (.among a' bs) := by
  obtain ⟨hcollation, hqueries, hlevels⟩ := ofAll h'
  refine ⟨?_, rfl, rfl, by simp [h.collation, hcollation],
    by simp [h.queries, hqueries], by simp [h.levels, hlevels]⟩
  simp [h.single, resolveAll h', Place.known, Expr.ownCollation, h.collation]

end Resolves

theorem resolves_value (long : Bool) (k : Nat) (v : Literal) :
    Resolves inner depth (valueExpr long k v) (valueExpr long k v) := by
  cases v with
  | integer n => exact resolves_literal _
  | text s =>
    simp only [valueExpr]
    split
    · exact resolves_literal _
    · exact resolves_param k

theorem resolves_list (long : Bool) (vs : List Literal) :
    ∀ k, List.Forall₂ (Resolves inner depth) (listExprs long k vs) (listExprs long k vs) := by
  induction vs with
  | nil => exact fun _ => .nil
  | cons v vs ih => exact fun k => .cons (resolves_value long k v) (ih _)

/-- A list of one value is an equation with it. -/
theorem inList_value {a : Expr} (hrow : ∀ items, a ≠ .row items) (long : Bool) (k : Nat) (v : Literal) :
    inList a [valueExpr long k v] = .compare .equal a (.apply .plain [valueExpr long k v]) := by
  have hvalue : (valueExpr long k v).isConstantAsWritten = true ∧
      plain (valueExpr long k v) = .apply .plain [valueExpr long k v] ∧ ∀ q, valueExpr long k v ≠ .query q := by
    cases v with
    | integer n => simp [valueExpr, Expr.isConstantAsWritten, plain]
    | text s => simp only [valueExpr]; split <;> simp [Expr.isConstantAsWritten, plain]
  unfold inList
  cases a <;> simp_all

theorem inList_values (a : Expr) (e f : Expr) (es : List Expr) : inList a (e :: f :: es) = .among a (e :: f :: es) := by
  simp [inList]

theorem resolves_inList {column : Column} (long : Bool) (k : Nat) (v : Literal) (vs : List Literal) :
    Resolves inner depth (inList (written.column column.name) (listExprs long k (v :: vs)))
      (inList (found.column column.name) (listExprs long k (v :: vs))) := by
  have hcolumn : Resolves inner depth (written.column column.name) (found.column column.name) := resolves_column column
  have hlist : List.Forall₂ (Resolves inner depth) (listExprs long k (v :: vs)) (listExprs long k (v :: vs)) :=
    resolves_list long (v :: vs) k
  have hrow : ∀ items, written.column column.name ≠ .row items := by simp [written]
  have hrow' : ∀ items, found.column column.name ≠ .row items := by simp [found_column, columnExpr]
  cases vs with
  | nil =>
    simp only [listExprs, inList_value hrow, inList_value hrow']
    exact hcolumn.compare (by simp) (.apply (by simp) hlist)
  | cons w vs =>
    simp only [listExprs, inList_values]
    exact .among hrow hcolumn hlist

theorem resolves_constant (holds : Bool) : Resolves inner depth (constantExpr holds) (constantExpr holds) :=
  .compare (by simp) (resolves_literal _) (resolves_literal _)

theorem resolves_isNull (column : Column) :
    Resolves inner depth (written.isNull column.name) (found.isNull column.name) := by
  have hcolumn : Resolves inner depth (written.column column.name) (found.column column.name) := resolves_column column
  have hfound : found.isNull column.name = nullTest true true (found.column column.name) := rfl
  have hwritten : written.isNull column.name = .apply .isNull [written.column column.name] := rfl
  rw [hfound, hwritten]
  have hcases : nullTest true true (found.column column.name) = .coalesce [.literal (.integer 0)] ∨
      nullTest true true (found.column column.name) = .apply .isNull [found.column column.name] := by
    simp only [nullTest]
    split
    · exact .inl rfl
    · exact .inr rfl
  have hresolve : Place.resolve inner (conditionPlace depth) (.apply .isNull [written.column column.name]) =
      pure (nullTest true true (found.column column.name)) := by
    rw [Place.resolve, hcolumn.single]
    rfl
  obtain h | h := hcases
  · rw [h] at hresolve ⊢
    exact ⟨hresolve, rfl, rfl, rfl, rfl, fun _ => rfl⟩
  · rw [h] at hresolve ⊢
    rw [found_column] at hresolve ⊢
    exact ⟨hresolve, rfl, rfl, rfl, rfl, fun _ => rfl⟩

theorem resolves_separated (column : Column) :
    Resolves inner depth (separated (written.column column.name)) (separated (found.column column.name)) :=
  .apply (by simp) (.cons (.apply (by simp) (.cons (resolves_literal _) (.cons (resolves_column column) .nil)))
    (.cons (resolves_literal _) .nil))

theorem resolves_hasRole (column : Column) {pattern : Expr} (hpattern : Resolves inner depth pattern pattern) :
    Resolves inner depth (written.isLike (separated (written.column column.name)) pattern (.literal (.text "\\")))
      (found.isLike (separated (found.column column.name)) pattern (.literal (.text "\\"))) := by
  have hargs : List.Forall₂ (Resolves inner depth)
      [pattern, separated (written.column column.name), .literal (.text "\\")]
      [pattern, separated (found.column column.name), .literal (.text "\\")] :=
    .cons hpattern (.cons (resolves_separated column) (.cons (resolves_literal _) .nil))
  obtain ⟨hcollation, hqueries, hlevels⟩ := Resolves.ofAll hargs
  refine ⟨?_, rfl, rfl, hcollation, hqueries, hlevels⟩
  have hname : Aggregate.named? (foldName "like") 3 = none := rfl
  have hcalled (a b c : Expr) : called? "like" [a, b, c] = some (.apply (.routine .like) [a, b, c]) := rfl
  have hcall : written.isLike (separated (written.column column.name)) pattern (.literal (.text "\\")) =
      .call "like" (.ofArguments 3) [pattern, separated (written.column column.name), .literal (.text "\\")] := rfl
  rw [hcall, Place.resolve]
  simp [CallShape.ofArguments, hname, Resolves.resolveAll hargs, CallShape.isBare, hcalled]
  rfl

theorem resolves_test {c : Condition} (hc : c.isTest)
    (hcolumn : ∀ name ∈ c.testedColumn?, ∃ column : Column, column.name = name) (k : Nat) :
    Resolves inner depth (written.test k c) (found.test k c) := by
  cases c with
  | always | never => exact resolves_constant _
  | isIn name vs =>
    obtain ⟨column, rfl⟩ := hcolumn name rfl
    cases vs with
    | nil => exact resolves_constant _
    | cons v vs => exact resolves_inList _ k v vs
  | notIn name vs =>
    obtain ⟨column, rfl⟩ := hcolumn name rfl
    cases vs with
    | nil => exact resolves_constant _
    | cons v vs => exact (resolves_inList _ k v vs).not
  | isNull name =>
    obtain ⟨column, rfl⟩ := hcolumn name rfl
    exact resolves_isNull column
  | compare name bound value =>
    obtain ⟨column, rfl⟩ := hcolumn name rfl
    exact .compare (by cases bound <;> simp [boundComparison]) (resolves_column column) (resolves_param k)
  | hasRole name role =>
    obtain ⟨column, rfl⟩ := hcolumn name rfl
    simp only [Wording.test]
    split
    · exact resolves_constant _
    · exact resolves_hasRole column (resolves_param k)
  | all _ | any _ | not _ => simp [isTest] at hc

theorem resolves_exprBehind {join : Expr → Expr → Expr}
    (hjoin : ∀ {a b a' b'}, Resolves inner depth a a' → Resolves inner depth b b' →
      Resolves inner depth (join a b) (join a' b')) {cs : List Condition}
    (h : ∀ c ∈ cs, ∀ k, Resolves inner depth (c.exprBy written.test k) (c.exprBy found.test k)) :
    ∀ k {e e' : Expr}, Resolves inner depth e e' →
      Resolves inner depth (exprBehind written.test join e k cs) (exprBehind found.test join e' k cs) := by
  induction cs with
  | nil => exact fun _ _ _ he => he
  | cons c cs ih =>
    intro k e e' he
    exact ih (fun d hd => h d (by simp [hd])) _ (hjoin he (h c (by simp) k))

/-- The expression of a condition, looked up, is that of the condition with its tests looked up. -/
theorem resolves_expr {c : Condition} (h : c.IsOverSchema) :
    ∀ k, Resolves inner depth (written.expr k c) (found.expr k c) := by
  induction c using partsInduction with
  | test c hc =>
    intro k
    have htest : Resolves inner depth (written.test k c) (found.test k c) :=
      resolves_test hc (h c (by simp [tests_of_isTest hc])) k
    cases c <;> first | exact htest | simp [isTest] at hc
  | all parts ih =>
    intro k
    have ih : ∀ c ∈ parts, ∀ k, Resolves inner depth (written.expr k c) (found.expr k c) := fun c hc => ih c hc
      fun t ht => h t (mem_tests_all hc ht)
    cases parts with
    | nil => exact resolves_constant true
    | cons c cs =>
      exact resolves_exprBehind Resolves.and (fun d hd => ih d (by simp [hd])) _ (ih c (by simp) k)
  | any parts ih =>
    intro k
    have ih : ∀ c ∈ parts, ∀ k, Resolves inner depth (written.expr k c) (found.expr k c) := fun c hc => ih c hc
      fun t ht => h t (mem_tests_any hc ht)
    cases parts with
    | nil => exact resolves_constant false
    | cons c cs =>
      exact resolves_exprBehind Resolves.or (fun d hd => ih d (by simp [hd])) _ (ih c (by simp) k)
  | not c ih => exact fun k => (ih h k).not

end

end AuditSearch.Condition
