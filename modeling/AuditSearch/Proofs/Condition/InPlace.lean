import AuditSearch.Proofs.Condition.Legible

/-!
The clause of a condition with its literals in the places of its parameters. It is read as the same connectives over
the same tests, and on each row it has the truth that the condition has.
-/
namespace AuditSearch.Condition

open Sql

/-- The tokens of a text, the expression that they are read as, and that with its names looked up. -/
structure Reading where
  tokens : List Token
  written : Expr
  found : Expr

/-- What is shown of a text without parameters. Its tokens are parsed as the form of it says, and it is true of the
same events as some other expression, which it is at most one higher than: the sign of an integer is a node. -/
structure Reads (isForm : List Token → Expr → Prop) (text : String) (truth : Event → Truth) (other : Nat → Expr)
    (r : Reading) : Prop where
  scans : IsRead (.text text) fun _ => r.tokens
  starts : ∃ t ts, r.tokens = t :: ts ∧ startsOperand t
  flat : IsFlat r.tokens
  form : isForm r.tokens r.written
  notZero : isZero r.written = false
  height : ∀ k, r.written.height (fun _ => 0) ≤ (other k).height (fun _ => 0) + 1
  resolves : ∀ inner depth, Resolves inner depth r.written r.found
  evaluates : ∀ (s : Session) (rows : Nat → Env → Walk Row) (e : Event), s.params = [] →
    Evaluates s rows (eventEnv e) r.found (truth e)

section
variable {text : String} {truth : Event → Truth} {other : Nat → Expr} {r : Reading}

theorem Reads.whole (h : Reads IsOperand text truth other r) : Reads IsWhole text truth other r :=
  { h with form := h.form.isWhole }

theorem Reads.parenthesised (h : Reads IsWhole text truth other r) :
    Reads IsOperand ("(" ++ text ++ ")") truth other { r with tokens := enclosed true r.tokens } := by
  obtain ⟨t, ts, htokens, ht⟩ := h.starts
  refine { h with
    scans := h.scans.parenthesised.congr (by simp [Condition.parenthesised]) rfl
    starts := ⟨_, _, rfl, rfl⟩
    flat := (h.flat.enclosed (htokens ▸ startsQuery_eq ht ts)).1
    form := ?_ }
  have hform := h.form
  simp only [enclosed, if_true, htokens] at hform ⊢
  exact hform.enclosed ht

theorem Reads.not (h : Reads IsOperand text truth other r) :
    Reads IsOperand ("NOT " ++ text) (fun e => Truth.not (truth e)) (fun k => .not (other k))
      ⟨.not :: r.tokens, .not r.written, .not r.found⟩ where
  scans := (isRead_not.spaced h.scans).congr (by simp) rfl
  starts := ⟨_, _, rfl, rfl⟩
  flat := .cons rfl h.flat
  form := by
    obtain ⟨t, ts, htokens, -⟩ := h.starts
    exact h.form.not (by simp [htokens])
  notZero := rfl
  height k := by simpa [Expr.height] using h.height k
  resolves inner depth := (h.resolves inner depth).not
  evaluates s rows e hs := (h.evaluates s rows e hs).not

/-! ### Connectives -/

/-- What a word for a connective is read as, and what that does to truths. -/
structure Connects (word : String) (t : Token) (join : Expr → Expr → Expr) (combine : Truth → Truth → Truth)
    (neutral : Truth) : Prop where
  scans : IsRead (.text word) fun _ => [t]
  joins : Joins t join
  isInner : isInner t
  height : ∀ a b queries, (join a b).height queries = max (a.height queries) (b.height queries) + 1
  resolves : ∀ {inner depth a b a' b'}, Resolves inner depth a a' → Resolves inner depth b b' →
    Resolves inner depth (join a b) (join a' b')
  evaluates : ∀ {s rows env a b t u}, Evaluates s rows env a t → Evaluates s rows env b u →
    Evaluates s rows env (join a b) (combine t u)
  assoc : ∀ t u v, combine (combine t u) v = combine t (combine u v)
  neutral : ∀ t, combine t neutral = t

theorem connects_and : Connects "AND" .and .and Truth.and (some true) where
  scans := isRead_and
  joins := joins_and
  isInner := rfl
  height _ _ _ := by simp [Expr.height]
  resolves := Resolves.and
  evaluates := Evaluates.and
  assoc := Truth.and_assoc
  neutral := Truth.and_true

theorem connects_or : Connects "OR" .or .or Truth.or (some false) where
  scans := isRead_or
  joins := joins_or
  isInner := rfl
  height _ _ _ := by simp [Expr.height]
  resolves := Resolves.or
  evaluates := Evaluates.or
  assoc := Truth.or_assoc
  neutral := Truth.or_false

variable {word : String} {t : Token} {join : Expr → Expr → Expr} {combine : Truth → Truth → Truth} {neutral : Truth}

theorem Reads.snoc (hword : Connects word t join combine neutral) (h : Reads (IsChain t join) text truth other r)
    {text' : String} {truth' : Event → Truth} {other' : Nat → Expr} {r' : Reading}
    (h' : Reads IsOperand text' truth' other' r') :
    Reads (IsChain t join) (text ++ (" " ++ word ++ " " ++ text')) (fun e => combine (truth e) (truth' e))
      (fun k => join (other k) (other' k))
      ⟨r.tokens ++ t :: r'.tokens, join r.written r'.written, join r.found r'.found⟩ where
  scans := (h.scans.spaced (hword.scans.spaced h'.scans)).congr (by simp) rfl
  starts := by
    obtain ⟨u, us, htokens, hu⟩ := h.starts
    exact ⟨u, us ++ t :: r'.tokens, by simp [htokens], hu⟩
  flat := h.flat.append (.cons hword.isInner h'.flat)
  form := h.form.snoc h'.form h'.notZero
  notZero := hword.joins.notZero _ _
  height k := by
    have hleft := h.height k
    have hright := h'.height k
    rw [hword.height, hword.height]
    omega
  resolves inner depth := hword.resolves (h.resolves inner depth) (h'.resolves inner depth)
  evaluates s rows e hs := hword.evaluates (h.evaluates s rows e hs) (h'.evaluates s rows e hs)

/-- Further parts behind a chain, where the numbers of their parameters go on from `offset`. -/
theorem exists_reads_behind (hword : Connects word t join combine neutral) {cs : List Condition}
    (h : ∀ c ∈ cs, ∃ r, Reads IsOperand c.partTemplate.inPlace (fun e => c.truthBy (storedTruth e))
      (fun k => written.expr k c) r) :
    ∀ {d : Template} {truth : Event → Truth} {other : Nat → Expr} {r : Reading} (offset : Nat),
      Reads (IsChain t join) d.inPlace truth other r →
      ∃ r, Reads (IsChain t join) (Template.joined (" " ++ word ++ " ") (d :: cs.map partTemplate)).inPlace
        (fun e => combine (truth e) ((cs.map (truthBy (storedTruth e))).foldr combine neutral))
        (fun k => exprBehind written.test join (other k) (k + offset) cs) r := by
  -- The induction is on the parts that are left, for every chain that may stand in front of them.
  induction cs with
  | nil =>
    intro d truth other r offset hd
    refine ⟨r, ?_⟩
    simpa [Template.joined, exprBehind, hword.neutral] using hd
  | cons c cs ih =>
    intro d truth other r offset hd
    obtain ⟨r', hr'⟩ := h c (by simp)
    have hsnoc := hd.snoc hword { hr' with height := fun k => hr'.height (k + offset) }
    have htext : d.inPlace ++ (" " ++ word ++ " " ++ c.partTemplate.inPlace) =
        (d ++ (.text (" " ++ word ++ " ") ++ c.partTemplate)).inPlace := by
      simp only [Template.inPlace_append, Template.inPlace_text]
    rw [htext] at hsnoc
    obtain ⟨r, hr⟩ := ih (fun b hb => h b (by simp [hb])) (offset + c.paramCount) hsnoc
    have htemplate : Template.joined (" " ++ word ++ " ") (d :: (c :: cs).map partTemplate) =
        Template.joined (" " ++ word ++ " ")
          ((d ++ (.text (" " ++ word ++ " ") ++ c.partTemplate)) :: cs.map partTemplate) := by
      simp [Template.joined]
    refine ⟨r, ?_⟩
    rw [htemplate]
    simpa only [hword.assoc, exprBehind, Wording.expr, Nat.add_assoc, List.map_cons, List.foldr_cons] using hr

/-! ### Tests -/

theorem reads_constant (holds : Bool) : Reads IsOperand (if holds then "1 = 1" else "1 = 0") (fun _ => some holds)
    (fun _ => constantExpr holds) ⟨constantTokens holds, constantExpr holds, constantExpr holds⟩ where
  scans := isRead_constant holds
  starts := ⟨_, _, rfl, rfl⟩
  flat := isFlat_constant holds
  form := isOperand_constant holds
  notZero := rfl
  height _ := Nat.le_succ _
  resolves _ _ := resolves_constant holds
  evaluates _ _ _ _ := evaluates_constant holds

variable (column : Column)

theorem reads_isNull : Reads IsOperand (column.name ++ " IS NULL") (fun e => some (e.column? column.name).isNone)
    (fun _ => written.isNull column.name)
    ⟨[.name column.name, .is, .null], written.isNull column.name, found.isNull column.name⟩ where
  scans := isRead_isNull column
  starts := ⟨_, _, rfl, rfl⟩
  flat := .cons rfl (.cons rfl (.inner rfl))
  form := isOperand_isNull column
  notZero := rfl
  height _ := Nat.le_succ _
  resolves _ _ := resolves_isNull column
  evaluates _ _ _ _ := evaluates_isNull column

theorem valueTokens_quoted {v : Literal} (h : Text.IsNulFree v.asText) (k : Nat) :
    valueTokens true k v = valueTokens true 0 v := by
  cases v with
  | integer n => rfl
  | text s =>
    have hquotable : isQuotable s := isQuotable_iff.mpr h
    simp [valueTokens, hquotable]

theorem listTokens_quoted {vs : List Literal} (h : ∀ v ∈ vs, Text.IsNulFree v.asText) (k : Nat) :
    listTokens true k vs = listTokens true 0 vs := by
  induction vs with
  | nil => rfl
  | cons v vs ih =>
    have hv := h v (by simp)
    have ih := ih fun w hw => h w (by simp [hw])
    cases vs with
    | nil => exact valueTokens_quoted hv k
    | cons w vs =>
      simp only [listTokens, valueFilter_quoted hv, Filter.text_params, List.length_nil, Nat.add_zero]
      rw [valueTokens_quoted hv, ih]

theorem height_value (long long' : Bool) (k k' : Nat) (v : Literal) (queries : Nat → Nat) :
    (valueExpr long k v).height queries = (valueExpr long' k' v).height queries := by
  cases v with
  | integer n => rfl
  | text s =>
    simp only [valueExpr]
    split <;> split <;> rfl

theorem heights_list (long long' : Bool) (queries : Nat → Nat) (vs : List Literal) :
    ∀ k k', Expr.heights queries (listExprs long k vs) = Expr.heights queries (listExprs long' k' vs) := by
  induction vs with
  | nil => exact fun _ _ => rfl
  | cons v vs ih =>
    intro k k'
    simp only [listExprs, Expr.heights]
    rw [height_value long long' k k', ih]

theorem height_value_le (long : Bool) (k : Nat) (v : Literal) (queries : Nat → Nat) :
    (valueExpr long k v).height queries ≤ 2 := by
  cases v with
  | integer n =>
    simp only [valueExpr, Expr.height]
    split <;> decide
  | text s =>
    simp only [valueExpr]
    split <;> exact Nat.le_succ 1

/-- Membership in a list of one value is an equation, where the value stands one lower. -/
theorem height_inList (long : Bool) (k : Nat) (v : Literal) (vs : List Literal) (queries : Nat → Nat) :
    (inList (written.column column.name) (listExprs long k (v :: vs))).height queries =
      max 1 (Expr.heights queries (listExprs long k (v :: vs)) + if vs = [] then 1 else 0) + 1 := by
  have hrow : ∀ items, written.column column.name ≠ .row items := by simp [written]
  have hcolumn : (written.column column.name).height queries = 1 := by simp [written, Expr.height]
  cases vs with
  | nil => simp only [listExprs, inList_value hrow, Expr.height, Expr.heights, hcolumn, if_true]
  | cons w vs => simp only [listExprs, inList_values, Expr.height, hcolumn, reduceCtorEq, if_false, Nat.add_zero]

theorem height_inList_le (long : Bool) (k : Nat) (v : Literal) (vs : List Literal) (queries : Nat → Nat) :
    (inList (written.column column.name) (listExprs long k (v :: vs))).height queries ≤ 4 := by
  have hlist (vs : List Literal) : ∀ k, Expr.heights queries (listExprs long k vs) ≤ 2 := by
    induction vs with
    | nil => exact fun _ => Nat.zero_le 2
    | cons v vs ih => exact fun k => Nat.max_le.mpr ⟨height_value_le long k v queries, ih _⟩
  have hvalues := hlist (v :: vs) k
  rw [height_inList]
  split <;> omega

theorem inPlace_listTemplate (vs : List Literal) :
    (listTemplate vs).inPlace = ", ".intercalate (vs.map Literal.quoted) := by
  have hvalue (long : Bool) (v : Literal) : (valueTemplate long v).inPlace = v.quoted := by
    cases v with
    | integer n => simp [valueTemplate]
    | text s =>
      simp only [valueTemplate]
      split <;> simp
  rw [listTemplate, Template.inPlace_joined, List.map_map]
  simp only [Function.comp_def, hvalue]

theorem reads_list (opposite long : Bool) {v : Literal} {vs : List Literal}
    (hnul : ∀ w ∈ v :: vs, Text.IsNulFree w.asText) :
    Reads IsOperand (column.name ++ (if opposite then " NOT IN " else " IN ") ++
        ("(" ++ ", ".intercalate ((v :: vs).map Literal.quoted) ++ ")"))
      (fun e => if opposite then Truth.not (Truth.any ((v :: vs).map (storedCompare .equal e column.name)))
        else Truth.any ((v :: vs).map (storedCompare .equal e column.name)))
      (fun k => oppositeIf opposite (inList (written.column column.name) (listExprs long k (v :: vs))))
      ⟨.name column.name :: ((if opposite then [.not, .isIn] else [.isIn]) ++
          enclosed true (listTokens true 0 (v :: vs))),
        oppositeIf opposite (inList (written.column column.name) (listExprs true 0 (v :: vs))),
        oppositeIf opposite (inList (found.column column.name) (listExprs true 0 (v :: vs)))⟩ where
  scans := by
    have hlist := isRead_list true (List.cons_ne_nil v vs)
    simp only [joined_quoted hnul, listTokens_quoted hnul] at hlist
    cases opposite with
    | false => exact (hlist.isIn column).congr (by simp [Condition.parenthesised]) (by simp)
    | true => exact (hlist.notIn column).congr (by simp [Condition.parenthesised]) (by simp)
  starts := ⟨_, _, rfl, rfl⟩
  flat := by
    cases opposite with
    | false => exact .cons rfl (isFlat_membership true 0 v vs)
    | true => exact .cons rfl (.cons rfl (isFlat_membership true 0 v vs))
  form := isOperand_list column opposite true 0 v vs
  notZero := by
    cases opposite with
    | false => exact isZero_inList _ _ _
    | true => rfl
  height k := by
    have hheights := heights_list true long (fun _ => 0) (v :: vs) 0 k
    cases opposite <;> simp [oppositeIf, Expr.height, height_inList, hheights]
  resolves _ _ := by
    cases opposite with
    | false => exact resolves_inList true 0 v vs
    | true => exact (resolves_inList true 0 v vs).not
  evaluates s rows e hs := by
    have hs : s.params = ([] : List Literal).map Value.ofLiteral := hs
    have hparams : ((v :: vs).map (valueFilter true)).flatMap Filter.params = [] :=
      congrArg Filter.params (joined_quoted hnul)
    have hany : Evaluates s rows (eventEnv e) (inList (found.column column.name) (listExprs true 0 (v :: vs)))
        (Truth.any ((v :: vs).map (storedCompare .equal e column.name))) :=
      evaluates_inList hs (hparams ▸ List.nil_prefix)
    cases opposite with
    | false => exact hany
    | true => exact hany.not

theorem reads_compare (bound : Bound) {v : Literal} (hnul : Text.IsNulFree v.asText) :
    Reads IsOperand (column.name ++ " " ++ bound.sign ++ " " ++ v.quoted)
      (fun e => storedCompare (boundComparison bound) e column.name v)
      (fun k => .compare (boundComparison bound) (written.column column.name) (.param k))
      ⟨.name column.name :: bound.token :: valueTokens true 0 v,
        .compare (boundComparison bound) (written.column column.name) (valueExpr true 0 v),
        .compare (boundComparison bound) (found.column column.name) (valueExpr true 0 v)⟩ where
  scans := by
    have hread := isRead_value true v
    simp only [valueFilter_quoted hnul, valueTokens_quoted hnul] at hread
    exact hread.compare column bound
  starts := ⟨_, _, rfl, rfl⟩
  flat := .cons rfl (.cons (by cases bound <;> rfl) (isFlat_value true 0 v))
  form := by
    obtain ⟨t, us, htokens, -⟩ := valueTokens_head true 0 v
    refine isOperand_comparison column bound (by simp [htokens]) fun rest hrest fuel => ?_
    exact expression_valueTokens true 0 v hrest.head (by decide)
      (fun n s hs e => further_operand hrest (Nat.le_trans (by decide) hs) n e) fuel
  notZero := rfl
  height _ := by
    -- A negative number is one higher than a parameter for it.
    have hvalue := height_value_le true 0 v (fun _ => 0)
    simp only [Expr.height]
    omega
  resolves _ _ :=
    .compare (by cases bound <;> simp [boundComparison]) (resolves_column column) (resolves_value true 0 v)
  evaluates s rows e hs := by
    have hparams : (valueFilter true v).params <+: ([] : List Literal).drop 0 := by
      rw [valueFilter_quoted hnul]
      exact List.nil_prefix
    obtain ⟨hcollation, haffinity, htotal⟩ := valueExpr_plain true 0 v
    exact evaluates_compare (eval_value hs hparams .value) hcollation haffinity (htotal _)

theorem reads_hasRole {role : String} (hshort : (rolePattern role).utf8ByteSize ≤ Value.maxPatternBytes) :
    Reads IsOperand ("(',' || " ++ column.name ++ " || ',') LIKE " ++ (Literal.text (rolePattern role)).quoted ++
        " ESCAPE '\\'")
      (fun e => (e.column? column.name).map fun v => Text.isLike (some Text.wildcardEscape)
        (Text.readable (rolePattern role)) (Text.readable ("," ++ v.asText ++ ",")))
      (fun k => written.isLike (separated (written.column column.name)) (.param k) (.literal (.text "\\")))
      ⟨enclosed true [.text ",", .concat, .name column.name, .concat, .text ","] ++
          [.like, .text (rolePattern role), .escape, .text "\\"],
        written.isLike (separated (written.column column.name)) (.literal (.text (rolePattern role)))
          (.literal (.text "\\")),
        found.isLike (separated (found.column column.name)) (.literal (.text (rolePattern role)))
          (.literal (.text "\\"))⟩ where
  scans := (isRead_text (rolePattern role)).hasRole column
  starts := ⟨_, _, rfl, rfl⟩
  flat := isFlat_hasRole column.name rfl
  form := isOperand_hasRole column rfl
  notZero := rfl
  height _ := Nat.le_succ _
  resolves _ _ := resolves_hasRole column (resolves_literal _)
  evaluates _ _ _ _ := evaluates_hasRole rfl hshort (decide_eq_true hshort)

end

/-! ### Conditions -/

/-- A condition with its literals in place is read so, as a part of a connective or not. -/
structure IsReadInPlace (c : Condition) : Prop where
  whole : ∃ r, Reads IsWhole c.template.inPlace (fun e => c.truthBy (storedTruth e)) (fun k => written.expr k c) r
  part : ∃ r, Reads IsOperand c.partTemplate.inPlace (fun e => c.truthBy (storedTruth e)) (fun k => written.expr k c) r

section
variable {c : Condition} {text : String} {truth : Event → Truth} {other : Nat → Expr} {r : Reading}

theorem IsReadInPlace.ofWhole (hc : isConnective c) (htext : c.template.inPlace = text)
    (htruth : ∀ e, c.truthBy (storedTruth e) = truth e) (hother : ∀ k, written.expr k c = other k)
    (h : Reads IsWhole text truth other r) : c.IsReadInPlace := by
  obtain rfl : (fun e => c.truthBy (storedTruth e)) = truth := funext htruth
  obtain rfl : (fun k => written.expr k c) = other := funext hother
  have hpart : c.partTemplate.inPlace = "(" ++ text ++ ")" := by
    rw [partTemplate, if_pos hc, Template.inPlace_parenthesised, htext]
  exact ⟨⟨r, htext ▸ h⟩, _, hpart ▸ h.parenthesised⟩

theorem IsReadInPlace.ofOperand (htext : c.template.inPlace = text) (htruth : ∀ e, c.truthBy (storedTruth e) = truth e)
    (hother : ∀ k, written.expr k c = other k) (h : Reads IsOperand text truth other r) : c.IsReadInPlace := by
  by_cases hc : isConnective c
  · exact .ofWhole hc htext htruth hother h.whole
  · obtain rfl : (fun e => c.truthBy (storedTruth e)) = truth := funext htruth
    obtain rfl : (fun k => written.expr k c) = other := funext hother
    have hpart : c.partTemplate.inPlace = text := by rw [partTemplate, if_neg hc, htext]
    exact ⟨⟨r, htext ▸ h.whole⟩, r, hpart ▸ h⟩

theorem isReadInPlace_test (hc : c.isTest)
    (hcolumn : ∀ name ∈ c.testedColumn?, ∃ column : Column, column.name = name) (hnul : c.HasNulFreeTexts)
    (hshort : c.HasShortPattern) : c.IsReadInPlace := by
  cases c with
  | always => exact .ofOperand (by simp [template]) (fun _ => rfl) (fun _ => rfl) (reads_constant true)
  | never => exact .ofOperand (by simp [template]) (fun _ => rfl) (fun _ => rfl) (reads_constant false)
  | isIn name vs =>
    obtain ⟨column, rfl⟩ := hcolumn name rfl
    cases vs with
    | nil => exact .ofOperand (by simp [template]) (fun _ => rfl) (fun _ => rfl) (reads_constant false)
    | cons v vs =>
      exact .ofOperand (by simp [template, inPlace_listTemplate]) (fun _ => rfl) (fun _ => rfl)
        (reads_list column false _ hnul)
  | notIn name vs =>
    obtain ⟨column, rfl⟩ := hcolumn name rfl
    cases vs with
    | nil => exact .ofOperand (by simp [template]) (fun _ => rfl) (fun _ => rfl) (reads_constant true)
    | cons v vs =>
      exact .ofOperand (by simp [template, inPlace_listTemplate]) (fun _ => rfl) (fun _ => rfl)
        (reads_list column true _ hnul)
  | isNull name =>
    obtain ⟨column, rfl⟩ := hcolumn name rfl
    exact .ofOperand (by simp [template]) (fun _ => rfl) (fun _ => rfl) (reads_isNull column)
  | compare name bound v =>
    obtain ⟨column, rfl⟩ := hcolumn name rfl
    have hvalue : Text.IsNulFree v.asText := hnul v (by simp [testedValues])
    exact .ofOperand (by simp [template]) (fun _ => rfl) (fun _ => rfl) (reads_compare column bound hvalue)
  | hasRole name role =>
    obtain ⟨column, rfl⟩ := hcolumn name rfl
    by_cases hrole : Roles.isCompound role
    · exact .ofOperand (by simp [template, hrole]) (fun _ => by simp [truthBy, storedTruth, hrole])
        (fun _ => by simp [Wording.expr, exprBy, Wording.test, hrole]) (reads_constant false)
    · exact .ofOperand (by simp [template, hrole, String.append_assoc])
        (fun _ => by simp [truthBy, storedTruth, hrole]) (fun _ => by simp [Wording.expr, exprBy, Wording.test, hrole])
        (reads_hasRole column (hshort.resolve_left hrole))
  | all _ | any _ | not _ => simp [isTest] at hc

theorem exists_reads_parts {word : String} {t : Token} {join : Expr → Expr → Expr} {combine : Truth → Truth → Truth}
    {neutral : Truth} (hword : Connects word t join combine neutral) {cs : List Condition}
    (h : ∀ d ∈ c :: cs, d.IsReadInPlace) :
    ∃ r, Reads IsWhole (Template.joined (" " ++ word ++ " ") ((c :: cs).map partTemplate)).inPlace
      (fun e => ((c :: cs).map (truthBy (storedTruth e))).foldr combine neutral)
      (fun k => exprBehind written.test join (written.expr k c) (k + c.paramCount) cs) r := by
  obtain ⟨r, hr⟩ := (h c (by simp)).part
  obtain ⟨r, hr⟩ := exists_reads_behind hword (fun d (hd : d ∈ cs) => (h d (by simp [hd])).part) c.paramCount
    { hr with form := hr.form.isChain hr.notZero }
  exact ⟨r, { hr with form := hr.form.isWhole hword.joins }⟩

theorem isReadInPlace_of_tests (h : ∀ t ∈ c.tests, t.IsReadInPlace) : c.IsReadInPlace := by
  induction c using partsInduction with
  | test c hc => exact h c (by simp [tests_of_isTest hc])
  | all parts ih =>
    have hparts : ∀ c ∈ parts, c.IsReadInPlace := fun c hc => ih c hc fun t ht =>
      h t (mem_tests_all hc ht)
    cases parts with
    | nil =>
      exact .ofOperand (by simp [template, connectedTemplate]) (fun _ => rfl) (fun _ => rfl) (reads_constant true)
    | cons c cs =>
      obtain ⟨r, hr⟩ := exists_reads_parts connects_and hparts
      exact .ofWhole rfl (by simp [template, connectedTemplate])
        (fun _ => by simp only [truthBy, truthsBy_eq, Truth.all]) (fun _ => rfl) hr
  | any parts ih =>
    have hparts : ∀ c ∈ parts, c.IsReadInPlace := fun c hc => ih c hc fun t ht =>
      h t (mem_tests_any hc ht)
    cases parts with
    | nil =>
      exact .ofOperand (by simp [template, connectedTemplate]) (fun _ => rfl) (fun _ => rfl) (reads_constant false)
    | cons c cs =>
      obtain ⟨r, hr⟩ := exists_reads_parts connects_or hparts
      exact .ofWhole rfl (by simp [template, connectedTemplate])
        (fun _ => by simp only [truthBy, truthsBy_eq, Truth.any]) (fun _ => rfl) hr
  | not c ih =>
    obtain ⟨r, hr⟩ := (ih h).whole
    exact .ofOperand (by simp [template]) (fun _ => rfl) (fun _ => rfl) hr.parenthesised.not

end

theorem isReadInPlace {c : Condition} (h : c.IsOverSchema) (hnul : ∀ t ∈ c.tests, t.HasNulFreeTexts)
    (hshort : ∀ t ∈ c.tests, t.HasShortPattern) : c.IsReadInPlace :=
  isReadInPlace_of_tests fun t ht =>
    isReadInPlace_test (isTest_of_mem_tests ht) (h t ht) (hnul t ht) (hshort t ht)

end AuditSearch.Condition
