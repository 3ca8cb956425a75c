import AuditSearch.Proofs.Condition.Construction
import AuditSearch.Proofs.Condition.Legible

/-!
How many parameters a clause has. They are those of its tests, and a list of values has few: either it is short, or its
texts are written into the clause as far as they can be quoted.
-/
namespace AuditSearch.Condition

/-! ### What the tests of a condition weigh -/

/-- The sum of a measure over the tests in a condition. -/
def weight (m : Condition → Nat) (c : Condition) : Nat :=
  (c.tests.map m).sum

section
variable {m : Condition → Nat}

theorem weight_of_isTest {c : Condition} (hc : c.isTest) : c.weight m = m c := by
  simp [weight, tests_of_isTest hc]

theorem sum_flatMap_tests (cs : List Condition) : ((cs.flatMap tests).map m).sum = (cs.map (weight m)).sum := by
  induction cs with
  | nil => rfl
  | cons c cs ih =>
    rw [List.flatMap_cons, List.map_append, List.sum_append, ih, List.map_cons, List.sum_cons]
    rfl

theorem weight_all (cs : List Condition) : (all cs).weight m = (cs.map (weight m)).sum := by
  rw [weight, tests_all, sum_flatMap_tests]

theorem weight_any (cs : List Condition) : (any cs).weight m = (cs.map (weight m)).sum := by
  rw [weight, tests_any, sum_flatMap_tests]

theorem weight_not (c : Condition) : (not c).weight m = c.weight m := rfl

theorem weight_mono {m' : Condition → Nat} {c : Condition} (h : ∀ t ∈ c.tests, m t ≤ m' t) : c.weight m ≤ c.weight m' :=
  List.sum_le_sum h

theorem weight_add (m m' : Condition → Nat) (c : Condition) :
    c.weight (fun t => m t + m' t) = c.weight m + c.weight m' :=
  List.sum_map_add

variable (halways : m always = 0) (hnever : m never = 0)
include halways hnever

theorem weight_le_of_constant {c : Condition} (hc : c = always ∨ c = never) (n : Nat) : c.weight m ≤ n := by
  rcases hc with rfl | rfl
  · rw [weight_of_isTest rfl, halways]
    exact Nat.zero_le n
  · rw [weight_of_isTest rfl, hnever]
    exact Nat.zero_le n

theorem weight_le_of_sublist {c : Condition} {cs : List Condition}
    (hc : c.tests.Sublist (cs.flatMap tests) ∨ c = always ∨ c = never) : c.weight m ≤ (cs.map (weight m)).sum := by
  rcases hc with hsublist | hconstant
  · rw [← sum_flatMap_tests]
    exact (hsublist.map m).sum_le_sum fun _ _ => Nat.zero_le _
  · exact weight_le_of_constant halways hnever hconstant _

theorem weight_mkAll_le (cs : List Condition) : (mkAll cs).weight m ≤ (cs.map (weight m)).sum :=
  weight_le_of_sublist halways hnever (tests_mkAll_cases cs)

theorem weight_mkAny_le (cs : List Condition) : (mkAny cs).weight m ≤ (cs.map (weight m)).sum :=
  weight_le_of_sublist halways hnever (tests_mkAny_cases cs)

theorem weight_mkNot_le (c : Condition) : (mkNot c).weight m ≤ c.weight m := by
  cases c with
  | always => exact weight_le_of_constant halways hnever (.inr rfl) _
  | never => exact weight_le_of_constant halways hnever (.inl rfl) _
  | _ => exact le_rfl

theorem weight_mkIn_le (column : String) (vs : List Literal) : (mkIn column vs).weight m ≤ m (isIn column vs) := by
  unfold mkIn
  split
  · exact weight_le_of_constant halways hnever (.inr rfl) _
  · rw [weight_of_isTest rfl]

theorem weight_mkNotIn_le (column : String) (vs : List Literal) : (mkNotIn column vs).weight m ≤ m (notIn column vs) := by
  unfold mkNotIn
  split
  · exact weight_le_of_constant halways hnever (.inl rfl) _
  · rw [weight_of_isTest rfl]

theorem weight_mkNullOrNotIn_le (column : String) (vs : List Literal) :
    (mkNullOrNotIn column vs).weight m ≤ m (isNull column) + m (notIn column vs) := by
  unfold mkNullOrNotIn
  split
  · exact weight_le_of_constant halways hnever (.inl rfl) _
  · refine (weight_mkAny_le halways hnever _).trans ?_
    have hnotIn := weight_mkNotIn_le halways hnever column vs
    simp only [List.map_cons, List.map_nil, List.sum_cons, List.sum_nil, weight_of_isTest (rfl : (isNull column).isTest)]
    omega

theorem weight_mkHasRole_le (column role : String) : (mkHasRole column role).weight m ≤ m (hasRole column role) := by
  unfold mkHasRole
  split
  · exact weight_le_of_constant halways hnever (.inr rfl) _
  · rw [weight_of_isTest rfl]

end

/-! ### Parameters -/

theorem length_params_joined (between : String) (fs : List Filter) :
    (Filter.joined between fs).params.length = (fs.map fun f => f.params.length).sum := by
  simp [List.length_flatMap]

theorem length_params_connected (between neutral : String) (cs : List Condition) :
    (connected between neutral (partFilters cs)).params.length = (cs.map paramCount).sum := by
  have hparts : (partFilters cs).map (fun f => f.params.length) = cs.map paramCount := by
    simp [paramCount, Function.comp_def]
  rw [← hparts, ← length_params_joined between]
  cases cs <;> simp [connected]

/-- The parameters of a condition are those of its tests. -/
theorem paramCount_eq_weight (c : Condition) : c.paramCount = c.weight paramCount := by
  induction c using partsInduction with
  | test c hc => rw [weight_of_isTest hc]
  | all parts ih =>
    rw [weight_all, ← List.map_congr_left ih, paramCount, toFilter, length_params_connected]
  | any parts ih =>
    rw [weight_any, ← List.map_congr_left ih, paramCount, toFilter, length_params_connected]
  | not c ih =>
    rw [weight_not, ← ih]
    simp [paramCount, toFilter]

/-- A literal that stays a parameter even in a long list: a text with a null character. -/
def isUnquotable : Literal → Bool
  | .integer _ => false
  | .text s => !isQuotable s

theorem not_isUnquotable_text {s : String} (h : Text.IsNulFree s) : ¬isUnquotable (.text s) := by
  simp [isUnquotable, isQuotable_iff.mpr h]

/-- How many texts of a long list stay parameters. -/
def unquotedTexts : Condition → Nat
  | isIn _ values | notIn _ values => if maxBoundTexts < values.length then values.countP isUnquotable else 0
  | _ => 0

theorem length_valueFilter_le (long : Bool) (v : Literal) : (valueFilter long v).params.length ≤ 1 := by
  cases v with
  | integer n => simp [valueFilter]
  | text s =>
    simp only [valueFilter]
    split <;> simp

theorem length_valueFilter_long (v : Literal) : (valueFilter true v).params.length = if isUnquotable v then 1 else 0 := by
  cases v with
  | integer n => rfl
  | text s => cases h : isQuotable s <;> simp [valueFilter, isUnquotable, h]

/-- A short list has no more parameters than values, and a long one those of its texts that cannot be quoted. -/
theorem length_listFilter_le (vs : List Literal) : (listFilter vs).params.length ≤
    if maxBoundTexts < vs.length then vs.countP isUnquotable else maxBoundTexts := by
  rw [listFilter, length_params_joined, List.map_map]
  split
  · rename_i hlong
    rw [decide_eq_true hlong]
    simp only [Function.comp_def, length_valueFilter_long]
    clear hlong
    induction vs with
    | nil => rfl
    | cons v vs ih =>
      simp only [List.map_cons, List.sum_cons, List.countP_cons]
      omega
  · rename_i hshort
    refine (List.sum_le_card_nsmul _ 1 (List.forall_mem_map.mpr fun v _ => length_valueFilter_le _ v)).trans ?_
    simp only [List.length_map, smul_eq_mul, mul_one]
    omega

theorem params_listFilter_integers {vs : List Literal} (h : ∀ v ∈ vs, ∃ n, v = .integer n) :
    (listFilter vs).params = [] := by
  rw [listFilter, Filter.joined_params, List.flatMap_map, List.flatMap_eq_nil_iff]
  intro v hv
  obtain ⟨n, rfl⟩ := h v hv
  rfl

theorem paramCount_isIn (column : String) (vs : List Literal) :
    (isIn column vs).paramCount = (listFilter vs).params.length := by
  cases vs with
  | nil => rfl
  | cons v vs => simp [paramCount, toFilter]

theorem paramCount_notIn (column : String) (vs : List Literal) :
    (notIn column vs).paramCount = (listFilter vs).params.length := by
  cases vs with
  | nil => rfl
  | cons v vs => simp [paramCount, toFilter]

theorem paramCount_hasRole_le (column role : String) : (hasRole column role).paramCount ≤ 1 := by
  unfold paramCount toFilter
  split <;> simp

/-! ### Budgets -/

/-- What a measure of tests keeps to: a list of values that fit weighs at most as much as a short one may hold, and nothing
if the values are integers; a bound or a role weighs one at most, and all other tests nothing. -/
structure IsBudgeted (m : Condition → Nat) (fits : Literal → Prop) : Prop where
  always : m always = 0
  never : m never = 0
  isNull : ∀ column, m (isNull column) = 0
  isIn : ∀ column vs, (∀ v ∈ vs, fits v) → m (isIn column vs) ≤ maxBoundTexts
  notIn : ∀ column vs, (∀ v ∈ vs, fits v) → m (notIn column vs) ≤ maxBoundTexts
  isIn_integers : ∀ column vs, (∀ v ∈ vs, ∃ n, v = .integer n) → m (.isIn column vs) = 0
  notIn_integers : ∀ column vs, (∀ v ∈ vs, ∃ n, v = .integer n) → m (.notIn column vs) = 0
  compare : ∀ column bound v, m (compare column bound v) ≤ 1
  hasRole : ∀ column role, m (hasRole column role) ≤ 1

/-- Parameters keep to the budget if every text can be quoted. -/
theorem isBudgeted_paramCount : IsBudgeted paramCount fun v => ¬isUnquotable v := by
  have hlist {vs : List Literal} (h : ∀ v ∈ vs, ¬isUnquotable v) : (listFilter vs).params.length ≤ maxBoundTexts := by
    have hle := length_listFilter_le vs
    rw [List.countP_eq_zero.mpr h] at hle
    split at hle <;> omega
  have hintegers {vs : List Literal} (h : ∀ v ∈ vs, ∃ n, v = .integer n) : (listFilter vs).params.length = 0 := by
    rw [params_listFilter_integers h, List.length_nil]
  exact
    { always := rfl
      never := rfl
      isNull := fun _ => rfl
      isIn := fun column vs h => (paramCount_isIn column vs).le.trans (hlist h)
      notIn := fun column vs h => (paramCount_notIn column vs).le.trans (hlist h)
      isIn_integers := fun column vs h => (paramCount_isIn column vs).trans (hintegers h)
      notIn_integers := fun column vs h => (paramCount_notIn column vs).trans (hintegers h)
      compare := fun _ _ _ => le_rfl
      hasRole := paramCount_hasRole_le }

/-- So do all parameters but the texts of long lists that cannot be quoted, whatever the texts are. -/
theorem isBudgeted_quoted : IsBudgeted (fun t => t.paramCount - t.unquotedTexts) fun _ => True := by
  have hlist (vs : List Literal) : (listFilter vs).params.length -
      (if maxBoundTexts < vs.length then vs.countP isUnquotable else 0) ≤ maxBoundTexts := by
    have hle := length_listFilter_le vs
    by_cases hlong : maxBoundTexts < vs.length
    · rw [if_pos hlong] at hle ⊢
      omega
    · rw [if_neg hlong] at hle ⊢
      omega
  have hquotable := isBudgeted_paramCount
  exact
    { always := rfl
      never := rfl
      isNull := fun _ => rfl
      isIn := fun column vs _ => by
        rw [paramCount_isIn]
        exact hlist vs
      notIn := fun column vs _ => by
        rw [paramCount_notIn]
        exact hlist vs
      isIn_integers := fun column vs h => by simp [hquotable.isIn_integers column vs h]
      notIn_integers := fun column vs h => by simp [hquotable.notIn_integers column vs h]
      compare := fun column bound v => (Nat.sub_le _ _).trans (hquotable.compare column bound v)
      hasRole := fun column role => (Nat.sub_le _ _).trans (hquotable.hasRole column role) }

/-- The parameters of a condition are those in the budget and those of long lists that cannot be quoted. -/
theorem paramCount_le_add (c : Condition) :
    c.paramCount ≤ c.weight (fun t => t.paramCount - t.unquotedTexts) + c.weight unquotedTexts := by
  rw [paramCount_eq_weight, ← weight_add]
  exact weight_mono fun t _ => by omega

end AuditSearch.Condition
