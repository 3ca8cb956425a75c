import AuditSearch.Proofs.Condition.Construction
import AuditSearch.Proofs.Condition.Evaluation
import AuditSearch.Proofs.Text.Numeral

/-!
The truth of a condition by the rules of the database is its truth for the event, where roles are read as patterns
see them: on tests that compare columns with literals of their types, and look for roles in clean lists.
-/
namespace AuditSearch

/-! ### Texts without digits -/

namespace Text

/-- No character of a text is a digit. -/
def HasNoDigit (s : String) : Prop :=
  ∀ c ∈ s.toList, isDigit c = false

instance (s : String) : Decidable (HasNoDigit s) :=
  List.decidableBAll (fun c => isDigit c = false) s.toList

theorem span_digits {cs : List Char} (h : ∀ c ∈ cs, isDigit c = false) : cs.span isDigit = ([], cs) := by
  cases cs with
  | nil => rfl
  | cons c cs => simp [List.span_eq_takeWhile_dropWhile, h c (by simp)]

theorem nat_eq_none {cs : List Char} (h : ∀ c ∈ cs, isDigit c = false) : nat? cs = none := by
  cases cs with
  | nil => rfl
  | cons c cs => simp [nat?, h c (by simp)]

theorem integerOf_eq_none {s : String} (h : HasNoDigit s) : Literal.integerOf? s = none := by
  have htrim : ∀ c ∈ (trim s).toList, isDigit c = false := fun c hc => h c ((trim_isInfix s).subset hc)
  have hint : int? (trim s).toList = none := by
    rw [int?.eq_def]
    split
    · rename_i cs hcs
      rw [nat_eq_none fun c hc => htrim c (by simp [hcs, hc])]
      rfl
    · rename_i cs hcs
      rw [nat_eq_none fun c hc => htrim c (by simp [hcs, hc])]
      rfl
    · rw [nat_eq_none htrim]
      rfl
  rw [Literal.integerOf?, int64?, hint]
  rfl

theorem parts_hasDigits {cs : List Char} (h : ∀ c ∈ cs, isDigit c = false) :
    (Decimal.parts cs).1.hasDigits = false := by
  have hfraction : (Decimal.fractionOf cs).2.1 = [] := by
    rw [Decimal.fractionOf.eq_def]
    split
    · rename_i rest
      rw [span_digits fun c hc => h c (by simp [hc])]
    · rfl
  simp only [Decimal.parts, span_digits h, Decimal.Parts.hasDigits]
  simp [hfraction]

theorem number_eq_none {s : String} (h : HasNoDigit s) : Sql.number? s = none := by
  have hrest : ∀ c ∈ s.toList.dropWhile Sql.isSpace, isDigit c = false :=
    fun c hc => h c ((List.dropWhile_suffix _).subset hc)
  have hunsigned (negative : Bool) {cs : List Char} (hcs : ∀ c ∈ cs, isDigit c = false) :
      Sql.unsignedPrefix? negative cs = none := by
    simp [Sql.unsignedPrefix?, parts_hasDigits hcs]
  have hprefix : Sql.numberPrefix? s.toList = none := by
    rw [Sql.numberPrefix?]
    split
    · rename_i cs hcs
      exact hunsigned true fun c hc => hrest c (by simp [hcs, hc])
    · rename_i cs hcs
      exact hunsigned false fun c hc => hrest c (by simp [hcs, hc])
    · exact hunsigned false hrest
  rw [Sql.number?, hprefix]

end Text

/-! ### Comparisons -/

namespace Sql

theorem orderBytes_eq_iff (as : List UInt8) : ∀ bs, Collation.orderBytes as bs = .eq ↔ as = bs := by
  induction as with
  | nil =>
    intro bs
    cases bs <;> simp [Collation.orderBytes]
  | cons a as ih =>
    intro bs
    cases bs with
    | nil => simp [Collation.orderBytes]
    | cons b bs =>
      simp only [Collation.orderBytes, List.cons.injEq]
      split
      · rename_i h
        simp [UInt8.ne_of_lt h]
      · split
        · rename_i h
          simp [(UInt8.ne_of_lt h).symm]
        · rename_i hab hba
          simp [ih, UInt8.le_antisymm (UInt8.not_lt.mp hba) (UInt8.not_lt.mp hab)]

theorem compareAs_null {op : Comparison} (h : op ≠ .same ∧ op ≠ .notSame) (a : Affinity) (v : Value) :
    Value.compareAs op .binary a .null v = none := by
  have horder (w : Value) : Value.order? .binary .null w = none := rfl
  have hadjust : ∃ w, Value.adjust a .null v = (.null, w) := by
    cases a with
    | text =>
      simp only [Value.adjust]
      split <;> exact ⟨_, rfl⟩
    | _ => exact ⟨_, rfl⟩
  obtain ⟨w, hw⟩ := hadjust
  simp only [Value.compareAs, hw, horder]
  cases op <;> first | rfl | simp at h

theorem compareAs_texts (s t : String) :
    Value.compareAs .equal .binary .text (.text s) (.text t) = some (decide (s = t)) := by
  have horder : Value.compareAs .equal .binary .text (.text s) (.text t) =
      some (Collation.orderBytes (Text.bytesOf s) (Text.bytesOf t) == .eq) := rfl
  rw [horder, Option.some_inj, Bool.eq_iff_iff, beq_iff_eq, orderBytes_eq_iff, Text.bytesOf_inj, decide_eq_true_iff]

theorem compareAs_integers (op : Comparison) (n m : Int64) :
    Value.compareAs op .binary .integer (.integer n.toInt) (.integer m.toInt) =
      op.truth false (some (compare n.toInt m.toInt)) :=
  rfl

/-- A text that is no number is unlike every integer. -/
theorem compareAs_word {s : String} (h : Text.HasNoDigit s) (n : Int64) :
    Value.compareAs .equal .binary .integer (.integer n.toInt) (.text s) = some false := by
  have hnumeric : (Value.text s).toNumeric = .text s := by simp [Value.toNumeric, Text.number_eq_none h]
  simp only [Value.compareAs, Value.adjust, hnumeric]
  rfl

end Sql

/-- A literal that may be looked for in a column: an integer or a text without digits if it is one of integers, and
a text otherwise. -/
def Column.Takes (column : Column) : Literal → Prop
  | .integer _ => column.type = .integer
  | .text s => column.type = .integer → Text.HasNoDigit s

instance (column : Column) : DecidablePred column.Takes
  | .integer _ => inferInstanceAs (Decidable (column.type = .integer))
  | .text s => inferInstanceAs (Decidable (column.type = .integer → Text.HasNoDigit s))

namespace Condition

open Sql

theorem value_integer {column : Column} (h : column.type = .integer) (e : Event) :
    ∃ n : Option Int64, e.value column = n.map Literal.integer := by
  cases column with
  | id | siteId | alertCode | createdTimestamp => exact ⟨some _, rfl⟩
  | actorId => exact ⟨e.actorId, rfl⟩
  | _ => simp [Column.type] at h

theorem value_text {column : Column} (h : column.type ≠ .integer) (e : Event) :
    ∃ s : Option String, e.value column = s.map Literal.text := by
  cases column with
  | actorRoles => exact ⟨some _, rfl⟩
  | severity | object | eventType | clientIp | userAgent | actorLogin | sessionId => exact ⟨_, rfl⟩
  | _ => simp [Column.type] at h

/-- Equality with a literal that a column takes is loose equality. -/
theorem storedCompare_equal {column : Column} {v : Literal} (h : column.Takes v) (e : Event) :
    storedCompare .equal e column.name v = (e.value column).map fun w => v.looselyEquals w := by
  rw [storedCompare_column]
  by_cases hinteger : column.type = .integer
  · obtain ⟨n, hn⟩ := value_integer hinteger e
    rw [hn, hinteger]
    cases n with
    | none => exact compareAs_null (by decide) _ _
    | some n =>
      cases v with
      | integer m =>
        refine (compareAs_integers .equal n m).trans ?_
        simp only [Comparison.truth, Option.map_some, Option.some_inj, Literal.looselyEquals]
        rw [Bool.eq_iff_iff, beq_iff_eq, beq_iff_eq, Int.compare_eq_eq, Int64.toInt_inj, eq_comm]
      | text s =>
        refine (compareAs_word (h hinteger) n).trans ?_
        simp [Literal.looselyEquals, Text.integerOf_eq_none (h hinteger)]
  · obtain ⟨s, hs⟩ := value_text hinteger e
    have haffinity : column.type.affinity = .text := by cases htype : column.type <;> simp_all [ColumnType.affinity]
    rw [hs, haffinity]
    cases v with
    | integer m => exact absurd h hinteger
    | text t =>
      cases s with
      | none => exact compareAs_null (by decide) _ _
      | some s =>
        refine (compareAs_texts s t).trans ?_
        simp [Literal.looselyEquals, beq_eq_decide, eq_comm]

theorem storedTruth_isIn {column : Column} {vs : List Literal} (h : ∀ v ∈ vs, column.Takes v) (e : Event) :
    storedTruth e (isIn column.name vs) = truth e (isIn column.name vs) := by
  have hmap : vs.map (storedCompare .equal e column.name) =
      vs.map fun v => (e.value column).map fun w => v.looselyEquals w :=
    List.map_congr_left fun v hv => storedCompare_equal (h v hv) e
  simp only [storedTruth, truth, column?_name, hmap]
  by_cases hvs : vs = []
  · simp [hvs, Truth.any]
  · cases e.value column with
    | none =>
      simp only [Option.map_none, Truth.any_unknown hvs]
      simp [hvs]
    | some w => simp [hvs, Truth.any_known, oneOf]

theorem storedTruth_notIn {column : Column} {vs : List Literal} (h : ∀ v ∈ vs, column.Takes v) (e : Event) :
    storedTruth e (notIn column.name vs) = truth e (notIn column.name vs) := by
  have hisIn : Truth.any (vs.map (storedCompare .equal e column.name)) = truth e (isIn column.name vs) :=
    storedTruth_isIn h e
  rw [storedTruth, hisIn]
  by_cases hvs : vs = []
  · simp [hvs, truth, Truth.not]
  · simp [hvs, truth, Truth.not]
    rfl

theorem storedTruth_compare {column : Column} (h : column.type = .integer) (bound : Bound) (m : Int64) (e : Event) :
    storedTruth e (compare column.name bound (.integer m)) = truth e (compare column.name bound (.integer m)) := by
  simp only [storedTruth, truth, storedCompare_column, column?_name, h]
  obtain ⟨n, hn⟩ := value_integer h e
  rw [hn]
  cases n with
  | none => exact compareAs_null (by cases bound <;> decide) _ _
  | some n =>
    refine (compareAs_integers (boundComparison bound) n m).trans ?_
    have hmeaning : (boundComparison bound).truth false (some (Ord.compare n.toInt m.toInt)) =
        some (bound.holds n m) := by
      cases bound with
      | atLeast =>
        simp only [boundComparison, Comparison.truth, Option.map_some, Bound.holds, Option.some_inj]
        rw [Bool.eq_iff_iff, bne_iff_ne, Int.compare_ne_lt, decide_eq_true_iff, Int64.le_iff_toInt_le]
      | atMost =>
        simp only [boundComparison, Comparison.truth, Option.map_some, Bound.holds, Option.some_inj]
        rw [Bool.eq_iff_iff, bne_iff_ne, Int.compare_ne_gt, decide_eq_true_iff, Int64.le_iff_toInt_le]
    simp [hmeaning, Literal.asInteger?]

/-- A role is found in a clean list that names it, up to how patterns see characters. -/
theorem storedTruth_hasRole {role : String} {e : Event} (hrole : role ≠ "") (hroleNul : Text.IsNulFree role)
    (hclean : Roles.IsClean e.rolesText) (hnul : Text.IsNulFree e.rolesText) :
    storedTruth e (hasRole Column.actorRoles.name role) =
      testTruth Text.seen e (hasRole Column.actorRoles.name role) := by
  have hvalue : e.column? Column.actorRoles.name = some (.text e.rolesText) := rfl
  simp only [storedTruth, testTruth, hvalue]
  split
  · rfl
  · rename_i hcompound
    have hlike := Roles.isLike_rolePattern hrole hcompound hroleNul hclean hnul
    simp only [Option.map_some, Literal.asText, hlike]

/-! ### Typed conditions -/

/-- A test compares a column with literals that it takes, or the role list with a role that is not empty. -/
def IsTypedTest : Condition → Prop
  | isIn name vs | notIn name vs => ∃ column : Column, column.name = name ∧ ∀ v ∈ vs, column.Takes v
  | isNull name => ∃ column : Column, column.name = name
  | compare name _ v => ∃ column : Column, column.name = name ∧ column.type = .integer ∧ ∃ n, v = .integer n
  | hasRole name role => name = Column.actorRoles.name ∧ role ≠ ""
  | _ => True

instance (v : Literal) : Decidable (∃ n, v = .integer n) :=
  match v with
  | .integer n => isTrue ⟨n, rfl⟩
  | .text _ => isFalse fun ⟨_, h⟩ => nomatch h

instance : DecidablePred IsTypedTest
  | isIn name vs | notIn name vs =>
    inferInstanceAs (Decidable (∃ column : Column, column.name = name ∧ ∀ v ∈ vs, column.Takes v))
  | isNull name => inferInstanceAs (Decidable (∃ column : Column, column.name = name))
  | compare name _ v =>
    inferInstanceAs (Decidable (∃ column : Column, column.name = name ∧ column.type = .integer ∧ ∃ n, v = .integer n))
  | hasRole name role => inferInstanceAs (Decidable (name = Column.actorRoles.name ∧ role ≠ ""))
  | always | never | all _ | any _ | not _ => isTrue trivial

/-- The role that a test looks for is without null characters. -/
def HasNulFreeRole : Condition → Prop
  | hasRole _ role => Text.IsNulFree role
  | _ => True

instance : DecidablePred HasNulFreeRole
  | hasRole _ role => inferInstanceAs (Decidable (Text.IsNulFree role))
  | always | never | all _ | any _ | not _ | isIn _ _ | notIn _ _ | isNull _ | compare _ _ _ => isTrue trivial

/-- The role that a test looks for is told apart from others by patterns. -/
def HasToldRole : Condition → Prop
  | hasRole _ role => Roles.isCompound role ∨ Roles.IsTold role
  | _ => True

instance : DecidablePred HasToldRole
  | hasRole _ role => inferInstanceAs (Decidable (Roles.isCompound role ∨ Roles.IsTold role))
  | always | never | all _ | any _ | not _ | isIn _ _ | notIn _ _ | isNull _ | compare _ _ _ => isTrue trivial

theorem storedTruth_test {c : Condition} {e : Event} (hc : c.isTest) (htyped : c.IsTypedTest)
    (hroleNul : c.HasNulFreeRole) (hclean : Roles.IsClean e.rolesText) (hnul : Text.IsNulFree e.rolesText) :
    storedTruth e c = testTruth Text.seen e c := by
  cases c with
  | always | never | isNull _ => rfl
  | isIn name vs =>
    obtain ⟨column, rfl, htakes⟩ := htyped
    exact storedTruth_isIn htakes e
  | notIn name vs =>
    obtain ⟨column, rfl, htakes⟩ := htyped
    exact storedTruth_notIn htakes e
  | compare name bound v =>
    obtain ⟨column, rfl, htype, n, rfl⟩ := htyped
    exact storedTruth_compare htype bound n e
  | hasRole name role =>
    obtain ⟨rfl, hrole⟩ := htyped
    exact storedTruth_hasRole hrole hroleNul hclean hnul
  | all _ | any _ | not _ => simp [isTest] at hc

/-- The truth of a condition by the rules of the database is its truth where roles are read as patterns see them. -/
theorem truthBy_storedTruth {c : Condition} {e : Event} (htyped : ∀ t ∈ c.tests, t.IsTypedTest)
    (hroleNul : ∀ t ∈ c.tests, t.HasNulFreeRole) (hclean : Roles.IsClean e.rolesText)
    (hnul : Text.IsNulFree e.rolesText) : c.truthBy (storedTruth e) = c.readTruth Text.seen e :=
  truthBy_congr fun t ht => storedTruth_test (isTest_of_mem_tests ht) (htyped t ht) (hroleNul t ht) hclean hnul

/-- Roles that patterns tell apart may be read either way. -/
theorem acceptsAs_seen {c : Condition} {e : Event} (htyped : ∀ t ∈ c.tests, t.IsTypedTest)
    (htold : ∀ t ∈ c.tests, t.HasToldRole) (hclean : Roles.IsClean e.rolesText) :
    c.acceptsAs Text.seen e = c.accepts e := by
  rw [← acceptsAs_id, acceptsAs, acceptsAs]
  congr 1
  refine truthBy_congr fun t ht => ?_
  have htest := isTest_of_mem_tests ht
  cases t with
  | hasRole name role =>
    obtain ⟨rfl, -⟩ := htyped _ ht
    have hvalue : e.column? Column.actorRoles.name = some (.text e.rolesText) := rfl
    simp only [testTruth, hvalue]
    split
    · rfl
    · rename_i hcompound
      simp only [Option.map_some, Roles.names_of_isTold ((htold _ ht).resolve_left hcompound) hclean]
  | all _ | any _ | not _ => simp [isTest] at htest
  | _ => rfl

theorem isOverSchema_of_isTyped {c : Condition} (h : ∀ t ∈ c.tests, t.IsTypedTest) : c.IsOverSchema := by
  intro t ht name hname
  have htyped := h t ht
  have htest := isTest_of_mem_tests ht
  cases t with
  | isIn _ _ | notIn _ _ | compare _ _ _ =>
    obtain ⟨column, hcolumn, _⟩ := htyped
    simp only [testedColumn?, Option.mem_some_iff] at hname
    exact ⟨column, hcolumn.trans hname⟩
  | isNull _ =>
    obtain ⟨column, hcolumn⟩ := htyped
    simp only [testedColumn?, Option.mem_some_iff] at hname
    exact ⟨column, hcolumn.trans hname⟩
  | hasRole _ _ =>
    simp only [testedColumn?, Option.mem_some_iff] at hname
    exact ⟨_, htyped.1.symm.trans hname⟩
  | always | never => simp [testedColumn?] at hname
  | all _ | any _ | not _ => simp [isTest] at htest

end Condition

end AuditSearch
