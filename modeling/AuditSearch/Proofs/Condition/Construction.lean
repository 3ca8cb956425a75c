import AuditSearch.Proofs.Condition.Tests
import AuditSearch.Proofs.Roles
import AuditSearch.Proofs.Truth

/-!
The constructing functions, which give conditions of the same truth as the constructors, in whatever way the
characters of roles are read, and with no other tests in them but the constants.
-/
namespace AuditSearch

namespace Condition

/-- What the truth of tests keeps to: the constants are true and false, and so are the tests that stand for them. -/
structure IsTestTruth (test : Condition → Truth) : Prop where
  always : test always = some true
  never : test never = some false
  isIn : ∀ column, test (isIn column []) = some false
  notIn : ∀ column, test (notIn column []) = some true
  hasRole : ∀ column role, Roles.isCompound role → test (hasRole column role) = some false

section
variable {test : Condition → Truth}

theorem truthBy_all (cs : List Condition) : (all cs).truthBy test = Truth.all (cs.map (truthBy test)) := by
  rw [truthBy, truthsBy_eq]

theorem truthBy_any (cs : List Condition) : (any cs).truthBy test = Truth.any (cs.map (truthBy test)) := by
  rw [truthBy, truthsBy_eq]

variable (htest : IsTestTruth test)
include htest

theorem truthBy_always : always.truthBy test = some true := htest.always

theorem truthBy_never : never.truthBy test = some false := htest.never

/-- The parts of a conjunction without its neutral ones are as true as all of them. -/
theorem truthBy_allParts (cs : List Condition) : Truth.all (cs.map (truthBy test)) =
    (allParts? cs).elim (some false) fun parts => Truth.all (parts.map (truthBy test)) := by
  induction cs with
  | nil => rfl
  | cons c cs ih =>
    rw [List.map_cons, Truth.all_cons, ih]
    cases c with
    | always => rw [truthBy_always htest, Truth.true_and, allParts?]
    | never =>
      rw [truthBy_never htest]
      rfl
    | all inner =>
      rw [truthBy_all, allParts?]
      cases allParts? cs with
      | none => exact Truth.and_false _
      | some parts => simp [Truth.all_append]
    | _ =>
      rw [allParts?]
      · cases allParts? cs with
        | none => exact Truth.and_false _
        | some parts => rfl
      all_goals simp

theorem truthBy_anyParts (cs : List Condition) : Truth.any (cs.map (truthBy test)) =
    (anyParts? cs).elim (some true) fun parts => Truth.any (parts.map (truthBy test)) := by
  induction cs with
  | nil => rfl
  | cons c cs ih =>
    rw [List.map_cons, Truth.any_cons, ih]
    cases c with
    | never => rw [truthBy_never htest, Truth.false_or, anyParts?]
    | always =>
      rw [truthBy_always htest]
      rfl
    | any inner =>
      rw [truthBy_any, anyParts?]
      cases anyParts? cs with
      | none => exact Truth.or_true _
      | some parts => simp [Truth.any_append]
    | _ =>
      rw [anyParts?]
      · cases anyParts? cs with
        | none => exact Truth.or_true _
        | some parts => rfl
      all_goals simp

theorem truthBy_mkAll (cs : List Condition) : (mkAll cs).truthBy test = Truth.all (cs.map (truthBy test)) := by
  rw [truthBy_allParts htest, mkAll]
  rcases allParts? cs with _ | _ | ⟨c, _ | ⟨d, ds⟩⟩
  · exact htest.never
  · exact htest.always
  · exact (Truth.and_true _).symm
  · exact truthBy_all _

theorem truthBy_mkAny (cs : List Condition) : (mkAny cs).truthBy test = Truth.any (cs.map (truthBy test)) := by
  rw [truthBy_anyParts htest, mkAny]
  rcases anyParts? cs with _ | _ | ⟨c, _ | ⟨d, ds⟩⟩
  · exact htest.always
  · exact htest.never
  · exact (Truth.or_false _).symm
  · exact truthBy_any _

theorem truthBy_mkNot (c : Condition) : (mkNot c).truthBy test = Truth.not (c.truthBy test) := by
  cases c with
  | always =>
    rw [mkNot, truthBy_always htest, truthBy_never htest]
    rfl
  | never =>
    rw [mkNot, truthBy_always htest, truthBy_never htest]
    rfl
  | not c =>
    rw [mkNot, truthBy]
    rcases c.truthBy test with _ | _ | _ <;> rfl
  | _ => rfl

theorem truthBy_mkIn (column : String) (vs : List Literal) : (mkIn column vs).truthBy test = test (isIn column vs) := by
  cases vs with
  | nil => exact htest.never.trans (htest.isIn column).symm
  | cons v vs => rfl

theorem truthBy_mkNotIn (column : String) (vs : List Literal) :
    (mkNotIn column vs).truthBy test = test (notIn column vs) := by
  cases vs with
  | nil => exact htest.always.trans (htest.notIn column).symm
  | cons v vs => rfl

theorem truthBy_mkHasRole (column role : String) : (mkHasRole column role).truthBy test = test (hasRole column role) := by
  rw [mkHasRole]
  split
  · rename_i hcompound
    exact htest.never.trans (htest.hasRole column role hcompound).symm
  · rfl

end

/-! ### Reading roles -/

/-- The truth of a test, where the characters of roles are first read in some way. -/
def testTruth (read : Char → Char) (e : Event) : Condition → Truth
  | hasRole name role =>
    if Roles.isCompound role then some false
    else (e.column? name).map fun
      | .integer _ => false
      | .text stored => Roles.names read role stored
  | c => c.truth e

def readTruth (read : Char → Char) (e : Event) (c : Condition) : Truth :=
  c.truthBy (testTruth read e)

/-- Whether a condition accepts an event, where the characters of roles are first read in some way. -/
def acceptsAs (read : Char → Char) (c : Condition) (e : Event) : Bool :=
  c.readTruth read e == some true

theorem readTruth_id (e : Event) (c : Condition) : c.readTruth id e = c.truth e := by
  rw [truth_eq_truthBy]
  refine truthBy_congr fun t _ => ?_
  cases t with
  | hasRole name role =>
    rw [testTruth, truth]
    cases e.column? name with
    | none => rfl
    | some v => cases v <;> rfl
  | _ => rfl

theorem acceptsAs_id (c : Condition) (e : Event) : c.acceptsAs id e = c.accepts e := by
  rw [acceptsAs, readTruth_id, accepts]

variable {read : Char → Char} {e : Event}

theorem isTestTruth_read (read : Char → Char) (e : Event) : IsTestTruth (testTruth read e) where
  always := rfl
  never := rfl
  isIn _ := rfl
  notIn _ := rfl
  hasRole _ _ h := if_pos h

theorem readTruth_isIn (column : String) (vs : List Literal) :
    readTruth read e (isIn column vs) = truth e (isIn column vs) := rfl

theorem readTruth_notIn (column : String) (vs : List Literal) :
    readTruth read e (notIn column vs) = truth e (notIn column vs) := rfl

theorem readTruth_isNull (column : String) : readTruth read e (isNull column) = truth e (isNull column) := rfl

theorem readTruth_compare (column : String) (bound : Bound) (v : Literal) :
    readTruth read e (compare column bound v) = truth e (compare column bound v) := rfl

theorem readTruth_hasRole (column role : String) : readTruth read e (hasRole column role) =
    if Roles.isCompound role then some false
    else (e.column? column).map fun
      | .integer _ => false
      | .text stored => Roles.names read role stored := rfl

@[simp] theorem readTruth_mkAll (cs : List Condition) : readTruth read e (mkAll cs) = Truth.all (cs.map (readTruth read e)) :=
  truthBy_mkAll (isTestTruth_read read e) cs

@[simp] theorem readTruth_mkAny (cs : List Condition) : readTruth read e (mkAny cs) = Truth.any (cs.map (readTruth read e)) :=
  truthBy_mkAny (isTestTruth_read read e) cs

@[simp] theorem readTruth_mkNot (c : Condition) : readTruth read e (mkNot c) = Truth.not (readTruth read e c) :=
  truthBy_mkNot (isTestTruth_read read e) c

@[simp] theorem readTruth_mkIn (column : String) (vs : List Literal) :
    readTruth read e (mkIn column vs) = readTruth read e (isIn column vs) :=
  truthBy_mkIn (isTestTruth_read read e) column vs

@[simp] theorem readTruth_mkNotIn (column : String) (vs : List Literal) :
    readTruth read e (mkNotIn column vs) = readTruth read e (notIn column vs) :=
  truthBy_mkNotIn (isTestTruth_read read e) column vs

@[simp] theorem readTruth_mkHasRole (column role : String) :
    readTruth read e (mkHasRole column role) = readTruth read e (hasRole column role) :=
  truthBy_mkHasRole (isTestTruth_read read e) column role

/-! ### Acceptance -/

theorem acceptsAs_mkAll (cs : List Condition) : (mkAll cs).acceptsAs read e ↔ ∀ c ∈ cs, c.acceptsAs read e := by
  simp only [acceptsAs, beq_iff_eq, readTruth_mkAll, Truth.all_eq_true_iff, List.forall_mem_map]

theorem acceptsAs_mkAny (cs : List Condition) : (mkAny cs).acceptsAs read e ↔ ∃ c ∈ cs, c.acceptsAs read e := by
  simp [acceptsAs, readTruth_mkAny, Truth.any_eq_true_iff]

theorem acceptsAs_always : always.acceptsAs read e := rfl

/-- A column is among some values if it is not null and equals one of them. -/
theorem acceptsAs_mkIn (column : String) (vs : List Literal) :
    (mkIn column vs).acceptsAs read e ↔ ∃ w, e.column? column = some w ∧ ∃ v ∈ vs, v.looselyEquals w := by
  simp only [acceptsAs, beq_iff_eq, readTruth_mkIn, readTruth_isIn, truth, oneOf]
  cases vs with
  | nil => simp
  | cons v vs => simp

theorem acceptsAs_mkNotIn {column : String} {w : Literal} (h : e.column? column = some w) (vs : List Literal) :
    (mkNotIn column vs).acceptsAs read e ↔ ∀ v ∈ vs, ¬v.looselyEquals w := by
  simp only [acceptsAs, beq_iff_eq, readTruth_mkNotIn, readTruth_notIn, truth, oneOf, h]
  cases vs with
  | nil => simp
  | cons v vs => simp

/-- A column is not among some values if it is null or equals none of them. -/
theorem acceptsAs_mkNullOrNotIn (column : String) (vs : List Literal) :
    (mkNullOrNotIn column vs).acceptsAs read e ↔ ∀ w, e.column? column = some w → ∀ v ∈ vs, ¬v.looselyEquals w := by
  rw [mkNullOrNotIn]
  cases vs with
  | nil => simp [acceptsAs_always]
  | cons v vs =>
    rw [List.isEmpty_cons, if_neg (by simp), acceptsAs_mkAny]
    simp only [acceptsAs, beq_iff_eq, List.mem_cons, List.not_mem_nil, exists_eq_or_imp,
      readTruth_mkNotIn, readTruth_notIn, readTruth_isNull, truth, oneOf, List.isEmpty_cons]
    cases e.column? column <;> simp

/-! ### Tests -/

section
variable {p : Condition → Prop} {cs : List Condition}

/-- Of a conjunction without its neutral parts no test is new. -/
theorem sublist_allParts {parts : List Condition} (h : allParts? cs = some parts) :
    (parts.flatMap tests).Sublist (cs.flatMap tests) := by
  induction cs generalizing parts with
  | nil =>
    cases h
    exact .slnil
  | cons c cs ih =>
    rw [List.flatMap_cons]
    cases c with
    | always => exact (ih h).trans (List.sublist_append_right _ _)
    | never => cases h
    | all inner =>
      obtain ⟨more, hmore, rfl⟩ := Option.map_eq_some_iff.mp h
      rw [tests_all, List.flatMap_append]
      exact (List.Sublist.refl _).append (ih hmore)
    | _ =>
      obtain ⟨more, hmore, rfl⟩ := Option.map_eq_some_iff.mp h
      exact (List.Sublist.refl _).append (ih hmore)

theorem sublist_anyParts {parts : List Condition} (h : anyParts? cs = some parts) :
    (parts.flatMap tests).Sublist (cs.flatMap tests) := by
  induction cs generalizing parts with
  | nil =>
    cases h
    exact .slnil
  | cons c cs ih =>
    rw [List.flatMap_cons]
    cases c with
    | never => exact (ih h).trans (List.sublist_append_right _ _)
    | always => cases h
    | any inner =>
      obtain ⟨more, hmore, rfl⟩ := Option.map_eq_some_iff.mp h
      rw [tests_any, List.flatMap_append]
      exact (List.Sublist.refl _).append (ih hmore)
    | _ =>
      obtain ⟨more, hmore, rfl⟩ := Option.map_eq_some_iff.mp h
      exact (List.Sublist.refl _).append (ih hmore)

/-- The tests of a conjunction are some of those of its parts, or it is constant. -/
theorem tests_mkAll_cases (cs : List Condition) :
    (mkAll cs).tests.Sublist (cs.flatMap tests) ∨ mkAll cs = always ∨ mkAll cs = never := by
  unfold mkAll
  cases h : allParts? cs with
  | none => exact .inr (.inr rfl)
  | some parts =>
    have hparts := sublist_allParts h
    rcases parts with _ | ⟨c, _ | ⟨d, ds⟩⟩
    · exact .inr (.inl rfl)
    · exact .inl (by simpa using hparts)
    · exact .inl (by simpa using hparts)

theorem tests_mkAny_cases (cs : List Condition) :
    (mkAny cs).tests.Sublist (cs.flatMap tests) ∨ mkAny cs = always ∨ mkAny cs = never := by
  unfold mkAny
  cases h : anyParts? cs with
  | none => exact .inr (.inl rfl)
  | some parts =>
    have hparts := sublist_anyParts h
    rcases parts with _ | ⟨c, _ | ⟨d, ds⟩⟩
    · exact .inr (.inr rfl)
    · exact .inl (by simpa using hparts)
    · exact .inl (by simpa using hparts)

theorem forall_tests {c : Condition} (hc : c.isTest) (h : p c) : ∀ t ∈ c.tests, p t := by
  rw [tests_of_isTest hc]
  exact List.forall_mem_singleton.mpr h

variable (halways : p always) (hnever : p never)
include halways hnever

theorem forall_tests_of_sublist {c : Condition} (hc : c.tests.Sublist (cs.flatMap tests) ∨ c = always ∨ c = never)
    (h : ∀ c ∈ cs, ∀ t ∈ c.tests, p t) : ∀ t ∈ c.tests, p t := by
  rcases hc with hsublist | rfl | rfl
  · exact fun t ht => List.forall_mem_flatMap.mpr h t (hsublist.subset ht)
  · exact forall_tests rfl halways
  · exact forall_tests rfl hnever

/-- A property of tests that the constants have holds of those of a conjunction if it holds of those of its parts. -/
theorem tests_mkAll (h : ∀ c ∈ cs, ∀ t ∈ c.tests, p t) : ∀ t ∈ (mkAll cs).tests, p t :=
  forall_tests_of_sublist halways hnever (tests_mkAll_cases cs) h

theorem tests_mkAny (h : ∀ c ∈ cs, ∀ t ∈ c.tests, p t) : ∀ t ∈ (mkAny cs).tests, p t :=
  forall_tests_of_sublist halways hnever (tests_mkAny_cases cs) h

theorem tests_mkNot {c : Condition} (h : ∀ t ∈ c.tests, p t) : ∀ t ∈ (mkNot c).tests, p t := by
  cases c with
  | always => exact forall_tests rfl hnever
  | never => exact forall_tests rfl halways
  | _ => exact h

omit halways in
theorem tests_mkIn {column : String} {vs : List Literal} (h : p (isIn column vs)) : ∀ t ∈ (mkIn column vs).tests, p t := by
  rw [mkIn]
  split
  · exact forall_tests rfl hnever
  · exact forall_tests rfl h

omit hnever in
theorem tests_mkNotIn {column : String} {vs : List Literal} (h : p (notIn column vs)) :
    ∀ t ∈ (mkNotIn column vs).tests, p t := by
  rw [mkNotIn]
  split
  · exact forall_tests rfl halways
  · exact forall_tests rfl h

theorem tests_mkNullOrNotIn {column : String} {vs : List Literal} (hnull : p (isNull column))
    (h : p (notIn column vs)) : ∀ t ∈ (mkNullOrNotIn column vs).tests, p t := by
  rw [mkNullOrNotIn]
  split
  · exact forall_tests rfl halways
  · refine tests_mkAny halways hnever fun c hc => ?_
    simp only [List.mem_cons, List.not_mem_nil, or_false] at hc
    obtain rfl | rfl := hc
    · exact forall_tests rfl hnull
    · exact tests_mkNotIn halways h

omit halways in
theorem tests_mkHasRole {column role : String} (h : p (hasRole column role)) :
    ∀ t ∈ (mkHasRole column role).tests, p t := by
  rw [mkHasRole]
  split
  · exact forall_tests rfl hnever
  · exact forall_tests rfl h

end

end Condition

end AuditSearch
