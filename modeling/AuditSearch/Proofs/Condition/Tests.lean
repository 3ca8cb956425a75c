import AuditSearch.Condition.Clause
import AuditSearch.Condition.Meaning

/-! Conditions as connectives over tests of single columns, and the truth of a condition from that of its tests. -/
namespace AuditSearch.Condition

/-- A condition with no condition inside. -/
def isTest : Condition → Bool
  | all _ | any _ | not _ => false
  | _ => true

mutual

def tests : Condition → List Condition
  | all parts | any parts => testsOfAll parts
  | not part => part.tests
  | c => [c]

def testsOfAll : List Condition → List Condition
  | [] => []
  | c :: cs => c.tests ++ testsOfAll cs

end

mutual

/-- The truth of a condition where `test` gives that of its tests. -/
def truthBy (test : Condition → Truth) : Condition → Truth
  | all parts => Truth.all (truthsBy test parts)
  | any parts => Truth.any (truthsBy test parts)
  | not part => Truth.not (part.truthBy test)
  | c => test c

def truthsBy (test : Condition → Truth) : List Condition → List Truth
  | [] => []
  | c :: cs => c.truthBy test :: truthsBy test cs

end

/-- Induction over the connectives: a connective has a property if all its parts have. -/
@[elab_as_elim]
theorem partsInduction {motive : Condition → Prop}
    (test : ∀ c, c.isTest → motive c)
    (all : ∀ parts, (∀ c ∈ parts, motive c) → motive (all parts))
    (any : ∀ parts, (∀ c ∈ parts, motive c) → motive (any parts))
    (not : ∀ c, motive c → motive (not c)) (c : Condition) : motive c :=
  match c with
  | .all parts => all parts fun c _ => partsInduction test all any not c
  | .any parts => any parts fun c _ => partsInduction test all any not c
  | .not part => not part (partsInduction test all any not part)
  | .always | .never | .isIn _ _ | .notIn _ _ | .isNull _ | .compare _ _ _ | .hasRole _ _ => test _ rfl

@[simp] theorem testsOfAll_eq (cs : List Condition) : testsOfAll cs = cs.flatMap tests := by
  induction cs with
  | nil => rfl
  | cons c cs ih => simp [testsOfAll, ih]

@[simp] theorem truthsBy_eq (test : Condition → Truth) (cs : List Condition) :
    truthsBy test cs = cs.map (truthBy test) := by
  induction cs with
  | nil => rfl
  | cons c cs ih => simp [truthsBy, ih]

@[simp] theorem truths_eq (e : Event) (cs : List Condition) : truths e cs = cs.map (truth e) := by
  induction cs with
  | nil => rfl
  | cons c cs ih => simp [truths, ih]

theorem tests_of_isTest {c : Condition} (h : c.isTest) : c.tests = [c] := by
  cases c <;> first | rfl | simp [isTest] at h

theorem truthBy_of_isTest {c : Condition} (h : c.isTest) (test : Condition → Truth) :
    c.truthBy test = test c := by
  cases c <;> first | rfl | simp [isTest] at h

@[simp] theorem tests_all (parts : List Condition) : (all parts).tests = parts.flatMap tests := by
  simp [tests]

@[simp] theorem tests_any (parts : List Condition) : (any parts).tests = parts.flatMap tests := by
  simp [tests]

theorem mem_tests_all {parts : List Condition} {c t : Condition} (hc : c ∈ parts) (ht : t ∈ c.tests) :
    t ∈ (all parts).tests := by
  rw [tests_all]
  exact List.mem_flatMap.mpr ⟨c, hc, ht⟩

theorem mem_tests_any {parts : List Condition} {c t : Condition} (hc : c ∈ parts) (ht : t ∈ c.tests) :
    t ∈ (any parts).tests :=
  mem_tests_all hc ht

@[simp] theorem tests_not (part : Condition) : (not part).tests = part.tests := rfl

theorem isTest_of_mem_tests {c t : Condition} (h : t ∈ c.tests) : t.isTest := by
  induction c using partsInduction with
  | test c hc =>
    rw [tests_of_isTest hc, List.mem_singleton] at h
    exact h ▸ hc
  | all parts ih | any parts ih =>
    simp only [tests_all, tests_any, List.mem_flatMap] at h
    obtain ⟨c, hc, ht⟩ := h
    exact ih c hc ht
  | not c ih => exact ih h

theorem truthBy_congr {f g : Condition → Truth} {c : Condition} (h : ∀ t ∈ c.tests, f t = g t) :
    c.truthBy f = c.truthBy g := by
  induction c using partsInduction with
  | test c hc =>
    rw [truthBy_of_isTest hc, truthBy_of_isTest hc]
    exact h c (by simp [tests_of_isTest hc])
  | all parts ih | any parts ih =>
    simp only [tests_all, tests_any, List.mem_flatMap] at h
    simp only [truthBy, truthsBy_eq]
    congr 1
    exact List.map_congr_left fun c hc => ih c hc fun t ht => h t ⟨c, hc, ht⟩
  | not c ih => simp only [truthBy, ih h]

/-- The truth of a condition for an event is that of its tests, connected. -/
theorem truth_eq_truthBy (e : Event) (c : Condition) : c.truth e = c.truthBy (truth e) := by
  induction c using partsInduction with
  | test c hc => rw [truthBy_of_isTest hc]
  | all parts ih | any parts ih =>
    simp only [truth, truthBy, truths_eq, truthsBy_eq]
    congr 1
    exact List.map_congr_left ih
  | not c ih => simp only [truth, truthBy, ih]

end AuditSearch.Condition
