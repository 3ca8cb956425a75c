import AuditSearch.Proofs.Condition.Construction

/-!
Conditions of the same truth. A condition is as true as the tree that the plain constructors give, wherever the
constructing functions are used for it, and a connective is as true as any other with the same parts, in whatever
order, number and grouping they are.
-/
namespace AuditSearch

namespace Condition

/-- A tree of connectives and tests over conditions that are given as they are. Each node says whether the constructing
function makes it, or else the constructor. -/
inductive Draft where
  | given (c : Condition)
  | all (made : Bool) (parts : List Draft)
  | any (made : Bool) (parts : List Draft)
  | not (made : Bool) (part : Draft)
  | isIn (made : Bool) (column : String) (values : List Literal)
  | notIn (made : Bool) (column : String) (values : List Literal)
  | nullOrNotIn (made : Bool) (column : String) (values : List Literal)
  | hasRole (made : Bool) (column role : String)

namespace Draft

mutual

def build : Draft → Condition
  | given c => c
  | all made parts => if made then mkAll (buildAll parts) else .all (buildAll parts)
  | any made parts => if made then mkAny (buildAll parts) else .any (buildAll parts)
  | not made part => if made then mkNot part.build else .not part.build
  | isIn made column vs => if made then mkIn column vs else .isIn column vs
  | notIn made column vs => if made then mkNotIn column vs else .notIn column vs
  | nullOrNotIn made column vs =>
    if made then mkNullOrNotIn column vs else .any [.isNull column, .notIn column vs]
  | hasRole made column role => if made then mkHasRole column role else .hasRole column role

def buildAll : List Draft → List Condition
  | [] => []
  | d :: ds => d.build :: buildAll ds

end

mutual

/-- The condition of a draft if constructors make all of its nodes. -/
def plain : Draft → Condition
  | given c => c
  | all _ parts => .all (plainAll parts)
  | any _ parts => .any (plainAll parts)
  | not _ part => .not part.plain
  | isIn _ column vs => .isIn column vs
  | notIn _ column vs => .notIn column vs
  | nullOrNotIn _ column vs => .any [.isNull column, .notIn column vs]
  | hasRole _ column role => .hasRole column role

def plainAll : List Draft → List Condition
  | [] => []
  | d :: ds => d.plain :: plainAll ds

end

end Draft

/-- Without values the test for null does not matter. -/
theorem truthBy_mkNullOrNotIn {test : Condition → Truth} (htest : IsTestTruth test) (column : String) (vs : List Literal) :
    (mkNullOrNotIn column vs).truthBy test = (any [isNull column, notIn column vs]).truthBy test := by
  rw [mkNullOrNotIn, truthBy_any]
  cases vs with
  | nil =>
    have hempty : (notIn column []).truthBy test = some true := htest.notIn column
    simp only [List.map_cons, List.map_nil, hempty, Truth.any_cons]
    exact htest.always.trans (Truth.or_true _).symm
  | cons v vs =>
    rw [List.isEmpty_cons, if_neg (by simp), truthBy_mkAny htest]
    rfl

mutual

theorem truthBy_build {test : Condition → Truth} (htest : IsTestTruth test) :
    ∀ d : Draft, d.build.truthBy test = d.plain.truthBy test
  | .given c => rfl
  | .all made parts => by
    have hparts := truthsBy_build htest parts
    cases made <;> simp [Draft.build, Draft.plain, truthBy_mkAll htest, truthBy_all, hparts]
  | .any made parts => by
    have hparts := truthsBy_build htest parts
    cases made <;> simp [Draft.build, Draft.plain, truthBy_mkAny htest, truthBy_any, hparts]
  | .not made part => by
    have hpart := truthBy_build htest part
    cases made <;> simp [Draft.build, Draft.plain, truthBy_mkNot htest, truthBy, hpart]
  | .isIn made column vs => by
    cases made <;> simp [Draft.build, Draft.plain, truthBy_mkIn htest, truthBy]
  | .notIn made column vs => by
    cases made <;> simp [Draft.build, Draft.plain, truthBy_mkNotIn htest, truthBy]
  | .nullOrNotIn made column vs => by
    cases made <;> simp [Draft.build, Draft.plain, truthBy_mkNullOrNotIn htest]
  | .hasRole made column role => by
    cases made <;> simp [Draft.build, Draft.plain, truthBy_mkHasRole htest, truthBy]

theorem truthsBy_build {test : Condition → Truth} (htest : IsTestTruth test) : ∀ ds : List Draft,
    (Draft.buildAll ds).map (truthBy test) = (Draft.plainAll ds).map (truthBy test)
  | [] => rfl
  | d :: ds => by
    rw [Draft.buildAll, Draft.plainAll, List.map_cons, List.map_cons, truthBy_build htest d, truthsBy_build htest ds]

end

/-! ### Order, number and grouping of parts -/

/-- Conditions that differ at most in the order, number and grouping of the parts of connectives, at any depth. -/
inductive Rearranges : Condition → Condition → Prop
  | refl (c : Condition) : Rearranges c c
  | symm {c d : Condition} (h : Rearranges c d) : Rearranges d c
  | trans {c d k : Condition} (h : Rearranges c d) (h' : Rearranges d k) : Rearranges c k
  | allOf {cs ds : List Condition} (h : ∀ c, c ∈ cs ↔ c ∈ ds) : Rearranges (all cs) (all ds)
  | anyOf {cs ds : List Condition} (h : ∀ c, c ∈ cs ↔ c ∈ ds) : Rearranges (any cs) (any ds)
  | allGroup (inner cs : List Condition) : Rearranges (all (all inner :: cs)) (all (inner ++ cs))
  | anyGroup (inner cs : List Condition) : Rearranges (any (any inner :: cs)) (any (inner ++ cs))
  | allPart {c d : Condition} (h : Rearranges c d) (cs : List Condition) : Rearranges (all (c :: cs)) (all (d :: cs))
  | anyPart {c d : Condition} (h : Rearranges c d) (cs : List Condition) : Rearranges (any (c :: cs)) (any (d :: cs))
  | notPart {c d : Condition} (h : Rearranges c d) : Rearranges (not c) (not d)

theorem Rearranges.truthBy_eq {c d : Condition} (h : Rearranges c d) (test : Condition → Truth) :
    c.truthBy test = d.truthBy test := by
  have hmem {cs ds : List Condition} (h : ∀ c, c ∈ cs ↔ c ∈ ds) (t : Truth) :
      t ∈ cs.map (truthBy test) ↔ t ∈ ds.map (truthBy test) := by
    simp only [List.mem_map, h]
  induction h with
  | refl c => rfl
  | symm _ ih => exact ih.symm
  | trans _ _ ih ih' => exact ih.trans ih'
  | allOf h => rw [truthBy_all, truthBy_all, Truth.all_congr (hmem h)]
  | anyOf h => rw [truthBy_any, truthBy_any, Truth.any_congr (hmem h)]
  | allGroup inner cs => simp only [truthBy_all, List.map_cons, List.map_append, Truth.all_cons, Truth.all_append]
  | anyGroup inner cs => simp only [truthBy_any, List.map_cons, List.map_append, Truth.any_cons, Truth.any_append]
  | allPart _ cs ih => simp only [truthBy_all, List.map_cons, ih]
  | anyPart _ cs ih => simp only [truthBy_any, List.map_cons, ih]
  | notPart _ ih => simp only [truthBy, ih]

theorem isTestTruth_truth (e : Event) : IsTestTruth (truth e) where
  always := rfl
  never := rfl
  isIn _ := rfl
  notIn _ := rfl
  hasRole _ _ h := if_pos h

/-- The constructing functions keep the truth of the constructors, wherever they are used among conditions of any form,
and the parts of connectives may be put into another order, repeated and grouped without a change of truth. -/
theorem truth_build_rearranged (e : Event) : (∀ d : Draft, d.build.truth e = d.plain.truth e) ∧
    ∀ c d : Condition, c.Rearranges d → c.truth e = d.truth e := by
  refine ⟨fun d => ?_, fun c d h => ?_⟩
  · rw [truth_eq_truthBy, truth_eq_truthBy, truthBy_build (isTestTruth_truth e)]
  · rw [truth_eq_truthBy, truth_eq_truthBy, h.truthBy_eq]

def unattended : Event :=
  ⟨1, 1, 0, 0, none, none, none, none, none, none, none, [], none, .empty⟩

/-- A test of unknown truth, twice and in groups, under a negation. -/
def scattered : Condition :=
  .not (.all [.all [.isIn "actor_login" [.text "ann"], .all []], .any [.never], .isIn "actor_login" [.text "ann"]])

/-- A choice under two negations, all of them made, with a compound role in it. -/
def deniedTwice : Draft :=
  .not true (.not true (.any true [.given scattered, .hasRole true "actor_roles" "a,b"]))

theorem truth_build_rearranged_unattended :
    deniedTwice.build.truth unattended = deniedTwice.plain.truth unattended ∧
      scattered.Rearranges (.not (.all [.any [.never], .isIn "actor_login" [.text "ann"]])) ∧
      scattered.truth unattended =
        truth unattended (.not (.all [.any [.never], .isIn "actor_login" [.text "ann"]])) := by
  have hrearranges : scattered.Rearranges (.not (.all [.any [.never], .isIn "actor_login" [.text "ann"]])) := by
    refine .notPart (.trans (.allGroup _ _) (.trans (d := .all [.all [], .isIn "actor_login" [.text "ann"],
      .any [.never]]) (.allOf fun c => ?_) (.trans (.allGroup _ _) (.allOf fun c => ?_))))
    · simp only [List.cons_append, List.nil_append, List.mem_cons, List.not_mem_nil]
      tauto
    · simp only [List.nil_append, List.mem_cons, List.not_mem_nil]
      tauto
  obtain ⟨hbuild, hsame⟩ := truth_build_rearranged unattended
  exact ⟨hbuild _, hrearranges, hsame _ _ hrearranges⟩

end Condition

end AuditSearch
