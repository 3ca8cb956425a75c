import AuditSearch.Proofs.Query.Group
import AuditSearch.Proofs.Query.Term
import AuditSearch.Proofs.Search.Resolve

/-!
What a compilation makes of terms that it cannot use. A lenient one drops them, as if they had not been written; a
search that passes a strict one has none, and then the policy makes no difference.
-/
namespace AuditSearch

namespace Contribution

theorem assemble_nothing (before parts : List Contribution) :
    assemble (before ++ .nothing :: parts) = assemble (before ++ parts) := by
  have hnone : condition? nothing = none ∧ ids? nothing = none := ⟨rfl, rfl⟩
  simp only [assemble, List.filterMap_append, List.filterMap_cons, hnone]

/-- Groups that are resolved to nothing could as well be missing: they leave no call and no part of the condition. -/
theorem assemble_filter {resolve resolve' : Group → Traced Contribution} {p : Group → Bool} {groups : List Group}
    (hkept : ∀ g ∈ groups, p g → resolve g = resolve' g) (hdropped : ∀ g ∈ groups, ¬p g → resolve g = pure .nothing)
    (before : List Contribution) :
    (groups.mapM resolve >>= fun parts => pure (assemble (before ++ parts))) =
      (groups.filter p).mapM resolve' >>= fun parts => pure (assemble (before ++ parts)) := by
  induction groups generalizing before with
  | nil => rfl
  | cons g groups ih =>
    obtain ⟨hkeep, hkept⟩ := List.forall_mem_cons.mp hkept
    obtain ⟨hdrop, hdropped⟩ := List.forall_mem_cons.mp hdropped
    rw [List.mapM_cons]
    cases hg : p g with
    | false =>
      rw [hdrop (by simp [hg]), List.filter_cons_of_neg (by simp [hg])]
      simp only [bind_assoc, pure_bind, assemble_nothing]
      exact ih hkept hdropped before
    | true =>
      rw [hkeep hg, List.filter_cons_of_pos hg, List.mapM_cons]
      simp only [bind_assoc, pure_bind]
      -- The part of this group belongs to those before the others.
      refine bind_congr fun part => ?_
      simpa using ih hkept hdropped (before ++ [part])

end Contribution

namespace Compiler

/-- Terms of a name can be used if it is one of a field, and for a field of days the first plain value is a date. -/
def canUse (c : Compiler) (terms : List Term) (name : String) : Bool :=
  match c.resolution? name with
  | none => false
  | some (.day _ _) => (Term.firstPlain? terms name).all fun value => (Calendar.parseDate? value).isSome
  | some _ => true

/-- A search is another one without the atoms that cannot be used. -/
def IsCleaned (c : Compiler) (raw cleaned : String) : Prop :=
  Text.words cleaned = (Text.words raw).filter fun atom =>
    (Term.parse? atom).all fun t => c.canUse (Term.ofSearch raw) t.field

instance (c : Compiler) (raw cleaned : String) : Decidable (c.IsCleaned raw cleaned) :=
  inferInstanceAs (Decidable (_ = _))

variable {c : Compiler} {raw : String}

theorem exists_isCleaned (c : Compiler) (raw : String) : ∃ cleaned, c.IsCleaned raw cleaned :=
  Text.exists_words fun _ hw => (Text.mem_words (List.mem_filter.mp hw).1).2

theorem ofSearch_of_isCleaned {cleaned : String} (h : c.IsCleaned raw cleaned) :
    Term.ofSearch cleaned = (Term.ofSearch raw).filter fun t => c.canUse (Term.ofSearch raw) t.field := by
  rw [Term.ofSearch, h, List.filterMap_filter, Term.ofSearch, List.filter_filterMap]
  refine List.filterMap_congr fun atom _ => ?_
  cases hatom : Term.parse? atom with
  | none => simp
  | some t => simp [Option.filter]

@[simp] theorem resolution_withPolicy (c : Compiler) (p : Policy) (name : String) :
    (c.withPolicy p).resolution? name = c.resolution? name := rfl

section
variable {terms : List Term} {g : Group} (hg : g.included.head? = Term.firstPlain? terms g.field)
include hg

/-- Policies do not matter for terms that can be used. -/
theorem resolve_of_canUse (h : c.canUse terms g.field) (p q : Policy) :
    (c.withPolicy p).resolve g = (c.withPolicy q).resolve g := by
  rw [resolve_eq, resolve_eq, resolution_withPolicy, resolution_withPolicy]
  rw [canUse] at h
  cases hresolution : c.resolution? g.field with
  | none =>
    rw [hresolution] at h
    cases h
  | some resolution =>
    cases resolution with
    | column _ _ | metadata _ | identity _ _ | role _ => rfl
    | day column bound =>
      rw [hresolution, ← hg] at h
      dsimp only at h ⊢
      rw [resolveDay_eq, resolveDay_eq]
      cases hfirst : g.included.head? with
      | none => rfl
      | some value =>
        rw [hfirst, Option.all_some] at h
        obtain ⟨date, hdate⟩ := Option.isSome_iff_exists.mp h
        simp only [Calendar.boundInstant?, hdate, Option.map_some]
        rfl

theorem resolve_of_cannotUse (h : ¬c.canUse terms g.field) :
    (c.withPolicy .lenient).resolve g = pure .nothing ∧ ∃ f, (c.withPolicy .strict).resolve g = .fail f := by
  rw [resolve_eq, resolve_eq, resolution_withPolicy, resolution_withPolicy]
  rw [canUse] at h
  cases hresolution : c.resolution? g.field with
  | none => exact ⟨rfl, _, rfl⟩
  | some resolution =>
    rw [hresolution] at h
    cases resolution with
    | column _ _ | metadata _ | identity _ _ | role _ => exact absurd rfl h
    | day column bound =>
      dsimp only at h ⊢
      rw [← hg] at h
      rw [resolveDay_eq, resolveDay_eq]
      cases hfirst : g.included.head? with
      | none =>
        rw [hfirst] at h
        exact absurd rfl h
      | some value =>
        rw [hfirst, Option.all_some, Option.not_isSome_iff_eq_none] at h
        simp only [Calendar.boundInstant?, h, Option.map_none]
        exact ⟨rfl, _, rfl⟩

end

/-- Groups that cannot be used are the same as none where they are dropped. -/
theorem conditionOfGroups_filter {terms : List Term} {p : Policy} (q : Policy)
    (hdropped : ∀ g ∈ Group.ofTerms terms, ¬c.canUse terms g.field → (c.withPolicy p).resolve g = pure .nothing) :
    (c.withPolicy p).conditionOfGroups (Group.ofTerms terms) =
      (c.withPolicy q).conditionOfGroups ((Group.ofTerms terms).filter fun g => c.canUse terms g.field) :=
  Contribution.assemble_filter (fun _ hg hkept => resolve_of_canUse (Group.head_included hg) hkept p q) hdropped []

/-- A search that is compiled strictly has no terms that cannot be used. -/
theorem canUse_of_strict {condition : Condition} (h : ((c.withPolicy .strict).condition raw).outcome = .ok condition) :
    ∀ g ∈ Group.ofTerms (Term.ofSearch raw), c.canUse (Term.ofSearch raw) g.field := by
  obtain ⟨parts, hparts, -⟩ := Traced.outcome_bind.mp h
  intro g hg
  by_contra hcannot
  obtain ⟨part, -, hpart⟩ := exists_right (Traced.outcome_mapM.mp hparts) hg
  obtain ⟨f, hf⟩ := (resolve_of_cannotUse (Group.head_included hg) hcannot).2
  rw [hf] at hpart
  cases hpart

/-- A lenient compilation is a strict one of the search without what cannot be used, with the same calls and the same
outcome; and a search that is compiled strictly is compiled in the same way under every policy. -/
theorem condition_lenient_eq_strict {cleaned : String} (h : c.IsCleaned raw cleaned) :
    (c.withPolicy .lenient).condition raw = (c.withPolicy .strict).condition cleaned ∧
    ∀ condition, ((c.withPolicy .strict).condition raw).outcome = .ok condition →
      ∀ p, (c.withPolicy p).condition raw = (c.withPolicy .strict).condition raw := by
  constructor
  · rw [Compiler.condition, Compiler.condition, ofSearch_of_isCleaned h, Group.ofTerms_filter]
    exact conditionOfGroups_filter .strict fun g hg hcannot => (resolve_of_cannotUse (Group.head_included hg) hcannot).1
  · intro condition hcondition p
    have hall := canUse_of_strict hcondition
    have hfilter := conditionOfGroups_filter (p := p) .strict fun g hg hcannot => absurd (hall g hg) hcannot
    rwa [List.filter_eq_self.mpr hall] at hfilter

/-- A compiler with a field of each kind that is looked up or may be invalid, whose directory is out of reach. -/
def dated : Compiler :=
  ⟨Dictionary.ofList [("email", ⟨"email", .identity .email []⟩), ("since", ⟨"since", .day "created" .start⟩),
      ("title", ⟨"title", .metadata "PostTitle"⟩)],
    ⟨fun _ _ => .ok [4]⟩, ⟨"staff", fun _ _ => .error (.internal "socket closed")⟩, none, true, 0, .legacy⟩

theorem condition_lenient_eq_strict_dated :
    dated.IsCleaned "colour:red title:draft since:monday plain -since:2024-01-01 email:ann" "title:draft plain email:ann" ∧
    (dated.withPolicy .lenient).condition "colour:red title:draft since:monday plain -since:2024-01-01 email:ann" =
      (dated.withPolicy .strict).condition "title:draft plain email:ann" ∧
    dated.IsCleaned "-title:draft since:1970-01-02" "-title:draft since:1970-01-02" ∧
    ((dated.withPolicy .strict).condition "-title:draft since:1970-01-02").outcome =
      .ok (.all [.compare "created" .atLeast (.integer 86400), .notIn "id" [.integer 4]]) ∧
    ∀ p, (dated.withPolicy p).condition "-title:draft since:1970-01-02" =
      (dated.withPolicy .strict).condition "-title:draft since:1970-01-02" := by
  have hdropped : dated.IsCleaned "colour:red title:draft since:monday plain -since:2024-01-01 email:ann"
      "title:draft plain email:ann" := by
    have hwords : Text.words "colour:red title:draft since:monday plain -since:2024-01-01 email:ann" =
        ["colour:red", "title:draft", "since:monday", "plain", "-since:2024-01-01", "email:ann"] := by rfl
    have hterms : Term.ofSearch "colour:red title:draft since:monday plain -since:2024-01-01 email:ann" =
        [⟨"colour", false, "red"⟩, ⟨"title", false, "draft"⟩, ⟨"since", false, "monday"⟩, ⟨"since", true, "2024-01-01"⟩,
          ⟨"email", false, "ann"⟩] := by rfl
    rw [IsCleaned, hwords, hterms]
    rfl
  have hkept : dated.IsCleaned "-title:draft since:1970-01-02" "-title:draft since:1970-01-02" := by rfl
  have hcondition : ((dated.withPolicy .strict).condition "-title:draft since:1970-01-02").outcome =
      .ok (.all [.compare "created" .atLeast (.integer 86400), .notIn "id" [.integer 4]]) := by rfl
  exact ⟨hdropped, (condition_lenient_eq_strict hdropped).1, hkept, hcondition,
    (condition_lenient_eq_strict hkept).2 _ hcondition⟩

end Compiler

end AuditSearch
