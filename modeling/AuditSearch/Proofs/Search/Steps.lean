import AuditSearch.Proofs.Query.Group
import AuditSearch.Proofs.Query.Term
import AuditSearch.Proofs.Search.Resolve

/-!
A compilation as a walk over steps. The terms of a search say beforehand what is checked and who is asked for what;
the first step that fails ends the walk, and the compilation with it.
-/
namespace AuditSearch

/-- What a compilation does for a field, one thing at a time. -/
inductive Step where
  | unknown (name : String)
  | day (name value : String)
  | metadata (key : String) (values : List String)
  | directory (d : Directory) (attr : Attribute) (values : List String)

def Step.call? : Step → Option Call
  | unknown _ | day _ _ => none
  | metadata key values => some (.metadata key values)
  | directory d attr values => some (.directory d.name attr values)

/-- Questions about the plain values and then about the negated ones, as far as there are any. -/
def Step.bySign (ask : List String → List Step) (included excluded : List String) : List Step :=
  (if included.isEmpty then [] else ask included) ++ if excluded.isEmpty then [] else ask excluded

namespace Compiler

/-- The failure of a step. One of a directory names the directory, unless it already tells which lookup failed. -/
def failure? (c : Compiler) : Step → Option Failure
  | .unknown name => if c.policy.unknownFields = .fail then some (.unknownField name) else none
  | .day name value =>
    if c.policy.invalidValues = .fail ∧ (Calendar.parseDate? value).isNone then some (.invalidDate name value) else none
  | .metadata key values =>
    match c.index.find key values with
    | .ok _ => none
    | .error f => some f
  | .directory d attr values =>
    match d.find attr values with
    | .ok _ => none
    | .error (.lookupFailed source message) => some (.lookupFailed source message)
    | .error f => some (.lookupFailed d.name f.message)

def stepsOf (c : Compiler) (name : String) (included excluded : List String) : List Step :=
  match c.resolution? name with
  | none => [.unknown name]
  | some (.column _ _) | some (.role _) => []
  | some (.day _ _) => included.head?.toList.map (.day name)
  | some (.metadata key) => Step.bySign (fun values => [.metadata key values]) included excluded
  | some (.identity attr _) =>
    Step.bySign
      (fun values => .directory c.directory attr values ::
        if c.federates then c.federated.toList.map (.directory · attr values) else [])
      included excluded

/-- The steps for some terms, the fields in the order in which they first appear. -/
def steps (c : Compiler) (terms : List Term) : List Step :=
  (terms.map Term.field).eraseDups.flatMap fun name =>
    c.stepsOf name (Term.valuesOf terms name false) (Term.valuesOf terms name true)

theorem steps_eq (c : Compiler) (terms : List Term) :
    c.steps terms = (Group.ofTerms terms).flatMap fun g => c.stepsOf g.field g.included g.excluded := by
  rw [steps, Group.ofTerms_eq, List.flatMap_map]
  rfl

/-- The steps up to and with the first one that fails. -/
def walked (c : Compiler) : List Step → List Step
  | [] => []
  | s :: ss => if (c.failure? s).isSome then [s] else s :: c.walked ss

theorem walked_singleton (c : Compiler) (s : Step) : c.walked [s] = [s] := by
  rw [walked]
  split <;> rfl

theorem walked_append_of_passed {c : Compiler} {ss : List Step} (h : ss.findSome? c.failure? = none) (ts : List Step) :
    c.walked (ss ++ ts) = ss ++ c.walked ts := by
  induction ss with
  | nil => rfl
  | cons s ss ih =>
    obtain ⟨hs, hss⟩ := List.forall_mem_cons.mp (List.findSome?_eq_none_iff.mp h)
    rw [List.cons_append, walked, hs, ih (List.findSome?_eq_none_iff.mpr hss)]
    rfl

theorem walked_append_of_failed {c : Compiler} {ss : List Step} {f : Failure} (h : ss.findSome? c.failure? = some f)
    (ts : List Step) : c.walked (ss ++ ts) = c.walked ss := by
  induction ss with
  | nil => cases h
  | cons s ss ih =>
    rw [List.cons_append, walked, walked]
    cases hs : c.failure? s with
    | some g => rfl
    | none =>
      rw [List.findSome?_cons, hs] at h
      rw [ih h]

/-- What was walked when a step failed: steps that passed, and this one. -/
theorem walked_of_failed {c : Compiler} {ss : List Step} {f : Failure} (h : ss.findSome? c.failure? = some f) :
    ∃ passed s, c.walked ss = passed ++ [s] ∧ (∀ t ∈ passed, c.failure? t = none) ∧ c.failure? s = some f := by
  obtain ⟨passed, s, rest, rfl, hs, hpassed⟩ := List.findSome?_eq_some_iff.mp h
  have hnone : passed.findSome? c.failure? = none := List.findSome?_eq_none_iff.mpr hpassed
  refine ⟨passed, s, ?_, hpassed, hs⟩
  rw [walked_append_of_passed hnone, walked, hs]
  rfl

/-! ### Runs that go by steps -/

/-- A run makes the calls of the steps that are walked, and fails as the first of them that does. -/
structure Performs {α : Type} (c : Compiler) (x : Traced α) (ss : List Step) : Prop where
  calls : x.calls = (c.walked ss).filterMap Step.call?
  failure : ∀ f, x.outcome = .error f ↔ ss.findSome? c.failure? = some f

section
variable {α β : Type} {c : Compiler}

theorem performs_pure (c : Compiler) (a : α) : c.Performs (pure a) [] := by
  refine ⟨rfl, fun f => ?_⟩
  constructor <;> rintro ⟨⟩

/-- A step that asks nobody. -/
theorem performs_check {s : Step} (hcall : s.call? = none) {x : Traced α} (hcalls : x.calls = [])
    (h : ∀ f, x.outcome = .error f ↔ c.failure? s = some f) : c.Performs x [s] := by
  refine ⟨?_, fun f => ?_⟩
  · rw [hcalls, walked_singleton, List.filterMap_cons_none hcall]
    rfl
  · rw [h, List.findSome?_singleton]

theorem performs_ask {s : Step} {call : Call} (hcall : s.call? = some call) {answer : Except Failure α}
    (h : ∀ f, answer = .error f ↔ c.failure? s = some f) : c.Performs (.ask call answer) [s] := by
  refine ⟨?_, fun f => ?_⟩
  · rw [walked_singleton, List.filterMap_cons_some hcall]
    rfl
  · rw [List.findSome?_singleton, ← h]
    rfl

theorem Performs.bind {x : Traced α} {next : α → Traced β} {ss ts : List Step} (hx : c.Performs x ss)
    (hnext : ∀ a, c.Performs (next a) ts) : c.Performs (x >>= next) (ss ++ ts) := by
  cases h : x.outcome with
  | error f =>
    have hfailed := (hx.failure f).mp h
    rw [Traced.bind_error h]
    refine ⟨?_, fun g => ?_⟩
    · rw [walked_append_of_failed hfailed]
      exact hx.calls
    · rw [List.findSome?_append, hfailed, Option.some_or, Except.error.injEq, Option.some_inj]
  | ok a =>
    have hpassed : ss.findSome? c.failure? = none := by
      cases hss : ss.findSome? c.failure? with
      | none => rfl
      | some f =>
        rw [(hx.failure f).mpr hss] at h
        cases h
    have hcalls : (c.walked ss).filterMap Step.call? = ss.filterMap Step.call? := by
      have := walked_append_of_passed hpassed []
      rw [List.append_nil] at this
      rw [this, walked, List.append_nil]
    rw [Traced.bind_ok h]
    refine ⟨?_, fun g => ?_⟩
    · rw [walked_append_of_passed hpassed, List.filterMap_append, hx.calls, hcalls, (hnext a).calls]
    · rw [List.findSome?_append, hpassed, Option.none_or]
      exact (hnext a).failure g

theorem Performs.map {x : Traced α} {ss : List Step} (h : c.Performs x ss) (g : α → β) :
    c.Performs (x >>= fun a => pure (g a)) ss := by
  have := h.bind fun a => performs_pure c (g a)
  rwa [List.append_nil] at this

theorem performs_mapM {next : α → Traced β} {stepsOf : α → List Step} {as : List α}
    (h : ∀ a ∈ as, c.Performs (next a) (stepsOf a)) : c.Performs (as.mapM next) (as.flatMap stepsOf) := by
  induction as with
  | nil => exact performs_pure c []
  | cons a as ih =>
    obtain ⟨ha, has⟩ := List.forall_mem_cons.mp h
    rw [List.mapM_cons, List.flatMap_cons]
    exact ha.bind fun b => (ih has).map (b :: ·)

theorem performs_askSome {values : List String} {ask : Traced α} {ss : List Step} (h : c.Performs ask ss) (next : α → β)
    (none : β) : c.Performs (if values.isEmpty then pure none else ask >>= fun a => pure (next a))
      (if values.isEmpty then [] else ss) := by
  split
  · exact performs_pure c none
  · exact h.map next

end

section
variable (c : Compiler)

theorem performs_metadata (key : String) (values : List String) :
    c.Performs (c.index.ask key values) [.metadata key values] := by
  refine performs_ask rfl fun f => ?_
  rw [failure?]
  cases c.index.find key values <;> simp

theorem performs_directory (d : Directory) (attr : Attribute) (values : List String) :
    c.Performs (d.ask attr values) [.directory d attr values] := by
  refine performs_ask rfl fun f => ?_
  rw [failure?]
  cases d.find attr values with
  | ok found => simp
  | error g => cases g <;> simp [Directory.failure]

theorem performs_askAll (attr : Attribute) (values : List String) :
    c.Performs (Directory.askAll c.directories attr values)
      (.directory c.directory attr values ::
        if c.federates then c.federated.toList.map (.directory · attr values) else []) := by
  have hsteps : (c.directories.flatMap fun d => [Step.directory d attr values]) =
      .directory c.directory attr values ::
        if c.federates then c.federated.toList.map (.directory · attr values) else [] := by
    rw [← List.map_eq_flatMap, directories, List.map_cons]
    split <;> rfl
  rw [← hsteps]
  exact (performs_mapM fun d _ => c.performs_directory d attr values).map Identity.mergeAll

theorem performs_resolve (g : Group) : c.Performs (c.resolve g) (c.stepsOf g.field g.included g.excluded) := by
  rw [resolve_eq, stepsOf]
  cases c.resolution? g.field with
  | none =>
    refine performs_check rfl ?_ fun f => ?_
    · cases c.policy.unknownFields <;> rfl
    · rw [failure?]
      cases c.policy.unknownFields <;> simp [pure, Traced.pure, Traced.fail]
  | some resolution =>
    cases resolution with
    | column _ _ | role _ => exact performs_pure c _
    | metadata key =>
      dsimp only
      rw [Group.metadataIds_eq]
      exact ((performs_askSome (c.performs_metadata key _) _ _).bind fun _ =>
        (performs_askSome (c.performs_metadata key _) _ _).map _).map _
    | identity attr projections =>
      dsimp only
      rw [Group.identityCondition_eq]
      exact ((performs_askSome (c.performs_askAll attr _) _ _).bind fun _ =>
        (performs_askSome (c.performs_askAll attr _) _ _).map _).map _
    | day column bound =>
      dsimp only
      rw [resolveDay_eq]
      cases g.included.head? with
      | none => exact performs_pure c _
      | some value =>
        have hdate : (Calendar.parseDate? value).isNone = (Calendar.boundInstant? value bound c.offsetSeconds).isNone := by
          rw [Calendar.boundInstant?, Option.isNone_map]
        dsimp only
        refine performs_check rfl ?_ fun f => ?_
        · cases Calendar.boundInstant? value bound c.offsetSeconds <;> cases c.policy.invalidValues <;> rfl
        · rw [failure?, hdate]
          cases Calendar.boundInstant? value bound c.offsetSeconds <;> cases c.policy.invalidValues <;>
            simp [pure, Traced.pure, Traced.fail]

theorem performs_condition (raw : String) : c.Performs (c.condition raw) (c.steps (Term.ofSearch raw)) := by
  rw [steps_eq]
  exact (performs_mapM fun g _ => c.performs_resolve g).map Contribution.assemble

theorem performs_compile (raw : String) : c.Performs (c.compile raw) (c.steps (Term.ofSearch raw)) := by
  rw [compile]
  split
  · exact (c.performs_condition raw).map Compiled.condition
  · rename_i hcolon
    rw [Term.ofSearch_eq_nil (by simpa using hcolon)]
    exact performs_pure c _

end

/-- The calls of a compilation are those of its steps up to and with the first one that fails. It fails as this step
does, and succeeds if there is none. A search without a colon makes no call. -/
theorem compile_walks_steps (c : Compiler) (raw : String) :
    (':' ∉ raw.toList → (c.compile raw).calls = []) ∧
    (c.compile raw).calls = (c.walked (c.steps (Term.ofSearch raw))).filterMap Step.call? ∧
    (∀ f, (c.compile raw).outcome = .error f ↔ (c.steps (Term.ofSearch raw)).findSome? c.failure? = some f) ∧
    ((∃ result, (c.compile raw).outcome = .ok result) ↔ ∀ s ∈ c.steps (Term.ofSearch raw), c.failure? s = none) := by
  obtain ⟨hcalls, hfailure⟩ := c.performs_compile raw
  refine ⟨fun hcolon => ?_, hcalls, hfailure, ?_⟩
  · rw [hcalls, Term.ofSearch_eq_nil hcolon]
    rfl
  · rw [← List.findSome?_eq_none_iff]
    cases h : (c.compile raw).outcome with
    | ok result =>
      refine iff_of_true ⟨result, rfl⟩ (Option.eq_none_iff_forall_ne_some.mpr fun f hf => ?_)
      rw [← hfailure, h] at hf
      cases hf
    | error f =>
      refine iff_of_false (fun ⟨_, hresult⟩ => nomatch hresult) ?_
      rw [(hfailure f).mp h]
      exact Option.some_ne_none f

end Compiler

end AuditSearch
