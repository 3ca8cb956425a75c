import AuditSearch.Proofs.Search.Steps

/-!
Failures of compilations. A failure is of the search itself or of somebody who was asked, and in the second case the
same search may succeed later; but the index of metadata has to say so itself.
-/
namespace AuditSearch

theorem Failure.isUserFacing_of_isRetryable {f : Failure} (h : f.isRetryable) : f.isUserFacing = false := by
  cases f with
  | lookupFailed _ _ => rfl
  | _ => cases h

namespace Compiler

variable {c : Compiler} {raw : String} {f : Failure}

/-- A check fails because of the search, and no lookup. -/
theorem isUserFacing_of_check {s : Step} (hs : s.call? = none) (h : c.failure? s = some f) :
    f.isUserFacing ∧ f.isRetryable = false := by
  cases s with
  | metadata _ _ | directory _ _ _ => cases hs
  | unknown _ | day _ _ =>
    rw [failure?] at h
    split at h
    · cases h
      exact ⟨rfl, rfl⟩
    · cases h

theorem isRetryable_of_directory {d : Directory} {attr : Attribute} {values : List String}
    (h : c.failure? (.directory d attr values) = some f) : f.isRetryable := by
  rw [failure?] at h
  split at h <;> cases h <;> rfl

/-- A step was walked that asked somebody and failed. -/
def CallFailed (c : Compiler) (raw : String) : Prop :=
  ∃ s ∈ c.walked (c.steps (Term.ofSearch raw)), s.call?.isSome ∧ (c.failure? s).isSome

/-- A failure is either of the search or retryable, and it is retryable exactly if a call failed. -/
structure Classifies (c : Compiler) (raw : String) (f : Failure) : Prop where
  exclusive : f.isUserFacing = !f.isRetryable
  retryable : f.isRetryable ↔ c.CallFailed raw

/-- The step that a walk fails at: no other one that was walked failed. -/
theorem exists_failed_walked {ss : List Step} (h : ss.findSome? c.failure? = some f) :
    ∃ s ∈ c.walked ss, c.failure? s = some f ∧ ∀ t ∈ c.walked ss, (c.failure? t).isSome → t = s := by
  obtain ⟨passed, s, hwalked, hpassed, hs⟩ := walked_of_failed h
  rw [hwalked]
  refine ⟨s, by simp, hs, fun t ht hfailed => ?_⟩
  obtain ht | ht := List.mem_append.mp ht
  · rw [hpassed t ht] at hfailed
    cases hfailed
  · exact List.mem_singleton.mp ht

theorem exists_failed (h : (c.compile raw).outcome = .error f) :
    ∃ s ∈ c.walked (c.steps (Term.ofSearch raw)), c.failure? s = some f ∧
      ∀ t ∈ c.walked (c.steps (Term.ofSearch raw)), (c.failure? t).isSome → t = s :=
  exists_failed_walked (((c.performs_compile raw).failure f).mp h)

/-- A metadata call was made and failed exactly if it was the step that failed. -/
theorem metadata_failed_iff {s : Step} (hs : s ∈ c.walked (c.steps (Term.ofSearch raw))) (hfailure : c.failure? s = some f)
    (hlast : ∀ t ∈ c.walked (c.steps (Term.ofSearch raw)), (c.failure? t).isSome → t = s) (key : String)
    (values : List String) :
    .metadata key values ∈ (c.compile raw).calls ∧ c.index.find key values = .error f ↔ s = .metadata key values := by
  have hcalls := (c.performs_compile raw).calls
  constructor
  · rintro ⟨hcall, herror⟩
    rw [hcalls] at hcall
    obtain ⟨t, ht, hcall⟩ := List.mem_filterMap.mp hcall
    cases t with
    | unknown _ | day _ _ | directory _ _ _ => cases hcall
    | metadata key' values' =>
      cases hcall
      refine (hlast _ ht ?_).symm
      rw [failure?, herror]
      rfl
  · rintro rfl
    rw [failure?] at hfailure
    refine ⟨?_, ?_⟩
    · rw [hcalls]
      exact List.mem_filterMap.mpr ⟨_, hs, rfl⟩
    · split at hfailure
      · cases hfailure
      · rename_i herror
        rw [herror, Option.some.inj hfailure]

/-- A failure of a compilation is classified unless it is one of the index of metadata that does not tell that a lookup
failed. This is the only failure of a call that is handed on as it is. -/
theorem compile_classifies_iff (h : (c.compile raw).outcome = .error f) :
    c.Classifies raw f ↔ ¬∃ key values,
      (.metadata key values ∈ (c.compile raw).calls ∧ c.index.find key values = .error f) ∧ ¬f.isRetryable := by
  obtain ⟨s, hs, hfailure, hlast⟩ := exists_failed h
  have hcallFailed : c.CallFailed raw ↔ s.call?.isSome := by
    constructor
    · rintro ⟨t, ht, hcall, hfailed⟩
      rwa [hlast t ht hfailed] at hcall
    · intro hcall
      exact ⟨s, hs, hcall, by rw [hfailure]; rfl⟩
  simp only [metadata_failed_iff hs hfailure hlast]
  cases s with
  | unknown _ | day _ _ =>
    obtain ⟨huser, hretry⟩ := isUserFacing_of_check rfl hfailure
    refine iff_of_true ⟨by rw [huser, hretry]; rfl, ?_⟩ (by simp)
    rw [hcallFailed, hretry]
    rfl
  | metadata key values =>
    have hcall : c.CallFailed raw := hcallFailed.mpr rfl
    constructor
    · rintro ⟨-, hretryable⟩ ⟨_, _, -, hnot⟩
      exact hnot (hretryable.mpr hcall)
    · intro hnone
      have hretryable : f.isRetryable := by
        by_contra hnot
        exact hnone ⟨key, values, rfl, hnot⟩
      exact ⟨by rw [Failure.isUserFacing_of_isRetryable hretryable, hretryable]; rfl, iff_of_true hretryable hcall⟩
  | directory d attr values =>
    have hretryable := isRetryable_of_directory hfailure
    refine iff_of_true ⟨?_, iff_of_true hretryable (hcallFailed.mpr rfl)⟩ (by simp)
    rw [Failure.isUserFacing_of_isRetryable hretryable, hretryable]
    rfl

/-- A compiler whose collaborators are out of reach and say so in their own words. -/
def offline : Compiler :=
  ⟨Dictionary.ofList [("email", ⟨"email", .identity .email []⟩), ("title", ⟨"title", .metadata "PostTitle"⟩)],
    ⟨fun _ _ => .error (.internal "socket closed")⟩, ⟨"staff", fun _ _ => .error (.internal "socket closed")⟩, none, true,
    0, .legacy⟩

theorem compile_classifies_iff_offline :
    (offline.compile "colour:red email:ann -title:draft").outcome =
        .error (.lookupFailed "staff" "Internal error: socket closed") ∧
      offline.Classifies "colour:red email:ann -title:draft" (.lookupFailed "staff" "Internal error: socket closed") := by
  have h : (offline.compile "colour:red email:ann -title:draft").outcome =
      .error (.lookupFailed "staff" "Internal error: socket closed") := by rfl
  refine ⟨h, (compile_classifies_iff h).mpr ?_⟩
  rintro ⟨_, _, -, hnot⟩
  exact hnot rfl

/-- A failed call of metadata ends a compilation with a failure that is neither of the search nor retryable. -/
theorem compile_hands_on_metadata_failure :
    (offline.compile "-title:draft email:ann").outcome = .error (.internal "socket closed") ∧
      (Failure.internal "socket closed").isUserFacing = false ∧ (Failure.internal "socket closed").isRetryable = false ∧
      offline.CallFailed "-title:draft email:ann" := by
  have hsteps : offline.steps (Term.ofSearch "-title:draft email:ann") =
      [.metadata "PostTitle" ["draft"], .directory offline.directory .email ["ann"]] := by rfl
  refine ⟨by rfl, rfl, rfl, .metadata "PostTitle" ["draft"], ?_, rfl, rfl⟩
  rw [hsteps]
  exact List.mem_singleton.mpr rfl

end Compiler

end AuditSearch
