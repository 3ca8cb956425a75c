import AuditSearch.Proofs.EventLog.Lookup
import AuditSearch.Proofs.EventLog.Run

/-!
The identities of a run: of those that were enrolled the ones stay whose id and login no later one has, in the order
of their ids. Lookups find those of them that have an attribute among some values.
-/
namespace AuditSearch

namespace EventLog

theorem place_perm (i : Identity) (ks : List Identity) : (place i ks).Perm (i :: ks) := by
  induction ks with
  | nil => exact .refl _
  | cons k ks ih =>
    rw [place]
    split
    · exact .refl _
    · exact (ih.cons k).trans (.swap i k ks)

/-- Identities in the order of their ids, with no login twice. -/
structure IsDirectory (is : List Identity) : Prop where
  ascending : is.Pairwise fun i k => i.id < k.id
  logins : (is.map Identity.login).Nodup

theorem ascending_place {i : Identity} {ks : List Identity} (h : ks.Pairwise fun i k => i.id < k.id)
    (hnew : ∀ k ∈ ks, k.id ≠ i.id) : (place i ks).Pairwise fun i k => i.id < k.id := by
  induction ks with
  | nil => simp [place]
  | cons k ks ih =>
    obtain ⟨hk, hks⟩ := List.pairwise_cons.mp h
    obtain ⟨hne, hnew⟩ := List.forall_mem_cons.mp hnew
    rw [place]
    split
    · rename_i hik
      exact List.pairwise_cons.mpr ⟨List.forall_mem_cons.mpr ⟨hik, fun m hm => Int64.lt_trans hik (hk m hm)⟩, h⟩
    · rename_i hik
      have hki : k.id < i.id := Int64.lt_of_le_of_ne (Int64.not_lt.mp hik) hne
      refine List.pairwise_cons.mpr ⟨fun m hm => ?_, ih hks hnew⟩
      obtain rfl | hm := List.mem_cons.mp ((place_perm i ks).subset hm)
      · exact hki
      · exact hk m hm

theorem mem_enroll (log : EventLog) (i k : Identity) :
    k ∈ (log.enroll i).identities ↔ k = i ∨ k ∈ log.identities ∧ k.id ≠ i.id ∧ k.login ≠ i.login := by
  rw [enroll, (place_perm i _).mem_iff]
  simp

theorem isDirectory_enroll {log : EventLog} (h : IsDirectory log.identities) (i : Identity) :
    IsDirectory (log.enroll i).identities := by
  have hkept : ∀ k ∈ log.identities.filter (fun k => k.id != i.id && k.login != i.login),
      k.id ≠ i.id ∧ k.login ≠ i.login := by simp
  refine ⟨ascending_place (h.ascending.filter _) fun k hk => (hkept k hk).1, ?_⟩
  rw [enroll, ((place_perm i _).map Identity.login).nodup_iff, List.map_cons, List.nodup_cons]
  refine ⟨fun hmem => ?_, h.logins.sublist (List.filter_sublist.map _)⟩
  obtain ⟨k, hk, hlogin⟩ := List.mem_map.mp hmem
  exact (hkept k hk).2 hlogin

/-! ### Runs -/

def Step.identity? : Step → Option Identity
  | enroll i => some i
  | _ => none

/-- The identities that some steps enroll, in turn. -/
def enrolled (steps : List Step) : List Identity :=
  steps.filterMap Step.identity?

theorem isDirectory_run (steps : List Step) : IsDirectory (run steps).identities := by
  induction steps using List.reverseRecOn with
  | nil => exact ⟨.nil, .nil⟩
  | append_singleton steps s ih =>
    rw [run_concat]
    cases s with
    | enroll i => exact isDirectory_enroll ih i
    | record e | reopen => exact ih

/-- An identity is enrolled, and none behind it has its id or its login. -/
def Stays (is : List Identity) (i : Identity) : Prop :=
  ∃ before after, is = before ++ i :: after ∧ ∀ k ∈ after, k.id ≠ i.id ∧ k.login ≠ i.login

theorem stays_concat (is : List Identity) (i k : Identity) :
    Stays (is ++ [i]) k ↔ k = i ∨ Stays is k ∧ k.id ≠ i.id ∧ k.login ≠ i.login := by
  constructor
  · rintro ⟨before, after, hsplit, hafter⟩
    -- Either nothing is behind the identity, and it is the new one, or the last one behind it is.
    obtain rfl | ⟨after, last, rfl⟩ := List.eq_nil_or_concat after
    · exact .inl (List.singleton_inj.mp (List.append_inj' hsplit rfl).2).symm
    · rw [List.concat_eq_append, ← List.cons_append, ← List.append_assoc] at hsplit
      obtain ⟨rfl, hlast⟩ := List.append_inj' hsplit rfl
      obtain rfl := List.singleton_inj.mp hlast
      obtain ⟨hid, hlogin⟩ := hafter i (by simp)
      exact .inr ⟨⟨before, after, rfl, fun m hm => hafter m (by simp [hm])⟩, hid.symm, hlogin.symm⟩
  · rintro (rfl | ⟨⟨before, after, rfl, hafter⟩, hid, hlogin⟩)
    · exact ⟨is, [], rfl, by simp⟩
    · refine ⟨before, after ++ [i], by simp, fun m hm => ?_⟩
      obtain hm | hm := List.mem_append.mp hm
      · exact hafter m hm
      · rw [List.mem_singleton.mp hm]
        exact ⟨hid.symm, hlogin.symm⟩

/-- An identity that is not enrolled again stays unless one behind it takes its id or its login. -/
theorem stays_iff {before after : List Identity} {i : Identity} (hnew : i ∉ after) :
    Stays (before ++ i :: after) i ↔ ∀ k ∈ after, k.id ≠ i.id ∧ k.login ≠ i.login := by
  induction after using List.reverseRecOn with
  | nil => exact iff_of_true ⟨before, [], rfl, by simp⟩ (by simp)
  | append_singleton after k ih =>
    rw [List.mem_append, List.mem_singleton, not_or] at hnew
    rw [← List.cons_append, ← List.append_assoc, stays_concat, ih hnew.1, List.forall_mem_append,
      List.forall_mem_singleton, or_iff_right hnew.2, ne_comm, ne_comm (a := i.login)]

theorem mem_identities_run (steps : List Step) (k : Identity) :
    k ∈ (run steps).identities ↔ Stays (enrolled steps) k := by
  induction steps using List.reverseRecOn with
  | nil => simp [run, empty, Stays, enrolled]
  | append_singleton steps s ih =>
    rw [run_concat, enrolled, List.filterMap_append, ← enrolled]
    cases s with
    | enroll i => exact (mem_enroll _ i k).trans (by rw [ih]; exact (stays_concat _ i k).symm)
    | record e | reopen =>
      exact ih.trans (iff_of_eq (congrArg (Stays · k) (List.append_nil _).symm))

/-! ### Lookups -/

theorem findIdentities_ascending {log : EventLog} (h : IsDirectory log.identities) {attr : Attribute}
    {values : List String} (hsize : lookupSize attr values ≤ Sql.ParamNames.maxCount) :
    ∃ answer, log.findIdentities attr values = .ok answer ∧ answer.Pairwise fun i k => i.id < k.id := by
  obtain ⟨test, hfound⟩ := log.findIdentities_eq_ok hsize
  exact ⟨_, hfound, List.pairwise_map.mpr (h.ascending.filter test)⟩

/-- Of the identities that a run enrolls those stay whose id and login no later one has, so no two have one id or one
login. A lookup finds, in the order of their ids, those that have the attribute of one of its values, with all that
they were enrolled with but for their roles, which are those that their text lists. -/
theorem run_keeps_identities (steps : List Step) :
    ((run steps).identities.map Identity.id).Nodup ∧ ((run steps).identities.map Identity.login).Nodup ∧
    (∀ i, i ∈ (run steps).identities ↔ Stays (enrolled steps) i) ∧
    (∀ before i after, steps = before ++ .enroll i :: after →
      (i ∈ (run steps).identities ∧ i ∉ enrolled after ↔
        ∀ k ∈ enrolled after, k.id ≠ i.id ∧ k.login ≠ i.login)) ∧
    ∀ attr values, lookupSize attr values ≤ Sql.ParamNames.maxCount →
      ∃ answer, (run steps).findIdentities attr values = .ok answer ∧ (answer.Pairwise fun i k => i.id < k.id) ∧
        ∀ r, r ∈ answer ↔ ∃ i ∈ (run steps).identities, (∃ v ∈ values, i.Matches attr v) ∧
          { i with roles := Roles.parse (Roles.join i.roles) } = r := by
  have hdirectory := isDirectory_run steps
  refine ⟨?_, hdirectory.logins, mem_identities_run steps, fun before i after hsteps => ?_, fun attr values hsize => ?_⟩
  · exact List.pairwise_map.mpr (hdirectory.ascending.imp Int64.ne_of_lt)
  · have henrolled : enrolled steps = enrolled before ++ i :: enrolled after := by
      rw [hsteps]
      exact List.filterMap_append
    rw [mem_identities_run, henrolled]
    constructor
    · rintro ⟨hstays, hnew⟩
      exact (stays_iff hnew).mp hstays
    · intro hafter
      have hnew : i ∉ enrolled after := fun hmem => (hafter i hmem).1 rfl
      exact ⟨(stays_iff hnew).mpr hafter, hnew⟩
  · obtain ⟨answer, hanswer, hascending⟩ := findIdentities_ascending hdirectory hsize
    exact ⟨answer, hanswer, hascending, mem_findIdentities hanswer⟩

/-- Steps in which an identity, the last one, takes the place of two others. -/
def staffing (first second last other : Identity) : List Step :=
  [.enroll first, .enroll other, .record (roleEvent "editor"), .enroll second, .reopen, .enroll last]

theorem run_keeps_identities_staffing :
    let ann : Identity := ⟨1, "ann", "Ann", "", "", []⟩
    let bob : Identity := ⟨2, "bob", "Bob", "", "", []⟩
    let anna : Identity := ⟨2, "ann", "Anna", "", "ÄNNE@x", [" admin", "a,b"]⟩
    let cid : Identity := ⟨-4, "Ann", "Cid", "", "cid@x", []⟩
    let log := run (staffing ann bob anna cid)
    ann ∉ log.identities ∧ bob ∉ log.identities ∧ anna ∈ log.identities ∧ cid ∈ log.identities ∧
      ∃ answer, log.findIdentities .email ["änne@X", "y"] = .ok answer ∧
        { anna with roles := ["admin", "a", "b"] } ∈ answer := by
  intro ann bob anna cid log
  obtain ⟨-, -, hpresent, hstays, hlookup⟩ := run_keeps_identities (staffing ann bob anna cid)
  have hsplit := hstays [.enroll ann, .enroll cid, .record (roleEvent "editor"), .enroll bob, .reopen] anna [] rfl
  have hanna : anna ∈ log.identities := (hsplit.mpr (by decide)).1
  obtain ⟨answer, hanswer, -, hmem⟩ := hlookup .email ["änne@X", "y"] (by decide)
  refine ⟨fun h => ?_, fun h => ?_, hanna, ?_, answer, hanswer, (hmem _).mpr ⟨anna, hanna, ?_, ?_⟩⟩
  · have := (hstays [] ann _ rfl).mp ⟨h, by decide⟩
    exact absurd this (by decide)
  · have := (hstays [.enroll ann, .enroll cid, .record (roleEvent "editor")] bob _ rfl).mp ⟨h, by decide⟩
    exact absurd this (by decide)
  · exact ((hstays [.enroll ann] cid _ rfl).mpr (by decide)).1
  · have hlower : Text.lower "ÄNNE@x" = Text.lower "änne@X" := by decide +kernel
    exact ⟨"änne@X", by decide, hlower⟩
  · decide

end EventLog

end AuditSearch
