import AuditSearch.Proofs.Search.Failure
import AuditSearch.Proofs.Search.Growth

/-!
Searches with other names for their fields. A name counts by the field that it stands for, and otherwise only in the
failures of the search itself.
-/
namespace AuditSearch

def Term.rename (r : String → String) (t : Term) : Term :=
  { t with field := r t.field }

def Group.rename (r : String → String) (g : Group) : Group :=
  { g with field := r g.field }

def Failure.rename (r : String → String) : Failure → Failure
  | invalidDate field value => invalidDate (r field) value
  | unknownField name => unknownField (r name)
  | f => f

def Step.rename (r : String → String) : Step → Step
  | unknown name => unknown (r name)
  | day name value => day (r name) value
  | s => s

/-- Fields of some terms that are renamed to one name are one field. -/
def IsApart (r : String → String) (terms : List Term) : Prop :=
  ∀ t ∈ terms, ∀ t' ∈ terms, r t.field = r t'.field → t.field = t'.field

instance (r : String → String) (terms : List Term) : Decidable (IsApart r terms) :=
  inferInstanceAs (Decidable (∀ t ∈ terms, ∀ t' ∈ terms, _))

section
variable {r : String → String} {terms : List Term}

/-! ### Terms and groups -/

theorem Term.map_field_rename (r : String → String) (terms : List Term) :
    (terms.map (rename r)).map field = (terms.map field).map r := by
  rw [List.map_map, List.map_map]
  rfl

theorem Term.valuesOf_rename {name : String} (h : ∀ t ∈ terms, r t.field = r name → t.field = name) (negated : Bool) :
    valuesOf (terms.map (rename r)) (r name) negated = valuesOf terms name negated := by
  have hkept : ∀ t ∈ terms, ((fun t : Term => t.field == r name && t.negated == negated) ∘ rename r) t =
      (t.field == name && t.negated == negated) := by
    intro t ht
    have hfield : (r t.field == r name) = (t.field == name) := by
      rw [Bool.eq_iff_iff, beq_iff_eq, beq_iff_eq]
      exact ⟨h t ht, congrArg r⟩
    exact congrArg (· && t.negated == negated) hfield
  rw [valuesOf, List.filter_map, List.filter_congr hkept, List.map_map, valuesOf]
  rfl

theorem Group.ofTerms_rename (h : IsApart r terms) :
    ofTerms (terms.map (Term.rename r)) = (ofTerms terms).map (rename r) := by
  have hapart : ∀ name ∈ terms.map Term.field, ∀ other ∈ terms.map Term.field, r name = r other → name = other := by
    simpa only [List.forall_mem_map, IsApart] using h
  rw [ofTerms_eq, ofTerms_eq, Term.map_field_rename, eraseDups_map _ hapart, List.map_map, List.map_map]
  refine List.map_congr_left fun name hname => ?_
  have hvalues (negated : Bool) :
      Term.valuesOf (terms.map (Term.rename r)) (r name) negated = Term.valuesOf terms name negated :=
    Term.valuesOf_rename (fun t ht => hapart _ (List.mem_map_of_mem ht) _ (List.mem_eraseDups.mp hname)) negated
  simp only [Function.comp_apply, gathered, rename, hvalues]

end

/-! ### Steps -/

theorem Step.call_rename (r : String → String) (s : Step) : (s.rename r).call? = s.call? := by
  cases s <;> rfl

theorem Step.map_bySign {r : String → String} {ask : List String → List Step}
    (h : ∀ values, (ask values).map (rename r) = ask values) (included excluded : List String) :
    (bySign ask included excluded).map (rename r) = bySign ask included excluded := by
  rw [bySign, List.map_append]
  congr 1 <;> split <;> simp [h]

namespace Compiler

variable {c : Compiler} {r : String → String} {terms : List Term}

/-- A check that fails tells the name of its field; what others answer has nothing to do with names. -/
theorem failure_rename (c : Compiler) (r : String → String) (s : Step) : c.failure? (s.rename r) =
    if s.call?.isSome then c.failure? s else (c.failure? s).map (Failure.rename r) := by
  cases s with
  | metadata _ _ | directory _ _ _ => rfl
  | unknown _ | day _ _ =>
    simp only [Step.rename, failure?, Step.call?]
    split <;> rfl

theorem isSome_failure_rename (c : Compiler) (r : String → String) (s : Step) :
    (c.failure? (s.rename r)).isSome = (c.failure? s).isSome := by
  rw [failure_rename]
  split
  · rfl
  · rw [Option.isSome_map]

theorem walked_rename (c : Compiler) (r : String → String) (ss : List Step) :
    c.walked (ss.map (Step.rename r)) = (c.walked ss).map (Step.rename r) := by
  induction ss with
  | nil => rfl
  | cons s ss ih =>
    rw [List.map_cons, walked, walked, isSome_failure_rename, ih]
    split <;> rfl

theorem stepsOf_rename {name : String} (hname : c.resolution? (r name) = c.resolution? name)
    (included excluded : List String) :
    c.stepsOf (r name) included excluded = (c.stepsOf name included excluded).map (Step.rename r) := by
  rw [stepsOf, stepsOf, hname]
  cases c.resolution? name with
  | none => rfl
  | some resolution =>
    cases resolution with
    | column _ _ | role _ => rfl
    | day _ _ => simp [Step.rename]
    | metadata key => exact (Step.map_bySign (fun values => rfl) included excluded).symm
    | identity attr _ =>
      refine (Step.map_bySign (fun values => ?_) included excluded).symm
      rw [List.map_cons]
      split
      · rw [List.map_map]
        rfl
      · rfl

/-- The names of some terms stand for what they stood for. -/
def Keeps (c : Compiler) (r : String → String) (terms : List Term) : Prop :=
  ∀ t ∈ terms, c.resolution? (r t.field) = c.resolution? t.field

theorem Keeps.group (hkeeps : c.Keeps r terms) {g : Group} (hg : g ∈ Group.ofTerms terms) :
    c.resolution? (r g.field) = c.resolution? g.field := by
  obtain ⟨t, ht, hfield⟩ := List.mem_map.mp ((Group.mem_ofTerms terms g).mp hg).1
  exact hfield ▸ hkeeps t ht

theorem steps_rename (hkeeps : c.Keeps r terms) (h : IsApart r terms) :
    c.steps (terms.map (Term.rename r)) = (c.steps terms).map (Step.rename r) := by
  rw [steps_eq, steps_eq, Group.ofTerms_rename h, List.flatMap_map, List.map_flatMap]
  exact List.flatMap_congr fun g hg => stepsOf_rename (hkeeps.group hg) g.included g.excluded

/-! ### Outcomes -/

/-- A group comes to the same under another name for its field. -/
theorem resolve_rename {g : Group} (hname : c.resolution? (r g.field) = c.resolution? g.field) {part : Contribution} :
    (c.resolve (g.rename r)).outcome = .ok part ↔ (c.resolve g).outcome = .ok part := by
  have hfield : c.resolution? (g.rename r).field = c.resolution? g.field := hname
  rw [resolve_eq, resolve_eq, hfield]
  cases c.resolution? g.field with
  | none =>
    cases c.policy.unknownFields with
    | skip => rfl
    | fail => exact iff_of_false nofun nofun
  | some resolution =>
    cases resolution with
    | column _ _ | role _ | metadata _ | identity _ _ => rfl
    | day column bound =>
      have hincluded : (g.rename r).included = g.included := rfl
      dsimp only
      rw [resolveDay_eq, resolveDay_eq, hincluded]
      cases g.included.head? with
      | none => rfl
      | some value =>
        dsimp only
        cases Calendar.boundInstant? value bound c.offsetSeconds with
        | some instant => rfl
        | none =>
          cases c.policy.invalidValues with
          | skip => rfl
          | fail => exact iff_of_false nofun nofun

theorem resolves_rename (hkeeps : c.Keeps r terms) (h : IsApart r terms) {parts : List Contribution} :
    c.Resolves (Group.ofTerms (terms.map (Term.rename r))) parts ↔ c.Resolves (Group.ofTerms terms) parts := by
  rw [Group.ofTerms_rename h, Resolves, List.forall₂_map_left_iff]
  exact forall₂_congr_left fun g hg part => resolve_rename (hkeeps.group hg)

theorem findSome_walked (c : Compiler) (ss : List Step) :
    (c.walked ss).findSome? c.failure? = ss.findSome? c.failure? := by
  induction ss with
  | nil => rfl
  | cons s ss ih =>
    rw [walked]
    cases hs : c.failure? s with
    | some f => simp [hs]
    | none => simp [hs, ih]

/-- The step that fails is the same one under other names. -/
theorem findSome_rename {ss : List Step} {s : Step} (hs : s ∈ c.walked ss) (hfailed : (c.failure? s).isSome)
    (honly : ∀ t ∈ c.walked ss, (c.failure? t).isSome → t = s) :
    (ss.map (Step.rename r)).findSome? c.failure? = c.failure? (s.rename r) := by
  have hsome : ((ss.map (Step.rename r)).findSome? c.failure?).isSome := by
    rw [← findSome_walked, walked_rename, List.findSome?_isSome_iff]
    exact ⟨s.rename r, List.mem_map_of_mem hs, by rwa [isSome_failure_rename]⟩
  obtain ⟨f, hf⟩ := Option.isSome_iff_exists.mp hsome
  have hwalked := hf
  rw [← findSome_walked, walked_rename] at hwalked
  obtain ⟨_, hmem, hfailure⟩ := List.exists_of_findSome?_eq_some hwalked
  obtain ⟨t, ht, rfl⟩ := List.mem_map.mp hmem
  have hsame : t = s := honly t ht (by rw [← isSome_failure_rename c r, hfailure]; rfl)
  rw [hf, ← hfailure, hsame]

section
variable {raw raw' : String} (hkeeps : c.Keeps r (Term.ofSearch raw))
  (hterms : Term.ofSearch raw' = (Term.ofSearch raw).map (Term.rename r)) (hapart : IsApart r (Term.ofSearch raw))
include hkeeps hterms hapart

theorem calls_condition_rename : (c.condition raw').calls = (c.condition raw).calls := by
  have hcall : Step.call? ∘ Step.rename r = Step.call? := funext (Step.call_rename r)
  rw [(c.performs_condition raw').calls, (c.performs_condition raw).calls, hterms, steps_rename hkeeps hapart,
    walked_rename, List.filterMap_map, hcall]

theorem condition_ok_rename {condition : Condition} :
    (c.condition raw').outcome = .ok condition ↔ (c.condition raw).outcome = .ok condition := by
  simp only [outcome_condition, hterms, resolves_rename hkeeps hapart]

/-- A failure of somebody who was asked is handed on as it is, and one of the search tells the new name. -/
theorem condition_error_rename {f : Failure} (h : (c.condition raw).outcome = .error f) :
    (c.CallFailed raw → (c.condition raw').outcome = .error f) ∧
      (¬c.CallFailed raw → (c.condition raw').outcome = .error (f.rename r)) := by
  obtain ⟨s, hs, hfailure, honly⟩ := exists_failed_walked (((c.performs_condition raw).failure f).mp h)
  have hfailed : (c.failure? s).isSome := by rw [hfailure]; rfl
  have hcallFailed : c.CallFailed raw ↔ s.call?.isSome := by
    constructor
    · rintro ⟨t, ht, hcall, hother⟩
      rwa [honly t ht hother] at hcall
    · exact fun hcall => ⟨s, hs, hcall, hfailed⟩
  have herror (g : Failure) : (c.condition raw').outcome = .error g ↔ c.failure? (s.rename r) = some g := by
    rw [(c.performs_condition raw').failure, hterms, steps_rename hkeeps hapart, findSome_rename hs hfailed honly]
  rw [hcallFailed, herror, herror, failure_rename, hfailure]
  exact ⟨fun hcall => if_pos hcall, fun hcall => if_neg hcall⟩

end

/-! ### Names that become one -/

/-- Fields of some terms that are renamed to one name are one field, or fields of metadata. -/
def IsApartBesideMetadata (c : Compiler) (r : String → String) (terms : List Term) : Prop :=
  ∀ t ∈ terms, ∀ t' ∈ terms, r t.field = r t'.field → t.field = t'.field ∨ c.kind? t.field = some .metadata

instance (c : Compiler) (r : String → String) (terms : List Term) : Decidable (c.IsApartBesideMetadata r terms) :=
  inferInstanceAs (Decidable (∀ t ∈ terms, ∀ t' ∈ terms, _))

/-- The terms of other fields than those of metadata. -/
def besideMetadata (c : Compiler) (terms : List Term) : List Term :=
  terms.filter fun t => c.kind? t.field != some .metadata

theorem kind_eq (c : Compiler) (name : String) : c.kind? name = (c.resolution? name).map Resolution.kind := by
  rw [kind?, resolution?, Option.map_map]
  rfl

theorem kind_eq_metadata_iff_resolution {name : String} :
    c.kind? name = some .metadata ↔ ∃ key, c.resolution? name = some (.metadata key) := by
  rw [kind_eq]
  cases c.resolution? name with
  | none => simp
  | some resolution => cases resolution <;> simp [Resolution.kind]

theorem Keeps.kind (hkeeps : c.Keeps r terms) {t : Term} (ht : t ∈ terms) : c.kind? (r t.field) = c.kind? t.field := by
  rw [kind_eq, kind_eq, hkeeps t ht]

theorem besideMetadata_rename (hkeeps : c.Keeps r terms) :
    c.besideMetadata (terms.map (Term.rename r)) = (c.besideMetadata terms).map (Term.rename r) := by
  have hkept : ∀ t ∈ terms, ((fun t : Term => c.kind? t.field != some .metadata) ∘ Term.rename r) t =
      (c.kind? t.field != some .metadata) := fun t ht =>
    congrArg (fun kind => kind != some FieldKind.metadata) (hkeeps.kind ht)
  rw [besideMetadata, List.filter_map, List.filter_congr hkept, besideMetadata]

theorem Keeps.besideMetadata (hkeeps : c.Keeps r terms) : c.Keeps r (c.besideMetadata terms) :=
  fun t ht => hkeeps t (List.mem_filter.mp ht).1

theorem isApart_besideMetadata (h : c.IsApartBesideMetadata r terms) : IsApart r (c.besideMetadata terms) := by
  intro t ht t' ht' heq
  obtain ⟨ht, hkind⟩ := List.mem_filter.mp ht
  refine (h t ht t' (List.mem_filter.mp ht').1 heq).resolve_right ?_
  simpa using hkind

theorem ofTerms_besideMetadata (c : Compiler) (terms : List Term) :
    Group.ofTerms (c.besideMetadata terms) = (Group.ofTerms terms).filter fun g => c.kind? g.field != some .metadata :=
  Group.ofTerms_filter (fun name => c.kind? name != some .metadata) terms

/-- The conditions of some groups are those of the groups of other fields than those of metadata. -/
theorem exists_conditions {groups : List Group} {parts : List Contribution} (h : c.Resolves groups parts) :
    ∃ kept, c.Resolves (groups.filter fun g => c.kind? g.field != some .metadata) kept ∧
      parts.filterMap Contribution.condition? = kept.filterMap Contribution.condition? := by
  induction h with
  | nil => exact ⟨[], .nil, rfl⟩
  | @cons g part groups parts hpart _ ih =>
    obtain ⟨kept, hkept, hconditions⟩ := ih
    by_cases hkind : c.kind? g.field = some .metadata
    · have hnone : part.condition? = none := by
        obtain ⟨key, hkey⟩ := kind_eq_metadata_iff_resolution.mp hkind
        rw [resolve_eq, hkey] at hpart
        obtain ⟨sets, -, hpart⟩ := Traced.outcome_bind.mp hpart
        rw [← Traced.outcome_pure.mp hpart]
        rfl
      refine ⟨kept, ?_, ?_⟩
      · rwa [List.filter_cons_of_neg (by simpa using hkind)]
      · rw [List.filterMap_cons_none hnone, hconditions]
    · refine ⟨part :: kept, ?_, ?_⟩
      · rw [List.filter_cons_of_pos (by simpa using hkind)]
        exact .cons hpart hkept
      · rw [List.filterMap_cons, List.filterMap_cons, hconditions]

theorem resolves_unique {groups : List Group} {parts parts' : List Contribution} (h : c.Resolves groups parts)
    (h' : c.Resolves groups parts') : parts = parts' :=
  List.right_unique_forall₂' (fun _ _ _ h h' => Except.ok.inj (h.symm.trans h')) h h'

/-- The conditions of a search stay the same when names of metadata become one. -/
theorem conditions_rename (hkeeps : c.Keeps r terms) (h : c.IsApartBesideMetadata r terms)
    {parts parts' : List Contribution} (hparts : c.Resolves (Group.ofTerms terms) parts)
    (hparts' : c.Resolves (Group.ofTerms (terms.map (Term.rename r))) parts') :
    parts'.filterMap Contribution.condition? = parts.filterMap Contribution.condition? := by
  obtain ⟨kept, hkept, hconditions⟩ := exists_conditions hparts
  obtain ⟨kept', hkept', hconditions'⟩ := exists_conditions hparts'
  rw [← ofTerms_besideMetadata] at hkept
  rw [← ofTerms_besideMetadata, besideMetadata_rename hkeeps,
    resolves_rename hkeeps.besideMetadata (isApart_besideMetadata h)] at hkept'
  rw [hconditions, hconditions', resolves_unique hkept hkept']

/-- What is found for metadata is what is found for a value of some term alone. -/
theorem findsMetadata_iff_single (hunion : ∀ key, IsUnion (c.index.find key)) {parts : List Contribution}
    (hparts : c.Resolves (Group.ofTerms terms) parts) {negated : Bool} {id : Int64} :
    c.FindsMetadata terms negated id ↔ ∃ t ∈ terms, t.negated = negated ∧ ∃ key,
      c.resolution? t.field = some (.metadata key) ∧ id ∈ answered (c.index.find key [t.value]) := by
  rw [findsMetadata_iff]
  constructor
  · rintro ⟨name, field, key, hfield, hresolution, hne, hid⟩
    obtain ⟨ids, hids⟩ := found_metadata hparts hfield hresolution hne
    rw [answered_ok hids] at hid
    obtain ⟨v, hv, hid⟩ := (hunion key _ ids hids id).mp hid
    exact ⟨_, Term.mem_valuesOf.mp hv, rfl, key, by rw [resolution_of_get hfield, hresolution], hid⟩
  · rintro ⟨t, ht, rfl, key, hresolution, hid⟩
    obtain ⟨field, hfield, hresolution⟩ := Option.map_eq_some_iff.mp hresolution
    have hvalue : t.value ∈ Term.valuesOf terms t.field t.negated := Term.mem_valuesOf.mpr ht
    have hne := List.ne_nil_of_mem hvalue
    obtain ⟨ids, hids⟩ := found_metadata hparts hfield hresolution hne
    refine ⟨t.field, field, key, hfield, hresolution, hne, ?_⟩
    rw [answered_ok hids]
    exact (hunion key _ ids hids id).mpr ⟨t.value, hvalue, hid⟩

/-- The id sets of a search stay the same whatever names become one: which there are and what is in them depends on the
terms one by one. -/
theorem sets_rename (hunion : ∀ key, IsUnion (c.index.find key)) (hkeeps : c.Keeps r terms)
    {parts parts' : List Contribution} (hparts : c.Resolves (Group.ofTerms terms) parts)
    (hparts' : c.Resolves (Group.ofTerms (terms.map (Term.rename r))) parts') :
    (parts'.filterMap Contribution.ids?).foldl IdSets.merge .empty =
      (parts.filterMap Contribution.ids?).foldl IdSets.merge .empty := by
  obtain ⟨hsome, hincludes, hexcludes⟩ := IdSets.merged_iff (parts.filterMap Contribution.ids?)
  obtain ⟨hsome', hincludes', hexcludes'⟩ := IdSets.merged_iff (parts'.filterMap Contribution.ids?)
  obtain ⟨hasked, hincluded, hexcluded⟩ := ids_iff hparts
  obtain ⟨hasked', hincluded', hexcluded'⟩ := ids_iff hparts'
  have hasks (negated : Bool) :
      (∃ t ∈ terms.map (Term.rename r), t.negated = negated ∧ c.kind? t.field = some .metadata) ↔
        ∃ t ∈ terms, t.negated = negated ∧ c.kind? t.field = some .metadata := by
    simp only [List.mem_map, exists_exists_and_eq_and]
    refine exists_congr fun t => and_congr_right fun ht => ?_
    rw [Term.rename, hkeeps.kind ht]
  have hfinds (negated : Bool) (id : Int64) :
      c.FindsMetadata (terms.map (Term.rename r)) negated id ↔ c.FindsMetadata terms negated id := by
    rw [findsMetadata_iff_single hunion hparts, findsMetadata_iff_single hunion hparts']
    simp only [List.mem_map, exists_exists_and_eq_and]
    refine exists_congr fun t => and_congr_right fun ht => ?_
    rw [Term.rename, hkeeps t ht]
  refine IdSets.eq_of_iff ?_ (fun id => ?_) fun id => ?_
  · rw [hsome, hsome', hasked, hasked', asksMetadata_iff_kind, asksMetadata_iff_kind, hasks]
  · rw [hincludes, hincludes', hincluded, hincluded', hfinds]
  · rw [hexcludes, hexcludes', hexcluded, hexcluded', hfinds]

/-- A search comes to the same condition when names of metadata become one, if it comes to one both times. -/
theorem condition_unique_rename (hunion : ∀ key, IsUnion (c.index.find key)) {raw raw' : String}
    (hkeeps : c.Keeps r (Term.ofSearch raw)) (hterms : Term.ofSearch raw' = (Term.ofSearch raw).map (Term.rename r))
    (h : c.IsApartBesideMetadata r (Term.ofSearch raw)) {condition condition' : Condition}
    (hcondition : (c.condition raw).outcome = .ok condition) (hcondition' : (c.condition raw').outcome = .ok condition') :
    condition' = condition := by
  obtain ⟨parts, hparts, rfl⟩ := outcome_condition.mp hcondition
  obtain ⟨parts', hparts', rfl⟩ := outcome_condition.mp hcondition'
  rw [hterms] at hparts'
  rw [Contribution.assemble, Contribution.assemble, conditions_rename hkeeps h hparts hparts',
    sets_rename hunion hkeeps hparts hparts']

/-- A lookup of some values succeeds just when those of each of them alone do. -/
def IsFoundSingly {α : Type} (find : List String → Except Failure (List α)) : Prop :=
  ∀ values, values ≠ [] → ((∃ found, find values = .ok found) ↔ ∀ v ∈ values, ∃ found, find [v] = .ok found)

theorem condition_ok_iff (raw : String) : (∃ condition, (c.condition raw).outcome = .ok condition) ↔
    ∀ s ∈ c.steps (Term.ofSearch raw), c.failure? s = none := by
  have hfailure := (c.performs_condition raw).failure
  rw [← List.findSome?_eq_none_iff]
  cases h : (c.condition raw).outcome with
  | ok condition =>
    refine iff_of_true ⟨condition, rfl⟩ (Option.eq_none_iff_forall_ne_some.mpr fun f hf => ?_)
    rw [← hfailure, h] at hf
    cases hf
  | error f =>
    refine iff_of_false (fun ⟨_, hcondition⟩ => nomatch hcondition) ?_
    rw [(hfailure f).mp h]
    exact Option.some_ne_none f

theorem forall_metadata_steps_iff {key : String} (hsingly : IsFoundSingly (c.index.find key))
    (included excluded : List String) :
    (∀ s ∈ Step.bySign (fun values => [.metadata key values]) included excluded, c.failure? s = none) ↔
      ∀ v, v ∈ included ∨ v ∈ excluded → ∃ found, c.index.find key [v] = .ok found := by
  have hfailure (values : List String) :
      c.failure? (.metadata key values) = none ↔ ∃ found, c.index.find key values = .ok found := by
    rw [failure?]
    cases c.index.find key values <;> simp
  have hsign (values : List String) :
      (∀ s ∈ (if values.isEmpty then [] else [Step.metadata key values]), c.failure? s = none) ↔
        ∀ v ∈ values, ∃ found, c.index.find key [v] = .ok found := by
    cases values with
    | nil => simp
    | cons v vs =>
      rw [List.isEmpty_cons, if_neg Bool.false_ne_true, List.forall_mem_singleton, hfailure]
      exact hsingly _ (List.cons_ne_nil v vs)
  rw [Step.bySign, List.forall_mem_append, hsign, hsign]
  simp only [or_imp, forall_and]

/-- No step fails just when none of other fields than those of metadata does, and the lookup of each value of these
succeeds. -/
theorem forall_steps_iff (hsingly : ∀ key, IsFoundSingly (c.index.find key)) (terms : List Term) :
    (∀ s ∈ c.steps terms, c.failure? s = none) ↔ (∀ s ∈ c.steps (c.besideMetadata terms), c.failure? s = none) ∧
      ∀ t ∈ terms, ∀ key, c.resolution? t.field = some (.metadata key) →
        ∃ found, c.index.find key [t.value] = .ok found := by
  have hmetadata {g : Group} {key : String} (hkey : c.resolution? g.field = some (.metadata key)) :
      (∀ s ∈ c.stepsOf g.field g.included g.excluded, c.failure? s = none) ↔
        ∀ v, v ∈ g.included ∨ v ∈ g.excluded → ∃ found, c.index.find key [v] = .ok found := by
    rw [stepsOf, hkey]
    exact forall_metadata_steps_iff (hsingly key) g.included g.excluded
  simp only [steps_eq, ofTerms_besideMetadata, List.mem_flatMap, forall_exists_index, and_imp, List.mem_filter]
  constructor
  · refine fun h => ⟨fun s g hg _ hs => h s g hg hs, fun t ht key hkey => ?_⟩
    have hg : Group.gathered terms t.field ∈ Group.ofTerms terms :=
      (Group.mem_ofTerms terms _).mpr ⟨List.mem_map_of_mem ht, rfl⟩
    refine (hmetadata hkey).mp (fun s hs => h s _ hg hs) t.value ?_
    have hvalue : t.value ∈ Term.valuesOf terms t.field t.negated := Term.mem_valuesOf.mpr ht
    cases hnegated : t.negated <;> rw [hnegated] at hvalue
    · exact .inl hvalue
    · exact .inr hvalue
  · rintro ⟨hbeside, hfound⟩ s g hg hs
    by_cases hkind : c.kind? g.field = some .metadata
    · obtain ⟨key, hkey⟩ := kind_eq_metadata_iff_resolution.mp hkind
      refine (hmetadata hkey).mpr (fun v hv => ?_) s hs
      obtain ⟨-, hgathered⟩ := (Group.mem_ofTerms terms g).mp hg
      rw [hgathered] at hv
      obtain hv | hv := hv
      · exact hfound _ (Term.mem_valuesOf.mp hv) key hkey
      · exact hfound _ (Term.mem_valuesOf.mp hv) key hkey
    · exact hbeside s g hg (by simpa using hkind) hs

/-- A search comes to a condition or does not whatever names of metadata become one. -/
theorem exists_condition_rename (hsingly : ∀ key, IsFoundSingly (c.index.find key)) {raw raw' : String}
    (hkeeps : c.Keeps r (Term.ofSearch raw)) (hterms : Term.ofSearch raw' = (Term.ofSearch raw).map (Term.rename r))
    (h : c.IsApartBesideMetadata r (Term.ofSearch raw)) :
    (∃ condition, (c.condition raw').outcome = .ok condition) ↔
      ∃ condition, (c.condition raw).outcome = .ok condition := by
  have hpassed (s : Step) : c.failure? (s.rename r) = none ↔ c.failure? s = none := by
    rw [← Option.not_isSome_iff_eq_none, isSome_failure_rename, Option.not_isSome_iff_eq_none]
  rw [condition_ok_iff, condition_ok_iff, forall_steps_iff hsingly (Term.ofSearch raw'),
    forall_steps_iff hsingly (Term.ofSearch raw), hterms, besideMetadata_rename hkeeps,
    steps_rename hkeeps.besideMetadata (isApart_besideMetadata h), List.forall_mem_map, List.forall_mem_map]
  simp only [hpassed]
  refine and_congr_right fun _ => forall₂_congr fun t ht => ?_
  rw [Term.rename, hkeeps t ht]

/-- The fields of a search may be renamed, to names that stand for the same fields. Under different names the same calls
are made, and come to the same condition or failure, but for the name that a failure of the search itself tells. Names
of metadata may become one if the index finds for some values what it finds for them one by one: the condition is the
same then too. -/
theorem condition_rename {raw : String} (husable : ∀ t ∈ Term.ofSearch raw, (t.rename r).IsWritable)
    (hget : ∀ t ∈ Term.ofSearch raw, c.catalog.get? (r t.field) = c.catalog.get? t.field) :
    (∃ raw', Term.ofSearch raw' = (Term.ofSearch raw).map (Term.rename r)) ∧
    ∀ raw', Term.ofSearch raw' = (Term.ofSearch raw).map (Term.rename r) →
      (IsApart r (Term.ofSearch raw) →
        (c.condition raw').calls = (c.condition raw).calls ∧
        (c.CallFailed raw → (c.condition raw').outcome = (c.condition raw).outcome) ∧
        (¬c.CallFailed raw → (c.condition raw').outcome = (c.condition raw).outcome.mapError (Failure.rename r))) ∧
      (c.IsApartBesideMetadata r (Term.ofSearch raw) → (∀ key, IsUnion (c.index.find key)) →
        (∀ condition condition', (c.condition raw).outcome = .ok condition →
          (c.condition raw').outcome = .ok condition' → condition' = condition) ∧
        ((∀ key, IsFoundSingly (c.index.find key)) →
          ((∃ condition, (c.condition raw').outcome = .ok condition) ↔
            ∃ condition, (c.condition raw).outcome = .ok condition))) := by
  have hkeeps : c.Keeps r (Term.ofSearch raw) := fun t ht => by rw [resolution?, hget t ht, resolution?]
  have hwritable : ∀ t ∈ (Term.ofSearch raw).map (Term.rename r), t.IsWritable := List.forall_mem_map.mpr husable
  refine ⟨⟨_, Term.ofSearch_searchOf hwritable⟩, fun raw' hterms => ?_⟩
  refine ⟨fun hapart => ⟨?_, ?_⟩, fun hapart hunion => ⟨?_, ?_⟩⟩
  · exact calls_condition_rename hkeeps hterms hapart
  · cases h : (c.condition raw).outcome with
    | ok condition =>
      rw [(condition_ok_rename hkeeps hterms hapart).mpr h]
      exact ⟨fun _ => rfl, fun _ => rfl⟩
    | error f => exact condition_error_rename hkeeps hterms hapart h
  · exact fun condition condition' => condition_unique_rename hunion hkeeps hterms hapart
  · exact fun hsingly => exists_condition_rename hsingly hkeeps hterms hapart

/-- A compiler with two names for a field of metadata and two for one of days. -/
def synonymous : Compiler :=
  ⟨Dictionary.ofList [("from", ⟨"since", .day "created_timestamp" .start⟩), ("headline", ⟨"title", .metadata "PostTitle"⟩),
      ("since", ⟨"since", .day "created_timestamp" .start⟩), ("title", ⟨"title", .metadata "PostTitle"⟩)],
    ⟨fun _ values => .ok (values.flatMap fun v => if v = "draft" then [4, 1] else [4, 2])⟩, ⟨"staff", fun _ _ => .ok []⟩,
    none, false, 0, .strict⟩

theorem condition_rename_synonymous :
    let r := fun name => if name = "headline" then "title" else if name = "since" then "from" else name
    let found := Condition.isIn "id" [.integer 1, .integer 2, .integer 4]
    ((synonymous.condition "headline:note since:today").outcome = .error (.invalidDate "since" "today") ∧
      (synonymous.condition "title:note from:today").calls = (synonymous.condition "headline:note since:today").calls ∧
      (synonymous.condition "title:note from:today").outcome = .error (.invalidDate (r "since") "today")) ∧
    (synonymous.condition "title:draft headline:note").outcome = .ok found ∧
      (synonymous.condition "title:draft title:note").outcome = .ok found := by
  intro r found
  constructor
  · have hdated : (synonymous.condition "headline:note since:today").outcome =
        .error (.invalidDate "since" "today") := by rfl
    have hpassed : ¬synonymous.CallFailed "headline:note since:today" := by
      have hwalked : synonymous.walked (synonymous.steps (Term.ofSearch "headline:note since:today")) =
          [.metadata "PostTitle" ["note"], .day "since" "today"] := by rfl
      rintro ⟨s, hs, hcall, hfailed⟩
      rw [hwalked, List.mem_pair] at hs
      obtain rfl | rfl := hs
      · cases hfailed
      · cases hcall
    have hrenamed := @condition_rename synonymous r "headline:note since:today" (by decide) (by decide)
    obtain ⟨hcalls, -, hfailure⟩ := (hrenamed.2 "title:note from:today" (by rfl)).1 (by decide)
    exact ⟨hdated, hcalls, by rw [hfailure hpassed, hdated]; rfl⟩
  · have htitled : (synonymous.condition "title:draft headline:note").outcome = .ok found := by rfl
    have hrenamed := @condition_rename synonymous r "title:draft headline:note" (by decide) (by decide)
    obtain ⟨hunique, hexists⟩ := (hrenamed.2 "title:draft title:note" (by rfl)).2 (by decide +kernel)
      fun _ => isUnion_flatMap _
    obtain ⟨condition, hcondition⟩ := (hexists fun _ _ _ => ⟨fun _ _ _ => ⟨_, rfl⟩, fun _ => ⟨_, rfl⟩⟩).mpr ⟨_, htitled⟩
    exact ⟨htitled, hunique _ _ htitled hcondition ▸ hcondition⟩

end Compiler

end AuditSearch
