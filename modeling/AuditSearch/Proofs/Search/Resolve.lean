import AuditSearch.Proofs.Search.Traced
import AuditSearch.Search.Compiler

/-!
The resolution of one group, by the field that its name stands for.
-/
namespace AuditSearch

namespace Group

theorem metadataIds_eq (g : Group) (index : MetadataIndex) (key : String) : g.metadataIds index key =
    (if g.included.isEmpty then pure none
      else index.ask key g.included >>= fun ids => pure (some (IdSet.ofList ids))) >>= fun included =>
    (if g.excluded.isEmpty then pure IdSet.empty
      else index.ask key g.excluded >>= fun ids => pure (IdSet.ofList ids)) >>= fun excluded =>
    pure ⟨included, excluded⟩ := by
  rw [metadataIds]
  cases g.included.isEmpty <;> cases g.excluded.isEmpty <;> simp

theorem identityCondition_eq (g : Group) (directories : List Directory) (attr : Attribute)
    (projections : List Projection) : g.identityCondition directories attr projections =
      (if g.included.isEmpty then pure []
        else Directory.askAll directories attr g.included >>= fun is => pure [Projection.anyOf projections is]) >>=
      fun included => (if g.excluded.isEmpty then pure []
        else Directory.askAll directories attr g.excluded >>= fun is => pure [Projection.noneOf projections is]) >>=
      fun excluded => pure (Condition.mkAll (included ++ excluded)) := by
  rw [identityCondition]
  cases g.included.isEmpty <;> cases g.excluded.isEmpty <;> simp

/-- What ids a group comes to: on each side those that its values are answered, if there are any. -/
theorem outcome_metadataIds_iff {g : Group} {index : MetadataIndex} {key : String} {sets : IdSets} :
    (g.metadataIds index key).outcome = .ok sets ↔
      (g.included = [] ∧ none = sets.included ∨ g.included ≠ [] ∧
        ∃ ids, (index.ask key g.included).outcome = .ok ids ∧ some (IdSet.ofList ids) = sets.included) ∧
      (g.excluded = [] ∧ IdSet.empty = sets.excluded ∨ g.excluded ≠ [] ∧
        ∃ ids, (index.ask key g.excluded).outcome = .ok ids ∧ IdSet.ofList ids = sets.excluded) := by
  rw [metadataIds_eq]
  simp only [Traced.outcome_bind, Traced.outcome_askSome, Traced.outcome_pure]
  constructor
  · rintro ⟨_, hincluded, _, hexcluded, rfl⟩
    exact ⟨hincluded, hexcluded⟩
  · rintro ⟨hincluded, hexcluded⟩
    exact ⟨_, hincluded, _, hexcluded, rfl⟩

/-- What condition on people a group comes to: on each side one on those who are found, if there are values. -/
theorem outcome_identityCondition_iff {g : Group} {directories : List Directory} {attr : Attribute}
    {projections : List Projection} {condition : Condition} :
    (g.identityCondition directories attr projections).outcome = .ok condition ↔ ∃ included excluded,
      (g.included = [] ∧ [] = included ∨ g.included ≠ [] ∧ ∃ is,
        (Directory.askAll directories attr g.included).outcome = .ok is ∧ [Projection.anyOf projections is] = included) ∧
      (g.excluded = [] ∧ [] = excluded ∨ g.excluded ≠ [] ∧ ∃ is,
        (Directory.askAll directories attr g.excluded).outcome = .ok is ∧ [Projection.noneOf projections is] = excluded) ∧
      Condition.mkAll (included ++ excluded) = condition := by
  rw [identityCondition_eq]
  simp only [Traced.outcome_bind, Traced.outcome_askSome, Traced.outcome_pure, exists_and_left]

/-- What condition on days a group comes to: none without a plain value, else one on the first of them. -/
theorem dayCondition_ok {g : Group} {column : String} {bound : DayBound} {offset : Int} {condition : Condition}
    (h : g.dayCondition column bound offset = .ok condition) :
    g.included = [] ∧ condition = .always ∨
      ∃ value values instant, g.included = value :: values ∧ Calendar.boundInstant? value bound offset = some instant ∧
        condition = .compare column bound.bound (.integer (Int64.ofInt instant)) := by
  rw [dayCondition] at h
  split at h
  · next hnil => exact .inl ⟨hnil, (Except.ok.inj h).symm⟩
  · next value values hvalues =>
    split at h
    · cases h
    · next instant hinstant => exact .inr ⟨value, values, instant, hvalues, hinstant, (Except.ok.inj h).symm⟩

/-- Only a first plain value that is no date fails. -/
theorem dayCondition_error {g : Group} {column : String} {bound : DayBound} {offset : Int} {f : Failure}
    (h : g.dayCondition column bound offset = .error f) :
    ∃ value, g.included.head? = some value ∧ Calendar.boundInstant? value bound offset = none := by
  rw [dayCondition] at h
  split at h
  · cases h
  · next value values hvalues =>
    split at h
    · next hdate => exact ⟨value, by rw [hvalues]; rfl, hdate⟩
    · cases h

end Group

namespace Compiler

/-- What a name of a search stands for. -/
def resolution? (c : Compiler) (name : String) : Option Resolution :=
  (c.catalog.get? name).map Field.resolution

theorem resolution_of_get {c : Compiler} {name : String} {field : Field} (h : c.catalog.get? name = some field) :
    c.resolution? name = some field.resolution := by
  rw [resolution?, h, Option.map_some]

theorem resolve_eq (c : Compiler) (g : Group) : c.resolve g =
    match c.resolution? g.field with
    | none =>
      match c.policy.unknownFields with
      | .skip => pure .nothing
      | .fail => .fail (.unknownField g.field)
    | some (.column column type) => pure (.condition (g.columnCondition column type))
    | some (.metadata key) => g.metadataIds c.index key >>= fun sets => pure (.ids sets)
    | some (.identity attr projections) =>
      g.identityCondition c.directories attr projections >>= fun condition => pure (.condition condition)
    | some (.role column) => pure (.condition (g.roleCondition column))
    | some (.day column bound) => c.resolveDay g column bound := by
  rw [resolve, resolution?]
  cases c.catalog.get? g.field with
  | none => rfl
  | some field => cases h : field.resolution <;> simp [h] <;> rfl

/-- Of the values of a day field the first plain one counts. -/
theorem resolveDay_eq (c : Compiler) (g : Group) (column : String) (bound : DayBound) : c.resolveDay g column bound =
    match g.included.head? with
    | none => pure (.condition .always)
    | some value =>
      match Calendar.boundInstant? value bound c.offsetSeconds with
      | some instant => pure (.condition (.compare column bound.bound (.integer (Int64.ofInt instant))))
      | none =>
        match c.policy.invalidValues with
        | .skip => pure .nothing
        | .fail => .fail (.invalidDate g.field value) := by
  rw [resolveDay, Group.dayCondition]
  cases g.included with
  | nil => rfl
  | cons value values =>
    rw [List.head?_cons]
    cases h : Calendar.boundInstant? value bound c.offsetSeconds <;> simp only [h] <;> rfl

/-- What a group is resolved to by the field that its name stands for. -/
inductive ResolvesTo (c : Compiler) (g : Group) : Contribution → Prop where
  | unknown (hname : c.resolution? g.field = none) (hpolicy : c.policy.unknownFields = .skip) : ResolvesTo c g .nothing
  | column {column : String} {type : ColumnType} (hname : c.resolution? g.field = some (.column column type)) :
    ResolvesTo c g (.condition (g.columnCondition column type))
  | metadata {key : String} {sets : IdSets} (hname : c.resolution? g.field = some (.metadata key))
    (hsets : (g.metadataIds c.index key).outcome = .ok sets) : ResolvesTo c g (.ids sets)
  | identity {attr : Attribute} {projections : List Projection} {condition : Condition}
    (hname : c.resolution? g.field = some (.identity attr projections))
    (hcondition : (g.identityCondition c.directories attr projections).outcome = .ok condition) :
    ResolvesTo c g (.condition condition)
  | role {column : String} (hname : c.resolution? g.field = some (.role column)) :
    ResolvesTo c g (.condition (g.roleCondition column))
  | day {column : String} {bound : DayBound} {condition : Condition}
    (hname : c.resolution? g.field = some (.day column bound))
    (hcondition : g.dayCondition column bound c.offsetSeconds = .ok condition) : ResolvesTo c g (.condition condition)
  | invalid {column : String} {bound : DayBound} {value : String}
    (hname : c.resolution? g.field = some (.day column bound)) (hfirst : g.included.head? = some value)
    (hdate : Calendar.boundInstant? value bound c.offsetSeconds = none) (hpolicy : c.policy.invalidValues = .skip) :
    ResolvesTo c g .nothing

theorem resolvesTo_of_resolveDay {c : Compiler} {g : Group} {column : String} {bound : DayBound} {part : Contribution}
    (hname : c.resolution? g.field = some (.day column bound))
    (h : (c.resolveDay g column bound).outcome = .ok part) : c.ResolvesTo g part := by
  rw [resolveDay] at h
  split at h
  · next condition hcondition => exact Traced.outcome_pure.mp h ▸ .day hname hcondition
  · next f hfailure =>
    obtain ⟨value, hfirst, hdate⟩ := Group.dayCondition_error hfailure
    cases hpolicy : c.policy.invalidValues with
    | skip =>
      rw [hpolicy] at h
      exact Traced.outcome_pure.mp h ▸ .invalid hname hfirst hdate hpolicy
    | fail =>
      rw [hpolicy] at h
      cases h

theorem resolvesTo_of_resolve {c : Compiler} {g : Group} {part : Contribution} (h : (c.resolve g).outcome = .ok part) :
    c.ResolvesTo g part := by
  rw [resolve_eq] at h
  cases hname : c.resolution? g.field with
  | none =>
    rw [hname] at h
    cases hpolicy : c.policy.unknownFields with
    | skip =>
      simp only [hpolicy, Traced.outcome_pure] at h
      exact h ▸ .unknown hname hpolicy
    | fail =>
      rw [hpolicy] at h
      cases h
  | some resolution =>
    rw [hname] at h
    cases resolution with
    | column column type => exact Traced.outcome_pure.mp h ▸ .column hname
    | role column => exact Traced.outcome_pure.mp h ▸ .role hname
    | metadata key =>
      obtain ⟨sets, hsets, h⟩ := Traced.outcome_bind.mp h
      exact Traced.outcome_pure.mp h ▸ .metadata hname hsets
    | identity attr projections =>
      obtain ⟨condition, hcondition, h⟩ := Traced.outcome_bind.mp h
      exact Traced.outcome_pure.mp h ▸ .identity hname hcondition
    | day column bound => exact resolvesTo_of_resolveDay hname h

end Compiler

end AuditSearch
