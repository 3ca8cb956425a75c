import AuditSearch.Proofs.Condition.Normal
import AuditSearch.Proofs.Search.Meaning

/-!
Searches are compiled to normal forms over the columns of the catalog, whatever is looked up for them.
-/
namespace AuditSearch

open Condition

/-- The columns that are tested for a field. -/
def Resolution.columns : Resolution → List String
  | column name _ => [name]
  | metadata _ => []
  | identity _ projections => projections.map Projection.column
  | role name => [name]
  | day name _ => [name]

/-- The columns that a search over a catalog may test: that of ids, and those of fields. -/
def Catalog.columns (c : Catalog) : List String :=
  Column.id.name :: c.entries.flatMap fun e => e.2.resolution.columns

theorem Catalog.mem_columns {c : Catalog} {name : String} {field : Field} (h : c.get? name = some field)
    {column : String} (hcolumn : column ∈ field.resolution.columns) : column ∈ c.columns := by
  obtain ⟨before, behind, hentries, -⟩ := List.lookup_eq_some_iff.mp h
  exact List.mem_cons_of_mem _ (List.mem_flatMap.mpr ⟨(name, field), by simp [hentries], hcolumn⟩)

section
variable {columns : String → Prop}

namespace Group

theorem isNormal_columnCondition (g : Group) {column : String} (h : columns column) (type : ColumnType) :
    IsNormal columns (g.columnCondition column type) := by
  rw [columnCondition]
  refine isNormal_mkAll (List.forall_mem_append.mpr ⟨?_, ?_⟩)
  · split
    · simp
    · exact List.forall_mem_singleton.mpr (isSimple_mkIn h _).isNormal
  · split
    · simp
    · exact List.forall_mem_singleton.mpr (isNormal_mkNullOrNotIn h _)

theorem isNormal_roleCondition (g : Group) {column : String} (h : columns column) :
    IsNormal columns (g.roleCondition column) := by
  have hany : IsNormal columns (mkAny (g.included.map (mkHasRole column))) :=
    isNormal_mkAny (List.forall_mem_map.mpr fun role _ => isSimple_mkHasRole h role)
  have hall : IsNormal columns (mkAll (g.excluded.map fun role => mkNot (mkHasRole column role))) :=
    isNormal_mkAll (List.forall_mem_map.mpr fun role _ => (isSimple_mkNot_mkHasRole h role).isNormal)
  rw [roleCondition]
  split
  · exact hall
  · exact isNormal_mkAll (List.forall_mem_cons.mpr ⟨hany, List.forall_mem_singleton.mpr hall⟩)

theorem isNormal_dayCondition {g : Group} {column : String} (hcolumn : columns column) {bound : DayBound} {offset : Int}
    {condition : Condition} (h : g.dayCondition column bound offset = .ok condition) :
    IsNormal columns condition := by
  obtain ⟨-, rfl⟩ | ⟨_, _, _, -, -, rfl⟩ := dayCondition_ok h
  · exact .always
  · exact .choice (.atom (.compare hcolumn))

theorem isNormal_identityCondition {g : Group} {directories : List Directory} {attr : Attribute}
    {projections : List Projection} (hcolumns : ∀ p ∈ projections, columns p.column) {condition : Condition}
    (h : (g.identityCondition directories attr projections).outcome = .ok condition) :
    IsNormal columns condition := by
  have hany (is : List Identity) : IsNormal columns (Projection.anyOf projections is) :=
    isNormal_mkAny (List.forall_mem_map.mpr fun p hp => isSimple_mkIn (hcolumns p hp) _)
  have hnone (is : List Identity) : IsNormal columns (Projection.noneOf projections is) :=
    isNormal_mkAll (List.forall_mem_map.mpr fun p hp => isNormal_mkNullOrNotIn (hcolumns p hp) _)
  obtain ⟨included, excluded, hincluded, hexcluded, rfl⟩ := outcome_identityCondition_iff.mp h
  refine isNormal_mkAll (List.forall_mem_append.mpr ⟨?_, ?_⟩)
  · obtain ⟨-, rfl⟩ | ⟨-, is, -, rfl⟩ := hincluded
    · simp
    · exact List.forall_mem_singleton.mpr (hany is)
  · obtain ⟨-, rfl⟩ | ⟨-, is, -, rfl⟩ := hexcluded
    · simp
    · exact List.forall_mem_singleton.mpr (hnone is)

end Group

theorem IdSets.isNormal_toCondition (h : columns Column.id.name) (s : IdSets) : IsNormal columns s.toCondition := by
  rw [toCondition]
  refine isNormal_mkAll (List.forall_mem_cons.mpr
    ⟨?_, List.forall_mem_singleton.mpr (isSimple_mkNotIn h _).isNormal⟩)
  cases s.included with
  | none => exact .always
  | some ids => exact (isSimple_mkIn h _).isNormal

end

namespace Compiler

variable {c : Compiler}

theorem isNormal_resolve {g : Group} {part : Contribution} (h : (c.resolve g).outcome = .ok part) :
    ∀ condition ∈ part.condition?, IsNormal (· ∈ c.catalog.columns) condition := by
  have htests {resolution : Resolution} (hname : c.resolution? g.field = some resolution) :
      ∀ column ∈ resolution.columns, column ∈ c.catalog.columns := by
    obtain ⟨field, hfield, rfl⟩ := Option.map_eq_some_iff.mp hname
    exact fun column hcolumn => Catalog.mem_columns hfield hcolumn
  intro condition hpart
  cases resolvesTo_of_resolve h with
  | unknown | metadata | invalid => cases hpart
  | column hname =>
    cases hpart
    exact g.isNormal_columnCondition (htests hname _ (by simp [Resolution.columns])) _
  | identity hname hcondition =>
    cases hpart
    refine Group.isNormal_identityCondition (fun p hp => htests hname _ ?_) hcondition
    exact List.mem_map_of_mem hp
  | role hname =>
    cases hpart
    exact g.isNormal_roleCondition (htests hname _ (by simp [Resolution.columns]))
  | day hname hcondition =>
    cases hpart
    exact Group.isNormal_dayCondition (htests hname _ (by simp [Resolution.columns])) hcondition

/-- A search is compiled to a normal form over the columns that its catalog tests. If these are names, its clause has an
equation of constants outside quoted texts only if it is one. -/
theorem condition_isNormal (c : Compiler) (raw : String) (condition : Condition)
    (h : (c.condition raw).outcome = .ok condition) :
    IsNormal (· ∈ c.catalog.columns) condition ∧
      ((∀ column ∈ c.catalog.columns, column.toList.all Sql.isNameChar) →
        "1 = 1".toList <:+: Text.outside false condition.toFilter.clause.toList ∨
          "1 = 0".toList <:+: Text.outside false condition.toFilter.clause.toList →
        condition.toFilter.clause = "1 = 1" ∨ condition.toFilter.clause = "1 = 0") := by
  have hnormal : IsNormal (· ∈ c.catalog.columns) condition := by
    obtain ⟨parts, hresolves, rfl⟩ := outcome_condition.mp h
    rw [Contribution.assemble]
    refine isNormal_mkAll (List.forall_mem_append.mpr
      ⟨fun condition hcondition => ?_, List.forall_mem_singleton.mpr (IdSets.isNormal_toCondition List.mem_cons_self _)⟩)
    obtain ⟨part, hpart, hcondition⟩ := List.mem_filterMap.mp hcondition
    obtain ⟨g, -, hresolve⟩ := exists_left hresolves hpart
    exact isNormal_resolve hresolve condition hcondition
  exact ⟨hnormal, fun hnames hequation => clause_of_equation hnames hnormal hequation⟩

/-- Roles one of which looks like an equation, and a compound one. -/
theorem condition_isNormal_small :
    (small.condition "role:1=1 role:admin -role:a,b title:x").outcome =
        .ok (.all [.any [.hasRole "actor_roles" "1=1", .hasRole "actor_roles" "admin"],
          .isIn "id" [.integer 1, .integer 7]]) ∧
      IsNormal (· ∈ small.catalog.columns) (.all [.any [.hasRole "actor_roles" "1=1", .hasRole "actor_roles" "admin"],
        .isIn "id" [.integer 1, .integer 7]]) ∧
      (small.condition "role:a,b title:x").outcome = .ok .never ∧
      (∀ column ∈ small.catalog.columns, column.toList.all Sql.isNameChar) ∧
      "1 = 0".toList <:+: Text.outside false (toFilter .never).clause.toList ∧
      ((toFilter .never).clause = "1 = 1" ∨ (toFilter .never).clause = "1 = 0") := by
  have hchosen : (small.condition "role:1=1 role:admin -role:a,b title:x").outcome =
      .ok (.all [.any [.hasRole "actor_roles" "1=1", .hasRole "actor_roles" "admin"],
        .isIn "id" [.integer 1, .integer 7]]) := by cbv
  have hnever : (small.condition "role:a,b title:x").outcome = .ok .never := by cbv
  have hnames : ∀ column ∈ small.catalog.columns, column.toList.all Sql.isNameChar := by decide
  have hequation : "1 = 0".toList <:+: Text.outside false (toFilter .never).clause.toList := by
    have houtside : Text.outside false (toFilter .never).clause.toList = "1 = 0".toList := by
      simp [toFilter, Text.outside]
    rw [houtside]
  exact ⟨hchosen, (condition_isNormal small _ _ hchosen).1, hnever, hnames, hequation,
    (condition_isNormal small _ _ hnever).2 hnames (.inr hequation)⟩

end Compiler

end AuditSearch
