import AuditSearch.Proofs.Catalog
import AuditSearch.Proofs.Condition.Agreement
import AuditSearch.Proofs.Query.Term
import AuditSearch.Proofs.Search.Meaning

/-!
The tests of a search that is compiled over the standard catalog: they compare columns of the event with literals
that these take.
-/
namespace AuditSearch

/-- What a name of the standard catalog stands for: the column of the event of this name with its type, or people
found again as actors. -/
def Resolution.IsStandard (field : String) : Resolution → Prop
  | column name type => ∃ column : Column, column.name = field ∧ column.name = name ∧ column.type = type
  | metadata _ => True
  | identity _ projections => projections = Catalog.actorProjections
  | role name => name = Column.actorRoles.name
  | day name _ => name = Column.createdTimestamp.name

theorem Catalog.isStandard_of_get {c : Catalog} (h : standard = .ok c) {name : String} {field : Field}
    (hfield : c.get? name = some field) : field.resolution.IsStandard name :=
  (forall_standard h).mpr ⟨fun column => ⟨column, rfl, rfl, rfl⟩, fun _ _ => trivial, fun _ _ => rfl, rfl, fun _ _ => rfl⟩
    name field hfield

/-- A value that may be looked for in columns of a type: one of integers takes those that read as one, and others
only without a digit. -/
def ColumnType.Suits (type : ColumnType) (value : String) : Prop :=
  type = .integer → (Text.int64? value).isSome ∨ Text.HasNoDigit value

/-- What holds of all tests that searches over the standard catalog are compiled to, where `takes` tells what literals
are looked for in a column, and `names` what roles. -/
structure Condition.CoversTests (p : Condition → Prop) (takes : Column → Literal → Prop) (names : String → Prop) :
    Prop where
  always : p always
  never : p never
  isIn : ∀ column vs, (∀ v ∈ vs, takes column v) → p (isIn column.name vs)
  notIn : ∀ column vs, (∀ v ∈ vs, takes column v) → p (notIn column.name vs)
  isNull : ∀ column : Column, p (isNull column.name)
  compare : ∀ bound n, p (compare Column.createdTimestamp.name bound (.integer n))
  hasRole : ∀ role, names role → p (hasRole Column.actorRoles.name role)
  ids : ∀ n, takes .id (.integer n)
  actorIds : ∀ n, takes .actorId (.integer n)
  actorLogins : ∀ s, takes .actorLogin (.text s)

section
variable {p : Condition → Prop} {takes : Column → Literal → Prop} {names : String → Prop}
  (hp : Condition.CoversTests p takes names)
include hp

namespace Group

open Condition

theorem covers_columnCondition (g : Group) (column : Column)
    (h : ∀ s ∈ g.included ++ g.excluded, takes column (literal column.type s)) :
    ∀ t ∈ (g.columnCondition column.name column.type).tests, p t := by
  obtain ⟨hincluded, hexcluded⟩ := List.forall_mem_append.mp h
  have htakes {values : List String} (hvalues : ∀ s ∈ values, takes column (literal column.type s)) :
      ∀ v ∈ values.map (literal column.type), takes column v := List.forall_mem_map.mpr hvalues
  rw [columnCondition]
  refine tests_mkAll hp.always hp.never (List.forall_mem_append.mpr ⟨?_, ?_⟩)
  · split
    · simp
    · exact List.forall_mem_singleton.mpr (tests_mkIn hp.never (hp.isIn _ _ (htakes hincluded)))
  · split
    · simp
    · exact List.forall_mem_singleton.mpr
        (tests_mkNullOrNotIn hp.always hp.never (hp.isNull _) (hp.notIn _ _ (htakes hexcluded)))

theorem covers_roleCondition (g : Group) (h : ∀ role ∈ g.included ++ g.excluded, names role) :
    ∀ t ∈ (g.roleCondition Column.actorRoles.name).tests, p t := by
  obtain ⟨hincluded, hexcluded⟩ := List.forall_mem_append.mp h
  have hrole (role : String) (hrole : names role) : ∀ t ∈ (mkHasRole Column.actorRoles.name role).tests, p t :=
    tests_mkHasRole hp.never (hp.hasRole role hrole)
  have hany : ∀ t ∈ (mkAny (g.included.map (mkHasRole Column.actorRoles.name))).tests, p t :=
    tests_mkAny hp.always hp.never (List.forall_mem_map.mpr fun role hmem => hrole role (hincluded role hmem))
  have hall : ∀ t ∈ (mkAll (g.excluded.map fun role => mkNot (mkHasRole Column.actorRoles.name role))).tests, p t :=
    tests_mkAll hp.always hp.never (List.forall_mem_map.mpr fun role hmem =>
      tests_mkNot hp.always hp.never (hrole role (hexcluded role hmem)))
  rw [roleCondition]
  split
  · exact hall
  · exact tests_mkAll hp.always hp.never (List.forall_mem_cons.mpr ⟨hany, List.forall_mem_singleton.mpr hall⟩)

theorem covers_dayCondition {g : Group} {bound : DayBound} {offset : Int} {condition : Condition}
    (h : g.dayCondition Column.createdTimestamp.name bound offset = .ok condition) : ∀ t ∈ condition.tests, p t := by
  obtain ⟨-, rfl⟩ | ⟨_, _, _, -, -, rfl⟩ := dayCondition_ok h
  · exact forall_tests rfl hp.always
  · exact forall_tests rfl (hp.compare _ _)

theorem takes_values (is : List Identity) : ∀ projection ∈ Catalog.actorProjections,
    ∃ column : Column, column.name = projection.column ∧ ∀ v ∈ projection.values is, takes column v := by
  intro projection hprojection
  simp only [Catalog.actorProjections, List.mem_cons, List.not_mem_nil, or_false] at hprojection
  obtain rfl | rfl := hprojection
  · refine ⟨.actorId, rfl, fun v hv => ?_⟩
    obtain ⟨i, _, rfl⟩ := (Projection.mem_values _ is v).mp hv
    exact hp.actorIds i.id
  · refine ⟨.actorLogin, rfl, fun v hv => ?_⟩
    obtain ⟨i, _, rfl⟩ := (Projection.mem_values _ is v).mp hv
    exact hp.actorLogins i.login

theorem covers_anyOf (is : List Identity) : ∀ t ∈ (Projection.anyOf Catalog.actorProjections is).tests, p t := by
  rw [Projection.anyOf]
  refine tests_mkAny hp.always hp.never (List.forall_mem_map.mpr fun projection hprojection => ?_)
  obtain ⟨column, hcolumn, htakes⟩ := takes_values hp is projection hprojection
  rw [← hcolumn]
  exact tests_mkIn hp.never (hp.isIn column _ htakes)

theorem covers_noneOf (is : List Identity) : ∀ t ∈ (Projection.noneOf Catalog.actorProjections is).tests, p t := by
  rw [Projection.noneOf]
  refine tests_mkAll hp.always hp.never (List.forall_mem_map.mpr fun projection hprojection => ?_)
  obtain ⟨column, hcolumn, htakes⟩ := takes_values hp is projection hprojection
  rw [← hcolumn]
  exact tests_mkNullOrNotIn hp.always hp.never (hp.isNull column) (hp.notIn column _ htakes)

theorem covers_identityCondition {g : Group} {directories : List Directory} {attr : Attribute}
    {condition : Condition}
    (h : (g.identityCondition directories attr Catalog.actorProjections).outcome = .ok condition) :
    ∀ t ∈ condition.tests, p t := by
  obtain ⟨included, excluded, hincluded, hexcluded, rfl⟩ := outcome_identityCondition_iff.mp h
  refine tests_mkAll hp.always hp.never (List.forall_mem_append.mpr ⟨?_, ?_⟩)
  · obtain ⟨-, rfl⟩ | ⟨-, is, -, rfl⟩ := hincluded
    · simp
    · exact List.forall_mem_singleton.mpr (covers_anyOf hp is)
  · obtain ⟨-, rfl⟩ | ⟨-, is, -, rfl⟩ := hexcluded
    · simp
    · exact List.forall_mem_singleton.mpr (covers_noneOf hp is)

end Group

theorem IdSets.covers_toCondition (s : IdSets) : ∀ t ∈ s.toCondition.tests, p t := by
  have htakes (ids : IdSet) : ∀ v ∈ literals ids, takes .id v := by
    rw [literals]
    exact List.forall_mem_map.mpr fun id _ => hp.ids id
  rw [toCondition]
  refine Condition.tests_mkAll hp.always hp.never (List.forall_mem_cons.mpr ⟨?_, List.forall_mem_singleton.mpr ?_⟩)
  · cases s.included with
    | none => exact Condition.forall_tests rfl hp.always
    | some ids => exact Condition.tests_mkIn hp.never (hp.isIn .id _ (htakes ids))
  · exact Condition.tests_mkNotIn hp.always (hp.notIn .id _ (htakes s.excluded))

namespace Compiler

variable {c : Compiler}

theorem covers_resolve (hstandard : Catalog.standard = .ok c.catalog) {g : Group} {part : Contribution}
    (h : (c.resolve g).outcome = .ok part) (hnames : ∀ s ∈ g.included ++ g.excluded, names s)
    (htakes : ∀ column : Column, column.name = g.field → ∀ s ∈ g.included ++ g.excluded,
      takes column (Group.literal column.type s)) :
    ∀ condition ∈ part.condition?, ∀ t ∈ condition.tests, p t := by
  intro condition hpart
  have hstandard {resolution : Resolution} (hname : c.resolution? g.field = some resolution) :
      resolution.IsStandard g.field := by
    obtain ⟨field, hfield, rfl⟩ := Option.map_eq_some_iff.mp hname
    exact Catalog.isStandard_of_get hstandard hfield
  cases resolvesTo_of_resolve h with
  | unknown | metadata | invalid => cases hpart
  | column hname =>
    obtain ⟨column, hfield, rfl, rfl⟩ := hstandard hname
    cases hpart
    exact g.covers_columnCondition hp column (htakes column hfield)
  | identity hname hcondition =>
    obtain rfl : _ = Catalog.actorProjections := hstandard hname
    cases hpart
    exact Group.covers_identityCondition hp hcondition
  | role hname =>
    obtain rfl : _ = Column.actorRoles.name := hstandard hname
    cases hpart
    exact g.covers_roleCondition hp hnames
  | day hname hcondition =>
    obtain rfl : _ = Column.createdTimestamp.name := hstandard hname
    cases hpart
    exact Group.covers_dayCondition hp hcondition

/-- A search over the standard catalog is compiled to tests of columns with literals, and of roles, that its values
stand for. -/
theorem covers_condition (hstandard : Catalog.standard = .ok c.catalog) {raw : String} {condition : Condition}
    (h : (c.condition raw).outcome = .ok condition) (hnames : ∀ s ∈ (Term.ofSearch raw).map Term.value, names s)
    (htakes : ∀ column : Column, ∀ negated, ∀ s ∈ Term.valuesOf (Term.ofSearch raw) column.name negated,
      takes column (Group.literal column.type s)) : ∀ t ∈ condition.tests, p t := by
  obtain ⟨parts, hresolves, rfl⟩ := outcome_condition.mp h
  have hvalue {field : String} {negated : Bool} : ∀ s ∈ Term.valuesOf (Term.ofSearch raw) field negated, names s :=
    fun s hs => hnames s (List.mem_map.mpr ⟨_, Term.mem_valuesOf.mp hs, rfl⟩)
  rw [Contribution.assemble]
  refine Condition.tests_mkAll hp.always hp.never (List.forall_mem_append.mpr
    ⟨fun condition hcondition => ?_, List.forall_mem_singleton.mpr (IdSets.covers_toCondition hp _)⟩)
  obtain ⟨part, hpart, hcondition⟩ := List.mem_filterMap.mp hcondition
  obtain ⟨g, hg, hresolve⟩ := exists_left hresolves hpart
  obtain ⟨_, hgathered⟩ := (Group.mem_ofTerms _ g).mp hg
  refine covers_resolve hp hstandard hresolve ?_ (fun column hname => ?_) condition hcondition
  · rw [hgathered]
    exact List.forall_mem_append.mpr ⟨hvalue, hvalue⟩
  · rw [hgathered, ← hname]
    exact List.forall_mem_append.mpr ⟨htakes column false, htakes column true⟩

end Compiler

end

/-! ### Tests of the columns that there are, and of literals that these take -/

namespace Condition

theorem coversTests_schema :
    CoversTests (fun t => ∀ name ∈ t.testedColumn?, ∃ column : Column, column.name = name) (fun _ _ => True)
      fun _ => True where
  always := by simp [testedColumn?]
  never := by simp [testedColumn?]
  isIn column _ _ := by simp [testedColumn?]
  notIn column _ _ := by simp [testedColumn?]
  isNull column := by simp [testedColumn?]
  compare _ _ := by simp [testedColumn?]
  hasRole _ _ := by simp [testedColumn?]
  ids _ := trivial
  actorIds _ := trivial
  actorLogins _ := trivial

/-- A test of a column with literals that it takes, or of the role list with a role that patterns can find. -/
def IsStoredTest (t : Condition) : Prop :=
  t.IsTypedTest ∧ t.HasNulFreeRole

theorem coversTests_stored :
    CoversTests IsStoredTest Column.Takes fun role => role ≠ "" ∧ Text.IsNulFree role where
  always := ⟨trivial, trivial⟩
  never := ⟨trivial, trivial⟩
  isIn column _ h := ⟨⟨column, rfl, h⟩, trivial⟩
  notIn column _ h := ⟨⟨column, rfl, h⟩, trivial⟩
  isNull column := ⟨⟨column, rfl⟩, trivial⟩
  compare _ n := ⟨⟨.createdTimestamp, rfl, rfl, n, rfl⟩, trivial⟩
  hasRole _ h := ⟨⟨rfl, h.1⟩, h.2⟩
  ids _ := rfl
  actorIds _ := rfl
  actorLogins _ := fun hinteger => by cases hinteger

end Condition

theorem Group.takes_literal {column : Column} {s : String} (h : column.type.Suits s) :
    column.Takes (literal column.type s) := by
  cases htype : column.type with
  | integer =>
    rw [literal]
    cases hint : Text.int64? s with
    | none =>
      have hword := (h htype).resolve_left (by simp [hint])
      exact fun _ => hword
    | some n => exact htype
  | text | roleList => exact fun hinteger => by simp [htype] at hinteger

namespace Compiler

variable {c : Compiler}

theorem isSound_of_standard (hstandard : Catalog.standard = .ok c.catalog) (hoffset : c.offsetSeconds.natAbs < 86400) :
    c.IsSound where
  roles name field column hfield hresolution := by
    have := Catalog.isStandard_of_get hstandard hfield
    rwa [hresolution] at this
  offset := hoffset

/-- A search over the standard catalog is compiled to tests of columns that there are. -/
theorem isOverSchema_condition (hstandard : Catalog.standard = .ok c.catalog) {raw : String} {condition : Condition}
    (h : (c.condition raw).outcome = .ok condition) : condition.IsOverSchema :=
  covers_condition Condition.coversTests_schema hstandard h (fun _ _ => trivial) fun _ _ _ _ => trivial

/-- A search over the standard catalog is compiled to tests of columns with literals that these take, if its values
suit the columns. -/
theorem stored_condition (hstandard : Catalog.standard = .ok c.catalog) {raw : String} {condition : Condition}
    (h : (c.condition raw).outcome = .ok condition) (hraw : Text.IsNulFree raw)
    (hsuits : ∀ column : Column, ∀ negated, ∀ s ∈ Term.valuesOf (Term.ofSearch raw) column.name negated,
      column.type.Suits s) : ∀ t ∈ condition.tests, t.IsStoredTest := by
  refine covers_condition Condition.coversTests_stored hstandard h (List.forall_mem_map.mpr fun t ht => ?_)
    fun column negated s hs => Group.takes_literal (hsuits column negated s hs)
  obtain ⟨hne, hsubset⟩ := Term.mem_ofSearch ht
  exact ⟨hne, fun d hd => hraw d (hsubset hd)⟩

end Compiler

end AuditSearch
