import AuditSearch.Proofs.Calendar
import AuditSearch.Proofs.Query.Group
import AuditSearch.Proofs.Search.Lookup
import AuditSearch.Proofs.Search.Resolve

/-!
The meaning of a search: what its terms ask of an event, field by field. The compiled condition accepts the events
of which that holds, whatever catalog is searched and whoever answers the lookups.
-/
namespace AuditSearch

/-- A role is one of those that an event lists, the case of ASCII letters aside, where characters are first read in
some way. -/
def Event.HasRole (read : Char → Char) (e : Event) (role : String) : Prop :=
  ¬Roles.isCompound role ∧ ∃ r ∈ Roles.parse e.rolesText, Text.fold read r = Text.fold read role

instance (read : Char → Char) (e : Event) (role : String) : Decidable (e.HasRole read role) :=
  inferInstanceAs (Decidable (_ ∧ ∃ r ∈ Roles.parse e.rolesText, _))

/-- An instant is on the right side of a bound. -/
def DayBound.Holds (bound : DayBound) (instant n : Int) : Prop :=
  match bound with
  | start => instant ≤ n
  | finish => n ≤ instant

/-- An identity stands in one of some columns of an event. -/
def Projection.StandsIn (projections : List Projection) (i : Identity) (e : Event) : Prop :=
  ∃ p ∈ projections, ∃ w, e.column? p.column = some w ∧ (i.value p.attr).looselyEquals w

/-- Columns of ids and logins hold who has the same id and login. -/
theorem Projection.standsIn_of_same {projections : List Projection}
    (hkeys : ∀ p ∈ projections, p.attr = .id ∨ p.attr = .login) {i k : Identity} {e : Event} (hid : i.id = k.id)
    (hlogin : i.login = k.login) (h : StandsIn projections i e) : StandsIn projections k e := by
  obtain ⟨p, hp, w, hw, hequal⟩ := h
  refine ⟨p, hp, w, hw, ?_⟩
  rcases hkeys p hp with hattr | hattr <;> rw [hattr] at hequal ⊢
  · rwa [Identity.value, ← hid]
  · rwa [Identity.value, ← hlogin]

namespace Compiler

/-- The identities that the directories find, in order and without later repeats of one person. -/
def people (c : Compiler) (attr : Attribute) (values : List String) : List Identity :=
  (c.directories.flatMap fun d => answered (d.find attr values)).eraseDupsBy Identity.isSame

/-- Somebody among the people is what somebody is whom a directory finds, if that is told by id and login. -/
theorem exists_people_iff (c : Compiler) (attr : Attribute) (values : List String) {p : Identity → Prop}
    (hsame : ∀ i k : Identity, i.id = k.id → i.login = k.login → p i → p k) : (∃ i ∈ c.people attr values, p i) ↔
      ∃ d ∈ c.directories, ∃ i ∈ answered (d.find attr values), p i := by
  rw [people, Identity.exists_mem_eraseDupsBy_iff hsame]
  constructor
  · rintro ⟨i, hi, hp⟩
    obtain ⟨d, hd, hfound⟩ := List.mem_flatMap.mp hi
    exact ⟨d, hd, i, hfound, hp⟩
  · rintro ⟨d, hd, i, hfound, hp⟩
    exact ⟨i, List.mem_flatMap.mpr ⟨d, hd, hfound⟩, hp⟩

/-- What a field asks of an event by its plain and its negated values, where only the event is looked at. -/
def Asks (c : Compiler) (read : Char → Char) (resolution : Resolution) (included excluded : List String) (e : Event) : Prop :=
  match resolution with
  | .column name type =>
    (included ≠ [] → ∃ w, e.column? name = some w ∧ ∃ s ∈ included, (Group.literal type s).looselyEquals w) ∧
      ∀ w, e.column? name = some w → ∀ s ∈ excluded, ¬(Group.literal type s).looselyEquals w
  | .role _ => (included ≠ [] → ∃ role ∈ included, e.HasRole read role) ∧ ∀ role ∈ excluded, ¬e.HasRole read role
  | .identity attr projections =>
    (included ≠ [] → ∃ i ∈ c.people attr included, Projection.StandsIn projections i e) ∧
      (excluded ≠ [] → ∀ i ∈ c.people attr excluded, ¬Projection.StandsIn projections i e)
  | .day name bound =>
    ∀ value ∈ included.head?, ∀ instant ∈ Calendar.boundInstant? value bound c.offsetSeconds,
      ∃ n, (e.column? name).bind Literal.asInteger? = some n ∧ bound.Holds instant n.toInt
  | .metadata _ => True

/-- A metadata field has values of one sign among some terms. -/
def AsksMetadata (c : Compiler) (terms : List Term) (negated : Bool) (key : String) (values : List String) : Prop :=
  ∃ name field, c.catalog.get? name = some field ∧ field.resolution = .metadata key ∧
    values = Term.valuesOf terms name negated ∧ values ≠ []

/-- An event id is found for the values of one sign of some metadata field. -/
def FindsMetadata (c : Compiler) (terms : List Term) (negated : Bool) (id : Int64) : Prop :=
  ∃ key values, c.AsksMetadata terms negated key values ∧ id ∈ answered (c.index.find key values)

/-- What the terms of a search ask of an event: all that its fields ask by themselves, and if there are plain values
of metadata, that the event is found for those of one field; and that it is found for no negated ones. -/
structure Meaning (c : Compiler) (read : Char → Char) (terms : List Term) (e : Event) : Prop where
  fields : ∀ name field, c.catalog.get? name = some field →
    c.Asks read field.resolution (Term.valuesOf terms name false) (Term.valuesOf terms name true) e
  included : (∃ key values, c.AsksMetadata terms false key values) → c.FindsMetadata terms false e.id
  excluded : ¬c.FindsMetadata terms true e.id

end Compiler

/-! ### Groups -/

namespace Group

variable {read : Char → Char} {e : Event}

theorem acceptsAs_columnCondition (c : Compiler) (g : Group) (name : String) (type : ColumnType) :
    (g.columnCondition name type).acceptsAs read e ↔ c.Asks read (.column name type) g.included g.excluded e := by
  rw [columnCondition, Condition.acceptsAs_mkAll, List.forall_mem_append, Compiler.Asks]
  refine and_congr ?_ ?_
  · cases hincluded : g.included with
    | nil => simp
    | cons s ss => simp [Condition.acceptsAs_mkIn]
  · cases hexcluded : g.excluded with
    | nil => simp
    | cons s ss => simp [Condition.acceptsAs_mkNullOrNotIn]

theorem truth_hasRole (role : String) :
    (Condition.hasRole Column.actorRoles.name role).readTruth read e = some (decide (e.HasRole read role)) := by
  have hvalue : e.column? Column.actorRoles.name = some (.text e.rolesText) := rfl
  rw [Condition.readTruth_hasRole, hvalue]
  by_cases hcompound : Roles.isCompound role
  · simp [hcompound, Event.HasRole]
  · rw [if_neg hcompound, Option.map_some, Option.some_inj, Bool.eq_iff_iff]
    simp [Roles.names, Event.HasRole, hcompound]

theorem acceptsAs_roles (g : Group) (column : String) : (g.roleCondition column).acceptsAs read e ↔
    (g.included ≠ [] → ∃ role ∈ g.included, (Condition.mkHasRole column role).acceptsAs read e) ∧
      ∀ role ∈ g.excluded, (Condition.mkNot (Condition.mkHasRole column role)).acceptsAs read e := by
  rw [roleCondition]
  by_cases h : g.included = []
  · simp [h, Condition.acceptsAs_mkAll]
  · simp [h, Condition.acceptsAs_mkAll, Condition.acceptsAs_mkAny]

theorem acceptsAs_roleCondition (c : Compiler) (g : Group) :
    (g.roleCondition Column.actorRoles.name).acceptsAs read e ↔
      c.Asks read (.role Column.actorRoles.name) g.included g.excluded e := by
  have hrole (role : String) : (Condition.mkHasRole Column.actorRoles.name role).acceptsAs read e ↔ e.HasRole read role := by
    simp [Condition.acceptsAs, truth_hasRole]
  have hnot (role : String) :
      (Condition.mkNot (Condition.mkHasRole Column.actorRoles.name role)).acceptsAs read e ↔ ¬e.HasRole read role := by
    simp [Condition.acceptsAs, truth_hasRole, Truth.not]
  rw [acceptsAs_roles, Compiler.Asks]
  simp only [hrole, hnot]

theorem acceptsAs_dayCondition {c : Compiler} {g : Group} {name : String} {bound : DayBound} {condition : Condition}
    (hoffset : c.offsetSeconds.natAbs < 86400) (h : g.dayCondition name bound c.offsetSeconds = .ok condition) :
    condition.acceptsAs read e ↔ c.Asks read (.day name bound) g.included g.excluded e := by
  rw [Compiler.Asks]
  obtain ⟨hnil, rfl⟩ | ⟨value, values, instant, hvalues, hinstant, rfl⟩ := dayCondition_ok h
  · simp [hnil, Condition.acceptsAs_always]
  · have hint := Calendar.toInt_boundInstant hoffset hinstant
    have hholds (n : Int64) : bound.bound.holds n (Int64.ofInt instant) ↔ bound.Holds instant n.toInt := by
      cases bound <;> simp [DayBound.bound, Bound.holds, DayBound.Holds, Int64.le_iff_toInt_le, hint]
    simp only [hvalues, List.head?_cons, Option.mem_some_iff, forall_eq', hinstant, Condition.acceptsAs, beq_iff_eq,
      Condition.readTruth_compare, Condition.truth, Literal.asInteger?, ← hholds]
    cases (e.column? name).bind Literal.asInteger? <;> simp

theorem acceptsAs_anyOf (projections : List Projection) (is : List Identity) :
    (Projection.anyOf projections is).acceptsAs read e ↔ ∃ i ∈ is, Projection.StandsIn projections i e := by
  rw [Projection.anyOf, Condition.acceptsAs_mkAny]
  constructor
  · intro h
    obtain ⟨_, hmem, h⟩ := h
    obtain ⟨p, hp, rfl⟩ := List.mem_map.mp hmem
    obtain ⟨w, hw, v, hv, hequal⟩ := (Condition.acceptsAs_mkIn _ _).mp h
    obtain ⟨i, hi, rfl⟩ := (p.mem_values is v).mp hv
    exact ⟨i, hi, p, hp, w, hw, hequal⟩
  · rintro ⟨i, hi, p, hp, w, hw, hequal⟩
    exact ⟨_, List.mem_map.mpr ⟨p, hp, rfl⟩,
      (Condition.acceptsAs_mkIn _ _).mpr ⟨w, hw, _, (p.mem_values is _).mpr ⟨i, hi, rfl⟩, hequal⟩⟩

theorem acceptsAs_noneOf (projections : List Projection) (is : List Identity) :
    (Projection.noneOf projections is).acceptsAs read e ↔ ∀ i ∈ is, ¬Projection.StandsIn projections i e := by
  rw [Projection.noneOf, Condition.acceptsAs_mkAll]
  constructor
  · rintro h i hi ⟨p, hp, w, hw, hequal⟩
    have hnone := (Condition.acceptsAs_mkNullOrNotIn _ _).mp (h _ (List.mem_map.mpr ⟨p, hp, rfl⟩))
    exact hnone w hw _ ((p.mem_values is _).mpr ⟨i, hi, rfl⟩) hequal
  · intro h condition hmem
    obtain ⟨p, hp, rfl⟩ := List.mem_map.mp hmem
    refine (Condition.acceptsAs_mkNullOrNotIn _ _).mpr fun w hw v hv hequal => ?_
    obtain ⟨i, hi, rfl⟩ := (p.mem_values is v).mp hv
    exact h i hi ⟨p, hp, w, hw, hequal⟩

/-- The event is of one of the included people and of none of the excluded ones, whichever directories know them. -/
theorem acceptsAs_ofPeople {g : Group} {directories : List Directory} {attr : Attribute} {projections : List Projection}
    {condition : Condition} (h : (g.identityCondition directories attr projections).outcome = .ok condition) :
    condition.acceptsAs read e ↔
      (g.included ≠ [] → ∃ i ∈ Directory.merged directories attr g.included, Projection.StandsIn projections i e) ∧
      (g.excluded ≠ [] → ∀ i ∈ Directory.merged directories attr g.excluded, ¬Projection.StandsIn projections i e) := by
  obtain ⟨included, excluded, hincluded, hexcluded, rfl⟩ := outcome_identityCondition_iff.mp h
  rw [Condition.acceptsAs_mkAll, List.forall_mem_append]
  refine and_congr ?_ ?_
  · obtain ⟨hnil, rfl⟩ | ⟨hsome, is, his, rfl⟩ := hincluded
    · simp [hnil]
    · rw [Directory.eq_of_askAll his, List.forall_mem_singleton, acceptsAs_anyOf]
      simp [hsome]
  · obtain ⟨hnil, rfl⟩ | ⟨hsome, is, his, rfl⟩ := hexcluded
    · simp [hnil]
    · rw [Directory.eq_of_askAll his, List.forall_mem_singleton, acceptsAs_noneOf]
      simp [hsome]

theorem acceptsAs_identityCondition {c : Compiler} {g : Group} {attr : Attribute} {projections : List Projection}
    {condition : Condition}
    (h : (g.identityCondition c.directories attr projections).outcome = .ok condition) :
    condition.acceptsAs read e ↔ c.Asks read (.identity attr projections) g.included g.excluded e :=
  acceptsAs_ofPeople h

theorem outcome_metadataIds {g : Group} {index : MetadataIndex} {key : String} {sets : IdSets}
    (h : (g.metadataIds index key).outcome = .ok sets) :
    (sets.included.isSome ↔ g.included ≠ []) ∧
      (∀ id, sets.Includes id ↔ g.included ≠ [] ∧ id ∈ answered (index.find key g.included)) ∧
      ∀ id, id ∈ sets.excluded ↔ g.excluded ≠ [] ∧ id ∈ answered (index.find key g.excluded) := by
  have hask {values : List String} {ids : List Int64} :
      (index.ask key values).outcome = .ok ids → index.find key values = .ok ids := fun h => h
  obtain ⟨included, excluded⟩ := sets
  obtain ⟨hincluded, hexcluded⟩ := outcome_metadataIds_iff.mp h
  refine and_assoc.mp ⟨?_, ?_⟩
  · obtain ⟨hnil, rfl⟩ | ⟨hsome, ids, hids, rfl⟩ := hincluded
    · simp [hnil, IdSets.Includes]
    · simp [hsome, IdSets.Includes, IdSet.mem_ofList, answered_ok (hask hids)]
  · obtain ⟨hnil, rfl⟩ | ⟨hsome, ids, hids, rfl⟩ := hexcluded
    · simp [hnil, IdSet.not_mem_empty]
    · simp [hsome, IdSet.mem_ofList, answered_ok (hask hids)]

/-- A group of metadata is resolved only if the lookups of its values succeed. -/
theorem found_of_metadataIds {g : Group} {index : MetadataIndex} {key : String} {sets : IdSets}
    (h : (g.metadataIds index key).outcome = .ok sets) :
    ∀ values ∈ [g.included, g.excluded], values ≠ [] → ∃ ids, index.find key values = .ok ids := by
  obtain ⟨hincluded, hexcluded⟩ := outcome_metadataIds_iff.mp h
  refine List.forall_mem_cons.mpr ⟨fun hne => ?_, List.forall_mem_singleton.mpr fun hne => ?_⟩
  · obtain ⟨hnil, -⟩ | ⟨-, ids, hids, -⟩ := hincluded
    · exact absurd hnil hne
    · exact ⟨ids, hids⟩
  · obtain ⟨hnil, -⟩ | ⟨-, ids, hids, -⟩ := hexcluded
    · exact absurd hnil hne
    · exact ⟨ids, hids⟩

/-- A group of people is resolved only if the lookups of its values succeed. -/
theorem found_of_identityCondition {g : Group} {directories : List Directory} {attr : Attribute}
    {projections : List Projection} {condition : Condition}
    (h : (g.identityCondition directories attr projections).outcome = .ok condition) :
    ∀ values ∈ [g.included, g.excluded], values ≠ [] →
      ∀ d ∈ directories, ∃ is, d.find attr values = .ok is := by
  have hask {values : List String} {is : List Identity}
      (his : (Directory.askAll directories attr values).outcome = .ok is) :
      ∀ d ∈ directories, ∃ is, d.find attr values = .ok is := by
    intro d hd
    obtain ⟨answers, hanswers, -⟩ := Traced.outcome_bind.mp his
    obtain ⟨is, -, hfound⟩ := exists_right (Traced.outcome_mapM.mp hanswers) hd
    exact ⟨is, Directory.outcome_ask.mp hfound⟩
  obtain ⟨_, _, hincluded, hexcluded, -⟩ := outcome_identityCondition_iff.mp h
  refine List.forall_mem_cons.mpr ⟨fun hne => ?_, List.forall_mem_singleton.mpr fun hne => ?_⟩
  · obtain ⟨hnil, -⟩ | ⟨-, is, his, -⟩ := hincluded
    · exact absurd hnil hne
    · exact hask his
  · obtain ⟨hnil, -⟩ | ⟨-, is, his, -⟩ := hexcluded
    · exact absurd hnil hne
    · exact hask his

end Group

/-- All conditions accept an event, and it is among what was found of metadata, if anything was searched for, and
not among what was ruled out. -/
theorem Contribution.acceptsAs_assemble (read : Char → Char) (e : Event) (parts : List Contribution) :
    (assemble parts).acceptsAs read e ↔ (∀ condition ∈ parts.filterMap condition?, condition.acceptsAs read e) ∧
      ((∃ sets ∈ parts.filterMap ids?, sets.included.isSome) → ∃ sets ∈ parts.filterMap ids?, sets.Includes e.id) ∧
      ¬∃ sets ∈ parts.filterMap ids?, e.id ∈ sets.excluded := by
  obtain ⟨hsome, hincludes, hexcludes⟩ := IdSets.merged_iff (parts.filterMap ids?)
  rw [assemble, Condition.acceptsAs_mkAll, List.forall_mem_append, List.forall_mem_singleton,
    IdSets.acceptsAs_toCondition, hsome, hincludes, hexcludes]

namespace Compiler

variable {c : Compiler} {read : Char → Char} {e : Event}

/-- Role fields are over the column of roles, and the offset is less than a day. -/
structure IsSound (c : Compiler) : Prop where
  roles : ∀ name field column, c.catalog.get? name = some field → field.resolution = .role column →
    column = Column.actorRoles.name
  offset : c.offsetSeconds.natAbs < 86400

theorem asks_nothing (c : Compiler) (resolution : Resolution) (e : Event) : c.Asks read resolution [] [] e := by
  cases resolution <;> simp [Asks]

theorem acceptsAs_resolve (hc : c.IsSound) {g : Group} {part : Contribution} (h : (c.resolve g).outcome = .ok part) :
    (∀ condition ∈ part.condition?, condition.acceptsAs read e) ↔
      ∀ field, c.catalog.get? g.field = some field → c.Asks read field.resolution g.included g.excluded e := by
  have hfields : (∀ field, c.catalog.get? g.field = some field → c.Asks read field.resolution g.included g.excluded e) ↔
      ∀ resolution ∈ c.resolution? g.field, c.Asks read resolution g.included g.excluded e := by
    simp [resolution?]
  rw [hfields]
  cases resolvesTo_of_resolve h with
  | unknown hname => simp [hname, Contribution.condition?]
  | column hname => simp [hname, Contribution.condition?, Group.acceptsAs_columnCondition c]
  | metadata hname => simp [hname, Contribution.condition?, Asks]
  | identity hname hcondition =>
    simp [hname, Contribution.condition?, Group.acceptsAs_identityCondition hcondition]
  | role hname =>
    obtain ⟨field, hfield, hresolution⟩ := Option.map_eq_some_iff.mp hname
    obtain rfl := hc.roles _ _ _ hfield hresolution
    simp [hname, Contribution.condition?, Group.acceptsAs_roleCondition c]
  | day hname hcondition => simp [hname, Contribution.condition?, Group.acceptsAs_dayCondition hc.offset hcondition]
  | invalid hname hfirst hdate => simp [hname, Contribution.condition?, Asks, hfirst, hdate]

/-- A group adds id sets if its field is one of metadata. -/
theorem ids_resolve {g : Group} {part : Contribution} (h : (c.resolve g).outcome = .ok part) {sets : IdSets}
    (hsets : part.ids? = some sets) : ∃ field key, c.catalog.get? g.field = some field ∧
      field.resolution = .metadata key ∧ (g.metadataIds c.index key).outcome = .ok sets := by
  cases resolvesTo_of_resolve h with
  | metadata hname hfound =>
    obtain ⟨field, hfield, hresolution⟩ := Option.map_eq_some_iff.mp hname
    cases hsets
    exact ⟨field, _, hfield, hresolution, hfound⟩
  | unknown | column | identity | role | day | invalid => cases hsets

theorem ids_of_metadata {g : Group} {part : Contribution} (h : (c.resolve g).outcome = .ok part) {field : Field}
    {key : String} (hfield : c.catalog.get? g.field = some field) (hresolution : field.resolution = .metadata key) :
    ∃ sets, part.ids? = some sets ∧ (g.metadataIds c.index key).outcome = .ok sets := by
  rw [resolve_eq, resolution_of_get hfield, hresolution] at h
  obtain ⟨sets, hsets, h⟩ := Traced.outcome_bind.mp h
  exact ⟨sets, by rw [← Traced.outcome_pure.mp h, Contribution.ids?], hsets⟩

/-- What groups were resolved to. -/
abbrev Resolves (c : Compiler) (groups : List Group) (parts : List Contribution) : Prop :=
  List.Forall₂ (fun g part => (c.resolve g).outcome = .ok part) groups parts

section
variable {terms : List Term} {parts : List Contribution}

theorem exists_part (h : c.Resolves (Group.ofTerms terms) parts) {name : String} (hname : name ∈ terms.map Term.field) :
    ∃ part ∈ parts, (c.resolve (Group.gathered terms name)).outcome = .ok part :=
  exists_right h ((Group.mem_ofTerms terms _).mpr ⟨hname, rfl⟩)

theorem mem_fields {name : String} {negated : Bool} (h : Term.valuesOf terms name negated ≠ []) :
    name ∈ terms.map Term.field := by
  obtain ⟨value, hvalue⟩ := List.exists_mem_of_ne_nil _ h
  exact List.mem_map.mpr ⟨_, Term.mem_valuesOf.mp hvalue, rfl⟩

theorem acceptsAs_parts (hc : c.IsSound) (h : c.Resolves (Group.ofTerms terms) parts) :
    (∀ condition ∈ parts.filterMap Contribution.condition?, condition.acceptsAs read e) ↔
      ∀ name field, c.catalog.get? name = some field →
        c.Asks read field.resolution (Term.valuesOf terms name false) (Term.valuesOf terms name true) e := by
  simp only [List.mem_filterMap, forall_exists_index, and_imp]
  constructor
  · intro haccepts name field hfield
    by_cases hname : name ∈ terms.map Term.field
    · obtain ⟨part, hpart, hresolve⟩ := exists_part h hname
      exact (acceptsAs_resolve hc hresolve).mp (fun condition hcondition => haccepts condition part hpart hcondition)
        field hfield
    · have hfresh := Group.gathered_fresh hname
      simp only [Group.gathered, Group.empty, Group.mk.injEq, true_and] at hfresh
      rw [hfresh.1, hfresh.2]
      exact asks_nothing c _ e
  · intro hasks condition part hpart hcondition
    obtain ⟨g, hg, hresolve⟩ := exists_left h hpart
    obtain ⟨_, hgathered⟩ := (Group.mem_ofTerms terms g).mp hg
    refine (acceptsAs_resolve hc hresolve).mpr (fun field hfield => ?_) condition hcondition
    have := hasks g.field field hfield
    rw [hgathered]
    exact this

/-- What holds of id sets holds of those of some group if it holds for the values of some metadata field. -/
theorem exists_ids_iff (h : c.Resolves (Group.ofTerms terms) parts) {p : IdSets → Prop}
    {q : String → List String → List String → Prop}
    (hpq : ∀ (g : Group) key sets, (g.metadataIds c.index key).outcome = .ok sets → (p sets ↔ q key g.included g.excluded))
    (hq : ∀ key, ¬q key [] []) :
    (∃ sets ∈ parts.filterMap Contribution.ids?, p sets) ↔ ∃ name field key, c.catalog.get? name = some field ∧
      field.resolution = .metadata key ∧ q key (Term.valuesOf terms name false) (Term.valuesOf terms name true) := by
  simp only [List.mem_filterMap]
  constructor
  · rintro ⟨sets, ⟨part, hpart, hsets⟩, hp⟩
    obtain ⟨g, hg, hresolve⟩ := exists_left h hpart
    obtain ⟨_, hgathered⟩ := (Group.mem_ofTerms terms g).mp hg
    obtain ⟨field, key, hfield, hresolution, hids⟩ := ids_resolve hresolve hsets
    refine ⟨g.field, field, key, hfield, hresolution, ?_⟩
    have := (hpq g key sets hids).mp hp
    rw [hgathered] at this
    exact this
  · rintro ⟨name, field, key, hfield, hresolution, hvalues⟩
    have hname : name ∈ terms.map Term.field := by
      by_contra hname
      have hnil (negated : Bool) : Term.valuesOf terms name negated = [] := by
        by_contra hne
        exact hname (mem_fields hne)
      rw [hnil, hnil] at hvalues
      exact hq key hvalues
    obtain ⟨part, hpart, hresolve⟩ := exists_part h hname
    obtain ⟨sets, hsets, hids⟩ := ids_of_metadata hresolve hfield hresolution
    exact ⟨sets, ⟨part, hpart, hsets⟩, (hpq _ key sets hids).mpr hvalues⟩

theorem found_metadata (h : c.Resolves (Group.ofTerms terms) parts) {name : String} {field : Field} {key : String}
    (hfield : c.catalog.get? name = some field) (hresolution : field.resolution = .metadata key) {negated : Bool}
    (hne : Term.valuesOf terms name negated ≠ []) :
    ∃ ids, c.index.find key (Term.valuesOf terms name negated) = .ok ids := by
  obtain ⟨part, _, hresolve⟩ := exists_part h (mem_fields hne)
  obtain ⟨sets, _, hsets⟩ := ids_of_metadata hresolve hfield hresolution
  exact Group.found_of_metadataIds hsets _ (by cases negated <;> simp [Group.gathered]) hne

theorem found_people (h : c.Resolves (Group.ofTerms terms) parts) {name : String} {field : Field} {attr : Attribute}
    {projections : List Projection} (hfield : c.catalog.get? name = some field)
    (hresolution : field.resolution = .identity attr projections) {negated : Bool}
    (hne : Term.valuesOf terms name negated ≠ []) :
    ∀ d ∈ c.directories, ∃ is, d.find attr (Term.valuesOf terms name negated) = .ok is := by
  obtain ⟨part, _, hresolve⟩ := exists_part h (mem_fields hne)
  have hgathered : c.catalog.get? (Group.gathered terms name).field = some field := hfield
  rw [resolve_eq, resolution_of_get hgathered, hresolution] at hresolve
  obtain ⟨condition, hcondition, -⟩ := Traced.outcome_bind.mp hresolve
  exact Group.found_of_identityCondition hcondition _ (by cases negated <;> simp [Group.gathered]) hne

theorem asksMetadata_iff (terms : List Term) (negated : Bool) :
    (∃ key values, c.AsksMetadata terms negated key values) ↔ ∃ name field key, c.catalog.get? name = some field ∧
      field.resolution = .metadata key ∧ Term.valuesOf terms name negated ≠ [] := by
  constructor
  · rintro ⟨key, values, name, field, hfield, hresolution, rfl, hvalues⟩
    exact ⟨name, field, key, hfield, hresolution, hvalues⟩
  · rintro ⟨name, field, key, hfield, hresolution, hvalues⟩
    exact ⟨key, _, name, field, hfield, hresolution, rfl, hvalues⟩

theorem findsMetadata_iff (terms : List Term) (negated : Bool) (id : Int64) :
    c.FindsMetadata terms negated id ↔ ∃ name field key, c.catalog.get? name = some field ∧
      field.resolution = .metadata key ∧ Term.valuesOf terms name negated ≠ [] ∧
        id ∈ answered (c.index.find key (Term.valuesOf terms name negated)) := by
  constructor
  · rintro ⟨key, values, ⟨name, field, hfield, hresolution, rfl, hvalues⟩, hid⟩
    exact ⟨name, field, key, hfield, hresolution, hvalues, hid⟩
  · rintro ⟨name, field, key, hfield, hresolution, hvalues, hid⟩
    exact ⟨key, _, ⟨name, field, hfield, hresolution, rfl, hvalues⟩, hid⟩

/-- The id sets of groups tell what is asked of metadata and found there. -/
theorem ids_iff (h : c.Resolves (Group.ofTerms terms) parts) :
    ((∃ sets ∈ parts.filterMap Contribution.ids?, sets.included.isSome) ↔ ∃ key values, c.AsksMetadata terms false key values) ∧
    (∀ id, (∃ sets ∈ parts.filterMap Contribution.ids?, sets.Includes id) ↔ c.FindsMetadata terms false id) ∧
    ∀ id, (∃ sets ∈ parts.filterMap Contribution.ids?, id ∈ sets.excluded) ↔ c.FindsMetadata terms true id := by
  refine ⟨?_, fun id => ?_, fun id => ?_⟩
  · rw [asksMetadata_iff]
    exact exists_ids_iff h (q := fun _ included _ => included ≠ [])
      (fun g key sets hids => (Group.outcome_metadataIds hids).1) (by simp)
  · rw [findsMetadata_iff]
    exact exists_ids_iff h (q := fun key included _ => included ≠ [] ∧ id ∈ answered (c.index.find key included))
      (fun g key sets hids => (Group.outcome_metadataIds hids).2.1 id) (by simp)
  · rw [findsMetadata_iff]
    exact exists_ids_iff h (q := fun key _ excluded => excluded ≠ [] ∧ id ∈ answered (c.index.find key excluded))
      (fun g key sets hids => (Group.outcome_metadataIds hids).2.2 id) (by simp)

end

theorem outcome_condition {raw : String} {condition : Condition} : (c.condition raw).outcome = .ok condition ↔
    ∃ parts, c.Resolves (Group.ofTerms (Term.ofSearch raw)) parts ∧ Contribution.assemble parts = condition := by
  simp only [Compiler.condition, conditionOfGroups, Traced.outcome_bind, Traced.outcome_mapM, Traced.outcome_pure]

/-- A search that is compiled accepts the events of which its meaning holds, in whatever way roles are read. -/
theorem acceptsAs_condition (hc : c.IsSound) {raw : String} {condition : Condition}
    (h : (c.condition raw).outcome = .ok condition) (read : Char → Char) (e : Event) :
    condition.acceptsAs read e ↔ c.Meaning read (Term.ofSearch raw) e := by
  obtain ⟨parts, hresolves, rfl⟩ := outcome_condition.mp h
  obtain ⟨hasks, hincludes, hexcludes⟩ := ids_iff hresolves
  rw [Contribution.acceptsAs_assemble, acceptsAs_parts hc hresolves, hasks, hincludes, hexcludes]
  constructor
  · rintro ⟨hfields, hincluded, hexcluded⟩
    exact ⟨hfields, hincluded, hexcluded⟩
  · intro hmeaning
    exact ⟨hmeaning.fields, hmeaning.included, hmeaning.excluded⟩

/-- A search that is compiled accepts the events of which its meaning holds. -/
theorem accepts_condition (hc : c.IsSound) {raw : String} {condition : Condition}
    (h : (c.condition raw).outcome = .ok condition) (e : Event) :
    condition.accepts e ↔ c.Meaning id (Term.ofSearch raw) e := by
  rw [← Condition.acceptsAs_id, acceptsAs_condition hc h]

/-- A compiler with a field of roles and one of metadata. -/
def small : Compiler :=
  ⟨Dictionary.ofList [("role", ⟨"role", .role Column.actorRoles.name⟩), ("title", ⟨"title", .metadata "PostTitle"⟩)],
    ⟨fun _ _ => .ok [7, 1]⟩, ⟨"staff", fun _ _ => .ok []⟩, none, false, 3600, ⟨.skip, .skip⟩⟩

theorem accepts_condition_small : small.IsSound ∧
    (small.condition "role:admin -title:draft other:x").outcome =
      .ok (.all [.hasRole "actor_roles" "admin", .notIn "id" [.integer 1, .integer 7]]) ∧
    ∀ e, (Condition.all [.hasRole "actor_roles" "admin", .notIn "id" [.integer 1, .integer 7]]).accepts e ↔
      small.Meaning id (Term.ofSearch "role:admin -title:draft other:x") e := by
  have hsound : small.IsSound := by
    refine ⟨fun name field column hfield hresolution => ?_, by decide⟩
    have hentries : small.catalog.entries = [("role", ⟨"role", .role Column.actorRoles.name⟩),
        ("title", ⟨"title", .metadata "PostTitle"⟩)] := by decide
    rw [Dictionary.get?, hentries, List.lookup, List.lookup] at hfield
    split at hfield
    · cases hfield
      exact (Resolution.role.inj hresolution).symm
    · split at hfield
      · cases hfield
        cases hresolution
      · cases hfield
  have hcondition : (small.condition "role:admin -title:draft other:x").outcome =
      .ok (.all [.hasRole "actor_roles" "admin", .notIn "id" [.integer 1, .integer 7]]) := by rfl
  exact ⟨hsound, hcondition, accepts_condition hsound hcondition⟩

end Compiler

end AuditSearch
