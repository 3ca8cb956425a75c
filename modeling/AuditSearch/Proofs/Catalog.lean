import AuditSearch.Catalog
import AuditSearch.Proofs.Condition.Tokens

/-!
The fields of the standard catalog: what each of its names stands for.
-/
namespace AuditSearch.Catalog

def metadataNames : List (String × String) :=
  [("post_title", "PostTitle"), ("post_name", "PostTitle"), ("post_status", "PostStatus"), ("post_type", "PostType"),
    ("post_id", "PostID")]

/-- The names of fields of people, with the attributes that they are looked up by. -/
def peopleNames : List (String × Attribute) :=
  [("user_id", .id), ("user_email", .email), ("user_first_name", .firstName), ("user_last_name", .lastName)]

def dayNames : List (String × DayBound) :=
  [("start_date", .start), ("end_date", .finish)]

/-- What each name of the standard catalog stands for. -/
def resolutions : List (String × Resolution) :=
  Column.all.map (fun column => (column.name, .column column.name column.type)) ++
    metadataNames.map (fun n => (n.1, .metadata n.2)) ++ peopleNames.map (fun n => (n.1, .identity n.2 actorProjections)) ++
    [("user_role", .role Column.actorRoles.name)] ++
    dayNames.map fun n => (n.1, .day Column.createdTimestamp.name n.2)

def standardFields : Catalog :=
  standard.toOption.getD .empty

theorem standard_eq : standard = .ok standardFields := by
  rfl

theorem entries_standard : ∀ c ∈ standard.toOption, (∀ entry ∈ c.entries, (entry.1, entry.2.resolution) ∈ resolutions) ∧
    ∀ entry ∈ resolutions, (c.get? entry.1).map Field.resolution = some entry.2 := by
  decide +kernel

/-- A name stands for what the list of resolutions says. -/
theorem get_standard {c : Catalog} (h : standard = .ok c) (name : String) (r : Resolution) :
    (∃ field, c.get? name = some field ∧ field.resolution = r) ↔ (name, r) ∈ resolutions := by
  obtain ⟨hentries, hresolutions⟩ := entries_standard c (by rw [h]; rfl)
  constructor
  · rintro ⟨field, hfield, rfl⟩
    obtain ⟨before, behind, hsplit, -⟩ := List.lookup_eq_some_iff.mp hfield
    exact hentries (name, field) (by simp [hsplit])
  · intro hmem
    obtain ⟨field, hfield, hr⟩ := Option.map_eq_some_iff.mp (hresolutions _ hmem)
    exact ⟨field, hfield, hr⟩

theorem forall_standard {c : Catalog} (h : standard = .ok c) {p : String → Resolution → Prop} :
    (∀ name field, c.get? name = some field → p name field.resolution) ↔
      (∀ column : Column, p column.name (.column column.name column.type)) ∧
        (∀ n ∈ metadataNames, p n.1 (.metadata n.2)) ∧ (∀ n ∈ peopleNames, p n.1 (.identity n.2 actorProjections)) ∧
        p "user_role" (.role Column.actorRoles.name) ∧
        ∀ n ∈ dayNames, p n.1 (.day Column.createdTimestamp.name n.2) := by
  have hresolutions : (∀ name field, c.get? name = some field → p name field.resolution) ↔
      ∀ entry ∈ resolutions, p entry.1 entry.2 := by
    constructor
    · intro hp entry hentry
      obtain ⟨field, hfield, hr⟩ := (get_standard h entry.1 entry.2).mpr hentry
      exact hr ▸ hp entry.1 field hfield
    · exact fun hp name field hfield => hp _ ((get_standard h name _).mp ⟨field, hfield, rfl⟩)
  have hcolumns : (∀ column ∈ Column.all, p column.name (.column column.name column.type)) ↔
      ∀ column : Column, p column.name (.column column.name column.type) :=
    forall_congr' fun column => by simp [Column.mem_all]
  rw [hresolutions]
  simp only [resolutions, List.forall_mem_append, List.forall_mem_map, List.forall_mem_singleton, hcolumns, and_assoc]

theorem get_metadata {c : Catalog} (h : standard = .ok c) {n : String × String} (hn : n ∈ metadataNames) :
    ∃ field, c.get? n.1 = some field ∧ field.resolution = .metadata n.2 := by
  refine (get_standard h n.1 _).mpr ?_
  simp only [resolutions, List.mem_append, List.mem_map]
  exact .inl (.inl (.inl (.inr ⟨n, hn, rfl⟩)))

theorem get_people {c : Catalog} (h : standard = .ok c) {n : String × Attribute} (hn : n ∈ peopleNames) :
    ∃ field, c.get? n.1 = some field ∧ field.resolution = .identity n.2 actorProjections := by
  refine (get_standard h n.1 _).mpr ?_
  simp only [resolutions, List.mem_append, List.mem_map]
  exact .inl (.inl (.inr ⟨n, hn, rfl⟩))

theorem get_day {c : Catalog} (h : standard = .ok c) {n : String × DayBound} (hn : n ∈ dayNames) :
    ∃ field, c.get? n.1 = some field ∧ field.resolution = .day Column.createdTimestamp.name n.2 := by
  refine (get_standard h n.1 _).mpr ?_
  simp only [resolutions, List.mem_append, List.mem_map]
  exact .inr ⟨n, hn, rfl⟩

/-- The fields of metadata in the standard catalog. -/
theorem exists_metadata {c : Catalog} (h : standard = .ok c) {p : String → String → Prop} :
    (∃ name field key, c.get? name = some field ∧ field.resolution = .metadata key ∧ p name key) ↔
      ∃ n ∈ metadataNames, p n.1 n.2 := by
  constructor
  · rintro ⟨name, field, key, hfield, hresolution, hp⟩
    have hmem := (get_standard h name _).mp ⟨field, hfield, hresolution⟩
    simp only [resolutions, List.mem_append, List.mem_map, List.mem_singleton, Prod.mk.injEq, reduceCtorEq, and_false,
      exists_false, or_false, false_or, Resolution.metadata.injEq] at hmem
    obtain ⟨n, hn, rfl, rfl⟩ := hmem
    exact ⟨n, hn, hp⟩
  · rintro ⟨n, hn, hp⟩
    obtain ⟨field, hfield, hresolution⟩ := get_metadata h hn
    exact ⟨n.1, field, n.2, hfield, hresolution, hp⟩

end AuditSearch.Catalog
