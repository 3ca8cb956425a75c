import AuditSearch.Proofs.Condition.Params
import AuditSearch.Proofs.Search.Directories
import AuditSearch.Proofs.Search.Growth

/-!
How many parameters the clause of a search has. Each field adds few lists of values, and a list has few parameters; only
roles are tested one by one.
-/
namespace AuditSearch

open Condition

/-! ### Budgets of fields -/

/-- What one list of people weighs at most in a column: ids are no parameters. -/
def Projection.budget (p : Projection) : Nat :=
  if p.attr = .id then 0 else maxBoundTexts

def Resolution.budget (included excluded : List String) : Resolution → Nat
  | column _ _ => 2 * maxBoundTexts
  | metadata _ => 0
  | identity _ projections => 2 * (projections.map Projection.budget).sum
  | role _ => included.length + excluded.length
  | day _ _ => 1

/-- A name weighs what the field weighs that it stands for. -/
def Compiler.budget (c : Compiler) (name : String) (included excluded : List String) : Nat :=
  (c.resolution? name).elim 0 (Resolution.budget included excluded)

/-- The values of a group, and the people found for them, get into conditions as literals of some kind. -/
structure Compiler.Yields (c : Compiler) (fits : Literal → Prop) (g : Group) : Prop where
  values : ∀ type, ∀ s ∈ g.included ++ g.excluded, fits (Group.literal type s)
  people : ∀ attr projections, c.resolution? g.field = some (.identity attr projections) →
    ∀ values ∈ g.asked, ∀ i ∈ Directory.found c.directories attr values,
      ∀ p ∈ projections, p.attr ≠ .id → fits (i.value p.attr)

section
variable {m : Condition → Nat} {fits : Literal → Prop} (hm : IsBudgeted m fits)
include hm

namespace Group

theorem weight_columnCondition_le (g : Group) (name : String) (type : ColumnType)
    (h : ∀ s ∈ g.included ++ g.excluded, fits (literal type s)) :
    (g.columnCondition name type).weight m ≤ 2 * maxBoundTexts := by
  obtain ⟨hincluded, hexcluded⟩ := List.forall_mem_append.mp h
  have hin := (weight_mkIn_le hm.always hm.never name _).trans (hm.isIn name _ (List.forall_mem_map.mpr hincluded))
  have hnotIn := weight_mkNullOrNotIn_le hm.always hm.never name (g.excluded.map (literal type))
  have hlist := hm.notIn name _ (List.forall_mem_map.mpr hexcluded)
  have hnull := hm.isNull name
  unfold columnCondition
  refine (weight_mkAll_le hm.always hm.never _).trans ?_
  split <;> split <;> simp <;> omega

theorem weight_roleCondition_le (g : Group) (column : String) :
    (g.roleCondition column).weight m ≤ g.included.length + g.excluded.length := by
  have hrole (role : String) : (mkHasRole column role).weight m ≤ 1 :=
    (weight_mkHasRole_le hm.always hm.never column role).trans (hm.hasRole column role)
  have hsum {conditions : List Condition} (h : ∀ condition ∈ conditions, condition.weight m ≤ 1) :
      (conditions.map (weight m)).sum ≤ conditions.length := by
    simpa using List.sum_le_card_nsmul (conditions.map (weight m)) 1 (List.forall_mem_map.mpr h)
  have hany := (weight_mkAny_le hm.always hm.never (g.included.map (mkHasRole column))).trans
    (hsum (List.forall_mem_map.mpr fun role _ => hrole role))
  have hall := (weight_mkAll_le hm.always hm.never (g.excluded.map fun role => mkNot (mkHasRole column role))).trans
    (hsum (List.forall_mem_map.mpr fun role _ => (weight_mkNot_le hm.always hm.never _).trans (hrole role)))
  rw [List.length_map] at hany hall
  unfold roleCondition
  split
  · exact hall.trans (Nat.le_add_left _ _)
  · refine (weight_mkAll_le hm.always hm.never _).trans ?_
    simp only [List.map_cons, List.map_nil, List.sum_cons, List.sum_nil]
    omega

theorem weight_dayCondition_le {g : Group} {name : String} {bound : DayBound} {offset : Int} {condition : Condition}
    (h : g.dayCondition name bound offset = .ok condition) : condition.weight m ≤ 1 := by
  obtain ⟨-, rfl⟩ | ⟨_, _, _, -, -, rfl⟩ := dayCondition_ok h
  · rw [weight_of_isTest rfl, hm.always]
    exact Nat.zero_le _
  · rw [weight_of_isTest rfl]
    exact hm.compare _ _ _

section
variable {projections : List Projection} {is : List Identity}
  (h : ∀ i ∈ is, ∀ p ∈ projections, p.attr ≠ .id → fits (i.value p.attr))
include h

theorem list_le_budget {p : Projection} (hp : p ∈ projections) :
    m (isIn p.column (p.values is)) ≤ p.budget ∧ m (notIn p.column (p.values is)) ≤ p.budget := by
  unfold Projection.budget
  split
  · rename_i hid
    have hintegers : ∀ v ∈ p.values is, ∃ n, v = .integer n := by
      intro v hv
      obtain ⟨i, -, rfl⟩ := (p.mem_values is v).mp hv
      exact ⟨i.id, by rw [hid, Identity.value]⟩
    exact ⟨(hm.isIn_integers _ _ hintegers).le, (hm.notIn_integers _ _ hintegers).le⟩
  · rename_i hid
    have hfits : ∀ v ∈ p.values is, fits v := by
      intro v hv
      obtain ⟨i, hi, rfl⟩ := (p.mem_values is v).mp hv
      exact h i hi p hp hid
    exact ⟨hm.isIn _ _ hfits, hm.notIn _ _ hfits⟩

theorem weight_anyOf_le : (Projection.anyOf projections is).weight m ≤ (projections.map Projection.budget).sum := by
  unfold Projection.anyOf
  refine (weight_mkAny_le hm.always hm.never _).trans ?_
  rw [List.map_map]
  exact List.sum_le_sum fun p hp => (weight_mkIn_le hm.always hm.never _ _).trans (list_le_budget hm h hp).1

theorem weight_noneOf_le : (Projection.noneOf projections is).weight m ≤ (projections.map Projection.budget).sum := by
  unfold Projection.noneOf
  refine (weight_mkAll_le hm.always hm.never _).trans ?_
  rw [List.map_map]
  refine List.sum_le_sum fun p hp => (weight_mkNullOrNotIn_le hm.always hm.never _ _).trans ?_
  rw [hm.isNull, Nat.zero_add]
  exact (list_le_budget hm h hp).2

end

theorem weight_identityCondition_le {g : Group} {ds : List Directory} {attr : Attribute} {projections : List Projection}
    {condition : Condition} (h : (g.identityCondition ds attr projections).outcome = .ok condition)
    (hfound : ∀ values ∈ g.asked, ∀ i ∈ Directory.found ds attr values,
      ∀ p ∈ projections, p.attr ≠ .id → fits (i.value p.attr)) :
    condition.weight m ≤ 2 * (projections.map Projection.budget).sum := by
  have hanswered := (isAnswered_iff projections).mpr ⟨condition, h⟩
  obtain rfl := Except.ok.inj (h.symm.trans (outcome_of_isAnswered hanswered projections))
  have hpeople {values : List String} (hvalues : values ∈ g.asked) :
      ∀ i ∈ Directory.merged ds attr values, ∀ p ∈ projections, p.attr ≠ .id → fits (i.value p.attr) :=
    fun i hi => hfound values hvalues i (eraseDupsBy_subset _ hi)
  refine (weight_mkAll_le hm.always hm.never _).trans ?_
  rw [List.map_append, List.sum_append, two_mul]
  refine Nat.add_le_add ?_ ?_
  · split
    · exact Nat.zero_le _
    · rename_i hne
      rw [List.map_singleton, List.sum_singleton]
      exact weight_anyOf_le hm (hpeople (mem_asked.mpr ⟨by simp, by simpa using hne⟩))
  · split
    · exact Nat.zero_le _
    · rename_i hne
      rw [List.map_singleton, List.sum_singleton]
      exact weight_noneOf_le hm (hpeople (mem_asked.mpr ⟨by simp, by simpa using hne⟩))

end Group

/-- Ids of events are no parameters. -/
theorem IdSets.weight_toCondition (s : IdSets) : s.toCondition.weight m = 0 := by
  have hintegers (ids : IdSet) : ∀ v ∈ literals ids, ∃ n, v = .integer n := by
    unfold literals
    exact List.forall_mem_map.mpr fun id _ => ⟨id, rfl⟩
  have hincluded (ids : IdSet) : (mkIn Column.id.name (literals ids)).weight m = 0 := by
    have hle := weight_mkIn_le hm.always hm.never Column.id.name (literals ids)
    rw [hm.isIn_integers _ _ (hintegers ids)] at hle
    omega
  have hexcluded : (mkNotIn Column.id.name (literals s.excluded)).weight m = 0 := by
    have hle := weight_mkNotIn_le hm.always hm.never Column.id.name (literals s.excluded)
    rw [hm.notIn_integers _ _ (hintegers s.excluded)] at hle
    omega
  refine Nat.eq_zero_of_le_zero ((weight_mkAll_le hm.always hm.never _).trans ?_)
  cases s.included with
  | none => simp [hexcluded, weight_of_isTest (rfl : always.isTest), hm.always]
  | some ids => simp [hexcluded, hincluded]

/-! ### Searches -/

namespace Compiler

variable {c : Compiler}

/-- What a group adds to a search weighs no more than its field may. -/
theorem weight_resolve_le {g : Group} {part : Contribution} (h : (c.resolve g).outcome = .ok part)
    (hg : c.Yields fits g) : part.condition?.elim 0 (weight m) ≤ c.budget g.field g.included g.excluded := by
  unfold budget
  cases resolvesTo_of_resolve h with
  | unknown | metadata | invalid => exact Nat.zero_le _
  | column hname =>
    rw [hname]
    exact g.weight_columnCondition_le hm _ _ (hg.values _)
  | identity hname hcondition =>
    rw [hname]
    exact Group.weight_identityCondition_le hm hcondition (hg.people _ _ hname)
  | role hname =>
    rw [hname]
    exact g.weight_roleCondition_le hm _
  | day hname hcondition =>
    rw [hname]
    exact Group.weight_dayCondition_le hm hcondition

theorem weight_parts_le {groups : List Group} {parts : List Contribution} (h : c.Resolves groups parts)
    (hgroups : ∀ g ∈ groups, c.Yields fits g) : ((parts.filterMap Contribution.condition?).map (weight m)).sum ≤
      (groups.map fun g => c.budget g.field g.included g.excluded).sum := by
  induction h with
  | nil => exact Nat.zero_le _
  | @cons g part groups parts hpart _ ih =>
    obtain ⟨hg, hgroups⟩ := List.forall_mem_cons.mp hgroups
    have hle := weight_resolve_le hm hpart hg
    have hmore := ih hgroups
    rw [List.map_cons, List.sum_cons]
    cases hcondition : part.condition? with
    | none =>
      rw [List.filterMap_cons_none hcondition]
      omega
    | some condition =>
      rw [hcondition, Option.elim_some] at hle
      rw [List.filterMap_cons_some hcondition, List.map_cons, List.sum_cons]
      omega

end Compiler

end

/-- How many different roles terms ask for, and how many they rule out. -/
def Term.roleCount (terms : List Term) : Nat :=
  (valuesOf terms "user_role" false).length + (valuesOf terms "user_role" true).length

namespace Compiler

variable {c : Compiler}

/-- Different names weigh no more than all names of the standard catalog. -/
theorem sum_budget_le (hstandard : Catalog.standard = .ok c.catalog) {names : List String} (hnames : names.Nodup)
    (included excluded : String → List String) :
    (names.map fun name => c.budget name (included name) (excluded name)).sum ≤
      (Catalog.resolutions.map fun n => n.2.budget (included n.1) (excluded n.1)).sum := by
  let known := names.filterMap fun name => (c.resolution? name).map fun r => (name, r)
  have hsum : (names.map fun name => c.budget name (included name) (excluded name)).sum =
      (known.map fun n => n.2.budget (included n.1) (excluded n.1)).sum := by
    clear hnames
    induction names with
    | nil => rfl
    | cons name names ih =>
      rw [List.map_cons, List.sum_cons, ih]
      cases hname : c.resolution? name <;> simp [known, budget, hname]
  have hnodup : known.Nodup := by
    refine hnames.filterMap fun name name' n hn hn' => ?_
    obtain ⟨r, -, rfl⟩ := Option.map_eq_some_iff.mp hn
    obtain ⟨r', -, hn'⟩ := Option.map_eq_some_iff.mp hn'
    exact (congrArg Prod.fst hn').symm
  have hsubset : known ⊆ Catalog.resolutions := by
    intro n hn
    obtain ⟨name, -, hn⟩ := List.mem_filterMap.mp hn
    obtain ⟨r, hr, rfl⟩ := Option.map_eq_some_iff.mp hn
    exact (Catalog.get_standard hstandard name r).mp (Option.map_eq_some_iff.mp hr)
  obtain ⟨among, hperm, hsublist⟩ := List.subperm_of_subset hnodup hsubset
  rw [hsum, ← (hperm.map _).sum_eq]
  exact (hsublist.map _).sum_le_sum fun _ _ => Nat.zero_le _

theorem sum_resolutions (terms : List Term) :
    (Catalog.resolutions.map fun n => n.2.budget (Term.valuesOf terms n.1 false) (Term.valuesOf terms n.1 true)).sum =
      34 * 256 + 2 + Term.roleCount terms := by
  have hpeople : (Catalog.actorProjections.map Projection.budget).sum = maxBoundTexts := by rfl
  have hcounts : Column.all.length = 13 ∧ Catalog.peopleNames.length = 4 ∧ Catalog.dayNames.length = 2 := by decide
  simp only [Catalog.resolutions, List.map_append, List.map_map, Function.comp_def, List.sum_append, Resolution.budget,
    hpeople, List.map_const', List.sum_replicate, smul_eq_mul, hcounts, List.map_singleton, List.sum_singleton,
    maxBoundTexts, Term.roleCount]
  omega

theorem weight_condition_le {m : Condition → Nat} {fits : Literal → Prop} (hm : IsBudgeted m fits)
    (hstandard : Catalog.standard = .ok c.catalog) {raw : String} {condition : Condition}
    (h : (c.condition raw).outcome = .ok condition) (hyields : ∀ g ∈ Group.ofTerms (Term.ofSearch raw), c.Yields fits g) :
    condition.weight m ≤ 34 * 256 + 2 + Term.roleCount (Term.ofSearch raw) := by
  obtain ⟨parts, hresolves, rfl⟩ := outcome_condition.mp h
  have hparts := weight_parts_le hm hresolves hyields
  have hgroups := sum_budget_le hstandard (nodup_eraseDups ((Term.ofSearch raw).map Term.field))
    (fun name => Term.valuesOf (Term.ofSearch raw) name false) fun name => Term.valuesOf (Term.ofSearch raw) name true
  rw [Group.ofTerms_eq, List.map_map] at hparts
  calc (Contribution.assemble parts).weight m
      ≤ ((parts.filterMap Contribution.condition?).map (weight m)).sum := by
        refine (weight_mkAll_le hm.always hm.never _).trans ?_
        rw [List.map_append, List.sum_append, List.map_singleton, List.sum_singleton, IdSets.weight_toCondition hm,
          Nat.add_zero]
    _ ≤ _ := hparts
    _ ≤ _ := hgroups
    _ = _ := sum_resolutions _

theorem outcome_compile {raw : String} {condition : Condition} : (c.compile raw).outcome = .ok (.condition condition) ↔
    raw.toList.contains ':' ∧ (c.condition raw).outcome = .ok condition := by
  unfold compile
  split
  · rename_i hcolon
    simp only [Traced.outcome_bind, Traced.outcome_pure, Compiled.condition.injEq, exists_eq_right, hcolon, true_and]
  · rename_i hcolon
    refine iff_of_false ?_ fun h => hcolon h.1
    rintro ⟨⟩

/-- The people that are found for values of a search have logins without null characters. -/
def HasNulFreeLogins (c : Compiler) (terms : List Term) : Prop :=
  ∀ attr name negated, Term.valuesOf terms name negated ≠ [] →
    ∀ i ∈ Directory.found c.directories attr (Term.valuesOf terms name negated), Text.IsNulFree i.login

/-- Values and logins without null characters get into conditions as literals that can be quoted. -/
theorem yields_quotable (hstandard : Catalog.standard = .ok c.catalog) {raw : String} (hraw : Text.IsNulFree raw)
    (hlogins : c.HasNulFreeLogins (Term.ofSearch raw)) :
    ∀ g ∈ Group.ofTerms (Term.ofSearch raw), c.Yields (fun v => ¬isUnquotable v) g := by
  intro g hg
  obtain ⟨-, hgathered⟩ := (Group.mem_ofTerms _ g).mp hg
  have hvalue {negated : Bool} {s : String} (hs : s ∈ Term.valuesOf (Term.ofSearch raw) g.field negated) :
      Text.IsNulFree s :=
    fun d hd => hraw d ((Term.mem_ofSearch (Term.mem_valuesOf.mp hs)).2 hd)
  constructor
  · intro type s hs
    have hnul : Text.IsNulFree s := by
      rw [hgathered] at hs
      rcases List.mem_append.mp hs with hs | hs <;> exact hvalue hs
    cases type with
    | integer => cases h : Text.int64? s <;> simp [Group.literal, h, isUnquotable, isQuotable_iff.mpr hnul]
    | text | roleList => exact not_isUnquotable_text hnul
  · intro attr projections hname values hvalues i hi p hp hid
    obtain ⟨field, hfield, hresolution⟩ := Option.map_eq_some_iff.mp hname
    obtain rfl : projections = Catalog.actorProjections := by
      have := Catalog.isStandard_of_get hstandard hfield
      rwa [hresolution] at this
    have hlogin : p.attr = .login := by
      simp only [Catalog.actorProjections, List.mem_cons, List.not_mem_nil, or_false] at hp
      rcases hp with rfl | rfl
      · exact absurd rfl hid
      · rfl
    rw [hlogin]
    refine not_isUnquotable_text ?_
    obtain ⟨hsign, hne⟩ := Group.mem_asked.mp hvalues
    rw [hgathered] at hsign
    simp only [Group.gathered, List.mem_cons, List.not_mem_nil, or_false] at hsign
    rcases hsign with rfl | rfl <;> exact hlogins attr _ _ hne i hi

/-- The clause of a search over the standard catalog has few parameters besides those of its roles: at most as many as 34
short lists and two bounds have, and the texts of long lists that cannot be quoted. If there are none of these and not too
many roles, the database takes them all. -/
theorem params_le (hstandard : Catalog.standard = .ok c.catalog) {raw : String} {condition : Condition}
    (h : (c.compile raw).outcome = .ok (.condition condition)) :
    condition.toFilter.params.length ≤
      34 * 256 + 2 + Term.roleCount (Term.ofSearch raw) + condition.weight unquotedTexts ∧
    (Text.IsNulFree raw → c.HasNulFreeLogins (Term.ofSearch raw) → Term.roleCount (Term.ofSearch raw) < 24000 →
      condition.toFilter.params.length < Sql.ParamNames.maxCount) := by
  have hcondition := (outcome_compile.mp h).2
  constructor
  · have hquoted := weight_condition_le isBudgeted_quoted hstandard hcondition fun g _ =>
      ⟨fun _ _ _ => trivial, fun _ _ _ _ _ _ _ _ _ _ => trivial⟩
    exact (paramCount_le_add condition).trans (Nat.add_le_add_right hquoted _)
  · intro hraw hlogins hroles
    have hweight := weight_condition_le isBudgeted_paramCount hstandard hcondition
      (yields_quotable hstandard hraw hlogins)
    rw [← paramCount_eq_weight, paramCount] at hweight
    unfold Sql.ParamNames.maxCount
    omega

theorem params_le_tagged :
    let condition := Condition.all [.hasRole "actor_roles" "ops", .not (.hasRole "actor_roles" "dev"),
      .any [.isIn "actor_id" [.integer 7], .isIn "actor_login" [.text "mo"]]]
    (tagged.compile "user_role:ops user_id:7 -user_role:dev").outcome = .ok (.condition condition) ∧
    condition.toFilter.params = [.text "%,ops,%", .text "%,dev,%", .text "mo"] ∧
    condition.toFilter.params.length < Sql.ParamNames.maxCount := by
  intro condition
  have hterms : Term.ofSearch "user_role:ops user_id:7 -user_role:dev" =
      [⟨"user_role", false, "ops"⟩, ⟨"user_id", false, "7"⟩, ⟨"user_role", true, "dev"⟩] := by
    decide +kernel
  have hgroups : Group.ofTerms [⟨"user_role", false, "ops"⟩, ⟨"user_id", false, "7"⟩, ⟨"user_role", true, "dev"⟩] =
      [⟨"user_role", ["ops"], ["dev"]⟩, ⟨"user_id", ["7"], []⟩] := by
    decide +kernel
  have hcompile : (tagged.compile "user_role:ops user_id:7 -user_role:dev").outcome = .ok (.condition condition) := by
    refine outcome_compile.mpr ⟨by decide, ?_⟩
    rw [Compiler.condition, hterms, hgroups]
    rfl
  have hlogins : tagged.HasNulFreeLogins (Term.ofSearch "user_role:ops user_id:7 -user_role:dev") := by
    intro attr name negated _ i hi
    obtain ⟨d, hd, hi⟩ := Directory.mem_found.mp hi
    obtain rfl := List.mem_singleton.mp hd
    obtain ⟨_, -, hi⟩ := List.mem_flatMap.mp hi
    obtain rfl := List.mem_singleton.mp hi
    exact (by decide : Text.IsNulFree "mo")
  exact ⟨hcompile, by rfl, (params_le Catalog.standard_eq hcompile).2 (by decide) hlogins (by rw [hterms]; decide)⟩

end Compiler

end AuditSearch
