import AuditSearch.Proofs.Condition.Complement
import AuditSearch.Proofs.EventLog.Enrollment
import AuditSearch.Proofs.EventLog.Meaning

/-!
Searches for some values of a field, and those with all of them negated: over any log that came of a run every event is
found by one of the two. The two sides are built in different ways for each kind of field.
-/
namespace AuditSearch

open Condition

variable {e : Event}

/-! ### Groups -/

namespace Condition

theorem denies_mkAll_singleton {c d : Condition} : Denies e (mkAll [c]) (mkAll [d]) ↔ Denies e c d := by
  simp [Denies, isTrueOf_mkAll]

end Condition

namespace Group

theorem denies_columnCondition (e : Event) (name : String) (column : Column) {values : List String} (h : values ≠ []) :
    Denies e ((⟨name, values, []⟩ : Group).columnCondition column.name column.type)
      ((⟨name, [], values⟩ : Group).columnCondition column.name column.type) := by
  have hplain : (⟨name, values, []⟩ : Group).columnCondition column.name column.type =
      mkAll [mkIn column.name (values.map (literal column.type))] := by simp [columnCondition, h]
  have hnegated : (⟨name, [], values⟩ : Group).columnCondition column.name column.type =
      mkAll [mkNullOrNotIn column.name (values.map (literal column.type))] := by simp [columnCondition, h]
  rw [hplain, hnegated, denies_mkAll_singleton]
  exact denies_mkNullOrNotIn column _

theorem denies_roleCondition (e : Event) (name : String) {values : List String} (h : values ≠ []) :
    Denies e ((⟨name, values, []⟩ : Group).roleCondition Column.actorRoles.name)
      ((⟨name, [], values⟩ : Group).roleCondition Column.actorRoles.name) := by
  have hplain : (⟨name, values, []⟩ : Group).roleCondition Column.actorRoles.name =
      mkAll [mkAny (values.map (mkHasRole Column.actorRoles.name)), mkAll []] := by simp [roleCondition, h]
  have hnegated : (⟨name, [], values⟩ : Group).roleCondition Column.actorRoles.name =
      mkAll (values.map fun role => mkNot (mkHasRole Column.actorRoles.name role)) := by simp [roleCondition]
  have hroles := denies_mkAny fun role (_ : role ∈ values) => denies_mkHasRole e role
  have hplainTrue : (mkAll [mkAny (values.map (mkHasRole Column.actorRoles.name)), mkAll []]).IsTrueOf e ↔
      (mkAny (values.map (mkHasRole Column.actorRoles.name))).IsTrueOf e := by simp [isTrueOf_mkAll]
  rw [hplain, hnegated, Denies, hplainTrue]
  exact hroles

theorem denies_noneOf (e : Event) (is : List Identity) : Denies e (Projection.anyOf Catalog.actorProjections is)
    (Projection.noneOf Catalog.actorProjections is) := by
  refine denies_mkAny fun p hp => ?_
  simp only [Catalog.actorProjections, List.mem_cons, List.not_mem_nil, or_false] at hp
  obtain rfl | rfl := hp
  · exact denies_mkNullOrNotIn .actorId _
  · exact denies_mkNullOrNotIn .actorLogin _

/-- People who are found make two conditions that deny each other. -/
theorem denies_identityCondition {directories : List Directory} {attr : Attribute} (name : String) {values : List String}
    (h : values ≠ []) (hfound : ∀ d ∈ directories, ∃ is, d.find attr values = .ok is) :
    ∃ c d, ((⟨name, values, []⟩ : Group).identityCondition directories attr Catalog.actorProjections).outcome = .ok c ∧
      ((⟨name, [], values⟩ : Group).identityCondition directories attr Catalog.actorProjections).outcome = .ok d ∧
      ∀ e, Denies e c d := by
  obtain ⟨is, his⟩ := Directory.exists_askAll hfound
  refine ⟨mkAll [Projection.anyOf Catalog.actorProjections is], mkAll [Projection.noneOf Catalog.actorProjections is],
    ?_, ?_, fun e => denies_mkAll_singleton.mpr (denies_noneOf e is)⟩
  · exact outcome_identityCondition_iff.mpr ⟨_, _, .inr ⟨h, is, his, rfl⟩, .inl ⟨rfl, rfl⟩, rfl⟩
  · exact outcome_identityCondition_iff.mpr ⟨_, _, .inl ⟨rfl, rfl⟩, .inr ⟨h, is, his, rfl⟩, rfl⟩

/-- Events that are found make two sets of ids, one of those that may be there and one of those that may not. -/
theorem outcome_metadataIds_of_found {index : MetadataIndex} {key : String} (name : String) {values : List String}
    (h : values ≠ []) {ids : List Int64} (hids : index.find key values = .ok ids) :
    ((⟨name, values, []⟩ : Group).metadataIds index key).outcome = .ok ⟨some (.ofList ids), .empty⟩ ∧
      ((⟨name, [], values⟩ : Group).metadataIds index key).outcome = .ok ⟨none, .ofList ids⟩ := by
  constructor
  · exact outcome_metadataIds_iff.mpr ⟨.inr ⟨h, ids, hids, rfl⟩, .inl ⟨rfl, rfl⟩⟩
  · exact outcome_metadataIds_iff.mpr ⟨.inl ⟨rfl, rfl⟩, .inr ⟨h, ids, hids, rfl⟩⟩

end Group

namespace Contribution

theorem denies_assemble_condition {c d : Condition} (h : Denies e c d) :
    Denies e (assemble [.condition c]) (assemble [.condition d]) := by
  have hassemble (c : Condition) : (assemble [.condition c]).IsTrueOf e ↔ c.IsTrueOf e := by
    have hparts : assemble [.condition c] = mkAll [c, .always] := rfl
    rw [hparts, isTrueOf_mkAll]
    simp [IsTrueOf, truthBy, storedTruth]
  rw [Denies, hassemble, hassemble]
  exact h

/-- The id of an event is never null, so it is in a set or not. -/
theorem denies_assemble_ids (e : Event) (ids : IdSet) :
    Denies e (assemble [.ids ⟨some ids, .empty⟩]) (assemble [.ids ⟨none, ids⟩]) := by
  have hplain : assemble [.ids ⟨some ids, .empty⟩] = mkAll [mkAll [mkIn Column.id.name (IdSets.literals ids), .always]] := rfl
  have hnegated : assemble [.ids ⟨none, ids⟩] =
      mkAll [mkAll [.always, mkNotIn Column.id.name (IdSets.literals (IdSet.empty.union ids))]] := rfl
  have halways : Condition.always.IsTrueOf e := by simp [IsTrueOf, truthBy, storedTruth]
  rw [hplain, hnegated, IdSet.empty_union, denies_mkAll_singleton, Denies, isTrueOf_mkAll, isTrueOf_mkAll]
  simp only [List.forall_mem_cons, List.not_mem_nil, false_implies, implies_true, halways, and_true, true_and]
  exact denies_mkNotIn rfl _

end Contribution

namespace EventLog

/-- What is looked up for some values of a field stays within the limits of the database. -/
def LooksUpWithinLimits (resolution : Resolution) (values : List String) : Prop :=
  match resolution with
  | .metadata _ => values.length ≤ maxPatterns ∧
      ∀ v ∈ values, (containing (Text.lower v)).utf8ByteSize ≤ Sql.Value.maxPatternBytes
  | .identity attr _ => lookupSize attr values ≤ Sql.ParamNames.maxCount
  | .column _ _ | .role _ | .day _ _ => True

end EventLog

namespace Compiler

variable {c : Compiler} {log : EventLog}

/-- Values of a field that is none of days are resolved with either sign, to conditions that deny each other. -/
theorem exists_denial (hc : c.IsOver log) {name : String} {field : Field} (hfield : c.catalog.get? name = some field)
    (hkind : field.resolution.kind ≠ .day) {values : List String} (hne : values ≠ [])
    (hlimits : EventLog.LooksUpWithinLimits field.resolution values) :
    ∃ part part', (c.resolve ⟨name, values, []⟩).outcome = .ok part ∧ (c.resolve ⟨name, [], values⟩).outcome = .ok part' ∧
      ∀ e, Denies e (Contribution.assemble [part]) (Contribution.assemble [part']) := by
  have hstandard := Catalog.isStandard_of_get hc.standard hfield
  have hresolution := resolution_of_get hfield
  rw [resolve_eq, resolve_eq, hresolution]
  generalize field.resolution = resolution at *
  cases resolution with
  | column name' type =>
    obtain ⟨column, -, rfl, rfl⟩ := hstandard
    exact ⟨_, _, rfl, rfl, fun e => Contribution.denies_assemble_condition (Group.denies_columnCondition e name column hne)⟩
  | role column =>
    obtain rfl : column = Column.actorRoles.name := hstandard
    exact ⟨_, _, rfl, rfl, fun e => Contribution.denies_assemble_condition (Group.denies_roleCondition e name hne)⟩
  | identity attr projections =>
    obtain rfl : projections = Catalog.actorProjections := hstandard
    have hfound : ∀ d ∈ c.directories, ∃ is, d.find attr values = .ok is := by
      rw [hc.directories, List.forall_mem_singleton]
      obtain ⟨test, hfound⟩ := log.findIdentities_eq_ok hlimits
      exact ⟨_, hfound⟩
    obtain ⟨p, q, hp, hq, hdenies⟩ := Group.denies_identityCondition name hne hfound
    exact ⟨_, _, Traced.outcome_bind.mpr ⟨p, hp, rfl⟩, Traced.outcome_bind.mpr ⟨q, hq, rfl⟩, fun e =>
      Contribution.denies_assemble_condition (hdenies e)⟩
  | metadata key =>
    obtain ⟨ids, hids⟩ := log.findIds_isOk key hlimits.1 hlimits.2
    have hfound : log.index.find key values = .ok ids := hids
    obtain ⟨hplain, hnegated⟩ := Group.outcome_metadataIds_of_found name hne hfound
    rw [hc.index]
    exact ⟨_, _, Traced.outcome_bind.mpr ⟨_, hplain, rfl⟩, Traced.outcome_bind.mpr ⟨_, hnegated, rfl⟩, fun e =>
      Contribution.denies_assemble_ids e _⟩
  | day => exact absurd rfl hkind

theorem isFieldName_of_get {catalog : Catalog} (hstandard : Catalog.standard = .ok catalog) {name : String} {field : Field}
    (hfield : catalog.get? name = some field) : Term.IsFieldName name := by
  have hnames : ∀ entry ∈ Catalog.resolutions, Term.IsFieldName entry.1 := by decide +kernel
  exact hnames _ ((Catalog.get_standard hstandard name _).mp ⟨field, hfield, rfl⟩)

/-- A search of some values of a field with one sign is compiled from the group of its distinct values. -/
theorem outcome_searchFor {name : String} (hname : Term.IsFieldName name) (negated : Bool) {values : List String}
    (hne : values ≠ []) (hwords : ∀ v ∈ values, Text.IsWord v) {part : Contribution}
    (h : (c.resolve ⟨name, if negated then [] else values.eraseDups, if negated then values.eraseDups else []⟩).outcome =
      .ok part) :
    (c.condition (Term.searchFor name negated values)).outcome = .ok (Contribution.assemble [part]) ∧
      (c.compile (Term.searchFor name negated values)).outcome = .ok (.condition (Contribution.assemble [part])) := by
  have hterms := Term.ofSearch_searchFor hname negated hwords
  have hcondition : (c.condition (Term.searchFor name negated values)).outcome = .ok (Contribution.assemble [part]) := by
    refine outcome_condition.mpr ⟨[part], ?_, rfl⟩
    rw [hterms, Group.ofTerms_values name negated hne]
    exact .cons h .nil
  have hcolon : (Term.searchFor name negated values).toList.contains ':' := by
    by_contra hcolon
    rw [Term.ofSearch_eq_nil (by simpa using hcolon)] at hterms
    exact hne (List.map_eq_nil_iff.mp hterms.symm)
  refine ⟨hcondition, ?_⟩
  rw [compile, if_pos hcolon]
  exact Traced.outcome_bind.mpr ⟨_, hcondition, rfl⟩

end Compiler

namespace EventLog

/-- Conditions that deny each other find all events, each of them once. -/
theorem find_denied {log : EventLog} (hids : (log.events.map Event.id).Nodup) {p q : Condition} (hp : p.IsOverSchema)
    (hq : q.IsOverSchema) (hplimits : p.IsWithinLimits) (hqlimits : q.IsWithinLimits) (h : ∀ e, Denies e p q) :
    ∃ found others, log.find p.toFilter = .ok found ∧ log.find q.toFilter = .ok others ∧
      (found ++ others).Perm (log.events.map Event.readBack) ∧
      ∀ id r, log.get? id = some r → (r ∈ found ↔ r ∉ others) := by
  have hother : (fun e => q.truthBy (storedTruth e) == some true) =
      fun e => !(p.truthBy (storedTruth e) == some true) := by
    funext e
    rw [Bool.eq_iff_iff]
    simpa [Denies, IsTrueOf] using h e
  have hothers := find_toFilter log hq hqlimits
  rw [hother] at hothers
  have hperm := (((Event.arrange_perm Event.precedes _).append (Event.arrange_perm Event.precedes _)).trans
    (List.filter_append_perm (fun e => p.truthBy (storedTruth e) == some true) log.events)).map Event.readBack
  rw [List.map_append] at hperm
  refine ⟨_, _, find_toFilter log hp hplimits, hothers, hperm, fun id r hr => ?_⟩
  -- No two events are read back as one, so none is found by both.
  have hnodup : (log.events.map Event.readBack).Nodup := by
    have hread : Event.id ∘ Event.readBack = Event.id := rfl
    exact .of_map Event.id (by rwa [List.map_map, hread])
  have hdisjoint := (List.nodup_append.mp (hperm.nodup_iff.mpr hnodup)).2.2
  obtain ⟨e, he, -, rfl⟩ := (get_eq_some_iff hids id r).mp hr
  have hmem := hperm.mem_iff.mpr (List.mem_map_of_mem he)
  exact ⟨fun hfound hothers => hdisjoint _ hfound _ hothers rfl, (List.mem_append.mp hmem).resolve_right⟩

/-- A search for some values of a field that is none of days, and the one with each of them negated, are both compiled
and run over a log, and each event of the log is found by one of them and not by the other. -/
theorem find_negated (steps : List Step) (catalog : Catalog) (settings : Settings) (c : Compiler) (name : String)
    (field : Field) (values : List String) (hids : (recorded steps).length < 2 ^ 63)
    (hstandard : Catalog.standard = .ok catalog)
    (hsettings : (Compiler.new catalog (run steps).index (run steps).directory).withSettings settings = .ok c)
    (hfield : catalog.get? name = some field) (hkind : field.resolution.kind ≠ .day) (hne : values ≠ [])
    (hwords : ∀ v ∈ values, Text.IsWord v) (hlookups : LooksUpWithinLimits field.resolution values.eraseDups) :
    ∃ p q, (c.compile (Term.searchFor name false values)).outcome = .ok (.condition p) ∧
      (c.compile (Term.searchFor name true values)).outcome = .ok (.condition q) ∧
      (p.IsWithinLimits → q.IsWithinLimits →
        ∃ found others, (run steps).find p.toFilter = .ok found ∧ (run steps).find q.toFilter = .ok others ∧
          (found ++ others).Perm ((run steps).events.map Event.readBack) ∧
          ∀ id r, (run steps).get? id = some r → (r ∈ found ↔ r ∉ others)) := by
  have hover := Compiler.isOver_of_settings hstandard hsettings
  obtain rfl : catalog = c.catalog := Except.ok.inj (hstandard.symm.trans hover.standard)
  have hname := Compiler.isFieldName_of_get hstandard hfield
  have hdistinct : values.eraseDups ≠ [] := by simpa [List.eq_nil_iff_forall_not_mem] using hne
  obtain ⟨part, part', hplain, hnegated, hdenies⟩ := Compiler.exists_denial hover hfield hkind hdistinct hlookups
  obtain ⟨hp, hpcompile⟩ := Compiler.outcome_searchFor hname false hne hwords hplain
  obtain ⟨hq, hqcompile⟩ := Compiler.outcome_searchFor hname true hne hwords hnegated
  exact ⟨_, _, hpcompile, hqcompile, fun hplimits hqlimits =>
    find_denied (nodup_run hids) (Compiler.isOverSchema_condition hstandard hp)
      (Compiler.isOverSchema_condition hstandard hq) hplimits hqlimits hdenies⟩

/-- Steps that record an event of nobody and one of a person who is known. -/
def visits : List Step :=
  [.record (roleEvent "admin"), .enroll ⟨7, "mo", "Mo", "Li", "mo@staff", []⟩, .reopen,
    .record { roleEvent "auditor" with actorLogin := some "mo" }]

theorem find_negated_visits :
    let p := Condition.isIn "actor_login" [.text "mo", .text "x:y"]
    let q := Condition.any [.isNull "actor_login", .notIn "actor_login" [.text "mo", .text "x:y"]]
    let c := Compiler.new Catalog.standardFields (run visits).index (run visits).directory
    (c.compile (Term.searchFor "actor_login" false ["mo", "x:y", "mo"])).outcome = .ok (.condition p) ∧
      (c.compile (Term.searchFor "actor_login" true ["mo", "x:y", "mo"])).outcome = .ok (.condition q) ∧
      ∃ found others, (run visits).find p.toFilter = .ok found ∧ (run visits).find q.toFilter = .ok others ∧
        (found ++ others).Perm ((run visits).events.map Event.readBack) := by
  intro p q c
  have hfield : Catalog.standardFields.get? "actor_login" = some ⟨"actor_login", .column "actor_login" .text⟩ := by
    decide +kernel
  have hwords : ∀ v ∈ ["mo", "x:y", "mo"], Text.IsWord v := by decide
  obtain ⟨p', q', hp', hq', hfind⟩ := find_negated visits Catalog.standardFields Settings.new c "actor_login" _
    ["mo", "x:y", "mo"] (by decide) Catalog.standard_eq rfl hfield (by decide) (by decide) hwords trivial
  have hplain : (c.resolve ⟨"actor_login", ["mo", "x:y"], []⟩).outcome = .ok (.condition p) := by
    rw [Compiler.resolve_eq, Compiler.resolution_of_get hfield]
    rfl
  have hnegated : (c.resolve ⟨"actor_login", [], ["mo", "x:y"]⟩).outcome = .ok (.condition q) := by
    rw [Compiler.resolve_eq, Compiler.resolution_of_get hfield]
    rfl
  have hp := (Compiler.outcome_searchFor (by decide) false (by decide) hwords hplain).2
  have hq := (Compiler.outcome_searchFor (by decide) true (by decide) hwords hnegated).2
  obtain rfl : p = p' := Compiled.condition.inj (Except.ok.inj (hp.symm.trans hp'))
  obtain rfl : q = q' := Compiled.condition.inj (Except.ok.inj (hq.symm.trans hq'))
  obtain ⟨found, others, hfound, hothers, hperm, -⟩ := hfind ⟨by decide, by decide, by decide⟩ ⟨by decide, by decide, by decide⟩
  exact ⟨hp, hq, found, others, hfound, hothers, hperm⟩

end EventLog

end AuditSearch
