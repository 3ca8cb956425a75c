import AuditSearch.Proofs.EventLog.Find
import AuditSearch.Proofs.EventLog.Lookup
import AuditSearch.Proofs.Search.Typed

/-!
The meaning of a search over an event log that answers the lookups itself: what its terms ask of a stored event, field
by field. It is that of the compiled search.
-/
namespace AuditSearch

/-- An event is one of an actor with the id or the login of an identity. -/
def Identity.IsActorOf (i : Identity) (e : Event) : Prop :=
  e.actorId = some i.id ∨ e.actorLogin = some i.login

namespace EventLog

/-- What the terms of a search ask of the columns of an event, where the characters of roles are first read in some
way, and local time is ahead of UTC by some seconds. -/
structure ColumnMeaning (log : EventLog) (read : Char → Char) (offset : Int) (terms : List Term) (e : Event) :
    Prop where
  /-- A column has one of the plain values and none of the negated ones. -/
  columns : ∀ column : Column,
    (Term.valuesOf terms column.name false ≠ [] →
      ∃ s ∈ Term.valuesOf terms column.name false, e.value column = some (Group.literal column.type s)) ∧
    ∀ s ∈ Term.valuesOf terms column.name true, e.value column ≠ some (Group.literal column.type s)
  /-- The actor has one of the plain roles and none of the negated ones. -/
  roles : (Term.valuesOf terms "user_role" false ≠ [] →
      ∃ role ∈ Term.valuesOf terms "user_role" false, e.HasRole read role) ∧
    ∀ role ∈ Term.valuesOf terms "user_role" true, ¬e.HasRole read role
  /-- The actor is one of the people with a plain value, and none of those with a negated one. -/
  people : ∀ field ∈ Catalog.peopleNames,
    (Term.valuesOf terms field.1 false ≠ [] → ∃ i ∈ log.identities,
      (∃ value ∈ Term.valuesOf terms field.1 false, i.Matches field.2 value) ∧ i.IsActorOf e) ∧
    ∀ i ∈ log.identities, (∃ value ∈ Term.valuesOf terms field.1 true, i.Matches field.2 value) → ¬i.IsActorOf e
  /-- The event is on the right side of the first day of each bound, if that is one. -/
  days : ∀ field ∈ Catalog.dayNames, ∀ value ∈ (Term.valuesOf terms field.1 false).head?,
    ∀ instant ∈ Calendar.boundInstant? value field.2 offset, field.2.Holds instant e.createdTimestamp.toInt

/-- What the terms of a search ask of an event of a log, of its columns and of its metadata. -/
structure Meaning (log : EventLog) (read : Char → Char) (offset : Int) (terms : List Term) (e : Event) : Prop extends
    ColumnMeaning log read offset terms e where
  /-- If there are plain values of metadata, the event has one of those of some field. -/
  included : (∃ field ∈ Catalog.metadataNames, Term.valuesOf terms field.1 false ≠ []) →
    ∃ field ∈ Catalog.metadataNames, ∃ value ∈ Term.valuesOf terms field.1 false, e.HasMetadata read field.2 value
  /-- The event has no negated value of metadata. -/
  excluded : ∀ field ∈ Catalog.metadataNames, ∀ value ∈ Term.valuesOf terms field.1 true,
    ¬e.HasMetadata read field.2 value

end EventLog

/-! ### Columns -/

namespace Group

/-- A value that suits a column equals it loosely only if it is its value. -/
theorem looselyEquals_literal {column : Column} {s : String} (h : column.type.Suits s) {e : Event} {w : Literal}
    (hw : e.value column = some w) : (literal column.type s).looselyEquals w ↔ w = literal column.type s := by
  have htakes := takes_literal h
  by_cases hinteger : column.type = .integer
  · obtain ⟨n, hn⟩ := Condition.value_integer hinteger e
    obtain ⟨m, -, rfl⟩ := Option.map_eq_some_iff.mp (hn.symm.trans hw)
    cases hliteral : literal column.type s with
    | integer k =>
      simp only [Literal.looselyEquals, beq_iff_eq, Literal.integer.injEq]
      exact eq_comm
    | text t =>
      rw [hliteral] at htakes
      simp [Literal.looselyEquals, Text.integerOf_eq_none (htakes hinteger)]
  · obtain ⟨t, ht⟩ := Condition.value_text hinteger e
    obtain ⟨u, -, rfl⟩ := Option.map_eq_some_iff.mp (ht.symm.trans hw)
    cases hliteral : literal column.type s with
    | integer k =>
      rw [hliteral] at htakes
      exact absurd htakes hinteger
    | text v =>
      simp only [Literal.looselyEquals, beq_iff_eq, Literal.text.injEq]
      exact eq_comm

end Group

namespace Compiler

variable {c : Compiler} {read : Char → Char} {e : Event}

theorem asks_column (column : Column) {included excluded : List String}
    (hincluded : ∀ s ∈ included, column.type.Suits s) (hexcluded : ∀ s ∈ excluded, column.type.Suits s) :
    c.Asks read (.column column.name column.type) included excluded e ↔
      (included ≠ [] → ∃ s ∈ included, e.value column = some (Group.literal column.type s)) ∧
        ∀ s ∈ excluded, e.value column ≠ some (Group.literal column.type s) := by
  rw [Asks, Condition.column?_name]
  refine and_congr (imp_congr_right fun _ => ?_) ?_
  · constructor
    · rintro ⟨w, hw, s, hs, hequal⟩
      exact ⟨s, hs, hw.trans (congrArg some ((Group.looselyEquals_literal (hincluded s hs) hw).mp hequal))⟩
    · rintro ⟨s, hs, hw⟩
      exact ⟨_, hw, s, hs, (Group.looselyEquals_literal (hincluded s hs) hw).mpr rfl⟩
  · constructor
    · intro h s hs hw
      exact h _ hw s hs ((Group.looselyEquals_literal (hexcluded s hs) hw).mpr rfl)
    · intro h w hw s hs hequal
      exact h s hs (hw.trans (congrArg some ((Group.looselyEquals_literal (hexcluded s hs) hw).mp hequal)))

end Compiler

/-! ### People -/

theorem Projection.standsIn_actor (i : Identity) (e : Event) :
    StandsIn Catalog.actorProjections i e ↔ i.IsActorOf e := by
  have hid : e.column? Column.actorId.name = e.actorId.map .integer := rfl
  have hlogin : e.column? Column.actorLogin.name = e.actorLogin.map .text := rfl
  simp only [StandsIn, Catalog.actorProjections, List.mem_cons, List.not_mem_nil, or_false, exists_eq_or_imp,
    exists_eq_left, hid, hlogin, Identity.IsActorOf]
  refine or_congr ?_ ?_
  · cases e.actorId with
    | none => simp
    | some n =>
      simp only [Option.map_some, Option.some.injEq, exists_eq_left', Identity.value, Literal.looselyEquals, beq_iff_eq]
      exact eq_comm
  · cases e.actorLogin with
    | none => simp
    | some login =>
      simp only [Option.map_some, Option.some.injEq, exists_eq_left', Identity.value, Literal.looselyEquals, beq_iff_eq]
      exact eq_comm

namespace Compiler

variable {c : Compiler} {log : EventLog} {attr : Attribute} {values : List String}

theorem exists_people (hdirectories : c.directories = [log.directory]) {is : List Identity}
    (hfound : log.findIdentities attr values = .ok is) (e : Event) :
    (∃ i ∈ c.people attr values, i.IsActorOf e) ↔
      ∃ i ∈ log.identities, (∃ value ∈ values, i.Matches attr value) ∧ i.IsActorOf e := by
  have hanswered : answered (log.directory.find attr values) = is := answered_ok hfound
  have hsame (i k : Identity) (hid : i.id = k.id) (hlogin : i.login = k.login) (h : i.IsActorOf e) : k.IsActorOf e := by
    rwa [Identity.IsActorOf, ← hid, ← hlogin]
  rw [exists_people_iff c attr values hsame, hdirectories]
  simp only [List.mem_singleton, exists_eq_left, hanswered]
  constructor
  · rintro ⟨i, hi, hactor⟩
    obtain ⟨k, hk, hmatches, rfl⟩ := (EventLog.mem_findIdentities hfound i).mp hi
    exact ⟨k, hk, hmatches, hactor⟩
  · rintro ⟨k, hk, hmatches, hactor⟩
    exact ⟨k.readBack, (EventLog.mem_findIdentities hfound _).mpr ⟨k, hk, hmatches, rfl⟩, hactor⟩

theorem asks_people (hdirectories : c.directories = [log.directory]) {read : Char → Char}
    {included excluded : List String} (hincluded : included ≠ [] → ∃ is, log.findIdentities attr included = .ok is)
    (hexcluded : excluded ≠ [] → ∃ is, log.findIdentities attr excluded = .ok is) (e : Event) :
    c.Asks read (.identity attr Catalog.actorProjections) included excluded e ↔
      (included ≠ [] → ∃ i ∈ log.identities, (∃ value ∈ included, i.Matches attr value) ∧ i.IsActorOf e) ∧
        ∀ i ∈ log.identities, (∃ value ∈ excluded, i.Matches attr value) → ¬i.IsActorOf e := by
  simp only [Asks, Projection.standsIn_actor]
  refine and_congr (imp_congr_right fun hne => ?_) ?_
  · obtain ⟨is, his⟩ := hincluded hne
    exact exists_people hdirectories his e
  · by_cases hne : excluded = []
    · simp [hne]
    · obtain ⟨is, his⟩ := hexcluded hne
      have h := exists_people hdirectories his e
      simp only [hne, ne_eq, not_false_eq_true, forall_const]
      simpa using not_congr h

theorem asks_day (bound : DayBound) (read : Char → Char) (included excluded : List String) (e : Event) :
    c.Asks read (.day Column.createdTimestamp.name bound) included excluded e ↔ ∀ value ∈ included.head?,
      ∀ instant ∈ Calendar.boundInstant? value bound c.offsetSeconds, bound.Holds instant e.createdTimestamp.toInt := by
  have hvalue : (e.column? Column.createdTimestamp.name).bind Literal.asInteger? = some e.createdTimestamp := rfl
  simp [Asks, hvalue]

/-! ### Metadata -/

theorem mem_answered {key : String} {ids : List Int64} (hfound : log.findIds key values = .ok ids)
    (hvalues : ∀ v ∈ values, Text.IsNulFree v) (hnul : log.HasNulFreeMetadata)
    (hids : (log.events.map Event.id).Nodup) {id : Int64} {r : Event} (hr : log.get? id = some r) :
    r.id ∈ answered (log.index.find key values) ↔ ∃ v ∈ values, r.HasMetadata Text.seen key v := by
  obtain ⟨e, he, rfl, rfl⟩ := (EventLog.get_eq_some_iff hids id r).mp hr
  have hanswered : answered (log.index.find key values) = ids := answered_ok hfound
  rw [hanswered, EventLog.mem_findIds hfound hvalues hnul]
  constructor
  · rintro ⟨f, hf, hid, hvalue⟩
    obtain rfl : f = e := List.inj_on_of_nodup_map hids hf he hid
    exact hvalue
  · exact fun hvalue => ⟨e, he, rfl, hvalue⟩

/-! ### Searches -/

/-- A compiler over the standard catalog, whose lookups are answered by a log alone. -/
structure IsOver (c : Compiler) (log : EventLog) : Prop where
  standard : Catalog.standard = .ok c.catalog
  index : c.index = log.index
  directories : c.directories = [log.directory]
  offset : c.offsetSeconds.natAbs < 86400

theorem isOver_of_settings {catalog : Catalog} (hstandard : Catalog.standard = .ok catalog) {settings : Settings}
    (h : (Compiler.new catalog log.index log.directory).withSettings settings = .ok c) : c.IsOver log := by
  simp only [withSettings, Settings.offsetSeconds] at h
  split at h
  · rename_i hrange
    cases h
    refine ⟨hstandard, rfl, ?_, ?_⟩
    · simp [directories, new]
    · change ((settings.offsetMinutes.getD 0).toInt * 60).natAbs < 86400
      simp only [Settings.maxOffsetMinutes] at hrange
      omega
  · cases h

theorem IsOver.isSound (h : c.IsOver log) : c.IsSound :=
  isSound_of_standard h.standard h.offset

section
variable {terms : List Term} {parts : List Contribution}

theorem fields_iff (hc : c.IsOver log) (hresolves : c.Resolves (Group.ofTerms terms) parts)
    (hsuits : ∀ column : Column, ∀ negated, ∀ s ∈ Term.valuesOf terms column.name negated, column.type.Suits s)
    (read : Char → Char) (e : Event) :
    (∀ name field, c.catalog.get? name = some field →
      c.Asks read field.resolution (Term.valuesOf terms name false) (Term.valuesOf terms name true) e) ↔
      log.ColumnMeaning read c.offsetSeconds terms e := by
  have hpeople : ∀ n ∈ Catalog.peopleNames, ∀ negated, Term.valuesOf terms n.1 negated ≠ [] →
      ∃ is, log.findIdentities n.2 (Term.valuesOf terms n.1 negated) = .ok is := by
    intro n hn negated hne
    obtain ⟨field, hfield, hresolution⟩ := Catalog.get_people hc.standard hn
    exact found_people hresolves hfield hresolution hne log.directory (by simp [hc.directories])
  rw [Catalog.forall_standard hc.standard (p := fun name resolution =>
    c.Asks read resolution (Term.valuesOf terms name false) (Term.valuesOf terms name true) e)]
  constructor
  · rintro ⟨hcolumns, -, hactors, hroles, hdays⟩
    refine ⟨fun column => ?_, hroles, fun n hn => ?_, fun n hn => ?_⟩
    · exact (asks_column column (hsuits column false) (hsuits column true)).mp (hcolumns column)
    · exact (asks_people hc.directories (hpeople n hn false) (hpeople n hn true) e).mp (hactors n hn)
    · exact (asks_day n.2 read _ _ e).mp (hdays n hn)
  · rintro ⟨hcolumns, hroles, hactors, hdays⟩
    refine ⟨fun column => ?_, fun _ _ => trivial, fun n hn => ?_, hroles, fun n hn => ?_⟩
    · exact (asks_column column (hsuits column false) (hsuits column true)).mpr (hcolumns column)
    · exact (asks_people hc.directories (hpeople n hn false) (hpeople n hn true) e).mpr (hactors n hn)
    · exact (asks_day n.2 read _ _ e).mpr (hdays n hn)

theorem finds_iff (hc : c.IsOver log) (hresolves : c.Resolves (Group.ofTerms terms) parts)
    (hvalues : ∀ t ∈ terms, Text.IsNulFree t.value) (hnul : log.HasNulFreeMetadata)
    (hids : (log.events.map Event.id).Nodup) {id : Int64} {r : Event} (hr : log.get? id = some r) (negated : Bool) :
    c.FindsMetadata terms negated r.id ↔ ∃ field ∈ Catalog.metadataNames,
      ∃ value ∈ Term.valuesOf terms field.1 negated, r.HasMetadata Text.seen field.2 value := by
  rw [findsMetadata_iff, Catalog.exists_metadata hc.standard (p := fun name key =>
    Term.valuesOf terms name negated ≠ [] ∧ r.id ∈ answered (c.index.find key (Term.valuesOf terms name negated)))]
  refine exists_congr fun n => and_congr_right fun hn => ?_
  have hfound (hne : Term.valuesOf terms n.1 negated ≠ []) :
      r.id ∈ answered (c.index.find n.2 (Term.valuesOf terms n.1 negated)) ↔
        ∃ v ∈ Term.valuesOf terms n.1 negated, r.HasMetadata Text.seen n.2 v := by
    obtain ⟨field, hfield, hresolution⟩ := Catalog.get_metadata hc.standard hn
    obtain ⟨ids, hfound⟩ := found_metadata hresolves hfield hresolution hne
    rw [hc.index] at hfound ⊢
    exact mem_answered hfound (fun v hv => hvalues _ (Term.mem_valuesOf.mp hv)) hnul hids hr
  constructor
  · exact fun ⟨hne, hid⟩ => (hfound hne).mp hid
  · rintro ⟨v, hv, hcontains⟩
    have hne := List.ne_nil_of_mem hv
    exact ⟨hne, (hfound hne).mpr ⟨v, hv, hcontains⟩⟩

/-- What a search that is compiled over a log asks of a stored event, by its terms alone. -/
theorem meaning_iff (hc : c.IsOver log) (hresolves : c.Resolves (Group.ofTerms terms) parts)
    (hvalues : ∀ t ∈ terms, Text.IsNulFree t.value)
    (hsuits : ∀ column : Column, ∀ negated, ∀ s ∈ Term.valuesOf terms column.name negated, column.type.Suits s)
    (hnul : log.HasNulFreeMetadata) (hids : (log.events.map Event.id).Nodup) {id : Int64} {r : Event}
    (hr : log.get? id = some r) :
    c.Meaning Text.seen terms r ↔ log.Meaning Text.seen c.offsetSeconds terms r := by
  have hfields := fields_iff hc hresolves hsuits Text.seen r
  have hfinds := finds_iff hc hresolves hvalues hnul hids hr
  have hasks : (∃ key values, c.AsksMetadata terms false key values) ↔
      ∃ field ∈ Catalog.metadataNames, Term.valuesOf terms field.1 false ≠ [] := by
    rw [asksMetadata_iff, Catalog.exists_metadata hc.standard (p := fun name _ =>
      Term.valuesOf terms name false ≠ [])]
  constructor
  · intro hmeaning
    refine ⟨hfields.mp hmeaning.fields, fun hasked => ?_, fun n hn v hv hcontains => ?_⟩
    · exact (hfinds false).mp (hmeaning.included (hasks.mpr hasked))
    · exact hmeaning.excluded ((hfinds true).mpr ⟨n, hn, v, hv, hcontains⟩)
  · intro hmeaning
    refine ⟨hfields.mpr hmeaning.toColumnMeaning, fun hasked => ?_, fun hfound => ?_⟩
    · exact (hfinds false).mpr (hmeaning.included (hasks.mp hasked))
    · obtain ⟨n, hn, v, hv, hcontains⟩ := (hfinds true).mp hfound
      exact hmeaning.excluded n hn v hv hcontains

end

end Compiler

end AuditSearch
