import AuditSearch.Proofs.EventLog.Meaning

/-!
What searches of an event log find: the events of which their meaning holds, with the characters of roles and metadata
read as patterns see them. A search whose values patterns tell apart finds those of which it holds as they are.
-/
namespace AuditSearch

namespace EventLog

theorem hasRole_seen_iff {e : Event} {role : String} (hclean : Roles.IsClean e.rolesText)
    (h : Roles.isCompound role ∨ Roles.IsTold role) : e.HasRole Text.seen role ↔ e.HasRole id role := by
  refine and_congr_right fun hcompound => ?_
  have hnames (read : Char → Char) : (∃ r ∈ Roles.parse e.rolesText, Text.fold read r = Text.fold read role) ↔
      Roles.names read role e.rolesText := by
    simp [Roles.names]
  rw [hnames, hnames, Roles.names_of_isTold (h.resolve_left hcompound) hclean]

/-- A text that patterns tell apart is part of another one as they see it only if it is. -/
theorem hasMetadata_seen_iff {e : Event} {key value : String} (h : ∀ c ∈ value.toList, ¬Text.isConfusable c) :
    e.HasMetadata Text.seen key value ↔ e.HasMetadata id key value := by
  have htold : ∀ d ∈ (Text.lower value).toList, ∀ c, Text.seen c = Text.seen d ↔ id c = id d := by
    intro d hd c
    have hplain : d ≠ '\uFFFD' ∧ d ≠ '\uFFFE' ∧ d ≠ '\uFFFF' := by
      have hd : ¬Text.isConfusable d := fun hd' => h d ((Text.mem_lower hd).2.2 hd') hd'
      simpa [Text.isConfusable, and_assoc] using hd
    rw [(Text.seen_eq_iff hplain).mpr rfl, Text.seen_eq_iff hplain]
    rfl
  refine exists_congr fun text => and_congr_right fun _ => ?_
  rw [List.infix_map_iff, List.infix_map_iff]
  refine exists_congr fun part => and_congr_right fun _ => ?_
  rw [eq_comm, Text.map_eq_iff htold, eq_comm]

section
variable {log : EventLog} {offset : Int} {terms : List Term} {e : Event}

/-- The meaning of a search is the same in two ways to read characters if its roles and values of metadata are. -/
theorem Meaning.of_read {read other : Char → Char} (h : log.Meaning read offset terms e)
    (hroles : ∀ negated, ∀ role ∈ Term.valuesOf terms "user_role" negated, e.HasRole read role ↔ e.HasRole other role)
    (hmetadata : ∀ field ∈ Catalog.metadataNames, ∀ negated, ∀ value ∈ Term.valuesOf terms field.1 negated,
      e.HasMetadata read field.2 value ↔ e.HasMetadata other field.2 value) : log.Meaning other offset terms e := by
  refine ⟨⟨h.columns, ⟨fun hne => ?_, fun role hrole => ?_⟩, h.people, h.days⟩, fun hasked => ?_,
    fun field hfield value hvalue => ?_⟩
  · obtain ⟨role, hrole, hhas⟩ := h.roles.1 hne
    exact ⟨role, hrole, (hroles false role hrole).mp hhas⟩
  · exact mt (hroles true role hrole).mpr (h.roles.2 role hrole)
  · obtain ⟨field, hfield, value, hvalue, hhas⟩ := h.included hasked
    exact ⟨field, hfield, value, hvalue, (hmetadata field hfield false value hvalue).mp hhas⟩
  · exact mt (hmetadata field hfield true value hvalue).mpr (h.excluded field hfield value hvalue)

end

end EventLog

namespace Term

/-- The values of a search that stand for a column suit it. -/
def SuitColumns (terms : List Term) : Prop :=
  ∀ column : Column, ∀ negated, ∀ value ∈ valuesOf terms column.name negated, column.type.Suits value

/-- Patterns take no role and no value of metadata of a search for another one. -/
structure AreTold (terms : List Term) : Prop where
  roles : ∀ negated, ∀ role ∈ valuesOf terms "user_role" negated, Roles.isCompound role ∨ Roles.IsTold role
  metadata : ∀ field ∈ Catalog.metadataNames, ∀ negated, ∀ value ∈ valuesOf terms field.1 negated,
    ∀ c ∈ value.toList, ¬Text.isConfusable c

end Term

namespace EventLog

theorem meaning_seen_iff {log : EventLog} {offset : Int} {terms : List Term} {e : Event} (h : Term.AreTold terms)
    (hclean : Roles.IsClean e.rolesText) : log.Meaning Text.seen offset terms e ↔ log.Meaning id offset terms e := by
  have hroles : ∀ negated, ∀ role ∈ Term.valuesOf terms "user_role" negated,
      (e.HasRole Text.seen role ↔ e.HasRole id role) := fun negated role hrole =>
    hasRole_seen_iff hclean (h.roles negated role hrole)
  have hmetadata : ∀ field ∈ Catalog.metadataNames, ∀ negated, ∀ value ∈ Term.valuesOf terms field.1 negated,
      (e.HasMetadata Text.seen field.2 value ↔ e.HasMetadata id field.2 value) :=
    fun field hfield negated value hvalue => hasMetadata_seen_iff (h.metadata field hfield negated value hvalue)
  exact ⟨fun hmeaning => hmeaning.of_read hroles hmetadata, fun hmeaning => hmeaning.of_read
    (fun negated role hrole => (hroles negated role hrole).symm)
    fun field hfield negated value hvalue => (hmetadata field hfield negated value hvalue).symm⟩

/-- What a search is run over: a log that came of an empty one, with clean role lists and no null characters in what
patterns are matched with. -/
structure IsSearchable (log : EventLog) : Prop where
  reachable : log.Reachable
  count : log.count < 2 ^ 63
  clean : log.HasCleanRoles
  roles : log.HasNulFreeRoles
  metadata : log.HasNulFreeMetadata

/-- A compiled search finds the events of which its meaning holds, as patterns read roles and metadata. -/
theorem find_compiled {log : EventLog} (hlog : log.IsSearchable) {c : Compiler} (hc : c.IsOver log) {raw : String}
    (hraw : Text.IsNulFree raw) (hsuit : Term.SuitColumns (Term.ofSearch raw)) {p : Condition}
    (h : (c.compile raw).outcome = .ok (.condition p)) (hlimits : p.IsWithinLimits) :
    ∃ answer, log.IsAnswer p.toFilter (log.Meaning Text.seen c.offsetSeconds (Term.ofSearch raw)) answer := by
  have hcondition : (c.condition raw).outcome = .ok p := by
    rw [Compiler.compile] at h
    split at h
    · obtain ⟨q, hq, h⟩ := Traced.outcome_bind.mp h
      rwa [Compiled.condition.inj (Traced.outcome_pure.mp h)] at hq
    · cases Traced.outcome_pure.mp h
  have hstored := Compiler.stored_condition hc.standard hcondition hraw hsuit
  have hvalues : ∀ t ∈ Term.ofSearch raw, Text.IsNulFree t.value := fun t ht d hd =>
    hraw d ((Term.mem_ofSearch ht).2 hd)
  obtain ⟨parts, hresolves, -⟩ := Compiler.outcome_condition.mp hcondition
  obtain ⟨answer, hanswer⟩ := find_acceptedAs hlog.reachable hlog.count hlog.clean hlog.roles
    (fun t ht => (hstored t ht).1) (fun t ht => (hstored t ht).2) hlimits
  refine ⟨answer, hanswer.congr fun id r hr => ?_⟩
  rw [Compiler.acceptsAs_condition hc.isSound hcondition]
  exact Compiler.meaning_iff hc hresolves hvalues hsuit hlog.metadata (hlog.reachable.isNumbered.nodup hlog.count) hr

/-! ### Values that patterns take for others -/

theorem valuesOf_single (field value name : String) (negated : Bool) :
    Term.valuesOf [⟨field, false, value⟩] name negated = if field = name ∧ negated = false then [value] else [] := by
  by_cases h : field = name ∧ negated = false
  · rw [if_pos h, h.1, h.2]
    simp [Term.valuesOf, List.eraseDups_cons]
  · rw [if_neg h, Term.valuesOf, List.filter_cons_of_neg]
    · rfl
    · simp only [Bool.and_eq_true, beq_iff_eq]
      exact fun hname => h ⟨hname.1, hname.2.symm⟩

theorem valuesOf_other {field name : String} (h : field ≠ name) (value : String) (negated : Bool) :
    Term.valuesOf [⟨field, false, value⟩] name negated = [] := by
  rw [valuesOf_single, if_neg fun hname => h hname.1]

theorem valuesOf_same (field value : String) : Term.valuesOf [⟨field, false, value⟩] field false = [value] := by
  rw [valuesOf_single, if_pos ⟨rfl, rfl⟩]

theorem valuesOf_negated (field value name : String) : Term.valuesOf [⟨field, false, value⟩] name true = [] := by
  rw [valuesOf_single, if_neg fun hname => by cases hname.2]

section
variable {log : EventLog} {read : Char → Char} {offset : Int} {e : Event} {value : String}

theorem meaning_role : log.Meaning read offset [⟨"user_role", false, value⟩] e ↔ e.HasRole read value := by
  have hcolumns : ∀ column : Column, "user_role" ≠ column.name := fun column => by cases column <;> decide
  have hpeople : ∀ n ∈ Catalog.peopleNames, "user_role" ≠ n.1 := by decide
  have hdays : ∀ n ∈ Catalog.dayNames, "user_role" ≠ n.1 := by decide
  have hmetadata : ∀ n ∈ Catalog.metadataNames, "user_role" ≠ n.1 := by decide
  constructor
  · intro h
    obtain ⟨role, hrole, hhas⟩ := h.roles.1 (by simp [valuesOf_same])
    rw [valuesOf_same, List.mem_singleton] at hrole
    exact hrole ▸ hhas
  · intro h
    refine ⟨⟨fun column => ?_, ?_, fun n hn => ?_, fun n hn => ?_⟩, ?_, fun n hn => ?_⟩
    · simp [valuesOf_other (hcolumns column)]
    · simp [valuesOf_same, valuesOf_negated, h]
    · simp [valuesOf_other (hpeople n hn)]
    · simp [valuesOf_other (hdays n hn)]
    · rintro ⟨n, hn, hne⟩
      exact absurd (valuesOf_other (hmetadata n hn) value false) hne
    · simp [valuesOf_negated]

theorem meaning_metadata {field : String × String} (hfield : field ∈ Catalog.metadataNames) :
    log.Meaning read offset [⟨field.1, false, value⟩] e ↔ e.HasMetadata read field.2 value := by
  have hcolumns : ∀ n ∈ Catalog.metadataNames, ∀ column ∈ Column.all, n.1 ≠ column.name := by decide
  have hroles : ∀ n ∈ Catalog.metadataNames, n.1 ≠ "user_role" := by decide
  have hpeople : ∀ m ∈ Catalog.metadataNames, ∀ n ∈ Catalog.peopleNames, m.1 ≠ n.1 := by decide
  have hdays : ∀ m ∈ Catalog.metadataNames, ∀ n ∈ Catalog.dayNames, m.1 ≠ n.1 := by decide
  have hkeys : ∀ m ∈ Catalog.metadataNames, ∀ n ∈ Catalog.metadataNames, m.1 = n.1 → m.2 = n.2 := by decide
  constructor
  · intro h
    obtain ⟨n, hn, part, hpart, hhas⟩ := h.included ⟨field, hfield, by simp [valuesOf_same]⟩
    rw [valuesOf_single] at hpart
    split at hpart
    · rename_i hname
      obtain rfl := List.mem_singleton.mp hpart
      exact hkeys field hfield n hn hname.1 ▸ hhas
    · cases hpart
  · intro h
    refine ⟨⟨fun column => ?_, ?_, fun n hn => ?_, fun n hn => ?_⟩, fun _ => ?_, fun n hn => ?_⟩
    · simp [valuesOf_other (hcolumns field hfield column (Column.mem_all column))]
    · simp [valuesOf_other (hroles field hfield)]
    · simp [valuesOf_other (hpeople field hfield n hn)]
    · simp [valuesOf_other (hdays field hfield n hn)]
    · exact ⟨field, hfield, value, by simp [valuesOf_same], h⟩
    · simp [valuesOf_negated]

end

/-- Two ways to read characters tell the events of some log apart by a search. -/
def Differ (read other : Char → Char) (terms : List Term) : Prop :=
  ∃ log : EventLog, log.IsSearchable ∧ ∃ n r, log.get? n = some r ∧
    ∀ offset, log.Meaning read offset terms r ∧ ¬log.Meaning other offset terms r

/-- A role that is not told apart is found where only its twin is stored. -/
theorem differ_role {role : String} (hcompound : ¬Roles.isCompound role) (htold : ¬Roles.IsTold role)
    (hnul : Text.IsNulFree role) : Differ Text.seen id [⟨"user_role", false, role⟩] := by
  obtain ⟨hseen, hid⟩ := Roles.names_twinOf hcompound htold
  have hclean := Roles.isClean_twinOf hcompound htold
  have htext : (roleEvent (Text.twinOf role)).readBack.rolesText = Text.twinOf role := by
    have hroles : (roleEvent (Text.twinOf role)).rolesText = Text.twinOf role := String.intercalate_singleton (s := ",")
    have hread : (roleEvent (Text.twinOf role)).readBack.rolesText =
        Roles.join (Roles.parse (roleEvent (Text.twinOf role)).rolesText) := rfl
    rw [hread, hroles, Roles.join_parse hclean]
  have hlog : (roleLog (Text.twinOf role)).IsSearchable := by
    refine ⟨.record .empty _, Nat.one_lt_two_pow (by decide), fun e he => ?_, fun e he => ?_, fun e he key text h => ?_⟩
    · rwa [rolesText_roleLog he]
    · rw [rolesText_roleLog he]
      exact Text.isNulFree_twinOf hnul
    · rw [events_roleLog, List.mem_singleton] at he
      subst he
      cases h
  have hhas (read : Char → Char) : (roleEvent (Text.twinOf role)).readBack.HasRole read role ↔
      Roles.names read role (Text.twinOf role) := by
    simp [Event.HasRole, htext, Roles.names, hcompound]
  refine ⟨_, hlog, 1, (roleEvent (Text.twinOf role)).readBack, rfl, fun offset => ?_⟩
  rw [meaning_role, meaning_role, hhas, hhas, hseen, hid]
  simp

/-- An event with a value under a key. -/
def metadataEvent (key text : String) : Event :=
  { roleEvent "" with metadata := Dictionary.empty.insert key text }

theorem get_metadataEvent (key text other : String) :
    (metadataEvent key text).metadata.get? other = if other == key then some text else none := by
  have hentries : (metadataEvent key text).metadata.entries = [(key, text)] := rfl
  rw [Dictionary.get?, hentries, List.lookup_cons]
  cases other == key <;> rfl

theorem HasNulFreeMetadata.record {log : EventLog} (h : log.HasNulFreeMetadata) (key : String) {text : String}
    (htext : Text.IsNulFree text) : (log.record (metadataEvent key text)).HasNulFreeMetadata := by
  intro e he other stored hstored
  obtain he | he := List.mem_append.mp he
  · exact h e he other stored hstored
  · rw [List.mem_singleton.mp he, get_metadataEvent] at hstored
    split at hstored
    · exact Option.some.inj hstored ▸ htext
    · cases hstored

theorem hasNulFreeMetadata_empty : HasNulFreeMetadata empty :=
  fun _ he => nomatch he

/-- The twin of a text with a character that patterns take for another contains the text as they see it, and does not
contain it. -/
theorem hasMetadata_twinOf (key : String) {value : String} {c : Char} (hc : c ∈ value.toList)
    (hconfusable : Text.isConfusable c) :
    (metadataEvent key (Text.twinOf value)).readBack.HasMetadata Text.seen key value ∧
      ¬(metadataEvent key (Text.twinOf value)).readBack.HasMetadata id key value := by
  have hget : (metadataEvent key (Text.twinOf value)).readBack.metadata.get? key = some (Text.twinOf value) :=
    (get_metadataEvent key _ key).trans (if_pos (beq_self_eq_true key))
  have htwin : (Text.lower (Text.twinOf value)).toList = (Text.lower value).toList.map Text.twin := by
    rw [Text.lower_twinOf, Text.twinOf, String.toList_ofList]
  have hhas (read : Char → Char) : (metadataEvent key (Text.twinOf value)).readBack.HasMetadata read key value ↔
      (Text.lower value).toList.map read <:+: (Text.lower value).toList.map (read ∘ Text.twin) := by
    simp [Event.HasMetadata, hget, htwin]
  rw [hhas, hhas]
  constructor
  · have hseen : (Text.seen ∘ Text.twin) = Text.seen := funext Text.seen_twin
    exact hseen.symm ▸ List.infix_refl _
  · intro hpiece
    have heq := hpiece.eq_of_length (by simp)
    have hsame : Text.twin c = c := (List.map_inj_left.mp heq c (Text.mem_lower_of_isConfusable hconfusable hc)).symm
    exact Text.toLower_twin hconfusable (congrArg Char.toLower hsame)

/-- A value with a character that patterns take for another is found where only its twin is stored. -/
theorem differ_metadata {field : String × String} (hfield : field ∈ Catalog.metadataNames) {value : String}
    (hnul : Text.IsNulFree value) {c : Char} (hc : c ∈ value.toList) (hconfusable : Text.isConfusable c) :
    Differ Text.seen id [⟨field.1, false, value⟩] := by
  have hlog : (empty.record (metadataEvent field.2 (Text.twinOf value))).IsSearchable := by
    have hevents : (empty.record (metadataEvent field.2 (Text.twinOf value))).events =
        [metadataEvent field.2 (Text.twinOf value)] := rfl
    refine ⟨.record .empty _, Nat.one_lt_two_pow (by decide), ?_, ?_,
      hasNulFreeMetadata_empty.record field.2 (Text.isNulFree_twinOf hnul)⟩
    all_goals
      intro e he
      rw [hevents, List.mem_singleton] at he
      subst he
    · exact .inl rfl
    · exact fun _ hmem => by cases hmem
  refine ⟨_, hlog, 1, (metadataEvent field.2 (Text.twinOf value)).readBack, rfl, fun offset => ?_⟩
  rw [meaning_metadata hfield, meaning_metadata hfield]
  exact hasMetadata_twinOf field.2 hc hconfusable

/-- A search that is compiled over a log finds the events of which its meaning holds, as patterns read roles and
metadata. These are the events of which it holds as they are, if patterns tell its values apart. A search for one role
or one value of metadata that they take for another finds an event of some log of which it does not hold. -/
theorem search_finds (log : EventLog) (catalog : Catalog) (settings : Settings) (c : Compiler) (raw : String)
    (p : Condition) (hlog : log.IsSearchable) (hstandard : Catalog.standard = .ok catalog)
    (hsettings : (Compiler.new catalog log.index log.directory).withSettings settings = .ok c)
    (hraw : Text.IsNulFree raw) (hsuit : Term.SuitColumns (Term.ofSearch raw))
    (h : (c.compile raw).outcome = .ok (.condition p)) (hlimits : p.IsWithinLimits) :
    (∃ answer, log.IsAnswer p.toFilter (log.Meaning Text.seen c.offsetSeconds (Term.ofSearch raw)) answer ∧
      (Term.AreTold (Term.ofSearch raw) →
        log.IsAnswer p.toFilter (log.Meaning id c.offsetSeconds (Term.ofSearch raw)) answer)) ∧
    (∀ role, Text.IsNulFree role → ¬Roles.isCompound role → ¬Roles.IsTold role →
      Differ Text.seen id [⟨"user_role", false, role⟩]) ∧
    ∀ field ∈ Catalog.metadataNames, ∀ value, Text.IsNulFree value → (∃ c ∈ value.toList, Text.isConfusable c) →
      Differ Text.seen id [⟨field.1, false, value⟩] := by
  refine ⟨?_, fun role hnul hcompound htold => differ_role hcompound htold hnul,
    fun field hfield value hnul hconfusable => ?_⟩
  · have hover := Compiler.isOver_of_settings hstandard hsettings
    obtain ⟨answer, hanswer⟩ := find_compiled hlog hover hraw hsuit h hlimits
    exact ⟨answer, hanswer, fun htold =>
      hanswer.congr fun n r hr => meaning_seen_iff htold (hlog.clean.of_get hr)⟩
  · obtain ⟨c, hc, hconfusable⟩ := hconfusable
    exact differ_metadata hfield hnul hc hconfusable

/-- The standard catalog. -/
def fields : Catalog :=
  Catalog.standard.toOption.getD .empty

/-- A log of one event, of an auditor, with one identity. -/
def archive : EventLog :=
  (empty.enroll ⟨7, "mo", "Mo", "Li", "mo@staff", []⟩).record (roleEvent "auditor")

/-- The condition of a search for auditors other than one person. -/
def auditors : Condition :=
  .all [.hasRole "actor_roles" "auditor", .any [.isNull "actor_id", .notIn "actor_id" [.integer 7]],
    .any [.isNull "actor_login", .notIn "actor_login" [.text "mo"]]]

theorem search_finds_archive :
    (∃ answer, archive.IsAnswer auditors.toFilter
        (archive.Meaning Text.seen 0 (Term.ofSearch "user_role:auditor -user_id:7")) answer ∧
      archive.IsAnswer auditors.toFilter
        (archive.Meaning id 0 (Term.ofSearch "user_role:auditor -user_id:7")) answer) ∧
    Differ Text.seen id [⟨"user_role", false, "\uFFFE"⟩] ∧ Differ Text.seen id [⟨"post_title", false, "a\uFFFD"⟩] := by
  have hevents : archive.events = [roleEvent "auditor"] := rfl
  have hlog : archive.IsSearchable := by
    refine ⟨.record (.enroll .empty _) _, by decide, fun e he => ?_, fun e he => ?_, fun e he key text h => ?_⟩
    all_goals
      rw [hevents, List.mem_singleton] at he
      subst he
    · decide
    · decide
    · cases h
  have hterms : Term.ofSearch "user_role:auditor -user_id:7" =
      [⟨"user_role", false, "auditor"⟩, ⟨"user_id", true, "7"⟩] := by decide
  have hsuit : Term.SuitColumns (Term.ofSearch "user_role:auditor -user_id:7") := by
    intro column negated value hvalue
    rw [Term.mem_valuesOf, hterms] at hvalue
    cases column <;> simp [Column.name] at hvalue
  have htold : Term.AreTold (Term.ofSearch "user_role:auditor -user_id:7") := by
    rw [hterms]
    exact ⟨by decide, by decide⟩
  have hcompile : ((Compiler.new fields archive.index archive.directory).compile
      "user_role:auditor -user_id:7").outcome = .ok (.condition auditors) := by rfl
  obtain ⟨⟨answer, hseen, hplain⟩, hroles, hmetadata⟩ := search_finds archive fields Settings.new _
    "user_role:auditor -user_id:7" auditors hlog (by rfl) rfl (by decide) hsuit hcompile
    ⟨by decide, by decide, by decide⟩
  exact ⟨⟨answer, hseen, hplain htold⟩, hroles "\uFFFE" (by decide) (by decide) (by decide),
    hmetadata ("post_title", "PostTitle") (by decide) "a\uFFFD" (by decide) ⟨'\uFFFD', by decide, by decide⟩⟩

/-- A search for the role U+FFFE finds an event of an actor with the role U+FFFF alone. -/
theorem search_takes_noncharacters_as_one :
    ((Compiler.new fields (roleLog "\uFFFF").index (roleLog "\uFFFF").directory).compile "user_role:\uFFFE").outcome =
        .ok (.condition (.hasRole "actor_roles" "\uFFFE")) ∧
      (roleLog "\uFFFF").find (Condition.hasRole "actor_roles" "\uFFFE").toFilter =
        .ok [(roleEvent "\uFFFF").readBack] ∧
      ¬(roleLog "\uFFFF").Meaning id 0 (Term.ofSearch "user_role:\uFFFE") (roleEvent "\uFFFF").readBack := by
  have hterms : Term.ofSearch "user_role:\uFFFE" = [⟨"user_role", false, "\uFFFE"⟩] := by decide
  have htwin : Text.twinOf "\uFFFE" = "\uFFFF" := by decide
  have hcompound : ¬Roles.isCompound "\uFFFE" := by decide
  have hfind := (find_twin hcompound (by decide) (by decide) (by decide)).1
  rw [htwin] at hfind
  refine ⟨by rfl, hfind, ?_⟩
  rw [hterms, meaning_role]
  decide

end EventLog

end AuditSearch
