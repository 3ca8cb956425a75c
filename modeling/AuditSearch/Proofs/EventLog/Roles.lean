import AuditSearch.Proofs.Catalog
import AuditSearch.Proofs.EventLog.Run
import AuditSearch.Proofs.Query.Group
import AuditSearch.Proofs.Query.Term
import AuditSearch.Proofs.Search.Resolve

/-!
Searches for a role. The pattern of a role looks at the text that an event's roles are stored as, where names have the
blanks at their ends that they were recorded with; what is read back of an event has names without these.
-/
namespace AuditSearch

namespace Compiler

theorem resolution_role {c : Compiler} (h : Catalog.standard = .ok c.catalog) :
    c.resolution? "user_role" = some (.role Column.actorRoles.name) := by
  obtain ⟨field, hfield, hresolution⟩ := (Catalog.get_standard h "user_role" (.role Column.actorRoles.name)).mpr
    (by simp [Catalog.resolutions])
  rw [resolution_of_get hfield, hresolution]

theorem compile_role {c : Compiler} (h : Catalog.standard = .ok c.catalog) {role : String} (hword : Text.IsWord role)
    (hcompound : ¬Roles.isCompound role) :
    c.compile ("user_role:" ++ role) = pure (.condition (.hasRole Column.actorRoles.name role)) := by
  have hsearch : "user_role:" ++ role = Term.searchFor "user_role" false [role] := by
    simp [Term.searchFor, Term.text]
  have hgroups : Group.ofTerms (Term.ofSearch ("user_role:" ++ role)) = [⟨"user_role", [role], []⟩] := by
    rw [hsearch, Term.ofSearch_searchFor (by decide) false (by simpa using hword), Group.ofTerms_values _ _ (by simp)]
    simp [List.eraseDups_cons]
  have hresolve : c.resolve ⟨"user_role", [role], []⟩ =
      pure (.condition (.hasRole Column.actorRoles.name role)) := by
    have hcondition : Condition.mkHasRole Column.actorRoles.name role = .hasRole Column.actorRoles.name role :=
      if_neg hcompound
    simp only [resolve_eq, resolution_role h, Group.roleCondition, List.map_cons, List.map_nil, hcondition]
    rfl
  have hcolon : ("user_role:" ++ role).toList.contains ':' := by simp
  rw [compile, if_pos hcolon, Compiler.condition, hgroups, conditionOfGroups]
  simp only [List.mapM_cons, List.mapM_nil, hresolve, pure_bind]
  rfl

end Compiler

/-- A role stands between the commas of what an event's roles are stored as, as patterns see characters. -/
def Event.Stores (e : Event) (role : String) : Prop :=
  ∃ piece ∈ Roles.pieces e.rolesText, Text.fold Text.seen piece = Text.fold Text.seen role

instance (e : Event) (role : String) : Decidable (e.Stores role) :=
  inferInstanceAs (Decidable (∃ piece ∈ Roles.pieces e.rolesText, _))

namespace EventLog

variable {role : String}

theorem isOverSchema_hasRole (role : String) : (Condition.hasRole Column.actorRoles.name role).IsOverSchema := by
  intro t ht name hname
  rw [Condition.tests_of_isTest rfl, List.mem_singleton] at ht
  subst ht
  exact ⟨.actorRoles, Option.mem_some_iff.mp hname⟩

theorem find_role {log : EventLog} (hids : (log.events.map Event.id).Nodup) (hstored : log.HasNulFreeRoles)
    (hcompound : ¬Roles.isCompound role) (hnul : Text.IsNulFree role)
    (hshort : (Condition.rolePattern role).utf8ByteSize ≤ Sql.Value.maxPatternBytes) :
    ∃ answer, log.IsAnswer (Condition.hasRole Column.actorRoles.name role).toFilter
      (fun r => ∃ e ∈ log.events, e.id = r.id ∧ e.Stores role) answer := by
  refine find_stored hids (isOverSchema_hasRole role) (isWithinLimits_hasRole hcompound hshort) fun e he => ?_
  have hvalue : e.column? Column.actorRoles.name = some (.text e.rolesText) := rfl
  have htrue : (Condition.hasRole Column.actorRoles.name role).truthBy (Condition.storedTruth e) = some true ↔
      e.Stores role := by
    rw [Event.Stores, ← Roles.isLike_rolePattern_iff hcompound hnul (hstored e he)]
    simp [Condition.truthBy, Condition.storedTruth, hcompound, hvalue, Literal.asText]
  rw [htrue]
  constructor
  · exact fun h => ⟨e, he, rfl, h⟩
  · rintro ⟨f, hf, hid, h⟩
    rwa [← List.inj_on_of_nodup_map hids hf he hid]

/-- An event that stores a role without blanks is read back with it, as patterns see characters. -/
theorem exists_parse_of_stores {e : Event} (hword : Text.IsWord role) (h : e.Stores role) :
    ∃ s ∈ Roles.parse e.rolesText, Text.fold Text.seen s = Text.fold Text.seen role := by
  obtain ⟨piece, hpiece, hfold⟩ := h
  exact ⟨piece, Roles.mem_parse_of_piece Text.isBlank_seen hword.1 (Text.trim_of_plain hword.2) hpiece hfold, hfold⟩

/-- Where all names are stored without blanks at their ends, those that are read back are the stored ones. -/
theorem stores_iff {e : Event} (hword : Text.IsWord role) (htold : ∀ d ∈ role.toList, ¬Text.isConfusable d)
    (hplain : ∀ piece ∈ Roles.pieces e.rolesText, Text.trim piece = piece) :
    e.Stores role ↔ ∃ s ∈ Roles.parse e.rolesText, Text.equalAsciiFold s role := by
  have hequal (s : String) : Text.equalAsciiFold s role ↔ Text.fold Text.seen s = Text.fold Text.seen role := by
    rw [Text.fold_seen_eq_iff htold, Text.equalAsciiFold, beq_iff_eq]
    rfl
  simp only [hequal]
  constructor
  · exact exists_parse_of_stores hword
  · rintro ⟨s, hs, hfold⟩
    obtain ⟨-, piece, hpiece, rfl⟩ := Roles.mem_parse.mp hs
    exact ⟨piece, hpiece, by rwa [hplain piece hpiece] at hfold⟩

theorem splitOn_padded (hcompound : ¬Roles.isCompound role) :
    (" " ++ role).toList.splitOn Roles.separator = [(" " ++ role).toList] :=
  List.splitOn_eq_singleton (by simpa [Roles.isCompound, Roles.separator] using hcompound)

/-- A name that is stored with a blank before it is read back without the blank. -/
theorem parse_padded (hword : Text.IsWord role) (hcompound : ¬Roles.isCompound role) :
    Roles.parse (" " ++ role) = [role] := by
  have htrim : Text.trim (" " ++ role) = role := by
    have hblank : Text.isBlank ' ' := by decide
    simpa [Text.trim, Text.trimStart, hblank] using Text.trim_of_plain hword.2
  have hkept : role.isEmpty = false := by simpa [String.isEmpty_iff] using hword.1
  rw [Roles.parse, splitOn_padded hcompound, List.map_singleton, String.ofList_toList, htrim, List.filter_singleton,
    hkept]
  rfl

/-- A role is not found where it was recorded with a blank before it, though it is read back there. -/
theorem find_padded (hword : Text.IsWord role) (hcompound : ¬Roles.isCompound role) (hnul : Text.IsNulFree role)
    (hshort : (Condition.rolePattern role).utf8ByteSize ≤ Sql.Value.maxPatternBytes) :
    (∃ r, (roleLog (" " ++ role)).get? 1 = some r ∧ r.actorRoles = [role]) ∧
      (roleLog (" " ++ role)).find (Condition.hasRole Column.actorRoles.name role).toFilter = .ok [] := by
  have htext : (roleEvent (" " ++ role)).rolesText = " " ++ role := String.intercalate_singleton (s := ",")
  refine ⟨⟨(roleEvent (" " ++ role)).readBack, rfl, ?_⟩, ?_⟩
  · have hread : (roleEvent (" " ++ role)).readBack.actorRoles = Roles.parse (roleEvent (" " ++ role)).rolesText := rfl
    rw [hread, htext, parse_padded hword hcompound]
  · have hids : ((roleLog (" " ++ role)).events.map Event.id).Nodup := by
      rw [events_roleLog]
      exact List.nodup_singleton _
    have hstored : (roleLog (" " ++ role)).HasNulFreeRoles := by
      intro e he c hc
      rw [rolesText_roleLog he, String.toList_append, List.mem_append] at hc
      obtain hc | hc := hc
      · simp_all
      · exact hnul c hc
    obtain ⟨answer, hanswer⟩ := find_role hids hstored hcompound hnul hshort
    rw [hanswer.find, Except.ok.injEq, List.eq_nil_iff_forall_not_mem]
    intro r hr
    obtain ⟨e, he, -, piece, hpiece, hfold⟩ := ((hanswer.mem r).mp hr).2
    rw [rolesText_roleLog he, Roles.pieces, splitOn_padded hcompound] at hpiece
    -- The one piece is longer than the role, so it is not the role in any case of letters.
    have hlength := congrArg List.length hfold
    simp_all [Text.fold]

/-- A search for a role, after any steps, finds the events that store it, all of which are read back with it as
patterns see characters. Where no name was stored with blanks at its ends, these are all that are read back with a role
of this name. Every role is missed where it was stored with a blank before it. -/
theorem run_finds_roles (steps : List Step) (c : Compiler) (role : String)
    (hids : (recorded steps).length < 2 ^ 63) (hstored : (run steps).HasNulFreeRoles)
    (hstandard : Catalog.standard = .ok c.catalog) (hword : Text.IsWord role) (hcompound : ¬Roles.isCompound role)
    (hnul : Text.IsNulFree role)
    (hshort : (Condition.rolePattern role).utf8ByteSize ≤ Sql.Value.maxPatternBytes) :
    c.compile ("user_role:" ++ role) = pure (.condition (.hasRole Column.actorRoles.name role)) ∧
    (∃ answer, (run steps).find (Condition.hasRole Column.actorRoles.name role).toFilter = .ok answer ∧
      (∀ r ∈ answer, ∃ id, (run steps).get? id = some r) ∧
      ∀ n e, (recorded steps)[n]? = some e → ∃ r, (run steps).get? (Int64.ofNat (n + 1)) = some r ∧
        (r ∈ answer ↔ e.Stores role) ∧
        (r ∈ answer → ∃ s ∈ r.actorRoles, Text.fold Text.seen s = Text.fold Text.seen role) ∧
        ((∀ piece ∈ Roles.pieces e.rolesText, Text.trim piece = piece) → (∀ d ∈ role.toList, ¬Text.isConfusable d) →
          (r ∈ answer ↔ ∃ s ∈ r.actorRoles, Text.equalAsciiFold s role))) ∧
    (∃ r, (roleLog (" " ++ role)).get? 1 = some r ∧ r.actorRoles = [role]) ∧
      (roleLog (" " ++ role)).find (Condition.hasRole Column.actorRoles.name role).toFilter = .ok [] := by
  obtain ⟨answer, hanswer⟩ := find_role (nodup_run hids) hstored hcompound hnul hshort
  refine ⟨Compiler.compile_role hstandard hword hcompound, ⟨answer, hanswer.find,
    fun r hr => ((hanswer.mem r).mp hr).1, fun n e he => ?_⟩, find_padded hword hcompound hnul hshort⟩
  have hget := (get_run hids (Int64.ofNat (n + 1)) _).mpr ⟨n, e, he, rfl, rfl⟩
  have hmem : { e with id := Int64.ofNat (n + 1), actorRoles := Roles.parse e.rolesText } ∈ answer ↔ e.Stores role := by
    have hid : { e with id := Int64.ofNat (n + 1) } ∈ (run steps).events := mem_events_run.mpr ⟨n, e, he, rfl⟩
    rw [hanswer.mem]
    constructor
    · rintro ⟨-, f, hf, heq, h⟩
      rwa [List.inj_on_of_nodup_map (nodup_run hids) hf hid heq] at h
    · exact fun h => ⟨⟨_, hget⟩, _, hid, rfl, h⟩
  refine ⟨_, hget, hmem, fun hr => exists_parse_of_stores hword (hmem.mp hr), fun hplain htold => ?_⟩
  exact hmem.trans (stores_iff hword htold hplain)

/-- Steps that record an event of an administrator, and one of an administrator with a blank before the name. -/
def administering : List Step :=
  [.record (roleEvent "Admin"), .record (roleEvent " admin")]

theorem run_finds_roles_administering :
    ∃ answer first second,
      (run administering).find (Condition.hasRole Column.actorRoles.name "admin").toFilter = .ok answer ∧
      (run administering).get? 1 = some first ∧ (run administering).get? 2 = some second ∧
      first ∈ answer ∧ second ∉ answer := by
  have hstored : (run administering).HasNulFreeRoles := by
    have hevents : (run administering).events = [roleEvent "Admin", { roleEvent " admin" with id := 2 }] := rfl
    rw [HasNulFreeRoles, hevents, List.forall_mem_cons, List.forall_mem_singleton]
    decide
  obtain ⟨-, ⟨answer, hfind, -, hstores⟩, -⟩ := run_finds_roles administering
    (.new Catalog.standardFields ⟨fun _ _ => .ok []⟩ ⟨"staff", fun _ _ => .ok []⟩) "admin" (by decide) hstored
    Catalog.standard_eq (by decide) (by decide) (by decide) (by decide)
  obtain ⟨first, hfirst, hin, -⟩ := hstores 0 (roleEvent "Admin") rfl
  obtain ⟨second, hsecond, hout, -⟩ := hstores 1 (roleEvent " admin") rfl
  have hnumbers : Int64.ofNat (0 + 1) = 1 ∧ Int64.ofNat (1 + 1) = 2 := by decide
  rw [hnumbers.1] at hfirst
  rw [hnumbers.2] at hsecond
  exact ⟨answer, first, second, hfind, hfirst, hsecond, hin.mpr (by decide), mt hout.mp (by decide)⟩

/-- A search for administrators misses an event that is read back with the role of one. -/
theorem search_misses_padded_role :
    (Compiler.new Catalog.standardFields (roleLog " admin").index (roleLog " admin").directory).compile
        "user_role:admin" = pure (.condition (.hasRole Column.actorRoles.name "admin")) ∧
      (∃ r, (roleLog " admin").get? 1 = some r ∧ r.actorRoles = ["admin"]) ∧
      (roleLog " admin").find (Condition.hasRole Column.actorRoles.name "admin").toFilter = .ok [] := by
  have hsearch : "user_role:" ++ "admin" = "user_role:admin" := by decide
  have hpadded : " " ++ "admin" = " admin" := by decide
  have hcompile := Compiler.compile_role
    (c := .new Catalog.standardFields (roleLog " admin").index (roleLog " admin").directory) Catalog.standard_eq
    (by decide : Text.IsWord "admin") (by decide)
  have hfind := find_padded (by decide : Text.IsWord "admin") (by decide) (by decide) (by decide)
  rw [hsearch] at hcompile
  rw [hpadded] at hfind
  exact ⟨hcompile, hfind⟩

end EventLog

end AuditSearch
