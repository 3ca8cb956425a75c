import AuditSearch.EventLog.Search
import AuditSearch.Proofs.Search.Lookup
import AuditSearch.Proofs.Text.Lower

/-!
What an event log answers to lookups: the ids of the events with a value that contains a text, and the identities
with an attribute of some value.
-/
namespace AuditSearch

/-- An event has a value under a key that contains a text, both in lower case, where characters are first read in
some way. -/
def Event.HasMetadata (read : Char → Char) (e : Event) (key part : String) : Prop :=
  ∃ text, e.metadata.get? key = some text ∧
    (Text.lower part).toList.map read <:+: (Text.lower text).toList.map read

/-- An identity has an attribute of some value: an id of that integer, or a text that is the same in lower case. -/
def Identity.Matches (i : Identity) (attr : Attribute) (value : String) : Prop :=
  match attr with
  | .id => Literal.integerOf? value = some i.id
  | attr => Text.lower (EventLog.attributeText attr i) = Text.lower value

namespace EventLog

/-- No stored value beside an event has a null character in it. -/
def HasNulFreeMetadata (log : EventLog) : Prop :=
  ∀ e ∈ log.events, ∀ key text, e.metadata.get? key = some text → Text.IsNulFree text

section
variable {α : Type} {p : α → Option Bool}

theorem mem_filterAuxM (as : List α) : ∀ {found res : List α}, as.filterAuxM p found = some res →
    (∀ a ∈ as, p a ≠ none) ∧ ∀ a, a ∈ res ↔ a ∈ found ∨ a ∈ as ∧ p a = some true := by
  induction as with
  | nil =>
    intro found res h
    obtain rfl : found = res := Option.some.inj h
    simp
  | cons b as ih =>
    intro found res h
    rw [List.filterAuxM, Option.bind_eq_bind, Option.bind_eq_some_iff] at h
    obtain ⟨accepted, hb, h⟩ := h
    obtain ⟨hsome, hmem⟩ := ih h
    refine ⟨fun a ha => ?_, fun a => ?_⟩
    · obtain rfl | ha := List.mem_cons.mp ha
      · simp [hb]
      · exact hsome a ha
    · rw [hmem]
      by_cases hab : a = b
      · subst hab
        cases accepted <;> simp [hb]
      · cases accepted <;> simp [hab]

/-- A test that has an answer on every member of a list finds those on which it is true. -/
theorem mem_filterM {as res : List α} (h : as.filterM p = some res) :
    (∀ a ∈ as, p a ≠ none) ∧ ∀ a, a ∈ res ↔ a ∈ as ∧ p a = some true := by
  rw [List.filterM, Option.bind_eq_bind, Option.bind_eq_some_iff] at h
  obtain ⟨found, hfound, h⟩ := h
  obtain rfl : found.reverse = res := Option.some.inj h
  simpa using mem_filterAuxM as hfound

theorem exists_filterM {as : List α} (h : ∀ a ∈ as, p a ≠ none) : ∃ res, as.filterM p = some res := by
  have haux : ∀ found, ∃ res, as.filterAuxM p found = some res := by
    induction as with
    | nil => exact fun found => ⟨found, rfl⟩
    | cons a as ih =>
      obtain ⟨ha, has⟩ := List.forall_mem_cons.mp h
      obtain ⟨accepted, haccepted⟩ := Option.ne_none_iff_exists'.mp ha
      intro found
      obtain ⟨res, hres⟩ := ih has (cond accepted (a :: found) found)
      exact ⟨res, by rw [List.filterAuxM, haccepted]; exact hres⟩
  obtain ⟨res, hres⟩ := haux []
  exact ⟨res.reverse, by rw [List.filterM, hres]; rfl⟩

end

theorem isLikeAny_eq_some {text : String} {ps : List String} {b : Bool} (h : isLikeAny? text ps = some b) :
    b = true ↔ ∃ p ∈ ps, Text.isLike (some Text.wildcardEscape) (Text.readable p) (Text.readable text) := by
  induction ps with
  | nil =>
    obtain rfl : false = b := Option.some.inj h
    simp
  | cons p ps ih =>
    rw [isLikeAny?] at h
    split at h
    · cases h
    · split at h
      · rename_i hlike
        obtain rfl : true = b := Option.some.inj h
        simp [hlike]
      · rename_i hlike
        simp [ih h, hlike]

theorem isLikeAny_ne_none {ps : List String} (h : ∀ p ∈ ps, p.utf8ByteSize ≤ Sql.Value.maxPatternBytes) (text : String) :
    isLikeAny? text ps ≠ none := by
  induction ps with
  | nil => exact Option.some_ne_none _
  | cons p ps ih =>
    obtain ⟨hp, hps⟩ := List.forall_mem_cons.mp h
    rw [isLikeAny?, if_neg (Nat.not_lt.mpr hp)]
    split
    · exact Option.some_ne_none _
    · exact ih hps

theorem isLike_containing {part text : String} (hpart : Text.IsNulFree part) (htext : Text.IsNulFree text) :
    Text.isLike (some Text.wildcardEscape) (Text.readable (containing (Text.lower part)))
        (Text.readable (Text.lower text)) ↔
      (Text.lower part).toList.map Text.seen <:+: (Text.lower text).toList.map Text.seen := by
  rw [containing, Text.isLike_readable (Text.isNulFree_lower hpart) (Text.isNulFree_lower htext),
    Text.fold_seen_lower, Text.fold_seen_lower]

theorem hasMetadata_eq_some {e : Event} {key : String} {values : List String} {b : Bool}
    (h : hasMetadata? key (values.map fun v => containing (Text.lower v)) e = some b)
    (hvalues : ∀ v ∈ values, Text.IsNulFree v) (hnul : ∀ text, e.metadata.get? key = some text → Text.IsNulFree text) :
    b = true ↔ ∃ v ∈ values, e.HasMetadata Text.seen key v := by
  rw [hasMetadata?] at h
  cases htext : e.metadata.get? key with
  | none =>
    rw [htext] at h
    simp [Event.HasMetadata, htext, ← Option.some.inj h]
  | some text =>
    rw [htext] at h
    rw [isLikeAny_eq_some h]
    simp only [List.mem_map, exists_exists_and_eq_and, Event.HasMetadata, htext, Option.some.injEq, exists_eq_left']
    exact exists_congr fun v => and_congr_right fun hv => isLike_containing (hvalues v hv) (hnul text htext)

/-- The ids that are found are those of events with a value that is like a pattern. -/
theorem mem_findIds_iff {log : EventLog} {key : String} {values : List String} {ids : List Int64}
    (h : log.findIds key values = .ok ids) :
    (∀ e ∈ log.events, hasMetadata? key (values.map fun v => containing (Text.lower v)) e ≠ none) ∧
      ∀ id, id ∈ ids ↔ ∃ e ∈ log.events, e.id = id ∧
        hasMetadata? key (values.map fun v => containing (Text.lower v)) e = some true := by
  rw [findIds] at h
  split at h
  · cases h
  · split at h
    · cases h
    · rename_i es hes
      obtain ⟨hsome, hmem⟩ := mem_filterM hes
      refine ⟨hsome, fun id => ?_⟩
      obtain rfl := Except.ok.inj h
      change id ∈ IdSet.ofList (es.map (·.id)) ↔ _
      rw [IdSet.mem_ofList, List.mem_map]
      exact exists_congr fun e => by rw [hmem, and_assoc, and_comm (a := e.id = id)]

/-- The ids that are found are those of events with a value that contains one of the texts, as patterns see it. -/
theorem mem_findIds {log : EventLog} {key : String} {values : List String} {ids : List Int64}
    (h : log.findIds key values = .ok ids) (hvalues : ∀ v ∈ values, Text.IsNulFree v) (hnul : log.HasNulFreeMetadata)
    (id : Int64) : id ∈ ids ↔ ∃ e ∈ log.events, e.id = id ∧ ∃ v ∈ values, e.HasMetadata Text.seen key v := by
  obtain ⟨hsome, hmem⟩ := mem_findIds_iff h
  rw [hmem]
  refine exists_congr fun e => and_congr_right fun he => and_congr_right fun _ => ?_
  obtain ⟨b, hb⟩ := Option.ne_none_iff_exists'.mp (hsome e he)
  rw [hb, Option.some_inj]
  exact hasMetadata_eq_some hb hvalues (hnul e he key)

/-- A lookup of metadata has an answer if its values are not too many and none is too long. -/
theorem findIds_isOk (log : EventLog) (key : String) {values : List String} (hcount : values.length ≤ maxPatterns)
    (hshort : ∀ v ∈ values, (containing (Text.lower v)).utf8ByteSize ≤ Sql.Value.maxPatternBytes) :
    ∃ ids, log.findIds key values = .ok ids := by
  have htest : ∀ e ∈ log.events, hasMetadata? key (values.map fun v => containing (Text.lower v)) e ≠ none := by
    intro e _
    rw [hasMetadata?]
    split
    · exact isLikeAny_ne_none (List.forall_mem_map.mpr hshort) _
    · exact Option.some_ne_none _
  obtain ⟨es, hes⟩ := exists_filterM htest
  exact ⟨_, by rw [findIds, if_neg (Nat.not_lt.mpr hcount), hes]⟩

theorem mem_select {log : EventLog} {values : Nat} {test : Identity → Bool} {is : List Identity}
    (h : log.select values test = .ok is) (i : Identity) :
    i ∈ is ↔ ∃ k ∈ log.identities, test k ∧ k.readBack = i := by
  rw [select] at h
  split at h
  · cases h
  · obtain rfl := Except.ok.inj h
    simp [and_assoc]

/-- How many values a lookup hands to the database: ids that do not read as integers are left out. -/
def lookupSize (attr : Attribute) (values : List String) : Nat :=
  match attr with
  | .id => (values.filterMap Literal.integerOf?).length
  | _ => values.length

/-- A lookup of identities has an answer if its values are not too many, and that keeps the order of the directory. -/
theorem findIdentities_eq_ok (log : EventLog) {attr : Attribute} {values : List String}
    (hsize : lookupSize attr values ≤ Sql.ParamNames.maxCount) :
    ∃ test, log.findIdentities attr values = .ok ((log.identities.filter test).map Identity.readBack) := by
  have hselect {size : Nat} (hsize : size ≤ Sql.ParamNames.maxCount) (test : Identity → Bool) :
      log.select size test = .ok ((log.identities.filter test).map Identity.readBack) := by
    rw [select, if_neg (Nat.not_lt.mpr hsize)]
  cases attr with
  | id => exact ⟨_, hselect hsize _⟩
  | login | firstName | lastName | email => exact ⟨_, hselect (by rwa [List.length_map]) _⟩

/-- The identities that are found are those with the attribute of one of the values. -/
theorem mem_findIdentities {log : EventLog} {attr : Attribute} {values : List String} {is : List Identity}
    (h : log.findIdentities attr values = .ok is) (i : Identity) :
    i ∈ is ↔ ∃ k ∈ log.identities, (∃ v ∈ values, k.Matches attr v) ∧ k.readBack = i := by
  cases attr with
  | id =>
    rw [mem_select h]
    simp [Identity.Matches]
  | _ =>
    rw [mem_select h]
    simp [Identity.Matches, eq_comm]

end EventLog

end AuditSearch
