import AuditSearch.Proofs.EventLog.Run
import AuditSearch.Proofs.EventLog.Search

/-!
Lookups of metadata over runs of a log. They find the events with a value that contains one of some texts, both in
lower case and as patterns read characters; texts that patterns tell apart are found just where they are contained.
-/
namespace AuditSearch

namespace EventLog

/-- The ids of the stored events with a value under a key that contains one of some texts, each once and in ascending
order. -/
structure IsFound (log : EventLog) (read : Char → Char) (key : String) (values : List String) (ids : List Int64) :
    Prop where
  ascending : ids.Pairwise (· < ·)
  mem : ∀ id, id ∈ ids ↔ ∃ e, log.get? id = some e ∧ ∃ v ∈ values, e.HasMetadata read key v

theorem IsFound.congr {log : EventLog} {read other : Char → Char} {key : String} {values : List String}
    {ids : List Int64} (h : log.IsFound read key values ids)
    (hiff : ∀ v ∈ values, ∀ e : Event, e.HasMetadata read key v ↔ e.HasMetadata other key v) :
    log.IsFound other key values ids where
  ascending := h.ascending
  mem id := by
    rw [h.mem]
    exact exists_congr fun e => and_congr_right fun _ => exists_congr fun v => and_congr_right fun hv => hiff v hv e

/-- What a lookup of metadata takes: not too many texts, none of them too long once it is in lower case and escaped, and
no null characters. -/
structure IsLookup (values : List String) : Prop where
  count : values.length ≤ maxPatterns
  short : ∀ v ∈ values, (containing (Text.lower v)).utf8ByteSize ≤ Sql.Value.maxPatternBytes
  nulFree : ∀ v ∈ values, Text.IsNulFree v

theorem ascending_findIds {log : EventLog} {key : String} {values : List String} {ids : List Int64}
    (h : log.findIds key values = .ok ids) : ids.Pairwise (· < ·) := by
  unfold findIds at h
  split at h
  · cases h
  · split at h
    · cases h
    · exact Except.ok.inj h ▸ IdSet.ascending _

/-- A lookup finds the events with a value that contains one of its texts as patterns see it. -/
theorem findIds_isFound {log : EventLog} (hids : (log.events.map Event.id).Nodup) (hnul : log.HasNulFreeMetadata)
    (key : String) {values : List String} (hvalues : IsLookup values) :
    ∃ ids, log.findIds key values = .ok ids ∧ log.IsFound Text.seen key values ids := by
  obtain ⟨ids, hfound⟩ := findIds_isOk log key hvalues.count hvalues.short
  refine ⟨ids, hfound, ascending_findIds hfound, fun id => ?_⟩
  rw [mem_findIds hfound hvalues.nulFree hnul]
  constructor
  · rintro ⟨e, he, hid, hhas⟩
    exact ⟨e.readBack, (get_eq_some_iff hids id _).mpr ⟨e, he, hid, rfl⟩, hhas⟩
  · rintro ⟨_, hget, hhas⟩
    obtain ⟨e, he, hid, rfl⟩ := (get_eq_some_iff hids id _).mp hget
    exact ⟨e, he, hid, hhas⟩

/-- A lookup of one text finds the first event of some run, which has no value that contains it. -/
def FindsTwin (key value : String) : Prop :=
  ∃ steps ids e, (run steps).HasNulFreeMetadata ∧ (run steps).findIds key [value] = .ok ids ∧ 1 ∈ ids ∧
    (run steps).get? 1 = some e ∧ ¬e.HasMetadata id key value

theorem findsTwin (key : String) {value : String} (hvalue : IsLookup [value]) {c : Char} (hc : c ∈ value.toList)
    (hconfusable : Text.isConfusable c) : FindsTwin key value := by
  have hstored := hasNulFreeMetadata_empty.record key
    (Text.isNulFree_twinOf (hvalue.nulFree value List.mem_cons_self))
  have hids : ((empty.record (metadataEvent key (Text.twinOf value))).events.map Event.id).Nodup :=
    List.nodup_singleton _
  obtain ⟨hseen, hplain⟩ := hasMetadata_twinOf key hc hconfusable
  obtain ⟨ids, hfound, hmem⟩ := findIds_isFound hids hstored key hvalue
  exact ⟨[.record (metadataEvent key (Text.twinOf value))], ids, _, hstored, hfound,
    (hmem.mem 1).mpr ⟨_, rfl, value, List.mem_cons_self, hseen⟩, rfl, hplain⟩

/-- After any steps a lookup of metadata has an answer: the ids of the stored events with a value under its key that
contains one of its texts, with characters as patterns read them, and with characters as they are if patterns tell them
apart. A text with a character that they take for another one is found in an event that does not contain it. -/
theorem run_finds_metadata (steps : List Step) (key : String) (values : List String)
    (hids : (recorded steps).length < 2 ^ 63) (hstored : (run steps).HasNulFreeMetadata) (hvalues : IsLookup values) :
    (∃ ids, (run steps).findIds key values = .ok ids ∧ (run steps).IsFound Text.seen key values ids ∧
      ((∀ v ∈ values, ∀ c ∈ v.toList, ¬Text.isConfusable c) → (run steps).IsFound id key values ids)) ∧
    ∀ value, IsLookup [value] → (∃ c ∈ value.toList, Text.isConfusable c) → FindsTwin key value := by
  constructor
  · obtain ⟨ids, hfound, hmem⟩ := findIds_isFound (nodup_run hids) hstored key hvalues
    exact ⟨ids, hfound, hmem, fun htold => hmem.congr fun v hv e => hasMetadata_seen_iff (htold v hv)⟩
  · rintro value hvalue ⟨c, hc, hconfusable⟩
    exact findsTwin key hvalue hc hconfusable

/-- Steps that record two events with titles. -/
def titling : List Step :=
  [.record (metadataEvent "PostTitle" "100% \u00C9t\u00E9"), .reopen,
    .record (metadataEvent "PostTitle" "100 \u00C9tudes")]

theorem run_finds_metadata_titling :
    (∃ ids, (run titling).findIds "PostTitle" ["0% \u00E9T", "x"] = .ok ids ∧
      (run titling).IsFound id "PostTitle" ["0% \u00E9T", "x"] ids) ∧ FindsTwin "PostTitle" "a\uFFFD" := by
  have hstored : (run titling).HasNulFreeMetadata :=
    (hasNulFreeMetadata_empty.record "PostTitle" (by decide)).record "PostTitle" (by decide)
  obtain ⟨⟨ids, hfound, -, hplain⟩, htwin⟩ := run_finds_metadata titling "PostTitle" ["0% \u00E9T", "x"] (by decide)
    hstored ⟨by decide, by decide, by decide⟩
  exact ⟨⟨ids, hfound, hplain (by simp [Text.isConfusable])⟩,
    htwin "a\uFFFD" ⟨by decide, by decide, by decide⟩ ⟨'\uFFFD', by decide, by decide⟩⟩

/-- A lookup of the text U+FFFE finds an event with the title U+FFFF, which does not contain it. -/
theorem findIds_takes_noncharacters_as_one :
    IsLookup ["\uFFFE"] ∧
      (run [.record (metadataEvent "PostTitle" "\uFFFF")]).findIds "PostTitle" ["\uFFFE"] = .ok [1] ∧
      ¬(run [.record (metadataEvent "PostTitle" "\uFFFF")]).IsFound id "PostTitle" ["\uFFFE"] [1] := by
  have htwin : Text.twinOf "\uFFFE" = "\uFFFF" := by decide
  refine ⟨⟨by decide, by decide, by decide⟩, by decide, fun hfound => ?_⟩
  obtain ⟨e, hget, v, hv, hhas⟩ := (hfound.mem 1).mp List.mem_cons_self
  obtain rfl := List.mem_singleton.mp hv
  obtain rfl := Option.some.inj hget
  exact (htwin ▸ @hasMetadata_twinOf "PostTitle" "\uFFFE" '\uFFFE' (by decide) (by decide)).2 hhas

end EventLog

end AuditSearch
