import AuditSearch.Proofs.Dictionary
import AuditSearch.Proofs.EventLog.Reachable

/-!
Events as they are kept in tables: an event is one row, and each text beside it another one that names the event. The
rows of an id are enough to read its event, and no other event's are taken for them.
-/
namespace AuditSearch

namespace Event

theorem toInt64_toInt (n : Int64) : Text.toInt64? n.toInt = some n := by
  rw [Text.toInt64?, if_pos ⟨n.minValue_le_toInt, n.toInt_le⟩, Int64.ofInt_toInt]

/-- An event is read from its row, but for what is kept beside it. -/
theorem ofRow_row (e : Event) : ofRow? e.row = some { e.readBack with metadata := .empty } := by
  have htext (s : Option String) : (Sql.Value.ofLiteral? (s.map .text)).optional? Sql.Value.content? = some s := by
    cases s <;> rfl
  have hsome (n : Int64) : (Sql.Value.ofLiteral? (some (.integer n))).integer64? = some n := toInt64_toInt n
  have hinteger (n : Option Int64) : (Sql.Value.ofLiteral? (n.map .integer)).optional? Sql.Value.integer64? = some n := by
    cases n with
    | none => rfl
    | some n => exact congrArg (Option.map some) (hsome n)
  simp only [row, Column.all, List.map_cons, List.map_nil, value, ofRow?, htext, hinteger, hsome]
  rfl

end Event

namespace EventLog

open Sql

/-- The key and the text of a row beside events, if it names the event of an id. -/
def entryOf? (id : Int64) : Row → Option (String × String)
  | [_, .integer n, .text key, .text value] => if n = id.toInt then some (key, value) else none
  | _ => none

/-- The event of an id as it is read from the tables: from its row, and from those beside events that name it. -/
def fetch? (log : EventLog) (id : Int64) : Option Event :=
  ((log.events.map Event.row).find? fun row => row.head? == some (.integer id.toInt)).bind fun row =>
    (Event.ofRow? row).map fun e => { e with metadata := .ofList (log.metadataRows.filterMap (entryOf? id)) }

theorem filterMap_metadataRows (log : EventLog) (id : Int64) : log.metadataRows.filterMap (entryOf? id) =
    log.events.flatMap fun e => if e.id = id then e.metadata.entries else [] := by
  have hrows : log.metadataRows = ((log.events.flatMap fun e => e.metadata.entries.map fun m => (e.id, m)).zipIdx.map
      fun m => [.integer (m.2 + 1), .integer m.1.1.toInt, .text m.1.2.1, .text m.1.2.2]) := rfl
  have hentry (m : (Int64 × String × String) × Nat) :
      entryOf? id [.integer (m.2 + 1), .integer m.1.1.toInt, .text m.1.2.1, .text m.1.2.2] =
        if m.1.1 = id then some m.1.2 else none := by
    simp [entryOf?, Int64.toInt_inj]
  -- The number of a row is not looked at, so the rows may be taken without it.
  have hfirst : (fun m : (Int64 × String × String) × Nat => if m.1.1 = id then some m.1.2 else none) =
      (fun m => if m.1 = id then some m.2 else none) ∘ Prod.fst := rfl
  rw [hrows, List.filterMap_map, Function.comp_def]
  simp only [hentry]
  rw [hfirst, ← List.filterMap_map, List.zipIdx_map_fst]
  induction log.events with
  | nil => rfl
  | cons e es ih =>
    rw [List.flatMap_cons, List.flatMap_cons, List.filterMap_append, ih]
    by_cases hid : e.id = id <;> simp [hid]

/-- The rows beside events that name an event are those of its own texts. -/
theorem filterMap_metadataRows_of_mem {log : EventLog} (hids : (log.events.map Event.id).Nodup) {e : Event}
    (he : e ∈ log.events) : log.metadataRows.filterMap (entryOf? e.id) = e.metadata.entries := by
  obtain ⟨before, after, hevents⟩ := List.append_of_mem he
  rw [hevents, List.map_append, List.map_cons, List.nodup_middle, List.nodup_cons, ← List.map_append] at hids
  have hother : ∀ f ∈ before ++ after, (if f.id = e.id then f.metadata.entries else []) = [] := fun f hf =>
    if_neg fun hid => hids.1 (List.mem_map.mpr ⟨f, hf, hid⟩)
  obtain ⟨hbefore, hafter⟩ := List.forall_mem_append.mp hother
  rw [filterMap_metadataRows, hevents, List.flatMap_append, List.flatMap_cons, if_pos rfl,
    List.flatMap_eq_nil_iff.mpr hbefore, List.flatMap_eq_nil_iff.mpr hafter, List.nil_append, List.append_nil]

/-- What is read from the tables under an id is what is read back under it. -/
theorem fetch_eq_get {log : EventLog} (hids : (log.events.map Event.id).Nodup) (id : Int64) :
    log.fetch? id = log.get? id := by
  have hrow : ((fun row : Row => row.head? == some (.integer id.toInt)) ∘ Event.row) = fun e => e.id == id := by
    funext e
    have hhead : e.row.head? = some (.integer e.id.toInt) := rfl
    simp [hhead, Int64.toInt_inj]
  rw [fetch?, get?, List.find?_map, hrow]
  cases hfind : log.events.find? fun e => e.id == id with
  | none => rfl
  | some e =>
    obtain rfl : e.id = id := by simpa using List.find?_some hfind
    rw [Option.map_some, Option.bind_some, Event.ofRow_row,
      filterMap_metadataRows_of_mem hids (List.mem_of_find?_eq_some hfind), Dictionary.ofList_entries]
    rfl

end EventLog

end AuditSearch
