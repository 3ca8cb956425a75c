import AuditSearch.EventLog.Search
import Mathlib

/-! Logs as they come to be: what events are recorded and what identities are enrolled. -/
namespace AuditSearch

namespace EventLog

/-- The logs that come of an empty one by recording events and enrolling identities. -/
inductive Reachable : EventLog → Prop
  | empty : Reachable empty
  | record {log : EventLog} (h : Reachable log) (e : Event) : Reachable (log.record e)
  | enroll {log : EventLog} (h : Reachable log) (i : Identity) : Reachable (log.enroll i)

/-- Events have the ids from 1 on, in turn. -/
def IsNumbered (log : EventLog) : Prop :=
  log.events.map Event.id = (List.range log.events.length).map fun n => Int64.ofNat (n + 1)

theorem isNumbered_record {log : EventLog} (h : log.IsNumbered) (e : Event) : (log.record e).IsNumbered := by
  simp only [IsNumbered, record, List.map_append, List.length_append, List.length_cons, List.length_nil] at h ⊢
  rw [h, List.range_succ, List.map_append]
  rfl

theorem Reachable.isNumbered {log : EventLog} (h : log.Reachable) : log.IsNumbered := by
  induction h with
  | empty => rfl
  | record _ e ih => exact isNumbered_record ih e
  | enroll _ i ih => exact ih

/-- No two events have one id while there are ids left. -/
theorem IsNumbered.nodup {log : EventLog} (h : log.IsNumbered) (hcount : log.count < 2 ^ 63) :
    (log.events.map Event.id).Nodup := by
  rw [h, List.nodup_map_iff_inj_on List.nodup_range]
  intro n hn m hm heq
  rw [List.mem_range] at hn hm
  have hint := congrArg Int64.toInt heq
  simp only [count] at hcount
  rw [Int64.toInt_ofNat_of_lt (by omega), Int64.toInt_ofNat_of_lt (by omega)] at hint
  omega

end EventLog

end AuditSearch
