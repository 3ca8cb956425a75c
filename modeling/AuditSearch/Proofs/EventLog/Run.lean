import AuditSearch.Proofs.EventLog.Find
import AuditSearch.Proofs.EventLog.Storage

/-!
Runs of an event log: events are recorded, identities are enrolled, and a log on a disk is closed and opened again.
The events that a run records stay under the ids from 1 on, and nothing else is stored.
-/
namespace AuditSearch

namespace EventLog

/-- What is done to a log. -/
inductive Step where
  | record (e : Event)
  | enroll (i : Identity)
  /-- Closes the log and opens it again, on a disk. -/
  | reopen

def Step.event? : Step → Option Event
  | record e => some e
  | _ => none

def step (log : EventLog) : Step → EventLog
  | .record e => log.record e
  | .enroll i => log.enroll i
  | .reopen => log.reopen .disk

/-- The log that comes of an empty one by some steps. -/
def run (steps : List Step) : EventLog :=
  steps.foldl step empty

/-- The events that some steps record, in turn. -/
def recorded (steps : List Step) : List Event :=
  steps.filterMap Step.event?

theorem run_concat (steps : List Step) (s : Step) : run (steps ++ [s]) = (run steps).step s := by
  simp [run]

theorem recorded_append (steps more : List Step) : recorded (steps ++ more) = recorded steps ++ recorded more :=
  List.filterMap_append ..

theorem recorded_cons (e : Event) (steps : List Step) : recorded (.record e :: steps) = e :: recorded steps :=
  rfl

/-- Events under the ids from 1 on, in turn. -/
def numbered (es : List Event) : List Event :=
  es.mapIdx fun n e => { e with id := Int64.ofNat (n + 1) }

theorem numbered_concat (es : List Event) (e : Event) :
    numbered (es ++ [e]) = numbered es ++ [{ e with id := Int64.ofNat (es.length + 1) }] := by
  simp [numbered, List.mapIdx_append]

theorem length_numbered (es : List Event) : (numbered es).length = es.length :=
  List.length_mapIdx

/-- A step records at most its own event, under the next id, and leaves those before as they are. -/
theorem events_step (log : EventLog) (s : Step) :
    (log.step s).events = log.events ++ s.event?.toList.map fun e => { e with id := log.nextId } := by
  cases s with
  | record e => rfl
  | enroll i => exact (List.append_nil _).symm
  | reopen => exact (List.append_nil _).symm

theorem events_run (steps : List Step) : (run steps).events = numbered (recorded steps) := by
  induction steps using List.reverseRecOn with
  | nil => rfl
  | append_singleton steps s ih =>
    rw [run_concat, events_step, recorded_append, nextId, ih, length_numbered]
    cases s with
    | record e => exact (numbered_concat _ e).symm
    | enroll i | reopen =>
      have hnone (s : Step) (hs : s.event? = none) : recorded steps ++ recorded [s] = recorded steps := by
        simp [recorded, hs]
      rw [hnone _ rfl]
      exact List.append_nil _

theorem count_run (steps : List Step) : (run steps).count = (recorded steps).length := by
  rw [count, events_run, length_numbered]

theorem nextId_run (steps : List Step) : (run steps).nextId = Int64.ofNat ((recorded steps).length + 1) := by
  rw [nextId, events_run, length_numbered]

theorem isNumbered_run (steps : List Step) : (run steps).IsNumbered := by
  induction steps using List.reverseRecOn with
  | nil => rfl
  | append_singleton steps s ih =>
    rw [run_concat]
    cases s with
    | record e => exact isNumbered_record ih e
    | enroll i | reopen => exact ih

theorem nodup_run {steps : List Step} (h : (recorded steps).length < 2 ^ 63) :
    ((run steps).events.map Event.id).Nodup :=
  (isNumbered_run steps).nodup (by rwa [count_run])

theorem mem_events_run {steps : List Step} {f : Event} : f ∈ (run steps).events ↔
    ∃ (n : Nat) (e : Event), (recorded steps)[n]? = some e ∧ { e with id := Int64.ofNat (n + 1) } = f := by
  simp only [events_run, List.mem_iff_getElem?, numbered, List.getElem?_mapIdx, Option.map_eq_some_iff]

/-- What was recorded under an id is read back under it. -/
theorem get_run {steps : List Step} (h : (recorded steps).length < 2 ^ 63) (id : Int64) (r : Event) :
    (run steps).get? id = some r ↔ ∃ n e, (recorded steps)[n]? = some e ∧ Int64.ofNat (n + 1) = id ∧
      { e with id := id, actorRoles := Roles.parse e.rolesText } = r := by
  simp only [get_eq_some_iff (nodup_run h), mem_events_run]
  constructor
  · rintro ⟨_, ⟨n, e, he, rfl⟩, rfl, rfl⟩
    exact ⟨n, e, he, rfl, rfl⟩
  · rintro ⟨n, e, he, rfl, rfl⟩
    exact ⟨_, ⟨n, e, he, rfl⟩, rfl, rfl⟩

theorem toInt_ofNat_succ {n k : Nat} (h : n < k) (hk : k < 2 ^ 63) : (Int64.ofNat (n + 1)).toInt = n + 1 := by
  rw [Int64.toInt_ofNat_of_lt (by omega)]
  rfl

theorem get_eq_none {steps : List Step} (h : (recorded steps).length < 2 ^ 63) {id : Int64}
    (hid : ¬(1 ≤ id.toInt ∧ id.toInt ≤ (recorded steps).length)) : (run steps).get? id = none := by
  rw [Option.eq_none_iff_forall_not_mem]
  intro r hr
  obtain ⟨n, e, he, rfl, -⟩ := (get_run h id r).mp hr
  obtain ⟨hn, -⟩ := List.getElem?_eq_some_iff.mp he
  rw [toInt_ofNat_succ hn h] at hid
  omega

/-- All events of a run, the newest first. -/
theorem find_always {steps : List Step} (h : (recorded steps).length < 2 ^ 63) :
    ∃ answer, (run steps).IsAnswer .always (fun _ => True) answer :=
  find_stored (c := .always) (nodup_run h) (by decide) ⟨by decide, by decide, by decide⟩ fun _ _ => by
    simp [Condition.truthBy, Condition.storedTruth]

/-- What is read back has roles that are read back as they are. -/
theorem parse_rolesText_of_get {log : EventLog} {id : Int64} {r : Event} (h : log.get? id = some r) :
    Roles.parse r.rolesText = r.actorRoles := by
  obtain ⟨e, -, rfl⟩ := Option.map_eq_some_iff.mp h
  exact Roles.parse_join_parse _

/-- The events that a run records get the ids from 1 on. They stay there with all that they were recorded with but for
their roles, which are those that their text lists: the same ones, if all are names or if they were read back before.
No other id has an event; what is read back under an id is what the tables hold for it; and the condition that always
holds finds all events, the newest first. -/
theorem run_keeps_events (steps : List Step) (hids : (recorded steps).length < 2 ^ 63) :
    (∀ before e after, steps = before ++ .record e :: after →
      (run before).nextId.toInt = (recorded before).length + 1 ∧
      (run steps).get? (run before).nextId =
        some { e with id := (run before).nextId, actorRoles := Roles.parse e.rolesText } ∧
      ((∀ role ∈ e.actorRoles, Roles.IsName role) ∨ (∃ id, (run before).get? id = some e) →
        (run steps).get? (run before).nextId = some { e with id := (run before).nextId })) ∧
    (∀ id : Int64, ¬(1 ≤ id.toInt ∧ id.toInt ≤ (recorded steps).length) → (run steps).get? id = none) ∧
    (∀ id, (run steps).fetch? id = (run steps).get? id) ∧
    (run steps).count = (recorded steps).length ∧
    ∃ answer, (run steps).IsAnswer .always (fun _ => True) answer := by
  refine ⟨fun before e after hsteps => ?_, fun id => get_eq_none hids, fetch_eq_get (nodup_run hids), count_run steps,
    find_always hids⟩
  have hrecorded : recorded steps = recorded before ++ e :: recorded after := by
    rw [hsteps, recorded_append, recorded_cons]
  have hlength : (recorded before).length < (recorded steps).length := by simp [hrecorded]
  have hget : (run steps).get? (run before).nextId =
      some { e with id := (run before).nextId, actorRoles := Roles.parse e.rolesText } := by
    refine (get_run hids _ _).mpr ⟨(recorded before).length, e, ?_, (nextId_run before).symm, rfl⟩
    simp [hrecorded]
  refine ⟨?_, hget, fun hroles => ?_⟩
  · rw [nextId_run, toInt_ofNat_succ hlength hids]
  · have hparse : Roles.parse e.rolesText = e.actorRoles := by
      obtain hnames | ⟨id, hread⟩ := hroles
      · exact Roles.parse_join hnames
      · exact parse_rolesText_of_get hread
    rw [hget, hparse]

/-- Steps that record an event, and record it once more as it is read back. -/
def rerecording (e : Event) : List Step :=
  [.record e, .enroll ⟨7, "ann", "", "", "", []⟩, .reopen,
    .record { e with id := 1, actorRoles := Roles.parse e.rolesText }]

theorem run_keeps_events_rerecording :
    let e : Event := { roleEvent " admin" with id := 41, actorRoles := [" admin", "a,b"] }
    let log := run (rerecording e)
    log.get? 1 = some { e with id := 1, actorRoles := ["admin", "a", "b"] } ∧
      log.get? 2 = some { e with id := 2, actorRoles := ["admin", "a", "b"] } ∧
      log.get? 41 = none ∧ log.count = 2 ∧ ∃ answer, log.IsAnswer .always (fun _ => True) answer := by
  intro e log
  obtain ⟨hrecorded, hnone, -, hcount, hfind⟩ := run_keeps_events (rerecording e) (by decide)
  have hroles : Roles.parse e.rolesText = ["admin", "a", "b"] := by decide
  have hids : (run []).nextId = 1 ∧ (run ((rerecording e).take 3)).nextId = 2 := by decide
  have hfirst := (hrecorded [] e _ rfl).2.1
  have hsecond := (hrecorded ((rerecording e).take 3) _ [] rfl).2.2 (.inr ⟨1, by decide⟩)
  rw [hids.1, hroles] at hfirst
  rw [hids.2, hroles] at hsecond
  exact ⟨hfirst, hsecond, hnone 41 (by decide), hcount, hfind⟩

end EventLog

end AuditSearch
