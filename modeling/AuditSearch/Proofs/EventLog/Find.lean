import AuditSearch.Proofs.Condition.Agreement
import AuditSearch.Proofs.Condition.Rendering
import AuditSearch.Proofs.EventLog.Reachable

/-!
Events that a condition finds in a log: those that its clause is true of are those that it accepts, the newest first.
-/
namespace AuditSearch

/-! ### The order of an answer -/

namespace Event

theorem place_perm (first : Event → Event → Bool) (e : Event) (es : List Event) : (place first e es).Perm (e :: es) := by
  induction es with
  | nil => exact .refl _
  | cons f fs ih =>
    rw [place]
    split
    · exact (ih.cons f).trans (.swap e f fs)
    · exact .refl _

theorem arrange_perm (first : Event → Event → Bool) (es : List Event) : (arrange first es).Perm es := by
  induction es with
  | nil => exact .refl _
  | cons e es ih => exact (place_perm first e _).trans (ih.cons e)

theorem precedes_iff (a b : Event) : a.precedes b ↔ b.createdTimestamp.toInt < a.createdTimestamp.toInt ∨
    a.createdTimestamp.toInt = b.createdTimestamp.toInt ∧ b.id.toInt < a.id.toInt := by
  simp [precedes, Int64.lt_iff_toInt_lt, Int64.toInt_inj]

/-- An event that is put at its place comes behind none that comes first. -/
theorem place_sorted (e : Event) {es : List Event} (h : es.Pairwise fun a b => ¬b.precedes a) :
    (place precedes e es).Pairwise fun a b => ¬b.precedes a := by
  induction es with
  | nil => simp [place]
  | cons f fs ih =>
    obtain ⟨hf, hfs⟩ := List.pairwise_cons.mp h
    rw [place]
    split
    · rename_i hfirst
      refine List.pairwise_cons.mpr ⟨fun g hg => ?_, ih hfs⟩
      obtain rfl | hg := List.mem_cons.mp ((place_perm precedes e fs).subset hg)
      · rw [precedes_iff] at hfirst ⊢
        omega
      · exact hf g hg
    · rename_i hfirst
      refine List.pairwise_cons.mpr ⟨fun g hg => ?_, h⟩
      obtain rfl | hg := List.mem_cons.mp hg
      · exact hfirst
      · have hgf := hf g hg
        rw [precedes_iff] at hfirst hgf ⊢
        omega

theorem newestFirst_sorted (es : List Event) : (newestFirst es).Pairwise fun a b => ¬b.precedes a := by
  induction es with
  | nil => exact .nil
  | cons e es ih => exact place_sorted e ih

/-- Events of different ids come one before the other. -/
theorem newestFirst_strict {es : List Event} (h : (es.map Event.id).Nodup) :
    (newestFirst es).Pairwise fun a b => a.precedes b := by
  have hids : (newestFirst es).Pairwise fun a b => a.id ≠ b.id := by
    rw [← List.pairwise_map]
    exact ((arrange_perm precedes es).map Event.id).nodup_iff.mpr h
  refine ((newestFirst_sorted es).and hids).imp fun {a b} hab => ?_
  obtain ⟨hfirst, hid⟩ := hab
  rw [ne_eq, ← Int64.toInt_inj] at hid
  rw [precedes_iff] at hfirst ⊢
  omega

/-- An event is read back with the values in its columns that it was recorded with. -/
theorem column_readBack {e : Event} (h : Roles.IsClean e.rolesText) (name : String) :
    e.readBack.column? name = e.column? name := by
  have hroles : e.readBack.rolesText = e.rolesText := Roles.join_parse h
  rw [column?, column?]
  congr 1
  funext column
  cases column with
  | actorRoles => simp only [value, hroles]
  | _ => rfl

end Event

namespace Condition

theorem readTruth_congr (read : Char → Char) {e f : Event} (h : ∀ name, e.column? name = f.column? name)
    (c : Condition) : c.readTruth read e = c.readTruth read f := by
  refine truthBy_congr fun t ht => ?_
  have htest := isTest_of_mem_tests ht
  cases t with
  | all _ | any _ | not _ => simp [isTest] at htest
  | _ => simp only [testTruth, truth, h]

theorem accepts_congr {e f : Event} (h : ∀ name, e.column? name = f.column? name) (c : Condition) :
    c.accepts e = c.accepts f := by
  rw [← acceptsAs_id, ← acceptsAs_id, acceptsAs, acceptsAs, readTruth_congr id h]

end Condition

namespace EventLog

open Sql Condition

/-- A filter whose clause is prepared as a condition selects the events on whose rows that evaluates to true. -/
theorem find_of_evaluates (log : EventLog) {f : Filter} {condition : Expr} {truth : Event → Truth}
    (hprepare : EventQuery.prepare? f.clause =
      some ⟨EventQuery.eventStatement condition, f.params.length, some condition⟩)
    (hevaluates : ∀ e, Evaluates (log.session f.params) (fun _ _ => []) (eventEnv e) condition (truth e)) :
    log.find f = .ok ((Event.newestFirst (log.events.filter fun e => truth e == some true)).map Event.readBack) := by
  have hmeets : log.meets f.params condition = fun e => truth e == some true := by
    funext e
    have htest := (hevaluates e).test false
    rw [meets, Expr.holds]
    rcases htruth : truth e with _ | _ | _ <;> simp_all [eventEnv]
  have htotal : condition.isTotal (log.session f.params).params = true :=
    (hevaluates ⟨0, 0, 0, 0, none, none, none, none, none, none, none, [], none, .empty⟩).total
  simp only [find, hprepare, if_true, answer?, Option.filter_some, htotal, hmeets]

/-- The clause of a condition selects the events on whose rows the condition is true. -/
theorem find_toFilter (log : EventLog) {c : Condition} (h : c.IsOverSchema) (hlimits : c.IsWithinLimits) :
    log.find c.toFilter = .ok ((Event.newestFirst
      (log.events.filter fun e => c.truthBy (storedTruth e) == some true)).map Event.readBack) :=
  find_of_evaluates log (EventQuery.prepare_toFilter h hlimits.params hlimits.height) fun _ =>
    evaluates_expr h hlimits.patterns rfl 0 (List.prefix_refl _)

/-- Every stored role list is clean. -/
def HasCleanRoles (log : EventLog) : Prop :=
  ∀ e ∈ log.events, Roles.IsClean e.rolesText

/-- No stored role list has a null character in it. -/
def HasNulFreeRoles (log : EventLog) : Prop :=
  ∀ e ∈ log.events, Text.IsNulFree e.rolesText

theorem get_eq_some_iff {log : EventLog} (h : (log.events.map Event.id).Nodup) (id : Int64) (r : Event) :
    log.get? id = some r ↔ ∃ e ∈ log.events, e.id = id ∧ e.readBack = r := by
  rw [get?, Option.map_eq_some_iff]
  constructor
  · rintro ⟨e, he, rfl⟩
    exact ⟨e, List.mem_of_find?_eq_some he, by simpa using List.find?_some he, rfl⟩
  · rintro ⟨e, he, rfl, rfl⟩
    have hsome : (log.events.find? fun f => f.id == e.id).isSome := by
      simpa using ⟨e, he, rfl⟩
    obtain ⟨f, hf⟩ := Option.isSome_iff_exists.mp hsome
    have hid : f.id = e.id := by simpa using List.find?_some hf
    have heq : f = e := List.inj_on_of_nodup_map h (List.mem_of_find?_eq_some hf) he hid
    exact ⟨f, hf, by rw [heq]⟩

/-- The events that a filter is answered with are all those of some among the stored ones, each once and the
newest first. -/
structure IsAnswer (log : EventLog) (f : Filter) (accepts : Event → Prop) (answer : List Event) : Prop where
  find : log.find f = .ok answer
  sorted : answer.Pairwise fun a b => a.precedes b
  mem : ∀ r, r ∈ answer ↔ (∃ id, log.get? id = some r) ∧ accepts r

theorem IsAnswer.congr {log : EventLog} {f : Filter} {accepts accepts' : Event → Prop} {answer : List Event}
    (h : log.IsAnswer f accepts answer) (hiff : ∀ id r, log.get? id = some r → (accepts r ↔ accepts' r)) :
    log.IsAnswer f accepts' answer where
  find := h.find
  sorted := h.sorted
  mem r := by
    rw [h.mem]
    exact and_congr_right fun ⟨id, hid⟩ => hiff id r hid

/-- A condition finds the events on whose rows it is true, where that is told by what is read back of them. -/
theorem find_stored {log : EventLog} {c : Condition} (hids : (log.events.map Event.id).Nodup) (h : c.IsOverSchema)
    (hlimits : c.IsWithinLimits) {accepts : Event → Prop}
    (haccepts : ∀ e ∈ log.events, c.truthBy (storedTruth e) = some true ↔ accepts e.readBack) :
    ∃ answer, log.IsAnswer c.toFilter accepts answer := by
  refine ⟨_, find_toFilter log h hlimits, ?_, fun r => ?_⟩
  · rw [List.pairwise_map]
    have hsub : ((log.events.filter fun e => c.truthBy (storedTruth e) == some true).map Event.id).Nodup :=
      hids.sublist (List.filter_sublist.map _)
    exact Event.newestFirst_strict hsub
  · have hperm := Event.arrange_perm Event.precedes
      (log.events.filter fun e => c.truthBy (storedTruth e) == some true)
    simp only [List.mem_map, Event.newestFirst, hperm.mem_iff, List.mem_filter, beq_iff_eq, get_eq_some_iff hids]
    constructor
    · rintro ⟨e, ⟨he, htrue⟩, rfl⟩
      exact ⟨⟨_, e, he, rfl, rfl⟩, (haccepts e he).mp htrue⟩
    · rintro ⟨⟨_, e, he, rfl, rfl⟩, htrue⟩
      exact ⟨e, ⟨he, (haccepts e he).mpr htrue⟩, rfl⟩

/-- A condition finds the events that it accepts, where roles are read as patterns see them. -/
theorem find_acceptedAs {log : EventLog} {c : Condition} (hlog : log.Reachable) (hcount : log.count < 2 ^ 63)
    (hclean : log.HasCleanRoles) (hnul : log.HasNulFreeRoles) (htyped : ∀ t ∈ c.tests, t.IsTypedTest)
    (hroleNul : ∀ t ∈ c.tests, t.HasNulFreeRole) (hlimits : c.IsWithinLimits) :
    ∃ answer, log.IsAnswer c.toFilter (fun r => c.acceptsAs Text.seen r) answer := by
  refine find_stored (hlog.isNumbered.nodup hcount) (isOverSchema_of_isTyped htyped) hlimits fun e he => ?_
  rw [truthBy_storedTruth htyped hroleNul (hclean e he) (hnul e he), acceptsAs,
    readTruth_congr _ (Event.column_readBack (hclean e he)), beq_iff_eq]

/-- Every event that is read back has a clean role list. -/
theorem HasCleanRoles.of_get {log : EventLog} (h : log.HasCleanRoles) {id : Int64} {r : Event}
    (hr : log.get? id = some r) : Roles.IsClean r.rolesText := by
  obtain ⟨e, he, rfl⟩ := Option.map_eq_some_iff.mp hr
  have hroles : e.readBack.rolesText = e.rolesText := Roles.join_parse (h e (List.mem_of_find?_eq_some he))
  rw [hroles]
  exact h e (List.mem_of_find?_eq_some he)

/-- A condition finds the events that it accepts, if no role that it looks for is taken for another one by patterns. -/
theorem find_accepted {log : EventLog} {c : Condition} (hlog : log.Reachable) (hcount : log.count < 2 ^ 63)
    (hclean : log.HasCleanRoles) (hnul : log.HasNulFreeRoles) (htyped : ∀ t ∈ c.tests, t.IsTypedTest)
    (hroleNul : ∀ t ∈ c.tests, t.HasNulFreeRole) (htold : ∀ t ∈ c.tests, t.HasToldRole) (hlimits : c.IsWithinLimits) :
    ∃ answer, log.IsAnswer c.toFilter (fun r => c.accepts r) answer := by
  obtain ⟨answer, hanswer⟩ := find_acceptedAs hlog hcount hclean hnul htyped hroleNul hlimits
  exact ⟨answer, hanswer.congr fun id r hr => by rw [acceptsAs_seen htyped htold (hclean.of_get hr)]⟩

/-- An event of an actor with one role. -/
def roleEvent (role : String) : Event :=
  ⟨1, 1, 0, 0, none, none, none, none, none, none, none, [role], none, .empty⟩

theorem isWithinLimits_hasRole {role : String} (hcompound : ¬Roles.isCompound role)
    (hshort : (rolePattern role).utf8ByteSize ≤ Value.maxPatternBytes) :
    (hasRole Column.actorRoles.name role).IsWithinLimits where
  params := by simp [paramCount, toFilter, hcompound, ParamNames.maxCount]
  height := by
    have hexpr : written.expr 0 (hasRole Column.actorRoles.name role) =
        written.isLike (separated (written.column Column.actorRoles.name)) (.param 0) (.literal (.text "\\")) := by
      simp [Wording.expr, exprBy, Wording.test, hcompound]
    rw [hexpr]
    decide
  patterns t ht := by
    rw [tests_of_isTest rfl, List.mem_singleton] at ht
    subst ht
    exact .inr hshort

/-- The log of one event, of an actor with one role. -/
def roleLog (role : String) : EventLog :=
  empty.record (roleEvent role)

theorem events_roleLog (role : String) : (roleLog role).events = [roleEvent role] := rfl

theorem rolesText_roleLog {role : String} {e : Event} (h : e ∈ (roleLog role).events) : e.rolesText = role := by
  rw [events_roleLog, List.mem_singleton] at h
  rw [h]
  exact String.intercalate_singleton (s := ",")

/-- A role that is not told apart is found where only its twin is stored, though the event does not have it. -/
theorem find_twin {role : String} (hcompound : ¬Roles.isCompound role) (htold : ¬Roles.IsTold role)
    (hnul : Text.IsNulFree role) (hshort : (rolePattern role).utf8ByteSize ≤ Value.maxPatternBytes) :
    (roleLog (Text.twinOf role)).find (hasRole Column.actorRoles.name role).toFilter =
        .ok ((roleLog (Text.twinOf role)).events.map Event.readBack) ∧
      ∀ e ∈ (roleLog (Text.twinOf role)).events,
        (hasRole Column.actorRoles.name role).accepts e.readBack = false := by
  obtain ⟨hseen, hid⟩ := Roles.names_twinOf hcompound htold
  have hclean := Roles.isClean_twinOf hcompound htold
  have hrole : role ≠ "" := by
    rintro rfl
    exact htold (.inr (by simp))
  have hvalue (e : Event) : e.column? Column.actorRoles.name = some (.text e.rolesText) := rfl
  constructor
  · have hstored : ∀ e ∈ (roleLog (Text.twinOf role)).events,
        truthBy (storedTruth e) (hasRole Column.actorRoles.name role) = some true := fun e he => by
      have hlike := Roles.isLike_rolePattern hrole hcompound hnul hclean (Text.isNulFree_twinOf hnul)
      simp only [truthBy, storedTruth, hcompound, hvalue, rolesText_roleLog he, Literal.asText, Option.map_some, hlike,
        hseen, Bool.false_eq_true, if_false]
    have hfilter : (roleLog (Text.twinOf role)).events.filter (fun e =>
        truthBy (storedTruth e) (hasRole Column.actorRoles.name role) == some true) =
          (roleLog (Text.twinOf role)).events :=
      List.filter_eq_self.mpr fun e he => by simp [hstored e he]
    have hschema : (hasRole Column.actorRoles.name role).IsOverSchema :=
      isOverSchema_of_isTyped fun t ht => by
        rw [tests_of_isTest rfl, List.mem_singleton] at ht
        exact ht ▸ ⟨rfl, hrole⟩
    rw [find_toFilter _ hschema (isWithinLimits_hasRole hcompound hshort), hfilter]
    rfl
  · intro e he
    have hcleanText : Roles.IsClean e.rolesText := by rwa [rolesText_roleLog he]
    rw [accepts_congr (Event.column_readBack hcleanText)]
    simp [accepts, truth, hcompound, hvalue, rolesText_roleLog he, Roles.listsRole_text, hid]

/-- A condition finds the events that it accepts, if no role that it looks for is taken for another one by patterns.
Any role that is finds an event that does not have it. -/
theorem find_agrees (log : EventLog) (c : Condition) (hlog : log.Reachable) (hcount : log.count < 2 ^ 63)
    (hclean : log.HasCleanRoles) (hnul : log.HasNulFreeRoles) (htyped : ∀ t ∈ c.tests, t.IsTypedTest)
    (hroleNul : ∀ t ∈ c.tests, t.HasNulFreeRole) (hlimits : c.IsWithinLimits) :
    ((∀ t ∈ c.tests, t.HasToldRole) → ∃ answer, log.IsAnswer c.toFilter (fun r => c.accepts r) answer) ∧
    ∀ role : String, ¬Roles.isCompound role → Text.IsNulFree role →
      (rolePattern role).utf8ByteSize ≤ Value.maxPatternBytes → ¬Roles.IsTold role →
      ∃ log : EventLog, log.Reachable ∧ log.count < 2 ^ 63 ∧ log.HasCleanRoles ∧ log.HasNulFreeRoles ∧
        ¬∃ answer, log.IsAnswer (hasRole Column.actorRoles.name role).toFilter
          (fun r => (hasRole Column.actorRoles.name role).accepts r) answer := by
  refine ⟨fun htold => find_accepted hlog hcount hclean hnul htyped hroleNul htold hlimits,
    fun role hcompound hnul hshort htold => ?_⟩
  obtain ⟨hfind, haccepts⟩ := find_twin hcompound htold hnul hshort
  refine ⟨roleLog (Text.twinOf role), .record .empty _, Nat.one_lt_two_pow (by decide), fun e he => ?_, fun e he => ?_, ?_⟩
  · rw [rolesText_roleLog he]
    exact Roles.isClean_twinOf hcompound htold
  · rw [rolesText_roleLog he]
    exact Text.isNulFree_twinOf hnul
  · rintro ⟨answer, hanswer⟩
    obtain rfl : (roleLog (Text.twinOf role)).events.map Event.readBack = answer :=
      Except.ok.inj (hfind.symm.trans hanswer.find)
    have hmem : (roleEvent (Text.twinOf role)).readBack ∈
        (roleLog (Text.twinOf role)).events.map Event.readBack := by simp [events_roleLog]
    have hfalse := haccepts (roleEvent (Text.twinOf role)) (by simp [events_roleLog])
    rw [((hanswer.mem _).mp hmem).2] at hfalse
    cases hfalse

/-- A condition with a comparison, a list and a role. -/
def sample : Condition :=
  .all [.not (.hasRole "actor_roles" "admin"), .isIn "alert_code" [.integer 0, .text "none"],
    .compare "created_timestamp" .atMost (.integer 10), .any []]

theorem find_agrees_sample :
    (∃ answer, (roleLog "auditor").IsAnswer sample.toFilter (fun r => sample.accepts r) answer) ∧
    ∃ log : EventLog, log.Reachable ∧ log.count < 2 ^ 63 ∧ log.HasCleanRoles ∧ log.HasNulFreeRoles ∧
      ¬∃ answer, log.IsAnswer (hasRole Column.actorRoles.name "\uFFFE").toFilter
        (fun r => (hasRole Column.actorRoles.name "\uFFFE").accepts r) answer := by
  have hroles : ∀ e ∈ (roleLog "auditor").events, Roles.IsClean e.rolesText ∧ Text.IsNulFree e.rolesText := by
    intro e he
    rw [rolesText_roleLog he]
    decide
  obtain ⟨hagrees, hdisagrees⟩ := find_agrees (roleLog "auditor") sample (.record .empty _) (by decide)
    (fun e he => (hroles e he).1) (fun e he => (hroles e he).2) (by decide) (by decide) ⟨by decide, by decide, by decide⟩
  exact ⟨hagrees (by decide), hdisagrees "\uFFFE" (by decide) (by decide) (by decide) (by decide)⟩

/-- The role U+FFFE is found where only U+FFFF is stored. -/
theorem find_takes_noncharacters_as_one :
    (roleLog "\uFFFF").find (hasRole "actor_roles" "\uFFFE").toFilter = .ok [(roleEvent "\uFFFF").readBack] ∧
      (hasRole "actor_roles" "\uFFFE").accepts (roleEvent "\uFFFF").readBack = false := by
  have htwin : Text.twinOf "\uFFFE" = "\uFFFF" := by decide
  have hcompound : ¬Roles.isCompound "\uFFFE" := by decide
  have h := find_twin hcompound (by decide) (by decide) (by decide)
  rw [htwin] at h
  exact ⟨h.1, h.2 _ (by simp [events_roleLog])⟩

end EventLog

end AuditSearch
