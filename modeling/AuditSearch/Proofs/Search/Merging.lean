import AuditSearch.Proofs.Search.Order

/-!
Sets of ids that are merged. They are told by properties that merging gathers, so neither the order nor the bracketing nor
repeats of what is merged matter. The main statement says so, and which events the condition of all of it accepts.
-/
namespace AuditSearch

namespace IdSet

theorem isEmpty_iff (s : IdSet) : s.isEmpty ↔ ∀ id, id ∉ s :=
  List.isEmpty_iff.trans List.eq_nil_iff_forall_not_mem

theorem eq_empty_iff {s : IdSet} : s = empty ↔ ∀ id, id ∉ s :=
  ⟨fun h id => h ▸ not_mem_empty id, fun h => eq_of_mem_iff fun id => iff_of_false (h id) (not_mem_empty id)⟩

end IdSet

namespace IdSets

/-- Sets are told by the properties that merging gathers. -/
theorem eq_of_accrues {s t : IdSets} (h : ∀ p, Accrues p → (p s ↔ p t)) : s = t :=
  eq_of_iff (h _ accrues_isSome) (fun id => h _ (accrues_includes id)) fun id => h _ (accrues_excludes id)

theorem merge_comm (s t : IdSets) : s.merge t = t.merge s :=
  eq_of_accrues fun _ hp => by rw [hp.merge, hp.merge, or_comm]

theorem merge_assoc (r s t : IdSets) : (r.merge s).merge t = r.merge (s.merge t) :=
  eq_of_accrues fun _ hp => by simp only [hp.merge, or_assoc]

theorem merge_self (s : IdSets) : s.merge s = s :=
  eq_of_accrues fun _ hp => by rw [hp.merge, or_self]

theorem merge_empty (s : IdSets) : s.merge empty = s :=
  eq_of_accrues fun _ hp => by rw [hp.merge, or_iff_left hp.empty]

theorem empty_merge (s : IdSets) : empty.merge s = s := by
  rw [merge_comm, merge_empty]

/-! ### Order and bracketing -/

/-- A way to merge sets, two at a time. -/
inductive Bracketing where
  | nothing
  | one (s : IdSets)
  | both (left right : Bracketing)

namespace Bracketing

def sets : Bracketing → List IdSets
  | nothing => []
  | one s => [s]
  | both left right => left.sets ++ right.sets

def value : Bracketing → IdSets
  | nothing => empty
  | one s => s
  | both left right => left.value.merge right.value

end Bracketing

theorem Accrues.value_iff {p : IdSets → Prop} (hp : Accrues p) (b : Bracketing) : p b.value ↔ ∃ s ∈ b.sets, p s := by
  induction b with
  | nothing => simp [Bracketing.value, Bracketing.sets, hp.empty]
  | one s => simp [Bracketing.value, Bracketing.sets]
  | both left right ihl ihr =>
    rw [Bracketing.value, Bracketing.sets, hp.merge, ihl, ihr]
    simp only [List.mem_append, or_and_right, exists_or]

/-- Whatever the order, bracketing and repeats, sets are merged into what they come to from left to right. -/
theorem value_eq_foldl {b : Bracketing} {sets : List IdSets} (h : HasSameMembers b.sets sets) :
    b.value = sets.foldl merge empty :=
  eq_of_accrues fun p hp => calc
    p b.value ↔ ∃ s ∈ b.sets, p s := hp.value_iff b
    _ ↔ ∃ s ∈ sets, p s := exists_congr fun s => and_congr_left' (h s)
    _ ↔ p (sets.foldl merge empty) := (hp.foldl_merge sets).symm

/-! ### The condition -/

/-- The condition of sets is constant just if something was searched for and nothing found, when it never holds, and if
there is nothing in them, when it always holds. -/
theorem toCondition_constant (s : IdSets) :
    (s.toCondition = .never ↔ s.included = some .empty) ∧ (s.toCondition = .always ↔ s.isEmpty) := by
  -- The constructing functions look only at whether a list is empty, so nothing else of the lists is told apart.
  obtain ⟨_ | ⟨included, _⟩, ⟨excluded, _⟩⟩ := s
  · cases excluded <;>
      simp [toCondition, Condition.mkNotIn, Condition.mkAll, Condition.allParts?, literals, isEmpty, IdSet.isEmpty]
  · cases included <;> cases excluded <;>
      simp [toCondition, Condition.mkIn, Condition.mkNotIn, Condition.mkAll, Condition.allParts?, literals, isEmpty,
        IdSet.empty]

theorem includes_nothing_iff (s : IdSets) : (∀ id, ¬s.Includes id) ↔ ∀ ids ∈ s.included, ids = .empty := by
  simp only [Includes, not_exists, not_and, IdSet.eq_empty_iff, Option.mem_def]
  exact ⟨fun h ids hids id => h id ids hids, fun h id ids hids => h ids hids id⟩

theorem included_eq_some_empty_iff (s : IdSets) :
    s.included = some .empty ↔ s.included.isSome ∧ ∀ id, ¬s.Includes id := by
  rw [includes_nothing_iff]
  cases s.included <;> simp

theorem isEmpty_iff (s : IdSets) : s.isEmpty ↔ ¬s.included.isSome ∧ ∀ id, id ∉ s.excluded := by
  rw [isEmpty, Bool.and_eq_true, Option.isNone_iff_eq_none, Option.not_isSome_iff_eq_none, IdSet.isEmpty_iff]

section
variable (sets : List IdSets)

theorem accepts_merged (e : Event) : (sets.foldl merge empty).toCondition.accepts e ↔
    ((∀ s ∈ sets, s.included = none) ∨ ∃ s ∈ sets, s.Includes e.id) ∧ ∀ s ∈ sets, e.id ∉ s.excluded := by
  obtain ⟨hsome, hincludes, hexcludes⟩ := merged_iff sets
  rw [← Condition.acceptsAs_id, acceptsAs_toCondition, hsome, hincludes, hexcludes, imp_iff_not_or]
  simp only [not_exists, not_and, Option.not_isSome_iff_eq_none]

theorem toCondition_merged_eq_never : (sets.foldl merge empty).toCondition = .never ↔
    (∃ s ∈ sets, s.included.isSome) ∧ ∀ s ∈ sets, ∀ ids ∈ s.included, ids = .empty := by
  obtain ⟨hsome, hincludes, -⟩ := merged_iff sets
  rw [(toCondition_constant _).1, included_eq_some_empty_iff, hsome]
  refine and_congr_right' ?_
  simp only [hincludes, ← includes_nothing_iff, not_exists, not_and]
  exact ⟨fun h s hs id => h id s hs, fun h id s hs => h s hs id⟩

theorem isEmpty_merged : (sets.foldl merge empty).isEmpty ↔ ∀ s ∈ sets, s.isEmpty := by
  obtain ⟨hsome, -, hexcludes⟩ := merged_iff sets
  simp only [isEmpty_iff, hsome, hexcludes, not_exists, not_and]
  constructor
  · rintro ⟨hunsearched, hfree⟩ s hs
    exact ⟨hunsearched s hs, fun id => hfree id s hs⟩
  · intro h
    exact ⟨fun s hs => (h s hs).1, fun id s hs => (h s hs).2 id⟩

end

/-- Merging is commutative, associative and idempotent, and sets with nothing in them are neutral. In whatever order and
bracketing sets are merged, and however often each of them, an event is accepted just if nothing was searched for in any set
or one of them includes it, and none excludes it. The condition is the one that never holds just if something was searched
for and nothing found in any of them, and the one that always holds just if all of them are empty. -/
theorem merge_bracketing (sets : List IdSets) :
    (∀ s t : IdSets, s.merge t = t.merge s) ∧
    (∀ r s t : IdSets, (r.merge s).merge t = r.merge (s.merge t)) ∧
    (∀ s : IdSets, s.merge s = s ∧ s.merge empty = s ∧ empty.merge s = s) ∧
    ∀ b : Bracketing, HasSameMembers b.sets sets →
      b.value = sets.foldl merge empty ∧
      (∀ e : Event, b.value.toCondition.accepts e ↔
        ((∀ s ∈ sets, s.included = none) ∨ ∃ s ∈ sets, s.Includes e.id) ∧ ∀ s ∈ sets, e.id ∉ s.excluded) ∧
      (b.value.toCondition = .never ↔
        (∃ s ∈ sets, s.included.isSome) ∧ ∀ s ∈ sets, ∀ ids ∈ s.included, ids = .empty) ∧
      (b.value.toCondition = .always ↔ b.value.isEmpty) ∧
      (b.value.isEmpty ↔ ∀ s ∈ sets, s.isEmpty) := by
  refine ⟨merge_comm, merge_assoc, fun s => ⟨s.merge_self, s.merge_empty, s.empty_merge⟩, fun b h => ?_⟩
  rw [value_eq_foldl h]
  exact ⟨rfl, accepts_merged sets, toCondition_merged_eq_never sets, (toCondition_constant _).2, isEmpty_merged sets⟩

/-- What one field searches for in vain, and alone would let nothing through, adds nothing to what another one finds. -/
theorem merge_bracketing_mixed :
    let found : IdSets := ⟨some (.ofList [1, 2]), .ofList [5]⟩
    let missed : IdSets := ⟨some .empty, .empty⟩
    let ruledOut : IdSets := ⟨none, .ofList [2]⟩
    let mixed : Bracketing := .both (.both (.one found) (.one missed)) (.both (.one ruledOut) (.both .nothing (.one found)))
    HasSameMembers mixed.sets [ruledOut, missed, found] ∧
      (∀ e : Event, mixed.value.toCondition.accepts e ↔ e.id = 1) ∧
      (Bracketing.both (.one ruledOut) (.one missed)).value.toCondition = .never ∧
      (Bracketing.both .nothing (.one empty)).value.toCondition = .always := by
  intro found missed ruledOut mixed
  have hmixed : HasSameMembers mixed.sets [ruledOut, missed, found] := fun s => by
    simp only [mixed, Bracketing.sets, List.cons_append, List.nil_append, List.mem_cons, List.not_mem_nil]
    tauto
  obtain ⟨-, -, -, hvalue⟩ := merge_bracketing [ruledOut, missed, found]
  obtain ⟨-, haccepts, -⟩ := hvalue mixed hmixed
  obtain ⟨-, -, -, hnever⟩ := merge_bracketing [ruledOut, missed]
  obtain ⟨-, -, -, halways⟩ := merge_bracketing [empty]
  refine ⟨hmixed, fun e => (haccepts e).trans ?_, ?_, ?_⟩
  · have hid : (e.id = 1 ∨ e.id = 2) ∧ ¬e.id = 2 ∧ ¬e.id = 5 ↔ e.id = 1 := by grind
    simpa [Includes, ruledOut, missed, found, IdSet.mem_ofList, IdSet.not_mem_empty] using hid
  · obtain ⟨-, -, hcondition, -⟩ := hnever (.both (.one ruledOut) (.one missed)) fun _ => Iff.rfl
    exact hcondition.mpr (by simp [ruledOut, missed])
  · obtain ⟨-, -, -, hcondition, hempty⟩ := halways (.both .nothing (.one empty)) fun _ => Iff.rfl
    exact hcondition.mpr (hempty.mpr (by decide))

end IdSets

end AuditSearch
