import AuditSearch.Proofs.Condition.Agreement

/-!
Conditions that are true, by the rules of the database, of the events of which others are not. A test of a null column
is unknown, and so is the test that it is outside a list; the conditions here know which columns may be null.
-/
namespace AuditSearch

namespace Sql.Value

theorem order_isSome (c : Collation) {x y : Value} (hx : x ≠ null) (hy : y ≠ null) : (order? c x y).isSome := by
  cases x <;> cases y <;> first | rfl | contradiction

theorem toText_ne_null {v : Value} (h : v ≠ null) : v.toText ≠ null := by
  cases v <;> simp_all [toText]

theorem toNumeric_ne_null {v : Value} (h : v ≠ null) : v.toNumeric ≠ null := by
  have htext (s : String) : ((Sql.number? s).map ofNumber).getD (text s) ≠ null := by
    rcases Sql.number? s with _ | n | r <;> simp [ofNumber]
  cases v with
  | text s | document s => exact htext s
  | _ => exact h

/-- A comparison is known if no side is null, whatever they are compared as. -/
theorem compareAs_isSome (a : Affinity) {x y : Value} (hx : x ≠ null) (hy : y ≠ null) :
    (compareAs .equal .binary a x y).isSome := by
  have hadjust : (adjust a x y).1 ≠ null ∧ (adjust a x y).2 ≠ null := by
    cases a with
    | blob => exact ⟨hx, hy⟩
    | text =>
      rw [adjust]
      split
      · exact ⟨toText_ne_null hx, toText_ne_null hy⟩
      · exact ⟨hx, hy⟩
    | numeric | integer | real => exact ⟨toNumeric_ne_null hx, toNumeric_ne_null hy⟩
  exact Option.isSome_map.trans (order_isSome .binary hadjust.1 hadjust.2)

end Sql.Value

namespace Truth

theorem any_isSome {ts : List Truth} (h : ∀ t ∈ ts, t.isSome) : (any ts).isSome := by
  induction ts with
  | nil => rfl
  | cons t ts ih =>
    obtain ⟨ht, hts⟩ := List.forall_mem_cons.mp h
    obtain ⟨b, rfl⟩ := Option.isSome_iff_exists.mp ht
    obtain ⟨d, hd⟩ := Option.isSome_iff_exists.mp (ih hts)
    rw [any_cons, hd]
    cases b <;> cases d <;> rfl

theorem not_eq_true_iff {t : Truth} (h : t.isSome) : not t = some true ↔ t ≠ some true := by
  rcases t with _ | _ | _ <;> simp_all [not]

end Truth

namespace Condition

variable {e : Event}

/-- A condition is true of an event by the rules of the database. -/
def IsTrueOf (c : Condition) (e : Event) : Prop :=
  c.truthBy (storedTruth e) = some true

theorem isTestTruth_stored (e : Event) : IsTestTruth (storedTruth e) where
  always := rfl
  never := rfl
  isIn _ := rfl
  notIn _ := rfl
  hasRole _ _ h := if_pos h

theorem isTrueOf_mkAll (cs : List Condition) : (mkAll cs).IsTrueOf e ↔ ∀ c ∈ cs, c.IsTrueOf e := by
  rw [IsTrueOf, truthBy_mkAll (isTestTruth_stored e), Truth.all_eq_true_iff, List.forall_mem_map]
  rfl

theorem isTrueOf_mkAny (cs : List Condition) : (mkAny cs).IsTrueOf e ↔ ∃ c ∈ cs, c.IsTrueOf e := by
  rw [IsTrueOf, truthBy_mkAny (isTestTruth_stored e), Truth.any_eq_true_iff]
  simp [IsTrueOf]

/-- The second condition is true of an event if and only if the first one is not. -/
def Denies (e : Event) (c d : Condition) : Prop :=
  d.IsTrueOf e ↔ ¬c.IsTrueOf e

theorem denies_mkAny {α : Type} {f g : α → Condition} {as : List α} (h : ∀ a ∈ as, Denies e (f a) (g a)) :
    Denies e (mkAny (as.map f)) (mkAll (as.map g)) := by
  rw [Denies, isTrueOf_mkAll, isTrueOf_mkAny, List.forall_mem_map]
  simp only [List.mem_map, exists_exists_and_eq_and, not_exists, not_and]
  exact forall₂_congr h

/-! ### Tests -/

/-- A test for a value in a list is known where the column is not null. -/
theorem storedTruth_isIn_isSome {column : Column} (h : (e.value column).isSome) (vs : List Literal) :
    (storedTruth e (isIn column.name vs)).isSome := by
  obtain ⟨w, hw⟩ := Option.isSome_iff_exists.mp h
  refine Truth.any_isSome (List.forall_mem_map.mpr fun v _ => ?_)
  rw [storedCompare_column, hw]
  refine Sql.Value.compareAs_isSome _ ?_ ?_
  · cases w <;> simp [Sql.Value.ofLiteral?, Sql.Value.ofLiteral]
  · cases v <;> simp [Sql.Value.ofLiteral]

/-- Nothing is known to be in a list where the column is null. -/
theorem not_isTrueOf_mkIn {column : Column} (h : e.value column = none) (vs : List Literal) :
    ¬(mkIn column.name vs).IsTrueOf e := by
  rw [IsTrueOf, truthBy_mkIn (isTestTruth_stored e), storedTruth, Truth.any_eq_true_iff]
  rintro ⟨t, ht, rfl⟩
  obtain ⟨v, -, hv⟩ := List.mem_map.mp ht
  have hunknown : storedCompare .equal e column.name v = none := by
    rw [storedCompare_column, h]
    exact Sql.compareAs_null (by decide) _ _
  rw [hunknown] at hv
  cases hv

theorem denies_mkNotIn {column : Column} (h : (e.value column).isSome) (vs : List Literal) :
    Denies e (mkIn column.name vs) (mkNotIn column.name vs) := by
  rw [Denies, IsTrueOf, IsTrueOf, truthBy_mkIn (isTestTruth_stored e), truthBy_mkNotIn (isTestTruth_stored e)]
  exact Truth.not_eq_true_iff (storedTruth_isIn_isSome h vs)

theorem isTrueOf_isNull (column : Column) : (isNull column.name).IsTrueOf e ↔ e.value column = none := by
  simp [IsTrueOf, truthBy, storedTruth, column?_name]

/-- A column is null or outside a list where it is not known to be in it. -/
theorem denies_mkNullOrNotIn (column : Column) (vs : List Literal) :
    Denies e (mkIn column.name vs) (mkNullOrNotIn column.name vs) := by
  by_cases hvs : vs = []
  · subst hvs
    exact iff_of_true rfl (by simp [mkIn, IsTrueOf, truthBy, storedTruth])
  have hnull : mkNullOrNotIn column.name vs = mkAny [isNull column.name, mkNotIn column.name vs] :=
    if_neg (by simpa using hvs)
  rw [Denies, hnull, isTrueOf_mkAny]
  simp only [List.mem_cons, List.not_mem_nil, or_false, exists_eq_or_imp, exists_eq_left, isTrueOf_isNull]
  cases hvalue : e.value column with
  | none => exact iff_of_true (.inl rfl) (not_isTrueOf_mkIn hvalue vs)
  | some w =>
    rw [or_iff_right (by simp)]
    exact denies_mkNotIn (by simp [hvalue]) vs

/-- Role lists are never null, so a role is known to be in one or not. -/
theorem denies_mkHasRole (e : Event) (role : String) :
    Denies e (mkHasRole Column.actorRoles.name role) (mkNot (mkHasRole Column.actorRoles.name role)) := by
  rw [Denies, IsTrueOf, IsTrueOf, truthBy_mkNot (isTestTruth_stored e), truthBy_mkHasRole (isTestTruth_stored e)]
  refine Truth.not_eq_true_iff ?_
  have hvalue : e.column? Column.actorRoles.name = some (.text e.rolesText) := rfl
  rw [storedTruth, hvalue]
  split <;> rfl

end Condition

end AuditSearch
