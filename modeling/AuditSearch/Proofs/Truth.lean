import AuditSearch.Truth

/-!
The connectives of three-valued truth: they are associative, with neutral and absorbing elements, and those of many
truths depend on nothing but which truths there are.
-/
namespace AuditSearch.Truth

theorem and_assoc (t u v : Truth) : and (and t u) v = and t (and u v) := by
  rcases t with _ | _ | _ <;> rcases u with _ | _ | _ <;> rcases v with _ | _ | _ <;> rfl

theorem and_true (t : Truth) : and t (some true) = t := by
  rcases t with _ | _ | _ <;> rfl

theorem true_and (t : Truth) : and (some true) t = t := by
  rcases t with _ | _ | _ <;> rfl

theorem and_false (t : Truth) : and t (some false) = some false := by
  rcases t with _ | _ | _ <;> rfl

theorem and_eq_true_iff (t u : Truth) : and t u = some true ↔ t = some true ∧ u = some true := by
  rcases t with _ | _ | _ <;> rcases u with _ | _ | _ <;> simp [and]

theorem or_assoc (t u v : Truth) : or (or t u) v = or t (or u v) := by
  rcases t with _ | _ | _ <;> rcases u with _ | _ | _ <;> rcases v with _ | _ | _ <;> rfl

theorem or_false (t : Truth) : or t (some false) = t := by
  rcases t with _ | _ | _ <;> rfl

theorem false_or (t : Truth) : or (some false) t = t := by
  rcases t with _ | _ | _ <;> rfl

theorem or_true (t : Truth) : or t (some true) = some true := by
  rcases t with _ | _ | _ <;> rfl

theorem or_eq_true_iff (t u : Truth) : or t u = some true ↔ t = some true ∨ u = some true := by
  rcases t with _ | _ | _ <;> rcases u with _ | _ | _ <;> simp [or]

theorem all_cons (t : Truth) (ts : List Truth) : all (t :: ts) = and t (all ts) := rfl

theorem any_cons (t : Truth) (ts : List Truth) : any (t :: ts) = or t (any ts) := rfl

theorem all_append (ts us : List Truth) : all (ts ++ us) = and (all ts) (all us) := by
  induction ts with
  | nil => exact (true_and _).symm
  | cons t ts ih => rw [List.cons_append, all_cons, all_cons, ih, and_assoc]

theorem any_append (ts us : List Truth) : any (ts ++ us) = or (any ts) (any us) := by
  induction ts with
  | nil => exact (false_or _).symm
  | cons t ts ih => rw [List.cons_append, any_cons, any_cons, ih, or_assoc]

theorem all_eq_true_iff (ts : List Truth) : all ts = some true ↔ ∀ t ∈ ts, t = some true := by
  induction ts with
  | nil => simp [all]
  | cons t ts ih => rw [all_cons, and_eq_true_iff, ih, List.forall_mem_cons]

theorem any_eq_true_iff (ts : List Truth) : any ts = some true ↔ ∃ t ∈ ts, t = some true := by
  induction ts with
  | nil => simp [any]
  | cons t ts ih =>
    rw [any_cons, or_eq_true_iff, ih]
    simp [eq_comm]

theorem any_unknown {α : Type} {xs : List α} (h : xs ≠ []) : any (xs.map fun _ => none) = none := by
  induction xs with
  | nil => exact absurd rfl h
  | cons x xs ih =>
    cases xs with
    | nil => rfl
    | cons y ys => rw [List.map_cons, any_cons, ih (by simp)]; rfl

theorem any_known {α : Type} (p : α → Bool) (xs : List α) : any (xs.map fun x => some (p x)) = some (xs.any p) := by
  induction xs with
  | nil => rfl
  | cons x xs ih =>
    rw [List.map_cons, any_cons, ih, List.any_cons]
    cases p x <;> cases xs.any p <;> rfl

theorem and_eq_false_iff (t u : Truth) : and t u = some false ↔ t = some false ∨ u = some false := by
  rcases t with _ | _ | _ <;> rcases u with _ | _ | _ <;> simp [and]

theorem or_eq_false_iff (t u : Truth) : or t u = some false ↔ t = some false ∧ u = some false := by
  rcases t with _ | _ | _ <;> rcases u with _ | _ | _ <;> simp [or]

theorem all_eq_false_iff (ts : List Truth) : all ts = some false ↔ ∃ t ∈ ts, t = some false := by
  induction ts with
  | nil => simp [all]
  | cons t ts ih =>
    rw [all_cons, and_eq_false_iff, ih]
    simp [eq_comm]

theorem any_eq_false_iff (ts : List Truth) : any ts = some false ↔ ∀ t ∈ ts, t = some false := by
  induction ts with
  | nil => simp [any]
  | cons t ts ih => rw [any_cons, or_eq_false_iff, ih, List.forall_mem_cons]

theorem eq_of_iff {t u : Truth} (htrue : t = some true ↔ u = some true) (hfalse : t = some false ↔ u = some false) :
    t = u := by
  rcases t with _ | _ | _ <;> rcases u with _ | _ | _ <;> simp_all

theorem all_congr {ts us : List Truth} (h : ∀ t, t ∈ ts ↔ t ∈ us) : all ts = all us :=
  eq_of_iff (by simp only [all_eq_true_iff, h]) (by simp only [all_eq_false_iff, h])

theorem any_congr {ts us : List Truth} (h : ∀ t, t ∈ ts ↔ t ∈ us) : any ts = any us :=
  eq_of_iff (by simp only [any_eq_true_iff, h]) (by simp only [any_eq_false_iff, h])

end AuditSearch.Truth
