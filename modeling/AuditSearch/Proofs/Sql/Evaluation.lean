import AuditSearch.Proofs.Truth
import AuditSearch.Sql.Total
import Mathlib

/-!
Evaluation of expressions, form by form. What an expression evaluates to follows from what its parts
evaluate to.
-/
namespace AuditSearch.Sql

theorem Value.truth_ofTruth (t : Truth) : (ofTruth t).truth = t := by
  rcases t with _ | _ | _ <;> rfl

namespace Expr
variable {s : Session} {rows : Nat → Env → Walk Row} {env : Env} {use : Use} {a b : Expr} {x y : Value}

theorem eval_literal (v : Value) : eval s rows env use (.literal v) = some v.ofWritten :=
  rfl

theorem eval_param (i : Nat) : eval s rows env use (.param i) = some (s.params.getD i .null) :=
  rfl

theorem eval_column (c : ColumnRef) : eval s rows env use (.column c) = some (use.finish (columnValue env c)) :=
  rfl

theorem evalAll_cons {e : Expr} {es : List Expr} {xs : List Value} (h : eval s rows env use e = some x)
    (hs : evalAll s rows env use es = some xs) : evalAll s rows env use (e :: es) = some (x :: xs) := by
  show (eval s rows env use e >>= fun v => evalAll s rows env use es >>= fun vs => some (v :: vs)) = _
  rw [h, hs]
  rfl

theorem evalEach_cons {e : Expr} {es : List Expr} {found : Walk Value} (h : eval s rows env .value e = some x)
    (hs : evalEach s rows env [] es = found) : evalEach s rows env [] (e :: es) = some x :: found := by
  rw [← h, ← hs]
  rfl

/-- A call evaluates to what its function makes of the arguments. Tests for a truth look no further than the
truth of their argument. -/
theorem eval_apply {f : Function} (hf : ∀ wanted opposite, f ≠ .hasTruth wanted opposite) {args : List Expr}
    {xs : List Value} (h : evalAll s rows env (if f.seesDocuments then .marked else .value) args = some xs) :
    eval s rows env use (.apply f args) =
      (f.apply s.counts ((argumentsCollation args).getD .binary) xs).map use.finish := by
  have hcall : eval s rows env use (.apply f args) =
      (evalAll s rows env (if f.seesDocuments then .marked else .value) args >>= fun vs =>
        f.apply s.counts ((argumentsCollation args).getD .binary) vs >>= fun v => some (use.finish v)) := by
    cases f with
    | hasTruth wanted opposite => exact absurd rfl (hf wanted opposite)
    | _ => rfl
  rw [hcall, h, Option.bind_eq_bind, Option.bind_some]
  cases f.apply s.counts ((argumentsCollation args).getD .binary) xs <;> rfl

theorem eval_compare (op : Comparison) {c : Collation} (hwidth : a.width = 1) (hc : collationOf a b = some c)
    (ha : eval s rows env .value a = some x) (hb : eval s rows env .value b = some y) :
    eval s rows env use (.compare op a b) =
      some (.ofTruth (Value.compareAs op c (.common a.affinity? b.affinity?) x y)) := by
  show (if a.width = 1 then _ else _) = _
  rw [if_pos hwidth, ha, hb, hc]
  rfl

theorem eval_among {c : Collation} {items : List Expr} {ys : List Value} (hwidth : a.width = 1)
    (hc : a.ownCollation = some c) (ha : eval s rows env .value a = some x)
    (hitems : evalEach s rows env [] items = ys.map some) :
    eval s rows env use (.among a items) =
      (memberTruth? (fun y => Value.compareAs .equal c (a.affinity?.getD .blob) x y) (some false)
        (ys.map some)).map Value.ofTruth := by
  have hfound : ¬(isTabled items && (ys.map some).any Option.isNone) = true := by simp
  show (if a.width = 1 then _ else _) = _
  rw [if_pos hwidth, ha, hitems, hc]
  exact if_neg hfound

theorem isTotal_compare {params : List Value} (op : Comparison) {c : Collation} (hwidth : a.width = 1)
    (hc : collationOf a b = some c) (ha : a.isTotal params = true) (hb : b.isTotal params = true) :
    (Expr.compare op a b).isTotal params = true := by
  show (a.width == 1 && (collationOf a b).isSome && a.isTotal params && b.isTotal params) = true
  simp [hwidth, hc, ha, hb]

theorem isTotal_among {params : List Value} {c : Collation} {items : List Expr} (hwidth : a.width = 1)
    (hc : a.ownCollation = some c) (ha : a.isTotal params = true) (hitems : areTotal params items = true) :
    (Expr.among a items).isTotal params = true := by
  show (a.width == 1 && a.ownCollation.isSome && a.isTotal params && areTotal params items) = true
  simp [hwidth, hc, ha, hitems]

end Expr

/-- What an expression evaluates to on one row: a truth value, or where only truth counts, what counts as it. -/
structure Evaluates (s : Session) (rows : Nat → Env → Walk Row) (env : Env) (e : Expr) (t : Truth) : Prop where
  value : Expr.eval s rows env .value e = some (.ofTruth t)
  test : ∀ nullAs, Expr.holdsAs nullAs (Expr.eval s rows env (.test nullAs) e) = some (t.getD nullAs)
  unwritten : e.writtenTruth? = none
  total : e.isTotal s.params = true

namespace Evaluates
variable {s : Session} {rows : Nat → Env → Walk Row} {env : Env} {a b : Expr} {t u : Truth}

theorem ofEval (h : ∀ use, Expr.eval s rows env use a = some (.ofTruth t)) (hwritten : a.writtenTruth? = none)
    (htotal : a.isTotal s.params = true) : Evaluates s rows env a t :=
  ⟨h _, fun nullAs => by simp [h, Expr.holdsAs, Value.truth_ofTruth], hwritten, htotal⟩

theorem not (h : Evaluates s rows env a t) : Evaluates s rows env (.not a) (Truth.not t) where
  value := by
    show (Expr.eval s rows env .value a >>= fun x => some (Value.ofTruth (Truth.not x.truth))) = _
    rw [h.value]
    simp [Value.truth_ofTruth]
  test nullAs := by
    show Expr.holdsAs nullAs (Expr.holdsAs (!nullAs) (Expr.eval s rows env (.test !nullAs) a) >>= _) = _
    rw [h.test]
    rcases t with _ | _ | _ <;> cases nullAs <;> rfl
  unwritten := rfl
  total := h.total

/-- A connective of two parts of which neither is written as a truth. -/
theorem unwritten_connective (ha : a.writtenTruth? = none) (hb : b.writtenTruth? = none) :
    (a.writtenTruth? == some true || b.writtenTruth? == some false) = false ∧
      (b.writtenTruth? == some true || a.writtenTruth? == some false) = false := by
  rw [ha, hb]
  exact ⟨rfl, rfl⟩

theorem and (h : Evaluates s rows env a t) (h' : Evaluates s rows env b u) :
    Evaluates s rows env (.and a b) (Truth.and t u) := by
  obtain ⟨hleft, hright⟩ := unwritten_connective h.unwritten h'.unwritten
  refine ⟨?_, fun nullAs => ?_, ?_, ?_⟩
  · show (Expr.eval s rows env .value a >>= fun x => Expr.eval s rows env .value b >>= fun y =>
      some (Value.ofTruth (Truth.and x.truth y.truth))) = _
    rw [h.value, h'.value]
    simp [Value.truth_ofTruth]
  · show Expr.holdsAs nullAs (ite _ _ (ite _ _ (Expr.holdsAs nullAs (Expr.eval s rows env (.test nullAs) a) >>= _))) = _
    rw [if_neg (by simp [hleft]), if_neg (by simp [hright]), h.test]
    have hb := h'.test nullAs
    rcases t with _ | _ | _ <;> rcases u with _ | _ | _ <;> cases nullAs <;> first | exact hb | rfl
  · show (ite _ _ (ite _ _ none) : Option Bool) = none
    rw [if_neg (by simp [hleft]), if_neg (by simp [hright])]
  · exact Bool.and_eq_true_iff.mpr ⟨h.total, h'.total⟩

theorem or (h : Evaluates s rows env a t) (h' : Evaluates s rows env b u) :
    Evaluates s rows env (.or a b) (Truth.or t u) := by
  obtain ⟨hleft, hright⟩ := unwritten_connective h.unwritten h'.unwritten
  refine ⟨?_, fun nullAs => ?_, ?_, ?_⟩
  · show (Expr.eval s rows env .value a >>= fun x => Expr.eval s rows env .value b >>= fun y =>
      some (Value.ofTruth (Truth.or x.truth y.truth))) = _
    rw [h.value, h'.value]
    simp [Value.truth_ofTruth]
  · show Expr.holdsAs nullAs (ite _ _ (ite _ _ (Expr.holdsAs nullAs (Expr.eval s rows env (.test nullAs) a) >>= _))) = _
    rw [if_neg (by simp [hleft]), if_neg (by simp [hright]), h.test]
    have hb := h'.test nullAs
    rcases t with _ | _ | _ <;> rcases u with _ | _ | _ <;> cases nullAs <;> first | exact hb | rfl
  · show (ite _ _ (ite _ _ none) : Option Bool) = none
    rw [if_neg (by simp [hleft]), if_neg (by simp [hright])]
  · exact Bool.and_eq_true_iff.mpr ⟨h.total, h'.total⟩

end Evaluates

end AuditSearch.Sql
