import AuditSearch.Lookup
import Mathlib

/-!
Runs with a trace of calls: how they follow each other, how they come to an outcome, and when two of them come to the
same one.
-/
namespace AuditSearch

section
variable {α β : Type} {R : α → β → Prop} {as : List α} {bs : List β}

theorem exists_right (h : List.Forall₂ R as bs) {a : α} (ha : a ∈ as) : ∃ b ∈ bs, R a b := by
  induction h with
  | nil => cases ha
  | cons hfirst _ ih =>
    obtain rfl | ha := List.mem_cons.mp ha
    · exact ⟨_, by simp, hfirst⟩
    · obtain ⟨b, hb, hab⟩ := ih ha
      exact ⟨b, by simp [hb], hab⟩

theorem exists_forall₂ {as : List α} (h : ∀ a ∈ as, ∃ b, R a b) : ∃ bs, List.Forall₂ R as bs := by
  induction as with
  | nil => exact ⟨[], .nil⟩
  | cons a as ih =>
    obtain ⟨⟨b, hb⟩, has⟩ := List.forall_mem_cons.mp h
    obtain ⟨bs, hbs⟩ := ih has
    exact ⟨b :: bs, .cons hb hbs⟩

theorem forall₂_congr_left {S : α → β → Prop} (h : ∀ a ∈ as, ∀ b, R a b ↔ S a b) :
    List.Forall₂ R as bs ↔ List.Forall₂ S as bs := by
  induction as generalizing bs with
  | nil => simp
  | cons a as ih =>
    obtain ⟨ha, has⟩ := List.forall_mem_cons.mp h
    simp only [List.forall₂_cons_left_iff, ha, ih has]

theorem exists_left (h : List.Forall₂ R as bs) {b : β} (hb : b ∈ bs) : ∃ a ∈ as, R a b :=
  exists_right h.flip hb

end

namespace Traced
variable {α β : Type}

@[ext] theorem ext {x y : Traced α} (hcalls : x.calls = y.calls) (houtcome : x.outcome = y.outcome) : x = y := by
  cases x
  cases y
  simp_all

theorem bind_ok {x : Traced α} {a : α} (h : x.outcome = .ok a) (next : α → Traced β) :
    x >>= next = ⟨x.calls ++ (next a).calls, (next a).outcome⟩ := by
  obtain ⟨calls, outcome⟩ := x
  subst h
  rfl

theorem bind_error {x : Traced α} {f : Failure} (h : x.outcome = .error f) (next : α → Traced β) :
    x >>= next = ⟨x.calls, .error f⟩ := by
  obtain ⟨calls, outcome⟩ := x
  subst h
  rfl

instance : LawfulMonad Traced := by
  refine LawfulMonad.mk' _ (fun x => ?_) (fun _ _ => rfl) (fun x f g => ?_)
  · cases h : x.outcome with
    | error f => exact (bind_error h _).trans (ext rfl h.symm)
    | ok a => exact (bind_ok h _).trans (ext (List.append_nil _) h.symm)
  · cases h : x.outcome with
    | error e => rw [bind_error h, bind_error h, bind_error rfl]
    | ok a =>
      rw [bind_ok h, bind_ok h]
      cases hf : (f a).outcome with
      | error e => rw [bind_error rfl, bind_error hf]
      | ok b => rw [bind_ok rfl, bind_ok hf, List.append_assoc]

theorem outcome_bind {x : Traced α} {next : α → Traced β} {b : β} :
    (x >>= next).outcome = .ok b ↔ ∃ a, x.outcome = .ok a ∧ (next a).outcome = .ok b := by
  cases h : x.outcome with
  | error f => simp [bind_error h]
  | ok a => simp [bind_ok h]

theorem outcome_pure {a b : α} : (Pure.pure a : Traced α).outcome = .ok b ↔ a = b :=
  ⟨fun h => Except.ok.inj h, fun h => congrArg Except.ok h⟩

theorem outcome_mapM {next : α → Traced β} {as : List α} : ∀ {bs : List β},
    (as.mapM next).outcome = .ok bs ↔ List.Forall₂ (fun a b => (next a).outcome = .ok b) as bs := by
  induction as with
  | nil =>
    intro bs
    rw [List.mapM_nil, outcome_pure, List.forall₂_nil_left_iff, eq_comm]
  | cons a as ih =>
    intro bs
    simp only [List.mapM_cons, outcome_bind, ih, outcome_pure, List.forall₂_cons_left_iff]
    constructor
    · rintro ⟨b, hb, bs, hbs, rfl⟩
      exact ⟨b, bs, hb, hbs, rfl⟩
    · rintro ⟨b, bs, hb, hbs, rfl⟩
      exact ⟨b, hb, bs, hbs, rfl⟩

/-- What is asked only if there are values to ask for. -/
theorem outcome_askSome {values : List String} {ask : Traced α} {next : α → β} {none result : β} :
    (if values.isEmpty then Pure.pure none else ask >>= fun a => Pure.pure (next a)).outcome = .ok result ↔
      values = [] ∧ none = result ∨ values ≠ [] ∧ ∃ a, ask.outcome = .ok a ∧ next a = result := by
  cases values with
  | nil => simp [outcome_pure]
  | cons v vs =>
    rw [List.isEmpty_cons, if_neg (by simp)]
    simp only [outcome_bind, outcome_pure]
    simp

/-! Runs that ask differently may still come to the same outcome. -/

theorem outcome_bind_congr {x y : Traced α} {f g : α → Traced β} (hxy : x.outcome = y.outcome)
    (hfg : ∀ a, (f a).outcome = (g a).outcome) : (x >>= f).outcome = (y >>= g).outcome := by
  cases h : y.outcome with
  | error e => rw [bind_error (hxy.trans h), bind_error h]
  | ok a =>
    rw [bind_ok (hxy.trans h), bind_ok h]
    exact hfg a

theorem outcome_mapM_congr {f g : α → Traced β} {as : List α} (h : ∀ a ∈ as, (f a).outcome = (g a).outcome) :
    (as.mapM f).outcome = (as.mapM g).outcome := by
  induction as with
  | nil => rfl
  | cons a as ih =>
    obtain ⟨ha, has⟩ := List.forall_mem_cons.mp h
    rw [List.mapM_cons, List.mapM_cons]
    exact outcome_bind_congr ha fun _ => outcome_bind_congr (ih has) fun _ => rfl

theorem outcome_askSome_congr {values values' : List String} {ask ask' : Traced α} (next : α → β) (none : β)
    (hvalues : values.isEmpty = values'.isEmpty) (hask : ask.outcome = ask'.outcome) :
    (if values.isEmpty then Pure.pure none else ask >>= fun a => Pure.pure (next a)).outcome =
      (if values'.isEmpty then Pure.pure none else ask' >>= fun a => Pure.pure (next a)).outcome := by
  rw [hvalues]
  split
  · rfl
  · exact outcome_bind_congr hask fun _ => rfl

end Traced

end AuditSearch
