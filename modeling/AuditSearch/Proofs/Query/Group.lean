import AuditSearch.Query.Group
import Mathlib

/-!
The groups of a list of terms: one for each field in the order in which the fields first appear, with the distinct
values of its terms in the order in which these do.
-/
namespace AuditSearch

section
variable {α : Type} [BEq α]

theorem head_eraseDups (as : List α) : as.eraseDups.head? = as.head? := by
  cases as <;> simp [List.eraseDups_cons]

variable [LawfulBEq α]

theorem eraseDups_concat (as : List α) (a : α) [Decidable (a ∈ as)] :
    (as ++ [a]).eraseDups = if a ∈ as then as.eraseDups else as.eraseDups ++ [a] := by
  rw [List.eraseDups_append]
  split
  · rename_i h
    simp [List.removeAll, h]
  · rename_i h
    simp [List.removeAll, h, List.eraseDups_cons]

theorem eraseDups_filter (p : α → Bool) (as : List α) : (as.filter p).eraseDups = as.eraseDups.filter p := by
  classical
  induction as using List.reverseRecOn with
  | nil => rfl
  | append_singleton as a ih =>
    rw [List.filter_append, eraseDups_concat as]
    cases ha : p a with
    | true =>
      rw [List.filter_cons_of_pos ha, List.filter_nil, eraseDups_concat, ih]
      simp only [List.mem_filter, ha, and_true]
      split
      · rfl
      · rw [List.filter_append, List.filter_cons_of_pos ha, List.filter_nil]
    | false =>
      rw [List.filter_cons_of_neg (by simp [ha]), List.filter_nil, List.append_nil, ih]
      split
      · rfl
      · rw [List.filter_append, List.filter_cons_of_neg (by simp [ha]), List.filter_nil, List.append_nil]

theorem eraseDups_map {β : Type} [BEq β] [LawfulBEq β] {f : α → β} (as : List α)
    (h : ∀ a ∈ as, ∀ b ∈ as, f a = f b → a = b) : (as.map f).eraseDups = as.eraseDups.map f := by
  classical
  induction as using List.reverseRecOn with
  | nil => rfl
  | append_singleton as a ih =>
    have hmem : f a ∈ as.map f ↔ a ∈ as := by
      refine ⟨fun hfa => ?_, List.mem_map_of_mem⟩
      obtain ⟨b, hb, hfb⟩ := List.mem_map.mp hfa
      exact h b (by simp [hb]) a (by simp) hfb ▸ hb
    rw [List.map_append, List.map_singleton, eraseDups_concat, eraseDups_concat]
    simp only [hmem]
    rw [ih fun b hb c hc => h b (by simp [hb]) c (by simp [hc])]
    split
    · rfl
    · rw [List.map_append, List.map_singleton]

theorem nodup_eraseDups (as : List α) : as.eraseDups.Nodup := by
  classical
  induction as using List.reverseRecOn with
  | nil => exact .nil
  | append_singleton as a ih =>
    rw [eraseDups_concat]
    split
    · exact ih
    · rename_i h
      refine List.nodup_append.mpr ⟨ih, by simp, ?_⟩
      intro b hb c hc
      rw [List.mem_singleton] at hc
      rw [List.mem_eraseDups] at hb
      rintro rfl
      exact h (hc ▸ hb)

/-- The members of a list without later repeats, in the order in which they first appear. -/
structure IsFirstSeen (bs as : List α) : Prop where
  mem : ∀ a, a ∈ bs ↔ a ∈ as
  distinct : bs.Nodup
  order : bs.Pairwise fun a b => as.idxOf a < as.idxOf b

theorem isFirstSeen_eraseDups (as : List α) : IsFirstSeen as.eraseDups as := by
  classical
  refine ⟨fun a => List.mem_eraseDups, nodup_eraseDups as, ?_⟩
  induction as using List.reverseRecOn with
  | nil => exact .nil
  | append_singleton as a ih =>
    have hbefore {b : α} (hb : b ∈ as.eraseDups) : (as ++ [a]).idxOf b = as.idxOf b :=
      List.idxOf_append_of_mem (List.mem_eraseDups.mp hb)
    have hkept : as.eraseDups.Pairwise fun b c => (as ++ [a]).idxOf b < (as ++ [a]).idxOf c :=
      ih.imp_of_mem fun hb hc hlt => by rwa [hbefore hb, hbefore hc]
    rw [eraseDups_concat]
    split
    · exact hkept
    · rename_i hnew
      refine List.pairwise_append.mpr ⟨hkept, List.pairwise_singleton .., fun b hb c hc => ?_⟩
      rw [List.mem_singleton.mp hc, hbefore hb, List.idxOf_append_of_notMem hnew]
      have := List.idxOf_lt_length_iff.mpr (List.mem_eraseDups.mp hb)
      omega

end

namespace Term

/-- The distinct values of the terms of a field with one sign, in the order in which they first appear. -/
def valuesOf (terms : List Term) (field : String) (negated : Bool) : List String :=
  ((terms.filter fun t => t.field == field && t.negated == negated).map value).eraseDups

theorem valuesOf_concat (terms : List Term) (t : Term) (field : String) (negated : Bool) :
    valuesOf (terms ++ [t]) field negated =
      if t.field = field ∧ t.negated = negated then Group.addNew t.value (valuesOf terms field negated)
      else valuesOf terms field negated := by
  by_cases h : t.field = field ∧ t.negated = negated
  · rw [if_pos h, valuesOf, List.filter_append, List.filter_cons_of_pos (by simp [h]), List.filter_nil,
      List.map_append, List.map_singleton, eraseDups_concat, Group.addNew, valuesOf]
    simp only [List.mem_eraseDups]
  · have hother : (t.field == field && t.negated == negated) = false := by
      rw [Bool.eq_false_iff]
      simpa using h
    rw [if_neg h, valuesOf, List.filter_append, List.filter_cons_of_neg (by simp [hother]), List.filter_nil,
      List.append_nil, valuesOf]

theorem mem_valuesOf {terms : List Term} {field value : String} {negated : Bool} :
    value ∈ valuesOf terms field negated ↔ ⟨field, negated, value⟩ ∈ terms := by
  simp only [valuesOf, List.mem_eraseDups, List.mem_map, List.mem_filter, Bool.and_eq_true, beq_iff_eq]
  constructor
  · rintro ⟨t, ⟨ht, rfl, rfl⟩, rfl⟩
    exact ht
  · intro h
    exact ⟨_, ⟨h, rfl, rfl⟩, rfl⟩

/-- Terms of other fields do not count. -/
theorem valuesOf_filter {p : String → Bool} {field : String} (h : p field) (terms : List Term) (negated : Bool) :
    valuesOf (terms.filter fun t => p t.field) field negated = valuesOf terms field negated := by
  have hkept : ∀ t ∈ terms, (t.field == field && t.negated == negated && p t.field) =
      (t.field == field && t.negated == negated) := by
    intro t _
    by_cases hfield : t.field = field
    · simp [hfield, h]
    · simp [hfield]
  rw [valuesOf, List.filter_filter, List.filter_congr hkept, valuesOf]

/-- The first plain value of a field. -/
def firstPlain? (terms : List Term) (field : String) : Option String :=
  (terms.find? fun t => t.field == field && !t.negated).map value

theorem head_valuesOf (terms : List Term) (field : String) :
    (valuesOf terms field false).head? = firstPlain? terms field := by
  have hplain : (fun t : Term => t.field == field && !t.negated) = fun t => t.field == field && t.negated == false := by
    funext t
    simp
  rw [valuesOf, head_eraseDups, List.head?_map, List.head?_filter, firstPlain?, hplain]

end Term

namespace Group

/-- The group of a field, from the values of its terms. -/
def gathered (terms : List Term) (field : String) : Group :=
  ⟨field, Term.valuesOf terms field false, Term.valuesOf terms field true⟩

theorem gathered_concat (terms : List Term) (t : Term) (field : String) : gathered (terms ++ [t]) field =
    if t.field = field then (gathered terms field).push t.value t.negated else gathered terms field := by
  simp only [gathered, Term.valuesOf_concat]
  by_cases hfield : t.field = field
  · cases hnegated : t.negated <;> simp [hfield, push]
  · simp [hfield]

theorem gathered_fresh {terms : List Term} {field : String} (h : field ∉ terms.map Term.field) :
    gathered terms field = empty field := by
  have hvalues (negated : Bool) : Term.valuesOf terms field negated = [] := by
    rw [List.eq_nil_iff_forall_not_mem]
    intro value hvalue
    exact h (List.mem_map.mpr ⟨_, Term.mem_valuesOf.mp hvalue, rfl⟩)
  rw [gathered, hvalues, hvalues, empty]

/-- A term is added to the group of its field among groups of different fields. -/
theorem addTerm_map (t : Term) {group : String → Group} (hgroup : ∀ field, (group field).field = field) :
    ∀ {fields : List String}, fields.Nodup → addTerm t (fields.map group) =
      (fields.map fun field => if t.field = field then (group field).push t.value t.negated else group field) ++
        if t.field ∈ fields then [] else [(empty t.field).push t.value t.negated] := by
  intro fields hfields
  induction fields with
  | nil => rfl
  | cons field fields ih =>
    obtain ⟨hfield, hfields⟩ := List.nodup_cons.mp hfields
    rw [List.map_cons, addTerm, hgroup]
    by_cases h : t.field = field
    · subst h
      have hothers : (fields.map fun f => if t.field = f then (group f).push t.value t.negated else group f) =
          fields.map group :=
        List.map_congr_left fun f hf => if_neg fun (heq : t.field = f) => hfield (heq ▸ hf)
      simp [hothers]
    · rw [if_neg (Ne.symm h), ih hfields]
      simp [h]

theorem ofTerms_eq (terms : List Term) : ofTerms terms = (terms.map Term.field).eraseDups.map (gathered terms) := by
  induction terms using List.reverseRecOn with
  | nil => rfl
  | append_singleton terms t ih =>
    have hfold : ofTerms (terms ++ [t]) = addTerm t (ofTerms terms) := by simp [ofTerms]
    rw [hfold, ih, addTerm_map t (fun _ => rfl) (nodup_eraseDups _), List.map_append, List.map_singleton,
      eraseDups_concat]
    simp only [List.mem_eraseDups, ← gathered_concat]
    split
    · rw [List.append_nil]
    · rename_i hfresh
      rw [List.map_append, List.map_singleton, gathered_concat, if_pos rfl, gathered_fresh hfresh]

theorem mem_ofTerms (terms : List Term) (g : Group) :
    g ∈ ofTerms terms ↔ g.field ∈ terms.map Term.field ∧ g = gathered terms g.field := by
  rw [ofTerms_eq, List.mem_map]
  constructor
  · rintro ⟨field, hfield, rfl⟩
    exact ⟨List.mem_eraseDups.mp hfield, rfl⟩
  · rintro ⟨hfield, hg⟩
    exact ⟨g.field, List.mem_eraseDups.mpr hfield, hg.symm⟩

/-- The terms of one field with one sign make one group, of their distinct values. -/
theorem ofTerms_values (name : String) (negated : Bool) {values : List String} (h : values ≠ []) :
    ofTerms (values.map fun v => ⟨name, negated, v⟩) =
      [⟨name, if negated then [] else values.eraseDups, if negated then values.eraseDups else []⟩] := by
  have hfields : ((values.map fun v => (⟨name, negated, v⟩ : Term)).map Term.field).eraseDups = [name] := by
    obtain ⟨v, vs, rfl⟩ := List.exists_cons_of_ne_nil h
    simp [List.eraseDups_cons, Function.comp_def]
  have hvalues (sign : Bool) : Term.valuesOf (values.map fun v => ⟨name, negated, v⟩) name sign =
      if negated = sign then values.eraseDups else [] := by
    cases negated <;> cases sign <;> simp [Term.valuesOf, List.filter_map, Function.comp_def]
  rw [ofTerms_eq, hfields, List.map_singleton, gathered, hvalues, hvalues]
  cases negated <;> rfl

theorem head_included {terms : List Term} {g : Group} (h : g ∈ ofTerms terms) :
    g.included.head? = Term.firstPlain? terms g.field := by
  rw [((mem_ofTerms terms g).mp h).2]
  exact Term.head_valuesOf terms g.field

/-- The terms of some fields make the groups of these fields. -/
theorem ofTerms_filter (p : String → Bool) (terms : List Term) :
    ofTerms (terms.filter fun t => p t.field) = (ofTerms terms).filter fun g => p g.field := by
  have hfields : (terms.filter fun t => p t.field).map Term.field = (terms.map Term.field).filter p := by
    rw [List.filter_map]
    rfl
  have hgroups : ((terms.map Term.field).eraseDups.map (gathered terms)).filter (fun g => p g.field) =
      ((terms.map Term.field).eraseDups.filter p).map (gathered terms) := by
    rw [List.filter_map]
    rfl
  rw [ofTerms_eq, ofTerms_eq, hfields, eraseDups_filter, hgroups]
  refine List.map_congr_left fun field hfield => ?_
  have hkept := (List.mem_filter.mp hfield).2
  rw [gathered, Term.valuesOf_filter hkept, Term.valuesOf_filter hkept, gathered]

theorem map_field_ofTerms (terms : List Term) : (ofTerms terms).map field = (terms.map Term.field).eraseDups := by
  have hfield : field ∘ gathered terms = id := rfl
  rw [ofTerms_eq, List.map_map, hfield, List.map_id]

/-- What is found for a field is its group, if any term has this field. -/
theorem find_eq_some_iff {terms : List Term} {name : String} {g : Group} :
    find? (ofTerms terms) name = some g ↔ name ∈ terms.map Term.field ∧ g = gathered terms name := by
  have hfound {g : Group} (h : find? (ofTerms terms) name = some g) :
      name ∈ terms.map Term.field ∧ g = gathered terms name := by
    obtain rfl : g.field = name := by simpa using List.find?_some h
    exact (mem_ofTerms terms g).mp (List.mem_of_find?_eq_some h)
  refine ⟨hfound, fun ⟨hname, hg⟩ => ?_⟩
  have hsome : (find? (ofTerms terms) name).isSome :=
    List.find?_isSome.mpr ⟨gathered terms name, (mem_ofTerms terms _).mpr ⟨hname, rfl⟩, by simp [gathered]⟩
  obtain ⟨g', hg'⟩ := Option.isSome_iff_exists.mp hsome
  rw [hg', hg, (hfound hg').2]

/-- A term that was there already changes no group. -/
theorem ofTerms_concat_of_mem {terms : List Term} {t : Term} (h : t ∈ terms) : ofTerms (terms ++ [t]) = ofTerms terms := by
  have hfields : ((terms ++ [t]).map Term.field).eraseDups = (terms.map Term.field).eraseDups := by
    rw [List.map_append, List.map_singleton, eraseDups_concat, if_pos (List.mem_map_of_mem h)]
  rw [ofTerms_eq, ofTerms_eq, hfields]
  refine List.map_congr_left fun field _ => ?_
  rw [gathered_concat]
  split
  · rename_i hfield
    have hvalue : t.value ∈ Term.valuesOf terms field t.negated := Term.mem_valuesOf.mpr (hfield ▸ h)
    cases hnegated : t.negated <;> rw [hnegated] at hvalue <;> simp [gathered, push, addNew, hvalue]
  · rfl

/-- Groups that hold the terms of a list: a group for each field, in the order in which the fields first appear, with
the values of its plain and of its negated terms, each in the order in which these first appear. -/
structure Gathers (gs : List Group) (terms : List Term) : Prop where
  fields : IsFirstSeen (gs.map field) (terms.map Term.field)
  nonempty : ∀ g ∈ gs, g.isEmpty = false
  included : ∀ g ∈ gs,
    IsFirstSeen g.included ((terms.filter fun t => t.field == g.field && t.negated == false).map Term.value)
  excluded : ∀ g ∈ gs,
    IsFirstSeen g.excluded ((terms.filter fun t => t.field == g.field && t.negated == true).map Term.value)

theorem gathers_ofTerms (terms : List Term) : Gathers (ofTerms terms) terms := by
  have hgathered {g : Group} (hg : g ∈ ofTerms terms) : g = gathered terms g.field := ((mem_ofTerms terms g).mp hg).2
  refine ⟨?_, fun g hg => ?_, fun g hg => ?_, fun g hg => ?_⟩
  · rw [map_field_ofTerms]
    exact isFirstSeen_eraseDups _
  · obtain ⟨t, ht, hfield⟩ := List.mem_map.mp ((mem_ofTerms terms g).mp hg).1
    have hvalue : t.value ∈ Term.valuesOf terms g.field t.negated := Term.mem_valuesOf.mpr (hfield ▸ ht)
    rw [hgathered hg, isEmpty, gathered, Bool.and_eq_false_iff, List.isEmpty_eq_false_iff, List.isEmpty_eq_false_iff]
    cases hnegated : t.negated <;> rw [hnegated] at hvalue
    · exact .inl (List.ne_nil_of_mem hvalue)
    · exact .inr (List.ne_nil_of_mem hvalue)
  · rw [congrArg Group.included (hgathered hg)]
    exact isFirstSeen_eraseDups _
  · rw [congrArg Group.excluded (hgathered hg)]
    exact isFirstSeen_eraseDups _

/-- The groups of some terms hold these terms: no value is lost, none stands twice, and one that was written with both
signs stays in both lists. A field has a group exactly if some term has this field. Terms that are written once more
change nothing. -/
theorem ofTerms_gathers (terms : List Term) :
    Gathers (ofTerms terms) terms ∧
    (∀ name value, ⟨name, false, value⟩ ∈ terms → ⟨name, true, value⟩ ∈ terms →
      ∃ g ∈ ofTerms terms, g.field = name ∧ value ∈ g.included ∧ value ∈ g.excluded) ∧
    (∀ name, (∃ g, find? (ofTerms terms) name = some g) ↔ ∃ t ∈ terms, t.field = name) ∧
    (∀ name g, find? (ofTerms terms) name = some g ↔ g ∈ ofTerms terms ∧ g.field = name) ∧
    ∀ more, (∀ t ∈ more, t ∈ terms) → ofTerms (terms ++ more) = ofTerms terms := by
  refine ⟨gathers_ofTerms terms, fun name value hplain hnegated => ?_, fun name => ?_, fun name g => ?_, fun more h => ?_⟩
  · have hname : name ∈ terms.map Term.field := List.mem_map.mpr ⟨_, hplain, rfl⟩
    exact ⟨gathered terms name, (mem_ofTerms terms _).mpr ⟨hname, rfl⟩, rfl, Term.mem_valuesOf.mpr hplain,
      Term.mem_valuesOf.mpr hnegated⟩
  · simp only [find_eq_some_iff, exists_and_left, exists_eq, and_true, List.mem_map]
  · rw [find_eq_some_iff, mem_ofTerms]
    constructor
    · rintro ⟨hname, rfl⟩
      exact ⟨⟨hname, rfl⟩, rfl⟩
    · rintro ⟨hg, rfl⟩
      exact hg
  · induction more using List.reverseRecOn with
    | nil => rw [List.append_nil]
    | append_singleton more t ih =>
      obtain ⟨hmore, ht⟩ := List.forall_mem_append.mp h
      rw [← List.append_assoc, ofTerms_concat_of_mem (List.mem_append_left _ (ht t (by simp))), ih hmore]

theorem ofTerms_gathers_signs :
    ofTerms [⟨"b", true, "x"⟩, ⟨"a", false, "y"⟩, ⟨"b", false, "x"⟩] = [⟨"b", ["x"], ["x"]⟩, ⟨"a", ["y"], []⟩] ∧
    (∃ g ∈ ofTerms [⟨"b", true, "x"⟩, ⟨"a", false, "y"⟩, ⟨"b", false, "x"⟩],
      g.field = "b" ∧ "x" ∈ g.included ∧ "x" ∈ g.excluded) ∧
    ofTerms ([⟨"b", true, "x"⟩, ⟨"a", false, "y"⟩, ⟨"b", false, "x"⟩] ++ [⟨"a", false, "y"⟩, ⟨"b", true, "x"⟩]) =
      ofTerms [⟨"b", true, "x"⟩, ⟨"a", false, "y"⟩, ⟨"b", false, "x"⟩] := by
  obtain ⟨-, hboth, -, -, hmore⟩ := ofTerms_gathers [⟨"b", true, "x"⟩, ⟨"a", false, "y"⟩, ⟨"b", false, "x"⟩]
  exact ⟨by rfl, hboth "b" "x" (by decide) (by decide), hmore _ (by decide)⟩

end Group

end AuditSearch
