import AuditSearch.Proofs.Search.Meaning

/-!
The order of the terms of a search. Of a field only the set of its values counts, and for a field of days the first
plain one, if those who are asked look at no more than the set either.
-/
namespace AuditSearch

def HasSameMembers {α : Type} (as bs : List α) : Prop :=
  ∀ a, a ∈ as ↔ a ∈ bs

namespace HasSameMembers
variable {α : Type} {as bs : List α}

theorem symm (h : HasSameMembers as bs) : HasSameMembers bs as :=
  fun a => (h a).symm

theorem isEmpty_eq (h : HasSameMembers as bs) : as.isEmpty = bs.isEmpty := by
  rw [Bool.eq_iff_iff, List.isEmpty_iff, List.isEmpty_iff, List.eq_nil_iff_forall_not_mem,
    List.eq_nil_iff_forall_not_mem]
  exact forall_congr' fun a => not_congr (h a)

theorem ne_nil_iff (h : HasSameMembers as bs) : as ≠ [] ↔ bs ≠ [] := by
  rw [ne_eq, ne_eq, ← List.isEmpty_iff, ← List.isEmpty_iff, h.isEmpty_eq]

end HasSameMembers

namespace Contribution

/-- The same ids, and conditions that accept the same events. -/
structure IsAlike (part part' : Contribution) : Prop where
  ids : part.ids? = part'.ids?
  accepts : ∀ e, (∀ condition ∈ part.condition?, condition.accepts e) ↔ ∀ condition ∈ part'.condition?, condition.accepts e

theorem IsAlike.refl (part : Contribution) : part.IsAlike part :=
  ⟨rfl, fun _ => Iff.rfl⟩

theorem IsAlike.ofCondition {c d : Condition} (h : ∀ e, c.acceptsAs id e ↔ d.acceptsAs id e) :
    IsAlike (.condition c) (.condition d) :=
  ⟨rfl, fun e => by simpa only [condition?, Option.mem_some_iff, forall_eq', ← Condition.acceptsAs_id] using h e⟩

/-- Conditions of parts that are alike, whatever their order and number, accept the same events. -/
theorem accepts_assemble {parts parts' : List Contribution} (h : ∀ part ∈ parts, ∃ part' ∈ parts', part.IsAlike part')
    (h' : ∀ part' ∈ parts', ∃ part ∈ parts, part'.IsAlike part) {e : Event} (haccepts : (assemble parts).accepts e) :
    (assemble parts').accepts e := by
  have hids {p : IdSets → Prop} {parts parts' : List Contribution}
      (h : ∀ part ∈ parts, ∃ part' ∈ parts', part.IsAlike part') :
      (∃ sets ∈ parts.filterMap ids?, p sets) → ∃ sets ∈ parts'.filterMap ids?, p sets := by
    rintro ⟨sets, hsets, hp⟩
    obtain ⟨part, hpart, hsets⟩ := List.mem_filterMap.mp hsets
    obtain ⟨part', hpart', halike⟩ := h part hpart
    exact ⟨sets, List.mem_filterMap.mpr ⟨part', hpart', halike.ids ▸ hsets⟩, hp⟩
  rw [← Condition.acceptsAs_id, acceptsAs_assemble] at haccepts ⊢
  obtain ⟨hconditions, hincluded, hexcluded⟩ := haccepts
  refine ⟨fun condition hcondition => ?_, fun hsome => hids h (hincluded (hids h' hsome)), fun hsome => hexcluded (hids h' hsome)⟩
  obtain ⟨part', hpart', hcondition⟩ := List.mem_filterMap.mp hcondition
  obtain ⟨part, hpart, halike⟩ := h' part' hpart'
  rw [Condition.acceptsAs_id]
  refine (halike.accepts e).mpr (fun condition hcondition => ?_) condition hcondition
  rw [← Condition.acceptsAs_id]
  exact hconditions condition (List.mem_filterMap.mpr ⟨part, hpart, hcondition⟩)

end Contribution

namespace Compiler

/-- Whoever is asked answers, or fails, by the set of values. -/
structure AnswersSets (c : Compiler) : Prop where
  index : ∀ key values values', HasSameMembers values values' → c.index.find key values = c.index.find key values'
  directories : ∀ d ∈ c.directories, ∀ attr values values', HasSameMembers values values' →
    d.find attr values = d.find attr values'

/-- Groups of one field with the same values; and of a field of days with the same value in front. -/
structure HasSameValues (c : Compiler) (g g' : Group) : Prop where
  field : g.field = g'.field
  included : HasSameMembers g.included g'.included
  excluded : HasSameMembers g.excluded g'.excluded
  day : ∀ column bound, c.resolution? g.field = some (.day column bound) → g.included.head? = g'.included.head?

/-- Lists of the same terms, where fields of days have the same first plain value. -/
structure HasSameTerms (c : Compiler) (terms terms' : List Term) : Prop where
  members : HasSameMembers terms terms'
  days : ∀ name column bound, c.resolution? name = some (.day column bound) →
    Term.firstPlain? terms name = Term.firstPlain? terms' name

variable {c : Compiler} {g g' : Group}

theorem HasSameValues.symm (h : c.HasSameValues g g') : c.HasSameValues g' g :=
  ⟨h.field.symm, h.included.symm, h.excluded.symm, fun column bound hday => (h.day column bound (h.field ▸ hday)).symm⟩

theorem HasSameTerms.symm {terms terms' : List Term} (h : c.HasSameTerms terms terms') : c.HasSameTerms terms' terms :=
  ⟨h.members.symm, fun name column bound hday => (h.days name column bound hday).symm⟩

theorem HasSameTerms.exists_sameValues {terms terms' : List Term} (h : c.HasSameTerms terms terms')
    (hg : g ∈ Group.ofTerms terms) : ∃ g' ∈ Group.ofTerms terms', c.HasSameValues g g' := by
  obtain ⟨hfield, hgathered⟩ := (Group.mem_ofTerms terms g).mp hg
  obtain ⟨t, ht, hname⟩ := List.mem_map.mp hfield
  have hfield' : g.field ∈ terms'.map Term.field := List.mem_map.mpr ⟨t, (h.members t).mp ht, hname⟩
  have hvalues (negated : Bool) :
      HasSameMembers (Term.valuesOf terms g.field negated) (Term.valuesOf terms' g.field negated) := by
    intro value
    rw [Term.mem_valuesOf, Term.mem_valuesOf, h.members]
  have hg' : Group.gathered terms' g.field ∈ Group.ofTerms terms' := (Group.mem_ofTerms terms' _).mpr ⟨hfield', rfl⟩
  refine ⟨_, hg', rfl, ?_, ?_, fun column bound hday => ?_⟩
  · rw [hgathered]
    exact hvalues false
  · rw [hgathered]
    exact hvalues true
  · rw [Group.head_included hg, Group.head_included hg']
    exact h.days g.field column bound hday

theorem outcome_metadataIds_congr (hc : c.AnswersSets) (h : c.HasSameValues g g') (key : String) :
    (g.metadataIds c.index key).outcome = (g'.metadataIds c.index key).outcome := by
  rw [Group.metadataIds_eq, Group.metadataIds_eq]
  refine Traced.outcome_bind_congr ?_ fun _ => Traced.outcome_bind_congr ?_ fun _ => rfl
  · exact Traced.outcome_askSome_congr _ _ h.included.isEmpty_eq (hc.index key _ _ h.included)
  · exact Traced.outcome_askSome_congr _ _ h.excluded.isEmpty_eq (hc.index key _ _ h.excluded)

theorem outcome_identityCondition_congr (hc : c.AnswersSets) (h : c.HasSameValues g g') (attr : Attribute)
    (projections : List Projection) : (g.identityCondition c.directories attr projections).outcome =
      (g'.identityCondition c.directories attr projections).outcome := by
  have hask {values values' : List String} (hvalues : HasSameMembers values values') :
      (Directory.askAll c.directories attr values).outcome = (Directory.askAll c.directories attr values').outcome := by
    refine Traced.outcome_bind_congr (Traced.outcome_mapM_congr fun d hd => ?_) fun _ => rfl
    rw [Directory.ask, Directory.ask, Traced.ask, Traced.ask, hc.directories d hd attr _ _ hvalues]
  rw [Group.identityCondition_eq, Group.identityCondition_eq]
  refine Traced.outcome_bind_congr ?_ fun _ => Traced.outcome_bind_congr ?_ fun _ => rfl
  · exact Traced.outcome_askSome_congr _ _ h.included.isEmpty_eq (hask h.included)
  · exact Traced.outcome_askSome_congr _ _ h.excluded.isEmpty_eq (hask h.excluded)

/-- Groups with the same values are resolved to parts that are alike, or both not at all. -/
theorem exists_alike (hc : c.AnswersSets) (h : c.HasSameValues g g') {part : Contribution}
    (hpart : (c.resolve g).outcome = .ok part) :
    ∃ part', (c.resolve g').outcome = .ok part' ∧ part.IsAlike part' := by
  rw [resolve_eq] at hpart ⊢
  rw [← h.field]
  cases hresolution : c.resolution? g.field with
  | none =>
    rw [hresolution] at hpart
    exact ⟨part, hpart, .refl part⟩
  | some resolution =>
    rw [hresolution] at hpart
    -- A condition lists the values in their order but accepts by the set of them, and a lookup is answered by the set.
    cases resolution with
    | column name type =>
      obtain rfl := Traced.outcome_pure.mp hpart
      refine ⟨_, rfl, .ofCondition fun e => ?_⟩
      rw [Group.acceptsAs_columnCondition c, Group.acceptsAs_columnCondition c]
      simp only [Asks, h.included.ne_nil_iff, h.included _, h.excluded _]
    | role column =>
      obtain rfl := Traced.outcome_pure.mp hpart
      refine ⟨_, rfl, .ofCondition fun e => ?_⟩
      rw [Group.acceptsAs_roles, Group.acceptsAs_roles]
      simp only [h.included.ne_nil_iff, h.included _, h.excluded _]
    | metadata key =>
      refine ⟨part, ?_, .refl part⟩
      rw [← hpart]
      exact Traced.outcome_bind_congr (outcome_metadataIds_congr hc h key).symm fun _ => rfl
    | identity attr projections =>
      refine ⟨part, ?_, .refl part⟩
      rw [← hpart]
      exact Traced.outcome_bind_congr (outcome_identityCondition_congr hc h attr projections).symm fun _ => rfl
    | day column bound =>
      refine ⟨part, ?_, .refl part⟩
      rw [← hpart]
      dsimp only
      rw [resolveDay_eq, resolveDay_eq, ← h.field, h.day column bound hresolution]

section
variable {terms terms' : List Term} {parts parts' : List Contribution} (hc : c.AnswersSets)
  (h : c.HasSameTerms terms terms') (hparts : c.Resolves (Group.ofTerms terms) parts)
include hc h hparts

theorem exists_resolves : ∃ parts', c.Resolves (Group.ofTerms terms') parts' := by
  refine exists_forall₂ fun g' hg' => ?_
  obtain ⟨g, hg, hsame⟩ := h.symm.exists_sameValues hg'
  obtain ⟨part, -, hpart⟩ := exists_right hparts hg
  obtain ⟨part', hpart', -⟩ := exists_alike hc hsame.symm hpart
  exact ⟨part', hpart'⟩

theorem exists_alike_of_mem (hparts' : c.Resolves (Group.ofTerms terms') parts') :
    ∀ part ∈ parts, ∃ part' ∈ parts', part.IsAlike part' := by
  intro part hmem
  obtain ⟨g, hg, hpart⟩ := exists_left hparts hmem
  obtain ⟨g', hg', hsame⟩ := h.exists_sameValues hg
  obtain ⟨part', hmem', hpart'⟩ := exists_right hparts' hg'
  obtain ⟨other, hother, halike⟩ := exists_alike hc hsame hpart
  obtain rfl : other = part' := Except.ok.inj (hother.symm.trans hpart')
  exact ⟨_, hmem', halike⟩

end

/-- Searches with the same terms in different orders, where fields of days keep their first plain values, are either
both compiled or both not, and accept the same events. -/
theorem condition_perm (hc : c.AnswersSets) {raw raw' : String} (hterms : (Term.ofSearch raw).Perm (Term.ofSearch raw'))
    (hdays : ∀ name column bound, c.resolution? name = some (.day column bound) →
      Term.firstPlain? (Term.ofSearch raw) name = Term.firstPlain? (Term.ofSearch raw') name) :
    ((∃ condition, (c.condition raw).outcome = .ok condition) ↔
      ∃ condition', (c.condition raw').outcome = .ok condition') ∧
    ∀ condition condition', (c.condition raw).outcome = .ok condition → (c.condition raw').outcome = .ok condition' →
      ∀ e, condition.accepts e ↔ condition'.accepts e := by
  have h : c.HasSameTerms (Term.ofSearch raw) (Term.ofSearch raw') := ⟨fun _ => hterms.mem_iff, hdays⟩
  constructor
  · simp only [outcome_condition]
    constructor
    · rintro ⟨_, parts, hparts, -⟩
      obtain ⟨parts', hparts'⟩ := exists_resolves hc h hparts
      exact ⟨_, parts', hparts', rfl⟩
    · rintro ⟨_, parts', hparts', -⟩
      obtain ⟨parts, hparts⟩ := exists_resolves hc h.symm hparts'
      exact ⟨_, parts, hparts, rfl⟩
  · intro condition condition' hcondition hcondition' e
    obtain ⟨parts, hparts, rfl⟩ := outcome_condition.mp hcondition
    obtain ⟨parts', hparts', rfl⟩ := outcome_condition.mp hcondition'
    have halike := exists_alike_of_mem hc h hparts hparts'
    have halike' := exists_alike_of_mem hc h.symm hparts' hparts
    exact ⟨Contribution.accepts_assemble halike halike', Contribution.accepts_assemble halike' halike⟩

/-- A compiler with fields of days, of roles, of people and of metadata, where values that are asked for may be
unknown. -/
def busy : Compiler :=
  ⟨Dictionary.ofList [("email", ⟨"email", .identity .email [⟨"actor_login", .login⟩]⟩),
      ("role", ⟨"role", .role "actor_roles"⟩), ("since", ⟨"since", .day "created_timestamp" .start⟩),
      ("title", ⟨"title", .metadata "PostTitle"⟩)],
    ⟨fun _ values => if "draft" ∈ values then .ok [7, 1] else .error (.lookupFailed "metadata" "unknown")⟩,
    ⟨"staff", fun _ values => if "ann" ∈ values then .ok [⟨3, "ann", "Ann", "Lee", "ann@example.org", []⟩] else .ok []⟩,
    none, false, 3600, .strict⟩

theorem condition_perm_busy : busy.AnswersSets ∧
    (Term.ofSearch "title:draft since:1970-01-02 -role:guest title:note since:today").Perm
      (Term.ofSearch "title:note since:1970-01-02 since:today title:draft -role:guest") ∧
    (busy.condition "title:draft since:1970-01-02 -role:guest title:note since:today").outcome =
      .ok (.all [.compare "created_timestamp" .atLeast (.integer 82800), .not (.hasRole "actor_roles" "guest"),
        .isIn "id" [.integer 1, .integer 7]]) ∧
    ∃ condition,
      (busy.condition "title:note since:1970-01-02 since:today title:draft -role:guest").outcome = .ok condition ∧
      ∀ e, (Condition.all [.compare "created_timestamp" .atLeast (.integer 82800), .not (.hasRole "actor_roles" "guest"),
        .isIn "id" [.integer 1, .integer 7]]).accepts e ↔ condition.accepts e := by
  have hsets : busy.AnswersSets := by
    refine ⟨fun _ _ _ h => ?_, fun d hd _ _ _ h => ?_⟩
    · simp only [busy, h "draft"]
    · obtain rfl : d = busy.directory := by simpa [directories, busy] using hd
      simp only [busy, h "ann"]
  have hterms : Term.ofSearch "title:draft since:1970-01-02 -role:guest title:note since:today" =
      [⟨"title", false, "draft"⟩, ⟨"since", false, "1970-01-02"⟩, ⟨"role", true, "guest"⟩, ⟨"title", false, "note"⟩,
        ⟨"since", false, "today"⟩] := by rfl
  have hterms' : Term.ofSearch "title:note since:1970-01-02 since:today title:draft -role:guest" =
      [⟨"title", false, "note"⟩, ⟨"since", false, "1970-01-02"⟩, ⟨"since", false, "today"⟩, ⟨"title", false, "draft"⟩,
        ⟨"role", true, "guest"⟩] := by rfl
  have hperm : (Term.ofSearch "title:draft since:1970-01-02 -role:guest title:note since:today").Perm
      (Term.ofSearch "title:note since:1970-01-02 since:today title:draft -role:guest") := by
    rw [hterms, hterms']
    decide
  have hdays : ∀ name column bound, busy.resolution? name = some (.day column bound) →
      Term.firstPlain? (Term.ofSearch "title:draft since:1970-01-02 -role:guest title:note since:today") name =
        Term.firstPlain? (Term.ofSearch "title:note since:1970-01-02 since:today title:draft -role:guest") name := by
    intro name column bound hday
    have htitle : "title" ≠ name := by
      rintro rfl
      cases hday.symm.trans (rfl : busy.resolution? "title" = some (.metadata "PostTitle"))
    rw [hterms, hterms']
    simp [Term.firstPlain?, List.find?_cons, htitle]
  have hcondition : (busy.condition "title:draft since:1970-01-02 -role:guest title:note since:today").outcome =
      .ok (.all [.compare "created_timestamp" .atLeast (.integer 82800), .not (.hasRole "actor_roles" "guest"),
        .isIn "id" [.integer 1, .integer 7]]) := by
    have hgroups : Group.ofTerms (Term.ofSearch "title:draft since:1970-01-02 -role:guest title:note since:today") =
        [⟨"title", ["draft", "note"], []⟩, ⟨"since", ["1970-01-02", "today"], []⟩, ⟨"role", [], ["guest"]⟩] := by
      rw [hterms]
      rfl
    refine outcome_condition.mpr ⟨[.ids ⟨some (.ofList [7, 1]), .empty⟩,
      .condition (.compare "created_timestamp" .atLeast (.integer 82800)),
      .condition (.not (.hasRole "actor_roles" "guest"))], ?_, by rfl⟩
    rw [hgroups]
    exact .cons (by rfl) (.cons (by rfl) (.cons (by rfl) .nil))
  obtain ⟨hsuccess, haccepts⟩ := condition_perm hsets hperm hdays
  obtain ⟨condition, hcondition'⟩ := hsuccess.mp ⟨_, hcondition⟩
  exact ⟨hsets, hperm, hcondition, condition, hcondition', haccepts _ _ hcondition hcondition'⟩

end Compiler

end AuditSearch
