import AuditSearch.Proofs.Search.Typed

/-!
Searches with one more term. A negated term leaves out events, and so does a plain one that is the first of its field;
a plain one that joins others, of its field or of metadata, lets in those that it is enough for.
-/
namespace AuditSearch

/-! ### Lookups of more values -/

/-- What a lookup finds for some values is what it finds for one of them alone. -/
def IsUnion {α : Type} (find : List String → Except Failure (List α)) : Prop :=
  ∀ values found, find values = .ok found → ∀ a, a ∈ found ↔ ∃ v ∈ values, a ∈ answered (find [v])

theorem IsUnion.mono {α : Type} {find : List String → Except Failure (List α)} (h : IsUnion find)
    {values more : List String} (hsubset : values ⊆ more) (hvalues : ∃ found, find values = .ok found)
    (hmore : ∃ found, find more = .ok found) : answered (find values) ⊆ answered (find more) := by
  obtain ⟨found, hfound⟩ := hvalues
  obtain ⟨foundMore, hfoundMore⟩ := hmore
  rw [answered_ok hfound, answered_ok hfoundMore]
  intro a ha
  obtain ⟨v, hv, hone⟩ := (h values found hfound a).mp ha
  exact (h more foundMore hfoundMore a).mpr ⟨v, hsubset hv, hone⟩

theorem isUnion_flatMap {α : Type} (f : String → List α) : IsUnion fun values => .ok (values.flatMap f) := by
  intro values found hfound a
  obtain rfl := Except.ok.inj hfound
  simp [answered, Except.toOption]

/-! ### Values of more terms -/

namespace Term

variable {terms : List Term} {t : Term} {name : String} {negated : Bool}

theorem valuesOf_ne_nil_iff : valuesOf terms name negated ≠ [] ↔ ∃ s ∈ terms, s.field = name ∧ s.negated = negated := by
  constructor
  · intro h
    obtain ⟨value, hvalue⟩ := List.exists_mem_of_ne_nil _ h
    exact ⟨_, mem_valuesOf.mp hvalue, rfl, rfl⟩
  · rintro ⟨s, hs, rfl, rfl⟩
    exact List.ne_nil_of_mem (mem_valuesOf.mpr hs)

theorem valuesOf_subset_append (terms : List Term) (t : Term) (name : String) (negated : Bool) :
    valuesOf terms name negated ⊆ valuesOf (terms ++ [t]) name negated := fun _ hvalue =>
  mem_valuesOf.mpr (List.mem_append_left _ (mem_valuesOf.mp hvalue))

theorem valuesOf_append_ne_nil (h : valuesOf terms name negated ≠ []) : valuesOf (terms ++ [t]) name negated ≠ [] :=
  fun hnil => h (List.eq_nil_of_subset_nil (hnil ▸ valuesOf_subset_append terms t name negated))

theorem valuesOf_append_of_other (h : ¬(t.field = name ∧ t.negated = negated)) :
    valuesOf (terms ++ [t]) name negated = valuesOf terms name negated := by
  rw [valuesOf_concat, if_neg h]

theorem head_valuesOf_append (h : valuesOf terms name negated ≠ []) :
    (valuesOf (terms ++ [t]) name negated).head? = (valuesOf terms name negated).head? := by
  rw [valuesOf_concat]
  split
  · rw [Group.addNew]
    split
    · rfl
    · exact List.head?_append_of_ne_nil _ h
  · rfl

end Term

/-! ### What fields ask -/

namespace Compiler

variable {c : Compiler} {read : Char → Char} {e : Event}

/-- Lookups find for some values what they find for one of them alone. -/
structure HasUnions (c : Compiler) : Prop where
  index : ∀ key, IsUnion (c.index.find key)
  directories : ∀ d ∈ c.directories, ∀ attr, IsUnion (d.find attr)

/-- What kind of field a name stands for. -/
def kind? (c : Compiler) (name : String) : Option FieldKind :=
  (c.catalog.get? name).map fun field => field.resolution.kind

/-- An event has one of some values of a field, where only the event and its actor are looked at. -/
def HasOne (c : Compiler) (read : Char → Char) (resolution : Resolution) (values : List String) (e : Event) : Prop :=
  match resolution with
  | .column name type => ∃ w, e.column? name = some w ∧ ∃ s ∈ values, (Group.literal type s).looselyEquals w
  | .role _ => ∃ role ∈ values, e.HasRole read role
  | .identity attr projections => ∃ i ∈ c.people attr values, Projection.StandsIn projections i e
  | .day _ _ | .metadata _ => False

/-- A field asks for one of the plain values, if there are any, and for none of the negated ones. -/
theorem asks_iff {resolution : Resolution} (hkind : resolution.kind = .direct ∨ resolution.kind = .identity)
    (included excluded : List String) : c.Asks read resolution included excluded e ↔
      (included ≠ [] → c.HasOne read resolution included e) ∧ (excluded ≠ [] → ¬c.HasOne read resolution excluded e) := by
  cases resolution with
  | column name type | role name | identity attr projections =>
    refine and_congr_right fun _ => ?_
    cases excluded <;> simp [HasOne]
  | day | metadata => simp [Resolution.kind] at hkind

theorem asks_metadata {resolution : Resolution} (hkind : resolution.kind = .metadata) (included excluded : List String) :
    c.Asks read resolution included excluded e := by
  cases resolution with
  | metadata => trivial
  | column | role | identity | day => cases hkind

/-- A day field asks for its first plain value alone. -/
theorem asks_day_congr {resolution : Resolution} (hkind : resolution.kind = .day) {included included' : List String}
    (hhead : included.head? = included'.head?) (excluded excluded' : List String) :
    c.Asks read resolution included excluded e ↔ c.Asks read resolution included' excluded' e := by
  cases resolution with
  | day name bound => rw [Asks, Asks, hhead]
  | column | role | identity | metadata => cases hkind

/-! ### Searches with one more term -/

section
variable {terms : List Term} {t : Term} {parts parts' : List Contribution} {name : String} {negated : Bool}
  (hstandard : Catalog.standard = .ok c.catalog) (hunions : c.HasUnions) (hresolves : c.Resolves (Group.ofTerms terms) parts)
  (hresolves' : c.Resolves (Group.ofTerms (terms ++ [t])) parts')
include hstandard hunions hresolves hresolves'

theorem hasOne_append {field : Field} (hfield : c.catalog.get? name = some field)
    (hne : Term.valuesOf terms name negated ≠ [])
    (h : c.HasOne read field.resolution (Term.valuesOf terms name negated) e) :
    c.HasOne read field.resolution (Term.valuesOf (terms ++ [t]) name negated) e := by
  have hsubset := Term.valuesOf_subset_append terms t name negated
  cases hresolution : field.resolution with
  | column column type =>
    rw [hresolution] at h
    obtain ⟨w, hw, s, hs, hequal⟩ := h
    exact ⟨w, hw, s, hsubset hs, hequal⟩
  | role column =>
    rw [hresolution] at h
    obtain ⟨role, hmem, hrole⟩ := h
    exact ⟨role, hsubset hmem, hrole⟩
  | identity attr projections =>
    obtain rfl : projections = Catalog.actorProjections := by
      have := Catalog.isStandard_of_get hstandard hfield
      rwa [hresolution] at this
    -- People are merged by id and login, and nothing else of them is looked at.
    have hsame (i k : Identity) : i.id = k.id → i.login = k.login →
        Projection.StandsIn Catalog.actorProjections i e → Projection.StandsIn Catalog.actorProjections k e :=
      Projection.standsIn_of_same (by decide)
    rw [hresolution, HasOne, exists_people_iff c attr _ hsame] at h
    rw [HasOne, exists_people_iff c attr _ hsame]
    obtain ⟨d, hd, i, hi, hstands⟩ := h
    have hmono := (hunions.directories d hd attr).mono hsubset (found_people hresolves hfield hresolution hne d hd)
      (found_people hresolves' hfield hresolution (Term.valuesOf_append_ne_nil hne) d hd)
    exact ⟨d, hd, i, hmono hi, hstands⟩
  | day | metadata =>
    rw [hresolution] at h
    exact h.elim

omit hstandard in
theorem findsMetadata_append {id : Int64} (h : c.FindsMetadata terms negated id) :
    c.FindsMetadata (terms ++ [t]) negated id := by
  obtain ⟨name, field, key, hfield, hresolution, hne, hid⟩ := (findsMetadata_iff terms negated id).mp h
  have hmono := (hunions.index key).mono (Term.valuesOf_subset_append terms t name negated)
    (found_metadata hresolves hfield hresolution hne)
    (found_metadata hresolves' hfield hresolution (Term.valuesOf_append_ne_nil hne))
  exact (findsMetadata_iff _ negated id).mpr ⟨name, field, key, hfield, hresolution, Term.valuesOf_append_ne_nil hne, hmono hid⟩

/-- A field that has no new plain value, or had none before, or is one of days, asks at least what it asked. -/
theorem asks_of_append {field : Field} (hfield : c.catalog.get? name = some field)
    (hplain : Term.valuesOf terms name false ≠ [] →
      Term.valuesOf (terms ++ [t]) name false = Term.valuesOf terms name false ∨ field.resolution.kind = .day)
    (h : c.Asks read field.resolution (Term.valuesOf (terms ++ [t]) name false) (Term.valuesOf (terms ++ [t]) name true) e) :
    c.Asks read field.resolution (Term.valuesOf terms name false) (Term.valuesOf terms name true) e := by
  have hlocal (hkind : field.resolution.kind = .direct ∨ field.resolution.kind = .identity) :
      c.Asks read field.resolution (Term.valuesOf terms name false) (Term.valuesOf terms name true) e := by
    obtain ⟨hincluded, hexcluded⟩ := (asks_iff hkind _ _).mp h
    refine (asks_iff hkind _ _).mpr ⟨fun hne => ?_, fun hne hhas => ?_⟩
    · have hsame := (hplain hne).resolve_right (by rintro hday; simp [hday] at hkind)
      rw [hsame] at hincluded
      exact hincluded hne
    · exact hexcluded (Term.valuesOf_append_ne_nil hne) (hasOne_append hstandard hunions hresolves hresolves' hfield hne hhas)
  cases hkind : field.resolution.kind with
  | metadata => exact asks_metadata hkind _ _
  | day =>
    by_cases hnil : Term.valuesOf terms name false = []
    · rw [hnil]
      exact (asks_day_congr hkind rfl [] _).mp (asks_nothing c _ e)
    · exact (asks_day_congr hkind (Term.head_valuesOf_append hnil) _ _).mp h
  | direct => exact hlocal (.inl hkind)
  | identity => exact hlocal (.inr hkind)

/-- A field that has no new negated value, and no new plain one unless it had others, asks no more than it asked. -/
theorem append_asks {field : Field} (hfield : c.catalog.get? name = some field)
    (hplain : field.resolution.kind ≠ .metadata →
      Term.valuesOf (terms ++ [t]) name false = Term.valuesOf terms name false ∨
        Term.valuesOf terms name false ≠ [] ∧ field.resolution.kind ≠ .day)
    (hnegated : Term.valuesOf (terms ++ [t]) name true = Term.valuesOf terms name true)
    (h : c.Asks read field.resolution (Term.valuesOf terms name false) (Term.valuesOf terms name true) e) :
    c.Asks read field.resolution (Term.valuesOf (terms ++ [t]) name false) (Term.valuesOf (terms ++ [t]) name true) e := by
  rw [hnegated]
  by_cases hmetadata : field.resolution.kind = .metadata
  · exact asks_metadata hmetadata _ _
  · obtain hsame | ⟨hne, hday⟩ := hplain hmetadata
    · rwa [hsame]
    · have hkind : field.resolution.kind = .direct ∨ field.resolution.kind = .identity := by
        cases hkind : field.resolution.kind <;> simp_all
      obtain ⟨hincluded, hexcluded⟩ := (asks_iff hkind _ _).mp h
      exact (asks_iff hkind _ _).mpr
        ⟨fun _ => hasOne_append hstandard hunions hresolves hresolves' hfield hne (hincluded hne), hexcluded⟩

end

/-- A plain term joins others of which any one is enough: those of its field, or those of all fields of metadata. -/
def Joins (c : Compiler) (terms : List Term) (t : Term) : Prop :=
  ∃ s ∈ terms, s.negated = false ∧ (s.field = t.field ∧ c.kind? t.field ≠ some .day ∨
    c.kind? s.field = some .metadata ∧ c.kind? t.field = some .metadata)

instance (c : Compiler) (terms : List Term) (t : Term) : Decidable (c.Joins terms t) :=
  inferInstanceAs (Decidable (∃ s ∈ terms, _))

theorem kind_of_get {name : String} {field : Field} (h : c.catalog.get? name = some field) :
    c.kind? name = some field.resolution.kind := by
  rw [kind?, h, Option.map_some]

theorem kind_eq_metadata_iff {name : String} : c.kind? name = some .metadata ↔
    ∃ field key, c.catalog.get? name = some field ∧ field.resolution = .metadata key := by
  constructor
  · intro h
    obtain ⟨field, hfield, hkind⟩ := Option.map_eq_some_iff.mp h
    cases hresolution : field.resolution with
    | metadata key => exact ⟨field, key, hfield, hresolution⟩
    | column | role | identity | day =>
      rw [hresolution] at hkind
      cases hkind
  · rintro ⟨field, key, hfield, hresolution⟩
    rw [kind_of_get hfield, hresolution]
    rfl

/-- What is found for metadata depends on the values of fields of metadata alone. -/
theorem findsMetadata_congr {terms terms' : List Term} {negated : Bool} {id : Int64}
    (h : ∀ name, c.kind? name = some .metadata → Term.valuesOf terms name negated = Term.valuesOf terms' name negated)
    (hfinds : c.FindsMetadata terms negated id) : c.FindsMetadata terms' negated id := by
  obtain ⟨name, field, key, hfield, hresolution, hne, hid⟩ := (findsMetadata_iff terms negated id).mp hfinds
  have hsame := h name (kind_eq_metadata_iff.mpr ⟨field, key, hfield, hresolution⟩)
  rw [hsame] at hne hid
  exact (findsMetadata_iff terms' negated id).mpr ⟨name, field, key, hfield, hresolution, hne, hid⟩

theorem asksMetadata_iff_kind {terms : List Term} {negated : Bool} :
    (∃ key values, c.AsksMetadata terms negated key values) ↔
      ∃ s ∈ terms, s.negated = negated ∧ c.kind? s.field = some .metadata := by
  rw [asksMetadata_iff]
  constructor
  · rintro ⟨name, field, key, hfield, hresolution, hne⟩
    obtain ⟨s, hs, rfl, hnegated⟩ := Term.valuesOf_ne_nil_iff.mp hne
    exact ⟨s, hs, hnegated, kind_eq_metadata_iff.mpr ⟨field, key, hfield, hresolution⟩⟩
  · rintro ⟨s, hs, hnegated, hkind⟩
    obtain ⟨field, key, hfield, hresolution⟩ := kind_eq_metadata_iff.mp hkind
    exact ⟨s.field, field, key, hfield, hresolution, Term.valuesOf_ne_nil_iff.mpr ⟨s, hs, rfl, hnegated⟩⟩

section
variable {terms : List Term} {t : Term} {parts parts' : List Contribution}
  (hstandard : Catalog.standard = .ok c.catalog) (hunions : c.HasUnions) (hresolves : c.Resolves (Group.ofTerms terms) parts)
  (hresolves' : c.Resolves (Group.ofTerms (terms ++ [t])) parts')
include hstandard hunions hresolves hresolves'

/-- A negated term, or a plain one that joins no others, asks for more. -/
theorem meaning_of_append (hnarrows : t.negated ∨ ¬c.Joins terms t) (h : c.Meaning read (terms ++ [t]) e) :
    c.Meaning read terms e where
  fields name field hfield := by
    refine asks_of_append hstandard hunions hresolves hresolves' hfield (fun hne => ?_) (h.fields name field hfield)
    by_cases hnew : t.field = name ∧ t.negated = false
    · -- A plain term of a field that has others joins them, unless the field is one of days.
      obtain ⟨rfl, hplain⟩ := hnew
      obtain ⟨s, hs, hname, hsplain⟩ := Term.valuesOf_ne_nil_iff.mp hne
      refine .inr (by_contra fun hday => hnarrows.resolve_left (by simp [hplain]) ⟨s, hs, hsplain, .inl ⟨hname, ?_⟩⟩)
      simpa [kind_of_get hfield] using hday
    · exact .inl (Term.valuesOf_append_of_other hnew)
  included hasks := by
    obtain ⟨s, hs, hsplain, hskind⟩ := asksMetadata_iff_kind.mp hasks
    refine findsMetadata_congr (fun name hkind => Term.valuesOf_append_of_other ?_)
      (h.included (asksMetadata_iff_kind.mpr ⟨s, List.mem_append_left _ hs, hsplain, hskind⟩))
    rintro ⟨rfl, hplain⟩
    exact hnarrows.resolve_left (by simp [hplain]) ⟨s, hs, hsplain, .inr ⟨hskind, hkind⟩⟩
  excluded hfinds := h.excluded (findsMetadata_append hunions hresolves hresolves' hfinds)

/-- A plain term that joins others asks for less. -/
theorem append_meaning (hplain : t.negated = false) (hjoins : c.Joins terms t) (h : c.Meaning read terms e) :
    c.Meaning read (terms ++ [t]) e where
  fields name field hfield := by
    refine append_asks hstandard hunions hresolves hresolves' hfield (fun hmetadata => ?_)
      (Term.valuesOf_append_of_other (by simp [hplain])) (h.fields name field hfield)
    by_cases hname : t.field = name
    · subst hname
      have hkind := kind_of_get hfield
      obtain ⟨s, hs, hsplain, ⟨hname, hday⟩ | ⟨-, htkind⟩⟩ := hjoins
      · exact .inr ⟨Term.valuesOf_ne_nil_iff.mpr ⟨s, hs, hname, hsplain⟩, by simpa [hkind] using hday⟩
      · rw [hkind, Option.some_inj] at htkind
        exact absurd htkind hmetadata
    · exact .inl (Term.valuesOf_append_of_other (by simp [hname]))
  included hasks := by
    refine findsMetadata_append hunions hresolves hresolves' (h.included (asksMetadata_iff_kind.mpr ?_))
    obtain ⟨s, hs, hsplain, hskind⟩ := asksMetadata_iff_kind.mp hasks
    -- If the new term is the one that asks, so does a term that it joins: that one is of its field or of metadata as well.
    obtain hs | hs := List.mem_append.mp hs
    · exact ⟨s, hs, hsplain, hskind⟩
    · obtain rfl := List.mem_singleton.mp hs
      obtain ⟨r, hr, hrplain, ⟨hname, -⟩ | ⟨hrkind, -⟩⟩ := hjoins
      · exact ⟨r, hr, hrplain, hname ▸ hskind⟩
      · exact ⟨r, hr, hrplain, hrkind⟩
  excluded hfinds := h.excluded <| findsMetadata_congr
    (fun name _ => Term.valuesOf_append_of_other (by simp [hplain])) hfinds

end

/-- A search with one more term accepts no event that it did not accept before, if the term is negated or joins no other
term; and every one that it accepted, if it is a plain one that joins others. -/
theorem accepts_append (hstandard : Catalog.standard = .ok c.catalog) (hoffset : c.offsetSeconds.natAbs < 86400)
    (hunions : c.HasUnions) {raw atom : String} (hatom : Text.IsWord atom) {t : Term} (hterm : Term.parse? atom = some t)
    {condition condition' : Condition} (h : (c.condition raw).outcome = .ok condition)
    (h' : (c.condition (raw ++ " " ++ atom)).outcome = .ok condition') :
    (t.negated → ∀ e, condition'.accepts e → condition.accepts e) ∧
    (¬t.negated → c.Joins (Term.ofSearch raw) t → ∀ e, condition.accepts e → condition'.accepts e) ∧
    (¬t.negated → ¬c.Joins (Term.ofSearch raw) t → ∀ e, condition'.accepts e → condition.accepts e) := by
  have hsound := isSound_of_standard hstandard hoffset
  have haccepts (e : Event) := acceptsAs_condition hsound h id e
  have haccepts' (e : Event) := acceptsAs_condition hsound h' id e
  rw [Term.ofSearch_append hatom hterm] at haccepts'
  simp only [Condition.acceptsAs_id] at haccepts haccepts'
  obtain ⟨parts, hresolves, -⟩ := outcome_condition.mp h
  obtain ⟨parts', hresolves', -⟩ := outcome_condition.mp h'
  rw [Term.ofSearch_append hatom hterm] at hresolves'
  simp only [haccepts, haccepts']
  have hnarrows (hnarrows : t.negated ∨ ¬c.Joins (Term.ofSearch raw) t) (e : Event) :
      c.Meaning id (Term.ofSearch raw ++ [t]) e → c.Meaning id (Term.ofSearch raw) e :=
    meaning_of_append hstandard hunions hresolves hresolves' hnarrows
  refine ⟨fun hnegated => hnarrows (.inl hnegated), fun hplain hjoins e => ?_, fun _ hjoins => hnarrows (.inr hjoins)⟩
  exact append_meaning hstandard hunions hresolves hresolves' (by simpa using hplain) hjoins

/-- A compiler over the standard catalog, with an index of three events by title and by status, and one person. -/
def tagged : Compiler :=
  ⟨Catalog.standardFields,
    ⟨fun _ values => .ok (values.flatMap fun v => if v = "draft" then [4, 1] else [4, 2])⟩,
    ⟨"staff", fun _ values => .ok (values.flatMap fun _ => [⟨7, "mo", "Mo", "Li", "mo@staff", []⟩])⟩, none, true, 0, .strict⟩

theorem accepts_append_tagged :
    let titled := Condition.isIn "id" [.integer 1, .integer 4]
    let wider := Condition.isIn "id" [.integer 1, .integer 2, .integer 4]
    let narrower := Condition.all [.any [.isIn "actor_id" [.integer 7], .isIn "actor_login" [.text "mo"]], titled]
    ((tagged.condition "post_title:draft").outcome = .ok titled ∧
      (tagged.condition ("post_title:draft" ++ " " ++ "post_status:open")).outcome = .ok wider ∧
      (tagged.condition ("post_title:draft" ++ " " ++ "user_id:7")).outcome = .ok narrower) ∧
    (∀ e, titled.accepts e → wider.accepts e) ∧ ∀ e, narrower.accepts e → titled.accepts e := by
  intro titled wider narrower
  have hunions : tagged.HasUnions := by
    refine ⟨fun key => isUnion_flatMap _, fun d hd attr => ?_⟩
    obtain rfl := List.mem_singleton.mp hd
    exact isUnion_flatMap _
  have hstandard : Catalog.standard = .ok tagged.catalog := Catalog.standard_eq
  have htitled : (tagged.condition "post_title:draft").outcome = .ok titled := by rfl
  have hwider : (tagged.condition ("post_title:draft" ++ " " ++ "post_status:open")).outcome = .ok wider := by rfl
  have hnarrower : (tagged.condition ("post_title:draft" ++ " " ++ "user_id:7")).outcome = .ok narrower := by rfl
  have hjoins : tagged.Joins (Term.ofSearch "post_title:draft") ⟨"post_status", false, "open"⟩ ∧
      ¬tagged.Joins (Term.ofSearch "post_title:draft") ⟨"user_id", false, "7"⟩ := by
    decide +kernel
  have hwords : Text.IsWord "post_status:open" ∧ Text.IsWord "user_id:7" := by decide
  obtain ⟨-, hwiden, -⟩ := accepts_append hstandard (by decide) hunions hwords.1 rfl htitled hwider
  obtain ⟨-, -, hnarrow⟩ := accepts_append hstandard (by decide) hunions hwords.2 rfl htitled hnarrower
  exact ⟨⟨htitled, hwider, hnarrower⟩, hwiden (by decide) hjoins.1, hnarrow (by decide) hjoins.2⟩

end Compiler

end AuditSearch
