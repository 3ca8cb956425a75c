import AuditSearch.Proofs.Search.Failure
import AuditSearch.Proofs.Search.Order

/-!
Several directories. They are as good as one that answers with all their answers one after the other, and of people who
are told by id and login neither the order of the answers counts nor whether one is repeated.
-/
namespace AuditSearch

/-! ### What directories find together -/

namespace Directory
variable {attr : Attribute} {values : List String} {ds ds' : List Directory}

/-- The directory that answers with what others find. -/
def joined (name : String) (ds : List Directory) : Directory :=
  ⟨name, fun attr values => .ok (found ds attr values)⟩

theorem found_joined (name : String) (ds : List Directory) (attr : Attribute) (values : List String) :
    found [joined name ds] attr values = found ds attr values := by
  simp [found, joined, answered, Except.toOption]

theorem merged_joined (name : String) (ds : List Directory) (attr : Attribute) (values : List String) :
    merged [joined name ds] attr values = merged ds attr values := by
  rw [merged, found_joined, merged]

theorem mem_found {i : Identity} : i ∈ found ds attr values ↔ ∃ d ∈ ds, i ∈ answered (d.find attr values) :=
  List.mem_flatMap

/-- Two directories answer with the same identities, in any order and each as often as they like. -/
def AnswersLike (attr : Attribute) (values : List String) (d d' : Directory) : Prop :=
  ∃ is is', d.find attr values = .ok is ∧ d'.find attr values = .ok is' ∧ HasSameMembers is is'

theorem hasSameMembers_found_of_perm (h : ds.Perm ds') :
    HasSameMembers (found ds attr values) (found ds' attr values) := by
  intro i
  simp only [mem_found, h.mem_iff]

theorem hasSameMembers_found_of_answersLike (h : List.Forall₂ (AnswersLike attr values) ds ds') :
    HasSameMembers (found ds attr values) (found ds' attr values) := by
  induction h with
  | nil => exact fun _ => Iff.rfl
  | cons hlike _ ih =>
    intro i
    obtain ⟨is, is', his, his', hsame⟩ := hlike
    unfold found at ih ⊢
    rw [List.flatMap_cons, List.flatMap_cons, List.mem_append, List.mem_append, answered_ok his, answered_ok his',
      hsame i, ih i]

end Directory

/-! ### Groups of people -/

namespace Group
variable {g : Group} {attr : Attribute} {projections : List Projection} {ds ds' : List Directory}
  {condition condition' : Condition}

/-- The lists of values that a group of people asks for. -/
def asked (g : Group) : List (List String) :=
  [g.included, g.excluded].filter fun values => !values.isEmpty

theorem mem_asked {values : List String} : values ∈ g.asked ↔ values ∈ [g.included, g.excluded] ∧ values ≠ [] := by
  simp [asked]

/-- Every directory answers every question of a group. -/
def IsAnswered (g : Group) (attr : Attribute) (ds : List Directory) : Prop :=
  ∀ values ∈ g.asked, ∀ d ∈ ds, ∃ is, d.find attr values = .ok is

theorem isAnswered_joined (g : Group) (attr : Attribute) (name : String) (ds : List Directory) :
    g.IsAnswered attr [Directory.joined name ds] := by
  intro values _ d hd
  obtain rfl := List.mem_singleton.mp hd
  exact ⟨_, rfl⟩

theorem IsAnswered.perm (h : g.IsAnswered attr ds) (hperm : ds.Perm ds') : g.IsAnswered attr ds' :=
  fun values hvalues d hd => h values hvalues d (hperm.mem_iff.mpr hd)

theorem isAnswered_of_answersLike (h : ∀ values ∈ g.asked, List.Forall₂ (Directory.AnswersLike attr values) ds ds') :
    g.IsAnswered attr ds' := by
  intro values hvalues d hd
  obtain ⟨_, -, _, is, -, his, -⟩ := exists_left (h values hvalues) hd
  exact ⟨is, his⟩

/-- What a group of people comes to if it is answered: it depends on no more than what is found for its values. -/
theorem outcome_of_isAnswered (h : g.IsAnswered attr ds) (projections : List Projection) :
    (g.identityCondition ds attr projections).outcome = .ok (.mkAll
      ((if g.included.isEmpty then [] else [Projection.anyOf projections (Directory.merged ds attr g.included)]) ++
        if g.excluded.isEmpty then [] else [Projection.noneOf projections (Directory.merged ds attr g.excluded)])) := by
  have hside {values : List String} (hvalues : values ∈ [g.included, g.excluded]) (test : List Identity → Condition) :
      values = [] ∧ [] = (if values.isEmpty then [] else [test (Directory.merged ds attr values)]) ∨
        values ≠ [] ∧ ∃ is, (Directory.askAll ds attr values).outcome = .ok is ∧
          [test is] = if values.isEmpty then [] else [test (Directory.merged ds attr values)] := by
    by_cases hnil : values = []
    · exact .inl ⟨hnil, by simp [hnil]⟩
    · obtain ⟨is, his⟩ := Directory.exists_askAll (h values (mem_asked.mpr ⟨hvalues, hnil⟩))
      refine .inr ⟨hnil, is, his, ?_⟩
      rw [Directory.eq_of_askAll his, if_neg (by simpa using hnil)]
  exact outcome_identityCondition_iff.mpr ⟨_, _, hside (by simp) _, hside (by simp) _, rfl⟩

/-- A group of people is resolved exactly if it is answered. -/
theorem isAnswered_iff (projections : List Projection) :
    g.IsAnswered attr ds ↔ ∃ condition, (g.identityCondition ds attr projections).outcome = .ok condition := by
  constructor
  · intro h
    exact ⟨_, outcome_of_isAnswered h projections⟩
  · rintro ⟨condition, hcondition⟩ values hvalues
    obtain ⟨hmem, hne⟩ := mem_asked.mp hvalues
    exact found_of_identityCondition hcondition values hmem hne

/-- Of people who are told by id and login it counts who is found, and neither where nor how often. -/
theorem accepts_iff_of_sameMembers (hkeys : ∀ p ∈ projections, p.attr = .id ∨ p.attr = .login)
    (hfound : ∀ values ∈ g.asked, HasSameMembers (Directory.found ds attr values) (Directory.found ds' attr values))
    (h : (g.identityCondition ds attr projections).outcome = .ok condition)
    (h' : (g.identityCondition ds' attr projections).outcome = .ok condition') (e : Event) :
    condition.accepts e ↔ condition'.accepts e := by
  have hsame (i k : Identity) : i.id = k.id → i.login = k.login →
      Projection.StandsIn projections i e → Projection.StandsIn projections k e :=
    Projection.standsIn_of_same hkeys
  have hstands {values : List String} (hvalues : values ∈ g.asked) :
      (∃ i ∈ Directory.merged ds attr values, Projection.StandsIn projections i e) ↔
        ∃ i ∈ Directory.merged ds' attr values, Projection.StandsIn projections i e := by
    unfold Directory.merged
    rw [Identity.exists_mem_eraseDupsBy_iff hsame, Identity.exists_mem_eraseDupsBy_iff hsame]
    exact exists_congr fun i => and_congr_left' (hfound values hvalues i)
  rw [← Condition.acceptsAs_id, ← Condition.acceptsAs_id, acceptsAs_ofPeople h, acceptsAs_ofPeople h']
  refine and_congr ?_ ?_
  · exact forall_congr' fun hne => hstands (mem_asked.mpr ⟨by simp, hne⟩)
  · refine forall_congr' fun hne => ?_
    have hnone := not_congr (hstands (mem_asked.mpr ⟨by simp, hne⟩))
    simpa only [not_exists, not_and] using hnone

end Group

/-! ### The federated directory -/

namespace Compiler

/-- A federated directory that is not asked might as well not be there. -/
theorem compile_of_not_federates {c : Compiler} (h : c.federates = false) (federated : Option Directory) (raw : String) :
    ({ c with federated := federated }).compile raw = c.compile raw := by
  have hdirectories : ({ c with federated := federated } : Compiler).directories = c.directories := by
    simp [directories, h]
  have hresolve : ({ c with federated := federated } : Compiler).resolve = c.resolve := by
    funext g
    rw [resolve_eq, resolve_eq, hdirectories]
    rfl
  unfold compile condition conditionOfGroups
  rw [hresolve]

theorem federates_of_withSettings {c c' : Compiler} {s : Settings} (h : c.withSettings s = .ok c') :
    c'.federates = s.isFederated := by
  unfold withSettings at h
  cases hoffset : s.offsetSeconds with
  | error f => simp [hoffset, bind, Except.bind] at h
  | ok offset =>
    rw [hoffset] at h
    cases h
    rfl

/-- Directories that all answer are merged into a condition that one directory with all their answers gives as well; the
order of the directories and repeats in their answers do not change which events are accepted, if people are told by id
and login; one directory that fails is enough to fail; and a federated directory counts only if settings let it. -/
theorem merge_directories (g : Group) (attr : Attribute) (projections : List Projection) (ds : List Directory) :
    (g.IsAnswered attr ds → ∃ condition, (g.identityCondition ds attr projections).outcome = .ok condition ∧
      (∀ name, (g.identityCondition [Directory.joined name ds] attr projections).outcome = .ok condition) ∧
      ((∀ p ∈ projections, p.attr = .id ∨ p.attr = .login) → ∀ ds',
        ds.Perm ds' ∨ (∀ values ∈ g.asked, List.Forall₂ (Directory.AnswersLike attr values) ds ds') →
        ∃ condition', (g.identityCondition ds' attr projections).outcome = .ok condition' ∧
          ∀ e, condition.accepts e ↔ condition'.accepts e)) ∧
    (∀ d ∈ ds, ∀ values ∈ g.asked, ∀ f, d.find attr values = .error f →
      ∃ f', (g.identityCondition ds attr projections).outcome = .error f') ∧
    (∀ c : Compiler, c.federates = false → ∀ federated raw,
      ({ c with federated := federated }).compile raw = ({ c with federated := none }).compile raw) ∧
    ∀ (c c' : Compiler) (s : Settings), c.withSettings s = .ok c' → s.federated = some false → c'.federates = false := by
  refine ⟨fun hanswered => ?_, fun d hd values hvalues f hfailed => ?_, fun c hc federated raw => ?_,
    fun c c' s h hs => ?_⟩
  · have hcondition := Group.outcome_of_isAnswered hanswered projections
    refine ⟨_, hcondition, fun name => ?_, fun hkeys ds' hds' => ?_⟩
    · rw [Group.outcome_of_isAnswered (g.isAnswered_joined attr name ds)]
      rw [Directory.merged_joined, Directory.merged_joined]
    · obtain ⟨hanswered', hfound⟩ : g.IsAnswered attr ds' ∧ ∀ values ∈ g.asked,
          HasSameMembers (Directory.found ds attr values) (Directory.found ds' attr values) := by
        rcases hds' with hperm | hlike
        · exact ⟨hanswered.perm hperm, fun _ _ => Directory.hasSameMembers_found_of_perm hperm⟩
        · exact ⟨Group.isAnswered_of_answersLike hlike, fun values hvalues =>
            Directory.hasSameMembers_found_of_answersLike (hlike values hvalues)⟩
      obtain ⟨condition', hcondition'⟩ := (Group.isAnswered_iff projections).mp hanswered'
      exact ⟨condition', hcondition', Group.accepts_iff_of_sameMembers hkeys hfound hcondition hcondition'⟩
  · cases h : (g.identityCondition ds attr projections).outcome with
    | error f' => exact ⟨f', rfl⟩
    | ok condition =>
      obtain ⟨is, his⟩ := (Group.isAnswered_iff projections).mpr ⟨condition, h⟩ values hvalues d hd
      cases hfailed.symm.trans his
  · exact (compile_of_not_federates hc federated raw).trans (compile_of_not_federates hc none raw).symm
  · rw [federates_of_withSettings h, Settings.isFederated, hs]
    rfl

/-- A directory that knows one person. -/
def staff : Directory :=
  ⟨"staff", fun _ values => .ok (values.filterMap fun v =>
    if v = "ann" then some ⟨7, "ann", "Ann", "Lee", "ann@staff", []⟩ else none)⟩

/-- A directory that knows the same person, also by another login, and others. -/
def network : Directory :=
  ⟨"network", fun _ values => .ok (values.flatMap fun v =>
    if v = "ann" then
      [⟨7, "ann", "Ann", "Lee", "ann@staff", []⟩, ⟨7, "anna", "Ann", "Lee", "ann@home", []⟩,
        ⟨8, "ann", "Ann", "Ray", "ray@home", []⟩]
    else [⟨9, v, "", "", "", []⟩])⟩

theorem merge_directories_network :
    let g : Group := ⟨"user_login", ["ann"], ["bob"]⟩
    let condition := Condition.all
      [.any [.isIn "actor_id" [.integer 7, .integer 8], .isIn "actor_login" [.text "ann", .text "anna"]],
        .any [.isNull "actor_id", .notIn "actor_id" [.integer 9]],
        .any [.isNull "actor_login", .notIn "actor_login" [.text "bob"]]]
    let alone : Compiler := { new busy.catalog busy.index staff with federates := false }
    (g.identityCondition [staff, network] .login Catalog.actorProjections).outcome = .ok condition ∧
    (g.identityCondition [.joined "both" [staff, network]] .login Catalog.actorProjections).outcome = .ok condition ∧
    (∃ condition', (g.identityCondition [network, staff] .login Catalog.actorProjections).outcome = .ok condition' ∧
      ∀ e, condition.accepts e ↔ condition'.accepts e) ∧
    (∃ f, (g.identityCondition [staff, offline.directory] .login Catalog.actorProjections).outcome = .error f) ∧
    (new busy.catalog busy.index staff).withSettings { Settings.new with federated := some false } = .ok alone ∧
    ((alone.withFederated network).compile "email:ann").calls = [.directory "staff" .email ["ann"]] := by
  intro g condition alone
  have hcondition : (g.identityCondition [staff, network] .login Catalog.actorProjections).outcome = .ok condition := by
    rfl
  have hanswered : g.IsAnswered .login [staff, network] := (Group.isAnswered_iff _).mpr ⟨condition, hcondition⟩
  obtain ⟨hmerged, -, hfederated, hsettings⟩ := merge_directories g .login Catalog.actorProjections [staff, network]
  obtain ⟨other, hother, hjoined, hperm⟩ := hmerged hanswered
  obtain rfl : condition = other := Except.ok.inj (hcondition.symm.trans hother)
  obtain ⟨-, hfails, -⟩ := merge_directories g .login Catalog.actorProjections [staff, offline.directory]
  have hset : (new busy.catalog busy.index staff).withSettings { Settings.new with federated := some false } =
      .ok alone := by
    rfl
  refine ⟨hcondition, hjoined "both", hperm (by decide) _ (.inl (.swap _ _ _)),
    hfails offline.directory (by simp) ["ann"] (by decide) _ rfl, hset, ?_⟩
  have hunasked := hfederated alone (hsettings _ _ _ hset rfl) (some network) "email:ann"
  exact (congrArg Traced.calls hunasked).trans rfl

end Compiler

end AuditSearch
