import AuditSearch.Proofs.Condition.Construction
import AuditSearch.Proofs.Search.Traced
import AuditSearch.Search.Compiler

/-!
What is put together from the answers of lookups: sets of ids, and identities without repeats.
-/
namespace AuditSearch

/-- What a lookup found, nothing if it failed. -/
def answered {α : Type} (x : Except Failure (List α)) : List α :=
  x.toOption.getD []

theorem answered_ok {α : Type} {x : Except Failure (List α)} {as : List α} (h : x = .ok as) : answered x = as := by
  rw [h]
  rfl

/-! ### Sets of ids -/

namespace IdSet

theorem mem_insertAscending (a x : Int64) (bs : List Int64) : x ∈ insertAscending a bs ↔ x = a ∨ x ∈ bs := by
  induction bs with
  | nil => simp [insertAscending]
  | cons b bs ih =>
    rw [insertAscending]
    split
    · simp
    · split
      · rw [List.mem_cons, ih, List.mem_cons, or_left_comm]
      · rename_i hab hba
        have : a = b := Int64.le_antisymm (Int64.not_lt.mp hba) (Int64.not_lt.mp hab)
        simp [this]

theorem mem_insertAll (ids : List Int64) (s : IdSet) (x : Int64) : x ∈ s.insertAll ids ↔ x ∈ ids ∨ x ∈ s := by
  induction ids with
  | nil => simp [insertAll]
  | cons id ids ih => exact (mem_insertAscending id x _).trans (by rw [List.mem_cons, or_assoc, ← ih]; rfl)

theorem not_mem_empty (x : Int64) : x ∉ empty :=
  List.not_mem_nil

theorem mem_ofList (ids : List Int64) (x : Int64) : x ∈ ofList ids ↔ x ∈ ids := by
  rw [ofList, mem_insertAll]
  simp [not_mem_empty]

theorem insertAscending_first {a : Int64} {bs : List Int64} (h : ∀ b ∈ bs, a < b) : insertAscending a bs = a :: bs := by
  cases bs with
  | nil => rfl
  | cons b bs => rw [insertAscending, if_pos (h b (by simp))]

theorem empty_union (s : IdSet) : empty.union s = s := by
  obtain ⟨ids, hids⟩ := s
  have hinsert : (empty.insertAll ids).toList = ids := by
    induction ids with
    | nil => rfl
    | cons id ids ih =>
      obtain ⟨hid, hids⟩ := List.pairwise_cons.mp hids
      change insertAscending id (empty.insertAll ids).toList = _
      rw [ih hids, insertAscending_first hid]
  rw [← mk.injEq] at hinsert
  exact hinsert

theorem mem_union (s t : IdSet) (x : Int64) : x ∈ s.union t ↔ x ∈ s ∨ x ∈ t :=
  (mem_insertAll t.toList s x).trans or_comm

theorem eq_of_mem_iff {s t : IdSet} (h : ∀ x, x ∈ s ↔ x ∈ t) : s = t := by
  have : Std.Irrefl (fun a b : Int64 => a < b) := ⟨fun _ => Int64.lt_irrefl⟩
  have : Std.Antisymm (fun a b : Int64 => a < b) := ⟨fun _ _ hab hba => absurd hba (Int64.lt_asymm hab)⟩
  have hlist : s.toList = t.toList := s.ascending.eq_of_mem_iff t.ascending h
  cases s
  cases t
  congr

end IdSet

namespace IdSets

/-- An id is in what may be there, if anything was searched for. -/
def Includes (s : IdSets) (id : Int64) : Prop :=
  ∃ ids, s.included = some ids ∧ id ∈ ids

theorem isSome_merge (s t : IdSets) : (s.merge t).included.isSome ↔ s.included.isSome ∨ t.included.isSome := by
  obtain ⟨_ | a, _⟩ := s <;> obtain ⟨_ | b, _⟩ := t <;> simp [merge, unionIncluded]

theorem includes_merge (s t : IdSets) (id : Int64) : (s.merge t).Includes id ↔ s.Includes id ∨ t.Includes id := by
  obtain ⟨_ | a, _⟩ := s <;> obtain ⟨_ | b, _⟩ := t <;> simp [Includes, merge, unionIncluded, IdSet.mem_union]

theorem excludes_merge (s t : IdSets) (id : Int64) : id ∈ (s.merge t).excluded ↔ id ∈ s.excluded ∨ id ∈ t.excluded :=
  IdSet.mem_union _ _ _

/-- Sets are told by what they include and exclude, and by whether anything was searched for. -/
theorem eq_of_iff {s t : IdSets} (hsome : s.included.isSome ↔ t.included.isSome)
    (hincludes : ∀ id, s.Includes id ↔ t.Includes id) (hexcludes : ∀ id, id ∈ s.excluded ↔ id ∈ t.excluded) : s = t := by
  obtain ⟨a, excluded⟩ := s
  obtain ⟨b, excluded'⟩ := t
  obtain rfl : excluded = excluded' := IdSet.eq_of_mem_iff hexcludes
  cases a with
  | none => cases b with
    | none => rfl
    | some b => simp at hsome
  | some a => cases b with
    | none => simp at hsome
    | some b =>
      obtain rfl : a = b := IdSet.eq_of_mem_iff fun id => by simpa [Includes] using hincludes id
      rfl

/-- A property that merged sets have if one of both has it, and no sets have from the start. -/
structure Accrues (p : IdSets → Prop) : Prop where
  merge (s t : IdSets) : p (s.merge t) ↔ p s ∨ p t
  empty : ¬p empty

theorem accrues_isSome : Accrues fun s => s.included.isSome :=
  ⟨isSome_merge, by simp [empty]⟩

theorem accrues_includes (id : Int64) : Accrues fun s => s.Includes id :=
  ⟨fun s t => includes_merge s t id, by simp [Includes, empty]⟩

theorem accrues_excludes (id : Int64) : Accrues fun s => id ∈ s.excluded :=
  ⟨fun s t => excludes_merge s t id, IdSet.not_mem_empty id⟩

theorem Accrues.foldl_merge {p : IdSets → Prop} (hp : Accrues p) (sets : List IdSets) :
    p (sets.foldl IdSets.merge IdSets.empty) ↔ ∃ s ∈ sets, p s := by
  have hfold : ∀ s, p (sets.foldl IdSets.merge s) ↔ p s ∨ ∃ t ∈ sets, p t := by
    induction sets with
    | nil => simp
    | cons t sets ih =>
      intro s
      rw [List.foldl_cons, ih, hp.merge]
      simp [or_assoc]
  rw [hfold, or_iff_right hp.empty]

/-- What merged sets include and exclude is what one of them does. -/
theorem merged_iff (sets : List IdSets) :
    ((sets.foldl merge empty).included.isSome ↔ ∃ s ∈ sets, s.included.isSome) ∧
    (∀ id, (sets.foldl merge empty).Includes id ↔ ∃ s ∈ sets, s.Includes id) ∧
    ∀ id, id ∈ (sets.foldl merge empty).excluded ↔ ∃ s ∈ sets, id ∈ s.excluded :=
  ⟨accrues_isSome.foldl_merge sets, fun id => (accrues_includes id).foldl_merge sets,
    fun id => (accrues_excludes id).foldl_merge sets⟩

/-- An event is one that may be there, if anything was searched for, and none that is ruled out. -/
theorem acceptsAs_toCondition (read : Char → Char) (s : IdSets) (e : Event) :
    s.toCondition.acceptsAs read e ↔ (s.included.isSome → s.Includes e.id) ∧ e.id ∉ s.excluded := by
  have hid : e.column? Column.id.name = some (.integer e.id) := rfl
  have hliterals (ids : IdSet) (v : Literal) : v ∈ literals ids ↔ ∃ id ∈ ids, .integer id = v := List.mem_map
  have hexcluded : (Condition.mkNotIn Column.id.name (literals s.excluded)).acceptsAs read e ↔ e.id ∉ s.excluded := by
    rw [Condition.acceptsAs_mkNotIn hid]
    constructor
    · intro h hmem
      exact h _ ((hliterals _ _).mpr ⟨e.id, hmem, rfl⟩) (by simp [Literal.looselyEquals])
    · intro h v hv hequal
      obtain ⟨id, hmem, rfl⟩ := (hliterals _ _).mp hv
      obtain rfl : id = e.id := by simpa [Literal.looselyEquals] using hequal
      exact h hmem
  rw [toCondition, Condition.acceptsAs_mkAll, List.forall_mem_cons, List.forall_mem_singleton, hexcluded]
  refine and_congr ?_ Iff.rfl
  cases hs : s.included with
  | none => simp [Condition.acceptsAs_always]
  | some ids => simp [Condition.acceptsAs_mkIn, hid, hliterals, Includes, hs, Literal.looselyEquals]

end IdSets

/-! ### Identities -/

section
variable {α : Type} {same : α → α → Bool}

theorem eraseDupsBy_subset (as : List α) : as.eraseDupsBy same ⊆ as := by
  induction hn : as.length using Nat.strong_induction_on generalizing as with
  | _ n ih =>
    cases as with
    | nil => simp
    | cons a as =>
      rw [List.eraseDupsBy_cons]
      have hlength : (as.filter fun b => same b a = false).length < n := by
        have := List.length_filter_le (fun b => decide (same b a = false)) as
        simp only [List.length_cons] at hn
        omega
      exact List.cons_subset_cons a (List.Subset.trans (ih _ hlength _ rfl) List.filter_sublist.subset)

/-- Of what is left out something that is the same stays. -/
theorem exists_mem_eraseDupsBy (hsame : ∀ a, same a a) {as : List α} {a : α} (ha : a ∈ as) :
    ∃ b ∈ as.eraseDupsBy same, same a b := by
  induction hn : as.length using Nat.strong_induction_on generalizing as with
  | _ n ih =>
    cases as with
    | nil => cases ha
    | cons c as =>
      rw [List.eraseDupsBy_cons]
      by_cases hac : same a c
      · exact ⟨c, by simp, hac⟩
      · have hmem : a ∈ as := by
          obtain rfl | ha := List.mem_cons.mp ha
          · exact absurd (hsame a) hac
          · exact ha
        have hlength : (as.filter fun b => same b c = false).length < n := by
          have := List.length_filter_le (fun b => decide (same b c = false)) as
          simp only [List.length_cons] at hn
          omega
        obtain ⟨b, hb, hab⟩ := ih _ hlength (List.mem_filter.mpr ⟨hmem, by simpa using hac⟩) rfl
        exact ⟨b, List.mem_cons_of_mem c hb, hab⟩

end

namespace Identity

/-- Whether two identities are of one person. -/
def isSame (i k : Identity) : Bool :=
  k.id == i.id && k.login == i.login

theorem foldl_addNew (is : List Identity) :
    ∀ known, is.foldl addNew known = List.eraseDupsBy.loop isSame is known.reverse := by
  induction is with
  | nil => simp [List.eraseDupsBy.loop]
  | cons i is ih =>
    intro known
    rw [List.foldl_cons, ih, List.eraseDupsBy.loop, List.any_reverse, addNew]
    change List.eraseDupsBy.loop isSame is (if known.any (isSame i) then known else known ++ [i]).reverse = _
    cases known.any (isSame i) <;> simp

theorem mergeAll_eq (answers : List (List Identity)) : mergeAll answers = answers.flatten.eraseDupsBy isSame :=
  foldl_addNew _ []

/-- Leaving out repeats hides nobody who is told by id and login. -/
theorem exists_mem_eraseDupsBy_iff {p : Identity → Prop}
    (hsame : ∀ i k : Identity, i.id = k.id → i.login = k.login → p i → p k) (is : List Identity) :
    (∃ i ∈ is.eraseDupsBy isSame, p i) ↔ ∃ i ∈ is, p i := by
  constructor
  · rintro ⟨i, hi, hp⟩
    exact ⟨i, eraseDupsBy_subset _ hi, hp⟩
  · rintro ⟨i, hi, hp⟩
    have hrefl (i : Identity) : isSame i i := by simp [isSame]
    obtain ⟨k, hk, hik⟩ := exists_mem_eraseDupsBy hrefl hi
    simp only [isSame, Bool.and_eq_true, beq_iff_eq] at hik
    exact ⟨k, hk, hsame i k hik.1.symm hik.2.symm hp⟩

end Identity

theorem Projection.mem_values (p : Projection) (is : List Identity) (v : Literal) :
    v ∈ p.values is ↔ ∃ i ∈ is, i.value p.attr = v := by
  have hfold : ∀ known : List Literal, v ∈ is.foldl (fun known i =>
      if i.value p.attr ∈ known then known else known ++ [i.value p.attr]) known ↔
        v ∈ known ∨ ∃ i ∈ is, i.value p.attr = v := by
    induction is with
    | nil => simp
    | cons i is ih =>
      intro known
      rw [List.foldl_cons, ih]
      split
      · rename_i hknown
        constructor
        · rintro (h | ⟨k, hk, rfl⟩)
          · exact .inl h
          · exact .inr ⟨k, by simp [hk], rfl⟩
        · rintro (h | ⟨k, hk, rfl⟩)
          · exact .inl h
          · obtain rfl | hk := List.mem_cons.mp hk
            · exact .inl hknown
            · exact .inr ⟨k, hk, rfl⟩
      · simp [or_assoc, eq_comm]
  rw [values, hfold]
  simp

namespace Directory

def found (directories : List Directory) (attr : Attribute) (values : List String) : List Identity :=
  directories.flatMap fun d => answered (d.find attr values)

/-- What directories find, without later repeats of one person. -/
def merged (directories : List Directory) (attr : Attribute) (values : List String) : List Identity :=
  (found directories attr values).eraseDupsBy Identity.isSame

section
variable {directories : List Directory} {attr : Attribute} {values : List String}

theorem outcome_ask {d : Directory} {is : List Identity} :
    (d.ask attr values).outcome = .ok is ↔ d.find attr values = .ok is := by
  rw [ask, Traced.ask]
  cases d.find attr values <;> simp

theorem exists_askAll (h : ∀ d ∈ directories, ∃ is, d.find attr values = .ok is) :
    ∃ is, (askAll directories attr values).outcome = .ok is := by
  have hask : ∀ d ∈ directories, ∃ is, (d.ask attr values).outcome = .ok is := fun d hd =>
    (h d hd).imp fun is his => outcome_ask.mpr his
  obtain ⟨answers, hanswers⟩ := exists_forall₂ hask
  exact ⟨_, Traced.outcome_bind.mpr ⟨answers, Traced.outcome_mapM.mpr hanswers, Traced.outcome_pure.mpr rfl⟩⟩

theorem eq_of_askAll {is : List Identity} (h : (askAll directories attr values).outcome = .ok is) :
    is = merged directories attr values := by
  rw [askAll, Traced.outcome_bind] at h
  obtain ⟨answers, hanswers, his⟩ := h
  rw [Traced.outcome_mapM] at hanswers
  have hfound : answers = directories.map fun d => answered (d.find attr values) := by
    clear his
    induction hanswers with
    | nil => rfl
    | cons hask _ ih => rw [List.map_cons, ← ih, answered_ok (outcome_ask.mp hask)]
  rw [← Traced.outcome_pure.mp his, Identity.mergeAll_eq, hfound, merged, found, List.flatMap_def]

end

end Directory

end AuditSearch
