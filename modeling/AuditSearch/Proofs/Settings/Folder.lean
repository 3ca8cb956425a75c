import AuditSearch.Settings.Folder

/-!
Folders in which a file is written. Every path that led to its place leads to the file, and every path that leads to
another place leads to what it led to before.
-/
namespace AuditSearch

namespace Place

/-- A place from which names lead down to another one, or that place itself. -/
def IsAtOrAbove (p q : Place) : Prop :=
  p.origin = q.origin ∧ p.names <+: q.names

variable {p q : Place}

theorem isAtOrAbove_child {name : String} (h : p.IsAtOrAbove (q.child name)) : p.IsAtOrAbove q ∨ p = q.child name := by
  obtain ⟨horigin, hnames⟩ := h
  rcases List.prefix_concat_iff.mp hnames with hnames | hnames
  · exact .inr (Place.mk.injEq .. ▸ ⟨horigin, hnames⟩)
  · exact .inl ⟨horigin, hnames⟩

theorem isAtOrAbove_parent (hp : p.names ≠ []) (h : p.IsAtOrAbove q.parent) : p.IsAtOrAbove q := by
  obtain ⟨horigin, hnames⟩ := h
  unfold parent at horigin hnames
  split at hnames
  · next hempty =>
    rw [List.isEmpty_iff.mp hempty] at hnames
    exact absurd (List.prefix_nil.mp hnames) hp
  · next hne =>
    rw [if_neg hne] at horigin
    exact ⟨horigin, hnames.trans (List.dropLast_prefix _)⟩

end Place

def Spot.place? : Spot → Option Place
  | taken p _ => some p
  | free p _ => some p
  | nowhere => none

/-- Where a file can be written at a spot: in place of another one, or where nothing stands and a file may. -/
def Spot.filePlace? : Spot → Option Place
  | taken p (.file _) => some p
  | free p false => some p
  | _ => none

/-- What a spot is once a file is written at a place. -/
def Spot.written (p : Place) (content : Option String) : Spot → Spot
  | taken q entry => if q = p then .taken p (.file content) else .taken q entry
  | free q folderOnly => if q = p then (if folderOnly then .nowhere else .taken p (.file content)) else .free q folderOnly
  | nowhere => nowhere

namespace Spot
variable {s : Spot} {p : Place} {content : Option String}

theorem written_filePlace (h : s.filePlace? = some p) : s.written p content = .taken p (.file content) := by
  unfold filePlace? at h
  split at h
  · exact Option.some.inj h ▸ if_pos rfl
  · exact Option.some.inj h ▸ if_pos rfl
  · cases h

theorem written_other (h : s.place? ≠ some p) : s.written p content = s := by
  cases s with
  | taken q entry | free q folderOnly =>
    have hne : q ≠ p := fun heq => h (congrArg some heq)
    exact if_neg hne
  | nowhere => rfl

theorem place_of_filePlace (h : s.filePlace? = some p) : s.place? = some p := by
  unfold filePlace? at h
  split at h
  · exact h
  · exact h
  · cases h

end Spot

namespace Folder

/-! ### What stands at a place -/

section
variable {p q : Place}

theorem entry_eq_lookup (f : Folder) (hp : p.names ≠ []) : f.entry? p = f.entries.lookup p := by
  have hhere : p ≠ .here := by
    rintro rfl
    exact hp rfl
  rw [ entry?, if_neg hhere, if_neg (by simpa using hp)]

theorem entry_put_same (f : Folder) (hp : p.names ≠ []) (entry : Entry) : Folder.entry? (f.put p entry) p = some entry := by
  rw [entry_eq_lookup _ hp, put, List.lookup_cons_self]

theorem lookup_filter_ne (entries : List (Place × Entry)) (h : q ≠ p) :
    (entries.filter fun e => e.1 != p).lookup q = entries.lookup q := by
  induction entries with
  | nil => rfl
  | cons e entries ih =>
    obtain ⟨r, entry⟩ := e
    by_cases hr : r = p
    · have hq : (q == r) = false := by simpa [hr] using h
      rw [List.filter_cons_of_neg (by simp [hr]), ih, List.lookup_cons, hq]
    · rw [List.filter_cons_of_pos (by simp [hr]), List.lookup_cons, List.lookup_cons, ih]

theorem entry_put_other (f : Folder) (h : q ≠ p) (entry : Entry) : Folder.entry? (f.put p entry) q = f.entry? q := by
  by_cases hq : q.names = []
  · have hempty : q.names.isEmpty = true := List.isEmpty_iff.mpr hq
    rw [ entry?, entry?, hempty]
    rfl
  · rw [entry_eq_lookup _ hq, entry_eq_lookup _ hq, put, List.lookup_cons, beq_eq_false_iff_ne.mpr h,
      lookup_filter_ne f.entries h]

theorem entry_made (f : Folder) (hp : p.names ≠ []) : f.made.entry? p = f.entry? p := by
  rw [entry_eq_lookup _ hp, entry_eq_lookup _ hp, made]

end

/-! ### What paths lead to -/

/-- What a spot says about its place: what stands there, or that nothing does. -/
def Tells (f : Folder) : Spot → Prop
  | .taken p (.file content) => p.names ≠ [] ∧ f.entry? p = some (.file content)
  | .taken _ .folder => True
  | .free p _ => p.names ≠ [] ∧ f.entry? p = none
  | .nowhere => True

theorem tells_follow (f : Folder) (parts : List String) : ∀ p, f.Tells (f.follow p parts) := by
  induction parts with
  | nil => exact fun _ => trivial
  | cons part parts ih =>
    intro p
    have hchild : (p.child part).names ≠ [] := by simp [Place.child]
    rw [follow]
    split
    · exact ih p
    split
    · exact ih p.parent
    split
    · trivial
    split
    · exact ih (p.child part)
    · next entry hfolder hentry =>
      split
      · cases entry with
        | file content => exact ⟨hchild, hentry⟩
        | folder => trivial
      · trivial
    · next hentry =>
      split
      · exact ⟨hchild, hentry⟩
      · trivial

theorem tells_find (f : Folder) (path : String) : f.Tells (f.find path) := by
  rw [find]
  split
  · trivial
  · exact f.tells_follow _ _

/-- A file can be written only where there is a name, and no folder. -/
theorem Tells.filePlace {f : Folder} {s : Spot} (h : f.Tells s) {p : Place} (hp : s.filePlace? = some p) :
    p.names ≠ [] ∧ f.entry? p ≠ some .folder := by
  unfold Spot.filePlace? at hp
  split at hp
  · obtain rfl := Option.some.inj hp
    exact ⟨h.1, by simp [h.2]⟩
  · obtain rfl := Option.some.inj hp
    exact ⟨h.1, by simp [h.2]⟩
  · cases hp

/-- A path leads to the written file where it led to its place, and to what it led to where it did not. No path leads
through the place, which is no folder before or after. -/
theorem follow_put (f : Folder) {p : Place} (hp : p.names ≠ []) (hentry : f.entry? p ≠ some .folder)
    (content : Option String) (parts : List String) : ∀ q, ¬p.IsAtOrAbove q →
    (f.put p (.file content)).follow q parts = (f.follow q parts).written p content := by
  induction parts with
  | nil =>
    intro q hq
    have hne : q ≠ p := by
      rintro rfl
      exact hq ⟨rfl, List.prefix_refl _⟩
    exact (if_neg hne).symm
  | cons part parts ih =>
    intro q hq
    rw [follow, follow]
    split
    · exact ih q hq
    split
    · exact ih q.parent (mt (Place.isAtOrAbove_parent hp) hq)
    split
    · rfl
    by_cases hchild : q.child part = p
    -- Nothing or a file was at the place, so the path ended there or led nowhere.
    · rw [hchild, entry_put_same f hp]
      cases hstored : f.entry? p with
      | none =>
        cases parts with
        | nil => exact (if_pos rfl).symm
        | cons next parts =>
          simp only [List.isEmpty_cons, Bool.false_eq_true, if_false, Bool.not_false]
          split
          · exact (if_pos rfl).symm
          · rfl
      | some entry =>
        cases entry with
        | folder => exact absurd hstored hentry
        | file old =>
          simp only
          split
          · exact (if_pos rfl).symm
          · rfl
    · rw [entry_put_other f hchild]
      split
      · next hfolder =>
        refine ih (q.child part) fun habove => ?_
        rcases Place.isAtOrAbove_child habove with habove | heq
        · exact hq habove
        · exact hchild heq.symm
      · split
        · exact (if_neg hchild).symm
        · rfl
      · split
        · exact (if_neg hchild).symm
        · rfl

theorem names_start (path : String) : (Path.start path).names = [] := by
  unfold Path.start
  split <;> rfl

theorem find_put (f : Folder) {p : Place} (hp : p.names ≠ []) (hentry : f.entry? p ≠ some .folder)
    (content : Option String) (path : String) :
    (f.put p (.file content)).find path = (f.find path).written p content := by
  have hstart : Path.start path ≠ p := by
    rintro rfl
    exact hp (names_start path)
  have habove : ¬p.IsAtOrAbove (Path.start path) := by
    rintro ⟨-, hnames⟩
    rw [names_start] at hnames
    exact hp (List.prefix_nil.mp hnames)
  rw [find, find, entry_put_other f hstart, follow_put f hp hentry content _ _ habove]
  split <;> rfl

theorem follow_made (f : Folder) (parts : List String) : ∀ p, f.made.follow p parts = f.follow p parts := by
  induction parts with
  | nil => exact fun _ => rfl
  | cons part parts ih =>
    intro p
    have hchild : (p.child part).names ≠ [] := by simp [Place.child]
    rw [follow, follow, entry_made f hchild, ih, ih, ih]

theorem find_made {f : Folder} {path : String} (h : f.find path ≠ .nowhere) : f.made.find path = f.find path := by
  have hstart : f.made.entry? (Path.start path) = some .folder := by
    unfold Path.start
    split <;> rfl
  unfold find at h ⊢
  split at h
  · exact absurd rfl h
  · next hleads =>
    simp only [Bool.or_eq_true, not_or, Bool.not_eq_true] at hleads
    rw [hleads.1, hleads.2, hstart]
    exact follow_made f _ _

end Folder

end AuditSearch
