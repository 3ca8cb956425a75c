import AuditSearch.Proofs.Calendar

/-!
Days counted one at a time from 1970-01-01, forward and backward. The day number of a date is its count, and every
count is that of one date.
-/
namespace AuditSearch.Calendar

def next (d : Date) : Date :=
  if d.day < daysInMonth d.year d.month then { d with day := d.day + 1 }
  else if d.month < 12 then ⟨d.year, d.month + 1, 1⟩
  else ⟨d.year + 1, 1, 1⟩

def epoch : Date :=
  ⟨1970, 1, 1⟩

/-- A date is so many days after 1970-01-01, counted one day at a time. -/
inductive Counts : Date → Int → Prop where
  | epoch : Counts epoch 0
  | next {d : Date} {n : Int} (h : Counts d n) : Counts (next d) (n + 1)
  | previous {d : Date} {n : Int} (hvalid : isValid d) (h : Counts (Calendar.next d) (n + 1)) : Counts d n

theorem isValid_iff (d : Date) :
    isValid d ↔ 1 ≤ d.month ∧ d.month ≤ 12 ∧ 1 ≤ d.day ∧ d.day ≤ daysInMonth d.year d.month := by
  simp [isValid, and_assoc]

theorem daysInMonth_pos (year : Int) (month : Nat) : 1 ≤ daysInMonth year month := by
  unfold daysInMonth
  split
  · split <;> decide
  all_goals decide

theorem daysBeforeMonth_succ (year : Int) {month : Nat} (h : 1 ≤ month) :
    daysBeforeMonth year (month + 1) = daysBeforeMonth year month + daysInMonth year month := by
  obtain ⟨m, rfl⟩ : ∃ m, month = m + 1 := ⟨month - 1, by omega⟩
  rw [daysBeforeMonth]

def daysInYear (year : Int) : Nat :=
  daysBeforeMonth year 12 + daysInMonth year 12

theorem daysInYear_eq (year : Int) : daysInYear year = if isLeap year then 366 else 365 := by
  cases h : isLeap year <;> simp [daysInYear, daysBeforeMonth, daysInMonth, h]

theorem daysBeforeYear_succ (year : Int) : daysBeforeYear (year + 1) = daysBeforeYear year + daysInYear year := by
  rw [daysInYear_eq]
  by_cases hleap : isLeap year
  · rw [if_pos hleap]
    simp only [isLeap, Bool.and_eq_true, Bool.or_eq_true, decide_eq_true_iff] at hleap
    simp only [daysBeforeYear]
    omega
  · rw [if_neg hleap]
    simp only [isLeap, Bool.and_eq_true, Bool.or_eq_true, decide_eq_true_iff] at hleap
    simp only [daysBeforeYear]
    omega

/-! ### The next day -/

theorem isValid_next {d : Date} (h : isValid d) : isValid (next d) := by
  rw [isValid_iff] at h ⊢
  unfold next
  split
  · exact ⟨h.1, h.2.1, by simp, by simpa [Nat.succ_le_iff]⟩
  · split
    · exact ⟨by simp, by simpa [Nat.succ_le_iff], Nat.le_refl 1, daysInMonth_pos _ _⟩
    · exact ⟨Nat.le_refl 1, by simp, Nat.le_refl 1, daysInMonth_pos _ _⟩

theorem dayNumber_next {d : Date} (h : isValid d) : dayNumber (next d) = dayNumber d + 1 := by
  rw [isValid_iff] at h
  unfold next
  split
  · simp only [dayNumber]
    omega
  · split
    · have := daysBeforeMonth_succ d.year h.1
      simp only [dayNumber]
      omega
    · rename_i hday hmonth
      have hmonth : d.month = 12 := by omega
      have hyear := daysBeforeYear_succ d.year
      rw [daysInYear] at hyear
      have hjanuary : daysBeforeMonth (d.year + 1) 1 = 0 := rfl
      rw [hmonth] at hday h
      simp only [dayNumber, hmonth, hjanuary]
      omega

theorem exists_previous {d : Date} (h : isValid d) : ∃ e, isValid e ∧ next e = d := by
  obtain ⟨year, month, day⟩ := d
  simp only [isValid_iff] at h
  obtain ⟨hmonth, hmonth', hday, hday'⟩ := h
  by_cases hfirst : day = 1
  · by_cases hjanuary : month = 1
    · refine ⟨⟨year - 1, 12, 31⟩, by simp [isValid, daysInMonth], ?_⟩
      simp [next, daysInMonth, hfirst, hjanuary]
    · obtain ⟨m, rfl⟩ : ∃ m, month = m + 1 := ⟨month - 1, by omega⟩
      refine ⟨⟨year, m, daysInMonth year m⟩, ?_, ?_⟩
      · rw [isValid_iff]
        exact ⟨by simp only; omega, by simp only; omega, daysInMonth_pos year m, Nat.le_refl _⟩
      · have hm : m < 12 := by omega
        simp [next, hm, hfirst]
  · obtain ⟨n, rfl⟩ : ∃ n, day = n + 1 := ⟨day - 1, by omega⟩
    refine ⟨⟨year, month, n⟩, ?_, ?_⟩
    · rw [isValid_iff]
      exact ⟨hmonth, hmonth', by simp only; omega, by simp only; omega⟩
    · have hn : n < daysInMonth year month := by omega
      simp [next, hn]

/-! ### Day numbers -/

theorem daysBeforeMonth_le_of_lt (year : Int) {m n : Nat} (hm : 1 ≤ m) (h : m < n) :
    daysBeforeMonth year m + daysInMonth year m ≤ daysBeforeMonth year n := by
  induction n, h using Nat.le_induction with
  | base => exact (daysBeforeMonth_succ year hm).ge
  | succ n hn ih => exact ih.trans (by rw [daysBeforeMonth_succ year (by omega)]; exact Nat.le_add_right _ _)

theorem dayOfYear_lt {d : Date} (h : isValid d) : daysBeforeMonth d.year d.month + d.day ≤ daysInYear d.year := by
  rw [isValid_iff] at h
  obtain hmonth | hmonth := Nat.lt_or_eq_of_le h.2.1
  · have := daysBeforeMonth_le_of_lt d.year h.1 hmonth
    rw [daysInYear]
    omega
  · rw [daysInYear, hmonth]
    rw [hmonth] at h
    omega

theorem dayNumber_lt_of_year {d e : Date} (hd : isValid d) (he : isValid e) (h : d.year < e.year) :
    dayNumber d < dayNumber e := by
  have hyear := daysBeforeYear_succ d.year
  have hyears : daysBeforeYear (d.year + 1) ≤ daysBeforeYear e.year := by
    simp only [daysBeforeYear]
    omega
  have hday := dayOfYear_lt hd
  rw [isValid_iff] at he
  simp only [dayNumber]
  omega

theorem dayNumber_inj {d e : Date} (hd : isValid d) (he : isValid e) (h : dayNumber d = dayNumber e) : d = e := by
  have hyear : d.year = e.year := by
    by_contra hne
    obtain hlt | hlt := lt_or_gt_of_ne hne
    · exact absurd h (dayNumber_lt_of_year hd he hlt).ne
    · exact absurd h (dayNumber_lt_of_year he hd hlt).ne'
  rw [isValid_iff] at hd he
  have hsame : daysBeforeMonth d.year d.month + d.day = daysBeforeMonth d.year e.month + e.day := by
    simp only [dayNumber, ← hyear] at h
    omega
  have hmonth : d.month = e.month := by
    rw [← hyear] at he
    by_contra hne
    obtain hlt | hlt := lt_or_gt_of_ne hne
    · have := daysBeforeMonth_le_of_lt d.year hd.1 hlt
      omega
    · have := daysBeforeMonth_le_of_lt d.year he.1 hlt
      omega
  have hday : d.day = e.day := by
    rw [hmonth] at hsame
    omega
  obtain ⟨year, month, day⟩ := d
  obtain ⟨year', month', day'⟩ := e
  simp_all

theorem exists_dayNumber (n : Int) : ∃ d, isValid d ∧ dayNumber d = n := by
  induction n with
  | zero => exact ⟨epoch, by decide, by decide⟩
  | succ n ih =>
    obtain ⟨d, hd, hn⟩ := ih
    exact ⟨next d, isValid_next hd, by rw [dayNumber_next hd, hn]⟩
  | pred n ih =>
    obtain ⟨d, hd, hn⟩ := ih
    obtain ⟨e, he, rfl⟩ := exists_previous hd
    rw [dayNumber_next he] at hn
    exact ⟨e, he, by omega⟩

/-- A date is counted as many days after 1970-01-01 as its day number says. -/
theorem counts_iff (d : Date) (n : Int) : Counts d n ↔ isValid d ∧ dayNumber d = n := by
  constructor
  · intro h
    induction h with
    | epoch => exact ⟨by decide, by decide⟩
    | next _ ih => exact ⟨isValid_next ih.1, by rw [dayNumber_next ih.1, ih.2]⟩
    | previous hvalid _ ih =>
      have := dayNumber_next hvalid
      exact ⟨hvalid, by omega⟩
  · rintro ⟨hvalid, rfl⟩
    induction hn : dayNumber d generalizing d with
    | zero =>
      obtain rfl : d = epoch := dayNumber_inj hvalid (by decide) hn
      exact .epoch
    | succ n ih =>
      obtain ⟨e, he, rfl⟩ := exists_previous hvalid
      rw [dayNumber_next he] at hn
      exact .next (ih e he (by omega))
    | pred n ih =>
      have hnext := ih (next d) (isValid_next hvalid) (by rw [dayNumber_next hvalid, hn]; omega)
      exact .previous hvalid (by convert hnext using 1; omega)

end AuditSearch.Calendar
