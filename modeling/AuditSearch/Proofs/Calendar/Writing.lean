import AuditSearch.Proofs.Calendar

/-!
The text of a date: four digits, two and two, with dashes between them. Every date of a year of four digits has one
text.
-/
namespace AuditSearch.Calendar

/-- So many digits that stand for a number. -/
structure IsNumeral (width : Nat) (ds : List Char) (n : Nat) : Prop where
  length : ds.length = width
  digits : ∀ c ∈ ds, Text.isDigit c
  value : Nat.ofDigitChars 10 ds 0 = n

/-- A text that writes a date by its year, month and day. -/
def IsWritten (s : String) (d : Date) : Prop :=
  ∃ (n : Nat) (year month day : List Char), d.year = n ∧
    IsNumeral 4 year n ∧ IsNumeral 2 month d.month ∧ IsNumeral 2 day d.day ∧
    s.toList = year ++ '-' :: month ++ '-' :: day

theorem ofDigitChars_cons (c : Char) (cs : List Char) :
    Nat.ofDigitChars 10 (c :: cs) 0 = 10 ^ cs.length * (c.toNat - 48) + Nat.ofDigitChars 10 cs 0 := by
  have hzero : '0'.toNat = 48 := rfl
  rw [Nat.ofDigitChars_cons, Nat.ofDigitChars_eq_ofDigitChars_zero, hzero]
  simp

theorem ofDigitChars_inj {ds es : List Char} (hlength : ds.length = es.length) (hds : ∀ c ∈ ds, Text.isDigit c)
    (hes : ∀ c ∈ es, Text.isDigit c) (h : Nat.ofDigitChars 10 ds 0 = Nat.ofDigitChars 10 es 0) : ds = es := by
  induction ds generalizing es with
  | nil => exact (List.length_eq_zero_iff.mp hlength.symm).symm
  | cons c ds ih =>
    obtain ⟨e, es, rfl⟩ := List.exists_cons_of_length_eq_add_one hlength.symm
    have hlength : ds.length = es.length := by simpa using hlength
    have hds' : ∀ c ∈ ds, Text.isDigit c := fun d hd => hds d (by simp [hd])
    have hes' : ∀ c ∈ es, Text.isDigit c := fun d hd => hes d (by simp [hd])
    have hc := Text.toNat_of_isDigit (hds c (by simp))
    have he := Text.toNat_of_isDigit (hes e (by simp))
    have hrest := ofDigitChars_lt hds'
    have hrest' := ofDigitChars_lt hes'
    rw [ofDigitChars_cons, ofDigitChars_cons, hlength] at h
    rw [hlength] at hrest
    -- The first digits are the quotients by a power of ten, the others stand for the remainders.
    have hdigit := congrArg (· / 10 ^ es.length) h
    have hvalue := congrArg (· % 10 ^ es.length) h
    simp only [Nat.mul_add_div (Nat.pow_pos (by decide : 0 < 10)), Nat.div_eq_of_lt hrest, Nat.div_eq_of_lt hrest',
      Nat.mul_add_mod, Nat.mod_eq_of_lt hrest, Nat.mod_eq_of_lt hrest'] at hdigit hvalue
    have hchar : c = e := Char.toNat_inj.mp (by omega)
    rw [hchar, ih hlength hds' hes' hvalue]

theorem IsNumeral.eq {width n : Nat} {ds es : List Char} (hd : IsNumeral width ds n) (he : IsNumeral width es n) :
    ds = es :=
  ofDigitChars_inj (hd.length.trans he.length.symm) hd.digits he.digits (hd.value.trans he.value.symm)

theorem isDigit_digitChar {n : Nat} (h : n < 10) : Text.isDigit n.digitChar ∧ n.digitChar.toNat - 48 = n := by
  decide +revert

theorem exists_isNumeral {width n : Nat} (h : n < 10 ^ width) : ∃ ds, IsNumeral width ds n := by
  induction width generalizing n with
  | zero =>
    obtain rfl : n = 0 := by simpa using h
    exact ⟨[], rfl, by simp, rfl⟩
  | succ width ih =>
    have hpos : 0 < 10 ^ width := Nat.pow_pos (by decide)
    obtain ⟨ds, hlength, hdigits, hvalue⟩ := ih (Nat.mod_lt n hpos)
    have hfirst := isDigit_digitChar (Nat.div_lt_of_lt_mul (by rwa [Nat.pow_succ] at h) : n / 10 ^ width < 10)
    refine ⟨(n / 10 ^ width).digitChar :: ds, by simp [hlength], ?_, ?_⟩
    · simpa [hfirst.1] using hdigits
    · rw [ofDigitChars_cons, hlength, hfirst.2, hvalue, Nat.div_add_mod]

theorem IsNumeral.nat {width n : Nat} {ds : List Char} (h : IsNumeral (width + 1) ds n) : Text.nat? ds = some n := by
  obtain ⟨d, ds, rfl⟩ := List.exists_cons_of_length_eq_add_one h.length
  rw [Text.nat?, if_pos (by simpa using h.digits), h.value]

theorem isNumeral_of_nat {ds : List Char} {n : Nat} (h : Text.nat? ds = some n) : IsNumeral ds.length ds n := by
  rw [Text.nat?] at h
  split at h
  · rename_i hdigits
    simp only [Bool.and_eq_true, List.all_eq_true] at hdigits
    exact ⟨rfl, hdigits.2, Option.some.inj h⟩
  · cases h

/-- A text is read as a date if it writes that date, and the calendar has the date. -/
theorem parseDate_eq_some_iff {s : String} {d : Date} : parseDate? s = some d ↔ IsWritten s d ∧ isValid d := by
  constructor
  · intro h
    rw [parseDate?] at h
    split at h
    · rename_i htext
      simp only [Option.bind_eq_bind, Option.bind_eq_some_iff] at h
      obtain ⟨year, hyear, month, hmonth, day, hday, h⟩ := h
      split at h
      · rename_i hvalid
        obtain rfl := Option.some.inj h
        refine ⟨⟨year, _, _, _, rfl, isNumeral_of_nat hyear, isNumeral_of_nat hmonth, isNumeral_of_nat hday, ?_⟩, hvalid⟩
        rw [htext]
        rfl
      · cases h
    · cases h
  · rintro ⟨⟨n, year, month, day, hn, hyear, hmonth, hday, htext⟩, hvalid⟩
    obtain ⟨a, tail, rfl⟩ := List.exists_cons_of_length_eq_add_one hyear.length
    obtain ⟨b, c, e, rfl⟩ := List.length_eq_three.mp (Nat.succ.inj hyear.length)
    obtain ⟨f, g, rfl⟩ := List.length_eq_two.mp hmonth.length
    obtain ⟨i, j, rfl⟩ := List.length_eq_two.mp hday.length
    simp only [List.cons_append, List.nil_append] at htext
    have hdate : (⟨(n : Int), d.month, d.day⟩ : Date) = d := by rw [← hn]
    rw [parseDate?, htext]
    simp [hyear.nat, hmonth.nat, hday.nat, hdate, hvalid]

theorem exists_isWritten {d : Date} (hvalid : isValid d) (hyear : 0 ≤ d.year) (hyear' : d.year < 10000) :
    ∃ s, IsWritten s d := by
  have hwidths : d.year.toNat < 10 ^ 4 ∧ d.month < 10 ^ 2 ∧ d.day < 10 ^ 2 := by
    have := daysInMonth_le d.year d.month
    simp only [isValid, Bool.and_eq_true, decide_eq_true_iff] at hvalid
    omega
  obtain ⟨year, hy⟩ := exists_isNumeral hwidths.1
  obtain ⟨month, hm⟩ := exists_isNumeral hwidths.2.1
  obtain ⟨day, hd⟩ := exists_isNumeral hwidths.2.2
  exact ⟨String.ofList (year ++ '-' :: month ++ '-' :: day), d.year.toNat, year, month, day, by omega, hy, hm, hd,
    by simp⟩

theorem IsWritten.eq {s t : String} {d : Date} (hs : IsWritten s d) (ht : IsWritten t d) : s = t := by
  obtain ⟨n, year, month, day, hn, hyear, hmonth, hday, hs⟩ := hs
  obtain ⟨n', year', month', day', hn', hyear', hmonth', hday', ht⟩ := ht
  obtain rfl : n = n' := by omega
  rw [String.ext_iff, hs, ht, hyear.eq hyear', hmonth.eq hmonth', hday.eq hday']

end AuditSearch.Calendar
