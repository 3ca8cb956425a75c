import AuditSearch.Calendar
import AuditSearch.Proofs.Text.Numeral
import Mathlib

/-! Instants that days are bounded by, which are integers of 64 bits. -/
namespace AuditSearch.Calendar

theorem ofDigitChars_lt {cs : List Char} (h : ∀ c ∈ cs, Text.isDigit c) :
    Nat.ofDigitChars 10 cs 0 < 10 ^ cs.length := by
  induction cs with
  | nil => simp
  | cons c cs ih =>
    have hc := Text.toNat_of_isDigit (h c (by simp))
    have hcs := ih fun d hd => h d (by simp [hd])
    have hzero : '0'.toNat = 48 := rfl
    rw [Nat.ofDigitChars_cons, Nat.ofDigitChars_eq_ofDigitChars_zero, List.length_cons, Nat.pow_succ, hzero]
    have : 10 ^ cs.length * (10 * 0 + (c.toNat - 48)) ≤ 10 ^ cs.length * 9 := Nat.mul_le_mul_left _ (by omega)
    omega

theorem nat_lt {cs : List Char} {n : Nat} (h : Text.nat? cs = some n) : n < 10 ^ cs.length := by
  rw [Text.nat?] at h
  split at h
  · rename_i hdigits
    simp only [Bool.and_eq_true, List.all_eq_true] at hdigits
    exact Option.some.inj h ▸ ofDigitChars_lt hdigits.2
  · cases h

theorem daysInMonth_le (year : Int) (month : Nat) : daysInMonth year month ≤ 31 := by
  unfold daysInMonth
  split
  · split <;> decide
  all_goals decide

theorem daysBeforeMonth_le (year : Int) (month : Nat) : daysBeforeMonth year month ≤ 31 * month := by
  induction month using daysBeforeMonth.induct with
  | case1 => simp [daysBeforeMonth]
  | case2 => simp [daysBeforeMonth]
  | case3 month ih =>
    have := daysInMonth_le year (month + 1)
    rw [daysBeforeMonth]
    omega

/-- A date that is read has a year of four digits. -/
theorem parseDate_bounds {s : String} {d : Date} (h : parseDate? s = some d) :
    0 ≤ d.year ∧ d.year < 10000 ∧ d.month ≤ 12 ∧ d.day ≤ 31 := by
  rw [parseDate?] at h
  split at h
  · simp only [Option.bind_eq_bind, Option.bind_eq_some_iff] at h
    obtain ⟨year, hyear, month, _, day, _, h⟩ := h
    split at h
    · rename_i hvalid
      obtain rfl := Option.some.inj h
      simp only [isValid, Bool.and_eq_true, decide_eq_true_iff] at hvalid
      have hday := daysInMonth_le year month
      have hyears := nat_lt hyear
      simp only [List.length_cons, List.length_nil] at hyears
      refine ⟨?_, ?_, hvalid.1.1.2, Nat.le_trans hvalid.2 hday⟩
      · simp
      · simp only
        omega
    · cases h
  · cases h

/-- The instant that a day is bounded by is an integer of 64 bits. -/
theorem toInt_boundInstant {s : String} {bound : DayBound} {offset instant : Int} (hoffset : offset.natAbs < 86400)
    (h : boundInstant? s bound offset = some instant) : (Int64.ofInt instant).toInt = instant := by
  obtain ⟨d, hd, rfl⟩ := Option.map_eq_some_iff.mp h
  obtain ⟨hyear, hyear', hmonth, hday⟩ := parseDate_bounds hd
  have hmonths := daysBeforeMonth_le d.year d.month
  have hbound : 0 ≤ boundSeconds bound ∧ boundSeconds bound < 86400 := by cases bound <;> decide
  apply Int64.toInt_ofInt_of_le
  · simp only [dayNumber, daysBeforeYear, epochDay, secondsPerDay]
    omega
  · simp only [dayNumber, daysBeforeYear, epochDay, secondsPerDay]
    omega

end AuditSearch.Calendar
