import AuditSearch.Proofs.Calendar.Counting
import AuditSearch.Proofs.Calendar.Writing

/-!
Written days of local time, which lie one after the other without gaps.
-/
namespace AuditSearch.Calendar

/-- A text that writes the day which is so many days after 1970-01-01. -/
def IsDay (value : String) (n : Int) : Prop :=
  ∃ d, IsWritten value d ∧ Counts d n

/-- The instants of a written day, where local time is `offset` seconds ahead of UTC. -/
def Covers (value : String) (offset t : Int) : Prop :=
  ∃ first last, boundInstant? value .start offset = some first ∧ boundInstant? value .finish offset = some last ∧
    first ≤ t ∧ t ≤ last

theorem boundInstant_eq_some_iff {value : String} {bound : DayBound} {offset instant : Int} :
    boundInstant? value bound offset = some instant ↔
      ∃ n, IsDay value n ∧ instant = 86400 * n - offset + boundSeconds bound := by
  simp only [boundInstant?, Option.map_eq_some_iff, parseDate_eq_some_iff, IsDay, counts_iff, secondsPerDay]
  constructor
  · rintro ⟨d, ⟨hwritten, hvalid⟩, rfl⟩
    exact ⟨dayNumber d, ⟨d, hwritten, hvalid, rfl⟩, by omega⟩
  · rintro ⟨_, ⟨d, hwritten, hvalid, rfl⟩, rfl⟩
    exact ⟨d, ⟨hwritten, hvalid⟩, by omega⟩

theorem exists_boundInstant_iff {value : String} {bound : DayBound} {offset : Int} :
    (∃ instant, boundInstant? value bound offset = some instant) ↔ ∃ d, IsWritten value d ∧ isValid d := by
  simp [boundInstant?, Option.map_eq_some_iff, parseDate_eq_some_iff]

theorem boundInstant_of_isDay {value : String} {n : Int} (h : IsDay value n) (bound : DayBound) (offset : Int) :
    boundInstant? value bound offset = some (86400 * n - offset + boundSeconds bound) :=
  boundInstant_eq_some_iff.mpr ⟨n, h, rfl⟩

theorem IsDay.number_eq {value : String} {n m : Int} (hn : IsDay value n) (hm : IsDay value m) : n = m := by
  have heq := (boundInstant_of_isDay hn .start 0).symm.trans (boundInstant_of_isDay hm .start 0)
  have heq := Option.some.inj heq
  omega

theorem IsDay.text_eq {v w : String} {n : Int} (hv : IsDay v n) (hw : IsDay w n) : v = w := by
  obtain ⟨d, hd, hcount⟩ := hv
  obtain ⟨e, he, hcount'⟩ := hw
  rw [counts_iff] at hcount hcount'
  obtain rfl := dayNumber_inj hcount.1 hcount'.1 (hcount.2.trans hcount'.2.symm)
  exact hd.eq he

/-- The last second of a day is followed by the first one of the next. -/
theorem start_next {v w : String} {d : Date} (hv : IsWritten v d) (hvalid : isValid d) (hw : IsWritten w (next d))
    (offset : Int) : ∃ instant, boundInstant? v .finish offset = some instant ∧
      boundInstant? w .start offset = some (instant + 1) := by
  have hd : Counts d (dayNumber d) := (counts_iff _ _).mpr ⟨hvalid, rfl⟩
  refine ⟨_, boundInstant_of_isDay ⟨d, hv, hd⟩ .finish offset, ?_⟩
  rw [boundInstant_of_isDay ⟨next d, hw, hd.next⟩ .start offset, Option.some_inj]
  simp only [boundSeconds, secondsPerDay]
  omega

theorem isDay_first : IsDay "0000-01-01" (-719528) := by
  refine ⟨⟨0, 1, 1⟩, (parseDate_eq_some_iff.mp ?_).1, (counts_iff _ _).mpr ?_⟩ <;> decide

theorem isDay_last : IsDay "9999-12-31" 2932896 := by
  refine ⟨⟨9999, 12, 31⟩, (parseDate_eq_some_iff.mp ?_).1, (counts_iff _ _).mpr ?_⟩ <;> decide

/-- The days of the years from 0 to 9999 can be written. -/
theorem exists_isDay {n : Int} (hfirst : -719528 ≤ n) (hlast : n ≤ 2932896) : ∃ value, IsDay value n := by
  obtain ⟨d, hvalid, rfl⟩ := exists_dayNumber n
  have hyear : 0 ≤ d.year := by
    by_contra hneg
    have hlt : dayNumber d < dayNumber ⟨0, 1, 1⟩ := dayNumber_lt_of_year hvalid (by decide) (by simpa using hneg)
    have hnumber : dayNumber ⟨0, 1, 1⟩ = -719528 := by decide
    omega
  have hyear' : d.year < 10000 := by
    by_contra hlarge
    have hlt : dayNumber ⟨9999, 12, 31⟩ < dayNumber d :=
      dayNumber_lt_of_year (by decide) hvalid (by simp only; omega)
    have hnumber : dayNumber ⟨9999, 12, 31⟩ = 2932896 := by decide
    omega
  obtain ⟨value, hvalue⟩ := exists_isWritten hvalid hyear hyear'
  exact ⟨value, d, hvalue, (counts_iff _ _).mpr ⟨hvalid, rfl⟩⟩

theorem covers_iff {value : String} {offset t : Int} : Covers value offset t ↔ IsDay value ((t + offset) / 86400) := by
  constructor
  · rintro ⟨first, last, hfirst, hlast, hle, hge⟩
    obtain ⟨n, hn, rfl⟩ := boundInstant_eq_some_iff.mp hfirst
    obtain ⟨m, hm, rfl⟩ := boundInstant_eq_some_iff.mp hlast
    obtain rfl := hn.number_eq hm
    have hday : (t + offset) / 86400 = n := by
      simp only [boundSeconds, secondsPerDay] at hle hge
      omega
    rwa [hday]
  · intro h
    refine ⟨_, _, boundInstant_of_isDay h .start offset, boundInstant_of_isDay h .finish offset, ?_, ?_⟩
    all_goals
      simp only [boundSeconds, secondsPerDay]
      omega

/-- Every instant from the first to the last of these days lies in one of them. -/
theorem exists_unique_covers (offset : Int) : ∃ first last, boundInstant? "0000-01-01" .start offset = some first ∧
    boundInstant? "9999-12-31" .finish offset = some last ∧
    ∀ t, first ≤ t → t ≤ last → ∃! value, Covers value offset t := by
  refine ⟨_, _, boundInstant_of_isDay isDay_first .start offset, boundInstant_of_isDay isDay_last .finish offset,
    fun t hfirst hlast => ?_⟩
  simp only [boundSeconds, secondsPerDay] at hfirst hlast
  obtain ⟨value, hvalue⟩ := exists_isDay (n := (t + offset) / 86400) (by omega) (by omega)
  exact ⟨value, covers_iff.mpr hvalue, fun w hw => (covers_iff.mp hw).text_eq hvalue⟩

end AuditSearch.Calendar
