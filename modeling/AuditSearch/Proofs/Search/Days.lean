import AuditSearch.Proofs.Calendar.Days
import AuditSearch.Proofs.Catalog
import AuditSearch.Proofs.EventLog.Find
import AuditSearch.Proofs.Query.Group
import AuditSearch.Proofs.Query.Term
import AuditSearch.Proofs.Search.Resolve

/-!
Searches for the days between two dates: they accept the events whose day by local time is one of these.
-/
namespace AuditSearch

namespace Calendar

theorem isBlank_of_isDigit {c : Char} (h : Text.isDigit c) : Text.isBlank c = false := by
  have hdigit := Text.toNat_of_isDigit h
  simp only [Text.isBlank, Text.inRanges, Text.blankRanges, List.any_cons, List.any_nil, Bool.or_false,
    Bool.or_eq_false_iff, Bool.and_eq_false_iff, decide_eq_false_iff_not]
  omega

theorem IsWritten.isWord {s : String} {d : Date} (h : IsWritten s d) : Text.IsWord s := by
  obtain ⟨n, year, month, day, -, hyear, hmonth, hday, htext⟩ := h
  have hdash : Text.isBlank '-' = false := by decide
  have hplain {width n : Nat} {ds : List Char} (h : IsNumeral width ds n) : ∀ c ∈ ds, Text.isBlank c = false :=
    fun c hc => isBlank_of_isDigit (h.digits c hc)
  refine ⟨fun hempty => by simp [hempty] at htext, ?_⟩
  rw [htext]
  simp only [List.forall_mem_append, List.forall_mem_cons]
  exact ⟨⟨hplain hyear, hdash, hplain hmonth⟩, hdash, hplain hday⟩

end Calendar

namespace Compiler

/-- The search for the days from one date to another. -/
def between (first last : String) : String :=
  "start_date:" ++ first ++ " end_date:" ++ last

/-- The instants from one to another. -/
def within (first last : Int) : Condition :=
  .all [.compare Column.createdTimestamp.name .atLeast (.integer (Int64.ofInt first)),
    .compare Column.createdTimestamp.name .atMost (.integer (Int64.ofInt last))]

theorem ofTerms_between {A B : String} (hA : Text.IsWord A) (hB : Text.IsWord B) :
    Group.ofTerms (Term.ofSearch (between A B)) = [⟨"start_date", [A], []⟩, ⟨"end_date", [B], []⟩] := by
  have hsearch : between A B =
      Term.text ⟨"start_date", false, A⟩ ++ " " ++ Term.text ⟨"end_date", false, B⟩ := by
    rw [String.ext_iff]
    simp [between, Term.text]
  have hstart : Term.IsFieldName "start_date" := by decide
  have hend : Term.IsFieldName "end_date" := by decide
  have hterms : Term.ofSearch (Term.text ⟨"start_date", false, A⟩) = [⟨"start_date", false, A⟩] := by
    have hparse : Term.parse? (Term.text ⟨"start_date", false, A⟩) = some ⟨"start_date", false, A⟩ :=
      Term.parse_text hstart hA
    rw [Term.ofSearch, Text.words_of_isWord (Term.isWord_text hstart hA)]
    simp [hparse]
  rw [hsearch, Term.ofSearch_append (Term.isWord_text hend hB) (Term.parse_text hend hB), hterms]
  simp [Group.ofTerms, Group.addTerm, Group.push, Group.addNew, Group.empty]

theorem resolution_day {c : Compiler} (h : Catalog.standard = .ok c.catalog) {n : String × DayBound}
    (hn : n ∈ Catalog.dayNames) : c.resolution? n.1 = some (.day Column.createdTimestamp.name n.2) := by
  obtain ⟨field, hfield, hresolution⟩ := Catalog.get_day h hn
  rw [resolution_of_get hfield, hresolution]

theorem compile_between {c : Compiler} (h : Catalog.standard = .ok c.catalog) {A B : String} (hA : Text.IsWord A)
    (hB : Text.IsWord B) {first last : Int} (hfirst : Calendar.boundInstant? A .start c.offsetSeconds = some first)
    (hlast : Calendar.boundInstant? B .finish c.offsetSeconds = some last) :
    c.compile (between A B) = pure (.condition (within first last)) := by
  have hstart : c.resolve ⟨"start_date", [A], []⟩ = pure (.condition
      (.compare Column.createdTimestamp.name .atLeast (.integer (Int64.ofInt first)))) := by
    rw [resolve_eq, resolution_day h (n := ("start_date", .start)) (by decide)]
    simp only [resolveDay_eq, List.head?_cons, hfirst]
    rfl
  have hend : c.resolve ⟨"end_date", [B], []⟩ = pure (.condition
      (.compare Column.createdTimestamp.name .atMost (.integer (Int64.ofInt last)))) := by
    rw [resolve_eq, resolution_day h (n := ("end_date", .finish)) (by decide)]
    simp only [resolveDay_eq, List.head?_cons, hlast]
    rfl
  have hcolon : (between A B).toList.contains ':' := by simp [between]
  rw [compile, if_pos hcolon, Compiler.condition, ofTerms_between hA hB, conditionOfGroups]
  simp only [List.mapM_cons, List.mapM_nil, hstart, hend, pure_bind]
  rfl

/-- What is compiled of a search for the days between two dates is true of the events of these days. -/
theorem truth_within {first last : Int} (hfirst : (Int64.ofInt first).toInt = first)
    (hlast : (Int64.ofInt last).toInt = last) (e : Event) :
    (within first last).truth e = some true ↔ first ≤ e.createdTimestamp.toInt ∧ e.createdTimestamp.toInt ≤ last := by
  have hcreated : e.column? Column.createdTimestamp.name = some (.integer e.createdTimestamp) := rfl
  have htrue (bound : Bound) (n : Int64) :
      (Condition.compare Column.createdTimestamp.name bound (.integer n)).truth e = some true ↔
        bound.holds e.createdTimestamp n := by
    simp [Condition.truth, hcreated, Literal.asInteger?]
  rw [within, Condition.truth, Condition.truths_eq, Truth.all_eq_true_iff, List.forall_mem_map, List.forall_mem_cons,
    List.forall_mem_singleton, htrue, htrue]
  simp only [Bound.holds, decide_eq_true_iff, Int64.le_iff_toInt_le, hfirst, hlast]

theorem tests_within (first last : Int) : (within first last).tests =
    [.compare Column.createdTimestamp.name .atLeast (.integer (Int64.ofInt first)),
      .compare Column.createdTimestamp.name .atMost (.integer (Int64.ofInt last))] :=
  rfl

theorem isTyped_within (first last : Int) : ∀ t ∈ (within first last).tests, t.IsTypedTest := by
  rw [tests_within, List.forall_mem_cons, List.forall_mem_singleton]
  exact ⟨⟨.createdTimestamp, rfl, rfl, _, rfl⟩, .createdTimestamp, rfl, rfl, _, rfl⟩

theorem isWithinLimits_within (first last : Int) : (within first last).IsWithinLimits where
  params := Nat.le_trans (Nat.le_of_eq (rfl : _ = 2)) (by decide)
  height := by
    have hexpr : Condition.written.expr 0 (within first last) = Condition.written.expr 0 (within 0 0) := rfl
    rw [hexpr]
    decide
  patterns := by
    rw [tests_within, List.forall_mem_cons, List.forall_mem_singleton]
    exact ⟨trivial, trivial⟩

theorem find_within {log : EventLog} (hids : (log.events.map Event.id).Nodup) {first last : Int}
    (hfirst : (Int64.ofInt first).toInt = first) (hlast : (Int64.ofInt last).toInt = last) :
    ∃ answer, log.IsAnswer (within first last).toFilter
      (fun r => first ≤ r.createdTimestamp.toInt ∧ r.createdTimestamp.toInt ≤ last) answer := by
  refine EventLog.find_stored hids (Condition.isOverSchema_of_isTyped (isTyped_within first last))
    (isWithinLimits_within first last) fun e _ => ?_
  have hstored : ∀ t ∈ (within first last).tests, Condition.storedTruth e t = t.truth e := by
    rw [tests_within, List.forall_mem_cons, List.forall_mem_singleton]
    exact ⟨Condition.storedTruth_compare rfl _ _ e, Condition.storedTruth_compare rfl _ _ e⟩
  rw [Condition.truthBy_congr hstored, ← Condition.truth_eq_truthBy]
  exact truth_within hfirst hlast e

/-- A search for the days between two dates accepts, and finds, the events of which the day by local time is one of
these. -/
theorem accepts_between {c : Compiler} (h : Catalog.standard = .ok c.catalog) {m : Int}
    (hoffset : c.offsetSeconds = 60 * m) (hrange : m.natAbs ≤ 1080) {A B : String} {a b : Int}
    (hA : Calendar.IsDay A a) (hB : Calendar.IsDay B b) :
    ∃ p, c.compile (between A B) = pure (.condition p) ∧
      (∀ e, p.accepts e ↔ a ≤ (e.createdTimestamp.toInt + 60 * m) / 86400 ∧
        (e.createdTimestamp.toInt + 60 * m) / 86400 ≤ b) ∧
      ∀ log : EventLog, log.Reachable → log.count < 2 ^ 63 → ∃ answer, log.IsAnswer p.toFilter
        (fun r => a ≤ (r.createdTimestamp.toInt + 60 * m) / 86400 ∧
          (r.createdTimestamp.toInt + 60 * m) / 86400 ≤ b) answer := by
  have hfirst := Calendar.boundInstant_of_isDay hA .start c.offsetSeconds
  have hlast := Calendar.boundInstant_of_isDay hB .finish c.offsetSeconds
  have hfirst' := Calendar.toInt_boundInstant (by omega) hfirst
  have hlast' := Calendar.toInt_boundInstant (by omega) hlast
  have hdays (t : Int) : 86400 * a - c.offsetSeconds + Calendar.boundSeconds .start ≤ t ∧
      t ≤ 86400 * b - c.offsetSeconds + Calendar.boundSeconds .finish ↔
        a ≤ (t + 60 * m) / 86400 ∧ (t + 60 * m) / 86400 ≤ b := by
    simp only [Calendar.boundSeconds, Calendar.secondsPerDay, hoffset]
    omega
  obtain ⟨_, hwordA, -⟩ := hA
  obtain ⟨_, hwordB, -⟩ := hB
  refine ⟨_, compile_between h hwordA.isWord hwordB.isWord hfirst hlast, fun e => ?_, fun log hlog hcount => ?_⟩
  · rw [Condition.accepts, beq_iff_eq, truth_within hfirst' hlast', hdays]
  · simp only [← hdays]
    exact find_within (hlog.isNumbered.nodup hcount) hfirst' hlast'

/-- A text is read as a bound by time if it writes a date that there is, in four digits, two and two. It bounds the
seconds of this day by local time, which is counted one day at a time; these days follow each other without gaps, and
every instant of the years from 0 to 9999 is in one of them. A search for the days between two dates accepts, and
finds, the events of which the local day is one of these. -/
theorem days_tile_calendar (settings : Settings) (m : Int) (hminutes : (settings.offsetMinutes.getD 0).toInt = m)
    (hrange : m.natAbs ≤ 1080) :
    settings.offsetSeconds = .ok (60 * m) ∧
    (∀ value bound, (∃ instant, Calendar.boundInstant? value bound (60 * m) = some instant) ↔
      ∃ d, Calendar.IsWritten value d ∧ Calendar.isValid d) ∧
    (∀ value instant,
      (Calendar.boundInstant? value .start (60 * m) = some instant ↔
        ∃ n, Calendar.IsDay value n ∧ instant = 86400 * n - 60 * m) ∧
      (Calendar.boundInstant? value .finish (60 * m) = some instant ↔
        ∃ n, Calendar.IsDay value n ∧ instant = 86400 * n - 60 * m + 86399)) ∧
    (∀ v w d, Calendar.IsWritten v d → Calendar.isValid d → Calendar.IsWritten w (Calendar.next d) →
      ∃ instant, Calendar.boundInstant? v .finish (60 * m) = some instant ∧
        Calendar.boundInstant? w .start (60 * m) = some (instant + 1)) ∧
    (∃ first last, Calendar.boundInstant? "0000-01-01" .start (60 * m) = some first ∧
      Calendar.boundInstant? "9999-12-31" .finish (60 * m) = some last ∧
      ∀ t, first ≤ t → t ≤ last → ∃! value, Calendar.Covers value (60 * m) t) ∧
    ∀ c : Compiler, Catalog.standard = .ok c.catalog → ∃ d, c.withSettings settings = .ok d ∧
      ∀ A B a b, Calendar.IsDay A a → Calendar.IsDay B b →
        ∃ p, d.compile (between A B) = pure (.condition p) ∧
          (∀ e, p.accepts e ↔ a ≤ (e.createdTimestamp.toInt + 60 * m) / 86400 ∧
            (e.createdTimestamp.toInt + 60 * m) / 86400 ≤ b) ∧
          ∀ log : EventLog, log.Reachable → log.count < 2 ^ 63 → ∃ answer, log.IsAnswer p.toFilter
            (fun r => a ≤ (r.createdTimestamp.toInt + 60 * m) / 86400 ∧
              (r.createdTimestamp.toInt + 60 * m) / 86400 ≤ b) answer := by
  have hoffset : settings.offsetSeconds = .ok (60 * m) := by
    simp only [Settings.offsetSeconds, hminutes, Settings.maxOffsetMinutes, if_pos hrange, Int.mul_comm]
  refine ⟨hoffset, fun value bound => Calendar.exists_boundInstant_iff, fun value instant => ⟨?_, ?_⟩,
    fun v w d hv hvalid hw => Calendar.start_next hv hvalid hw _, Calendar.exists_unique_covers _, fun c hc => ?_⟩
  · simp only [Calendar.boundInstant_eq_some_iff, Calendar.boundSeconds, Int.add_zero]
  · simp only [Calendar.boundInstant_eq_some_iff, Calendar.boundSeconds]
    rfl
  · obtain ⟨d, hd, hcatalog, hlocal⟩ : ∃ d, c.withSettings settings = .ok d ∧ d.catalog = c.catalog ∧
        d.offsetSeconds = 60 * m := by
      rw [withSettings, hoffset]
      exact ⟨_, rfl, rfl, rfl⟩
    exact ⟨d, hd, fun A B a b hA hB => accepts_between (by rw [hcatalog, hc]) hlocal hrange hA hB⟩

/-- Settings for local time two hours ahead of UTC. -/
def twoHours : Settings :=
  { Settings.new with offsetMinutes := some 120 }

theorem days_tile_calendar_leap_day :
    twoHours.offsetSeconds = .ok (60 * 120) ∧
    Calendar.boundInstant? "2024-02-29" .start (60 * 120) = some 1709157600 ∧
    (¬∃ instant, Calendar.boundInstant? "1900-02-29" .start (60 * 120) = some instant) ∧
    (∃! value, Calendar.Covers value (60 * 120) 1709157600) ∧
    ∃ c, (Compiler.new Catalog.standardFields ⟨fun _ _ => .ok []⟩ ⟨"staff", fun _ _ => .ok []⟩).withSettings twoHours =
        .ok c ∧
      ∃ p, c.compile "start_date:2024-02-29 end_date:2024-02-29" = pure (.condition p) ∧
        ∀ e, p.accepts e ↔ 19782 ≤ (e.createdTimestamp.toInt + 60 * 120) / 86400 ∧
          (e.createdTimestamp.toInt + 60 * 120) / 86400 ≤ 19782 := by
  have hdate : Calendar.parseDate? "2024-02-29" = some ⟨2024, 2, 29⟩ := by decide
  have hday : Calendar.IsDay "2024-02-29" 19782 :=
    ⟨⟨2024, 2, 29⟩, (Calendar.parseDate_eq_some_iff.mp hdate).1, (Calendar.counts_iff _ _).mpr (by decide)⟩
  have hnone : ¬∃ d, Calendar.IsWritten "1900-02-29" d ∧ Calendar.isValid d := by
    have hdate : Calendar.parseDate? "1900-02-29" = none := by decide
    simp [← Calendar.parseDate_eq_some_iff, hdate]
  obtain ⟨hoffset, hdates, hbounds, -, ⟨first, last, hfirst, hlast, hcovers⟩, hsearch⟩ :=
    days_tile_calendar twoHours 120 (by decide) (by decide)
  obtain ⟨c, hc, hfinds⟩ := hsearch
    (.new Catalog.standardFields ⟨fun _ _ => .ok []⟩ ⟨"staff", fun _ _ => .ok []⟩) Catalog.standard_eq
  obtain ⟨p, hp, haccepts, -⟩ := hfinds _ _ _ _ hday hday
  refine ⟨hoffset, (hbounds _ _).1.mpr ⟨_, hday, by decide⟩, fun h => hnone ((hdates _ _).mp h), hcovers _ ?_ ?_,
    c, hc, p, hp, haccepts⟩
  · have : Calendar.boundInstant? "0000-01-01" .start (60 * 120) = some (-62167226400) := by decide
    rw [this] at hfirst
    cases hfirst
    decide
  · have : Calendar.boundInstant? "9999-12-31" .finish (60 * 120) = some 253402293599 := by decide
    rw [this] at hlast
    cases hlast
    decide

end Compiler

end AuditSearch
