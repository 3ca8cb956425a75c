import AuditSearch.Proofs.Text.Reading
import AuditSearch.Text.Lower

/-!
Texts in lower case: none of their characters is a capital ASCII letter, a null character or one that patterns see
as another, unless the text has one.
-/
namespace AuditSearch.Text

/-- The small letters of a run are characters, behind the ASCII capitals and none that patterns see as another. -/
def CaseRun.IsPlain (r : CaseRun) : Prop :=
  0x5B ≤ r.target ∧ (r.target + (r.last - r.first) < 0xD800 ∨
    0xE000 ≤ r.target ∧ r.target + (r.last - r.first) < 0xFFFD ∨
    0x10000 ≤ r.target ∧ r.target + (r.last - r.first) < 0x110000)

instance : DecidablePred CaseRun.IsPlain := fun _ =>
  inferInstanceAs (Decidable (_ ∧ (_ ∨ _ ∨ _)))

theorem isPlain_caseRuns : ∀ r ∈ caseRuns, r.IsPlain := by
  decide +kernel

theorem toNat_of_lower {r : CaseRun} (hr : r.IsPlain) {n m : Nat} (h : r.lower? n = some m) :
    0x5B ≤ m ∧ (Char.ofNat m).toNat = m ∧ ¬(0xFFFD ≤ m ∧ m ≤ 0xFFFF) := by
  rw [CaseRun.lower?] at h
  split at h
  · rename_i hn
    obtain rfl := Option.some.inj h
    obtain ⟨htarget, hvalid⟩ := hr
    have hchar : (r.target + (n - r.first)).isValidChar := by
      rw [Nat.isValidChar]
      omega
    refine ⟨by omega, ?_, by omega⟩
    rw [Char.ofNat, dif_pos hchar]
    rfl
  · cases h

theorem isConfusable_iff (c : Char) : isConfusable c ↔ 0xFFFD ≤ c.toNat ∧ c.toNat ≤ 0xFFFF := by
  have hcodes : ('\uFFFD' : Char).toNat = 0xFFFD ∧ ('\uFFFE' : Char).toNat = 0xFFFE ∧
      ('\uFFFF' : Char).toNat = 0xFFFF := by decide
  simp only [isConfusable, Bool.or_eq_true, beq_iff_eq, ← Char.toNat_inj, hcodes]
  omega

theorem eq_nul_iff (c : Char) : c = '\x00' ↔ c.toNat = 0 := by
  rw [← Char.toNat_inj]
  rfl

theorem mem_lowerChar {c d : Char} (h : d ∈ lowerChar c) :
    d.toLower = d ∧ (d = '\x00' → c = '\x00') ∧ (isConfusable d → d = c) := by
  rw [eq_nul_iff, eq_nul_iff, isConfusable_iff, ← Char.toNat_inj, ← Char.toNat_inj]
  rw [lowerChar] at h
  split at h
  · obtain rfl := List.mem_singleton.mp h
    have hsmall := toNat_toLower c
    have hlow := toNat_toLower c.toLower
    split at hsmall <;> split at hlow <;> omega
  · split at h
    · simp only [List.mem_cons, List.not_mem_nil, or_false] at h
      obtain rfl | rfl := h <;>
        exact ⟨by decide, fun hd => absurd hd (by decide), fun hd => absurd hd (by decide)⟩
    · have hlow := toNat_toLower d
      split at h
      · rename_i m hm
        obtain ⟨r, hr, hlower⟩ := List.exists_of_findSome?_eq_some hm
        obtain ⟨hlarge, hcode, hplain⟩ := toNat_of_lower (isPlain_caseRuns r hr) hlower
        rw [← List.mem_singleton.mp h] at hcode
        split at hlow <;> omega
      · obtain rfl := List.mem_singleton.mp h
        split at hlow <;> omega

theorem mem_lowerAfter {d : Char} {cs : List Char} : ∀ {before}, d ∈ lowerAfter before cs →
    d.toLower = d ∧ (d = '\x00' → '\x00' ∈ cs) ∧ (isConfusable d → d ∈ cs) := by
  induction cs with
  | nil => simp [lowerAfter]
  | cons c cs ih =>
    intro before h
    rw [lowerAfter, List.mem_append] at h
    obtain h | h := h
    · by_cases hsigma : c = 'Σ'
      · have hd : d = 'ς' ∨ d = 'σ' := by
          rw [if_pos hsigma] at h
          split at h <;> simp_all
        obtain rfl | rfl := hd <;>
          exact ⟨by decide, fun hd => absurd hd (by decide), fun hd => absurd hd (by decide)⟩
      · rw [if_neg hsigma] at h
        obtain ⟨hlower, hnul, hconfusable⟩ := mem_lowerChar h
        exact ⟨hlower, fun hd => by simp [hnul hd], fun hd => by simp [hconfusable hd]⟩
    · obtain ⟨hlower, hnul, hconfusable⟩ := ih h
      exact ⟨hlower, fun hd => by simp [hnul hd], fun hd => by simp [hconfusable hd]⟩

theorem mem_lower {s : String} {d : Char} (h : d ∈ (lower s).toList) :
    d.toLower = d ∧ (d = '\x00' → '\x00' ∈ s.toList) ∧ (isConfusable d → d ∈ s.toList) := by
  rw [lower, String.toList_ofList] at h
  exact mem_lowerAfter h

theorem isNulFree_lower {s : String} (h : IsNulFree s) : IsNulFree (lower s) :=
  fun _ hd hnul => h _ ((mem_lower hd).2.1 hnul) rfl

/-- A text in lower case has no case of ASCII letters to disregard. -/
theorem fold_seen_lower (s : String) : fold seen (lower s) = (lower s).toList.map seen := by
  refine List.map_congr_left fun d hd => ?_
  have hreplacement : ('\uFFFD' : Char).toLower = '\uFFFD' := by decide
  rw [seen]
  split
  · exact hreplacement
  · exact (mem_lower hd).1

/-! ### Twins -/

theorem lowerChar_twin (c : Char) : lowerChar (twin c) = (lowerChar c).map twin := by
  cases hc : isConfusable c with
  | true =>
    simp only [isConfusable, Bool.or_eq_true, beq_iff_eq] at hc
    obtain (rfl | rfl) | rfl := hc <;> decide +kernel
  | false =>
    have hlower : (lowerChar c).map twin = lowerChar c := by
      refine (List.map_congr_left fun d hd => ?_).trans (List.map_id _)
      cases hd' : isConfusable d with
      | true =>
        rw [(mem_lowerChar hd).2.2 hd', hc] at hd'
        cases hd'
      | false => exact (twin_eq_iff hd').mpr rfl
    rw [(twin_eq_iff hc).mpr rfl, hlower]

theorem inRanges_twin (ranges : List (Nat × Nat)) (h : inRanges ranges '\uFFFD' = inRanges ranges '\uFFFE' ∧
    inRanges ranges '\uFFFE' = inRanges ranges '\uFFFF') (c : Char) : inRanges ranges (twin c) = inRanges ranges c := by
  have htwin : twin '\uFFFD' = '\uFFFE' ∧ twin '\uFFFE' = '\uFFFF' ∧ twin '\uFFFF' = '\uFFFE' := by decide
  cases hc : isConfusable c with
  | true =>
    simp only [isConfusable, Bool.or_eq_true, beq_iff_eq] at hc
    obtain (rfl | rfl) | rfl := hc
    · rw [htwin.1, h.1]
    · rw [htwin.2.1, h.2]
    · rw [htwin.2.2, h.2]
  | false => rw [(twin_eq_iff hc).mpr rfl]

theorem startsCased_twin (cs : List Char) : startsCased (cs.map twin) = startsCased cs := by
  have hignorable := inRanges_twin caseIgnorableRanges (by decide +kernel)
  have hcased := inRanges_twin casedRanges (by decide +kernel)
  have hcomp : (inRanges caseIgnorableRanges ∘ twin) = inRanges caseIgnorableRanges := funext hignorable
  rw [startsCased, startsCased, List.dropWhile_map, hcomp]
  cases cs.dropWhile (inRanges caseIgnorableRanges) with
  | nil => rfl
  | cons c cs => exact hcased c

theorem lowerAfter_twin (cs : List Char) : ∀ before,
    lowerAfter (before.map twin) (cs.map twin) = (lowerAfter before cs).map twin := by
  induction cs with
  | nil => exact fun _ => rfl
  | cons c cs ih =>
    intro before
    have hsigma : twin c = 'Σ' ↔ c = 'Σ' := twin_eq_iff (by decide)
    have hsmall : twin 'ς' = 'ς' ∧ twin 'σ' = 'σ' := by decide
    have hmore := ih (c :: before)
    rw [List.map_cons] at hmore
    simp only [List.map_cons, lowerAfter, List.map_append, hmore, startsCased_twin, hsigma]
    congr 1
    by_cases hc : c = 'Σ'
    · simp only [hc, if_true]
      split <;> simp [hsmall]
    · simp only [hc, if_false, lowerChar_twin]

theorem lower_twinOf (s : String) : lower (twinOf s) = twinOf (lower s) := by
  have h := lowerAfter_twin s.toList []
  rw [List.map_nil] at h
  rw [lower, lower, twinOf, twinOf, String.toList_ofList, String.toList_ofList, h]

/-- A character that patterns see as another stays in lower case. -/
theorem mem_lower_of_isConfusable {s : String} {c : Char} (hc : isConfusable c) (h : c ∈ s.toList) :
    c ∈ (lower s).toList := by
  have hlower : lowerChar c = [c] := by
    simp only [isConfusable, Bool.or_eq_true, beq_iff_eq] at hc
    obtain (rfl | rfl) | rfl := hc <;> decide +kernel
  have hafter : ∀ cs : List Char, c ∈ cs → ∀ before, c ∈ lowerAfter before cs := by
    intro cs hmem
    induction cs with
    | nil => cases hmem
    | cons d cs ih =>
      intro before
      rw [lowerAfter, List.mem_append]
      obtain rfl | hmem := List.mem_cons.mp hmem
      · have hsigma : c ≠ 'Σ' := by
          rintro rfl
          exact absurd hc (by decide)
        rw [if_neg hsigma, hlower]
        exact .inl (by simp)
      · exact .inr (ih hmem _)
  rw [lower, String.toList_ofList]
  exact hafter _ h []

end AuditSearch.Text
