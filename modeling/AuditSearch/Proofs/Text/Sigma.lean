import AuditSearch.Proofs.Text.Lower

/-!
Capital sigmas in texts that are part of others. In lower case a capital sigma is a final one by what stands around it,
so more text at the ends of a text may change how the text is written in lower case.
-/
namespace AuditSearch.Text

/-- No character of a text counts in telling whether a letter with case stands next. -/
def areIgnorable (cs : List Char) : Bool :=
  cs.all (inRanges caseIgnorableRanges)

/-- A capital sigma that ends a word, unless a letter follows the text that it stands in. What stands before it there
is given last character first. -/
def isFinal (before behind : List Char) : Bool :=
  startsCased before && areIgnorable behind

/-- A capital sigma that ends no word, unless a letter precedes the text that it stands in. -/
def isInitial (before behind : List Char) : Bool :=
  areIgnorable before && !startsCased behind

/-- Whether a capital sigma stands in a text with something of what is before and behind it. -/
def hasSigma (p : List Char → List Char → Bool) (before : List Char) : List Char → Bool
  | [] => false
  | c :: cs => c == 'Σ' && p before cs || hasSigma p (c :: before) cs

/-- No capital sigma stands where more text at the ends of a text decides about it. -/
def IsSteady (s : String) : Prop :=
  ¬hasSigma isFinal [] s.toList ∧ ¬hasSigma isInitial [] s.toList

instance (s : String) : Decidable (IsSteady s) :=
  inferInstanceAs (Decidable (_ ∧ _))

theorem startsCased_append (cs ds : List Char) :
    startsCased (cs ++ ds) = if areIgnorable cs then startsCased ds else startsCased cs := by
  induction cs with
  | nil => rfl
  | cons c cs ih =>
    by_cases hc : inRanges caseIgnorableRanges c
    · simpa [startsCased, areIgnorable, hc] using ih
    · simp [startsCased, areIgnorable, hc]

theorem startsCased_of_areIgnorable {cs : List Char} (h : areIgnorable cs) : startsCased cs = false := by
  have hnil := startsCased_append cs []
  rwa [List.append_nil, if_pos h] at hnil

def smallSigma (before behind : List Char) : Char :=
  if startsCased before && !startsCased behind then 'ς' else 'σ'

theorem lowerAfter_sigma (before cs : List Char) :
    lowerAfter before ('Σ' :: cs) = smallSigma before cs :: lowerAfter ('Σ' :: before) cs := by
  rw [lowerAfter, if_pos rfl, smallSigma]
  split <;> rfl

theorem lowerAfter_other {c : Char} (h : c ≠ 'Σ') (before cs : List Char) :
    lowerAfter before (c :: cs) = lowerChar c ++ lowerAfter (c :: before) cs := by
  rw [lowerAfter, if_neg h]

/-- A steady text is written the same in lower case whatever stands around it. -/
theorem lowerAfter_steady {x cs : List Char} (hfinal : hasSigma isFinal x cs = false)
    (hinitial : hasSigma isInitial x cs = false) (before behind : List Char) :
    lowerAfter (x ++ before) (cs ++ behind) =
      lowerAfter x cs ++ lowerAfter (cs.reverse ++ x ++ before) behind := by
  induction cs generalizing x with
  | nil => simp [lowerAfter]
  | cons c cs ih =>
    simp only [hasSigma, Bool.or_eq_false_iff, Bool.and_eq_false_imp, beq_iff_eq] at hfinal hinitial
    have hmore := ih hfinal.2 hinitial.2
    have hreverse : cs.reverse ++ c :: x ++ before = (c :: cs).reverse ++ x ++ before := by simp
    rw [List.cons_append, hreverse] at hmore
    rw [List.cons_append]
    by_cases hc : c = 'Σ'
    · subst hc
      have hsame : smallSigma (x ++ before) (cs ++ behind) = smallSigma x cs := by
        have hclosed := hfinal.1 rfl
        have hclosed' := hinitial.1 rfl
        have hnone := @startsCased_of_areIgnorable x
        have hnone' := @startsCased_of_areIgnorable cs
        simp only [isFinal, isInitial] at hclosed hclosed'
        rw [smallSigma, smallSigma, startsCased_append, startsCased_append]
        cases hx : areIgnorable x <;> cases hcs : areIgnorable cs <;> simp_all
      rw [lowerAfter_sigma, lowerAfter_sigma, hsame, hmore, List.cons_append]
    · rw [lowerAfter_other hc, lowerAfter_other hc, hmore, List.append_assoc]
      simp

theorem lowerAfter_append (before cs ds : List Char) : ∃ es, lowerAfter before (cs ++ ds) =
    es ++ lowerAfter (cs.reverse ++ before) ds ∧ ('\x00' ∈ es → '\x00' ∈ cs) := by
  induction cs generalizing before with
  | nil => exact ⟨[], rfl, by simp⟩
  | cons c cs ih =>
    obtain ⟨es, hes, hnul⟩ := ih (c :: before)
    rw [List.cons_append, List.reverse_cons, List.append_assoc, List.singleton_append]
    by_cases hc : c = 'Σ'
    · subst hc
      refine ⟨smallSigma before (cs ++ ds) :: es, by rw [lowerAfter_sigma, hes, List.cons_append], fun h => ?_⟩
      have hsmall : smallSigma before (cs ++ ds) ≠ '\x00' := by
        rw [smallSigma]
        split <;> decide
      simp_all [eq_comm]
    · refine ⟨lowerChar c ++ es, by rw [lowerAfter_other hc, hes, List.append_assoc], fun h => ?_⟩
      obtain h | h := List.mem_append.mp h
      · rw [(mem_lowerChar h).2.1 rfl]
        exact List.mem_cons_self
      · exact List.mem_cons_of_mem c (hnul h)

/-- A steady text that is part of another one is part of it in lower case as well, behind characters that are not null
unless one before it is. -/
theorem lower_steady {part text : String} (h : IsSteady part) {before behind : List Char}
    (htext : text.toList = before ++ part.toList ++ behind) : ∃ es fs,
      (lower text).toList = es ++ (lower part).toList ++ fs ∧ ('\x00' ∈ es → '\x00' ∈ before) := by
  obtain ⟨es, hes, hnul⟩ := lowerAfter_append [] before (part.toList ++ behind)
  have hpart := lowerAfter_steady (Bool.eq_false_iff.mpr h.1) (Bool.eq_false_iff.mpr h.2) before.reverse behind
  rw [List.nil_append] at hpart
  refine ⟨es, lowerAfter (part.toList.reverse ++ [] ++ before.reverse) behind, ?_, hnul⟩
  rw [lower, lower, String.toList_ofList, String.toList_ofList, htext, List.append_assoc, hes, List.append_nil, hpart,
    List.append_assoc, List.append_assoc]

theorem eq_empty_of_lower {s : String} (h : (lower s).toList = []) : s = "" := by
  rw [lower, String.toList_ofList] at h
  cases hs : s.toList with
  | nil => exact String.toList_eq_nil_iff.mp hs
  | cons c cs =>
    have hsmall : lowerChar c ≠ [] := by
      unfold lowerChar
      split
      · simp
      · split
        · simp
        · split <;> simp
    rw [hs] at h
    by_cases hc : c = 'Σ'
    · subst hc
      simp [lowerAfter_sigma] at h
    · simp [lowerAfter_other hc, hsmall] at h

/-! ### Texts that are not steady -/

theorem startsCased_alpha : startsCased ['α'] = true := by
  decide +kernel

theorem lowerAfter_alpha (before cs : List Char) :
    lowerAfter before ('α' :: cs) = 'α' :: lowerAfter ('α' :: before) cs := by
  have halpha : lowerChar 'α' = ['α'] := by decide +kernel
  rw [lowerAfter_other (by decide), halpha, List.singleton_append]

theorem smallSigma_final {before behind : List Char} (h : isFinal before behind) :
    smallSigma before behind = 'ς' ∧ smallSigma before (behind ++ ['α']) = 'σ' := by
  simp only [isFinal, Bool.and_eq_true] at h
  simp [smallSigma, startsCased_append, startsCased_alpha, h, startsCased_of_areIgnorable]

theorem smallSigma_not_final {before behind : List Char} (h : ¬isFinal before behind) :
    smallSigma before (behind ++ ['α']) = smallSigma before behind := by
  simp only [isFinal, Bool.and_eq_true, not_and, Bool.not_eq_true] at h
  rw [smallSigma, smallSigma, startsCased_append]
  cases hbefore : startsCased before with
  | true => simp [h hbefore]
  | false => simp

theorem smallSigma_initial {before behind : List Char} (h : isInitial before behind) :
    smallSigma before behind = 'σ' ∧ smallSigma (before ++ ['α']) behind = 'ς' := by
  simp only [isInitial, Bool.and_eq_true, Bool.not_eq_true'] at h
  simp [smallSigma, startsCased_append, startsCased_alpha, h, startsCased_of_areIgnorable]

theorem smallSigma_not_initial {before behind : List Char} (h : ¬isInitial before behind) :
    smallSigma (before ++ ['α']) behind = smallSigma before behind := by
  simp only [isInitial, Bool.and_eq_true, not_and, Bool.not_eq_true'] at h
  rw [smallSigma, smallSigma, startsCased_append]
  cases hbefore : areIgnorable before with
  | true => simp [h hbefore]
  | false => simp

/-- A letter behind a text leaves fewer final sigmas in it. -/
theorem count_final (before cs : List Char) : (lowerAfter before (cs ++ ['α'])).count 'ς' +
    (if hasSigma isFinal before cs then 1 else 0) ≤ (lowerAfter before cs).count 'ς' := by
  induction cs generalizing before with
  | nil => simp [lowerAfter_alpha, lowerAfter, hasSigma]
  | cons c cs ih =>
    have hmore := ih (c :: before)
    by_cases hc : c = 'Σ'
    · subst hc
      rw [List.cons_append, lowerAfter_sigma, lowerAfter_sigma]
      by_cases hfinal : isFinal before cs
      · obtain ⟨hsmall, hsmall'⟩ := smallSigma_final hfinal
        have hopen : hasSigma isFinal before ('Σ' :: cs) := by simp [hasSigma, hfinal]
        rw [hsmall, hsmall', if_pos hopen, List.count_cons_of_ne (by decide), List.count_cons_self]
        exact Nat.succ_le_succ (Nat.le_of_add_right_le hmore)
      · have hnone : hasSigma isFinal before ('Σ' :: cs) = hasSigma isFinal ('Σ' :: before) cs := by simp [hasSigma, hfinal]
        rw [smallSigma_not_final hfinal, hnone, List.count_cons, List.count_cons]
        omega
    · have hnone : hasSigma isFinal before (c :: cs) = hasSigma isFinal (c :: before) cs := by simp [hasSigma, hc]
      rw [List.cons_append, lowerAfter_other hc, lowerAfter_other hc, hnone, List.count_append, List.count_append]
      omega

/-- A letter before a text leaves fewer sigmas in it that are not final. -/
theorem count_initial (before cs : List Char) : (lowerAfter (before ++ ['α']) cs).count 'σ' +
    (if hasSigma isInitial before cs then 1 else 0) ≤ (lowerAfter before cs).count 'σ' := by
  induction cs generalizing before with
  | nil => simp [lowerAfter, hasSigma]
  | cons c cs ih =>
    have hmore := ih (c :: before)
    rw [List.cons_append] at hmore
    by_cases hc : c = 'Σ'
    · subst hc
      rw [lowerAfter_sigma, lowerAfter_sigma]
      by_cases hinitial : isInitial before cs
      · obtain ⟨hsmall, hsmall'⟩ := smallSigma_initial hinitial
        have hopen : hasSigma isInitial before ('Σ' :: cs) := by simp [hasSigma, hinitial]
        rw [hsmall, hsmall', if_pos hopen, List.count_cons_of_ne (by decide), List.count_cons_self]
        exact Nat.succ_le_succ (Nat.le_of_add_right_le hmore)
      · have hnone : hasSigma isInitial before ('Σ' :: cs) = hasSigma isInitial ('Σ' :: before) cs := by simp [hasSigma, hinitial]
        rw [smallSigma_not_initial hinitial, hnone, List.count_cons, List.count_cons]
        omega
    · have hnone : hasSigma isInitial before (c :: cs) = hasSigma isInitial (c :: before) cs := by simp [hasSigma, hc]
      rw [lowerAfter_other hc, lowerAfter_other hc, hnone, List.count_append, List.count_append]
      omega

theorem count_seen {c : Char} (hc : ¬isConfusable c) (cs : List Char) : (cs.map seen).count c = cs.count c := by
  have hsame (d : Char) : (seen d == c) = (d == c) := by
    rw [Bool.eq_iff_iff, beq_iff_eq, beq_iff_eq, seen_eq_iff (by simpa [isConfusable, and_assoc] using hc)]
  rw [List.count_eq_countP, List.count_eq_countP, List.countP_map]
  exact List.countP_congr fun d _ => by rw [Function.comp_apply, hsame]

/-- A text that is not steady is in lower case no part of what a letter before or behind it makes of it. -/
theorem exists_unsteady {part : String} (h : ¬IsSteady part) : ∃ text ∈ [part ++ "α", "α" ++ part],
    ¬(lower part).toList.map seen <:+: (lower text).toList.map seen := by
  have hcount {text : String} {c : Char} (hc : ¬isConfusable c)
      (hfewer : (lower text).toList.count c < (lower part).toList.count c) :
      ¬(lower part).toList.map seen <:+: (lower text).toList.map seen := by
    intro hinfix
    have := hinfix.sublist.count_le c
    rw [count_seen hc, count_seen hc] at this
    omega
  by_cases hfinal : hasSigma isFinal [] part.toList
  · refine ⟨part ++ "α", by simp, hcount (c := 'ς') (by decide) ?_⟩
    have halpha : (part ++ "α").toList = part.toList ++ ['α'] := by simp
    have hfewer := count_final [] part.toList
    rw [if_pos hfinal] at hfewer
    rw [lower, lower, String.toList_ofList, String.toList_ofList, halpha]
    exact hfewer
  · have hinitial : hasSigma isInitial [] part.toList := by
      simp only [IsSteady, not_and_or, not_not] at h
      exact h.resolve_left hfinal
    refine ⟨"α" ++ part, by simp, hcount (c := 'σ') (by decide) ?_⟩
    have halpha : ("α" ++ part).toList = 'α' :: part.toList := by simp
    have hfewer := count_initial [] part.toList
    rw [if_pos hinitial] at hfewer
    rw [lower, lower, String.toList_ofList, String.toList_ofList, halpha, lowerAfter_alpha,
      List.count_cons_of_ne (by decide)]
    exact hfewer

end AuditSearch.Text
