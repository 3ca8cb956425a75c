import AuditSearch.Proofs.Text.Like
import Mathlib

/-!
Texts as patterns read them: up to the first null character, with three characters seen as one, and without regard
to the case of ASCII letters.
-/
namespace AuditSearch

namespace Text

/-- Characters that patterns see as one. -/
def isConfusable (c : Char) : Bool :=
  c == '\uFFFD' || c == '\uFFFE' || c == '\uFFFF'

/-- No character of a text is the null character. -/
def IsNulFree (s : String) : Prop :=
  ∀ c ∈ s.toList, c ≠ '\x00'

instance (s : String) : Decidable (IsNulFree s) :=
  List.decidableBAll (fun c => c ≠ '\x00') s.toList

/-- A text without the case of ASCII letters, where its characters are first read in some way. -/
def fold (read : Char → Char) (s : String) : List Char :=
  s.toList.map fun c => (read c).toLower

theorem readable_of_isNulFree {s : String} (h : IsNulFree s) : readable s = s.toList.map seen := by
  have : s.toList.takeWhile (· != '\x00') = s.toList :=
    List.takeWhile_eq_self_iff.mpr fun c hc => by simpa using h c hc
  rw [readable, this]
  rfl

theorem seen_eq_iff {c d : Char} (hd : d ≠ '\uFFFD' ∧ d ≠ '\uFFFE' ∧ d ≠ '\uFFFF') : seen c = d ↔ c = d := by
  rw [seen]
  split
  · rename_i hc
    constructor
    · rintro rfl
      exact absurd rfl hd.1
    · rintro rfl
      obtain rfl | rfl := hc
      · exact absurd rfl hd.2.1
      · exact absurd rfl hd.2.2
  · rfl

theorem escapeWildcards_seen (cs : List Char) : (escapeWildcards cs).map seen = escapeWildcards (cs.map seen) := by
  induction cs with
  | nil => rfl
  | cons c cs ih =>
    have hspecial : seen c = '%' ∨ seen c = '_' ∨ seen c = wildcardEscape ↔ c = '%' ∨ c = '_' ∨ c = wildcardEscape := by
      rw [seen_eq_iff (by decide), seen_eq_iff (by decide), seen_eq_iff (by decide)]
    have hescape : seen wildcardEscape = wildcardEscape := by decide
    simp only [escapeWildcards, List.map_cons, hspecial]
    split <;> simp [ih, hescape]

theorem escapeWildcards_append (cs ds : List Char) :
    escapeWildcards (cs ++ ds) = escapeWildcards cs ++ escapeWildcards ds := by
  induction cs with
  | nil => rfl
  | cons c cs ih =>
    simp only [List.cons_append, escapeWildcards, ih]
    split <;> rfl

theorem isNulFree_escaped {part : String} (h : IsNulFree part) :
    IsNulFree (String.ofList ('%' :: escapeWildcards part.toList ++ ['%'])) := by
  have hescaped : ∀ cs : List Char, (∀ c ∈ cs, c ≠ '\x00') → ∀ c ∈ escapeWildcards cs, c ≠ '\x00' := by
    intro cs hcs
    induction cs with
    | nil => simp [escapeWildcards]
    | cons c cs ih =>
      have hmore := ih fun d hd => hcs d (by simp [hd])
      have hescape : wildcardEscape ≠ '\x00' := by decide
      simp only [escapeWildcards]
      split <;> simp_all
  have hpart := hescaped part.toList h
  intro c hc
  simp only [String.toList_ofList, List.mem_append, List.mem_cons, List.not_mem_nil, or_false] at hc
  obtain (rfl | hc) | rfl := hc
  · decide
  · exact hpart c hc
  · decide

/-- What is read of a text is like the pattern that finds a part anywhere if it contains the part as patterns see it,
without regard to the case of ASCII letters. -/
theorem isLike_part {part : String} (hpart : IsNulFree part) (text : List Char) :
    isLike (some wildcardEscape) (readable (String.ofList ('%' :: escapeWildcards part.toList ++ ['%']))) text ↔
      fold seen part <:+: text.map Char.toLower := by
  have hwildcard : seen '%' = '%' := by decide
  rw [readable_of_isNulFree (isNulFree_escaped hpart)]
  simp only [String.toList_ofList, List.map_append, List.map_cons, List.map_nil, hwildcard, escapeWildcards_seen]
  rw [isLike_containing]
  simp [fold, Function.comp_def]

/-- A text is like the pattern that finds a part of it anywhere if it contains the part, as patterns see it and
without regard to the case of ASCII letters. -/
theorem isLike_readable {part text : String} (hpart : IsNulFree part) (htext : IsNulFree text) :
    isLike (some wildcardEscape) (readable (String.ofList ('%' :: escapeWildcards part.toList ++ ['%'])))
      (readable text) ↔ fold seen part <:+: fold seen text := by
  rw [isLike_part hpart, readable_of_isNulFree htext]
  simp [fold, Function.comp_def]

/-! ### Lower-case ASCII letters -/

theorem toNat_toLower (c : Char) :
    c.toLower.toNat = if 65 ≤ c.toNat ∧ c.toNat ≤ 90 then c.toNat + 32 else c.toNat := by
  have hcapital : c.val ≥ 'A'.val ∧ c.val ≤ 'Z'.val ↔ 65 ≤ c.toNat ∧ c.toNat ≤ 90 := Iff.rfl
  rw [Char.toLower]
  by_cases h : 65 ≤ c.toNat ∧ c.toNat ≤ 90
  · rw [dif_pos (hcapital.mpr h), if_pos h]
    have hsum : (c.val + ('a'.val - 'A'.val)).toNat = (c.toNat + 32) % 2 ^ 32 := UInt32.toNat_add ..
    rw [Nat.mod_eq_of_lt (by omega)] at hsum
    exact hsum
  · rw [dif_neg (mt hcapital.mp h), if_neg h]

theorem toLower_eq_iff_of_large {c d : Char} (h : 128 ≤ d.toNat) : c.toLower = d ↔ c = d := by
  rw [← Char.toNat_inj, ← Char.toNat_inj, toNat_toLower]
  split <;> omega

theorem isBlank_toLower (c : Char) : isBlank c.toLower = isBlank c := by
  rw [Bool.eq_iff_iff]
  simp only [isBlank, inRanges, blankRanges, List.any_cons, List.any_nil, Bool.or_eq_true, Bool.and_eq_true,
    decide_eq_true_iff, Bool.false_eq_true, or_false, toNat_toLower]
  split <;> omega

theorem isBlank_seen (c : Char) : isBlank (seen c) = isBlank c := by
  have hblank : isBlank '\uFFFD' = false ∧ isBlank '\uFFFE' = false ∧ isBlank '\uFFFF' = false := by decide
  rw [seen]
  split
  · rename_i hc
    obtain rfl | rfl := hc
    · rw [hblank.1, hblank.2.1]
    · rw [hblank.1, hblank.2.2]
  · rfl

/-! ### Blanks at the ends -/

theorem trimEnd_map {f : Char → Char} (hf : ∀ c, isBlank (f c) = isBlank c) (cs : List Char) :
    trimEnd (cs.map f) = (trimEnd cs).map f := by
  induction cs with
  | nil => rfl
  | cons c cs ih =>
    simp only [List.map_cons, trimEnd, ih, hf]
    cases trimEnd cs with
    | nil =>
      simp only [List.map_nil]
      split <;> rfl
    | cons d ds => rfl

theorem trimEnd_isPrefix (cs : List Char) : trimEnd cs <+: cs := by
  induction cs with
  | nil => exact List.prefix_refl _
  | cons c cs ih =>
    simp only [trimEnd]
    split
    · split
      · exact List.nil_prefix
      · simp
    · rename_i d ds htrim
      rw [← htrim]
      exact (List.prefix_cons_inj c).mpr ih

theorem trim_isInfix (s : String) : (trim s).toList <:+: s.toList := by
  rw [trim, String.toList_ofList]
  exact (trimEnd_isPrefix _).isInfix.trans (List.dropWhile_suffix _).isInfix

theorem trimEnd_trimEnd (cs : List Char) : trimEnd (trimEnd cs) = trimEnd cs := by
  induction cs with
  | nil => rfl
  | cons c cs ih =>
    cases htrim : trimEnd cs with
    | nil => cases hblank : isBlank c <;> simp [trimEnd, htrim, hblank]
    | cons d ds =>
      rw [htrim] at ih
      rw [trimEnd, htrim]
      dsimp only
      rw [trimEnd, ih]

theorem trim_trim (s : String) : trim (trim s) = trim s := by
  have hstart : trimStart (trimEnd (trimStart s.toList)) = trimEnd (trimStart s.toList) := by
    rw [trimStart, List.dropWhile_eq_self_iff]
    intro hne
    have hdropped : 0 < (s.toList.dropWhile isBlank).length := hne.trans_le (trimEnd_isPrefix _).length_le
    rw [(trimEnd_isPrefix _).getElem hne]
    exact List.dropWhile_get_zero_not _ _ hdropped
  rw [trim, trim, String.toList_ofList, hstart, trimEnd_trimEnd]

/-- A text without blanks has none at its ends. -/
theorem trim_of_plain {s : String} (h : ∀ c ∈ s.toList, isBlank c = false) : trim s = s := by
  have hend : ∀ cs : List Char, (∀ c ∈ cs, isBlank c = false) → trimEnd cs = cs := by
    intro cs hcs
    induction cs with
    | nil => rfl
    | cons c cs ih =>
      obtain ⟨hc, hcs⟩ := List.forall_mem_cons.mp hcs
      rw [trimEnd, ih hcs]
      cases cs <;> simp [hc]
  have hstart : trimStart s.toList = s.toList := by
    rw [trimStart, List.dropWhile_eq_self_iff]
    exact fun hne => by simp [h _ (List.getElem_mem hne)]
  rw [trim, hstart, hend _ h, String.ofList_toList]

/-- The pieces of a list hold its members but the separators. -/
theorem mem_splitOnP {p : Char → Bool} {cs w : List Char} (hw : w ∈ cs.splitOnP p) : ∀ c ∈ w, c ∈ cs ∧ p c = false := by
  induction cs generalizing w with
  | nil => simp_all
  | cons d cs ih =>
    have hmore {w : List Char} (hw : w ∈ cs.splitOnP p) : ∀ c ∈ w, c ∈ d :: cs ∧ p c = false := by
      intro c hc
      obtain ⟨hmem, hpiece⟩ := ih hw c hc
      exact ⟨List.mem_cons_of_mem d hmem, hpiece⟩
    rw [List.splitOnP_cons_eq_if_modifyHead] at hw
    split at hw
    · obtain rfl | hw := List.mem_cons.mp hw
      · simp
      · exact hmore hw
    · rename_i hd
      cases hpieces : cs.splitOnP p with
      | nil => simp [hpieces] at hw
      | cons first others =>
        rw [hpieces, List.modifyHead_cons, List.mem_cons] at hw
        obtain rfl | hw := hw
        · exact List.forall_mem_cons.mpr ⟨⟨by simp, by simpa using hd⟩, hmore (by simp [hpieces])⟩
        · exact hmore (by simp [hpieces, hw])

/-- A text whose characters are those of another one, changed without regard to blanks, has blanks at its ends as
that one has. -/
theorem trim_eq_of_map_eq {f : Char → Char} (hf : ∀ c, isBlank (f c) = isBlank c) {s t : String}
    (h : s.toList.map f = t.toList.map f) (hs : trim s = s) : trim t = t := by
  have htrim (r : String) : (trim r).toList = trimEnd (trimStart r.toList) := by simp [trim]
  have hmap (r : String) : trimEnd (trimStart (r.toList.map f)) = (trim r).toList.map f := by
    have hblank : (isBlank ∘ f) = isBlank := funext hf
    rw [htrim, ← trimEnd_map hf, trimStart, trimStart, List.dropWhile_map, hblank]
  have hlength : (trim t).toList.length = t.toList.length := by
    have hst := congrArg List.length h
    have htrimmed : (trim t).toList.map f = s.toList.map f := by rw [← hmap, ← h, hmap, hs]
    have htt := congrArg List.length htrimmed
    simp only [List.length_map] at hst htt
    omega
  exact String.toList_inj.mp ((trim_isInfix t).eq_of_length hlength)

theorem map_eq_iff {α β : Type} {f g : α → β} {ds : List α} (h : ∀ d ∈ ds, ∀ c, f c = f d ↔ g c = g d) :
    ∀ cs : List α, cs.map f = ds.map f ↔ cs.map g = ds.map g := by
  induction ds with
  | nil => simp
  | cons d ds ih =>
    intro cs
    cases cs with
    | nil => simp
    | cons c cs => simp [h d (by simp) c, ih (fun e he => h e (by simp [he])) cs]

theorem fold_seen_eq_iff {role : String} (h : ∀ c ∈ role.toList, ¬isConfusable c) (r : String) :
    fold seen r = fold seen role ↔ fold id r = fold id role := by
  refine map_eq_iff (f := fun c => (seen c).toLower) (g := fun c => (id c).toLower) (fun d hd c => ?_) r.toList
  have hd : d ≠ '\uFFFD' ∧ d ≠ '\uFFFE' ∧ d ≠ '\uFFFF' := by simpa [isConfusable, and_assoc] using h d hd
  have hseen : seen d = d := (seen_eq_iff hd).mpr rfl
  by_cases hc : c = '\uFFFE' ∨ c = '\uFFFF'
  · have hsee : seen c = '\uFFFD' := by simp [seen, hc]
    have hlow : ('\uFFFD' : Char).toLower = '\uFFFD' ∧ ('\uFFFE' : Char).toLower = '\uFFFE' ∧
        ('\uFFFF' : Char).toLower = '\uFFFF' := by decide
    rw [hsee, hseen, hlow.1, eq_comm, toLower_eq_iff_of_large (by decide)]
    obtain rfl | rfl := hc
    · rw [id, id, hlow.2.1, @eq_comm _ '\uFFFE', toLower_eq_iff_of_large (by decide)]
      simp [hd]
    · rw [id, id, hlow.2.2, @eq_comm _ '\uFFFF', toLower_eq_iff_of_large (by decide)]
      simp [hd]
  · rw [hseen, seen, if_neg hc]
    rfl

/-! ### Twins -/

/-- A character that patterns see as this one, another one if there is one. -/
def twin (c : Char) : Char :=
  if c = '\uFFFE' then '\uFFFF' else if isConfusable c then '\uFFFE' else c

theorem seen_twin (c : Char) : seen (twin c) = seen c := by
  have hseen : seen '\uFFFD' = '\uFFFD' ∧ seen '\uFFFE' = '\uFFFD' ∧ seen '\uFFFF' = '\uFFFD' := by decide
  rw [twin]
  split
  · rename_i hc
    rw [hc, hseen.2.1, hseen.2.2]
  · split
    · rename_i hc
      simp only [isConfusable, Bool.or_eq_true, beq_iff_eq] at hc
      obtain (rfl | rfl) | rfl := hc
      · rw [hseen.1, hseen.2.1]
      · rfl
      · rw [hseen.2.1, hseen.2.2]
    · rfl

theorem toLower_twin {c : Char} (h : isConfusable c) : (twin c).toLower ≠ c.toLower := by
  simp only [isConfusable, Bool.or_eq_true, beq_iff_eq] at h
  obtain (rfl | rfl) | rfl := h <;> decide

theorem twin_eq_iff {c d : Char} (hd : isConfusable d = false) : twin c = d ↔ c = d := by
  have hne : d ≠ '\uFFFE' ∧ d ≠ '\uFFFF' := by
    simp only [isConfusable, Bool.or_eq_false_iff, beq_eq_false_iff_ne] at hd
    exact ⟨hd.1.2, hd.2⟩
  rw [twin]
  split
  · rename_i hc
    simp [hc, Ne.symm hne.1, Ne.symm hne.2]
  · split
    · rename_i hc
      constructor
      · exact fun h => absurd h.symm hne.1
      · rintro rfl
        simp [hd] at hc
    · rfl

/-- A text that patterns see as this one. -/
def twinOf (s : String) : String :=
  String.ofList (s.toList.map twin)

theorem isNulFree_twinOf {s : String} (h : IsNulFree s) : IsNulFree (twinOf s) := by
  intro c hc
  obtain ⟨d, hd, rfl⟩ := List.mem_map.mp (by simpa [twinOf] using hc)
  rw [ne_eq, twin_eq_iff (by decide)]
  exact h d hd

end Text

end AuditSearch
