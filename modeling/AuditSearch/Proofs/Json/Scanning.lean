import AuditSearch.Json.Token
import AuditSearch.Json.Writer
import AuditSearch.Proofs.Text.Numeral
import Mathlib.Data.List.TakeDrop

/-!
Scanning what was written. A written text or integer, and each mark between values, is the token that it was written for
in front of anything that may stand behind it in a document.
-/
namespace AuditSearch.Json

/-- Characters are these tokens, in as many steps as there are characters or more. -/
def Scans (cs : List Char) (ts : List Token) : Prop :=
  ∀ fuel, cs.length ≤ fuel → tokensWithin fuel cs = some ts

theorem scans_nil : Scans [] [] := by
  intro fuel _
  cases fuel <;> rfl

theorem Scans.space {cs : List Char} {ts : List Token} (h : Scans cs ts) {c : Char} (hc : isSpace c = true) :
    Scans (c :: cs) ts := by
  intro fuel hfuel
  cases fuel with
  | zero => simp at hfuel
  | succ fuel =>
    rw [tokensWithin, if_pos hc]
    exact h fuel (by simpa using hfuel)

theorem Scans.token {rest : List Char} {ts : List Token} (h : Scans rest ts) {c : Char} {cs : List Char} {t : Token}
    (hc : isSpace c = false) (ht : token? (c :: cs ++ rest) = some (t, rest)) : Scans (c :: cs ++ rest) (t :: ts) := by
  intro fuel hfuel
  cases fuel with
  | zero => simp at hfuel
  | succ fuel =>
    have hrest : rest.length ≤ fuel := by
      simp only [List.cons_append, List.length_cons, List.length_append] at hfuel
      omega
    rw [List.cons_append] at ht ⊢
    rw [tokensWithin, hc, if_neg Bool.false_ne_true, ht]
    simp [h fuel hrest]

theorem Scans.mark {rest : List Char} {ts : List Token} (h : Scans rest ts) {c : Char} {t : Token}
    (hc : isSpace c = false) (ht : ∀ rest, token? (c :: rest) = some (t, rest)) : Scans (c :: rest) (t :: ts) :=
  @Scans.token rest ts h c [] t hc (ht rest)

theorem Scans.spaces {cs : List Char} {ts : List Token} (h : Scans cs ts) (n : Nat) :
    Scans (List.replicate n ' ' ++ cs) ts := by
  induction n with
  | zero => exact h
  | succ n ih => exact ih.space rfl

theorem Scans.lineBreak {cs : List Char} {ts : List Token} (h : Scans cs ts) (layout : Layout) (level : Nat) :
    Scans (Json.lineBreak layout level ++ cs) ts := by
  cases layout with
  | compact => exact h
  | indented => exact (h.spaces (2 * level)).space rfl

/-! ### Texts -/

theorem unit_hexDigits : ∀ n < 0x20, unit? '0' '0' (hexDigit (n / 16)) (hexDigit (n % 16)) = some n := by
  decide

/-- An escape of four digits stands for its character, if that is no half of a pair, whatever escape is next. -/
theorem textBody_unit {a b c d : Char} {u : Nat} (hunit : unit? a b c d = some u) (hhigh : isHighHalf u = false)
    (hlow : isLowHalf u = false) (rest : List Char) :
    textBody ('\\' :: 'u' :: a :: b :: c :: d :: rest) = putChar (Char.ofNat u) (textBody rest) := by
  by_cases hnext : ∃ e f g h cs, rest = '\\' :: 'u' :: e :: f :: g :: h :: cs
  · obtain ⟨e, f, g, h, cs, rfl⟩ := hnext
    rw [textBody, hunit]
    simp [hhigh, hlow]
  · rw [textBody, hunit]
    · simp [hhigh, hlow]
    · intro e f g h cs hrest
      exact hnext ⟨e, f, g, h, cs, hrest⟩

theorem textBody_control {c : Char} (hc : c.toNat < 0x20) (rest : List Char) :
    textBody (['\\', 'u', '0', '0', hexDigit (c.toNat / 16), hexDigit (c.toNat % 16)] ++ rest) =
      putChar c (textBody rest) := by
  have hhigh : isHighHalf c.toNat = false := by
    simp only [isHighHalf, Bool.and_eq_false_iff, decide_eq_false_iff_not]
    omega
  have hlow : isLowHalf c.toNat = false := by
    simp only [isLowHalf, Bool.and_eq_false_iff, decide_eq_false_iff_not]
    omega
  have hunit := textBody_unit (unit_hexDigits c.toNat hc) hhigh hlow rest
  rwa [Char.ofNat_toNat] at hunit

theorem textBody_short {c e : Char} (h : shortEscape? e = some c) (rest : List Char) :
    textBody ('\\' :: e :: rest) = putChar c (textBody rest) := by
  have hunit : e ≠ 'u' := by
    rintro rfl
    cases h
  rw [textBody, h]
  all_goals simp [hunit]

theorem textBody_escaped (c : Char) (rest : List Char) :
    textBody (escaped c ++ rest) = putChar c (textBody rest) := by
  unfold escaped
  -- Seven characters have an escape of one letter.
  iterate 7
    split
    · subst c
      exact textBody_short rfl rest
  split
  · next hc => exact textBody_control hc rest
  · next hquote hslash _ _ _ _ _ hplain =>
    rw [List.singleton_append, textBody]
    · exact if_neg hplain
    all_goals simp [hquote, hslash]

theorem textBody_quoted (cs rest : List Char) :
    textBody (cs.flatMap escaped ++ '"' :: rest) = some (some cs, rest) := by
  induction cs with
  | nil => simp [textBody]
  | cons c cs ih =>
    rw [List.flatMap_cons, List.append_assoc, textBody_escaped, ih]
    rfl

theorem Scans.text {rest : List Char} {ts : List Token} (h : Scans rest ts) (s : String) :
    Scans (quotedText (some s) ++ rest) (.text (some s) :: ts) := by
  have htoken (cs : List Char) : token? ('"' :: cs) = (textBody cs).map fun r => (.text (r.1.map String.ofList), r.2) :=
    rfl
  have hquoted : quotedText (some s) = '"' :: (s.toList.flatMap escaped ++ ['"']) := rfl
  rw [hquoted]
  refine h.token rfl ?_
  rw [List.cons_append, List.append_assoc, List.singleton_append, htoken, textBody_quoted]
  simp

/-! ### Integers -/

/-- Whether a list is empty or starts with a character that no number goes on with. -/
def EndsNumber (rest : List Char) : Prop :=
  ∀ c ∈ rest.head?, Text.isDigit c = false ∧ c ≠ '.' ∧ c ≠ 'e' ∧ c ≠ 'E'

theorem digits_natDigits (n : Nat) {rest : List Char} (h : EndsNumber rest) :
    digits? (Text.natDigits n ++ rest) = some (Text.natDigits n, rest) := by
  have hdigits : ∀ c ∈ Text.natDigits n, Text.isDigit c = true := fun c hc => Text.isDigit_of_mem_natDigits hc
  have hrest : rest.takeWhile Text.isDigit = [] ∧ rest.dropWhile Text.isDigit = rest := by
    cases rest with
    | nil => exact ⟨rfl, rfl⟩
    | cons c cs => simp [(h c rfl).1]
  rw [digits?, List.span_eq_takeWhile_dropWhile, List.takeWhile_append_of_pos hdigits,
    List.dropWhile_append_of_pos hdigits, hrest.1, hrest.2, List.append_nil]
  simp [Text.natDigits_ne_nil]

theorem fraction_none {rest : List Char} (h : EndsNumber rest) : fraction? rest = some ([], rest) := by
  unfold fraction?
  split
  · exact absurd rfl (h _ rfl).2.1
  · rfl

theorem exponent_none {rest : List Char} (h : EndsNumber rest) : exponent? rest = some ([], rest) := by
  cases rest with
  | nil => rfl
  | cons c cs =>
    obtain ⟨-, -, hsmall, hlarge⟩ := h c rfl
    unfold exponent?
    exact if_neg (not_or.mpr ⟨hsmall, hlarge⟩)

theorem unsigned_natDigits (negative : Bool) {n : Nat} (hword : isWord (if negative then -(n : Int) else n) = true)
    (hzero : negative = true → 0 < n) {rest : List Char} (h : EndsNumber rest) :
    unsigned? negative (Text.natDigits n ++ rest) =
      some (.integer (if negative then -(n : Int) else n), rest) := by
  have hlead : ((Text.natDigits n).head? == some '0' && (Text.natDigits n).length != 1) = false := by
    obtain rfl | hn := Nat.eq_zero_or_pos n
    · decide
    · rw [beq_eq_false_iff_ne.mpr (Text.head_natDigits hn), Bool.false_and]
  have hsign : (negative && (if negative then -(n : Int) else n) == 0) = false := by
    cases negative with
    | false => rfl
    | true =>
      have hpos := hzero rfl
      simp only [if_true, Bool.true_and, beq_eq_false_iff_ne]
      omega
  rw [unsigned?, digits_natDigits n h]
  simp only [Option.bind_eq_bind, Option.bind_some, hlead, Bool.false_eq_true, if_false, fraction_none h, exponent_none h,
    List.isEmpty_nil, Bool.true_and, Text.ofDigitChars_natDigits, hword, hsign, Bool.not_false, if_true]

theorem token_digit {d : Char} (hd : Text.isDigit d = true) (cs : List Char) :
    token? (d :: cs) = unsigned? false (d :: cs) := by
  unfold token?
  split <;> first
    | rfl
    | next heq => exact absurd ((List.cons.inj heq).1 ▸ hd) (by decide)

theorem isSpace_digit {d : Char} (hd : Text.isDigit d = true) : isSpace d = false := by
  rw [Bool.eq_false_iff]
  intro hspace
  simp only [isSpace, Bool.or_eq_true, beq_iff_eq] at hspace
  obtain ((rfl | rfl) | rfl) | rfl := hspace <;> exact absurd hd (by decide)

theorem Scans.integer {rest : List Char} {ts : List Token} (h : Scans rest ts) (hrest : EndsNumber rest) {n : Int}
    (hn : isWord n = true) : Scans ((Text.ofInt n).toList ++ rest) (.integer n :: ts) := by
  rw [Text.ofInt, String.toList_ofList]
  by_cases hnegative : n < 0
  · have habs : -(n.natAbs : Int) = n := by omega
    have hdigits := unsigned_natDigits true (n := n.natAbs) (by rwa [if_pos rfl, habs]) (fun _ => by omega) hrest
    have hminus (cs : List Char) : token? ('-' :: cs) = unsigned? true cs := rfl
    rw [if_pos hnegative]
    refine h.token rfl ?_
    rw [List.cons_append, hminus, hdigits, if_pos rfl, habs]
  · have habs : (n.natAbs : Int) = n := by omega
    have hdigits := unsigned_natDigits false (n := n.natAbs) (by rwa [if_neg Bool.false_ne_true, habs])
      (fun hfalse => absurd hfalse Bool.false_ne_true) hrest
    obtain ⟨d, ds, hds⟩ := List.exists_cons_of_ne_nil (Text.natDigits_ne_nil n.natAbs)
    have hd : Text.isDigit d = true := Text.isDigit_of_mem_natDigits (n := n.natAbs) (by simp [hds])
    rw [hds] at hdigits
    rw [if_neg hnegative, hds]
    refine h.token (isSpace_digit hd) ?_
    rw [List.cons_append] at hdigits ⊢
    rw [token_digit hd, hdigits, if_neg Bool.false_ne_true, habs]

end AuditSearch.Json
