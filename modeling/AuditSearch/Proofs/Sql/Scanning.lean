import AuditSearch.Literal
import AuditSearch.Proofs.Text.Numeral
import AuditSearch.Sql.Token
import Mathlib

/-!
Reading tokens off the start of a text. A piece of text gives its tokens whatever stands behind it, as far as
the character behind it ends a word.
-/
namespace AuditSearch.Sql

/-- A piece of text is read as these tokens in front of `rest`; the parameters met before are `p`, and `q`
behind it. It starts with no space, and takes no more steps than it has characters. -/
structure Scans (p q : ParamNames) (cs : List Char) (ts : List Token) (rest : List Char) : Prop where
  start : ∃ c ds, cs = c :: ds ∧ isSpace c = false
  steps : ∃ n ≤ cs.length, ∀ fuel, tokensWithin (n + fuel) p (cs ++ rest) =
    (tokensWithin fuel q rest).map fun (us, count) => (ts ++ us, count)

/-- Whether a list is empty or starts with a character that ends words, numbers and quotes. -/
def EndsWord (rest : List Char) : Prop :=
  ∀ c ∈ rest.head?, c = ' ' ∨ c = ')' ∨ c = ','

namespace Scans
variable {p q r : ParamNames} {cs ds rest : List Char} {ts us : List Token}

theorem append (h : Scans p q cs ts (ds ++ rest)) (h' : Scans q r ds us rest) :
    Scans p r (cs ++ ds) (ts ++ us) rest := by
  obtain ⟨c, cs', hc, hs⟩ := h.start
  obtain ⟨n, hn, hsteps⟩ := h.steps
  obtain ⟨m, hm, hsteps'⟩ := h'.steps
  refine ⟨⟨c, cs' ++ ds, by simp [hc], hs⟩, n + m, by simp; omega, fun fuel => ?_⟩
  rw [Nat.add_assoc, List.append_assoc, hsteps, hsteps', Option.map_map]
  simp [Function.comp_def]

theorem spaced (h : Scans p q cs ts (' ' :: (ds ++ rest))) (h' : Scans q r ds us rest) :
    Scans p r (cs ++ ' ' :: ds) (ts ++ us) rest := by
  obtain ⟨c, cs', hc, hs⟩ := h.start
  obtain ⟨d, ds', hd, hs'⟩ := h'.start
  obtain ⟨n, hn, hsteps⟩ := h.steps
  obtain ⟨m, hm, hsteps'⟩ := h'.steps
  refine ⟨⟨c, cs' ++ ' ' :: ds, by simp [hc], hs⟩, n + (m + 1), by simp; omega, fun fuel => ?_⟩
  have hspace : tokensWithin (m + 1 + fuel) q (' ' :: (ds ++ rest)) = tokensWithin (m + fuel) q (ds ++ rest) := by
    rw [show m + 1 + fuel = m + fuel + 1 by omega, tokensWithin]
    have h1 : isSpace ' ' = true := by decide
    simp [startsSpaces, hd, h1, hs']
  rw [Nat.add_assoc, List.append_assoc, List.cons_append, hsteps, hspace, hsteps', Option.map_map]
  simp [Function.comp_def]

theorem tokensWithin_eq (h : Scans p q cs ts []) : tokensWithin cs.length p cs = some (ts, q.count) := by
  obtain ⟨n, hn, hsteps⟩ := h.steps
  have := hsteps (cs.length - n)
  rw [List.append_nil, Nat.add_sub_cancel' hn] at this
  rw [this]
  cases cs.length - n <;> simp [tokensWithin]

theorem ofToken {t : Token} {c : Char} (hs : startsSpaces c = false ∧ isSpace c = false)
    (hc : c ≠ ';' ∧ c ≠ '\x00') (hcomment : afterComment? (c :: (cs ++ rest)) = none)
    (h : token? p (c :: cs ++ rest) = some (t, rest, q)) : Scans p q (c :: cs) [t] rest := by
  refine ⟨⟨c, cs, rfl, hs.2⟩, 1, by simp, fun fuel => ?_⟩
  rw [Nat.add_comm, List.cons_append, tokensWithin, hcomment]
  rw [List.cons_append] at h
  simp [hs.1, hc, h]
  cases tokensWithin fuel q rest <;> simp

end Scans

/-! ### Single tokens -/

section
variable {p : ParamNames} {rest : List Char}

theorem afterComment_cons {c : Char} (hc : c ≠ '-' ∧ c ≠ '/') (cs : List Char) : afterComment? (c :: cs) = none := by
  unfold afterComment?
  split <;> simp_all

theorem startsBlob_cons {c : Char} (hc : c ≠ 'x' ∧ c ≠ 'X') (cs : List Char) : startsBlob (c :: cs) = false := by
  unfold startsBlob
  split <;> simp_all

/-- A sign that no longer sign starts with. -/
theorem scans_sign {c : Char} {t : Token} (hs : startsSpaces c = false ∧ isSpace c = false)
    (hc : c ≠ ';' ∧ c ≠ '\x00') (hcomment : c ≠ '-' ∧ c ≠ '/') (hx : c ≠ 'x' ∧ c ≠ 'X')
    (hkind : isQuote c = false ∧ Text.isDigit c = false ∧ c ≠ '.' ∧ isNameStart c = false ∧ isSigil c = false)
    {cs : List Char} (h : signToken? (c :: (cs ++ rest)) = some (t, rest)) : Scans p p (c :: cs) [t] rest := by
  apply Scans.ofToken hs hc (afterComment_cons hcomment _)
  have hnum : startsNumber (c :: (cs ++ rest)) = false := by
    unfold startsNumber
    split <;> simp_all
  simp [token?, hkind, startsBlob_cons hx, hnum, h]

theorem scans_leftParen : Scans p p ['('] [.leftParen] rest :=
  scans_sign (by decide) (by decide) (by decide) (by decide) (by decide) rfl

theorem scans_rightParen : Scans p p [')'] [.rightParen] rest :=
  scans_sign (by decide) (by decide) (by decide) (by decide) (by decide) rfl

theorem scans_comma : Scans p p [','] [.comma] rest :=
  scans_sign (by decide) (by decide) (by decide) (by decide) (by decide) rfl

theorem scans_concat : Scans p p ['|', '|'] [.concat] rest :=
  scans_sign (by decide) (by decide) (by decide) (by decide) (by decide) rfl

theorem scans_atMost : Scans p p ['<', '='] [.atMost] rest :=
  scans_sign (by decide) (by decide) (by decide) (by decide) (by decide) rfl

theorem scans_atLeast : Scans p p ['>', '='] [.atLeast] rest :=
  scans_sign (by decide) (by decide) (by decide) (by decide) (by decide) rfl

theorem scans_equal (h : EndsWord rest) : Scans p p ['='] [.equal] rest := by
  refine scans_sign (by decide) (by decide) (by decide) (by decide) (by decide) ?_
  cases rest with
  | nil => rfl
  | cons c cs => obtain rfl | rfl | rfl := h c (by simp) <;> rfl

theorem endsWord_takes {f : Char → Bool} (hf : f ' ' = false ∧ f ')' = false ∧ f ',' = false)
    (h : EndsWord rest) {cs : List Char} (hcs : cs.all f) :
    (cs ++ rest).takeWhile f = cs ∧ (cs ++ rest).dropWhile f = rest := by
  have hall : ∀ c ∈ cs, f c = true := by simpa using hcs
  have hrest : rest.takeWhile f = [] ∧ rest.dropWhile f = rest := by
    cases rest with
    | nil => exact ⟨rfl, rfl⟩
    | cons c cs => obtain rfl | rfl | rfl := h c (by simp) <;> simp [hf]
  rw [List.takeWhile_append_of_pos hall, List.dropWhile_append_of_pos hall, hrest.1, hrest.2, List.append_nil]
  exact ⟨rfl, rfl⟩

theorem scans_word {c : Char} {cs : List Char} (hc : isNameStart c = true) (hcs : (c :: cs).all isNameChar)
    (hkind : startsSpaces c = false ∧ isSpace c = false ∧ isQuote c = false ∧ Text.isDigit c = false)
    (h : EndsWord rest) : Scans p p (c :: cs) [wordToken (c :: cs)] rest := by
  have hne : ∀ d : Char, isNameStart d = false → c ≠ d := fun d hd he => by simp [← he, hc] at hd
  refine Scans.ofToken ⟨hkind.1, hkind.2.1⟩ ⟨hne _ (by decide), hne _ (by decide)⟩
    (afterComment_cons ⟨hne _ (by decide), hne _ (by decide)⟩ _) ?_
  have hblob : startsBlob (c :: cs ++ rest) = false := by
    unfold startsBlob
    split
    next x ds heq =>
      cases cs with
      | nil =>
        obtain ⟨rfl, hrest⟩ := List.cons.inj heq
        have := h '\'' (by simp at hrest; simp [hrest])
        simp at this
      | cons d cs =>
        simp only [List.cons_append, List.cons.injEq] at heq
        simp [heq, show isNameChar '\'' = false by decide] at hcs
    next => rfl
  have hnum : startsNumber (c :: cs ++ rest) = false := by
    unfold startsNumber
    have := hne '.' (by decide)
    split <;> simp_all
  have hspan := endsWord_takes (by decide) h hcs
  simp only [List.cons_append] at hspan hblob hnum
  simp [token?, hkind, hblob, hnum, hc, hspan]

theorem scans_param (h : EndsWord rest) (hp : p.count < ParamNames.maxCount) :
    Scans p { p with count := p.count + 1 } ['?'] [.param p.count] rest := by
  apply Scans.ofToken (by decide) (by decide) (afterComment_cons (by decide) _)
  have hspan : ([] ++ rest).takeWhile Text.isDigit = [] ∧ ([] ++ rest).dropWhile Text.isDigit = rest :=
    endsWord_takes (by decide) h rfl
  have hnum : startsNumber ('?' :: rest) = false := by
    unfold startsNumber
    split <;> simp_all
    rename_i he
    simp [← he.1, show Text.isDigit '?' = false by decide]
  simp only [List.nil_append] at hspan
  simp [token?, startsBlob_cons, hnum, show isQuote '?' = false by decide, show isNameStart '?' = false by decide,
    show isSigil '?' = true by decide, param?, hspan, ParamNames.next?, hp]

/-- A quote inside a text is written twice. -/
def doubled (c : Char) : List Char :=
  if c = '\'' then [c, c] else [c]

theorem quotedBody_doubled (h : EndsWord rest) (s : List Char) :
    quotedBody? '\'' (s.flatMap doubled ++ '\'' :: rest) = some (s, rest) := by
  induction s with
  | nil =>
    cases rest with
    | nil => rfl
    | cons d ds => obtain rfl | rfl | rfl := h d (by simp) <;> simp [quotedBody?]
  | cons c s ih =>
    by_cases hc : c = '\''
    · simp [doubled, hc, quotedBody?, ih]
    · obtain ⟨d, ds, hd⟩ : ∃ d ds, s.flatMap doubled ++ '\'' :: rest = d :: ds := by
        cases s.flatMap doubled <;> simp
      rw [hd] at ih
      have hcons : (c :: s).flatMap doubled ++ '\'' :: rest = c :: d :: ds := by simp [doubled, hc, hd]
      rw [hcons]
      simp [quotedBody?, hc, ih]

theorem scans_text (h : EndsWord rest) (s : String) :
    Scans p p (Literal.text s).quoted.toList [.text s] rest := by
  have hbody := quotedBody_doubled h s.toList
  have hq : (Literal.text s).quoted.toList = '\'' :: (s.toList.flatMap doubled ++ ['\'']) := by
    simp only [Literal.quoted, String.toList_ofList, List.cons_append]
    rfl
  rw [hq]
  apply Scans.ofToken (by decide) (by decide) (afterComment_cons (by decide) _)
  simp [token?, quotedToken?, hbody, show isQuote '\'' = true by decide]

end

/-! ### Numbers -/

section
variable {p : ParamNames} {rest ds : List Char}

theorem isDigitOrMark_of_isDigit {c : Char} (h : Text.isDigit c = true) : isDigitOrMark Text.isDigit c = true := by
  simp [isDigitOrMark, h]

theorem plainDigits_eq (hds : ∀ d ∈ ds, Text.isDigit d = true) : plainDigits? Text.isDigit ds = some ds := by
  have hmark : ∀ d ∈ ds, d ≠ '_' := fun d hd he => by
    have := hds d hd
    simp [he, show Text.isDigit '_' = false by decide] at this
  induction ds with
  | nil => rfl
  | cons d ds ih =>
    have ih := ih (fun d hd => hds d (by simp [hd])) fun d hd => hmark d (by simp [hd])
    unfold plainDigits?
    split <;> simp_all

theorem spanNumber_eq (h : EndsWord rest) (hds : ∀ d ∈ ds, Text.isDigit d = true) :
    spanNumber (ds ++ rest) = (ds, rest) := by
  have hmark : ds.all (isDigitOrMark Text.isDigit) := by
    simpa using fun d hd => isDigitOrMark_of_isDigit (hds d hd)
  have hspan := endsWord_takes (by decide) h hmark
  have hexp : spanExponent rest = ([], rest) := by
    unfold spanExponent
    split
    next e s d tail => obtain rfl | rfl | rfl := h e (by simp) <;> simp
    next e s => obtain rfl | rfl | rfl := h e (by simp) <;> simp
    next => rfl
  unfold spanNumber
  simp only [List.span_eq_takeWhile_dropWhile, hspan]
  cases rest with
  | nil => simp [spanExponent]
  | cons c cs => obtain rfl | rfl | rfl := h c (by simp) <;> simp [hexp]

theorem number_eq (h : EndsWord rest) (hne : ds ≠ []) (hds : ∀ d ∈ ds, Text.isDigit d = true) :
    number (ds ++ rest) = some (decimalToken ds, rest) := by
  have hdecimal : number.decimal (ds ++ rest) = some (decimalToken ds, rest) := by
    have hhead : (rest.head?.map isNameChar).getD false = false := by
      cases rest with
      | nil => rfl
      | cons c cs => obtain rfl | rfl | rfl := h c (by simp) <;> simp <;> decide
    simp [number.decimal, spanNumber_eq h hds, hhead, plainDigits_eq hds]
  unfold number
  split
  next x d cs heq =>
    have hx : x ≠ 'x' ∧ x ≠ 'X' := by
      obtain ⟨e, es, rfl⟩ := List.exists_cons_of_ne_nil hne
      cases es with
      | nil =>
        obtain rfl | rfl | rfl := h x (by simp at heq; simp [heq]) <;> decide
      | cons e' es =>
        obtain rfl : e' = x := by simp at heq; exact heq.2.1
        have := hds e' (by simp)
        constructor <;> rintro rfl <;> simp [show Text.isDigit 'x' = false by decide, show Text.isDigit 'X' = false by decide] at this
    simp [hx, ← heq, hdecimal]
  next => exact hdecimal

theorem wholeNumber_natDigits {n : Nat} (hn : n ≤ leastMagnitude) : wholeNumber (Text.natDigits n) = n := by
  have hlen : (Text.natDigits n).length ≤ 20 :=
    (Nat.length_toDigits_le_iff (by decide) (by decide)).mpr (by simp [leastMagnitude] at hn; omega)
  have hdrop : ((Text.natDigits n).dropWhile (· == '0')).length ≤ 20 :=
    Nat.le_trans (List.dropWhile_sublist _).length_le hlen
  simp [wholeNumber, List.drop_eq_nil_of_le hdrop, Text.ofDigitChars_dropWhile, Text.ofDigitChars_natDigits]

theorem parts_eq (hds : ∀ d ∈ ds, Text.isDigit d = true) : Decimal.parts ds = (⟨ds, false, [], none⟩, []) := by
  obtain ⟨htake, hdrop⟩ : (ds ++ []).takeWhile Text.isDigit = ds ∧ (ds ++ []).dropWhile Text.isDigit = [] :=
    endsWord_takes (by decide) (by simp [EndsWord]) (by simpa using hds)
  rw [List.append_nil] at htake hdrop
  simp [Decimal.parts, htake, hdrop, Decimal.fractionOf, Decimal.exponentOf]

theorem scans_natural (h : EndsWord rest) {n : Nat} (hn : n ≤ leastMagnitude) :
    Scans p p (Text.natDigits n) [.integer n] rest := by
  have hds : ∀ d ∈ Text.natDigits n, Text.isDigit d = true := fun d => Text.isDigit_of_mem_natDigits
  have hnumber := number_eq h (Text.natDigits_ne_nil n) hds
  have htoken : decimalToken (Text.natDigits n) = .integer n := by
    simp [decimalToken, parts_eq hds, Decimal.Parts.isWhole, wholeNumber_natDigits hn, hn]
  obtain ⟨d, ds, hcons⟩ := List.exists_cons_of_ne_nil (Text.natDigits_ne_nil n)
  have hd : Text.isDigit d = true := hds d (by simp [hcons])
  have hne : ∀ e : Char, Text.isDigit e = false → d ≠ e := fun e he heq => by simp [← heq, hd] at he
  rw [htoken, hcons] at hnumber
  rw [List.cons_append] at hnumber
  rw [hcons]
  have hspace : isSpace d = false := by
    have := Text.toNat_of_isDigit hd
    simp [isSpace, hne _ (show Text.isDigit ' ' = false by decide)]
    omega
  have hspaces : startsSpaces d = false := by
    simp [startsSpaces, hspace, hne _ (show Text.isDigit '\uFEFF' = false by decide)]
  apply Scans.ofToken ⟨hspaces, hspace⟩ ⟨hne _ (by decide), hne _ (by decide)⟩
    (afterComment_cons ⟨hne _ (by decide), hne _ (by decide)⟩ _)
  have hquote : isQuote d = false := by
    simp [isQuote, hne _ (show Text.isDigit '\'' = false by decide), hne _ (show Text.isDigit '"' = false by decide),
      hne _ (show Text.isDigit '\x60' = false by decide), hne _ (show Text.isDigit '[' = false by decide)]
  have hnum : startsNumber (d :: (ds ++ rest)) = true := by
    unfold startsNumber
    have := hne '.' (by decide)
    split <;> simp_all
  have hblob := startsBlob_cons ⟨hne _ (by decide), hne _ (by decide)⟩ (ds ++ rest) (c := d)
  simp [token?, hquote, hblob, hnum, hnumber]

theorem scans_minus {d : Char} (hd : Text.isDigit d = true) : Scans p p ['-'] [.minus] (d :: rest) := by
  have hne : ∀ e : Char, Text.isDigit e = false → d ≠ e := fun e he heq => by simp [← heq, hd] at he
  have hcomment : afterComment? ('-' :: ([] ++ d :: rest)) = none := by
    have := hne '-' (by decide)
    unfold afterComment?
    split <;> simp_all
  have hsign : signToken? ('-' :: d :: rest) = some (.minus, d :: rest) := by
    have := hne '>' (by decide)
    unfold signToken?
    split <;> simp_all
  apply Scans.ofToken (by decide) (by decide) hcomment
  have hblob := startsBlob_cons (by decide) (d :: rest) (c := '-')
  simp [token?, isQuote, isSigil, hblob, startsNumber, hsign, show Text.isDigit '-' = false by decide,
    show isNameStart '-' = false by decide]

def integerTokens (n : Int64) : List Token :=
  if n.toInt < 0 then [.minus, .integer n.toInt.natAbs] else [.integer n.toInt.natAbs]

theorem scans_integer (h : EndsWord rest) (n : Int64) :
    Scans p p (Literal.integer n).quoted.toList (integerTokens n) rest := by
  have hn : n.toInt.natAbs ≤ leastMagnitude := by
    have hlow := n.le_toInt
    have hhigh := n.toInt_lt
    simp [leastMagnitude]
    omega
  have hdigits : ∀ p, Scans p p (Text.natDigits n.toInt.natAbs) [.integer n.toInt.natAbs] rest :=
    fun p => scans_natural h hn
  simp only [Literal.quoted, Text.ofInt, integerTokens, String.toList_ofList]
  split
  · obtain ⟨d, ds, hcons⟩ := List.exists_cons_of_ne_nil (Text.natDigits_ne_nil n.toInt.natAbs)
    have hd : Text.isDigit d = true := Text.isDigit_of_mem_natDigits (n := n.toInt.natAbs) (by simp [hcons])
    have hminus : Scans p p ['-'] [.minus] (Text.natDigits n.toInt.natAbs ++ rest) := by
      rw [hcons]
      exact scans_minus hd
    exact hminus.append (hdigits p)
  · exact hdigits p

end

end AuditSearch.Sql
