import AuditSearch.Sql.Function.Text
import Mathlib

/-!
The bytes of the characters of a text, which are taken apart into those of one character each, and the characters
that patterns see in them.
-/
namespace AuditSearch.Text

theorem bytesOf_eq (s : String) : bytesOf s = s.toList.flatMap String.utf8EncodeChar := by
  have : s.toUTF8 = s.toList.utf8Encode := by
    conv => lhs; rw [← String.ofList_toList (s := s)]
    simp
  rw [bytesOf, this]
  simp [List.utf8Encode]

theorem bytesOf_append (s t : String) : bytesOf (s ++ t) = bytesOf s ++ bytesOf t := by
  simp [bytesOf_eq]

theorem length_bytesOf (s : String) : (bytesOf s).length = s.utf8ByteSize := by
  simp [bytesOf]

theorem toArray_bytesOf (s : String) : (⟨(bytesOf s).toArray⟩ : ByteArray) = s.toUTF8 := by
  simp [bytesOf]

theorem bytesOf_inj {s t : String} : bytesOf s = bytesOf t ↔ s = t := by
  refine ⟨fun h => ?_, fun h => h ▸ rfl⟩
  have := congrArg (fun bytes : List UInt8 => (⟨bytes.toArray⟩ : ByteArray)) h
  simp only [toArray_bytesOf] at this
  exact String.toByteArray_inj.mp this

/-- The bytes of a text are those of it alone. -/
theorem ofBytes_bytesOf (s : String) : ofBytes? (bytesOf s) = some s := by
  rw [ofBytes?, toArray_bytesOf, String.toUTF8_eq_toByteArray, String.fromUTF8?, dif_pos s.isValidUTF8]
  rfl

/-- The bytes of a character: one that does not go on, and behind it those that do. -/
structure IsLetter (b : UInt8) (bs : List UInt8) (c : Char) : Prop where
  starts : goesOn b = false
  continues : ∀ d ∈ bs, goesOn d = true
  isLong : startsLong b = decide (bs ≠ [])
  code : rawCode (b :: bs) = c.val
  large : startsLong b = true → 0x80 ≤ c.val.toNat
  notZero : c ≠ '\x00' → ∀ d ∈ b :: bs, d ≠ 0

theorem lowByte {n : Nat} (h : n < 128) : startsLong (UInt8.ofNat n) = false ∧ goesOn (UInt8.ofNat n) = false ∧
    (UInt8.ofNat n).toUInt32 = UInt32.ofNat n ∧ (n ≠ 0 → UInt8.ofNat n ≠ 0) := by
  revert n
  decide

theorem furtherByte {n : Nat} (h : n < 64) : goesOn (UInt8.ofNat (n + 0x80)) = true ∧
    ((UInt8.ofNat (n + 0x80)) &&& 0x3F).toUInt32 = UInt32.ofNat n ∧ UInt8.ofNat (n + 0x80) ≠ 0 := by
  revert n
  decide

theorem firstOfTwo {n : Nat} (h : n < 32) : startsLong (UInt8.ofNat (n + 0xC0)) = true ∧
    goesOn (UInt8.ofNat (n + 0xC0)) = false ∧ startBits (UInt8.ofNat (n + 0xC0)) = UInt32.ofNat n ∧
    UInt8.ofNat (n + 0xC0) ≠ 0 := by
  revert n
  decide

theorem firstOfThree {n : Nat} (h : n < 16) : startsLong (UInt8.ofNat (n + 0xE0)) = true ∧
    goesOn (UInt8.ofNat (n + 0xE0)) = false ∧ startBits (UInt8.ofNat (n + 0xE0)) = UInt32.ofNat n ∧
    UInt8.ofNat (n + 0xE0) ≠ 0 := by
  revert n
  decide

theorem firstOfFour {n : Nat} (h : n < 8) : startsLong (UInt8.ofNat (n + 0xF0)) = true ∧
    goesOn (UInt8.ofNat (n + 0xF0)) = false ∧ startBits (UInt8.ofNat (n + 0xF0)) = UInt32.ofNat n ∧
    UInt8.ofNat (n + 0xF0) ≠ 0 := by
  revert n
  decide

theorem isLetter_long {b : UInt8} {bs : List UInt8} {c : Char}
    (hfirst : startsLong b = true ∧ goesOn b = false ∧ b ≠ 0) (hne : bs ≠ [])
    (hmore : ∀ d ∈ bs, goesOn d = true ∧ d ≠ 0) (hlarge : 0x80 ≤ c.val.toNat)
    (hcode : bs.foldl (fun (code : UInt32) b => (code <<< 6) + (b &&& 0x3F).toUInt32) (startBits b) = c.val) :
    IsLetter b bs c where
  starts := hfirst.2.1
  continues d hd := (hmore d hd).1
  isLong := by simp [hfirst, hne]
  code := by rw [rawCode, if_pos hfirst.1, hcode]
  large _ := hlarge
  notZero _ d hd := by
    obtain rfl | hd := List.mem_cons.mp hd
    · exact hfirst.2.2
    · exact (hmore d hd).2

theorem isLetter_encoded (c : Char) : ∃ b bs, String.utf8EncodeChar c = b :: bs ∧ IsLetter b bs c := by
  obtain ⟨n, hn⟩ : ∃ n, c.val.toNat = n := ⟨_, rfl⟩
  have hval : c.val = UInt32.ofNat n := by rw [← hn, UInt32.ofNat_toNat]
  have hsize : n < 0x110000 := by
    have := c.valid
    simp only [UInt32.isValidChar, Nat.isValidChar] at this
    omega
  unfold String.utf8EncodeChar
  simp only [hn]
  -- One byte to four, by the size of the code. Each further byte has six bits of it.
  split
  · obtain ⟨hlong, hgoes, hcode, hne⟩ := lowByte (n := n) (by omega)
    refine ⟨_, _, rfl, hgoes, by simp, by simp [hlong], by simp [rawCode, hlong, hcode, hval],
      by simp [hlong], fun hc => ?_⟩
    simpa using hne fun h0 => hc (Char.toNat_inj.mp (by simpa [Char.toNat, hn] using h0))
  split
  · obtain ⟨hlong, hgoes, hcode, hne⟩ := firstOfTwo (n := n / 64 % 32) (by omega)
    obtain ⟨hgoes₁, hcode₁, hne₁⟩ := furtherByte (n := n % 64) (by omega)
    refine ⟨_, _, rfl, isLetter_long ⟨hlong, hgoes, hne⟩ (by simp)
      (List.forall_mem_singleton.mpr ⟨hgoes₁, hne₁⟩) (by omega) ?_⟩
    simp only [List.foldl_cons, List.foldl_nil, hcode, hcode₁, hval]
    rw [← UInt32.toNat_inj]
    simp [Nat.shiftLeft_eq]
    omega
  split
  · obtain ⟨hlong, hgoes, hcode, hne⟩ := firstOfThree (n := n / 4096 % 16) (by omega)
    obtain ⟨hgoes₁, hcode₁, hne₁⟩ := furtherByte (n := n / 64 % 64) (by omega)
    obtain ⟨hgoes₂, hcode₂, hne₂⟩ := furtherByte (n := n % 64) (by omega)
    refine ⟨_, _, rfl, isLetter_long ⟨hlong, hgoes, hne⟩ (by simp)
      (List.forall_mem_cons.mpr ⟨⟨hgoes₁, hne₁⟩, List.forall_mem_singleton.mpr ⟨hgoes₂, hne₂⟩⟩) (by omega) ?_⟩
    simp only [List.foldl_cons, List.foldl_nil, hcode, hcode₁, hcode₂, hval]
    rw [← UInt32.toNat_inj]
    simp [Nat.shiftLeft_eq]
    omega
  · obtain ⟨hlong, hgoes, hcode, hne⟩ := firstOfFour (n := n / 262144 % 8) (by omega)
    obtain ⟨hgoes₁, hcode₁, hne₁⟩ := furtherByte (n := n / 4096 % 64) (by omega)
    obtain ⟨hgoes₂, hcode₂, hne₂⟩ := furtherByte (n := n / 64 % 64) (by omega)
    obtain ⟨hgoes₃, hcode₃, hne₃⟩ := furtherByte (n := n % 64) (by omega)
    refine ⟨_, _, rfl, isLetter_long ⟨hlong, hgoes, hne⟩ (by simp)
      (List.forall_mem_cons.mpr ⟨⟨hgoes₁, hne₁⟩, List.forall_mem_cons.mpr ⟨⟨hgoes₂, hne₂⟩,
        List.forall_mem_singleton.mpr ⟨hgoes₃, hne₃⟩⟩⟩) (by omega) ?_⟩
    simp only [List.foldl_cons, List.foldl_nil, hcode, hcode₁, hcode₂, hcode₃, hval]
    rw [← UInt32.toNat_inj]
    simp [Nat.shiftLeft_eq]
    omega

/-! ### Letters -/

theorem foldl_add_letter {b : UInt8} {bs : List UInt8} {c : Char} (h : IsLetter b bs c) (s : Split) :
    (b :: bs).foldl Split.add s = ⟨(b :: bs).reverse :: s.done, startsLong b⟩ := by
  have hmore : ∀ ds : List UInt8, (∀ d ∈ ds, goesOn d = true) → ∀ l ls,
      ds.foldl Split.add ⟨l :: ls, true⟩ = ⟨(ds.reverse ++ l) :: ls, true⟩ := by
    intro ds
    induction ds with
    | nil => intros; rfl
    | cons d ds ih =>
      intro hds l ls
      have hd : goesOn d = true := hds d (by simp)
      simp [Split.add, hd, ih fun e he => hds e (by simp [he])]
  have hstart : s.add b = ⟨[b] :: s.done, startsLong b⟩ := by
    simp [Split.add, h.starts]
  rw [List.foldl_cons, hstart]
  cases bs with
  | nil => rfl
  | cons d ds =>
    have hlong := h.isLong
    simp only [ne_eq, reduceCtorEq, not_false_eq_true, decide_true] at hlong
    rw [hlong, hmore _ h.continues]
    simp

theorem letters_encoded (cs : List Char) :
    letters (cs.flatMap String.utf8EncodeChar) = cs.map String.utf8EncodeChar := by
  have hfold : ∀ s : Split, ((cs.flatMap String.utf8EncodeChar).foldl Split.add s).done =
      ((cs.map String.utf8EncodeChar).map List.reverse).reverse ++ s.done := by
    induction cs with
    | nil => simp
    | cons c cs ih =>
      intro s
      obtain ⟨b, bs, hc, hletter⟩ := isLetter_encoded c
      simp only [List.flatMap_cons, List.foldl_append, List.map_cons, hc, foldl_add_letter hletter, ih]
      simp
  rw [letters, hfold]
  simp [Function.comp_def]

/-- What patterns see of a character: the replacement character for one of the two that are none. -/
def seen (c : Char) : Char :=
  if c = '\uFFFE' ∨ c = '\uFFFF' then '\uFFFD' else c

theorem and_highBits {n : Nat} (w k : Nat) (h : n < 2 ^ (w + k)) : n &&& ((2 ^ w - 1) <<< k) = n / 2 ^ k * 2 ^ k := by
  rw [← Nat.shiftRight_eq_div_pow, ← Nat.shiftLeft_eq]
  apply Nat.eq_of_testBit_eq
  intro i
  simp only [Nat.testBit_and, Nat.testBit_shiftLeft, Nat.testBit_two_pow_sub_one, Nat.testBit_shiftRight]
  by_cases hk : k ≤ i
  · rw [Nat.add_sub_cancel' hk]
    by_cases hi : i - k < w
    · simp [hk, hi]
    · have hbit : n.testBit i = false :=
        Nat.testBit_lt_two_pow (Nat.lt_of_lt_of_le h (Nat.pow_le_pow_right (by decide) (by omega)))
      simp [hbit]
  · simp [hk]

/-- No character is a half of a surrogate pair. -/
theorem isSurrogate_char (c : Char) : (c.val &&& 0xFFFFF800 == 0xD800) = false := by
  have hvalid : c.val.toNat < 55296 ∨ 57343 < c.val.toNat ∧ c.val.toNat < 1114112 := c.valid
  have hmask : (c.val &&& 0xFFFFF800).toNat = c.val.toNat / 2048 * 2048 := by
    rw [UInt32.toNat_and]
    exact and_highBits 21 11 c.val.toNat_lt
  rw [beq_eq_false_iff_ne, ne_eq, ← UInt32.toNat_inj, hmask]
  simp only [UInt32.reduceToNat]
  omega

theorem isNoncharacter_char (c : Char) :
    (c.val &&& 0xFFFFFFFE == 0xFFFE) = decide (c.val.toNat = 0xFFFE ∨ c.val.toNat = 0xFFFF) := by
  have hmask : (c.val &&& 0xFFFFFFFE).toNat = c.val.toNat / 2 * 2 := by
    rw [UInt32.toNat_and]
    exact and_highBits 31 1 c.val.toNat_lt
  rw [Bool.eq_iff_iff, beq_iff_eq, decide_eq_true_iff, ← UInt32.toNat_inj, hmask]
  simp only [UInt32.reduceToNat]
  omega

theorem letterCode_encoded (c : Char) : Char.ofNat (letterCode (String.utf8EncodeChar c)).toNat = seen c := by
  obtain ⟨b, bs, hc, h⟩ := isLetter_encoded c
  have hseen : c = '\uFFFE' ∨ c = '\uFFFF' ↔ c.val.toNat = 0xFFFE ∨ c.val.toNat = 0xFFFF := by
    rw [← Char.toNat_inj, ← Char.toNat_inj]
    exact Iff.rfl
  rw [hc]
  simp only [letterCode, h.code, List.head?_cons, Option.any_some, isSurrogate_char, isNoncharacter_char, Bool.or_false,
    seen, hseen]
  cases hlong : startsLong b with
  | false =>
    have hshort : c.val.toNat < 256 := by
      rw [← h.code, rawCode, if_neg (by simp [hlong])]
      exact b.toNat_lt
    -- A code in one byte is too small for the two that are replaced.
    have hn : ¬(c.val.toNat = 0xFFFE ∨ c.val.toNat = 0xFFFF) := by omega
    simp only [hn, Bool.false_and, Bool.false_eq_true, if_false]
    exact Char.ofNat_toNat c
  | true =>
    have hlarge := h.large hlong
    have hlow : decide (c.val < 0x80) = false := by
      simp only [decide_eq_false_iff_not, UInt32.lt_iff_toNat_lt]
      simp only [UInt32.reduceToNat]
      omega
    by_cases hn : c.val.toNat = 0xFFFE ∨ c.val.toNat = 0xFFFF
    · simp only [hlow, hn, decide_true]
      rfl
    · simp only [hlow, hn, decide_false, Bool.false_or, Bool.and_false, Bool.false_eq_true, if_false]
      exact Char.ofNat_toNat c

theorem readable_bytesOf (s : String) : Sql.Value.readable (bytesOf s) = readable s := by
  have hvisible : Sql.Value.visibleBytes (bytesOf s) =
      (s.toList.takeWhile (· != '\x00')).flatMap String.utf8EncodeChar := by
    rw [bytesOf_eq, Sql.Value.visibleBytes]
    induction s.toList with
    | nil => rfl
    | cons c cs ih =>
      obtain ⟨b, bs, hc, h⟩ := isLetter_encoded c
      by_cases hzero : c = '\x00'
      · subst hzero
        rfl
      · have hbytes : ∀ d ∈ b :: bs, (d != 0) = true := fun d hd => by simpa using h.notZero hzero d hd
        simp only [List.flatMap_cons, hc, List.takeWhile_append_of_pos hbytes, ih]
        simp [hzero, hc]
  rw [Sql.Value.readable, hvisible, letters_encoded, readable]
  simp [Function.comp_def, letterCode_encoded, seen]

end AuditSearch.Text
