import AuditSearch.Sql.Parser.Expression

/-!
Reading of operands and of chains of them. An operand of connectives is read whatever the binding strength is, up
to that of a negation, and a whole expression up to a closing parenthesis or the end.
-/
namespace AuditSearch.Sql

/-- Behind an operand of a connective stands a word for one, a comma, a closing parenthesis or nothing. -/
def EndsOperand (rest : List Token) : Prop :=
  ∀ t ∈ rest.head?, t = .and ∨ t = .or ∨ t = .rightParen ∨ t = .comma

/-- Behind a whole expression stands a closing parenthesis or nothing. -/
def EndsWhole (rest : List Token) : Prop :=
  ∀ t ∈ rest.head?, t = .rightParen

/-- Whether a token starts an operand that is no query. -/
def startsOperand : Token → Bool
  | .name _ | .integer _ | .text _ | .param _ | .minus | .not | .leftParen => true
  | _ => false

/-- Tokens are read as an expression that any connective may go on behind. -/
def IsOperand (ts : List Token) (e : Expr) : Prop :=
  ∃ d ≤ ts.length, ∀ rest, EndsOperand rest → ∀ strength ≤ notStrength, ∀ fuel, 4 * ts.length ≤ fuel →
    expression fuel strength (ts ++ rest) = further (fuel - d) strength e rest

/-- Tokens are read as an expression by themselves. -/
def IsWhole (ts : List Token) (e : Expr) : Prop :=
  ∀ rest, EndsWhole rest → ∀ fuel, 4 * ts.length + 4 ≤ fuel → expression fuel 0 (ts ++ rest) = some (e, rest)

theorem EndsWhole.endsOperand {rest : List Token} (h : EndsWhole rest) : EndsOperand rest :=
  fun t ht => .inr (.inr (.inl (h t ht)))

variable {rest ts : List Token} {e f : Expr}

/-- No operator of greater strength than the connectives goes on behind an operand. -/
theorem further_operand (h : EndsOperand rest) {strength : Nat} (hs : notStrength ≤ strength) (fuel : Nat) (e : Expr) :
    further (fuel + 2) strength e rest = some (e, rest) := by
  have hs : 3 ≤ strength := hs
  cases rest with
  | nil => simp [further]
  | cons t ts =>
    obtain rfl | rfl | rfl | rfl := h t (by simp)
    · simp [further, operator?, show 2 < strength by omega]
    · simp [further, operator?, show 1 < strength by omega]
    · simp [further, operator?, suffix?, isTest?, test, opposite?, patternWord?]
    · simp [further, operator?, suffix?, isTest?, test, opposite?, patternWord?]

theorem further_end (h : ∀ t ∈ rest.head?, t = .rightParen ∨ t = .comma) (strength fuel : Nat) (e : Expr) :
    further (fuel + 2) strength e rest = some (e, rest) := by
  cases rest with
  | nil => simp [further]
  | cons t ts =>
    obtain rfl | rfl := h t (by simp) <;>
      simp [further, operator?, suffix?, isTest?, test, opposite?, patternWord?]

theorem IsOperand.isWhole (h : IsOperand ts e) : IsWhole ts e := by
  intro rest hrest fuel hfuel
  obtain ⟨d, hd, h⟩ := h
  rw [h rest hrest.endsOperand 0 (by decide) fuel (by omega)]
  obtain ⟨n, hn⟩ : ∃ n, fuel - d = n + 2 := ⟨fuel - d - 2, by omega⟩
  rw [hn, further_end fun t ht => .inl (hrest t ht)]

theorem IsOperand.not (h : IsOperand ts e) (hne : ts ≠ []) : IsOperand (.not :: ts) (.not e) := by
  obtain ⟨d, hd, h⟩ := h
  refine ⟨1, by simp, fun rest hrest strength hs fuel hfuel => ?_⟩
  have hpos := List.length_pos_iff.mpr hne
  obtain ⟨n, rfl⟩ : ∃ n, fuel = n + 1 := ⟨fuel - 1, by simp at hfuel; omega⟩
  simp only [List.length_cons] at hfuel
  have hread := h rest hrest notStrength (Nat.le_refl _) n (by omega)
  obtain ⟨m, hm⟩ : ∃ m, n - d = m + 2 := ⟨n - d - 2, by omega⟩
  rw [hm, further_operand hrest (Nat.le_refl _)] at hread
  simp [expression, hread]

/-- An expression in parentheses, if it is no query. -/
theorem IsWhole.enclosed {t : Token} (h : IsWhole (t :: ts) e) (ht : startsOperand t) :
    IsOperand (.leftParen :: t :: ts ++ [.rightParen]) e := by
  refine ⟨1, by simp, fun rest hrest strength hs fuel hfuel => ?_⟩
  simp only [List.length_append, List.length_cons, List.length_nil] at hfuel
  obtain ⟨n, rfl⟩ : ∃ n, fuel = n + 1 := ⟨fuel - 1, by omega⟩
  have hread := h (.rightParen :: rest) (by simp [EndsWhole]) n (by simp; omega)
  simp only [List.cons_append, List.append_assoc, List.nil_append, Nat.add_sub_cancel] at hread ⊢
  rw [expression]
  · simp [hread]
  · rintro m us heq
    obtain ⟨rfl, -⟩ := List.cons.inj heq
    simp [startsOperand] at ht

/-- The expression of a token that is an operand by itself. -/
def operand? : Token → Option Expr
  | .name s => nameExpr? s
  | .null => some (.literal .null)
  | .integer n => some (.literal (.integer n))
  | .text s => some (.literal (.text s))
  | .param i => some (.param i)
  | _ => none

theorem expression_operand {t : Token} (h : operand? t = some e) (rest : List Token)
    (hrest : ∀ u ∈ rest.head?, u ≠ .leftParen ∧ u ≠ .dot) (fuel strength : Nat) :
    expression (fuel + 1) strength (t :: rest) = further fuel strength e rest := by
  have hne : ∀ us, rest ≠ .leftParen :: us ∧ rest ≠ .dot :: us := by
    intro us
    constructor <;> rintro rfl <;> simp at hrest
  cases t <;> simp only [operand?, Option.some.injEq, reduceCtorEq] at h
  all_goals simp_all [expression, atom?]

theorem EndsOperand.head (h : EndsOperand rest) : ∀ u ∈ rest.head?, u ≠ .leftParen ∧ u ≠ .dot := by
  intro u hu
  obtain rfl | rfl | rfl | rfl := h u hu <;> simp

theorem expression_lastOperand {t : Token} (h : operand? t = some e) (hrest : EndsOperand rest) (fuel : Nat)
    {s : Nat} (hs : notStrength ≤ s) : expression (fuel + 3) s (t :: rest) = some (e, rest) := by
  rw [expression_operand h rest hrest.head, further_operand hrest hs]

/-! ### Chains -/

/-- A word between operands that is read as a connective. -/
structure Joins (word : Token) (join : Expr → Expr → Expr) : Prop where
  isLoose : ∃ own < notStrength, ∃ op, operator? word = some (own, op) ∧
    ∀ e f, isZero e = false → isZero f = false → op e f = join e f
  ends : ∀ rest, EndsOperand (word :: rest)
  isConnective : word ≠ .collate
  notZero : ∀ e f, isZero (join e f) = false

theorem joins_and : Joins .and .and where
  isLoose := ⟨2, by decide, conjunction, rfl, fun e f he hf => by simp [conjunction, he, hf]⟩
  ends _ := by simp [EndsOperand]
  isConnective := by simp
  notZero _ _ := rfl

theorem joins_or : Joins .or .or where
  isLoose := ⟨1, by decide, .or, rfl, fun _ _ _ _ => rfl⟩
  ends _ := by simp [EndsOperand]
  isConnective := by simp
  notZero _ _ := rfl

variable {word : Token} {join : Expr → Expr → Expr}

/-- The tokens of parts, each behind a word. -/
def behind (word : Token) (parts : List (List Token × Expr)) : List Token :=
  parts.flatMap fun p => word :: p.1

def chain (join : Expr → Expr → Expr) (e : Expr) (parts : List (List Token × Expr)) : Expr :=
  parts.foldl (fun e p => join e p.2) e

theorem endsOperand_behind (hjoin : Joins word join) (hrest : EndsWhole rest) (parts : List (List Token × Expr)) :
    EndsOperand (behind word parts ++ rest) := by
  cases parts with
  | nil => simpa [behind] using hrest.endsOperand
  | cons p parts => exact hjoin.ends _

theorem further_chain (hjoin : Joins word join) (hrest : EndsWhole rest) {parts : List (List Token × Expr)}
    (hparts : ∀ p ∈ parts, IsOperand p.1 p.2 ∧ isZero p.2 = false) :
    ∀ e, isZero e = false → ∀ fuel, 4 * (behind word parts).length + 2 ≤ fuel →
      further fuel 0 e (behind word parts ++ rest) = some (chain join e parts, rest) := by
  induction parts with
  | nil =>
    intro e _ fuel hfuel
    obtain ⟨n, rfl⟩ : ∃ n, fuel = n + 2 := ⟨fuel - 2, by simp [behind] at hfuel; omega⟩
    simpa [behind, chain] using further_end (fun t ht => .inl (hrest t ht)) 0 n e
  | cons p parts ih =>
    intro e he fuel hfuel
    obtain ⟨⟨d, hd, hoperand⟩, hzero⟩ := hparts p (by simp)
    obtain ⟨own, hown, op, hop, heq⟩ := hjoin.isLoose
    have hlen : (behind word (p :: parts)).length = p.1.length + 1 + (behind word parts).length := by simp [behind]; omega
    obtain ⟨n, rfl⟩ : ∃ n, fuel = n + 1 := ⟨fuel - 1, by omega⟩
    have hend := endsOperand_behind hjoin hrest parts
    have hown' : own + 1 ≤ notStrength := hown
    have hread := hoperand _ hend (own + 1) hown' n (by omega)
    have hstop : further (n - d) (own + 1) p.2 (behind word parts ++ rest) = some (p.2, behind word parts ++ rest) := by
      obtain ⟨m, hm⟩ : ∃ m, n - d = m + 2 := ⟨n - d - 2, by omega⟩
      cases parts with
      | nil => simpa [behind, hm] using further_end (fun t ht => .inl (hrest t ht)) (own + 1) m p.2
      | cons q parts => simp [behind, hm, further, hop, hjoin.isConnective]
    -- The part is read up to the next word, which binds no stronger, and is joined to what is in front of it.
    have hmore := ih (fun q hq => hparts q (by simp [hq])) (join e p.2) (hjoin.notZero _ _) n (by omega)
    have hcons : behind word (p :: parts) ++ rest = word :: (p.1 ++ (behind word parts ++ rest)) := by simp [behind]
    rw [hcons, further]
    · simp [hop, hread, hstop, heq e p.2 he hzero, hmore, chain]
    · exact fun h => absurd h hjoin.isConnective

theorem isZero_chain (hjoin : Joins word join) (parts : List (List Token × Expr)) {e : Expr}
    (he : isZero e = false) : isZero (chain join e parts) = false := by
  induction parts generalizing e with
  | nil => exact he
  | cons p parts ih => exact ih (hjoin.notZero _ _)

theorem IsOperand.chain (h : IsOperand ts e) (he : isZero e = false) (hjoin : Joins word join)
    {parts : List (List Token × Expr)} (hparts : ∀ p ∈ parts, IsOperand p.1 p.2 ∧ isZero p.2 = false) :
    IsWhole (ts ++ behind word parts) (Sql.chain join e parts) := by
  intro rest hrest fuel hfuel
  obtain ⟨d, hd, h⟩ := h
  rw [List.length_append] at hfuel
  have hend := endsOperand_behind hjoin hrest parts
  rw [List.append_assoc, h _ hend 0 (by decide) fuel (by omega)]
  exact further_chain hjoin hrest hparts e he _ (by omega)

/-- Tokens are operands with a word between them, and an expression is their connection. -/
def IsChain (word : Token) (join : Expr → Expr → Expr) (ts : List Token) (e : Expr) : Prop :=
  ∃ us f parts, IsOperand us f ∧ isZero f = false ∧ (∀ p ∈ parts, IsOperand p.1 p.2 ∧ isZero p.2 = false) ∧
    ts = us ++ behind word parts ∧ e = Sql.chain join f parts

theorem IsOperand.isChain (h : IsOperand ts e) (he : isZero e = false) : IsChain word join ts e :=
  ⟨ts, e, [], h, he, by simp, by simp [behind], rfl⟩

theorem IsChain.snoc (h : IsChain word join ts e) {us : List Token} (hus : IsOperand us f) (hf : isZero f = false) :
    IsChain word join (ts ++ word :: us) (join e f) := by
  obtain ⟨vs, g, parts, hvs, hg, hparts, rfl, rfl⟩ := h
  refine ⟨vs, g, parts ++ [(us, f)], hvs, hg, fun p hp => ?_, by simp [behind], by simp [Sql.chain]⟩
  obtain hp | rfl := by simpa using hp
  · exact hparts p hp
  · exact ⟨hus, hf⟩

theorem IsChain.isWhole (h : IsChain word join ts e) (hjoin : Joins word join) : IsWhole ts e := by
  obtain ⟨us, f, parts, hus, hf, hparts, rfl, rfl⟩ := h
  exact hus.chain hf hjoin hparts

theorem IsWhole.leadingExpr (h : IsWhole ts e) : leadingExpr? ts = some (e, []) := by
  have := h [] (by simp [EndsWhole]) (6 * ts.length + 6) (by omega)
  rwa [List.append_nil] at this

theorem IsWhole.parse (h : IsWhole ts e) : parse? ts = some e := by
  simp [parse?, h.leadingExpr]

end AuditSearch.Sql
