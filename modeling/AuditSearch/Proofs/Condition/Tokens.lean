import AuditSearch.Proofs.Condition.Tests
import AuditSearch.Proofs.Sql.Scanning

/-! The tokens of a clause, which are those of the connectives and tests of its condition. -/
namespace AuditSearch

namespace Filter

attribute [ext] Filter

@[simp] theorem text_clause (s : String) : (text s).clause = s := rfl

@[simp] theorem text_params (s : String) : (text s).params = [] := rfl

@[simp] theorem append_clause (f g : Filter) : (f ++ g).clause = f.clause ++ g.clause := rfl

@[simp] theorem append_params (f g : Filter) : (f ++ g).params = f.params ++ g.params := rfl

@[simp] theorem joined_clause (between : String) (fs : List Filter) :
    (joined between fs).clause = between.intercalate (fs.map clause) :=
  rfl

@[simp] theorem joined_params (between : String) (fs : List Filter) : (joined between fs).params = fs.flatMap params :=
  rfl

theorem joined_singleton (between : String) (f : Filter) : joined between [f] = f := by
  simp [joined]

theorem joined_cons_cons (between : String) (f g : Filter) (fs : List Filter) :
    joined between (f :: g :: fs) = f ++ (text between ++ joined between (g :: fs)) := by
  ext1 <;> simp [String.intercalate_cons_cons, String.append_assoc]

end Filter

theorem Column.mem_all (column : Column) : column ∈ all := by
  cases column <;> decide

instance (p : Column → Prop) [DecidablePred p] : Decidable (∃ column, p column) :=
  decidable_of_iff (∃ column ∈ Column.all, p column)
    ⟨fun ⟨column, _, h⟩ => ⟨column, h⟩, fun ⟨column, h⟩ => ⟨column, column.mem_all, h⟩⟩

def Bound.token : Bound → Sql.Token
  | atLeast => .atLeast
  | atMost => .atMost

namespace Condition

open Sql

def testedColumn? : Condition → Option String
  | isIn column _ | notIn column _ | isNull column | compare column _ _ | hasRole column _ => some column
  | _ => none

/-- All tests are of columns that there are. -/
def IsOverSchema (c : Condition) : Prop :=
  ∀ t ∈ c.tests, ∀ name ∈ t.testedColumn?, ∃ column : Column, column.name = name

instance (c : Condition) : Decidable c.IsOverSchema :=
  inferInstanceAs (Decidable (∀ t ∈ c.tests, ∀ name ∈ t.testedColumn?, ∃ column : Column, column.name = name))

/-- How many parameters the clause of a condition has. -/
def paramCount (c : Condition) : Nat :=
  c.toFilter.params.length

def partFilter (c : Condition) : Filter :=
  if isConnective c then parenthesised c.toFilter else c.toFilter

@[simp] theorem partFilters_eq (cs : List Condition) : partFilters cs = cs.map partFilter := by
  induction cs with
  | nil => rfl
  | cons c cs ih => simp [partFilters, partFilter, ih]

@[simp] theorem partFilter_params (c : Condition) : c.partFilter.params = c.toFilter.params := by
  by_cases h : isConnective c <;> simp [partFilter, h, parenthesised]

def valueTokens (long : Bool) (k : Nat) : Literal → List Token
  | .integer n => integerTokens n
  | .text s => if long && isQuotable s then [.text s] else [.param k]

/-- The tokens of values, where the first one that is a parameter has the number `k`. -/
def listTokens (long : Bool) : Nat → List Literal → List Token
  | _, [] => []
  | k, [v] => valueTokens long k v
  | k, v :: w :: vs =>
    valueTokens long k v ++ .comma :: listTokens long (k + (valueFilter long v).params.length) (w :: vs)

def constantTokens (holds : Bool) : List Token :=
  [.integer 1, .equal, .integer (if holds then 1 else 0)]

def enclosed (isEnclosed : Bool) (ts : List Token) : List Token :=
  if isEnclosed then .leftParen :: ts ++ [.rightParen] else ts

mutual

/-- The tokens of a condition, where the first parameter has the number `k`. -/
def tokens (k : Nat) : Condition → List Token
  | always => constantTokens true
  | never => constantTokens false
  | all [] => constantTokens true
  | all (c :: cs) => enclosed (isConnective c) (c.tokens k) ++ tokensBehind .and (k + c.paramCount) cs
  | any [] => constantTokens false
  | any (c :: cs) => enclosed (isConnective c) (c.tokens k) ++ tokensBehind .or (k + c.paramCount) cs
  | not part => .not :: enclosed true (part.tokens k)
  | isIn _ [] => constantTokens false
  | isIn column (v :: vs) =>
    .name column :: .isIn :: enclosed true (listTokens (decide (maxBoundTexts < (v :: vs).length)) k (v :: vs))
  | notIn _ [] => constantTokens true
  | notIn column (v :: vs) =>
    .name column :: .not :: .isIn ::
      enclosed true (listTokens (decide (maxBoundTexts < (v :: vs).length)) k (v :: vs))
  | isNull column => [.name column, .is, .null]
  | compare column bound _ => [.name column, bound.token, .param k]
  | hasRole column role =>
    if Roles.isCompound role then constantTokens false
    else
      enclosed true [.text ",", .concat, .name column, .concat, .text ","] ++
        [.like, .param k, .escape, .text "\\"]

/-- The tokens of further parts of a connective, each behind the word for it. -/
def tokensBehind (word : Token) (k : Nat) : List Condition → List Token
  | [] => []
  | c :: cs => word :: enclosed (isConnective c) (c.tokens k) ++ tokensBehind word (k + c.paramCount) cs

end

/-! ### Scanning of clauses -/

/-- A filter is read as some tokens, of which the first parameter has the number that they are given. -/
def IsRead (f : Filter) (tokens : Nat → List Token) : Prop :=
  ∀ k rest, k + f.params.length ≤ ParamNames.maxCount → EndsWord rest →
    Scans ⟨k, []⟩ ⟨k + f.params.length, []⟩ f.clause.toList (tokens k) rest

theorem IsRead.congr {f g : Filter} {tokens : Nat → List Token} (h : IsRead f tokens)
    (hclause : g.clause.toList = f.clause.toList) (hparams : g.params = f.params) : IsRead g tokens := by
  intro k rest hk hrest
  rw [hparams] at hk ⊢
  rw [hclause]
  exact h k rest hk hrest

theorem IsRead.spaced {f g : Filter} {tokens tokens' : Nat → List Token} (h : IsRead f tokens)
    (h' : IsRead g tokens') :
    IsRead ⟨f.clause ++ " " ++ g.clause, f.params ++ g.params⟩ fun k =>
      tokens k ++ tokens' (k + f.params.length) := by
  intro k rest hk hrest
  rw [List.length_append, ← Nat.add_assoc] at hk ⊢
  have hbehind := h' (k + f.params.length) rest hk hrest
  have := (h k (' ' :: (g.clause.toList ++ rest)) (by omega) (by simp [EndsWord])).spaced hbehind
  simpa using this

theorem isRead_word {c : Char} {cs : List Char} (hc : isNameStart c = true) (hcs : (c :: cs).all isNameChar)
    (hkind : startsSpaces c = false ∧ isSpace c = false ∧ isQuote c = false ∧ Text.isDigit c = false) :
    IsRead (.text (String.ofList (c :: cs))) fun _ => [wordToken (c :: cs)] := fun k rest _ hrest => by
  simpa using scans_word (p := ⟨k, []⟩) hc hcs hkind hrest

theorem isRead_and : IsRead (.text "AND") fun _ => [.and] :=
  isRead_word (c := 'A') (by decide) (by decide) (by decide)

theorem isRead_or : IsRead (.text "OR") fun _ => [.or] :=
  isRead_word (c := 'O') (by decide) (by decide) (by decide)

theorem isRead_not : IsRead (.text "NOT") fun _ => [.not] :=
  isRead_word (c := 'N') (by decide) (by decide) (by decide)

theorem isRead_isIn : IsRead (.text "IN") fun _ => [.isIn] :=
  isRead_word (c := 'I') (by decide) (by decide) (by decide)

theorem isRead_is : IsRead (.text "IS") fun _ => [.is] :=
  isRead_word (c := 'I') (by decide) (by decide) (by decide)

theorem isRead_null : IsRead (.text "NULL") fun _ => [.null] :=
  isRead_word (c := 'N') (by decide) (by decide) (by decide)

theorem isRead_like : IsRead (.text "LIKE") fun _ => [.like] :=
  isRead_word (c := 'L') (by decide) (by decide) (by decide)

theorem isRead_escape : IsRead (.text "ESCAPE") fun _ => [.escape] :=
  isRead_word (c := 'E') (by decide) (by decide) (by decide)

theorem isRead_column (column : Column) : IsRead (.text column.name) fun _ => [.name column.name] := by
  cases column <;> exact isRead_word (by decide) (by decide) (by decide)

theorem isRead_sign (b : Bound) : IsRead (.text b.sign) fun _ => [b.token] := fun k rest _ _ => by
  cases b
  · exact scans_atLeast
  · exact scans_atMost

theorem isRead_text (s : String) : IsRead (.text (Literal.text s).quoted) fun _ => [.text s] := fun _ _ _ h =>
  scans_text h s

theorem isRead_constant (holds : Bool) :
    IsRead (.text (if holds then "1 = 1" else "1 = 0")) fun _ => constantTokens holds := by
  intro k rest _ h
  have hnat : ∀ n ≤ 1, ∀ rest, EndsWord rest → Scans ⟨k, []⟩ ⟨k, []⟩ (Text.natDigits n) [.integer n] rest :=
    fun n hn rest h => scans_natural h (by simp [leastMagnitude]; omega)
  have hones := (hnat 1 (by decide) _ (by simp [EndsWord])).spaced
    ((scans_equal (by simp [EndsWord])).spaced (hnat (if holds then 1 else 0) (by cases holds <;> decide) _ h))
  cases holds <;> exact hones

@[simp] theorem parenthesised_params (f : Filter) : (parenthesised f).params = f.params := by
  simp [parenthesised]

theorem IsRead.parenthesised {f : Filter} {tokens : Nat → List Token} (h : IsRead f tokens) :
    IsRead (parenthesised f) fun k => enclosed true (tokens k) := by
  intro k rest hk hrest
  rw [parenthesised_params] at hk ⊢
  have hinside := h k (')' :: rest) hk (by simp [EndsWord])
  have := scans_leftParen.append (hinside.append scans_rightParen)
  simpa [Condition.parenthesised, enclosed] using this

theorem isRead_param (v : Literal) : IsRead ⟨"?", [v]⟩ fun k => [.param k] := by
  intro k rest hk hrest
  have hcount : k < ParamNames.maxCount := by simpa [Nat.succ_le_iff] using hk
  simpa using scans_param (p := ⟨k, []⟩) hrest hcount

theorem isRead_value (long : Bool) (v : Literal) : IsRead (valueFilter long v) fun k => valueTokens long k v := by
  intro k rest hk hrest
  cases v with
  | integer n => exact scans_integer hrest n
  | text s =>
    simp only [valueFilter, valueTokens] at hk ⊢
    split
    · exact scans_text hrest s
    · rename_i hshort
      rw [if_neg hshort] at hk
      exact isRead_param (.text s) k rest hk hrest

theorem isRead_list (long : Bool) {vs : List Literal} (hvs : vs ≠ []) :
    IsRead (.joined ", " (vs.map (valueFilter long))) fun k => listTokens long k vs := by
  induction vs with
  | nil => exact absurd rfl hvs
  | cons v vs ih =>
    cases vs with
    | nil =>
      simp only [List.map_cons, List.map_nil, Filter.joined_singleton, listTokens]
      exact isRead_value long v
    | cons w vs =>
      intro k rest hk hrest
      have ih := ih (by simp)
      rw [List.map_cons, List.map_cons, Filter.joined_cons_cons, ← List.map_cons] at hk ⊢
      simp only [Filter.append_params, Filter.text_params, List.nil_append, List.length_append] at hk ⊢
      have hvalue := isRead_value long v k (',' :: ' ' :: ((Filter.joined ", " ((w :: vs).map
        (valueFilter long))).clause.toList ++ rest)) (by omega) (by simp [EndsWord])
      have hmore := ih (k + (valueFilter long v).params.length) rest (by omega) hrest
      have hall := hvalue.append (scans_comma.spaced hmore)
      rw [← Nat.add_assoc]
      simpa [listTokens] using hall

theorem isRead_listFilter {vs : List Literal} (hvs : vs ≠ []) :
    IsRead (listFilter vs) fun k => listTokens (decide (maxBoundTexts < vs.length)) k vs :=
  isRead_list _ hvs

theorem IsRead.partFilter {c : Condition} (h : IsRead c.toFilter c.tokens) :
    IsRead c.partFilter fun k => enclosed (isConnective c) (c.tokens k) := by
  by_cases hc : isConnective c
  · simp only [Condition.partFilter, hc, if_true]
    exact h.parenthesised
  · simpa [Condition.partFilter, hc, enclosed] using h

/-- Parts with a word between them are read one after the other. -/
theorem isRead_parts {word : String} {t : Token} (hword : IsRead (.text word) fun _ => [t]) {c : Condition} {cs : List Condition}
    (h : ∀ part ∈ c :: cs, IsRead part.toFilter part.tokens) :
    IsRead (.joined (" " ++ word ++ " ") ((c :: cs).map Condition.partFilter)) fun k =>
      enclosed (isConnective c) (c.tokens k) ++ tokensBehind t (k + c.paramCount) cs := by
  induction cs generalizing c with
  | nil =>
    simp only [List.map_cons, List.map_nil, Filter.joined_singleton, tokensBehind, List.append_nil]
    exact (h c (by simp)).partFilter
  | cons d cs ih =>
    intro k rest hk hrest
    have hmore : IsRead (.joined (" " ++ word ++ " ") ((d :: cs).map Condition.partFilter)) _ :=
      ih fun part hpart => h part (List.mem_cons_of_mem c hpart)
    have hpart := (h c (by simp)).partFilter
    rw [List.map_cons, List.map_cons, Filter.joined_cons_cons, ← List.map_cons] at hk ⊢
    simp only [Filter.append_params, Filter.text_params, List.nil_append, List.length_append] at hk ⊢
    have hmore := hmore (k + c.paramCount) rest (by simp [paramCount] at hk ⊢; omega) hrest
    have hspace (cs : List Char) : EndsWord (' ' :: cs) := by simp [EndsWord]
    have hall := (hpart k _ (by omega) (hspace _)).spaced ((hword _ _ (by simp at hk ⊢; omega) (hspace _)).spaced (by
      simpa [paramCount] using hmore))
    rw [← Nat.add_assoc]
    simpa [tokensBehind, paramCount] using hall

section
variable {f : Filter} {tokens : Nat → List Token} (column : Column)

theorem IsRead.isIn (h : IsRead f tokens) :
    IsRead (.text (column.name ++ " IN ") ++ Condition.parenthesised f) fun k =>
      .name column.name :: .isIn :: enclosed true (tokens k) :=
  ((isRead_column column).spaced (isRead_isIn.spaced h.parenthesised)).congr (by simp) (by simp)

theorem IsRead.notIn (h : IsRead f tokens) :
    IsRead (.text (column.name ++ " NOT IN ") ++ Condition.parenthesised f) fun k =>
      .name column.name :: .not :: .isIn :: enclosed true (tokens k) :=
  ((isRead_column column).spaced (isRead_not.spaced (isRead_isIn.spaced h.parenthesised))).congr
    (by simp) (by simp)

theorem isRead_isNull : IsRead (.text (column.name ++ " IS NULL")) fun _ => [.name column.name, .is, .null] :=
  ((isRead_column column).spaced (isRead_is.spaced isRead_null)).congr (by simp) (by simp)

/-- A comparison of a column with a value, however that is written. -/
theorem IsRead.compare (bound : Bound) (h : IsRead f tokens) :
    IsRead ⟨column.name ++ " " ++ bound.sign ++ " " ++ f.clause, f.params⟩ fun k =>
      .name column.name :: bound.token :: tokens k :=
  ((isRead_column column).spaced ((isRead_sign bound).spaced h)).congr (by simp) (by simp)

/-- A test of a role column for a pattern, however that is written. -/
theorem IsRead.hasRole (h : IsRead f tokens) :
    IsRead ⟨"(',' || " ++ column.name ++ " || ',') LIKE " ++ f.clause ++ " ESCAPE '\\'", f.params⟩ fun k =>
      enclosed true [.text ",", .concat, .name column.name, .concat, .text ","] ++
        (.like :: tokens k ++ [.escape, .text "\\"]) := by
  have hconcat : IsRead (.text "||") fun _ => [.concat] := fun _ _ _ _ => scans_concat
  have hsubject := ((isRead_text ",").spaced (hconcat.spaced ((isRead_column column).spaced
    (hconcat.spaced (isRead_text ","))))).parenthesised
  have hpattern := isRead_like.spaced (h.spaced (isRead_escape.spaced (isRead_text "\\")))
  have hall := hsubject.spaced hpattern
  simp only [List.cons_append, List.nil_append] at hall ⊢
  exact hall.congr (by simp [Condition.parenthesised, Literal.quoted]) (by simp)

end

theorem isRead_test {c : Condition} (hc : c.isTest)
    (hcolumn : ∀ name ∈ c.testedColumn?, ∃ column : Column, column.name = name) : IsRead c.toFilter c.tokens := by
  cases c with
  | always => exact isRead_constant true
  | never => exact isRead_constant false
  | isIn name vs =>
    obtain ⟨column, rfl⟩ := hcolumn name rfl
    cases vs with
    | nil => exact isRead_constant false
    | cons v vs => exact (isRead_listFilter (by simp)).isIn column
  | notIn name vs =>
    obtain ⟨column, rfl⟩ := hcolumn name rfl
    cases vs with
    | nil => exact isRead_constant true
    | cons v vs => exact (isRead_listFilter (by simp)).notIn column
  | isNull name =>
    obtain ⟨column, rfl⟩ := hcolumn name rfl
    exact isRead_isNull column
  | compare name bound value =>
    obtain ⟨column, rfl⟩ := hcolumn name rfl
    exact ((isRead_param value).compare column bound).congr (by simp [toFilter]) rfl
  | hasRole name role =>
    obtain ⟨column, rfl⟩ := hcolumn name rfl
    simp only [toFilter, tokens]
    split
    · exact isRead_constant false
    · exact ((isRead_param _).hasRole column).congr (by simp) rfl
  | all _ | any _ | not _ => simp [isTest] at hc

theorem isRead_toFilter {c : Condition} (h : c.IsOverSchema) : IsRead c.toFilter c.tokens := by
  induction c using partsInduction with
  | test c hc => exact isRead_test hc (h c (by simp [tests_of_isTest hc]))
  | all parts ih =>
    cases parts with
    | nil => exact isRead_constant true
    | cons c cs =>
      have := isRead_parts isRead_and fun part hpart => ih part hpart fun t ht =>
        h t (mem_tests_all hpart ht)
      simpa [toFilter, connected, tokens] using this
  | any parts ih =>
    cases parts with
    | nil => exact isRead_constant false
    | cons c cs =>
      have := isRead_parts isRead_or fun part hpart => ih part hpart fun t ht =>
        h t (mem_tests_any hpart ht)
      simpa [toFilter, connected, tokens] using this
  | not c ih => exact (isRead_not.spaced (ih h).parenthesised).congr (by simp [toFilter]) (by simp [toFilter])

theorem tokens_toFilter {c : Condition} (h : c.IsOverSchema) (hparams : c.paramCount ≤ ParamNames.maxCount) :
    tokens? c.toFilter.clause = some (c.tokens 0, c.paramCount) := by
  have := (isRead_toFilter h 0 [] (by simpa [paramCount] using hparams) (by simp [EndsWord])).tokensWithin_eq
  simpa [tokens?, ParamNames.empty, paramCount] using this

end Condition

end AuditSearch
