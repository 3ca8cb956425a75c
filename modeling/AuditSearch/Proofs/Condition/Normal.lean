import AuditSearch.Proofs.Condition.Tokens

/-!
Normal forms of conditions, which the constructing functions give: a constant alone, or a conjunction of disjunctions
of tests. The clause of a normal form has an equation of constants outside its quoted texts only if it is nothing else.
-/
namespace AuditSearch

namespace Condition

/-- A test of one of some columns, or the negation of a role. No list of values is empty, and no role is compound. -/
inductive IsAtom (columns : String → Prop) : Condition → Prop
  | isIn {column : String} {vs : List Literal} (hcolumn : columns column) (hvalues : vs ≠ []) :
    IsAtom columns (isIn column vs)
  | notIn {column : String} {vs : List Literal} (hcolumn : columns column) (hvalues : vs ≠ []) :
    IsAtom columns (notIn column vs)
  | isNull {column : String} (hcolumn : columns column) : IsAtom columns (isNull column)
  | compare {column : String} {bound : Bound} {v : Literal} (hcolumn : columns column) :
    IsAtom columns (compare column bound v)
  | hasRole {column role : String} (hcolumn : columns column) (hrole : ¬Roles.isCompound role) :
    IsAtom columns (hasRole column role)
  | notHasRole {column role : String} (hcolumn : columns column) (hrole : ¬Roles.isCompound role) :
    IsAtom columns (not (hasRole column role))

/-- A constant or an atom. -/
inductive IsSimple (columns : String → Prop) : Condition → Prop
  | always : IsSimple columns always
  | never : IsSimple columns never
  | atom {c : Condition} (h : IsAtom columns c) : IsSimple columns c

/-- An atom, or a disjunction of at least two of them. -/
inductive IsChoice (columns : String → Prop) : Condition → Prop
  | atom {c : Condition} (h : IsAtom columns c) : IsChoice columns c
  | any {cs : List Condition} (hlength : 2 ≤ cs.length) (h : ∀ c ∈ cs, IsAtom columns c) : IsChoice columns (any cs)

/-- A constant, a choice, or a conjunction of at least two choices. -/
inductive IsNormal (columns : String → Prop) : Condition → Prop
  | always : IsNormal columns always
  | never : IsNormal columns never
  | choice {c : Condition} (h : IsChoice columns c) : IsNormal columns c
  | all {cs : List Condition} (hlength : 2 ≤ cs.length) (h : ∀ c ∈ cs, IsChoice columns c) : IsNormal columns (all cs)

section
variable {columns : String → Prop}

theorem IsSimple.isNormal {c : Condition} (h : IsSimple columns c) : IsNormal columns c := by
  cases h with
  | always => exact .always
  | never => exact .never
  | atom h => exact .choice (.atom h)

/-! ### Constructing functions -/

section
variable {column : String} (h : columns column)
include h

theorem isSimple_mkIn (vs : List Literal) : IsSimple columns (mkIn column vs) := by
  rw [mkIn]
  split
  · exact .never
  · rename_i hvalues
    exact .atom (.isIn h (mt List.isEmpty_iff.mpr hvalues))

theorem isSimple_mkNotIn (vs : List Literal) : IsSimple columns (mkNotIn column vs) := by
  rw [mkNotIn]
  split
  · exact .always
  · rename_i hvalues
    exact .atom (.notIn h (mt List.isEmpty_iff.mpr hvalues))

theorem isSimple_mkHasRole (role : String) : IsSimple columns (mkHasRole column role) := by
  rw [mkHasRole]
  split
  · exact .never
  · rename_i hrole
    exact .atom (.hasRole h hrole)

theorem isSimple_mkNot_mkHasRole (role : String) : IsSimple columns (mkNot (mkHasRole column role)) := by
  rw [mkHasRole]
  split
  · exact .always
  · rename_i hrole
    exact .atom (.notHasRole h hrole)

end

theorem anyParts_of_isAtom {c : Condition} (h : IsAtom columns c) (cs : List Condition) :
    anyParts? (c :: cs) = (anyParts? cs).map (c :: ·) := by
  cases h <;> rfl

theorem allParts_of_isChoice {c : Condition} (h : IsChoice columns c) (cs : List Condition) :
    allParts? (c :: cs) = (allParts? cs).map (c :: ·) := by
  cases h with
  | atom h => cases h <;> rfl
  | any => rfl

theorem isAtom_anyParts {cs : List Condition} (h : ∀ c ∈ cs, IsSimple columns c) :
    ∀ parts ∈ anyParts? cs, ∀ c ∈ parts, IsAtom columns c := by
  induction cs with
  | nil => simp [anyParts?]
  | cons c cs ih =>
    obtain ⟨hc, hcs⟩ := List.forall_mem_cons.mp h
    intro parts hparts
    cases hc with
    | always => cases hparts
    | never => exact ih hcs parts hparts
    | atom hatom =>
      rw [anyParts_of_isAtom hatom] at hparts
      obtain ⟨more, hmore, rfl⟩ := Option.map_eq_some_iff.mp hparts
      exact List.forall_mem_cons.mpr ⟨hatom, ih hcs more hmore⟩

/-- What is left of a conjunction of normal conditions are choices: its own ones, and the parts of others. -/
theorem isChoice_allParts {cs : List Condition} (h : ∀ c ∈ cs, IsNormal columns c) :
    ∀ parts ∈ allParts? cs, ∀ c ∈ parts, IsChoice columns c := by
  induction cs with
  | nil => simp [allParts?]
  | cons c cs ih =>
    obtain ⟨hc, hcs⟩ := List.forall_mem_cons.mp h
    intro parts hparts
    cases hc with
    | always => exact ih hcs parts hparts
    | never => cases hparts
    | choice hchoice =>
      rw [allParts_of_isChoice hchoice] at hparts
      obtain ⟨more, hmore, rfl⟩ := Option.map_eq_some_iff.mp hparts
      exact List.forall_mem_cons.mpr ⟨hchoice, ih hcs more hmore⟩
    | all hlength hinner =>
      obtain ⟨more, hmore, rfl⟩ := Option.map_eq_some_iff.mp hparts
      exact List.forall_mem_append.mpr ⟨hinner, ih hcs more hmore⟩

theorem isNormal_mkAny {cs : List Condition} (h : ∀ c ∈ cs, IsSimple columns c) : IsNormal columns (mkAny cs) := by
  have hparts := isAtom_anyParts h
  rw [mkAny]
  generalize anyParts? cs = parts? at hparts ⊢
  rcases parts? with _ | _ | ⟨c, _ | ⟨d, ds⟩⟩
  · exact .always
  · exact .never
  · exact .choice (.atom (hparts _ rfl c (by simp)))
  · exact .choice (.any (by simp) (hparts _ rfl))

theorem isNormal_mkAll {cs : List Condition} (h : ∀ c ∈ cs, IsNormal columns c) : IsNormal columns (mkAll cs) := by
  have hparts := isChoice_allParts h
  rw [mkAll]
  generalize allParts? cs = parts? at hparts ⊢
  rcases parts? with _ | _ | ⟨c, _ | ⟨d, ds⟩⟩
  · exact .never
  · exact .always
  · exact .choice (hparts _ rfl c (by simp))
  · exact .all (by simp) (hparts _ rfl)

theorem isNormal_mkNullOrNotIn {column : String} (h : columns column) (vs : List Literal) :
    IsNormal columns (mkNullOrNotIn column vs) := by
  rw [mkNullOrNotIn]
  split
  · exact .always
  · exact isNormal_mkAny (List.forall_mem_cons.mpr
      ⟨.atom (.isNull h), List.forall_mem_singleton.mpr (isSimple_mkNotIn h vs)⟩)

end

end Condition

/-! ### Clauses -/

namespace Text

/-- The characters of a clause outside its quoted texts, with the quotes. At the start `quoted` says whether a quote
is open. -/
def outside : Bool → List Char → List Char
  | _, [] => []
  | quoted, c :: cs =>
    if c = '\'' then c :: outside (!quoted) cs
    else if quoted then outside quoted cs
    else c :: outside quoted cs

/-- A piece of a clause without a sign of equality at its start or behind a space, outside quoted texts, all of which
end in the piece. -/
structure HasNoEquation (cs : List Char) : Prop where
  ends : ∀ rest, outside false (cs ++ rest) = outside false cs ++ outside false rest
  start : (outside false cs).head? ≠ some '='
  inside : ¬[' ', '='] <:+: outside false cs

theorem outside_append {cs : List Char} (h : ∀ c ∈ cs, c ≠ '\'') (rest : List Char) :
    outside false (cs ++ rest) = cs ++ outside false rest := by
  induction cs with
  | nil => rfl
  | cons c cs ih =>
    obtain ⟨hc, hcs⟩ := List.forall_mem_cons.mp h
    simp [outside, hc, ih hcs]

/-- Two characters stand side by side in a list of two parts only if they do so in a part, or where the parts meet. -/
theorem not_infix_append {a b : Char} {cs ds : List Char} (hcs : ¬[a, b] <:+: cs) (hds : ¬[a, b] <:+: ds)
    (hhead : ds.head? ≠ some b) : ¬[a, b] <:+: cs ++ ds := by
  induction cs with
  | nil => exact hds
  | cons c cs ih =>
    rw [List.infix_cons_iff, not_or] at hcs
    rw [List.cons_append, List.infix_cons_iff, not_or]
    refine ⟨fun hprefix => ?_, ih hcs.2⟩
    obtain ⟨rfl, hprefix⟩ := List.cons_prefix_cons.mp hprefix
    cases cs with
    | nil =>
      cases ds with
      | nil => simp at hprefix
      | cons d ds => exact hhead (by simpa [eq_comm] using hprefix)
    | cons d cs => exact hcs.1 (by simpa [List.cons_prefix_cons] using hprefix)

theorem HasNoEquation.append {cs ds : List Char} (hcs : HasNoEquation cs) (hds : HasNoEquation ds) :
    HasNoEquation (cs ++ ds) where
  ends rest := by rw [List.append_assoc, hcs.ends, hds.ends, hcs.ends, List.append_assoc]
  start := by
    have hstart := hcs.start
    rw [hcs.ends]
    cases h : outside false cs with
    | nil => exact hds.start
    | cons c more => rwa [h] at hstart
  inside := by
    rw [hcs.ends]
    exact not_infix_append hcs.inside hds.inside hds.start

theorem hasNoEquation_of_outside {cs : List Char} (out : List Char)
    (h : ∀ rest, outside false (cs ++ rest) = out ++ outside false rest) (hstart : out.head? ≠ some '=')
    (hinside : ¬[' ', '='] <:+: out) : HasNoEquation cs := by
  have halone : outside false cs = out := by simpa [outside] using h []
  exact ⟨fun rest => by rw [h, halone], by rwa [halone], by rwa [halone]⟩

theorem hasNoEquation_plain {cs : List Char} (h : ∀ c ∈ cs, c ≠ '\'' ∧ c ≠ '=') : HasNoEquation cs := by
  have hequal : '=' ∉ cs := fun hmem => (h _ hmem).2 rfl
  exact hasNoEquation_of_outside cs (outside_append fun c hc => (h c hc).1) (fun hhead => hequal (List.mem_of_head? hhead))
    fun hpiece => hequal (hpiece.subset (by simp))

theorem hasNoEquation_name {s : String} (h : s.toList.all Sql.isNameChar) : HasNoEquation s.toList := by
  rw [List.all_eq_true] at h
  refine hasNoEquation_plain fun c hc => ⟨?_, ?_⟩ <;>
  · rintro rfl
    exact absurd (h _ hc) (by decide)

/-- A quoted text has nothing outside but its quotes. -/
theorem hasNoEquation_quoted (s : String) : HasNoEquation (Literal.text s).quoted.toList := by
  have hbody : ∀ cs : List Char, ∃ marks : List Char, (∀ c ∈ marks, c = '\'') ∧ ∀ rest,
      outside true (cs.flatMap (fun c => if c = '\'' then [c, c] else [c]) ++ '\'' :: rest) =
        marks ++ outside false rest := by
    intro cs
    induction cs with
    | nil => exact ⟨['\''], by simp, fun rest => by simp [outside]⟩
    | cons c cs ih =>
      obtain ⟨marks, hmarks, houtside⟩ := ih
      by_cases hc : c = '\''
      · refine ⟨'\'' :: '\'' :: marks, by simpa using hmarks, fun rest => ?_⟩
        simp [outside, hc, houtside]
      · refine ⟨marks, hmarks, fun rest => ?_⟩
        simp [outside, hc, houtside]
  obtain ⟨marks, hmarks, houtside⟩ := hbody s.toList
  have hquoted (rest : List Char) : outside false ((Literal.text s).quoted.toList ++ rest) =
      '\'' :: marks ++ outside false rest := by
    simp [Literal.quoted, outside, houtside]
  refine hasNoEquation_of_outside _ hquoted (by simp) fun hpiece => ?_
  have hmem : '=' ∈ '\'' :: marks := hpiece.subset (by simp)
  rcases List.mem_cons.mp hmem with h | h
  · exact absurd h (by decide)
  · exact absurd (hmarks _ h) (by decide)

theorem hasNoEquation_ofInt (n : Int) : HasNoEquation (ofInt n).toList := by
  have hdigits : ∀ c ∈ natDigits n.natAbs, c ≠ '\'' ∧ c ≠ '=' := fun c hc => by
    constructor <;>
    · rintro rfl
      exact absurd (isDigit_of_mem_natDigits hc) (by decide)
  refine hasNoEquation_plain fun c hc => ?_
  rw [ofInt, String.toList_ofList] at hc
  split at hc
  · obtain rfl | hc := List.mem_cons.mp hc
    · decide
    · exact hdigits c hc
  · exact hdigits c hc

end Text

namespace Filter

open Text

theorem hasNoEquation_joined {between : String} (hbetween : HasNoEquation between.toList) {fs : List Filter}
    (h : ∀ f ∈ fs, HasNoEquation f.clause.toList) : HasNoEquation (joined between fs).clause.toList := by
  induction fs with
  | nil => exact hasNoEquation_plain (by simp [joined])
  | cons f fs ih =>
    obtain ⟨hf, hfs⟩ := List.forall_mem_cons.mp h
    cases fs with
    | nil => rwa [joined_singleton]
    | cons g fs =>
      rw [joined_cons_cons, append_clause, append_clause, String.toList_append, String.toList_append]
      exact hf.append (hbetween.append (ih hfs))

end Filter

namespace Condition

open Text

theorem hasNoEquation_parenthesised {f : Filter} (h : HasNoEquation f.clause.toList) :
    HasNoEquation (parenthesised f).clause.toList := by
  rw [parenthesised]
  simp only [Filter.append_clause, Filter.text_clause, String.toList_append]
  exact ((hasNoEquation_plain (by simp)).append h).append (hasNoEquation_plain (by simp))

theorem hasNoEquation_listFilter (vs : List Literal) : HasNoEquation (listFilter vs).clause.toList := by
  refine Filter.hasNoEquation_joined (hasNoEquation_plain (by simp)) (List.forall_mem_map.mpr fun v _ => ?_)
  cases v with
  | integer n => exact hasNoEquation_ofInt n.toInt
  | text s =>
    rw [valueFilter]
    split
    · exact hasNoEquation_quoted s
    · exact hasNoEquation_plain (by simp)

theorem hasNoEquation_connected (between neutral : String) (hbetween : HasNoEquation between.toList)
    {cs : List Condition} (hlength : 2 ≤ cs.length) (h : ∀ c ∈ cs, HasNoEquation c.partFilter.clause.toList) :
    HasNoEquation (connected between neutral (partFilters cs)).clause.toList := by
  have hsome : (cs.map partFilter).isEmpty = false := by
    cases cs with
    | nil => simp at hlength
    | cons c cs => rfl
  rw [partFilters_eq, connected, hsome]
  exact Filter.hasNoEquation_joined hbetween (List.forall_mem_map.mpr h)

section
variable {column : String} (hname : column.toList.all Sql.isNameChar)
include hname

/-- The clause of a list of values behind the name of a column and a word. -/
theorem hasNoEquation_membership {word : String} (hword : ∀ c ∈ word.toList, c ≠ '\'' ∧ c ≠ '=') (vs : List Literal) :
    HasNoEquation (.text (column ++ word) ++ parenthesised (listFilter vs) : Filter).clause.toList := by
  simp only [Filter.append_clause, Filter.text_clause, String.toList_append]
  exact ((hasNoEquation_name hname).append (hasNoEquation_plain hword)).append
    (hasNoEquation_parenthesised (hasNoEquation_listFilter vs))

theorem hasNoEquation_compare (bound : Bound) (v : Literal) :
    HasNoEquation (toFilter (compare column bound v)).clause.toList := by
  have hsign : HasNoEquation (" ".toList ++ (bound.sign.toList ++ " ?".toList)) := by
    cases bound with
    | atLeast =>
      exact hasNoEquation_of_outside [' ', '>', '=', ' ', '?'] (by simp [outside, Bound.sign]) (by decide) (by decide)
    | atMost =>
      exact hasNoEquation_of_outside [' ', '<', '=', ' ', '?'] (by simp [outside, Bound.sign]) (by decide) (by decide)
  simp only [toFilter, String.toList_append, List.append_assoc]
  exact (hasNoEquation_name hname).append hsign

theorem hasNoEquation_hasRole {role : String} (hrole : ¬Roles.isCompound role) :
    HasNoEquation (toFilter (hasRole column role)).clause.toList := by
  have hbefore : HasNoEquation "(',' || ".toList :=
    hasNoEquation_of_outside ['(', '\'', '\'', ' ', '|', '|', ' '] (by simp [outside]) (by decide) (by decide)
  have hbehind : HasNoEquation " || ',') LIKE ? ESCAPE '\\'".toList :=
    hasNoEquation_of_outside [' ', '|', '|', ' ', '\'', '\'', ')', ' ', 'L', 'I', 'K', 'E', ' ', '?', ' ', 'E', 'S', 'C',
      'A', 'P', 'E', ' ', '\'', '\''] (by simp [outside]) (by decide) (by decide)
  simp only [toFilter, hrole, Bool.false_eq_true, if_false, String.toList_append]
  exact (hbefore.append (hasNoEquation_name hname)).append hbehind

end

section
variable {columns : String → Prop} (hcolumns : ∀ column, columns column → column.toList.all Sql.isNameChar)
include hcolumns

theorem hasNoEquation_atom {c : Condition} (h : IsAtom columns c) : HasNoEquation c.toFilter.clause.toList := by
  cases h with
  | isIn hcolumn hvalues =>
    rw [toFilter, if_neg (mt List.isEmpty_iff.mp hvalues)]
    exact hasNoEquation_membership (hcolumns _ hcolumn) (by simp) _
  | notIn hcolumn hvalues =>
    rw [toFilter, if_neg (mt List.isEmpty_iff.mp hvalues)]
    exact hasNoEquation_membership (hcolumns _ hcolumn) (by simp) _
  | isNull hcolumn =>
    simp only [toFilter, Filter.text_clause, String.toList_append]
    exact (hasNoEquation_name (hcolumns _ hcolumn)).append (hasNoEquation_plain (by simp))
  | compare hcolumn => exact hasNoEquation_compare (hcolumns _ hcolumn) _ _
  | hasRole hcolumn hrole => exact hasNoEquation_hasRole (hcolumns _ hcolumn) hrole
  | notHasRole hcolumn hrole =>
    rw [toFilter, Filter.append_clause, Filter.text_clause, String.toList_append]
    exact (hasNoEquation_plain (by simp)).append
      (hasNoEquation_parenthesised (hasNoEquation_hasRole (hcolumns _ hcolumn) hrole))

theorem hasNoEquation_partFilter {c : Condition} (h : IsChoice columns c) :
    HasNoEquation c.toFilter.clause.toList ∧ HasNoEquation c.partFilter.clause.toList := by
  have hatom {c : Condition} (h : IsAtom columns c) : HasNoEquation c.partFilter.clause.toList := by
    have hclause := hasNoEquation_atom hcolumns h
    cases h <;> exact hclause
  cases h with
  | atom h => exact ⟨hasNoEquation_atom hcolumns h, hatom h⟩
  | any hlength h =>
    have hparts := hasNoEquation_connected " OR " "1 = 0" (hasNoEquation_plain (by simp)) hlength
      fun c hc => hatom (h c hc)
    exact ⟨hparts, hasNoEquation_parenthesised hparts⟩

/-- An equation of constants stands outside the quoted texts of a clause only if it is the whole clause. -/
theorem clause_of_equation {c : Condition} (h : IsNormal columns c)
    (hequation : "1 = 1".toList <:+: outside false c.toFilter.clause.toList ∨
      "1 = 0".toList <:+: outside false c.toFilter.clause.toList) :
    c.toFilter.clause = "1 = 1" ∨ c.toFilter.clause = "1 = 0" := by
  have hnone (hclause : HasNoEquation c.toFilter.clause.toList) : False := by
    have hpart (n : Char) : [' ', '='] <:+: ['1', ' ', '=', ' ', n] := ⟨['1'], [' ', n], rfl⟩
    rcases hequation with hpiece | hpiece
    · exact hclause.inside ((hpart '1').trans (by simpa using hpiece))
    · exact hclause.inside ((hpart '0').trans (by simpa using hpiece))
  cases h with
  | always => exact .inl rfl
  | never => exact .inr rfl
  | choice h => exact absurd (hasNoEquation_partFilter hcolumns h).1 hnone
  | all hlength h =>
    exact absurd (hasNoEquation_connected " AND " "1 = 1" (hasNoEquation_plain (by simp)) hlength
      fun c hc => (hasNoEquation_partFilter hcolumns (h c hc)).2) hnone

end

end Condition

end AuditSearch
