import AuditSearch.Proofs.Condition.Tokens

/-!
Templates of clauses: characters with literals among them. A template is written either as a filter, which has a
question mark in the place of each literal, or in full, with the literals themselves. Filling in the question marks of
the filter gives the full text unless a question mark of a quoted text stands in front of a literal.
-/
namespace AuditSearch

/-- A clause before it is known how its literals are given. -/
abbrev Template := List (Char ⊕ Literal)

namespace Template

def text (s : String) : Template :=
  s.toList.map .inl

def place (v : Literal) : Template :=
  [.inr v]

def params (d : Template) : List Literal :=
  d.filterMap Sum.getRight?

/-- The clause with a question mark for each literal, and the literals. -/
def toFilter (d : Template) : Filter :=
  ⟨String.ofList (d.map (Sum.elim id fun _ => '?')), d.params⟩

/-- The clause with each literal in its place. -/
def inPlace (d : Template) : String :=
  String.ofList (d.flatMap (Sum.elim (fun c => [c]) fun v => v.quoted.toList))

def parenthesised (d : Template) : Template :=
  text "(" ++ d ++ text ")"

def joined (between : String) : List Template → Template
  | [] => []
  | d :: ds => d ++ ds.flatMap (text between ++ ·)

/-- No question mark is written in front of a literal. -/
def IsLegible (d : Template) : Prop :=
  d.Pairwise fun a b => a = .inl '?' → b.isLeft

section
variable (a b d : Template) (s between : String) (v : Literal) (ds : List Template)

@[simp] theorem params_append : params (a ++ b) = a.params ++ b.params :=
  List.filterMap_append ..

@[simp] theorem params_text : params (text s) = [] := by
  simp [params, text]

theorem mem_params {d : Template} {v : Literal} : v ∈ d.params ↔ .inr v ∈ d := by
  simp [params]

@[simp] theorem toFilter_append : toFilter (a ++ b) = a.toFilter ++ b.toFilter := by
  ext1 <;> simp [toFilter]

@[simp] theorem toFilter_text : toFilter (text s) = .text s := by
  ext1
  · simp [toFilter, text, Function.comp_def]
  · simp [toFilter]

@[simp] theorem toFilter_place : toFilter (place v) = ⟨"?", [v]⟩ := rfl

@[simp] theorem toFilter_parenthesised : toFilter (parenthesised d) = Condition.parenthesised d.toFilter := by
  simp only [parenthesised, Condition.parenthesised, toFilter_append, toFilter_text]

@[simp] theorem inPlace_append : inPlace (a ++ b) = a.inPlace ++ b.inPlace := by
  simp [inPlace]

@[simp] theorem inPlace_text : inPlace (text s) = s := by
  simp [inPlace, text, List.flatMap_map]

@[simp] theorem inPlace_place : inPlace (place v) = v.quoted := by
  simp [inPlace, place]

@[simp] theorem inPlace_parenthesised : inPlace (parenthesised d) = "(" ++ d.inPlace ++ ")" := by
  simp only [parenthesised, inPlace_append, inPlace_text]

theorem joined_cons_cons : joined between (a :: b :: ds) = a ++ (text between ++ joined between (b :: ds)) := by
  simp [joined]

@[simp] theorem toFilter_joined : toFilter (joined between ds) = .joined between (ds.map toFilter) := by
  induction ds with
  | nil => ext1 <;> simp [joined, toFilter, params]
  | cons d ds ih =>
    cases ds with
    | nil => simp [joined, Filter.joined_singleton]
    | cons e ds =>
      rw [List.map_cons, List.map_cons, Filter.joined_cons_cons, ← List.map_cons, ← ih, joined_cons_cons,
        toFilter_append, toFilter_append, toFilter_text]

@[simp] theorem inPlace_joined : inPlace (joined between ds) = between.intercalate (ds.map inPlace) := by
  induction ds with
  | nil => simp [joined, inPlace]
  | cons d ds ih =>
    cases ds with
    | nil => simp [joined]
    | cons e ds =>
      rw [joined_cons_cons, inPlace_append, inPlace_append, ih]
      simp [String.append_assoc]

end

/-! ### Filling in -/

theorem head_quoted (v : Literal) : ∃ c cs, v.quoted.toList = c :: cs ∧ c ≠ '?' := by
  cases v with
  | integer n =>
    simp only [Literal.quoted, Text.ofInt, String.toList_ofList]
    split
    · exact ⟨_, _, rfl, by decide⟩
    · obtain ⟨d, ds, hcons⟩ := List.exists_cons_of_ne_nil (Text.natDigits_ne_nil n.toInt.natAbs)
      refine ⟨d, ds, hcons, ?_⟩
      rintro rfl
      have hdigit : Text.isDigit '?' = true := Text.isDigit_of_mem_natDigits (n := n.toInt.natAbs) (by simp [hcons])
      exact absurd hdigit (by decide)
  | text s => exact ⟨'\'', _, String.toList_ofList, by decide⟩

theorem inlineInto_nil (cs : List Char) : Filter.inlineInto cs [] = cs := by
  induction cs with
  | nil => rfl
  | cons c cs ih => rw [Filter.inlineInto, ih]; simp

theorem inlineInto_cons {c : Char} (hc : c ≠ '?') (cs : List Char) (ps : List Literal) :
    Filter.inlineInto (c :: cs) ps = c :: Filter.inlineInto cs ps := by
  rw [Filter.inlineInto]
  simp [hc]

theorem inlineInto_iff (d : Template) : Filter.inlineInto (d.map (Sum.elim id fun _ => '?')) d.params =
    d.flatMap (Sum.elim (fun c => [c]) fun v => v.quoted.toList) ↔ d.IsLegible := by
  -- A written question mark takes the next literal if there is one, and then the texts differ right there.
  induction d with
  | nil => simp [IsLegible, params, Filter.inlineInto]
  | cons a d ih =>
    rw [IsLegible, List.pairwise_cons, ← IsLegible, ← ih, List.map_cons, List.flatMap_cons]
    cases a with
    | inr v =>
      have hparams : params (.inr v :: d) = v :: params d := rfl
      simp [hparams, Filter.inlineInto]
    | inl c =>
      have hparams : params (.inl c :: d) = params d := rfl
      rw [hparams]
      by_cases hc : c = '?'
      · subst hc
        cases hps : params d with
        | nil =>
          have hleft : ∀ v, .inr v ∉ d := fun v hv => by simpa [hps] using mem_params.mpr hv
          simp [inlineInto_nil, hleft]
        | cons p ps =>
          obtain ⟨e, es, hquoted, he⟩ := head_quoted p
          have hright : .inr p ∈ d := mem_params.mp (by simp [hps])
          have hleft : ¬∀ v, .inr v ∉ d := fun h => h p hright
          simp [Filter.inlineInto, hquoted, he, hleft]
      · simp [inlineInto_cons hc, hc]

/-- Filling in the question marks of a filter gives the full text just if none is in the way. -/
theorem inlineText_iff (d : Template) : d.toFilter.inlineText = d.inPlace ↔ d.IsLegible := by
  rw [Filter.inlineText, toFilter, inPlace, String.ofList_inj, String.toList_ofList, inlineInto_iff]

theorem isLegible_place {s : String} (h : '?' ∉ s.toList) (v : Literal) (u : String) :
    (text s ++ (place v ++ text u)).IsLegible := by
  have hleft (u : String) : IsLegible (text u) := List.pairwise_of_forall_mem_list fun a _ b hb _ => by
    obtain ⟨c, -, rfl⟩ := List.mem_map.mp hb
    rfl
  refine List.pairwise_append.mpr ⟨hleft s, List.pairwise_cons.mpr ⟨fun _ _ h => by simp at h, hleft u⟩, ?_⟩
  rintro a ha b - rfl
  exact absurd (by simpa [text] using ha) h

/-! ### Marks -/

/-- The question marks and the literals of a template. -/
def marks (d : Template) : Template :=
  d.filter fun a => decide (a = .inl '?') || a.isRight

theorem isLegible_marks (d : Template) : d.marks.IsLegible ↔ d.IsLegible := by
  rw [IsLegible, IsLegible, marks, List.pairwise_filter]
  constructor
  · refine fun h => h.imp fun {a b} hab ha => ?_
    cases b with
    | inl _ => rfl
    | inr v => exact hab (by simp [ha]) rfl ha
  · exact fun h => h.imp fun hab _ _ => hab

@[simp] theorem marks_append (a b : Template) : marks (a ++ b) = a.marks ++ b.marks :=
  List.filter_append ..

theorem mark_mem_marks {d : Template} : .inl '?' ∈ d.marks ↔ .inl '?' ∈ d := by
  simp [marks]

theorem place_mem_marks {d : Template} {v : Literal} : .inr v ∈ d.marks ↔ .inr v ∈ d := by
  simp [marks]

theorem marks_text {s : String} (h : '?' ∉ s.toList) : marks (text s) = [] := by
  simp only [marks, text, List.filter_eq_nil_iff, List.mem_map]
  rintro _ ⟨c, hc, rfl⟩
  have hne : c ≠ '?' := fun he => h (he ▸ hc)
  simp [hne]

theorem marks_parenthesised (d : Template) : marks (parenthesised d) = d.marks := by
  rw [parenthesised, marks_append, marks_append, marks_text (by decide), marks_text (by decide), List.nil_append,
    List.append_nil]

theorem marks_joined {between : String} (h : '?' ∉ between.toList) (ds : List Template) :
    marks (joined between ds) = ds.flatMap marks := by
  induction ds with
  | nil => rfl
  | cons d ds ih =>
    cases ds with
    | nil => simp [joined]
    | cons e ds => rw [joined_cons_cons, marks_append, marks_append, marks_text h, ih]; rfl

end Template

namespace Condition

/-! ### Templates of conditions -/

/-- One value of a list, which is `long` or not. -/
def valueTemplate (long : Bool) : Literal → Template
  | .integer n => .text (Literal.integer n).quoted
  | .text s => if long && isQuotable s then .text (Literal.text s).quoted else .place (.text s)

def listTemplate (values : List Literal) : Template :=
  .joined ", " (values.map (valueTemplate (decide (maxBoundTexts < values.length))))

/-- The templates of the parts of a connective, or `neutral` if it has none. -/
def connectedTemplate (between neutral : String) (parts : List Template) : Template :=
  if parts.isEmpty then .text neutral else .joined between parts

mutual

def template : Condition → Template
  | always => .text "1 = 1"
  | never => .text "1 = 0"
  | all parts => connectedTemplate " AND " "1 = 1" (partTemplates parts)
  | any parts => connectedTemplate " OR " "1 = 0" (partTemplates parts)
  | not part => .text "NOT " ++ .parenthesised (template part)
  | isIn column values =>
    if values.isEmpty then .text "1 = 0" else .text (column ++ " IN ") ++ .parenthesised (listTemplate values)
  | notIn column values =>
    if values.isEmpty then .text "1 = 1" else .text (column ++ " NOT IN ") ++ .parenthesised (listTemplate values)
  | isNull column => .text (column ++ " IS NULL")
  | compare column bound value => .text (column ++ " " ++ bound.sign ++ " ") ++ .place value
  | hasRole column role =>
    if Roles.isCompound role then .text "1 = 0"
    else .text ("(',' || " ++ column ++ " || ',') LIKE ") ++ .place (.text (rolePattern role)) ++ .text " ESCAPE '\\'"

def partTemplates : List Condition → List Template
  | [] => []
  | c :: cs => (if isConnective c then .parenthesised (template c) else template c) :: partTemplates cs

end

def partTemplate (c : Condition) : Template :=
  if isConnective c then .parenthesised c.template else c.template

@[simp] theorem partTemplates_eq (cs : List Condition) : partTemplates cs = cs.map partTemplate := by
  induction cs with
  | nil => rfl
  | cons c cs ih => simp [partTemplates, partTemplate, ih]

theorem toFilter_valueTemplate (long : Bool) (v : Literal) : (valueTemplate long v).toFilter = valueFilter long v := by
  cases v with
  | integer n => simp [valueTemplate, valueFilter]
  | text s =>
    simp only [valueTemplate, valueFilter]
    split <;> simp

theorem toFilter_listTemplate (vs : List Literal) : (listTemplate vs).toFilter = listFilter vs := by
  simp [listTemplate, listFilter, Function.comp_def, toFilter_valueTemplate]

theorem toFilter_connectedTemplate {between neutral : String} {ds : List Template} :
    (connectedTemplate between neutral ds).toFilter = connected between neutral (ds.map Template.toFilter) := by
  simp only [connectedTemplate, connected, List.isEmpty_map]
  split <;> simp

theorem toFilter_partTemplate {c : Condition} (h : c.template.toFilter = c.toFilter) :
    c.partTemplate.toFilter = c.partFilter := by
  simp only [partTemplate, partFilter]
  split <;> simp [h]

theorem toFilter_template (c : Condition) : c.template.toFilter = c.toFilter := by
  induction c using partsInduction with
  | test c hc =>
    cases c with
    | always | never | isNull _ => simp [template, toFilter]
    | isIn _ vs | notIn _ vs =>
      simp only [template, toFilter]
      split <;> simp [toFilter_listTemplate]
    | compare _ _ _ => ext1 <;> simp [template, toFilter, String.append_assoc]
    | hasRole _ role =>
      simp only [template, toFilter]
      split
      · simp
      · ext1 <;> simp [String.append_assoc]
    | all _ | any _ | not _ => simp [isTest] at hc
  | all parts ih | any parts ih =>
    simp only [template, toFilter, partTemplates_eq, partFilters_eq, toFilter_connectedTemplate, List.map_map]
    congr 1
    exact List.map_congr_left fun c hc => toFilter_partTemplate (ih c hc)
  | not c ih => simp [template, toFilter, ih]

end Condition

end AuditSearch
