import AuditSearch.Proofs.Condition.Naming

/-! The query that is prepared for the clause of a condition. -/
namespace AuditSearch.EventQuery

open Sql Condition

def eventSource : Source :=
  ⟨.table EventLog.eventTable.name none, none, .any, .every, none⟩

/-- The events that meet a condition whose names have been looked up. -/
def eventBlock (condition : Expr) : Block where
  distinct := false
  items := Column.all.map fun c => .expr (columnExpr c) (some c.name)
  sources := [eventSource]
  condition := some condition
  groups := []
  having := none
  windows := []
  more := []
  isGrouped := false

def foundOrder : List OrderTerm :=
  [⟨columnExpr .createdTimestamp, true, true⟩, ⟨columnExpr .id, true, true⟩]

/-- The statement for the events that meet a condition, the newest first. -/
def eventStatement (condition : Expr) : Statement :=
  ⟨[], [], eventBlock condition, [], foundOrder, none, none⟩

/-- Where the query stands. -/
def queryPlace : Sql.Place :=
  ⟨[], false, true, false, 0, [], [], none, none⟩

section
variable {inner : Place.Inner} {e f : Expr}

theorem bind_of_eq {α β : Type} {x : Lookup α} {a : α} (h : x = pure a) (k : α → Lookup β) : x >>= k = k a := by
  rw [h, pure_bind]

theorem items_eq : (blockOf e).items.mapM (Place.items inner
    { conditionPlace 0 with grouped := true, inConditions := false, windowed := true } ⟨[eventShape], []⟩) =
      pure (Column.all.map fun c => [(columnExpr c, c.name)]) :=
  rfl

theorem block_eq (h : Place.whole inner (conditionPlace 0) e = pure f) :
    Place.block EventLog.tables inner queryPlace (blockOf e) =
      pure (eventBlock f, ⟨[eventShape], []⟩, Column.all.map fun c => .plain c.name (columnExpr c).affinity?) := by
  have hsources : [eventSource].mapM (Place.source EventLog.tables inner queryPlace) =
      pure [(eventSource, eventShape)] := rfl
  have hshapes : Place.shapes [eventShape] = pure [eventShape] := rfl
  have hgroups : Place.goesOverGroups (Column.all.map columnExpr) = pure false := rfl
  have hcondition : (some e).mapM (Place.whole inner (conditionPlace 0)) = pure (some f) := by
    simp [Option.mapM, h]
  -- Each step of the look-up but that of the condition is a computation on the event table.
  unfold Place.block
  refine (bind_of_eq hsources _).trans ?_
  refine (bind_of_eq hshapes _).trans ?_
  refine (bind_of_eq items_eq _).trans ?_
  refine (bind_of_eq (a := []) rfl _).trans ?_
  refine (bind_of_eq hgroups _).trans ?_
  refine (bind_of_eq (a := [eventSource]) rfl _).trans ?_
  refine (bind_of_eq (a := none) rfl _).trans ?_
  refine (bind_of_eq hcondition _).trans ?_
  rfl

theorem selection_eq (h : Place.whole inner (conditionPlace 0) e = pure f) :
    Place.selection EventLog.tables inner queryPlace ⟨[], blockOf e, [], newestFirst, none, none⟩ =
      pure (⟨[], eventBlock f, [], foundOrder, none, none⟩,
        Place.distinctNames (Place.typed (Column.all.map fun c => .plain c.name (columnExpr c).affinity?)
          [eventBlock f])) := by
  unfold Place.selection
  refine (bind_of_eq (block_eq h) _).trans ?_
  refine (bind_of_eq (a := []) rfl _).trans ?_
  refine (bind_of_eq (a := []) rfl _).trans ?_
  refine (bind_of_eq (a := foundOrder) rfl _).trans ?_
  refine (bind_of_eq (a := none) rfl _).trans ?_
  refine (bind_of_eq (a := none) rfl _).trans ?_
  rfl

end

theorem isSound_eventStatement {f : Expr} (hqueries : f.queries = []) (hlevels : ∀ outer, f.aggregateLevels outer = [])
    (fuel : Nat) (outer : Nat → List Nat) :
    Statement.areSound [] outer (fuel + 2) [⟨[], eventBlock f, [], foundOrder, none, none⟩] = true := by
  have hresults : (eventBlock f).results = Column.all.map columnExpr := rfl
  have hcolumns : Expr.allAggregateLevels outer (Column.all.map columnExpr) = [] ∧
      Expr.allAggregates (Column.all.map columnExpr) = [] ∧ Expr.allQueries (Column.all.map columnExpr) = [] :=
    ⟨rfl, rfl, rfl⟩
  have horder : Expr.allAggregateLevels outer (foundOrder.map OrderTerm.expr) = [] ∧
      Expr.allQueries (foundOrder.map OrderTerm.expr) = [] := ⟨rfl, rfl⟩
  have hcondition : Expr.allAggregateLevels outer [f] = [] := by simp [Expr.allAggregateLevels, hlevels]
  have hsound : Selection.isSound outer ⟨[], eventBlock f, [], foundOrder, none, none⟩ = true := by
    simp only [Selection.isSound, Selection.blocks, List.map_nil, List.all_cons, List.all_nil, hresults, horder]
    simp [eventBlock, eventSource, hcolumns, hcondition, Origin.args]
  have hinner : Selection.inner ⟨[], eventBlock f, [], foundOrder, none, none⟩ = [] := by
    have hall : Expr.allQueries (Column.all.map columnExpr ++ f :: foundOrder.map OrderTerm.expr) =
        f.queries ++ [] := rfl
    simp only [Selection.inner, Selection.blocks, List.map_nil, List.flatMap_cons, Block.exprs, hresults]
    simpa [eventBlock, eventSource, Block.origins, Origin.args, hall] using hqueries
  simp [Statement.areSound, hsound, hinner]

/-- A clause that is read as one expression is prepared as the query for the events that meet it. -/
theorem prepare_of_isWhole {clause : String} {ts : List Token} {params : Nat} {e f : Expr}
    (htokens : tokens? clause = some (ts, params)) (hflat : IsFlat ts) (hwhole : IsWhole ts e)
    (hheight : e.height (fun _ => 0) ≤ maxHeight) (hresolves : ∀ inner depth, Resolves inner depth e f) :
    prepare? clause = some ⟨eventStatement f, params, some f⟩ := by
  have hfilter : ts.filter (· != .stop) = ts := by
    simp only [List.filter_eq_self, bne_iff_ne]
    exact fun t ht he => hflat.isOpen (he ▸ ht)
  have hread : leadingExpr? ts = some (e, []) := hwhole.leadingExpr
  have htail : withTail? e true [] = some ⟨[], blockOf e, [], newestFirst, none, none⟩ := rfl
  have hcondition (inner : Place.Inner) (hinner : inner.height = fun _ => 0) :
      Place.whole inner (conditionPlace 0) e = pure f := by
    have hdepth : ¬maxHeight < (conditionPlace 0).depth + e.height inner.height := by
      simp only [conditionPlace, hinner]
      omega
    rw [Place.whole, if_neg hdepth]
    exact ((hresolves inner _).single : Place.single (Place.resolve inner (conditionPlace _) _) = _)
  have hstatement : Statement.ofSelection? EventLog.tables []
      ⟨[], blockOf e, [], newestFirst, none, none⟩ = some (eventStatement f) := by
    have hfound : Resolves ⟨fun _ => 0, fun _ _ => failure⟩ 0 _ _ := hresolves _ 0
    have hselection := selection_eq (hcondition ⟨fun n => ([] : List Nat).getD n 0,
      Place.selectionAt EventLog.tables [] (fun n => ([] : List Nat).getD n 0) 0⟩ rfl)
    unfold Statement.ofSelection?
    simp only [Selection.heights, List.foldl_nil, List.length_nil]
    erw [hselection]
    simpa [eventStatement] using isSound_eventStatement hfound.queries hfound.levels 0 _
  simp [prepare?, htokens, hflat.isOpen, hfilter, hflat.numberQueries, hread, htail, hstatement, eventStatement,
    eventBlock]

/-- The clause of a condition is prepared as the query for the events that meet it. -/
theorem prepare_toFilter {c : Condition} (h : c.IsOverSchema) (hparams : c.paramCount ≤ ParamNames.maxCount)
    (hheight : (written.expr 0 c).height (fun _ => 0) ≤ maxHeight) :
    prepare? c.toFilter.clause = some ⟨eventStatement (found.expr 0 c), c.paramCount, some (found.expr 0 c)⟩ :=
  prepare_of_isWhole (tokens_toFilter h hparams) (isFlat_tokens c 0) (isParsed h 0).whole hheight fun _ _ =>
    resolves_expr h 0

end AuditSearch.EventQuery
