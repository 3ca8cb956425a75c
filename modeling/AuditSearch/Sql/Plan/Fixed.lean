import AuditSearch.Sql.Plan.Term

/-!
Columns that have one value wherever a condition holds, because a part of it equates them with a constant.
Everywhere else in the condition they stand for that constant.
-/
namespace AuditSearch.Sql

/-- A column and the constant that it is equal to. -/
structure FixedColumn where
  column : ColumnRef
  value : Expr

namespace FixedColumn

/-- The column that an equation fixes, with its value. -/
def ofSides? (a b : Expr) : Option FixedColumn :=
  match a with
  | .column c =>
    if c.level == 0 && b.isConstant && b.affinity?.isNone && Expr.collationOf a b == some .binary then
      some ⟨c, b⟩
    else none
  | _ => none

def isFor (f : FixedColumn) (c : ColumnRef) : Bool :=
  c.level == 0 && f.column.source == c.source && f.column.column == c.column

end FixedColumn

namespace Expr

mutual

/-- The expression with fixed columns in place of the columns. -/
def fixing (known : List FixedColumn) : Expr → Expr
  | column c =>
    match known.find? fun f => f.isFor c with
    | some f => fixed c f.value
    | none => column c
  | call f s args => call f s (fixingAll known args)
  | apply f args => apply f (fixingAll known args)
  | aggregate f s args => aggregate f s (fixingAll known args)
  | coalesce args => coalesce (fixingAll known args)
  | cases args => cases (fixingAll known args)
  | row args => row (fixingAll known args)
  | compare op a b => compare op (a.fixing known) (b.fixing known)
  | and a b => and (a.fixing known) (b.fixing known)
  | or a b => or (a.fixing known) (b.fixing known)
  | between a low high => between (a.fixing known) (low.fixing known) (high.fixing known)
  | among a items => among (a.fixing known) (fixingAll known items)
  | choose a items => choose (a.fixing known) (fixingAll known items)
  | not a => not (a.fixing known)
  | collate c a => collate c (a.fixing known)
  | amongRows a q => amongRows (a.fixing known) q
  | e => e

def fixingAll (known : List FixedColumn) : List Expr → List Expr
  | [] => []
  | e :: es => e.fixing known :: fixingAll known es

end

/-- The parts put together again as they were in a condition, with those that are left over. -/
def rebuilt : Expr → List Expr → Expr × List Expr
  | and a b, parts =>
    let (a, parts) := rebuilt a parts
    let (b, parts) := rebuilt b parts
    (and a b, parts)
  | e, part :: parts =>
    let _ := e
    (part, parts)
  | e, [] => (e, [])

def fixes : Expr → List FixedColumn
  | compare .equal a b =>
    (FixedColumn.ofSides? b a).toList ++ (FixedColumn.ofSides? a b).toList
  | _ => []

/-- The fixed columns of parts, each with the place of the part that fixes it; the last part comes first. -/
def fixedColumns (parts : List Expr) : List (Nat × FixedColumn) :=
  parts.zipIdx.reverse.foldl (fun known (e, i) =>
    e.fixes.foldl (fun known f =>
      if known.any fun (_, g) => g.isFor f.column then known else known ++ [(i, f)]) known) []

/-- One column fewer is free in parts in each step; `fuel` bounds the steps. -/
def fixParts : Nat → List Expr → List Expr
  | 0, parts => parts
  | fuel + 1, parts =>
    let known := fixedColumns parts
    let next := parts.zipIdx.map fun (e, i) =>
      e.fixing ((known.filter fun (j, _) => j != i).map (·.2))
    if allSame next parts then parts else fixParts fuel next

/-- A condition of several parts in which the columns are fixed that one of its parts equates with a
constant. -/
def withFixedColumns (e : Expr) : Expr :=
  match e with
  | and _ _ =>
    let parts := e.directParts
    (e.rebuilt (fixParts (parts.length + 1) parts)).1
  | e => e

end Expr

end AuditSearch.Sql
