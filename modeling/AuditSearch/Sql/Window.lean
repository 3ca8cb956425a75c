/-!
How functions are called by name: which rows a call goes over, in which order, and the windows of calls that
look at the rows around one. The expressions of a call stand in one list; what is held here says which of
them are for what.
-/
namespace AuditSearch.Sql

/-- In which direction values are ordered. -/
structure Direction where
  descending : Bool
  nullsLast : Bool
  deriving DecidableEq, Repr

/-- What the distance of rows is counted in. -/
inductive Distance where
  | rows
  /-- Groups of rows that agree in the order. -/
  | groups
  /-- The difference of the values that the rows are ordered by. -/
  | values
  deriving DecidableEq, Repr

/-- An end of an extent. How far away one before or behind the row is, is an expression of the call. -/
inductive ExtentEnd where
  | start
  | before
  | current
  | behind
  | stop
  deriving DecidableEq, Repr

namespace ExtentEnd

def isFar : ExtentEnd → Bool
  | before | behind => true
  | start | current | stop => false

end ExtentEnd

/-- The rows that are left out of an extent. -/
inductive Exclusion where
  | nothing
  /-- The row itself. -/
  | current
  /-- The rows that agree with it in the order, and itself. -/
  | group
  /-- The other rows that agree with it. -/
  | ties
  deriving DecidableEq, Repr

/-- The rows around one that are looked at. -/
structure Extent where
  distance : Distance
  first : ExtentEnd
  last : ExtentEnd
  exclusion : Exclusion
  deriving DecidableEq, Repr

namespace Extent

/-- All rows up to those that agree with the row in the order. -/
def upToCurrent : Extent :=
  ⟨.values, .start, .current, .nothing⟩

/-- Whether its last end does not come before its first one. -/
def isProper (e : Extent) : Bool :=
  match e.first, e.last with
  | .stop, _ | _, .start | .current, .before | .behind, .before | .behind, .current => false
  | _, _ => true

def farEnds (e : Extent) : Nat :=
  e.first.isFar.toNat + e.last.isFar.toNat

end Extent

/-- A window: its expressions are what the rows are put into parts by, what they are ordered by, and how far
the ends of the extent are away. -/
structure Window where
  /-- The name of the window that it takes the rest from. -/
  base : Option String
  /-- Whether it is that window, with nothing added. -/
  isBase : Bool
  parts : Nat
  order : List Direction
  extent : Option Extent
  deriving DecidableEq, Repr

namespace Window

def rowsAround (w : Window) : Extent :=
  w.extent.getD .upToCurrent

/-- The window with the rest that it takes from one of those that have names. A window takes an order only
if it has none, and takes nothing from one with an extent. There is none if the name is not known. -/
def completed? {α : Type} (known : List (String × Window × List α)) (w : Window) (xs : List α) :
    Option (Window × List α) :=
  match w.base with
  | none => some (w, xs)
  | some name => do
    let (b, ys) ← known.lookup name
    if w.isBase then some (b, ys)
    else if w.parts != 0 || b.extent.isSome || (!b.order.isEmpty && !w.order.isEmpty) then none
    else some ({ w with base := none, parts := b.parts, order := b.order ++ w.order }, ys ++ xs)

/-- Whether its extent has a meaning: a difference of values is that of one value. -/
def isProper (w : Window) : Bool :=
  w.rowsAround.distance != .values || w.rowsAround.farEnds == 0 || w.order.length == 1

def partsOf {α : Type} (w : Window) (xs : List α) : List α :=
  xs.take w.parts

def orderOf {α : Type} (w : Window) (xs : List α) : List α :=
  (xs.drop w.parts).take w.order.length

def farEndsOf {α : Type} (w : Window) (xs : List α) : List α :=
  xs.drop (w.parts + w.order.length)

end Window

/-- How the arguments of a call are written. -/
inductive CallForm where
  | plain
  | distinct
  | star
  deriving DecidableEq, Repr

/-- What the expressions of a call are: its arguments, what the rows are ordered by, a condition on them, and
the expressions of a window, one behind the other. -/
structure CallShape where
  form : CallForm
  arguments : Nat
  order : List Direction
  isFiltered : Bool
  window : Option Window
  /-- How many queries around the call the one is whose rows a function of groups goes over. -/
  level : Nat
  deriving DecidableEq, Repr

namespace CallShape
variable {α : Type}

def ofArguments (n : Nat) : CallShape :=
  ⟨.plain, n, [], false, none, 0⟩

def isBare (s : CallShape) : Bool :=
  s.order.isEmpty && !s.isFiltered && s.window.isNone

def argumentsOf (s : CallShape) (xs : List α) : List α :=
  xs.take s.arguments

def orderOf (s : CallShape) (xs : List α) : List α :=
  (xs.drop s.arguments).take s.order.length

def conditionOf (s : CallShape) (xs : List α) : List α :=
  (xs.drop (s.arguments + s.order.length)).take s.isFiltered.toNat

def inFront (s : CallShape) : Nat :=
  s.arguments + s.order.length + s.isFiltered.toNat

def windowOf (s : CallShape) (xs : List α) : List α :=
  xs.drop s.inFront

end CallShape

end AuditSearch.Sql
