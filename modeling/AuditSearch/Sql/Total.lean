import AuditSearch.Sql.Eval

/-!
Conditions with an answer on every row: a database gives up on none, so it does not matter in which order
rows are gone through and which parts are looked at.
-/
namespace AuditSearch.Sql

def Routine.isTotal : Routine → Bool
  | abs | boxTreeDepth | document _ _ | glob | like | randomBlob | refused | zeroBlob => false
  | _ => true

namespace Expr

def isShortPattern (params : List Value) : Expr → Bool
  | literal (.text s) => decide (s.utf8ByteSize ≤ Value.maxPatternBytes)
  | param i => decide (((params.getD i .null).text?.getD "").utf8ByteSize ≤ Value.maxPatternBytes)
  | _ => false

def isEscape : Expr → Bool
  | literal (.text s) => s.toList.length == 1
  | _ => false

mutual

def isTotal (params : List Value) : Expr → Bool
  | literal _ | truth _ | param _ | column _ => true
  | fixed _ a | not a | collate _ a => a.isTotal params
  | apply (.routine .like) [pattern, a] => pattern.isShortPattern params && a.isTotal params
  | apply (.routine .like) [pattern, a, escape] =>
    pattern.isShortPattern params && a.isTotal params && escape.isEscape
  | apply (.routine r) args => r.isTotal && areTotal params args
  | apply _ args | coalesce args | cases args => areTotal params args
  | compare _ a b => a.width == 1 && (collationOf a b).isSome && a.isTotal params && b.isTotal params
  | between a low high => a.width == 1 && a.isTotal params && low.isTotal params && high.isTotal params
  | among a items => a.width == 1 && a.ownCollation.isSome && a.isTotal params && areTotal params items
  | and a b | or a b => a.isTotal params && b.isTotal params
  | name _ | call _ _ _ | aggregate _ _ _ | amongRows _ _ | choose _ _ | row _ | query _ | hasRows _ => false

def areTotal (params : List Value) : List Expr → Bool
  | [] => true
  | e :: es => e.isTotal params && areTotal params es

end

end Expr

end AuditSearch.Sql
