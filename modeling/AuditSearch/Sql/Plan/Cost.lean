/-!
Estimated costs and numbers of rows. They are logarithms, ten times those to the base of two.
-/
namespace AuditSearch.Sql

abbrev Cost :=
  Int

namespace Cost

def ofNat (n : Nat) : Cost :=
  let k := n.log2
  if n < 2 then 0 else 10 * k + [0, 2, 3, 5, 6, 7, 8, 9].getD (((n <<< 3) >>> k) % 8) 0

/-- By how much the sum of two numbers is more than the greater one, from the distance of their costs. -/
def excess (distance : Nat) : Cost :=
  if 49 < distance then 0
  else if 31 < distance then 1
  else
    [10, 10, 9, 9, 8, 8, 7, 7, 7, 6, 6, 6, 5, 5, 5, 4, 4, 4, 4, 3, 3, 3, 3, 3, 3, 2, 2, 2, 2, 2, 2,
      2].getD distance 0

def plus (a b : Cost) : Cost :=
  max a b + excess (a - b).natAbs

def logarithm (c : Cost) : Cost :=
  if c ≤ 10 then 0 else ofNat c.toNat - 33

end Cost

end AuditSearch.Sql
