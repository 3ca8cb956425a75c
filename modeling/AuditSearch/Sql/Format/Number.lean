import AuditSearch.Sql.Format.Digits

/-!
The written forms of numbers, as a format asks for them.
-/
namespace AuditSearch.Sql

/-- How a value is to be written. -/
structure Style where
  /-- Whether spaces that are missing to the width are put behind it. -/
  isLeft : Bool
  /-- What stands in front of numbers that are not negative. -/
  sign : Option Char
  /-- Whether the form tells its base, or keeps its point. -/
  isExplicit : Bool
  /-- Whether characters are counted, not bytes, and numbers may have more digits. -/
  isWide : Bool
  /-- Whether zeros that are missing to the width are put in front of it. -/
  isZeroPadded : Bool
  hasThousands : Bool
  width : Nat
  precision : Option Nat
  deriving DecidableEq, Repr

namespace Style

def plain : Style :=
  ⟨false, none, false, false, false, false, 0, none⟩

end Style

/-- How integers are written. -/
inductive IntegerForm where
  | decimal
  | unsigned
  /-- With the ending of a place in a row. -/
  | ordinal
  | octal
  /-- With small or capital letters, and a mark in small or capital letters. -/
  | hex (isUpper marksUpper : Bool)
  deriving DecidableEq, Repr

namespace IntegerForm

def base : IntegerForm → Nat
  | octal => 8
  | hex _ _ => 16
  | _ => 10

def isSigned : IntegerForm → Bool
  | decimal | ordinal => true
  | _ => false

def mark : IntegerForm → List Char
  | octal => ['0']
  | hex _ marksUpper => ['0', if marksUpper then 'X' else 'x']
  | _ => []

def ending (n : Nat) : List Char :=
  if n / 10 % 10 = 1 then ['t', 'h']
  else
    match n % 10 with
    | 1 => ['s', 't']
    | 2 => ['n', 'd']
    | 3 => ['r', 'd']
    | _ => ['t', 'h']

def digits (f : IntegerForm) (n : Nat) : List Char :=
  let ds := Nat.toDigits f.base n
  match f with
  | hex true _ => ds.map Char.toUpper
  | ordinal => ds ++ ending n
  | _ => ds

/-- Puts a comma in front of each three digits, counted from the end, that others are in front of. -/
def withThousands (ds : List Char) : List Char :=
  (ds.reverse.zipIdx.flatMap fun (c, i) => if i % 3 = 0 ∧ 0 < i then [',', c] else [c]).reverse

def write (f : IntegerForm) (s : Style) (v : Int) : List Char :=
  let n := if f.isSigned then v.natAbs else (v % (UInt64.size : Int)).toNat
  let sign := if !f.isSigned then none else if v < 0 then some '-' else s.sign
  let room : Int := s.width - (if sign.isSome then 1 else 0)
  let least : Int := (s.precision.map Int.ofNat).getD (-1)
  let least := (if s.isZeroPadded then max room least else least).toNat
  let ds := f.digits n
  let ds := List.replicate (least - ds.length) '0' ++ ds
  let ds :=
    match f with
    | .decimal | .unsigned => if s.hasThousands then withThousands ds else ds
    | _ => ds
  (if s.isExplicit && n != 0 then f.mark else []) ++ sign.toList ++ ds

end IntegerForm

/-- How fractions are written. -/
inductive RealForm where
  | fixed
  | scientific
  /-- Whichever is shorter. -/
  | general
  deriving DecidableEq, Repr

namespace RealForm

def wholePart (hasThousands : Bool) (d : Digits) : List Char :=
  if d.point ≤ 0 then ['0']
  else
    let n := d.point.toNat
    let ds := d.digits.take n ++ List.replicate (n - d.digits.length) '0'
    if hasThousands then IntegerForm.withThousands ds else ds

def fractionPart (places : Nat) (d : Digits) : List Char :=
  let zeros := min (-d.point).toNat places
  let ds := (d.digits.drop d.point.toNat).take (places - zeros)
  List.replicate zeros '0' ++ ds ++ List.replicate (places - zeros - ds.length) '0'

/-- A fraction without zeros at its end. One zero stays behind the point if the form is wide. -/
def withoutZeros (isWide : Bool) (fraction : List Char) : List Char :=
  match (fraction.reverse.dropWhile (· == '0')).reverse with
  | [] => if isWide then ['.', '0'] else []
  | ds => '.' :: ds

def exponent (isUpper : Bool) (e : Int) : List Char :=
  (if isUpper then 'E' else 'e') :: (if e < 0 then '-' else '+') ::
    (if e.natAbs < 10 then ['0'] else []) ++ Text.natDigits e.natAbs

def digitsOf (f : RealForm) (s : Style) (precision : Nat) (r : Real) : Digits :=
  let most := if s.isWide then 26 else 16
  let count : Digits.Count :=
    match f with
    | fixed => .behindPoint precision
    | scientific => .significant (precision + 1)
    | general => .significant (max precision 1)
  match r with
  | .finite q => .ofMagnitude count most q
  | .infinite _ => ⟨['9'], 1000⟩

def body (f : RealForm) (s : Style) (isUpper : Bool) (precision : Nat) (d : Digits) : List Char :=
  let e := d.point - 1
  let (isScientific, places, dropsZeros) : Bool × Nat × Bool :=
    match f with
    | fixed => (false, precision, s.isWide)
    | scientific => (true, precision, s.isWide)
    | general =>
      let p := max precision 1 - 1
      if e < -4 ∨ (p : Int) < e then (true, p, !s.isExplicit) else (false, ((p : Int) - e).toNat, !s.isExplicit)
  let shown := if isScientific then { d with point := 1 } else d
  let known := if dropsZeros then min places (shown.digits.length + shown.point.natAbs) else places
  let fraction := fractionPart known shown
  let hasPoint := decide (0 < places) || s.isExplicit || s.isWide
  wholePart (s.hasThousands && !isScientific) shown ++
    (if !hasPoint then []
      else if dropsZeros then withoutZeros s.isWide fraction
      else '.' :: fraction) ++
    (if isScientific then exponent isUpper e else [])

def write (f : RealForm) (s : Style) (isUpper : Bool) (r : Real) : List Char :=
  let precision := s.precision.getD 6
  match r, s.isZeroPadded with
  | .infinite negative, false =>
    (if negative then ['-'] else s.sign.toList) ++ ['I', 'n', 'f']
  | r, _ =>
    let d := f.digitsOf s precision r
    let isHidden := s.isExplicit && s.sign.isNone && f == .fixed && decide (d.point ≤ -(precision : Int))
    let sign := if r.isNegative then (if isHidden then none else some '-') else s.sign
    let out := sign.toList ++ f.body s isUpper precision d
    if s.isZeroPadded && !s.isLeft then
      sign.toList ++ List.replicate (s.width - out.length) '0' ++ out.drop sign.toList.length
    else out

end RealForm

namespace Real

/-- A number as a text, with 15 digits at most. -/
def toText (r : Real) : String :=
  String.ofList (RealForm.general.write { Style.plain with isWide := true, precision := some 15 } false r)

end Real

end AuditSearch.Sql
