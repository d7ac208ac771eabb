/-! The fewest decimal digits that read back as a given double. A finite double is m · 2^q, and the
reals that round to it form an interval around it, whose ends belong to it when m is even. On each
grid of multiples of a power of ten, from coarse to fine, the two neighbours of the double are tried;
the first grid with a neighbour in the interval wins, and of two such neighbours the nearer one. -/
namespace Repartee.Decimal

structure Binary where
  mantissa : Nat
  exponent : Int
  deriving DecidableEq, Repr

def leadingBit : Nat := 4503599627370496

def Binary.ofBits (bits : Nat) : Binary :=
  let field : Nat := bits / leadingBit % 2048
  let part : Nat := bits % leadingBit
  if field = 0 then ⟨part, -1074⟩ else ⟨part + leadingBit, (field : Int) - 1075⟩

structure Digits where
  digits : Nat
  exponent : Int
  deriving DecidableEq, Repr

inductive Tie where
  | toEven
  | up
  deriving DecidableEq, Repr

def Binary.gapBelow (b : Binary) : Nat :=
  if b.mantissa = leadingBit ∧ -1074 < b.exponent then 1 else 2

def Binary.onGrid? (tie : Tie) (b : Binary) (p : Int) : Option Nat :=
  let q := b.exponent - 2
  let num := Nat.pow 2 q.toNat * Nat.pow 10 (-p).toNat
  let den := Nat.pow 2 (-q).toNat * Nat.pow 10 p.toNat
  let centre := 4 * b.mantissa * num
  let low := (4 * b.mantissa - b.gapBelow) * num
  let high := (4 * b.mantissa + 2) * num
  let closed := b.mantissa % 2 = 0
  let inside (d : Nat) : Bool := if closed then low ≤ d * den && d * den ≤ high else low < d * den && d * den < high
  let d := centre / den
  let below := centre - d * den
  let above := (d + 1) * den - centre
  match inside d, inside (d + 1) with
  | false, false => none
  | true, false => some d
  | false, true => some (d + 1)
  | true, true =>
    if below < above then some d
    else if above < below then some (d + 1)
    else match tie with
      | .up => some (d + 1)
      | .toEven => some (if d % 2 = 0 then d else d + 1)

def stripZeros : Nat → Digits → Digits
  | 0, d => d
  | fuel + 1, d => if d.digits % 10 = 0 ∧ d.digits ≠ 0 then stripZeros fuel ⟨d.digits / 10, d.exponent + 1⟩ else d

def firstGrid (tie : Tie) (b : Binary) : Nat → Int → Digits
  | 0, p => ⟨0, p⟩
  | fuel + 1, p =>
    match b.onGrid? tie p with
    | some d => ⟨d, p⟩
    | none => firstGrid tie b fuel (p - 1)

def Binary.orderBound (b : Binary) : Int :=
  ((Nat.log2 b.mantissa + 1 + b.exponent : Int) * 30103).fdiv 100000 + 1

/- Seventeen digits always suffice, so twenty-two grids from the bound on do too. -/
def Binary.shortest (tie : Tie) (b : Binary) : Digits :=
  if b.mantissa = 0 then ⟨0, 0⟩ else stripZeros 20 (firstGrid tie b 22 b.orderBound)

end Repartee.Decimal
