import Repartee.Datum
import Repartee.Decimal.Numeral

/-! Numbers of JSON documents. A number without fraction and exponent is an integer if it fits 64 bits,
signed or unsigned; minus zero is a float. Any other number is a float, made by one rounded scaling: the
leading digits that fit 64 unsigned bits, times or divided by a power of ten. Too large a float makes the
number unreadable, too small a one makes it zero. -/
namespace Repartee.Json

structure Number where
  negative : Bool
  whole : List Char
  fraction : List Char
  power : Option (Bool × List Char)

def digit (c : Char) : Nat := c.toNat - '0'.toNat

def leadingDigits (n : Nat) : List Char → Nat × Nat
  | [] => (n, 0)
  | c :: rest =>
    if 10 * n + digit c < UInt64.size then leadingDigits (10 * n + digit c) rest
    else (n, rest.length + 1)

def powerOfTen (e : Nat) : Float := Float.ofScientific 1 false e

def scaleDown : Nat → Float → Nat → Float
  | 0, x, _ => x
  | steps + 1, x, e =>
    if e ≤ 308 then x / powerOfTen e
    else if x == 0.0 then x
    else scaleDown steps (x / powerOfTen 308) (e - 308)

def scale? (digits : Nat) (e : Int) : Option Float :=
  let x := Float.ofNat digits
  if e < 0 then some (scaleDown 8 x (-e).toNat)
  else if e ≤ 308 then
    let y := x * powerOfTen e.toNat
    if y.isInf then none else some y
  else if digits = 0 then some 0.0
  else none

def Number.writtenPower (n : Number) : Int :=
  match n.power with
  | none => 0
  | some (negative, ds) => if negative then -(Decimal.digitsValue ds : Int) else Decimal.digitsValue ds

def Number.float? (n : Number) : Option Float :=
  let (digits, dropped) := leadingDigits 0 n.whole
  let (digits, unused) := leadingDigits digits n.fraction
  let e := (dropped : Int) - (n.fraction.length - unused : Nat) + n.writtenPower
  (scale? digits e).map (fun x => if n.negative then -x else x)

def floatDatum : Option Float → Datum
  | some x => .float x
  | none => .unreadable

def Number.datum (n : Number) : Datum :=
  if n.fraction = [] ∧ n.power.isNone then
    let value := Decimal.digitsValue n.whole
    if n.negative then
      if 0 < value ∧ Datum.fitsInt64 (-(value : Int)) then .int (-(value : Int)) else floatDatum n.float?
    else if value < UInt64.size then .int value else floatDatum n.float?
  else floatDatum n.float?

def readWhole? : List Char → Option (List Char × List Char)
  | '0' :: rest =>
    match rest with
    | [] => some (['0'], [])
    | c :: _ => if c.isDigit then none else some (['0'], rest)
  | cs =>
    let ds := cs.takeWhile Char.isDigit
    if ds.isEmpty then none else some (ds, cs.dropWhile Char.isDigit)

def readFraction? : List Char → Option (List Char × List Char)
  | '.' :: rest =>
    let ds := rest.takeWhile Char.isDigit
    if ds.isEmpty then none else some (ds, rest.dropWhile Char.isDigit)
  | cs => some ([], cs)

def readPower? : List Char → Option (Option (Bool × List Char) × List Char)
  | [] => some (none, [])
  | c :: rest =>
    if c = 'e' ∨ c = 'E' then
      let (negative, cs) := Decimal.splitSign rest
      let ds := cs.takeWhile Char.isDigit
      if ds.isEmpty then none else some (some (negative, ds), cs.dropWhile Char.isDigit)
    else some (none, c :: rest)

def readNumber? (cs : List Char) : Option (Datum × List Char) := do
  let (negative, cs) := match cs with
    | '-' :: rest => (true, rest)
    | cs => (false, cs)
  let (whole, cs) ← readWhole? cs
  let (fraction, cs) ← readFraction? cs
  let (power, cs) ← readPower? cs
  some (Number.datum ⟨negative, whole, fraction, power⟩, cs)

end Repartee.Json
