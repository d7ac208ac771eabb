import Repartee.Decimal.Shortest

/-! The written form of a double: its shortest digits, laid out by a style. A style says which orders
of magnitude are written without an exponent, whether a whole number keeps a point and a zero, and
which of two equally near digits is taken. The order of a number is the place of its point, counted
from before its first digit. -/
namespace Repartee.Decimal

structure Style where
  positional : Int → Bool
  pointZero : Bool
  tie : Tie

/- An exponent below a ten-thousandth and from ten to the sixteenth on; whole numbers keep a point. -/
def Style.scientific : Style := ⟨fun order => -3 ≤ order && order ≤ 16, true, .up⟩

def Style.positionalOnly : Style := ⟨fun _ => true, false, .up⟩

def Style.document : Style := ⟨fun order => -4 ≤ order && order ≤ 16, true, .toEven⟩

def zeros (n : Nat) : List Char := List.replicate n '0'

def layPositional (style : Style) (ds : List Char) (order : Int) : List Char :=
  if order ≤ 0 then '0' :: '.' :: zeros (-order).toNat ++ ds
  else if (ds.length : Int) ≤ order then
    ds ++ zeros (order.toNat - ds.length) ++ (if style.pointZero then ['.', '0'] else [])
  else ds.take order.toNat ++ '.' :: ds.drop order.toNat

def layExponent (ds : List Char) (order : Int) : List Char :=
  let tail := 'e' :: (toString (order - 1)).toList
  match ds with
  | [] => tail
  | [d] => d :: tail
  | d :: rest => d :: '.' :: rest ++ tail

def Style.layMagnitude (style : Style) (d : Digits) : List Char :=
  let ds := Nat.toDigits 10 d.digits
  let order := (ds.length : Int) + d.exponent
  if d.digits = 0 then '0' :: (if style.pointZero then ['.', '0'] else [])
  else if style.positional order then layPositional style ds order
  else layExponent ds order

def signBit : Nat := 9223372036854775808

def Style.write (style : Style) (x : Float) : String :=
  let bits := x.toBits.toNat
  if x.isNaN then "NaN"
  else
    let sign := if signBit ≤ bits then "-" else ""
    if x.isInf then sign ++ "inf"
    else sign ++ String.ofList (style.layMagnitude ((Binary.ofBits (bits % signBit)).shortest style.tie))

end Repartee.Decimal
