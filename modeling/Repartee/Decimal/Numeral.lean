/-! Decimal numerals and their nearest double. A numeral is an optional sign, digits with at most one
point and a digit on at least one side of it, and an optional exponent. Numbers too large for a double
read as infinity and numbers too small as zero. -/
namespace Repartee.Decimal

structure Numeral where
  negative : Bool
  digits : Nat
  exponent : Int
  deriving DecidableEq, Repr

def digitsValue (cs : List Char) : Nat := cs.foldl (fun n c => 10 * n + (c.toNat - '0'.toNat)) 0

def digitCount (n : Nat) : Nat := (Nat.toDigits 10 n).length

def infinity : Float := 1.0 / 0.0

def Numeral.magnitude (n : Numeral) : Float :=
  let order := (digitCount n.digits : Int) + n.exponent
  if n.digits = 0 then 0.0
  else if 310 < order then infinity
  else if order < -330 then 0.0
  else match n.exponent with
    | .ofNat e => Float.ofScientific n.digits false e
    | .negSucc e => Float.ofScientific n.digits true (e + 1)

def Numeral.toFloat (n : Numeral) : Float := if n.negative then -n.magnitude else n.magnitude

def splitSign : List Char → Bool × List Char
  | '-' :: rest => (true, rest)
  | '+' :: rest => (false, rest)
  | cs => (false, cs)

def exponent? : List Char → Option Int
  | [] => some 0
  | c :: rest =>
    if c = 'e' ∨ c = 'E' then
      let (negative, ds) := splitSign rest
      if ds.isEmpty || !ds.all Char.isDigit then none
      else some (if negative then -(digitsValue ds : Int) else digitsValue ds)
    else none

def fraction : List Char → List Char × List Char
  | '.' :: rest => (rest.takeWhile Char.isDigit, rest.dropWhile Char.isDigit)
  | cs => ([], cs)

def Numeral.ofChars? (cs : List Char) : Option Numeral := do
  let (negative, body) := splitSign cs
  let whole := body.takeWhile Char.isDigit
  let (part, rest) := fraction (body.dropWhile Char.isDigit)
  if whole.isEmpty && part.isEmpty then none
  let e ← exponent? rest
  some ⟨negative, digitsValue (whole ++ part), e - part.length⟩

def nan : Float := 0.0 / 0.0

def wordValue? (cs : List Char) : Option Float :=
  let word := String.ofList (cs.map Char.toLower)
  if word = "inf" ∨ word = "infinity" then some infinity
  else if word = "nan" then some nan
  else none

def readFloat? (s : String) : Option Float :=
  let (negative, body) := splitSign s.toList
  match wordValue? body with
  | some x => some (if negative then -x else x)
  | none => (Numeral.ofChars? s.toList).map Numeral.toFloat

end Repartee.Decimal
