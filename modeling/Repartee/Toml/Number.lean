import Repartee.Datum
import Repartee.Decimal.Numeral
import Repartee.Entity

/-! Numbers and dates of TOML documents. Single underscores may stand between digits. Integers are
decimal, or hexadecimal, octal or binary after a mark, and must fit 64 signed bits; a float has digits on
both sides of its point. A float above the largest double is refused. Dates and times are checked and
then kept as unreadable, since nothing here is read from them. -/
namespace Repartee.Toml

def takeDigits (isDigit : Char → Bool) : List Char → List Char × List Char
  | [] => ([], [])
  | c :: rest =>
    if isDigit c then
      match rest with
      | '_' :: d :: more =>
        if isDigit d then
          let (ds, after) := takeDigits isDigit (d :: more)
          (c :: ds, after)
        else ([c], rest)
      | rest =>
        let (ds, after) := takeDigits isDigit rest
        (c :: ds, after)
    else ([], c :: rest)
termination_by cs => cs.length

def isBaseDigit (base : Nat) (c : Char) : Bool := (EntityId.hexValue? c).any (· < base)

def baseValue (base : Nat) (cs : List Char) : Nat :=
  cs.foldl (fun n c => base * n + (EntityId.hexValue? c).getD 0) 0

def readBased? (base : Nat) (cs : List Char) : Option (Datum × List Char) :=
  let (ds, rest) := takeDigits (isBaseDigit base) cs
  let n := baseValue base ds
  if ds = [] ∨ !Datum.fitsInt64 n then none else some (.int n, rest)

def readWhole? (cs : List Char) : Option (List Char × List Char) :=
  match cs with
  | '0' :: rest => some (['0'], rest)
  | cs =>
    let (ds, rest) := takeDigits Char.isDigit cs
    if ds = [] then none else some (ds, rest)

def readFraction? : List Char → Option (Option (List Char) × List Char)
  | '.' :: rest =>
    let (ds, rest) := takeDigits Char.isDigit rest
    if ds = [] then none else some (some ds, rest)
  | cs => some (none, cs)

def readPower? : List Char → Option (Option Int × List Char)
  | [] => some (none, [])
  | c :: rest =>
    if c = 'e' ∨ c = 'E' then
      let (negative, rest) := Decimal.splitSign rest
      let (ds, rest) := takeDigits Char.isDigit rest
      let n : Int := Decimal.digitsValue ds
      if ds = [] then none else some (some (if negative then -n else n), rest)
    else some (none, c :: rest)

def signedInt? (negative : Bool) (n : Nat) : Option Datum :=
  let value : Int := if negative then -(n : Int) else n
  if Datum.fitsInt64 value then some (.int value) else none

def signedFloat? (negative : Bool) (x : Float) : Option Datum :=
  if x.isInf && !negative then none else some (.float (if negative then -x else x))

def readDecimal? (negative : Bool) (cs : List Char) : Option (Datum × List Char) := do
  let (whole, cs) ← readWhole? cs
  let (fraction, cs) ← readFraction? cs
  let (power, cs) ← readPower? cs
  if fraction.isNone && power.isNone then
    let d ← signedInt? negative (Decimal.digitsValue whole)
    some (d, cs)
  else
    let part := fraction.getD []
    let numeral : Decimal.Numeral := ⟨false, Decimal.digitsValue (whole ++ part), power.getD 0 - part.length⟩
    let d ← signedFloat? negative numeral.toFloat
    some (d, cs)

def readSpecial? (negative : Bool) : List Char → Option (Datum × List Char)
  | 'i' :: 'n' :: 'f' :: rest => some (.float (if negative then -Decimal.infinity else Decimal.infinity), rest)
  | 'n' :: 'a' :: 'n' :: rest => some (.float Decimal.nan, rest)
  | _ => none

def readField? (count low high : Nat) (cs : List Char) : Option (Nat × List Char) :=
  let ds := cs.take count
  let n := Decimal.digitsValue ds
  if ds.length = count ∧ ds.all Char.isDigit ∧ low ≤ n ∧ n ≤ high then some (n, cs.drop count) else none

def expect? (c : Char) : List Char → Option (List Char)
  | [] => none
  | d :: rest => if d = c then some rest else none

def isLeapYear (y : Nat) : Bool := y % 4 == 0 && (y % 100 != 0 || y % 400 == 0)

def daysIn (year month : Nat) : Nat :=
  if month = 2 then if isLeapYear year then 29 else 28
  else if month = 4 ∨ month = 6 ∨ month = 9 ∨ month = 11 then 30
  else 31

def readDate? (cs : List Char) : Option (List Char) := do
  let (year, cs) ← readField? 4 0 9999 cs
  let cs ← expect? '-' cs
  let (month, cs) ← readField? 2 1 12 cs
  let cs ← expect? '-' cs
  let (_, cs) ← readField? 2 1 (daysIn year month) cs
  some cs

def readTime? (cs : List Char) : Option (List Char) := do
  let (_, cs) ← readField? 2 0 23 cs
  let cs ← expect? ':' cs
  let (_, cs) ← readField? 2 0 59 cs
  let cs ← expect? ':' cs
  let (_, cs) ← readField? 2 0 60 cs
  match cs with
  | '.' :: rest =>
    let ds := rest.takeWhile Char.isDigit
    if ds = [] then none else some (rest.dropWhile Char.isDigit)
  | cs => some cs

def readOffset? (cs : List Char) : Option (List Char) :=
  match cs with
  | [] => some []
  | c :: rest =>
    if c = 'Z' ∨ c = 'z' then some rest
    else if c = '+' ∨ c = '-' then do
      let (_, rest) ← readField? 2 0 23 rest
      let rest ← expect? ':' rest
      let (_, rest) ← readField? 2 0 59 rest
      some rest
    else some cs

def looksLikeDate (cs : List Char) : Bool :=
  (cs.take 4).all Char.isDigit && cs[4]? == some '-' && (cs.take 4).length == 4

def looksLikeTime (cs : List Char) : Bool := (cs.take 2).all Char.isDigit && cs[2]? == some ':'

def readMoment? (cs : List Char) : Option (List Char) := do
  if looksLikeTime cs then readTime? cs
  else
    let cs ← readDate? cs
    match cs with
    | c :: rest =>
      if (c = 'T' ∨ c = 't' ∨ c = ' ') ∧ looksLikeTime rest then
        let rest ← readTime? rest
        readOffset? rest
      else some cs
    | [] => some []

def readNumber? (cs : List Char) : Option (Datum × List Char) :=
  if looksLikeDate cs || looksLikeTime cs then (readMoment? cs).map (fun rest => (.unreadable, rest))
  else match cs with
    | '0' :: 'x' :: rest => readBased? 16 rest
    | '0' :: 'o' :: rest => readBased? 8 rest
    | '0' :: 'b' :: rest => readBased? 2 rest
    | cs =>
      let signed := Decimal.splitSign cs
      match readSpecial? signed.1 signed.2 with
      | some r => some r
      | none => readDecimal? signed.1 signed.2

end Repartee.Toml
