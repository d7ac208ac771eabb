import Repartee.Line.Error
import Repartee.Decimal.Numeral
import Repartee.Value

/-! The value of a line, read by the first form that fits: the word for the current time, the word for
the rule's own number, a float when there is a point, an integer when there are only digits, a truth
value, and otherwise the text itself. -/
namespace Repartee

inductive Literal where
  | timestamp
  | bool (b : Bool)
  | int (n : Int64)
  | float (x : Float)
  | text (s : String)
  deriving DecidableEq, Repr

namespace Literal

def kind : Literal → Kind
  | timestamp => .float
  | bool _ => .bool
  | int _ => .int
  | float _ => .float
  | text _ => .text

def name : Literal → String
  | timestamp => "timestamp"
  | bool _ => "bool"
  | int _ => "int"
  | float _ => "float"
  | text _ => "string"

def valueAt (now : Float) : (l : Literal) → l.kind.Carrier
  | timestamp => now
  | bool b => b
  | int n => n
  | float x => x
  | text s => s

def label : Literal → String
  | timestamp => "timestamp"
  | bool b => boolText b
  | int n => intText n
  | float x => floatText x
  | text s => Text.quoted s

def sameWord (word : String) (token : String) : Bool := token.toList.map Char.toLower == word.toList

def integer? (cs : List Char) : Option Int64 :=
  let n := Decimal.digitsValue cs
  if cs ≠ [] ∧ n ≤ Int64.maxValue.toInt.toNat then some (Int64.ofNat n) else none

def interpret (token : String) (ruleId : Int64) : Except LineError Literal :=
  let cs := token.toList
  if sameWord "timestamp" token then .ok timestamp
  else if sameWord "rule" token then .ok (int ruleId)
  else if '.' ∈ cs then
    match Decimal.readFloat? token with
    | some x => .ok (float x)
    | none => .error (.invalidNumber token)
  else if cs.all Char.isDigit then
    match integer? cs with
    | some n => .ok (int n)
    | none => .error (.invalidNumber token)
  else if token = "true" then .ok (bool true)
  else if token = "false" then .ok (bool false)
  else .ok (text token)

end Literal

end Repartee
