import Repartee.Value
import Repartee.Decimal.Numeral

/-! Comparisons between values of one kind. Floats compare as numbers, so NaN differs from everything
and is neither above nor below; texts compare by their characters; false is below true. Entities and
colors are equal or different but never above or below. Numbers are also compared with closed intervals
and their complements; the complement is what excludes one point. -/
namespace Repartee

def Kind.equal : (k : Kind) → k.Carrier → k.Carrier → Bool
  | .bool, a, b => a == b
  | .int, a, b => a == b
  | .float, a, b => a == b
  | .text, a, b => a == b
  | .entity, a, b => a == b
  | .color, a, b => a == b

def Kind.less : (k : Kind) → k.Carrier → k.Carrier → Bool
  | .bool, a, b => !a && b
  | .int, a, b => a < b
  | .float, a, b => a < b
  | .text, a, b => a < b
  | .entity, _, _ => false
  | .color, _, _ => false

inductive Comparison where
  | equal
  | notEqual
  | greaterThan
  | lessThan
  deriving DecidableEq, Repr

namespace Comparison

def ofOperator? : Char → Option Comparison
  | '=' => some equal
  | '!' => some notEqual
  | '>' => some greaterThan
  | '<' => some lessThan
  | _ => none

def symbol : Comparison → String
  | equal => "="
  | notEqual => "!="
  | greaterThan => ">"
  | lessThan => "<"

def holds (op : Comparison) (k : Kind) (a b : k.Carrier) : Bool :=
  match op with
  | equal => k.equal a b
  | notEqual => !k.equal a b
  | greaterThan => k.less b a
  | lessThan => k.less a b

end Comparison

structure Interval where
  lower : Float
  upper : Float
  complement : Bool

namespace Interval

def between (lower upper : Float) : Interval := ⟨lower, upper, false⟩

def exactly (x : Float) : Interval := between x x

def atLeast (x : Float) : Interval := between x Decimal.infinity

def atMost (x : Float) : Interval := between (-Decimal.infinity) x

def excluding (x : Float) : Interval := ⟨x, x, true⟩

/- Orders become closed half-lines, so they include the bound itself. -/
def ofComparison (op : Comparison) (x : Float) : Interval :=
  match op with
  | .equal => exactly x
  | .notEqual => excluding x
  | .greaterThan => atLeast x
  | .lessThan => atMost x

def contains (i : Interval) (x : Float) : Bool := (i.lower ≤ x && x ≤ i.upper) != i.complement

end Interval

end Repartee
