import Repartee.Criterion

/-! Effects: what a rule remembers when it fires. Setting overwrites a key, stepping moves a counter
up or down, computing combines the float under a key with a number or with the current time. A refused
write is an answer, not a failure of the rule. -/
namespace Repartee

inductive Arithmetic where
  | set
  | add
  | subtract
  | multiply
  | divide
  deriving DecidableEq, Repr

namespace Arithmetic

def ofOperator? : Char → Option Arithmetic
  | '=' => some set
  | '+' => some add
  | '-' => some subtract
  | '*' => some multiply
  | '/' => some divide
  | _ => none

def symbol : Arithmetic → Char
  | set => '='
  | add => '+'
  | subtract => '-'
  | multiply => '*'
  | divide => '/'

def apply (op : Arithmetic) (current operand : Float) : Float :=
  match op with
  | set => operand
  | add => current + operand
  | subtract => current - operand
  | multiply => current * operand
  | divide => current / operand

end Arithmetic

inductive Operand where
  | number (x : Float)
  | now

namespace Operand

def valueAt (now : Float) : Operand → Float
  | number x => x
  | .now => now

def label : Operand → String
  | number x => floatText x
  | now => "timestamp"

end Operand

inductive Direction where
  | up
  | down
  deriving DecidableEq, Repr

def Direction.symbol : Direction → String
  | up => "+"
  | down => "-"

/-- A change of a counter as it is written. The change itself has to fit a counter too, so nothing
can be lowered by the least integer. -/
structure Step where
  direction : Direction
  amount : Int64
  fits : direction = .down → amount ≠ Int64.minValue

namespace Step

def up (amount : Int64) : Step := ⟨.up, amount, nofun⟩

def down? (amount : Int64) : Option Step :=
  if h : amount = Int64.minValue then none else some ⟨.down, amount, fun _ => h⟩

def change (s : Step) : Int64 :=
  match s.direction with
  | .up => s.amount
  | .down => -s.amount

theorem changeExact (s : Step) :
    s.change.toInt = match s.direction with | .up => s.amount.toInt | .down => -s.amount.toInt := by
  unfold change
  cases h : s.direction with
  | up => rfl
  | down =>
    have differs : s.amount.toInt ≠ Int64.minValue.toInt := fun e => s.fits h (Int64.toInt_inj.1 e)
    have low := s.amount.minValue_le_toInt
    have high := s.amount.toInt_le
    rw [Int64.toInt_minValue] at differs low
    rw [Int64.toInt_maxValue] at high
    rw [Int64.toInt_neg]
    exact Int.bmod_eq_of_le (by omega) (by omega)

def label (s : Step) : String := s.direction.symbol ++ " " ++ intText s.amount

end Step

inductive Effect where
  | set (key : String) (source : Source) (v : Value)
  | step (key : String) (source : Source) (step : Step)
  | compute (key : String) (source : Source) (op : Arithmetic) (operand : Operand)
  | custom (label : String) (run : Query → Inquiry (Except StateError Unit))

namespace Effect

def integer (key : String) (source : Source) (op : Arithmetic) (amount : Int64) : Except LineError Effect :=
  match op with
  | .set => .ok (set key source (.int amount))
  | .add => .ok (step key source (Step.up amount))
  | .subtract =>
    match Step.down? amount with
    | some s => .ok (step key source s)
    | none => .error (.invalidNumber (intText amount))
  | .multiply => .error .integerMultiplication
  | .divide => .error .integerDivision

def label : Effect → String
  | set key source v => cellLabel source key ++ " = " ++ v.description
  | step key source s => cellLabel source key ++ " " ++ s.label
  | compute key source op operand =>
    cellLabel source key ++ " " ++ op.symbol.toString ++ " " ++ operand.label
  | custom label _ => label

def apply (e : Effect) (q : Query) (st : Stores) : Except StateError Unit × Stores :=
  match e with
  | set key source v => q.set key v source st
  | step key source s =>
    let (r, st) := q.increment key source s.change st
    (r.map (fun _ => ()), st)
  | compute key source op operand =>
    let (r, st) := q.transform .float key source (fun x => op.apply x (operand.valueAt q.now)) st
    (r.map (fun _ => ()), st)
  | custom _ run => (run q).run q st

def report (e : Effect) : String := "Effect(" ++ Text.quoted e.label ++ ")"

end Effect

end Repartee
