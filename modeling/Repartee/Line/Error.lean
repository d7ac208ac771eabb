import Repartee.Source

/-! The two cells of a rule row and why one of their lines is refused. -/
namespace Repartee

inductive Cell where
  | criteria
  | remember
  deriving DecidableEq, Repr

def Cell.operators : Cell → List Char
  | criteria => ['=', '>', '<', '!']
  | remember => ['=', '-', '+', '*', '/']

def Cell.expected : Cell → String
  | criteria => "= > < !"
  | remember => "= + - * /"

inductive LineError where
  | empty
  | unknownSource (letter : Char)
  | missingOperator (cell : Cell)
  | missingKey (op : Char)
  | missingValue (op : Char)
  | invalidNumber (token : String)
  | unsupportedOperator (op : Char) (kind : String)
  | integerMultiplication
  | integerDivision
  | readOnlySource (source : Source)
  | unknownCriterion (name : String)
  | unknownEffect (name : String)
  deriving DecidableEq, Repr

def LineError.message : LineError → String
  | empty => "empty code"
  | unknownSource letter =>
    "unknown state source '" ++ letter.toString ++ "' (expected one of e, c, m, w, t)"
  | missingOperator cell => "no operator found (expected one of " ++ cell.expected ++ ")"
  | missingKey op => "missing key before operator '" ++ op.toString ++ "'"
  | missingValue op => "missing value after operator '" ++ op.toString ++ "'"
  | invalidNumber token => "invalid number: " ++ token
  | unsupportedOperator op kind =>
    "operator '" ++ op.toString ++ "' is not supported for " ++ kind ++ " values"
  | integerMultiplication =>
    "integer multiplication is not supported, add a decimal point to the value"
  | integerDivision => "integer division is not supported, add a decimal point to the value"
  | readOnlySource source => "cannot write to read-only " ++ source.name ++ " state"
  | unknownCriterion name => "no custom predicate named '" ++ name ++ "'"
  | unknownEffect name => "no custom effect named '" ++ name ++ "'"

end Repartee
