import Repartee.Line.Grammar
import Repartee.Line.Literal

/-! Rows as they are authored, and why a row is refused. The two cells hold one line each per line of
text; a row without a cooldown makes a rule that fires once. -/
namespace Repartee

structure Row where
  id : Int64
  concept : String
  who : String
  response : String
  criteria : String := ""
  remember : String := ""
  cooldown : Option Float := none
  deriving DecidableEq, Repr

def Row.withCriteria (row : Row) (lines : List String) : Row := { row with criteria := cellOfLines lines }

def Row.withRemember (row : Row) (lines : List String) : Row := { row with remember := cellOfLines lines }

inductive RowError where
  | line (ruleId : Int64) (text : String) (cause : LineError)
  | duplicateId (ruleId : Int64)
  | invalidCooldown (ruleId : Int64) (cooldown : Float)
  deriving DecidableEq, Repr

namespace RowError

def ruleId : RowError → Int64
  | line id _ _ => id
  | duplicateId id => id
  | invalidCooldown id _ => id

def message : RowError → String
  | line id text cause =>
    "rule " ++ intText id ++ ": cannot compile '" ++ text ++ "': " ++ cause.message
  | duplicateId id => "rule " ++ intText id ++ ": id already in use"
  | invalidCooldown id cooldown =>
    "rule " ++ intText id ++ ": invalid cooldown " ++ Decimal.Style.positionalOnly.write cooldown

end RowError

end Repartee
