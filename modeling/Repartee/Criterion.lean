import Repartee.Query
import Repartee.Comparison
import Repartee.Line.Literal

/-! Criteria: the conditions a rule sets. A comparison reads a key at the kind of its literal; an
interval takes the value under a key for its place on the real line; a custom criterion brings its own
inquiry. Checking a criterion may write a zero under a key that was missing. -/
namespace Repartee

inductive Criterion where
  | compare (key : String) (source : Source) (op : Comparison) (literal : Literal)
  | within (key : String) (source : Source) (interval : Interval)
  | custom (label : String) (test : Query → Inquiry Bool)

def intervalText (x : Float) : String := Decimal.Style.positionalOnly.write x

def Interval.label (i : Interval) : String :=
  (if i.complement then "!" else "") ++ "[" ++ intervalText i.lower ++ ", " ++ intervalText i.upper ++ "]"

def cellLabel (source : Source) (key : String) : String := source.letter.toString ++ " " ++ key

namespace Criterion

def outside (key : String) (source : Source) (x : Float) : Criterion :=
  within key source (Interval.excluding x)

def label : Criterion → String
  | compare key source op literal => cellLabel source key ++ " " ++ op.symbol ++ " " ++ literal.label
  | within key source interval => cellLabel source key ++ " in " ++ interval.label
  | custom label _ => label

def check (c : Criterion) (q : Query) (st : Stores) : Bool × Stores :=
  match c with
  | compare key source op literal =>
    let (x, st) := q.value literal.kind key source st
    (op.holds literal.kind x (literal.valueAt q.now), st)
  | within key source interval =>
    let (r, st) := q.getNumber key source st
    (interval.contains r.1, st)
  | custom _ test => (test q).run q st

def report (c : Criterion) : String := "Predicate(" ++ Text.quoted c.label ++ ")"

end Criterion

end Repartee
