import Repartee.Line.Grammar
import Repartee.Row
import Repartee.RuleTable
import Repartee.Vocabulary

/-! From rows to rules. Every line of a row becomes a criterion or an effect; the first line that
cannot refuses the whole row. A refused row never stops the others and does not reserve its number; a
row whose number an accepted row has is refused before it is read. -/
namespace Repartee
namespace Vocabulary

def criterionOfLine (v : Vocabulary) (raw : String) (ruleId : Int64) : Except LineError Criterion := do
  match ← Line.parse Cell.criteria.operators raw with
  | .named name => v.criterion name
  | .operation source key op value =>
    match Comparison.ofOperator? op with
    | none => .error (.missingOperator .criteria)
    | some comparison =>
      let literal ← Literal.interpret value ruleId
      match literal, comparison with
      | .bool _, .greaterThan => .error (.unsupportedOperator op literal.name)
      | .bool _, .lessThan => .error (.unsupportedOperator op literal.name)
      | _, _ => .ok (.compare key source comparison literal)

def effectOfLiteral (key : String) (source : Source) (op : Char) (arithmetic : Arithmetic)
    (literal : Literal) : Except LineError Effect :=
  match literal, arithmetic with
  | .timestamp, _ => .ok (.compute key source arithmetic .now)
  | .float x, _ => .ok (.compute key source arithmetic (.number x))
  | .int n, _ => Effect.integer key source arithmetic n
  | .bool b, .set => .ok (.set key source (.bool b))
  | .text s, .set => .ok (.set key source (.text s))
  | _, _ => .error (.unsupportedOperator op literal.name)

def effectOfLine (v : Vocabulary) (raw : String) (ruleId : Int64) : Except LineError Effect := do
  match ← Line.parse Cell.remember.operators raw with
  | .named name => v.effect name
  | .operation source key op value =>
    if source.isReadOnly then .error (.readOnlySource source)
    else match Arithmetic.ofOperator? op with
    | none => .error (.missingOperator .remember)
    | some arithmetic =>
      let literal ← Literal.interpret value ruleId
      effectOfLiteral key source op arithmetic literal

def readLines {α : Type} (ruleId : Int64) (read : String → Int64 → Except LineError α) :
    List String → Except RowError (List α)
  | [] => .ok []
  | text :: rest =>
    match read text ruleId with
    | .error cause => .error (.line ruleId text cause)
    | .ok a =>
      match readLines ruleId read rest with
      | .error e => .error e
      | .ok as => .ok (a :: as)

def cooldownAllowed (x : Float) : Bool := x.isFinite && !(x < 0.0)

def ruleOfRow (v : Vocabulary) (row : Row) : Except RowError Rule := do
  let criteria ← readLines row.id v.criterionOfLine (linesOfCell row.criteria)
  let effects ← readLines row.id v.effectOfLine (linesOfCell row.remember)
  let rule : Rule :=
    { id := row.id, concept := row.concept, who := row.who, response := row.response,
      criteria := criteria, effects := effects, cooldown := row.cooldown }
  match row.cooldown with
  | none => .ok rule
  | some x => if cooldownAllowed x then .ok rule else .error (.invalidCooldown row.id x)

def rulesOfRows (v : Vocabulary) (taken : List Int64) : List Row → List Rule × List RowError
  | [] => ([], [])
  | row :: rest =>
    if row.id ∈ taken then
      let (rules, errors) := v.rulesOfRows taken rest
      (rules, .duplicateId row.id :: errors)
    else match v.ruleOfRow row with
    | .error e =>
      let (rules, errors) := v.rulesOfRows taken rest
      (rules, e :: errors)
    | .ok rule =>
      let (rules, errors) := v.rulesOfRows (row.id :: taken) rest
      (rule :: rules, errors)

end Vocabulary

structure Compiled where
  table : RuleTable
  errors : List RowError

def Vocabulary.compile (v : Vocabulary) (rows : List Row) : Compiled :=
  let (rules, errors) := v.rulesOfRows [] rows
  ⟨RuleTable.ofRules rules, errors⟩

theorem Vocabulary.compiledInTurn (v : Vocabulary) (rows : List Row) :
    (v.compile rows).table = (v.rulesOfRows [] rows).1.foldl RuleTable.insert .empty :=
  RuleTable.builtInTurn _

end Repartee
