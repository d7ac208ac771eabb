import Repartee.Effect

/-! The names a line may use on its own. A vocabulary maps each name to a criterion, an effect or
both; a name registered again gets the new meaning. -/
namespace Repartee

structure Vocabulary where
  criteria : Assoc String Criterion := {}
  effects : Assoc String Effect := {}

namespace Vocabulary

def empty : Vocabulary := {}

def addCriterion (v : Vocabulary) (name : String) (c : Criterion) : Vocabulary :=
  { v with criteria := v.criteria.insert name c }

def addEffect (v : Vocabulary) (name : String) (e : Effect) : Vocabulary :=
  { v with effects := v.effects.insert name e }

def targetSeenKey : String := "TargetSeen"

def targetNotSeen : Criterion := .compare targetSeenKey .event .equal (.bool false)

def markTargetSeen : Effect := .set targetSeenKey .target (.bool true)

def builtin : Vocabulary :=
  (empty.addCriterion "TargetNotSeen" targetNotSeen).addEffect "MarkTargetSeen" markTargetSeen

def criterion (v : Vocabulary) (name : String) : Except LineError Criterion :=
  match v.criteria.get? name with
  | some c => .ok c
  | none => .error (.unknownCriterion name)

def effect (v : Vocabulary) (name : String) : Except LineError Effect :=
  match v.effects.get? name with
  | some e => .ok e
  | none => .error (.unknownEffect name)

end Vocabulary

end Repartee
