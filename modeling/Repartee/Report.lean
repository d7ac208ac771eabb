import Repartee.Dispatcher
import Repartee.Vocabulary

/-! Full reports of the larger things: what a rule, a table, a dispatcher or a vocabulary holds, as one
line of text. A record shows its name and its fields, a list stands in brackets, a map in braces, and an
absent value is None. -/
namespace Repartee

def commaList (parts : List String) : String := ", ".intercalate parts

def reportList (parts : List String) : String := "[" ++ commaList parts ++ "]"

def reportMap (entries : List (String × String)) : String :=
  "\x7b" ++ commaList (entries.map (fun e => e.1 ++ ": " ++ e.2)) ++ "\x7d"

def reportRecord (name : String) (fields : List (String × String)) : String :=
  name ++ " \x7b " ++ commaList (fields.map (fun f => f.1 ++ ": " ++ f.2)) ++ " \x7d"

def reportOption (content : Option String) : String :=
  match content with
  | none => "None"
  | some s => "Some(" ++ s ++ ")"

def Rule.report (r : Rule) : String :=
  reportRecord "Rule" [
    ("id", intText r.id),
    ("concept", Text.quoted r.concept),
    ("who", Text.quoted r.who),
    ("predicates", reportList (r.criteria.map Criterion.report)),
    ("effects", reportList (r.effects.map Effect.report)),
    ("response", Text.quoted r.response),
    ("cooldown", reportOption (r.cooldown.map floatText)),
    ("triggered", boolText r.lastFired.isSome),
    ("trigger_timestamp", floatText r.firedAt)]

def RuleTable.report (t : RuleTable) : String :=
  let key (k : String × String) : String := "(" ++ Text.quoted k.1 ++ ", " ++ Text.quoted k.2 ++ ")"
  reportRecord "RuleTable" [
    ("buckets", reportMap (t.buckets.entries.map (fun e => (key e.1, reportList (e.2.map Rule.report))))),
    ("archived", reportList (t.archived.map Rule.report))]

def Store.report (s : Store) : String :=
  reportRecord "StateMap" [
    ("values", reportMap (s.entries.map (fun e => (Text.quoted e.1, e.2.description))))]

def Config.report (c : Config) : String :=
  reportRecord "DispatcherConfig" [
    ("seed", reportOption (c.seed.map (fun s => toString s.toNat))),
    ("time_key", reportOption (c.timeKey.map Text.quoted)),
    ("color_key", Text.quoted c.colorKey)]

def Dispatcher.report (d : Dispatcher) : String :=
  reportRecord "Dispatcher" [
    ("table", d.table.report),
    ("world", Store.report d.world),
    ("config", d.config.report),
    ("sinks", toString d.sinks.length)]

def sortNames (names : List String) : List String := names.mergeSort (fun a b => decide (a ≤ b))

def Vocabulary.report (v : Vocabulary) : String :=
  let names {α : Type} (m : Assoc String α) : String := reportList ((sortNames m.keys).map Text.quoted)
  reportRecord "CodeRegistry" [("predicates", names v.criteria), ("effects", names v.effects)]

end Repartee
