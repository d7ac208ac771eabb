import Repartee.Datum.State
import Repartee.Dispatcher
import Repartee.Row

/-! Rows, configurations and the parts of rules as the content of documents. -/
namespace Repartee

def Row.fieldNames : List String :=
  ["Id", "Concept", "Who", "Response", "Criteria", "Remember", "Cooldown"]

def Row.ofDatum? (d : Datum) : Option Row := do
  match ← d.fieldsOf? fieldNames with
  | [id, concept, who, response, criteria, remember, cooldown] =>
    some {
      id := ← Datum.required? Datum.int64? id
      concept := ← Datum.required? Datum.text? concept
      who := ← Datum.required? Datum.text? who
      response := ← Datum.required? Datum.text? response
      criteria := ← Datum.orElse? "" Datum.text? criteria
      remember := ← Datum.orElse? "" Datum.text? remember
      cooldown := ← Datum.orElse? none (Datum.optional? Datum.float?) cooldown }
  | _ => none

def Row.datum (r : Row) : Datum :=
  .ofFields [("Id", .int r.id.toInt), ("Concept", .text r.concept), ("Who", .text r.who),
    ("Response", .text r.response), ("Criteria", .text r.criteria), ("Remember", .text r.remember),
    ("Cooldown", optionDatum Datum.float r.cooldown)]

def Response.ofDatum? (d : Datum) : Option Response := do
  match ← d.fieldsOf? ["rule_id", "speaker", "text", "color"] with
  | [ruleId, speaker, text, color] =>
    some {
      ruleId := ← Datum.required? Datum.int64? ruleId
      speaker := ← Datum.required? Datum.text? speaker
      text := ← Datum.required? Datum.text? text
      color := ← Datum.required? Color.ofDatum? color }
  | _ => none

def Response.datum (r : Response) : Datum :=
  .ofFields [("rule_id", .int r.ruleId.toInt), ("speaker", .text r.speaker), ("text", .text r.text),
    ("color", r.color.datum)]

def RuleState.documentName : RuleState → String
  | idle => "Idle"
  | triggered => "Triggered"

def RuleState.ofDatum? : Datum → Option RuleState :=
  plainVariant? documentName [idle, triggered]

def RuleState.datum (s : RuleState) : Datum := .text s.documentName

def Interval.ofDatum? (d : Datum) : Option Interval := do
  match ← d.fieldsOf? ["lower", "upper", "complement"] with
  | [lower, upper, complement] =>
    some ⟨← Datum.required? Datum.float? lower, ← Datum.required? Datum.float? upper,
      ← Datum.required? Datum.bool? complement⟩
  | _ => none

def Interval.datum (i : Interval) : Datum :=
  .ofFields [("lower", .float i.lower), ("upper", .float i.upper), ("complement", .bool i.complement)]

def Comparison.documentName : Comparison → String
  | equal => "Equal"
  | notEqual => "NotEqual"
  | greaterThan => "GreaterThan"
  | lessThan => "LessThan"

def Comparison.ofDatum? : Datum → Option Comparison :=
  plainVariant? documentName [equal, notEqual, greaterThan, lessThan]

def Comparison.datum (c : Comparison) : Datum := .text c.documentName

def Arithmetic.documentName : Arithmetic → String
  | set => "Set"
  | add => "Add"
  | subtract => "Subtract"
  | multiply => "Multiply"
  | divide => "Divide"

def Arithmetic.ofDatum? : Datum → Option Arithmetic :=
  plainVariant? documentName [set, add, subtract, multiply, divide]

def Arithmetic.datum (a : Arithmetic) : Datum := .text a.documentName

def Operand.ofDatum? (d : Datum) : Option Operand := do
  match ← d.variant? with
  | ("Literal", some d) => d.float?.map Operand.number
  | ("Now", none) => some .now
  | ("Now", some .null) => some .now
  | _ => none

def Operand.datum : Operand → Datum
  | number x => .ofFields [("Literal", .float x)]
  | now => .text "Now"

def Config.ofDatum? (d : Datum) : Option Config := do
  let default : Config := {}
  match ← d.fieldsOf? ["seed", "time_key", "color_key"] with
  | [seed, timeKey, colorKey] =>
    some {
      seed := ← Datum.orElse? default.seed (Datum.optional? Datum.word64?) seed
      timeKey := ← Datum.orElse? default.timeKey (Datum.optional? Datum.text?) timeKey
      colorKey := ← Datum.orElse? default.colorKey Datum.text? colorKey }
  | _ => none

def Config.datum (c : Config) : Datum :=
  .ofFields [("seed", optionDatum (fun s => .int s.toNat) c.seed), ("time_key", optionDatum Datum.text c.timeKey),
    ("color_key", .text c.colorKey)]

end Repartee
