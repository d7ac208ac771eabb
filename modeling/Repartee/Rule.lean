import Repartee.Effect

/-! Rules: criteria, effects and a line of dialogue, together with the time of the last firing. A rule
that never fired may always be considered; a fired one only after its cooldown, and never again when it
has none. The line is spoken in the name of a speaker, whose name and color a query sees among the facts
of the character. -/
namespace Repartee

structure Response where
  ruleId : Int64
  speaker : String
  text : String
  color : Color
  deriving DecidableEq, Repr

inductive RuleState where
  | idle
  | triggered
  deriving DecidableEq, Repr

structure Rule where
  id : Int64
  concept : String
  who : String
  response : String
  criteria : List Criterion := []
  effects : List Effect := []
  cooldown : Option Float := none
  lastFired : Option Float := none

def nameKey : String := "Name"

def subtitleColorKey : String := "SubtitleColor"

structure Speaker where
  id : EntityId
  name : String
  subtitleColor : Color := Color.white
  extraState : Store := {}

def Speaker.characterState (s : Speaker) : Store :=
  (s.extraState.insert nameKey (.text s.name)).insert subtitleColorKey (.color s.subtitleColor)

def checkAll (q : Query) : List Criterion → Stores → Bool × Stores
  | [], st => (true, st)
  | c :: rest, st =>
    match c.check q st with
    | (true, st) => checkAll q rest st
    | (false, st) => (false, st)

/- The effects are applied in order; a refused one does not stop the others. -/
def applyAll (q : Query) : List Effect → Stores → Stores
  | [], st => st
  | e :: rest, st => applyAll q rest (e.apply q st).2

namespace Rule

def specificity (r : Rule) : Nat := r.criteria.length

def isOneShot (r : Rule) : Bool := r.cooldown.isNone

def state (r : Rule) : RuleState := if r.lastFired.isSome then .triggered else .idle

def firedAt (r : Rule) : Float := r.lastFired.getD 0.0

def isEligible (r : Rule) (now : Float) : Bool :=
  match r.lastFired, r.cooldown with
  | none, _ => true
  | some t, some c => now - t ≥ c
  | some _, none => false

def passes (r : Rule) (q : Query) (st : Stores) : Bool × Stores := checkAll q r.criteria st

def markFired (r : Rule) (now : Float) : Rule := { r with lastFired := some now }

def fire (r : Rule) (q : Query) (st : Stores) : Rule × Stores :=
  (r.markFired q.now, applyAll q r.effects st)

def respond (r : Rule) (q : Query) (colorKey : String) : Response :=
  let name := (q.character.read? .text nameKey).getD ""
  { ruleId := r.id
    speaker := if name = "" then q.who else name
    text := r.response
    color := (q.character.read? .color colorKey).getD Color.black }

end Rule

end Repartee
