import Repartee.Entity
import Repartee.Text.Quoted
import Repartee.Decimal.Style

/-! The values that state holds. Every value has one of six kinds, and every kind has a zero: false, 0,
0.0, the empty text, the nil entity and black. Numbers of any kind but entity and color can be placed on
the real line; a text is placed by its fingerprint. The full written form of a value, as labels and
reports show it, puts the kind around the content, quotes texts and gives floats with all the digits
that tell them apart. -/
namespace Repartee

structure Color where
  red : UInt8
  green : UInt8
  blue : UInt8
  deriving DecidableEq, Repr

namespace Color

def black : Color := ⟨0, 0, 0⟩

def white : Color := ⟨255, 255, 255⟩

end Color

inductive Kind where
  | bool
  | int
  | float
  | text
  | entity
  | color
  deriving DecidableEq, Repr

namespace Kind

@[reducible] def Carrier : Kind → Type
  | bool => Bool
  | int => Int64
  | float => Float
  | text => String
  | entity => EntityId
  | color => Color

def zero : (k : Kind) → k.Carrier
  | bool => false
  | int => 0
  | float => 0.0
  | text => ""
  | entity => EntityId.nil
  | color => Color.black

def name : Kind → String
  | bool => "bool"
  | int => "int"
  | float => "float"
  | text => "string"
  | entity => "entity"
  | color => "color"

end Kind

inductive Value where
  | bool (b : Bool)
  | int (n : Int64)
  | float (x : Float)
  | text (s : String)
  | entity (id : EntityId)
  | color (c : Color)
  deriving DecidableEq, Repr

namespace Value

def kind : Value → Kind
  | bool _ => .bool
  | int _ => .int
  | float _ => .float
  | text _ => .text
  | entity _ => .entity
  | color _ => .color

def ofCarrier : (k : Kind) → k.Carrier → Value
  | .bool, b => bool b
  | .int, n => int n
  | .float, x => float x
  | .text, s => text s
  | .entity, id => entity id
  | .color, c => color c

def as? : (k : Kind) → Value → Option k.Carrier
  | .bool, bool b => some b
  | .int, int n => some n
  | .float, float x => some x
  | .text, text s => some s
  | .entity, entity id => some id
  | .color, color c => some c
  | _, _ => none

@[simp] theorem asOfCarrier (k : Kind) (x : k.Carrier) : (ofCarrier k x).as? k = some x := by
  cases k <;> rfl

theorem asSomeIff {k : Kind} {v : Value} {x : k.Carrier} : v.as? k = some x ↔ v = ofCarrier k x := by
  constructor
  · intro h; cases k <;> cases v <;> simp_all [as?, ofCarrier]
  · rintro rfl; simp

theorem asNoneIff {k : Kind} {v : Value} : v.as? k = none ↔ v.kind ≠ k := by
  cases k <;> cases v <;> simp [as?, kind]

@[simp] theorem kindOfCarrier (k : Kind) (x : k.Carrier) : (ofCarrier k x).kind = k := by
  cases k <;> rfl

def same : Value → Value → Bool
  | bool a, bool b => a == b
  | int a, int b => a == b
  | float a, float b => a == b
  | text a, text b => a == b
  | entity a, entity b => a == b
  | color a, color b => a == b
  | _, _ => false

end Value

/- The 64-bit FNV-1a hash of the UTF-8 bytes, cut to its upper 53 bits so that it is a whole double. -/
def fingerprint (s : String) : Float :=
  let hash := s.toByteArray.toList.foldl (fun h b => (h ^^^ b.toUInt64) * 0x100000001b3) (0xcbf29ce484222325 : UInt64)
  (hash >>> 11).toFloat

def Value.number? : Value → Option Float
  | .bool b => some (if b then 1.0 else 0.0)
  | .int n => some (Float.ofInt n.toInt)
  | .float x => some x
  | .text s => some (fingerprint s)
  | .entity _ => none
  | .color _ => none

def EntityId.description (id : EntityId) : String := "EntityId(" ++ id.toText ++ ")"

def Color.description (c : Color) : String :=
  "Rgb \x7b r: " ++ toString c.red.toNat ++ ", g: " ++ toString c.green.toNat ++ ", b: " ++
    toString c.blue.toNat ++ " \x7d"

def boolText (b : Bool) : String := if b then "true" else "false"

def intText (n : Int64) : String := toString n.toInt

def floatText (x : Float) : String := Decimal.Style.scientific.write x

def Value.description : Value → String
  | bool b => "Bool(" ++ boolText b ++ ")"
  | int n => "Int(" ++ intText n ++ ")"
  | float x => "Float(" ++ floatText x ++ ")"
  | text s => "Str(" ++ Text.quoted s ++ ")"
  | entity id => "Entity(" ++ id.description ++ ")"
  | color c => "Color(" ++ c.description ++ ")"

end Repartee
