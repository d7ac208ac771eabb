/-! The content of a document, whatever its notation: what both kinds of rule and configuration files
say, and what state is written as. A leaf that no type of this library can be read from, such as a date
or a number out of range, is kept as unreadable, so that it does no harm where it is not asked for. A
field name that is no text is kept without one. -/
namespace Repartee

inductive Datum where
  | null
  | bool (b : Bool)
  | int (n : Int)
  | float (x : Float)
  | text (s : String)
  | unreadable
  | list (items : List Datum)
  | record (fields : List (Option String × Datum))

namespace Datum

def ofFields (fields : List (String × Datum)) : Datum := record (fields.map (fun f => (some f.1, f.2)))

def namedFields? : Datum → Option (List (String × Datum))
  | record fields => fields.mapM (fun f => f.1.map (fun name => (name, f.2)))
  | _ => none

def bool? : Datum → Option Bool
  | bool b => some b
  | _ => none

def text? : Datum → Option String
  | text s => some s
  | _ => none

def fitsInt64 (n : Int) : Bool := Int64.minValue.toInt ≤ n && n ≤ Int64.maxValue.toInt

def int64? : Datum → Option Int64
  | int n => if fitsInt64 n then some (Int64.ofInt n) else none
  | _ => none

def natBelow? (bound : Nat) : Datum → Option Nat
  | int n => if 0 ≤ n ∧ n < bound then some n.toNat else none
  | _ => none

def byte? (d : Datum) : Option UInt8 := (d.natBelow? UInt8.size).map Nat.toUInt8

def word64? (d : Datum) : Option UInt64 := (d.natBelow? UInt64.size).map Nat.toUInt64

def float? : Datum → Option Float
  | int n => some (Float.ofInt n)
  | float x => some x
  | _ => none

def list? {α : Type} (item? : Datum → Option α) : Datum → Option (List α)
  | list items => items.mapM item?
  | _ => none

def optional? {α : Type} (value? : Datum → Option α) : Datum → Option (Option α)
  | null => some none
  | d => (value? d).map some

/-- The values of the named fields, by name from a record and by position from a list. A name may not
come twice, fields of other names are skipped, and a list may end early but not be longer. -/
def fieldsOf? (names : List String) (d : Datum) : Option (List (Option Datum)) :=
  match d with
  | list items =>
    if items.length ≤ names.length then
      some (items.map some ++ List.replicate (names.length - items.length) none)
    else none
  | _ => do
    let fields ← d.namedFields?
    names.mapM (fun name =>
      match fields.filter (fun f => f.1 = name) with
      | [] => some none
      | [f] => some (some f.2)
      | _ => none)

def shorten (n : Nat) : Datum → Datum
  | list items => list (items.take n)
  | d => d

def required? {α : Type} (value? : Datum → Option α) (field : Option Datum) : Option α :=
  field.bind value?

def orElse? {α : Type} (default : α) (value? : Datum → Option α) : Option Datum → Option α
  | none => some default
  | some d => value? d

def variant? (d : Datum) : Option (String × Option Datum) :=
  match d with
  | text name => some (name, none)
  | record [(some name, content)] => some (name, some content)
  | _ => none

end Datum

end Repartee
