import Repartee.Datum
import Repartee.Decimal.Style
import Repartee.Entity

/-! Writing JSON documents: without blanks, the fields of a record in the order of their names. -/
namespace Repartee.Json

def escapeChar (c : Char) : List Char :=
  if c = '"' ∨ c = '\\' then ['\\', c]
  else if c = '\n' then ['\\', 'n']
  else if c = '\r' then ['\\', 'r']
  else if c = '\t' then ['\\', 't']
  else if c = '\x08' then ['\\', 'b']
  else if c = '\x0c' then ['\\', 'f']
  else if c.toNat < 0x20 then '\\' :: 'u' :: EntityId.hexDigits 4 c.toNat
  else [c]

def writeText (s : String) : String := String.ofList ('"' :: s.toList.flatMap escapeChar ++ ['"'])

def writeFloat (x : Float) : String := if x.isFinite then Decimal.Style.document.write x else "null"

def insertField (f : String × String) : List (String × String) → List (String × String)
  | [] => [f]
  | g :: rest => if f.1 < g.1 then f :: g :: rest else g :: insertField f rest

def sortFields (fs : List (String × String)) : List (String × String) := fs.foldr insertField []

def commaJoin (parts : List String) : String := ",".intercalate parts

mutual

def write : Datum → String
  | .null => "null"
  | .bool b => if b then "true" else "false"
  | .int n => toString n
  | .float x => writeFloat x
  | .text s => writeText s
  | .unreadable => "null"
  | .list items => "[" ++ commaJoin (writeItems items) ++ "]"
  | .record fields =>
    let parts := (sortFields (writeFields fields)).map (fun f => writeText f.1 ++ ":" ++ f.2)
    "\x7b" ++ commaJoin parts ++ "\x7d"

def writeItems : List Datum → List String
  | [] => []
  | d :: rest => write d :: writeItems rest

def writeFields : List (Option String × Datum) → List (String × String)
  | [] => []
  | (name, d) :: rest => (name.getD "", write d) :: writeFields rest

end

end Repartee.Json
