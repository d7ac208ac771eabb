import Repartee.Json.Number
import Repartee.Json.Text

/-! Reading JSON documents. Blanks may stand between any two parts; there are no comments, no trailing
commas and nothing may follow the value. -/
namespace Repartee.Json

def isGap (c : Char) : Bool := c == ' ' || c == '\n' || c == '\t' || c == '\r'

def skipGap (cs : List Char) : List Char := cs.dropWhile isGap

def literal? (word : String) (d : Datum) (cs : List Char) : Option (Datum × List Char) :=
  if word.toList.isPrefixOf cs then some (d, cs.drop word.length) else none

def textDatum : Option String → Datum
  | some s => .text s
  | none => .unreadable

mutual

/- Every call has used up a character of the text, so its length is fuel enough. -/
def readValue? : Nat → List Char → Option (Datum × List Char)
  | 0, _ => none
  | fuel + 1, cs =>
    match cs with
    | '\x7b' :: rest =>
      match skipGap rest with
      | '\x7d' :: rest => some (.record [], rest)
      | rest => (readFields? fuel rest).map (fun (fields, rest) => (.record fields, rest))
    | '[' :: rest =>
      match skipGap rest with
      | ']' :: rest => some (.list [], rest)
      | rest => (readItems? fuel rest).map (fun (items, rest) => (.list items, rest))
    | '"' :: rest => (readText? rest).map (fun (s, rest) => (textDatum s, rest))
    | 'n' :: _ => literal? "null" .null cs
    | 't' :: _ => literal? "true" (.bool true) cs
    | 'f' :: _ => literal? "false" (.bool false) cs
    | cs => readNumber? cs

def readItems? : Nat → List Char → Option (List Datum × List Char)
  | 0, _ => none
  | fuel + 1, cs => do
    let (d, rest) ← readValue? fuel cs
    match skipGap rest with
    | ',' :: rest =>
      let (ds, rest) ← readItems? fuel (skipGap rest)
      some (d :: ds, rest)
    | ']' :: rest => some ([d], rest)
    | _ => none

def readFields? : Nat → List Char → Option (List (Option String × Datum) × List Char)
  | 0, _ => none
  | fuel + 1, cs =>
    match cs with
    | '"' :: rest => do
      let (name, rest) ← readText? rest
      match skipGap rest with
      | ':' :: rest =>
        let (d, rest) ← readValue? fuel (skipGap rest)
        match skipGap rest with
        | ',' :: rest =>
          let (fields, rest) ← readFields? fuel (skipGap rest)
          some ((name, d) :: fields, rest)
        | '\x7d' :: rest => some ([(name, d)], rest)
        | _ => none
      | _ => none
    | _ => none

end

def read? (s : String) : Option Datum := do
  let cs := skipGap s.toList
  let (d, rest) ← readValue? (2 * cs.length + 2) cs
  if skipGap rest = [] then some d else none

end Repartee.Json
