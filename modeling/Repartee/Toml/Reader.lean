import Repartee.Toml.Node
import Repartee.Toml.Number
import Repartee.Toml.Text

/-! Reading TOML documents. A document is lines: keys with values, headers of tables and headers of
tables in arrays, each with an optional comment. Arrays may go over several lines and end in a comma;
inline tables may not. Nesting is limited to eighty levels. -/
namespace Repartee.Toml

def isKeyChar (c : Char) : Bool := c.isAlphanum || c == '_' || c == '-'

def readSimpleKey? (cs : List Char) : Option (String × List Char) :=
  match cs with
  | '"' :: rest => (readBasic? (rest.length + 1) rest).map (fun (k, rest) => (String.ofList k, rest))
  | '\'' :: rest => (readLiteral? rest).map (fun (k, rest) => (String.ofList k, rest))
  | cs =>
    let k := cs.takeWhile isKeyChar
    if k = [] then none else some (String.ofList k, cs.dropWhile isKeyChar)

def depthLimit : Nat := 80

def readKeys? : Nat → List Char → Option (List String × List Char)
  | 0, _ => none
  | fuel + 1, cs => do
    let (k, rest) ← readSimpleKey? (skipBlanks cs)
    match skipBlanks rest with
    | '.' :: rest =>
      let (ks, rest) ← readKeys? fuel rest
      some (k :: ks, rest)
    | rest => some ([k], rest)

def readKey? (cs : List Char) : Option (List String × List Char) := readKeys? (depthLimit - 1) cs

def readWord? (word : String) (d : Datum) (cs : List Char) : Option (Datum × List Char) :=
  if word.toList.isPrefixOf cs then some (d, cs.drop word.length) else none

def splitLast? : List String → Option (List String × String)
  | [] => none
  | [k] => some ([], k)
  | k :: rest => (splitLast? rest).map (fun (path, last) => (k :: path, last))

mutual

/- Every step uses up a character or goes one level down, so the length of the text bounds the steps. -/
def readValue? : Nat → Nat → List Char → Option (Datum × List Char)
  | 0, _, _ => none
  | fuel + 1, depth, cs =>
    match cs with
    | '"' :: _ => (readText? cs).map (fun (s, rest) => (.text s, rest))
    | '\'' :: _ => (readText? cs).map (fun (s, rest) => (.text s, rest))
    | '[' :: rest =>
      if depth + 1 < depthLimit then
        (readItems? fuel (depth + 1) (skipLines rest.length rest)).map (fun (ds, rest) => (.list ds, rest))
      else none
    | '\x7b' :: rest =>
      if depth + 1 < depthLimit then
        match skipBlanks rest with
        | '\x7d' :: rest => some (.record [], rest)
        | rest => (readPairs? fuel (depth + 1) rest []).map (fun (fs, rest) => (.record (fieldsData fs), rest))
      else none
    | 't' :: _ => readWord? "true" (.bool true) cs
    | 'f' :: _ => readWord? "false" (.bool false) cs
    | cs => readNumber? cs

def readItems? : Nat → Nat → List Char → Option (List Datum × List Char)
  | 0, _, _ => none
  | fuel + 1, depth, cs =>
    match cs with
    | ']' :: rest => some ([], rest)
    | cs => do
      let (d, rest) ← readValue? fuel depth cs
      match skipLines rest.length rest with
      | ',' :: rest =>
        let (ds, rest) ← readItems? fuel depth (skipLines rest.length rest)
        some (d :: ds, rest)
      | ']' :: rest => some ([d], rest)
      | _ => none

def readPairs? : Nat → Nat → List Char → Fields → Option (Fields × List Char)
  | 0, _, _, _ => none
  | fuel + 1, depth, cs, made => do
    let (keys, rest) ← readKey? cs
    let (path, k) ← splitLast? keys
    let rest ← expect? '=' rest
    let (d, rest) ← readValue? fuel depth (skipBlanks rest)
    let made ← setKey path k d made
    match skipBlanks rest with
    | ',' :: rest => readPairs? fuel depth rest made
    | '\x7d' :: rest => some (made, rest)
    | _ => none

end

structure Progress where
  root : Fields
  current : List String

def readHeader? (cs : List Char) : Option (List String × Bool × List Char) := do
  match cs with
  | '[' :: '[' :: rest =>
    let (keys, rest) ← readKey? rest
    let rest ← expect? ']' rest
    let rest ← expect? ']' rest
    some (keys, true, rest)
  | '[' :: rest =>
    let (keys, rest) ← readKey? rest
    let rest ← expect? ']' rest
    some (keys, false, rest)
  | _ => none

def Progress.header? (p : Progress) (cs : List Char) : Option (Progress × List Char) := do
  let (keys, inArray, rest) ← readHeader? cs
  let (path, k) ← splitLast? keys
  let root ← if inArray then appendTable path k p.root else openTable path k p.root
  some (⟨root, keys⟩, rest)

def Progress.pair? (p : Progress) (cs : List Char) : Option (Progress × List Char) := do
  let (keys, rest) ← readKey? cs
  let (path, k) ← splitLast? keys
  let rest ← expect? '=' rest
  let (d, rest) ← readValue? (2 * rest.length + 2) 0 (skipBlanks rest)
  let root ← descend false (fun _ inner => setKey path k d inner) p.current .header p.root
  some (⟨root, p.current⟩, rest)

def readLines? : Nat → Progress → List Char → Option Progress
  | 0, _, _ => none
  | fuel + 1, p, cs =>
    match skipBlanks cs with
    | [] => some p
    | c :: rest => do
      let (p, after) ←
        if c = '#' ∨ c = '\n' ∨ c = '\r' then some (p, c :: rest)
        else if c = '[' then p.header? (c :: rest)
        else p.pair? (c :: rest)
      let after ← endOfLine? after
      readLines? fuel p after

def dropByteOrderMark : List Char → List Char
  | '\ufeff' :: rest => rest
  | cs => cs

def read? (s : String) : Option Datum := do
  let cs := dropByteOrderMark s.toList
  let p ← readLines? (cs.length + 1) ⟨[], []⟩ cs
  some (.record (fieldsData p.root))

end Repartee.Toml
