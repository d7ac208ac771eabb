import Repartee.Datum

/-! The tree that a TOML document builds up. Tables come from headers, from being named on the way to
another table, or from dotted keys, and where a table comes from decides who may add to it: a dotted key
extends only tables that no header has opened, and fills only tables that dotted keys made; a header
opens a table once, and may open one that so far was only named on the way. -/
namespace Repartee.Toml

inductive Origin where
  | header
  | implied
  | dotted
  deriving DecidableEq, Repr

inductive Node where
  | value (d : Datum)
  | table (origin : Origin) (fields : List (String × Node))
  | tables (items : List (List (String × Node)))

abbrev Fields := List (String × Node)

def lookup (k : String) : Fields → Option Node
  | [] => none
  | f :: rest => if f.1 = k then some f.2 else lookup k rest

def replace (k : String) (n : Node) : Fields → Fields
  | [] => [(k, n)]
  | f :: rest => if f.1 = k then (k, n) :: rest else f :: replace k n rest

def descend (viaDots : Bool) (change : Origin → Fields → Option Fields) :
    List String → Origin → Fields → Option Fields
  | [], origin, fields => change origin fields
  | k :: rest, _, fields =>
    match lookup k fields with
    | none => do
      let made := if viaDots then .dotted else .implied
      let inner ← descend viaDots change rest made []
      some (replace k (.table made inner) fields)
    | some (.value _) => none
    | some (.table origin inner) =>
      if viaDots && origin = .header then none
      else do
        let inner ← descend viaDots change rest origin inner
        some (replace k (.table origin inner) fields)
    | some (.tables items) =>
      match items.reverse with
      | [] => none
      | last :: earlier => do
        let last ← descend viaDots change rest .header last
        some (replace k (.tables (earlier.reverse ++ [last])) fields)

def addValue (k : String) (d : Datum) (fields : Fields) : Option Fields :=
  match lookup k fields with
  | some _ => none
  | none => some (fields ++ [(k, .value d)])

def setKey (path : List String) (k : String) (d : Datum) (fields : Fields) : Option Fields :=
  descend true (fun origin inner =>
    if decide (origin = .dotted) == path.isEmpty then none else addValue k d inner) path .header fields

def openTable (path : List String) (k : String) (root : Fields) : Option Fields :=
  descend false (fun _ inner =>
    match lookup k inner with
    | none => some (inner ++ [(k, .table .header [])])
    | some (.table .implied fields) => some (replace k (.table .header fields) inner)
    | some _ => none) path .header root

def appendTable (path : List String) (k : String) (root : Fields) : Option Fields :=
  descend false (fun _ inner =>
    match lookup k inner with
    | none => some (inner ++ [(k, .tables [[]])])
    | some (.tables items) => some (replace k (.tables (items ++ [[]])) inner)
    | some _ => none) path .header root

mutual

def nodeDatum : Node → Datum
  | .value d => d
  | .table _ fields => .record (fieldsData fields)
  | .tables items => .list (itemsData items)

def fieldsData : List (String × Node) → List (Option String × Datum)
  | [] => []
  | (k, n) :: rest => (some k, nodeDatum n) :: fieldsData rest

def itemsData : List (List (String × Node)) → List Datum
  | [] => []
  | fields :: rest => .record (fieldsData fields) :: itemsData rest

end

end Repartee.Toml
