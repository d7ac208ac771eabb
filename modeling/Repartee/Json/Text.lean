import Repartee.Entity

/-! Texts of JSON documents. Escapes give 16-bit units, so a text may hold halves of a character that
do not belong together; such a text is well formed but has no value. -/
namespace Repartee.Json

inductive Piece where
  | char (c : Char)
  | unit (n : Nat)

def simpleEscape? : Char → Option Char
  | '"' => some '"'
  | '\\' => some '\\'
  | '/' => some '/'
  | 'b' => some '\x08'
  | 'f' => some '\x0c'
  | 'n' => some '\n'
  | 'r' => some '\r'
  | 't' => some '\t'
  | _ => none

def readPieces? : List Char → Option (List Piece × List Char)
  | [] => none
  | '"' :: rest => some ([], rest)
  | '\\' :: 'u' :: a :: b :: c :: d :: rest => do
    let n ← EntityId.hexNumber? [a, b, c, d]
    let (ps, rest) ← readPieces? rest
    some (.unit n :: ps, rest)
  | '\\' :: c :: rest => do
    let c ← simpleEscape? c
    let (ps, rest) ← readPieces? rest
    some (.char c :: ps, rest)
  | c :: rest =>
    if c.toNat < 0x20 then none
    else do
      let (ps, rest) ← readPieces? rest
      some (.char c :: ps, rest)

def isUpperHalf (n : Nat) : Bool := 0xD800 ≤ n && n < 0xDC00

def isLowerHalf (n : Nat) : Bool := 0xDC00 ≤ n && n < 0xE000

def joinPieces? : List Piece → Option (List Char)
  | [] => some []
  | .char c :: rest => (joinPieces? rest).map (c :: ·)
  | [.unit n] => if isUpperHalf n || isLowerHalf n then none else some [Char.ofNat n]
  | .unit n :: .unit m :: rest =>
    if isUpperHalf n then
      if isLowerHalf m then
        (joinPieces? rest).map (Char.ofNat (0x10000 + (n - 0xD800) * 0x400 + (m - 0xDC00)) :: ·)
      else none
    else if isLowerHalf n then none
    else (joinPieces? (.unit m :: rest)).map (Char.ofNat n :: ·)
  | .unit n :: .char c :: rest =>
    if isUpperHalf n || isLowerHalf n then none
    else (joinPieces? rest).map (fun cs => Char.ofNat n :: c :: cs)

def readText? (cs : List Char) : Option (Option String × List Char) :=
  (readPieces? cs).map (fun (ps, rest) => ((joinPieces? ps).map String.ofList, rest))

end Repartee.Json
