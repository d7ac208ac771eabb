/-! Entity identifiers: 128-bit names of the things in a scene. The written form has 32 lowercase
hexadecimal digits in groups of 8, 4, 4, 4 and 12. Reading also takes the digits without hyphens, and
the hyphenated form in braces or after the uuid name space; letters may be of either case, also those
of the name space. -/
namespace Repartee

structure EntityId where
  bits : BitVec 128
  deriving DecidableEq, Repr

namespace EntityId

def nil : EntityId := ⟨0⟩

instance : Inhabited EntityId := ⟨nil⟩

def isNil (id : EntityId) : Bool := id.bits == 0

def ofRandomBits (word : BitVec 128) : EntityId :=
  ⟨word &&& 0xffffffffffff0fff3fffffffffffffff ||| 0x00000000000040008000000000000000⟩

def hexValue? (c : Char) : Option Nat :=
  if '0' ≤ c ∧ c ≤ '9' then some (c.toNat - '0'.toNat)
  else if 'a' ≤ c ∧ c ≤ 'f' then some (c.toNat - 'a'.toNat + 10)
  else if 'A' ≤ c ∧ c ≤ 'F' then some (c.toNat - 'A'.toNat + 10)
  else none

def hexNumber? (cs : List Char) : Option Nat :=
  cs.foldlM (fun n c => (hexValue? c).map (16 * n + ·)) 0

def hexDigits (width n : Nat) : List Char :=
  let ds := Nat.toDigits 16 n
  List.replicate (width - ds.length) '0' ++ ds

def toText (id : EntityId) : String :=
  let ds := hexDigits 32 id.bits.toNat
  let group (start size : Nat) : List Char := (ds.drop start).take size
  String.ofList (['-'].intercalate [group 0 8, group 8 4, group 12 4, group 16 4, group 20 12])

def ofDigits? (cs : List Char) : Option EntityId :=
  if cs.length = 32 then (hexNumber? cs).map (fun n => ⟨BitVec.ofNat 128 n⟩) else none

def ofHyphenated? (cs : List Char) : Option EntityId :=
  let marks := [8, 13, 18, 23].map (cs[·]?)
  if cs.length = 36 ∧ marks.all (· == some '-') then
    ofDigits? (cs.take 8 ++ (cs.drop 9).take 4 ++ (cs.drop 14).take 4 ++ (cs.drop 19).take 4 ++ cs.drop 24)
  else none

def nameSpace : List Char := "urn:uuid:".toList

def ofText? (s : String) : Option EntityId :=
  let cs := s.toList
  match cs.length with
  | 32 => ofDigits? cs
  | 36 => ofHyphenated? cs
  | 38 => if cs.head? = some '\x7b' ∧ cs.getLast? = some '\x7d' then ofHyphenated? ((cs.drop 1).take 36) else none
  | 45 => if (cs.take 9).map Char.toLower = nameSpace then ofHyphenated? (cs.drop 9) else none
  | _ => none

end EntityId

end Repartee
