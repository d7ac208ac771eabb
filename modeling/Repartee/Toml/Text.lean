import Repartee.Entity

/-! The characters and texts of TOML documents. A line ends at a line feed, alone or after a carriage
return, and control characters are nowhere allowed but for the tab. Texts stand with escapes between
double quotes or as they are between single quotes, on one line, or on several between triple quotes. A
line end right after the opening triple quote does not count, every other one reads as a line feed, and
a backslash before a line end swallows it with all blanks and line ends that follow. One or two quotes
may stand before the closing three. -/
namespace Repartee.Toml

def isBlank (c : Char) : Bool := c == ' ' || c == '\t'

def skipBlanks (cs : List Char) : List Char := cs.dropWhile isBlank

def isPlain (c : Char) : Bool := c == '\t' || (0x20 ≤ c.toNat && c.toNat != 0x7F)

def newline? : List Char → Option (List Char)
  | '\n' :: rest => some rest
  | '\r' :: '\n' :: rest => some rest
  | _ => none

def skipComment : List Char → List Char
  | '#' :: rest => rest.dropWhile isPlain
  | cs => cs

def endOfLine? (cs : List Char) : Option (List Char) :=
  match skipComment (skipBlanks cs) with
  | [] => some []
  | cs => newline? cs

def skipLines : Nat → List Char → List Char
  | 0, cs => cs
  | fuel + 1, cs =>
    match skipBlanks cs with
    | '#' :: rest =>
      match newline? (rest.dropWhile isPlain) with
      | some rest => skipLines fuel rest
      | none => '#' :: rest
    | cs =>
      match newline? cs with
      | some rest => skipLines fuel rest
      | none => cs

def simpleEscape? : Char → Option Char
  | 'b' => some '\x08'
  | 't' => some '\t'
  | 'n' => some '\n'
  | 'f' => some '\x0c'
  | 'r' => some '\r'
  | '"' => some '"'
  | '\\' => some '\\'
  | _ => none

def charOfCode? (digits : List Char) : Option Char := do
  let n ← EntityId.hexNumber? digits
  if n < 0xD800 ∨ (0xE000 ≤ n ∧ n < 0x110000) then some (Char.ofNat n) else none

def readEscape? : List Char → Option (Char × List Char)
  | 'u' :: a :: b :: c :: d :: rest => (charOfCode? [a, b, c, d]).map (fun x => (x, rest))
  | 'U' :: a :: b :: c :: d :: e :: f :: g :: h :: rest =>
    (charOfCode? [a, b, c, d, e, f, g, h]).map (fun x => (x, rest))
  | c :: rest => (simpleEscape? c).map (fun x => (x, rest))
  | [] => none

def readBasic? : Nat → List Char → Option (List Char × List Char)
  | 0, _ => none
  | fuel + 1, cs =>
    match cs with
    | '"' :: rest => some ([], rest)
    | '\\' :: rest => do
      let (c, rest) ← readEscape? rest
      let (s, rest) ← readBasic? fuel rest
      some (c :: s, rest)
    | c :: rest =>
      if isPlain c then (readBasic? fuel rest).map (fun (s, rest) => (c :: s, rest)) else none
    | [] => none

def readLiteral? : List Char → Option (List Char × List Char)
  | '\'' :: rest => some ([], rest)
  | c :: rest =>
    if isPlain c then (readLiteral? rest).map (fun (s, rest) => (c :: s, rest)) else none
  | [] => none

def closing? (quote : Char) (cs : List Char) : Option (List Char × List Char) :=
  let n := (cs.takeWhile (· == quote)).length
  if 3 ≤ n ∧ n ≤ 5 then some (List.replicate (n - 3) quote, cs.drop n) else none

def skipFolded : Nat → List Char → List Char
  | 0, cs => cs
  | fuel + 1, cs =>
    let cs := skipBlanks cs
    match newline? cs with
    | some rest => skipFolded fuel rest
    | none => cs

def readLong? (quote : Char) : Nat → List Char → Option (List Char × List Char)
  | 0, _ => none
  | fuel + 1, cs =>
    match closing? quote cs with
    | some done => some done
    | none =>
      match newline? cs, cs with
      | some rest, _ => (readLong? quote fuel rest).map (fun (s, rest) => ('\n' :: s, rest))
      | none, [] => none
      | none, c :: rest =>
        if c = '\\' ∧ quote = '"' then
          match newline? (skipBlanks rest) with
          | some after => readLong? quote fuel (skipFolded fuel after)
          | none => do
            let (c, rest) ← readEscape? rest
            let (s, rest) ← readLong? quote fuel rest
            some (c :: s, rest)
        else if c = quote then
          let n := (cs.takeWhile (· == quote)).length
          if n < 3 then (readLong? quote fuel rest).map (fun (s, rest) => (c :: s, rest)) else none
        else if isPlain c then (readLong? quote fuel rest).map (fun (s, rest) => (c :: s, rest))
        else none

def dropFirstNewline (cs : List Char) : List Char := (newline? cs).getD cs

def readText? (cs : List Char) : Option (String × List Char) :=
  let done (r : List Char × List Char) : String × List Char := (String.ofList r.1, r.2)
  match cs with
  | '"' :: '"' :: '"' :: rest => (readLong? '"' (rest.length + 1) (dropFirstNewline rest)).map done
  | '"' :: rest => (readBasic? (rest.length + 1) rest).map done
  | '\'' :: '\'' :: '\'' :: rest => (readLong? '\'' (rest.length + 1) (dropFirstNewline rest)).map done
  | '\'' :: rest => (readLiteral? rest).map done
  | _ => none

end Repartee.Toml
