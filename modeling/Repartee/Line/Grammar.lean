import Repartee.Line.Error
import Repartee.Text.Blank

/-! The grammar of one line. A line is an identifier that names something the host registered, or a
source letter, a key, an operator and a value with any blanks around the parts. The first operator
character of the cell ends the key, and an equals sign right after an exclamation mark belongs to it. -/
namespace Repartee

inductive Line where
  | named (name : String)
  | operation (source : Source) (key : String) (op : Char) (value : String)
  deriving DecidableEq, Repr

namespace Line

def isIdentifier : List Char → Bool
  | [] => false
  | c :: rest => (c.isAlpha || c == '_') && rest.all (fun d => d.isAlphanum || d == '_')

def splitAtOperator (operators : List Char) : List Char → Option (List Char × Char × List Char)
  | [] => none
  | c :: rest =>
    if c ∈ operators then some ([], c, rest)
    else (splitAtOperator operators rest).map (fun (key, op, value) => (c :: key, op, value))

theorem splitNone {operators cs : List Char} :
    splitAtOperator operators cs = none ↔ ∀ c ∈ cs, c ∉ operators := by
  induction cs with
  | nil => simp [splitAtOperator]
  | cons c rest ih => by_cases h : c ∈ operators <;> simp [splitAtOperator, h, ih]

theorem splitSome {operators cs before after : List Char} {op : Char} :
    splitAtOperator operators cs = some (before, op, after) ↔
      cs = before ++ op :: after ∧ op ∈ operators ∧ ∀ c ∈ before, c ∉ operators := by
  induction cs generalizing before with
  | nil => simp [splitAtOperator]
  | cons c rest ih =>
    by_cases h : c ∈ operators
    · cases before with
      | nil => simp only [splitAtOperator, h]; constructor <;> (intro e; simp_all)
      | cons b bs =>
        simp only [splitAtOperator, h]
        constructor
        · intro e; simp at e
        · rintro ⟨e, _, free⟩
          simp only [List.cons_append, List.cons.injEq] at e
          exact absurd h (e.1 ▸ free b (by simp))
    · simp only [splitAtOperator, h, if_false, Option.map_eq_some_iff, Prod.mk.injEq, Prod.exists]
      constructor
      · rintro ⟨key, o, a, found, rfl, rfl, rfl⟩
        obtain ⟨rfl, known, free⟩ := ih.1 found
        exact ⟨rfl, known, by simpa [h] using free⟩
      · rintro ⟨e, known, free⟩
        cases before with
        | nil => simp only [List.nil_append, List.cons.injEq] at e; exact absurd known (e.1 ▸ h)
        | cons b bs =>
          simp only [List.cons_append, List.cons.injEq] at e
          exact ⟨bs, op, after, ih.2 ⟨e.2, known, fun d m => free d (by simp [m])⟩, by simp [e.1], rfl, rfl⟩

def dropEqualsSign : List Char → List Char
  | '=' :: rest => Text.trimStart rest
  | cs => cs

def operand (op : Char) (cs : List Char) : List Char :=
  if op = '!' then dropEqualsSign (Text.trim cs) else Text.trim cs

/- The cell named in the error is the criteria cell only for exactly its operators. -/
def cellOf (operators : List Char) : Cell :=
  if operators = Cell.criteria.operators then .criteria else .remember

def parse (operators : List Char) (raw : String) : Except LineError Line :=
  match Text.trim raw.toList with
  | [] => .error .empty
  | c :: body =>
    if isIdentifier (c :: body) then .ok (named (String.ofList (c :: body)))
    else match Source.ofLetter? c with
    | none => .error (.unknownSource c)
    | some source =>
      match splitAtOperator operators body with
      | none => .error (.missingOperator (cellOf operators))
      | some (before, op, after) =>
        let key := Text.trim before
        let value := operand op after
        if key = [] then .error (.missingKey op)
        else if value = [] then .error (.missingValue op)
        else .ok (operation source (String.ofList key) op (String.ofList value))

end Line

def linesOfCell (cell : String) : List String :=
  (((Text.lines cell.toList).map Text.trim).filter (· ≠ [])).map String.ofList

def cellOfLines (lines : List String) : String :=
  String.ofList (Text.joinLines (lines.map String.toList))

end Repartee
