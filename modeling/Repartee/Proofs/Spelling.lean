import Repartee.Line.Grammar
import Repartee.Proofs.Padding

/-! The written forms of a line. An operation is its source letter, its key, its operator and its value in this
order, with any blanks in front of each and behind the value; an exclamation mark may have an equals sign behind
it, and must have one when the value begins with another. Reading gives the parts back, and a line that is neither
written so nor an identifier has exactly one fault. -/
namespace Repartee.Line
open Text

def Identifier (cs : List Char) : Prop :=
  ∃ first rest, cs = first :: rest ∧ (first.isAlpha = true ∨ first = '_') ∧ ∀ c ∈ rest, c.isAlphanum = true ∨ c = '_'

theorem identifier {cs : List Char} : isIdentifier cs = true ↔ Identifier cs := by
  cases cs with
  | nil => exact ⟨nofun, fun ⟨_, _, empty, _⟩ => nomatch empty⟩
  | cons c rest => simp [isIdentifier, Identifier]

structure Parts (cell : Cell) (key : List Char) (op : Char) (value : List Char) : Prop where
  named : Solid key
  free : ∀ c ∈ key, c ∉ cell.operators
  operator : op ∈ cell.operators
  valued : Solid value

inductive Sign : Char → List Char → List Char → Prop where
  | alone {op value} (bare : op = '!' → value.head? ≠ some '=') : Sign op value [op]
  | unequal {value blanks} (blank : Blank blanks) : Sign '!' value ('!' :: blanks ++ ['='])

inductive Spells (source : Source) (key : List Char) (op : Char) (value : List Char) : List Char → Prop where
  | line {before gap behind sign after tail} (blank : Blank before ∧ Blank gap ∧ Blank behind ∧ Blank after ∧ Blank tail)
      (signed : Sign op value sign) :
      Spells source key op value
        (before ++ [source.letter] ++ gap ++ key ++ behind ++ sign ++ after ++ value ++ tail)

inductive Valueless : Char → List Char → Prop where
  | blank {op cs} (blank : Blank cs) : Valueless op cs
  | unequal {cs ds} (blank : Blank cs ∧ Blank ds) : Valueless '!' (cs ++ '=' :: ds)

inductive Fault (cell : Cell) : List Char → LineError → Prop where
  | empty {cs} (blank : Blank cs) : Fault cell cs .empty
  | unknownSource {before c rest} (blank : Blank before) (solid : isBlank c = false)
      (unknown : ∀ source : Source, source.letter ≠ c) : Fault cell (before ++ c :: rest) (.unknownSource c)
  | missingOperator {before source rest} (blank : Blank before) (free : ∀ c ∈ rest, c ∉ cell.operators) :
      Fault cell (before ++ Source.letter source :: rest) (.missingOperator cell)
  | missingKey {before source gap op rest} (blank : Blank before ∧ Blank gap) (operator : op ∈ cell.operators) :
      Fault cell (before ++ Source.letter source :: (gap ++ op :: rest)) (.missingKey op)
  | missingValue {before source name op rest} (blank : Blank before) (named : ¬ Blank name)
      (free : ∀ c ∈ name, c ∉ cell.operators) (operator : op ∈ cell.operators) (nothing : Valueless op rest) :
      Fault cell (before ++ Source.letter source :: (name ++ op :: rest)) (.missingValue op)

section Operators
variable {cell : Cell}

theorem cellOfOperators : cellOf cell.operators = cell := by cases cell <;> rfl

theorem operatorSolid : ∀ op ∈ cell.operators, isBlank op = false := by
  have solid : cell.operators.all (fun op => !isBlank op) = true := by cases cell <;> rfl
  simpa using solid

theorem operatorNoWord : ∀ op ∈ cell.operators, op.isAlphanum = false ∧ op.isAlpha = false ∧ op ≠ '_' := by
  have apart : cell.operators.all (fun op => !op.isAlphanum && (!op.isAlpha && op != '_')) = true := by cases cell <;> rfl
  simpa using apart

theorem letterSolid (source : Source) : isBlank source.letter = false := by cases source <;> rfl

theorem blankFree {cs : List Char} (blank : Blank cs) : ∀ c ∈ cs, c ∉ cell.operators := by
  intro c mem known
  have solid := operatorSolid c known
  rw [blank c mem] at solid
  contradiction

theorem operatorNoIdentifier {cs : List Char} {op : Char} (mem : op ∈ cs) (known : op ∈ cell.operators) :
    ¬ Identifier cs := by
  obtain ⟨noWord, noLetter, noLine⟩ := operatorNoWord op known
  rintro ⟨first, rest, rfl, front, back⟩
  rcases List.mem_cons.mp mem with rfl | later
  · simp [noLetter, noLine] at front
  · simpa [noWord, noLine] using back op later

theorem splitTail {tail : List Char} (blank : Blank tail) (cs : List Char) :
    splitAtOperator cell.operators (cs ++ tail) =
      (splitAtOperator cell.operators cs).map (fun (before, op, after) => (before, op, after ++ tail)) := by
  cases split : splitAtOperator cell.operators cs with
  | none =>
    rw [Option.map_none, splitNone]
    intro c mem
    rcases List.mem_append.mp mem with inside | behind
    · exact splitNone.mp split c inside
    · exact blankFree blank c behind
  | some parts =>
    obtain ⟨rfl, known, free⟩ := splitSome.mp split
    rw [Option.map_some, splitSome]
    exact ⟨by simp, known, free⟩

end Operators

section Operand
variable {op : Char} {value after : List Char}

theorem noEqualsSign {cs : List Char} (bare : cs.head? ≠ some '=') : dropEqualsSign cs = cs := by
  cases cs with
  | nil => rfl
  | cons c rest =>
    unfold dropEqualsSign
    split
    · rename_i same
      cases same
      exact absurd rfl bare
    · rfl

def Signed (op : Char) (value after : List Char) : Prop :=
  ∃ sign gap tail, Sign op value sign ∧ Blank gap ∧ Blank tail ∧ op :: after = sign ++ gap ++ value ++ tail

theorem operandSigned (filled : operand op after ≠ []) :
    Solid (operand op after) ∧ Signed op (operand op after) after := by
  obtain ⟨gap, tail, first, last, split⟩ := trimSplit after
  by_cases mark : op = '!'
  · subst mark
    simp only [operand, if_pos] at filled ⊢
    cases trimmed : trim after with
    | nil =>
      rw [trimmed] at filled
      contradiction
    | cons c rest =>
      have solid : Solid (trim after) := trimSolid (by simp [trimmed])
      rw [trimmed] at split solid filled
      by_cases equals : c = '='
      · subst equals
        simp only [dropEqualsSign] at filled ⊢
        obtain ⟨between, blank, cut⟩ := trimStartSplit rest
        have back := solid.back
        rw [cut, List.getLast?_cons, List.getLast?_append_of_ne_nil between filled] at back
        refine ⟨⟨filled, headTrimStart, fun c found => back c ?_⟩, '!' :: gap ++ ['='], between, tail,
          .unequal first, blank, last, ?_⟩
        · rw [Option.mem_def.mp found]
          rfl
        · rw [split]
          nth_rewrite 1 [cut]
          simp
      · have bare : (c :: rest).head? ≠ some '=' := fun same => equals (Option.some.inj same)
        rw [noEqualsSign bare]
        exact ⟨solid, ['!'], gap, tail, .alone fun _ => bare, first, last, by simp [split]⟩
  · simp only [operand, if_neg mark] at filled ⊢
    exact ⟨trimSolid filled, [op], gap, tail, .alone fun same => absurd same mark, first, last, by simp [← split]⟩

theorem signedOperand (solid : Solid value) (signed : Signed op value after) : operand op after = value := by
  obtain ⟨sign, gap, tail, sign, first, last, split⟩ := signed
  cases sign with
  | alone bare =>
    have trimmed : trim after = value := trimPadded solid ⟨gap, tail, first, last, by simpa using split⟩
    unfold operand
    rw [trimmed]
    split
    · rename_i mark
      exact noEqualsSign (bare mark)
    · rfl
  | @unequal _ blanks blank =>
    have core : Solid ('=' :: gap ++ value) := by
      refine ⟨nofun, ?_, ?_⟩
      · rintro _ ⟨⟩
        rfl
      · rw [List.getLast?_append_of_ne_nil _ solid.filled]
        exact solid.back
    have trimmed : trim after = '=' :: gap ++ value := trimPadded core ⟨blanks, tail, blank, last, by simpa using split⟩
    rw [operand, if_pos rfl, trimmed, List.cons_append, dropEqualsSign, trimStartBlank first, trimStartSelf]
    exact solid.front

theorem operandNil : operand op after = [] ↔ Valueless op after := by
  constructor
  · intro nothing
    by_cases mark : op = '!'
    · subst mark
      rw [operand, if_pos rfl] at nothing
      by_cases bare : (trim after).head? = some '='
      · obtain ⟨rest, trimmed⟩ := List.head?_eq_some_iff.mp bare
        obtain ⟨gap, tail, first, last, split⟩ := trimSplit after
        obtain ⟨between, blank, cut⟩ := trimStartSplit rest
        rw [trimmed, dropEqualsSign] at nothing
        rw [nothing, List.append_nil] at cut
        rw [split, trimmed, cut, List.append_assoc, List.cons_append]
        exact .unequal ⟨first, Blank.append.mpr ⟨blank, last⟩⟩
      · rw [noEqualsSign bare] at nothing
        exact .blank (trimNil.mp nothing)
    · rw [operand, if_neg mark] at nothing
      exact .blank (trimNil.mp nothing)
  · rintro (blank | blank)
    · unfold operand
      rw [trimNil.mpr blank]
      split <;> rfl
    · have nothing := trimEndBlank blank.2 []
      rw [operand, if_pos rfl, trimFirst _ blank.1 rfl, dropEqualsSign]
      rw [List.nil_append] at nothing
      rw [nothing]
      rfl

end Operand

def readBody (cell : Cell) (source : Source) (body : List Char) : Except LineError Line :=
  match splitAtOperator cell.operators body with
  | none => .error (.missingOperator cell)
  | some (before, op, after) =>
    if trim before = [] then .error (.missingKey op)
    else if operand op after = [] then .error (.missingValue op)
    else .ok (.operation source (String.ofList (trim before)) op (String.ofList (operand op after)))

section Body
variable {cell : Cell} {source : Source}

theorem operandTail (op : Char) (after : List Char) {tail : List Char} (blank : Blank tail) :
    operand op (after ++ tail) = operand op after := by
  unfold operand
  rw [trimTail after blank]

theorem readBodyTail (body : List Char) {tail : List Char} (blank : Blank tail) :
    readBody cell source (body ++ tail) = readBody cell source body := by
  unfold readBody
  rw [splitTail blank]
  cases splitAtOperator cell.operators body with
  | none => rfl
  | some parts =>
    obtain ⟨before, op, after⟩ := parts
    simp only [Option.map_some, operandTail op after blank]

theorem parseBlank {raw : String} (blank : Blank raw.toList) : parse cell.operators raw = .error .empty := by
  rw [parse, trimNil.mpr blank]

theorem parseIdentifier {raw : String} (named : Identifier (trim raw.toList)) :
    parse cell.operators raw = .ok (.named (String.ofList (trim raw.toList))) := by
  have word := identifier.mpr named
  unfold parse
  cases trimmed : trim raw.toList with
  | nil =>
    rw [trimmed] at word
    contradiction
  | cons c rest =>
    rw [trimmed] at word
    simp only [if_pos word]

theorem parseFirst {raw : String} {before : List Char} {c : Char} {rest : List Char} (blank : Blank before)
    (solid : isBlank c = false) (text : raw.toList = before ++ c :: rest) (unnamed : ¬ Identifier (trim raw.toList)) :
    parse cell.operators raw =
      match Source.ofLetter? c with
      | none => .error (.unknownSource c)
      | some source => readBody cell source rest := by
  obtain ⟨tail, last, split⟩ := trimEndSplit rest
  have trimmed : trim raw.toList = c :: trimEnd rest := text ▸ trimFirst rest blank solid
  have noWord : ¬ isIdentifier (c :: trimEnd rest) = true := fun named => unnamed (trimmed ▸ identifier.mp named)
  unfold parse
  rw [trimmed]
  simp only [if_neg noWord, cellOfOperators]
  cases Source.ofLetter? c with
  | none => rfl
  | some source =>
    have same : readBody cell source _ = readBody cell source _ := readBodyTail (trimEnd rest) last
    rw [← split] at same
    exact same.symm

theorem readBodySplit {name after : List Char} {op : Char} (known : op ∈ cell.operators)
    (free : ∀ c ∈ name, c ∉ cell.operators) :
    readBody cell source (name ++ op :: after) =
      if trim name = [] then .error (.missingKey op)
      else if operand op after = [] then .error (.missingValue op)
      else .ok (.operation source (String.ofList (trim name)) op (String.ofList (operand op after))) := by
  rw [readBody, splitSome.mpr ⟨rfl, known, free⟩]

theorem paddedFree {key name : List Char} (free : ∀ c ∈ key, c ∉ cell.operators) (padded : Padded key name) :
    ∀ c ∈ name, c ∉ cell.operators := by
  obtain ⟨gap, behind, first, last, rfl⟩ := padded
  simp only [List.mem_append]
  rintro c ((front | inside) | back)
  · exact blankFree first c front
  · exact free c inside
  · exact blankFree last c back

theorem bodyOperation {body : List Char} {line : Line} : readBody cell source body = .ok line ↔
    ∃ key op value name after, line = .operation source (String.ofList key) op (String.ofList value) ∧
      Parts cell key op value ∧ body = name ++ op :: after ∧ Padded key name ∧ Signed op value after := by
  constructor
  · intro read
    unfold readBody at read
    split at read
    · contradiction
    · rename_i name op after split
      obtain ⟨text, known, free⟩ := splitSome.mp split
      split at read
      · contradiction
      · rename_i named
        split at read
        · contradiction
        · rename_i filled
          obtain ⟨valued, signed⟩ := operandSigned filled
          have inside : ∀ c ∈ trim name, c ∉ cell.operators := fun c mem => free c (trimMember mem)
          cases read
          exact ⟨_, op, _, name, after, rfl, ⟨trimSolid named, inside, known, valued⟩, text, trimSplit name, signed⟩
  · rintro ⟨key, op, value, name, after, rfl, parts, rfl, padded, signed⟩
    rw [readBodySplit parts.operator (paddedFree parts.free padded), trimPadded parts.named padded, if_neg parts.named.filled,
      signedOperand parts.valued signed, if_neg parts.valued.filled]

theorem bodyFault {before body : List Char} {e : LineError} (blank : Blank before)
    (read : readBody cell source body = .error e) : Fault cell (before ++ source.letter :: body) e := by
  cases split : splitAtOperator cell.operators body with
  | none =>
    rw [readBody, split] at read
    cases read
    exact .missingOperator blank (splitNone.mp split)
  | some parts =>
    obtain ⟨name, op, after⟩ := parts
    obtain ⟨rfl, known, free⟩ := splitSome.mp split
    rw [readBodySplit known free] at read
    split at read
    · rename_i unnamed
      cases read
      exact .missingKey ⟨blank, trimNil.mp unnamed⟩ known
    · rename_i named
      split at read
      · rename_i nothing
        cases read
        exact .missingValue blank (mt trimNil.mpr named) free known (operandNil.mp nothing)
      · contradiction

end Body

theorem operationUnnamed {cell : Cell} {raw : String} {op : Char} (mem : op ∈ raw.toList) (known : op ∈ cell.operators) :
    ¬ Identifier (trim raw.toList) :=
  operatorNoIdentifier (keptByTrim mem (operatorSolid op known)) known

theorem spellsBody {source : Source} {key : List Char} {op : Char} {value cs : List Char} :
    Spells source key op value cs ↔ ∃ before name after,
      Blank before ∧ Padded key name ∧ Signed op value after ∧ cs = before ++ source.letter :: (name ++ op :: after) := by
  constructor
  · intro spelled
    cases spelled with
    | @line before gap behind sign after tail blank signed =>
      obtain ⟨first, second, third, fourth, fifth⟩ := blank
      obtain ⟨more, rfl⟩ : ∃ more, sign = op :: more := by cases signed <;> exact ⟨_, rfl⟩
      refine ⟨before, gap ++ key ++ behind, more ++ after ++ value ++ tail, first, ⟨gap, behind, second, third, rfl⟩,
        ⟨op :: more, after, tail, signed, fourth, fifth, by simp⟩, by simp⟩
  · rintro ⟨before, name, after, blank, ⟨gap, behind, first, last, rfl⟩, ⟨sign, between, tail, signed, fore, aft, written⟩, rfl⟩
    rw [written]
    have spelled : Spells source key op value _ := .line ⟨blank, first, last, fore, aft⟩ signed
    simpa using spelled

theorem parseOperation {cell : Cell} {raw : String} {source : Source} {key value : String} {op : Char} :
    parse cell.operators raw = .ok (.operation source key op value) ↔
      Parts cell key.toList op value.toList ∧ Spells source key.toList op value.toList raw.toList := by
  rw [spellsBody]
  constructor
  · intro read
    have unnamed : ¬ Identifier (trim raw.toList) := fun named => by
      rw [parseIdentifier named] at read
      cases read
    rcases firstSolid raw.toList with blank | ⟨before, c, rest, blank, solid, text⟩
    · rw [parseBlank blank] at read
      cases read
    · rw [parseFirst blank solid text unnamed] at read
      split at read
      · cases read
      · rename_i source' letter
        obtain ⟨key', op', value', name, after, line, parts, rfl, padded, signed⟩ := bodyOperation.mp read
        cases line
        rw [String.toList_ofList, String.toList_ofList]
        exact ⟨parts, before, name, after, blank, padded, signed, Source.letterIff.mp letter ▸ text⟩
  · rintro ⟨parts, before, name, after, blank, padded, signed, text⟩
    have mem : op ∈ raw.toList := by simp [text]
    rw [parseFirst blank (letterSolid source) text (operationUnnamed mem parts.operator), Source.letterRead]
    refine bodyOperation.mpr ⟨_, op, _, name, after, ?_, parts, rfl, padded, signed⟩
    rw [String.ofList_toList, String.ofList_toList]

theorem parseNamed {cell : Cell} {raw name : String} :
    parse cell.operators raw = .ok (.named name) ↔ Identifier name.toList ∧ trim raw.toList = name.toList := by
  constructor
  · intro read
    by_cases named : Identifier (trim raw.toList)
    · rw [parseIdentifier named] at read
      cases read
      rw [String.toList_ofList]
      exact ⟨named, rfl⟩
    · rcases firstSolid raw.toList with blank | ⟨before, c, rest, blank, solid, text⟩
      · rw [parseBlank blank] at read
        cases read
      · rw [parseFirst blank solid text named] at read
        split at read
        · cases read
        · obtain ⟨_, _, _, _, _, line, _⟩ := bodyOperation.mp read
          cases line
  · rintro ⟨named, trimmed⟩
    rw [parseIdentifier (trimmed ▸ named), trimmed, String.ofList_toList]

theorem parseError {cell : Cell} {raw : String} {e : LineError} :
    parse cell.operators raw = .error e ↔ ¬ Identifier (trim raw.toList) ∧ Fault cell raw.toList e := by
  constructor
  · intro read
    have unnamed : ¬ Identifier (trim raw.toList) := fun named => by
      rw [parseIdentifier named] at read
      cases read
    refine ⟨unnamed, ?_⟩
    rcases firstSolid raw.toList with blank | ⟨before, c, rest, blank, solid, text⟩
    · rw [parseBlank blank] at read
      cases read
      exact .empty blank
    · rw [parseFirst blank solid text unnamed] at read
      rw [text]
      split at read
      · rename_i stranger
        cases read
        refine .unknownSource blank solid fun source same => ?_
        rw [← same, Source.letterRead] at stranger
        cases stranger
      · rename_i source letter
        rw [Source.letterIff.mp letter]
        exact bodyFault blank read
  · rintro ⟨unnamed, fault⟩
    generalize text : raw.toList = cs at fault
    have read {before : List Char} {source : Source} {body : List Char} (blank : Blank before)
        (written : cs = before ++ source.letter :: body) : parse cell.operators raw = readBody cell source body := by
      rw [parseFirst blank (letterSolid source) (text.trans written) unnamed, Source.letterRead]
    cases fault with
    | empty blank => exact parseBlank (text ▸ blank)
    | unknownSource blank solid unknown =>
      rw [parseFirst blank solid text unnamed]
      split
      · rfl
      · rename_i source letter
        exact absurd (Source.letterIff.mp letter).symm (unknown source)
    | missingOperator blank free =>
      rw [read blank rfl, readBody, splitNone.mpr free]
    | missingKey blank known =>
      rw [read blank.1 rfl, readBodySplit known (blankFree blank.2), if_pos (trimNil.mpr blank.2)]
    | missingValue blank named free known nothing =>
      rw [read blank rfl, readBodySplit known free, if_neg (mt trimNil.mp named), if_pos (operandNil.mpr nothing)]

theorem grammarExact (cell : Cell) (raw : String) :
    (∀ source key op value, parse cell.operators raw = .ok (.operation source key op value) ↔
      Parts cell key.toList op value.toList ∧ Spells source key.toList op value.toList raw.toList) ∧
    (∀ name, parse cell.operators raw = .ok (.named name) ↔
      Identifier name.toList ∧ trim raw.toList = name.toList) ∧
    ∀ e, parse cell.operators raw = .error e ↔ ¬ Identifier (trim raw.toList) ∧ Fault cell raw.toList e :=
  ⟨fun _ _ _ _ => parseOperation, fun _ => parseNamed, fun _ => parseError⟩

example : parse Cell.criteria.operators "w Gold ! == x" = .ok (.operation .world "Gold" '!' "= x") := rfl

end Repartee.Line
