import Repartee.Compile
import Repartee.Proofs.Cells
import Repartee.Proofs.Spelling
import Repartee.Proofs.TextOrder
import Repartee.Proofs.Tokens

/-! What a line of criteria means. Which lines become a criterion is told by the text alone, given the names
that are registered; and the criterion that an operation becomes passes exactly when the value it shows stands to
the literal as the operator asks. Checking it changes no more than the read does. -/
namespace Repartee

namespace Kind

def Same : (k : Kind) → k.Carrier → k.Carrier → Prop
  | .int, m, n => Int64.toInt m = Int64.toInt n
  | .float, x, y => Float.beq x y = true
  | .bool, a, b => a = b
  | .text, a, b => a = b
  | .entity, a, b => a = b
  | .color, a, b => a = b

def Before : (k : Kind) → k.Carrier → k.Carrier → Prop
  | .bool, a, b => a = false ∧ b = true
  | .int, m, n => Int64.toInt m < Int64.toInt n
  | .float, x, y => Float.lt x y
  | .text, s, t => Text.bytes s < Text.bytes t
  | .entity, _, _ => False
  | .color, _, _ => False

theorem equalSame (k : Kind) (a b : k.Carrier) : k.equal a b = true ↔ k.Same a b := by
  cases k with
  | int => exact beq_iff_eq.trans Int64.toInt_inj.symm
  | float => exact Iff.rfl
  | bool | text | entity | color => exact beq_iff_eq

theorem lessBefore (k : Kind) (a b : k.Carrier) : k.less a b = true ↔ k.Before a b := by
  cases k with
  | bool => simp [less, Before]
  | int => exact decide_eq_true_iff.trans Int64.lt_iff_toInt_lt
  | float => exact decide_eq_true_iff
  | text => exact decide_eq_true_iff.trans (Text.bytesOrder a b)
  | entity | color => simp [less, Before]

def Stands (k : Kind) (op : Char) (a b : k.Carrier) : Prop :=
  op = '=' ∧ k.Same a b ∨ op = '!' ∧ ¬ k.Same a b ∨ op = '<' ∧ k.Before a b ∨ op = '>' ∧ k.Before b a

end Kind

namespace Comparison

def sign : Comparison → Char
  | equal => '='
  | notEqual => '!'
  | greaterThan => '>'
  | lessThan => '<'

theorem ofOperator {op : Char} {comparison : Comparison} : ofOperator? op = some comparison ↔ op = comparison.sign := by
  constructor
  · intro known
    unfold ofOperator? at known
    split at known <;> cases known <;> rfl
  · rintro rfl
    cases comparison <;> rfl

theorem ofCriteriaOperator {op : Char} (known : op ∈ Cell.criteria.operators) : ∃ comparison : Comparison, op = comparison.sign := by
  simp only [Cell.operators, List.mem_cons, List.not_mem_nil, or_false] at known
  rcases known with rfl | rfl | rfl | rfl
  · exact ⟨.equal, rfl⟩
  · exact ⟨.greaterThan, rfl⟩
  · exact ⟨.lessThan, rfl⟩
  · exact ⟨.notEqual, rfl⟩

theorem holdsStands (comparison : Comparison) (k : Kind) (a b : k.Carrier) :
    comparison.holds k a b = true ↔ k.Stands comparison.sign a b := by
  cases comparison with
  | equal => simp [holds, sign, Kind.Stands, k.equalSame]
  | notEqual => simp [holds, sign, Kind.Stands, ← k.equalSame]
  | greaterThan => simp [holds, sign, Kind.Stands, k.lessBefore]
  | lessThan => simp [holds, sign, Kind.Stands, k.lessBefore]

def Fits (comparison : Comparison) (literal : Literal) : Prop :=
  literal.kind = .bool → comparison = .equal ∨ comparison = .notEqual

theorem fitsSign (comparison : Comparison) (literal : Literal) :
    comparison.Fits literal ↔ ¬ ((comparison.sign = '>' ∨ comparison.sign = '<') ∧ literal.kind = .bool) := by
  cases comparison <;> simp [Fits, sign]

end Comparison

namespace Vocabulary

inductive CriterionRead (v : Vocabulary) (raw : String) (ruleId : Int64) : Except LineError Criterion → Prop where
  | fault {e} (parsed : Line.parse Cell.criteria.operators raw = .error e) : CriterionRead v raw ruleId (.error e)
  | unknown {name} (parsed : Line.parse Cell.criteria.operators raw = .ok (.named name))
      (unknown : v.criteria.get? name = none) : CriterionRead v raw ruleId (.error (.unknownCriterion name))
  | known {name c} (parsed : Line.parse Cell.criteria.operators raw = .ok (.named name))
      (known : v.criteria.get? name = some c) : CriterionRead v raw ruleId (.ok c)
  | misread {source key op token} (parsed : Line.parse Cell.criteria.operators raw = .ok (.operation source key op token))
      (misread : Literal.Misread token) : CriterionRead v raw ruleId (.error (.invalidNumber token))
  | misfit {source key comparison token literal}
      (parsed : Line.parse Cell.criteria.operators raw = .ok (.operation source key (Comparison.sign comparison) token))
      (denotes : Literal.Denotes ruleId token literal) (misfit : ¬ comparison.Fits literal) :
      CriterionRead v raw ruleId (.error (.unsupportedOperator comparison.sign literal.name))
  | comparison {source key comparison token literal}
      (parsed : Line.parse Cell.criteria.operators raw = .ok (.operation source key (Comparison.sign comparison) token))
      (denotes : Literal.Denotes ruleId token literal) (fits : comparison.Fits literal) :
      CriterionRead v raw ruleId (.ok (.compare key source comparison literal))

theorem criterionRead (v : Vocabulary) (raw : String) (ruleId : Int64) :
    CriterionRead v raw ruleId (v.criterionOfLine raw ruleId) := by
  unfold criterionOfLine
  cases parsed : Line.parse Cell.criteria.operators raw with
  | error e => exact .fault parsed
  | ok line =>
    cases line with
    | named name =>
      simp only [bind, Except.bind, criterion]
      cases found : v.criteria.get? name with
      | none => exact .unknown parsed found
      | some c => exact .known parsed found
    | operation source key op token =>
      have parts := (Line.parseOperation.mp parsed).1
      obtain ⟨comparison, rfl⟩ := Comparison.ofCriteriaOperator parts.operator
      simp only [bind, Except.bind, Comparison.ofOperator.mpr rfl]
      cases read : Literal.interpret token ruleId with
      | error e =>
        obtain ⟨rfl, misread⟩ := (Literal.interpretError parts.valued.filled).mp read
        exact .misread parsed misread
      | ok literal =>
        have denotes := (Literal.interpretOk parts.valued.filled).mp read
        cases literal with
        | bool b =>
          cases comparison with
          | equal => exact .comparison parsed denotes fun _ => .inl rfl
          | notEqual => exact .comparison parsed denotes fun _ => .inr rfl
          | greaterThan | lessThan => exact .misfit parsed denotes fun fits => by simpa using fits rfl
        | _ => exact .comparison parsed denotes fun truth => by contradiction

theorem criterionMissingOperator {v : Vocabulary} {raw : String} {ruleId : Int64} (cell : Cell) :
    v.criterionOfLine raw ruleId = .error (.missingOperator cell) ↔
      Line.parse Cell.criteria.operators raw = .error (.missingOperator cell) := by
  have read := v.criterionRead raw ruleId
  generalize v.criterionOfLine raw ruleId = result at read
  cases read with
  | fault parsed => rw [parsed, Except.error.injEq, Except.error.injEq]
  | unknown parsed | known parsed | misread parsed | misfit parsed | comparison parsed =>
    rw [parsed]
    exact iff_of_false nofun nofun

end Vocabulary

structure Criterion.Asks (c : Criterion) (source : Source) (key : String) (op : Char) (literal : Literal) : Prop where
  passes : ∀ q st, (c.check q st).1 = true ↔
    literal.kind.Stands op ((q.look literal.kind key source).shown q.toOccasion st) (literal.valueAt q.now)
  leaves : ∀ q st p key', (c.check q st).2.cell q.toOccasion p key' =
    if (p = q.place source ∧ key' = key) ∧ p.writable = true then
      some (.ofCarrier literal.kind ((q.look literal.kind key source).shown q.toOccasion st))
    else st.cell q.toOccasion p key'

theorem Criterion.Asks.compare (source : Source) (key : String) (comparison : Comparison) (literal : Literal) :
    (Criterion.compare key source comparison literal).Asks source key comparison.sign literal where
  passes := fun q st => by
    rw [← Query.getShown, ← Comparison.holdsStands]
    rfl
  leaves := fun q st p key' => by
    change (q.get literal.kind key source st).2.cell q.toOccasion p key' = _
    cases open_ : (q.place source).writable with
    | true =>
      rw [Query.getCell open_]
      refine if_congr ⟨fun here => ⟨here, here.1 ▸ open_⟩, fun both => both.1⟩ rfl rfl
    | false =>
      rw [Query.getClosed open_, if_neg]
      rintro ⟨⟨rfl, _⟩, writable⟩
      rw [open_] at writable
      contradiction

namespace Vocabulary

theorem criterionAccepted (v : Vocabulary) (raw : String) (ruleId : Int64) :
    (∃ c, v.criterionOfLine raw ruleId = .ok c) ↔
      (∃ name c, Line.parse Cell.criteria.operators raw = .ok (.named name) ∧ v.criteria.get? name = some c) ∨
      ∃ source key op token, Line.parse Cell.criteria.operators raw = .ok (.operation source key op token) ∧
        ¬ Literal.Misread token ∧ ¬ ((op = '>' ∨ op = '<') ∧ ∃ b, token = boolText b) := by
  have read := v.criterionRead raw ruleId
  generalize v.criterionOfLine raw ruleId = result at read
  cases read with
  | fault parsed => simp [parsed]
  | unknown parsed unknown => simp [parsed, unknown]
  | known parsed known => simp [parsed, known]
  | misread parsed misread =>
    rw [parsed]
    constructor
    · rintro ⟨_, ⟨⟩⟩
    · rintro (⟨_, _, ⟨⟩, _⟩ | ⟨_, _, _, _, ⟨⟩, unread, _⟩)
      exact absurd misread unread
  | @misfit source key comparison token literal parsed denotes misfit =>
    have filled := (Line.parseOperation.mp parsed).1.valued.filled
    rw [Comparison.fitsSign, Literal.truthToken filled denotes] at misfit
    rw [parsed]
    constructor
    · rintro ⟨_, ⟨⟩⟩
    · rintro (⟨_, _, ⟨⟩, _⟩ | ⟨_, _, _, _, ⟨⟩, _, fits⟩)
      exact absurd fits misfit
  | @comparison source key comparison token literal parsed denotes fits =>
    have filled := (Line.parseOperation.mp parsed).1.valued.filled
    rw [Comparison.fitsSign, Literal.truthToken filled denotes] at fits
    refine iff_of_true ⟨_, rfl⟩ (.inr ⟨source, key, comparison.sign, token, parsed, ?_, fits⟩)
    exact (Literal.denotedUnlessMisread ruleId filled).mp ⟨literal, denotes⟩

theorem criterionCompares {v : Vocabulary} {raw : String} {ruleId : Int64} {source : Source} {key token : String} {op : Char}
    {c : Criterion} (parsed : Line.parse Cell.criteria.operators raw = .ok (.operation source key op token))
    (made : v.criterionOfLine raw ruleId = .ok c) :
    ∃ comparison literal, op = Comparison.sign comparison ∧ Literal.Denotes ruleId token literal ∧
      c = .compare key source comparison literal := by
  have read := v.criterionRead raw ruleId
  rw [made] at read
  cases read with
  | known line =>
    rw [parsed] at line
    cases line
  | comparison line denotes fits =>
    rw [parsed] at line
    cases line
    exact ⟨_, _, rfl, denotes, rfl⟩

theorem criterionAsks {v : Vocabulary} {raw : String} {ruleId : Int64} {source : Source} {key token : String} {op : Char}
    {c : Criterion} (parsed : Line.parse Cell.criteria.operators raw = .ok (.operation source key op token))
    (made : v.criterionOfLine raw ruleId = .ok c) :
    ∃ literal, (∀ other, Literal.Denotes ruleId token other ↔ other = literal) ∧ c.Asks source key op literal := by
  obtain ⟨comparison, literal, rfl, denotes, rfl⟩ := criterionCompares parsed made
  have filled := (Line.parseOperation.mp parsed).1.valued.filled
  exact ⟨literal, Literal.denotesOnce filled denotes, .compare source key comparison literal⟩

theorem criterionLineExact (v : Vocabulary) (raw : String) (ruleId : Int64) :
    ((∃ c, v.criterionOfLine raw ruleId = .ok c) ↔
      (∃ name c, Line.Identifier name.toList ∧ Text.trim raw.toList = name.toList ∧ v.criteria.get? name = some c) ∨
      ∃ source key op token, Line.parse Cell.criteria.operators raw = .ok (.operation source key op token) ∧
        ¬ Literal.Misread token ∧ ¬ ((op = '>' ∨ op = '<') ∧ ∃ b, token = boolText b)) ∧
    (∀ cell, v.criterionOfLine raw ruleId = .error (.missingOperator cell) ↔
      Line.parse Cell.criteria.operators raw = .error (.missingOperator cell)) ∧
    ∀ source key op token c, Line.parse Cell.criteria.operators raw = .ok (.operation source key op token) →
      v.criterionOfLine raw ruleId = .ok c →
      ∃ literal, (∀ other, Literal.Denotes ruleId token other ↔ other = literal) ∧ c.Asks source key op literal := by
  refine ⟨?_, criterionMissingOperator, fun _ _ _ _ _ parsed made => criterionAsks parsed made⟩
  rw [criterionAccepted]
  simp only [Line.parseNamed, and_assoc]

theorem criterionLineExactForGoldLine :
    Line.parse Cell.criteria.operators "w Gold > 007" = .ok (.operation .world "Gold" '>' "007") ∧
    (∃ c, builtin.criterionOfLine "w Gold > 007" 1 = .ok c ∧ ∃ literal,
      (∀ other, Literal.Denotes 1 "007" other ↔ other = literal) ∧ c.Asks .world "Gold" '>' literal) := by
  have parsed : Line.parse Cell.criteria.operators "w Gold > 007" = .ok (.operation .world "Gold" '>' "007") := rfl
  have made : builtin.criterionOfLine "w Gold > 007" 1 = .ok (.compare "Gold" .world .greaterThan (.int 7)) := rfl
  exact ⟨parsed, _, made, (criterionLineExact builtin "w Gold > 007" 1).2.2 _ _ _ _ _ parsed made⟩

end Vocabulary
end Repartee
