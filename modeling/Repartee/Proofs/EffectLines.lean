import Repartee.Compile
import Repartee.Proofs.Cells
import Repartee.Proofs.Spelling
import Repartee.Proofs.Tokens

/-! What a line to remember means. An operation on a cell that a line may write becomes an effect when its literal
takes the operator. Applying the effect finds what the cell shows, makes the result of it and the literal, and
leaves that in the cell and nothing anywhere else. It is refused only when there is no target to write to or when
the exact result is no counter, and then it leaves everything as it was. -/
namespace Repartee

def exactResult (op : Char) (found operand : Int) : Int :=
  if op = '+' then found + operand else if op = '-' then found - operand else operand

def floatResult (op : Char) (found operand : Float) : Float :=
  if op = '+' then found + operand else if op = '-' then found - operand else if op = '*' then found * operand
  else if op = '/' then found / operand else operand

def Fits64 (n : Int) : Prop := -2 ^ 63 ≤ n ∧ n ≤ 2 ^ 63 - 1

theorem counterFits (n : Int64) : Fits64 n.toInt := by
  have low := n.minValue_le_toInt
  have high := n.toInt_le
  rw [Int64.toInt_minValue] at low
  rw [Int64.toInt_maxValue] at high
  exact ⟨low, high⟩

namespace Literal

def Takes (op : Char) : Literal → Prop
  | timestamp | float _ => op ∈ ['=', '+', '-', '*', '/']
  | int n => op = '=' ∨ op = '+' ∨ op = '-' ∧ n ≠ Int64.minValue
  | bool _ | text _ => op = '='

def Result (op : Char) (now : Float) : (literal : Literal) → (found result : literal.kind.Carrier) → Prop
  | timestamp, x, y => y = floatResult op x now
  | float operand, x, y => y = floatResult op x operand
  | int operand, m, n => Int64.toInt n = exactResult op (Int64.toInt m) operand.toInt
  | bool b, _, result => result = b
  | text s, _, result => result = s

def Overflows (op : Char) : (literal : Literal) → (found : literal.kind.Carrier) → Prop
  | int operand, m => ¬ Fits64 (exactResult op (Int64.toInt m) operand.toInt)
  | timestamp, _ | float _, _ | bool _, _ | text _, _ => False

variable {op : Char} {literal : Literal}

/- Nothing overflows that is put in place of a zero, so a cell that cannot be written never overflows. -/
theorem zeroHolds (takes : literal.Takes op) : ¬ literal.Overflows op literal.kind.zero := by
  cases literal with
  | int operand =>
    obtain ⟨low, high⟩ := counterFits operand
    have fits : Fits64 (exactResult op 0 operand.toInt) := by
      rcases takes with rfl | rfl | ⟨rfl, least⟩
      · exact ⟨low, high⟩
      · simp [exactResult, Fits64]
        omega
      · rw [ne_eq, ← Int64.toInt_inj, Int64.toInt_minValue] at least
        simp [exactResult, Fits64]
        omega
    exact not_not_intro fits
  | timestamp | float | bool | text => exact id

theorem resultHolds {now : Float} {found result : literal.kind.Carrier} (made : literal.Result op now found result) :
    ¬ literal.Overflows op found := by
  cases literal with
  | int operand =>
    have fits := counterFits result
    rw [show Int64.toInt result = exactResult op (Int64.toInt found) operand.toInt from made] at fits
    exact not_not_intro fits
  | timestamp | float | bool | text => exact id

end Literal

namespace Arithmetic

theorem ofOperator {op : Char} {arithmetic : Arithmetic} : ofOperator? op = some arithmetic ↔ op = arithmetic.symbol := by
  constructor
  · intro known
    unfold ofOperator? at known
    split at known <;> cases known <;> rfl
  · rintro rfl
    cases arithmetic <;> rfl

theorem ofRememberOperator {op : Char} (known : op ∈ Cell.remember.operators) :
    ∃ arithmetic : Arithmetic, op = arithmetic.symbol := by
  simp only [Cell.operators, List.mem_cons, List.not_mem_nil, or_false] at known
  rcases known with rfl | rfl | rfl | rfl | rfl
  · exact ⟨.set, rfl⟩
  · exact ⟨.subtract, rfl⟩
  · exact ⟨.add, rfl⟩
  · exact ⟨.multiply, rfl⟩
  · exact ⟨.divide, rfl⟩

theorem symbolKnown (arithmetic : Arithmetic) : arithmetic.symbol ∈ ['=', '+', '-', '*', '/'] := by
  cases arithmetic <;> decide

theorem applyResult (arithmetic : Arithmetic) (x y : Float) : arithmetic.apply x y = floatResult arithmetic.symbol x y := by
  cases arithmetic <;> rfl

end Arithmetic

namespace Query
variable {q : Query} {key : String} {source : Source} {st : Stores}

inductive Outcome (q : Query) (st : Stores) (key : String) (source : Source) (op : Char) (literal : Literal) :
    Except StateError Unit × Stores → Prop where
  | noTarget (closed : (q.place source).writable = false) : Outcome q st key source op literal (.error (.noTarget key), st)
  | overflow (beyond : literal.Overflows op ((q.look literal.kind key source).shown q.toOccasion st)) :
      Outcome q st key source op literal (.error (.overflow key), st)
  | stored {x after} (open_ : (q.place source).writable = true)
      (result : literal.Result op q.now ((q.look literal.kind key source).shown q.toOccasion st) x)
      (left : ∀ p key', after.cell q.toOccasion p key' =
        if p = q.place source ∧ key' = key then some (.ofCarrier literal.kind x) else st.cell q.toOccasion p key') :
      Outcome q st key source op literal (.ok (), after)

theorem Left.outcome {op : Char} (literal : Literal) {x : literal.kind.Carrier} {r : Except StateError Unit × Stores}
    (left : q.Left st key source (.ofCarrier literal.kind x) r)
    (result : literal.Result op q.now ((q.look literal.kind key source).shown q.toOccasion st) x) :
    q.Outcome st key source op literal r := by
  cases open_ : (q.place source).writable with
  | false =>
    rw [left.closed open_]
    exact .noTarget open_
  | true =>
    obtain ⟨verdict, after⟩ := r
    obtain ⟨accepted, cells⟩ := left.opened open_
    cases accepted
    exact .stored open_ result cells

namespace Outcome
variable {op : Char} {literal : Literal} {r : Except StateError Unit × Stores}

theorem noTargetWhen (outcome : q.Outcome st key source op literal r) (allowed : source.isReadOnly = false)
    (takes : literal.Takes op) (key' : String) :
    r.1 = .error (.noTarget key') ↔ key' = key ∧ source = .target ∧ ¬ q.NamesTarget := by
  rw [← Occasion.closed allowed]
  cases outcome with
  | noTarget closed => simp [closed, eq_comm]
  | overflow beyond =>
    refine iff_of_false nofun fun both => ?_
    rw [closedShown allowed both.2] at beyond
    exact Literal.zeroHolds takes beyond
  | stored open_ => simp [open_]

theorem overflowWhen (outcome : q.Outcome st key source op literal r) (allowed : source.isReadOnly = false)
    (takes : literal.Takes op) (key' : String) : r.1 = .error (.overflow key') ↔
      key' = key ∧ literal.Overflows op ((q.look literal.kind key source).shown q.toOccasion st) := by
  cases outcome with
  | noTarget closed =>
    rw [closedShown allowed closed]
    exact iff_of_false nofun fun both => Literal.zeroHolds takes both.2
  | overflow beyond => simp [beyond, eq_comm]
  | stored open_ result => exact iff_of_false nofun fun both => Literal.resultHolds result both.2

theorem neverReadOnly (outcome : q.Outcome st key source op literal r) (key' : String) (source' : Source) :
    r.1 ≠ .error (.readOnly key' source') := by
  cases outcome <;> nofun

theorem refusedKeeps (outcome : q.Outcome st key source op literal r) {cause : StateError} (refused : r.1 = .error cause) :
    r.2 = st := by
  cases outcome with
  | noTarget | overflow => rfl
  | stored => contradiction

theorem storedOtherwise (outcome : q.Outcome st key source op literal r) (allowed : source.isReadOnly = false)
    (targeted : ¬ (source = .target ∧ ¬ q.NamesTarget))
    (fits : ¬ literal.Overflows op ((q.look literal.kind key source).shown q.toOccasion st)) : r.1 = .ok () ∧
      ∃ x, literal.Result op q.now ((q.look literal.kind key source).shown q.toOccasion st) x ∧
        ∀ p key', r.2.cell q.toOccasion p key' =
          if p = q.place source ∧ key' = key then some (.ofCarrier literal.kind x) else st.cell q.toOccasion p key' := by
  rw [← Occasion.closed allowed] at targeted
  cases outcome with
  | noTarget closed => exact absurd closed targeted
  | overflow beyond => exact absurd beyond fits
  | @stored x after open_ result left => exact ⟨rfl, x, result, left⟩

end Outcome

end Query

namespace Effect
variable {key : String} {source : Source} {q : Query} {st : Stores}

theorem answerForgotten {α : Type} (outcome : Except StateError Unit × Stores) (a : α) :
    ((outcome.1.map fun _ => a).map fun _ => (), outcome.2) = outcome := by
  obtain ⟨verdict, after⟩ := outcome
  cases verdict <;> rfl

theorem applyCompute (arithmetic : Arithmetic) (operand : Operand) {x : Float}
    (shown : (q.look .float key source).shown q.toOccasion st = x) :
    (compute key source arithmetic operand).apply q st =
      q.set key (.float (floatResult arithmetic.symbol x (operand.valueAt q.now))) source (q.get .float key source st).2 := by
  rw [← Query.getShown] at shown
  rw [← Arithmetic.applyResult, ← shown]
  exact answerForgotten _ _

theorem applyStep (step : Step) {m : Int64} (shown : (q.look .int key source).shown q.toOccasion st = m) :
    (Effect.step key source step).apply q st =
      match Query.counterSum? m step.change with
      | none => (.error (.overflow key), (q.get .int key source st).2)
      | some sum => q.set key (.int sum) source (q.get .int key source st).2 := by
  rw [← Query.getShown] at shown
  subst shown
  simp only [apply, Query.increment, Query.value]
  cases Query.counterSum? (q.get .int key source st).1.1 step.change with
  | none => rfl
  | some sum => exact answerForgotten _ _

def Makes (e : Effect) (source : Source) (key : String) (op : Char) (literal : Literal) : Prop :=
  ∀ (q : Query) st, q.Outcome st key source op literal (e.apply q st)

theorem counterSumNone {m amount : Int64} (none_ : Query.counterSum? m amount = none) : ¬ Fits64 (m.toInt + amount.toInt) := by
  unfold Query.counterSum? at none_
  rw [Int64.toInt_minValue, Int64.toInt_maxValue] at none_
  exact fun fits => Option.some_ne_none _ ((if_pos fits).symm.trans none_)

theorem setMakes (allowed : source.isReadOnly = false) (literal : Literal) {x : literal.kind.Carrier} {op : Char}
    (result : ∀ now found, literal.Result op now found x) : (set key source (.ofCarrier literal.kind x)).Makes source key op literal :=
  fun _ _ => (Query.setLeft allowed _).outcome literal (result _ _)

theorem timestampMakes (allowed : source.isReadOnly = false) (arithmetic : Arithmetic) :
    (compute key source arithmetic .now).Makes source key arithmetic.symbol .timestamp := by
  intro q st
  rw [applyCompute arithmetic .now rfl]
  exact (Query.setReadLeft allowed _).outcome .timestamp rfl

theorem floatMakes (allowed : source.isReadOnly = false) (arithmetic : Arithmetic) (x : Float) :
    (compute key source arithmetic (.number x)).Makes source key arithmetic.symbol (.float x) := by
  intro q st
  rw [applyCompute arithmetic (.number x) rfl]
  exact (Query.setReadLeft allowed _).outcome (.float x) rfl

theorem stepMakes (allowed : source.isReadOnly = false) {step : Step} {op : Char} {operand : Int64}
    (change : ∀ m : Int, exactResult op m operand.toInt = m + step.change.toInt) :
    (Effect.step key source step).Makes source key op (.int operand) := by
  intro q st
  rw [applyStep step rfl]
  cases counted : Query.counterSum? ((q.look .int key source).shown q.toOccasion st) step.change with
  | none =>
    have beyond := counterSumNone counted
    -- A zero can always be changed, so the counter was there and reading it wrote nothing.
    have held : (q.look .int key source).shown q.toOccasion st ≠ (0 : Int64) := fun zero => by
      have fits := counterFits step.change
      rw [zero, Int64.toInt_zero, Int.zero_add] at beyond
      exact beyond fits
    rw [Query.getHeld held]
    rw [← change] at beyond
    exact .overflow beyond
  | some sum =>
    have added := Query.counterSumIff.mp counted
    exact (Query.setReadLeft allowed _).outcome (.int operand) (added.trans (change _).symm)

theorem integerMakes (allowed : source.isReadOnly = false) {arithmetic : Arithmetic} {n : Int64} {e : Effect}
    (made : integer key source arithmetic n = .ok e) :
    (Literal.int n).Takes arithmetic.symbol ∧ e.Makes source key arithmetic.symbol (.int n) := by
  cases arithmetic with
  | set =>
    cases made
    exact ⟨.inl rfl, setMakes allowed (.int n) fun _ _ => rfl⟩
  | add =>
    cases made
    exact ⟨.inr (.inl rfl), stepMakes allowed fun _ => rfl⟩
  | subtract =>
    unfold integer at made
    cases lowered : Step.down? n with
    | none =>
      rw [lowered] at made
      contradiction
    | some step =>
      rw [lowered] at made
      cases made
      unfold Step.down? at lowered
      split at lowered
      · contradiction
      · rename_i least
        cases lowered
        refine ⟨.inr (.inr ⟨rfl, least⟩), stepMakes allowed fun m => ?_⟩
        rw [Step.changeExact]
        exact Int.sub_eq_add_neg
  | multiply | divide => contradiction

theorem integerTaken (key : String) (source : Source) {arithmetic : Arithmetic} {n : Int64}
    (takes : (Literal.int n).Takes arithmetic.symbol) : ∃ e, integer key source arithmetic n = .ok e := by
  cases arithmetic with
  | set | add => exact ⟨_, rfl⟩
  | subtract =>
    have least : n ≠ Int64.minValue := by simpa [Literal.Takes, Arithmetic.symbol] using takes
    simp only [integer, Step.down?, dif_neg least]
    exact ⟨_, rfl⟩
  | multiply | divide => simp [Literal.Takes, Arithmetic.symbol] at takes

end Effect

namespace Vocabulary

theorem literalMakes {source : Source} {key : String} {arithmetic : Arithmetic} {literal : Literal} {e : Effect}
    (allowed : source.isReadOnly = false)
    (made : effectOfLiteral key source arithmetic.symbol arithmetic literal = .ok e) :
    literal.Takes arithmetic.symbol ∧ e.Makes source key arithmetic.symbol literal := by
  cases literal with
  | timestamp =>
    cases made
    exact ⟨arithmetic.symbolKnown, Effect.timestampMakes allowed arithmetic⟩
  | float x =>
    cases made
    exact ⟨arithmetic.symbolKnown, Effect.floatMakes allowed arithmetic x⟩
  | int n => exact Effect.integerMakes allowed made
  | bool b =>
    cases arithmetic with
    | set =>
      cases made
      exact ⟨rfl, Effect.setMakes allowed (.bool b) fun _ _ => rfl⟩
    | add | subtract | multiply | divide => contradiction
  | text s =>
    cases arithmetic with
    | set =>
      cases made
      exact ⟨rfl, Effect.setMakes allowed (.text s) fun _ _ => rfl⟩
    | add | subtract | multiply | divide => contradiction

theorem literalTaken (key : String) (source : Source) {arithmetic : Arithmetic} {literal : Literal}
    (takes : literal.Takes arithmetic.symbol) : ∃ e, effectOfLiteral key source arithmetic.symbol arithmetic literal = .ok e := by
  cases literal with
  | timestamp | float => exact ⟨_, rfl⟩
  | int n => exact Effect.integerTaken key source takes
  | bool | text =>
    cases arithmetic with
    | set => exact ⟨_, rfl⟩
    | add | subtract | multiply | divide => simp [Literal.Takes, Arithmetic.symbol] at takes

inductive EffectRead (v : Vocabulary) (raw : String) (ruleId : Int64) : Except LineError Effect → Prop where
  | fault {e} (parsed : Line.parse Cell.remember.operators raw = .error e) : EffectRead v raw ruleId (.error e)
  | unknown {name} (parsed : Line.parse Cell.remember.operators raw = .ok (.named name))
      (unknown : v.effects.get? name = none) : EffectRead v raw ruleId (.error (.unknownEffect name))
  | known {name e} (parsed : Line.parse Cell.remember.operators raw = .ok (.named name))
      (known : v.effects.get? name = some e) : EffectRead v raw ruleId (.ok e)
  | readOnly {source key op token} (parsed : Line.parse Cell.remember.operators raw = .ok (.operation source key op token))
      (refused : source.isReadOnly = true) : EffectRead v raw ruleId (.error (.readOnlySource source))
  | misread {source key op token cause} (parsed : Line.parse Cell.remember.operators raw = .ok (.operation source key op token))
      (allowed : source.isReadOnly = false) (misread : Literal.interpret token ruleId = .error cause) :
      EffectRead v raw ruleId (.error cause)
  | literal {source key arithmetic token literal}
      (parsed : Line.parse Cell.remember.operators raw = .ok (.operation source key (Arithmetic.symbol arithmetic) token))
      (allowed : source.isReadOnly = false) (read : Literal.interpret token ruleId = .ok literal) :
      EffectRead v raw ruleId (effectOfLiteral key source arithmetic.symbol arithmetic literal)

theorem effectRead (v : Vocabulary) (raw : String) (ruleId : Int64) :
    EffectRead v raw ruleId (v.effectOfLine raw ruleId) := by
  unfold effectOfLine
  cases parsed : Line.parse Cell.remember.operators raw with
  | error e => exact .fault parsed
  | ok line =>
    cases line with
    | named name =>
      simp only [bind, Except.bind, effect]
      cases found : v.effects.get? name with
      | none => exact .unknown parsed found
      | some e => exact .known parsed found
    | operation source key op token =>
      obtain ⟨arithmetic, rfl⟩ := Arithmetic.ofRememberOperator (Line.parseOperation.mp parsed).1.operator
      simp only [bind, Except.bind, Arithmetic.ofOperator.mpr rfl]
      cases allowed : source.isReadOnly with
      | true => exact .readOnly parsed allowed
      | false =>
        cases read : Literal.interpret token ruleId with
        | error cause => exact .misread parsed allowed read
        | ok literal => exact .literal parsed allowed read

end Vocabulary

structure Effect.Performs (e : Effect) (source : Source) (key : String) (op : Char) (literal : Literal) : Prop where
  noTarget : ∀ q st key', (e.apply q st).1 = .error (.noTarget key') ↔ key' = key ∧ source = .target ∧ ¬ q.NamesTarget
  overflow : ∀ q st key', (e.apply q st).1 = .error (.overflow key') ↔
    key' = key ∧ literal.Overflows op ((q.look literal.kind key source).shown q.toOccasion st)
  noReadOnly : ∀ q st key' source', (e.apply q st).1 ≠ .error (.readOnly key' source')
  refused : ∀ q st cause, (e.apply q st).1 = .error cause → (e.apply q st).2 = st
  performed : ∀ q st, ¬ (source = .target ∧ ¬ q.NamesTarget) →
    ¬ literal.Overflows op ((q.look literal.kind key source).shown q.toOccasion st) → (e.apply q st).1 = .ok () ∧
      ∃ x, literal.Result op q.now ((q.look literal.kind key source).shown q.toOccasion st) x ∧
        ∀ p key', (e.apply q st).2.cell q.toOccasion p key' =
          if p = q.place source ∧ key' = key then some (.ofCarrier literal.kind x) else st.cell q.toOccasion p key'

theorem Effect.Makes.performs {e : Effect} {source : Source} {key : String} {op : Char} {literal : Literal}
    (makes : e.Makes source key op literal) (allowed : source.isReadOnly = false) (takes : literal.Takes op) :
    e.Performs source key op literal where
  noTarget := fun q st key' => (makes q st).noTargetWhen allowed takes key'
  overflow := fun q st key' => (makes q st).overflowWhen allowed takes key'
  noReadOnly := fun q st key' source' => (makes q st).neverReadOnly key' source'
  refused := fun q st _ refused => (makes q st).refusedKeeps refused
  performed := fun q st targeted fits => (makes q st).storedOtherwise allowed targeted fits

theorem Source.rememberable (source : Source) : source.isReadOnly = false ↔ source = .memory ∨ source = .world ∨ source = .target := by
  cases source <;> decide

theorem Literal.leastFromRule {token : String} {ruleId : Int64} (read : interpret token ruleId = .ok (.int Int64.minValue)) :
    InAnyCase "rule" token := by
  by_cases filled : token.toList = []
  · rw [String.toList_eq_nil_iff.mp filled] at read
    cases read
  · cases (interpretOk filled).mp read with
    | rule word => exact word
    | int digits value =>
      -- Digits alone write no negative number.
      rw [Int64.toInt_minValue] at value
      omega

namespace Vocabulary

theorem effectAccepted (v : Vocabulary) (raw : String) (ruleId : Int64) :
    (∃ e, v.effectOfLine raw ruleId = .ok e) ↔
      (∃ name e, Line.parse Cell.remember.operators raw = .ok (.named name) ∧ v.effects.get? name = some e) ∨
      ∃ source key op token literal, Line.parse Cell.remember.operators raw = .ok (.operation source key op token) ∧
        (source = .memory ∨ source = .world ∨ source = .target) ∧ Literal.interpret token ruleId = .ok literal ∧
        literal.Takes op := by
  have read := v.effectRead raw ruleId
  generalize v.effectOfLine raw ruleId = result at read
  cases read with
  | fault parsed => simp [parsed]
  | unknown parsed unknown => simp [parsed, unknown]
  | known parsed known => simp [parsed, known]
  | readOnly parsed refused =>
    rw [parsed]
    constructor
    · rintro ⟨_, ⟨⟩⟩
    · rintro (⟨_, _, ⟨⟩, _⟩ | ⟨_, _, _, _, _, ⟨⟩, allowed, _⟩)
      rw [← Source.rememberable, refused] at allowed
      contradiction
  | misread parsed allowed misread =>
    rw [parsed]
    constructor
    · rintro ⟨_, ⟨⟩⟩
    · rintro (⟨_, _, ⟨⟩, _⟩ | ⟨_, _, _, _, _, ⟨⟩, _, read, _⟩)
      rw [misread] at read
      contradiction
  | @literal source key arithmetic token literal parsed allowed read =>
    rw [parsed]
    constructor
    · rintro ⟨e, made⟩
      have takes := (literalMakes allowed made).1
      exact .inr ⟨source, key, _, token, literal, rfl, source.rememberable.mp allowed, read, takes⟩
    · rintro (⟨_, _, ⟨⟩, _⟩ | ⟨_, _, _, _, _, ⟨⟩, _, read', takes⟩)
      rw [read] at read'
      cases read'
      exact literalTaken key source takes

theorem effectMakes {v : Vocabulary} {raw : String} {ruleId : Int64} {source : Source} {key token : String} {op : Char}
    {e : Effect} (parsed : Line.parse Cell.remember.operators raw = .ok (.operation source key op token))
    (made : v.effectOfLine raw ruleId = .ok e) :
    source.isReadOnly = false ∧ ∃ literal, Literal.interpret token ruleId = .ok literal ∧ literal.Takes op ∧
      e.Makes source key op literal := by
  have read := v.effectRead raw ruleId
  generalize v.effectOfLine raw ruleId = result at read made
  cases read with
  | fault | unknown | readOnly | misread => contradiction
  | known line =>
    rw [parsed] at line
    cases line
  | literal line allowed read =>
    rw [parsed] at line
    cases line
    exact ⟨allowed, _, read, literalMakes allowed made⟩

theorem effectPerforms {v : Vocabulary} {raw : String} {ruleId : Int64} {source : Source} {key token : String} {op : Char}
    {e : Effect} (parsed : Line.parse Cell.remember.operators raw = .ok (.operation source key op token))
    (made : v.effectOfLine raw ruleId = .ok e) :
    ∃ literal, Literal.interpret token ruleId = .ok literal ∧ e.Performs source key op literal := by
  obtain ⟨allowed, literal, read, takes, makes⟩ := effectMakes parsed made
  exact ⟨literal, read, makes.performs allowed takes⟩

theorem effectLineExact (v : Vocabulary) (raw : String) (ruleId : Int64) :
    ((∃ e, v.effectOfLine raw ruleId = .ok e) ↔
      (∃ name e, Line.Identifier name.toList ∧ Text.trim raw.toList = name.toList ∧ v.effects.get? name = some e) ∨
      ∃ source key op token literal, Line.parse Cell.remember.operators raw = .ok (.operation source key op token) ∧
        (source = .memory ∨ source = .world ∨ source = .target) ∧ Literal.interpret token ruleId = .ok literal ∧
        literal.Takes op) ∧
    (∀ token, Literal.interpret token ruleId = .ok (.int Int64.minValue) → Literal.InAnyCase "rule" token) ∧
    ∀ source key op token e, Line.parse Cell.remember.operators raw = .ok (.operation source key op token) →
      v.effectOfLine raw ruleId = .ok e →
      ∃ literal, Literal.interpret token ruleId = .ok literal ∧ e.Performs source key op literal := by
  refine ⟨?_, fun _ => Literal.leastFromRule, fun _ _ _ _ _ parsed made => effectPerforms parsed made⟩
  rw [effectAccepted]
  simp only [Line.parseNamed, and_assoc]

theorem effectLineExactForScoreLine :
    Line.parse Cell.remember.operators "m Score - rule" = .ok (.operation .memory "Score" '-' "rule") ∧
    ∃ e, builtin.effectOfLine "m Score - rule" 3 = .ok e ∧
      ∃ literal, Literal.interpret "rule" 3 = .ok literal ∧ e.Performs .memory "Score" '-' literal := by
  have parsed : Line.parse Cell.remember.operators "m Score - rule" = .ok (.operation .memory "Score" '-' "rule") := rfl
  have made : builtin.effectOfLine "m Score - rule" 3 = .ok (.step "Score" .memory ⟨.down, 3, by decide⟩) := rfl
  exact ⟨parsed, _, made, (effectLineExact builtin "m Score - rule" 3).2.2 _ _ _ _ _ parsed made⟩

end Vocabulary

end Repartee
