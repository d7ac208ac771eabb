import Repartee.Proofs.CriterionLines
import Repartee.Proofs.EffectLines
import Repartee.Proofs.Numerals

/-! A line to remember and the same line as a criterion. Read with an equals sign in both cells, the line names the
same key, source and value, so what one writes is what the other asks for. Only the time fails to answer, when it is no
number and so not equal to itself. -/
namespace Repartee

namespace Line
open Text

theorem firstSolidOnce {before before' rest rest' : List Char} {c c' : Char} (blank : Blank before) (blank' : Blank before')
    (solid : isBlank c = false) (solid' : isBlank c' = false) (same : before ++ c :: rest = before' ++ c' :: rest') :
    c = c' ∧ rest = rest' := by
  have trimmed := congrArg trimStart same
  rw [trimStartBlank blank, trimStartBlank blank', trimStartSelf.mpr (by simpa using solid),
    trimStartSelf.mpr (by simpa using solid')] at trimmed
  exact List.cons.inj trimmed

theorem splitOnce {cell cell' : Cell} {raw : String} {source source' : Source} {key key' token token' : String} {op : Char}
    (read : parse cell.operators raw = .ok (.operation source key op token))
    (read' : parse cell'.operators raw = .ok (.operation source' key' op token')) :
    source' = source ∧ key' = key ∧ token' = token := by
  obtain ⟨parts, spelled⟩ := parseOperation.mp read
  obtain ⟨parts', spelled'⟩ := parseOperation.mp read'
  obtain ⟨before, name, after, blank, padded, signed, text⟩ := spellsBody.mp spelled
  obtain ⟨before', name', after', blank', padded', signed', text'⟩ := spellsBody.mp spelled'
  have fresh : ∀ c ∈ name, c ∉ [op] := fun c mem same =>
    paddedFree parts.free padded c mem (List.mem_singleton.mp same ▸ parts.operator)
  have fresh' : ∀ c ∈ name', c ∉ [op] := fun c mem same =>
    paddedFree parts'.free padded' c mem (List.mem_singleton.mp same ▸ parts'.operator)
  obtain ⟨letter, body⟩ := firstSolidOnce blank blank' (letterSolid source) (letterSolid source') (text.symm.trans text')
  have cut : splitAtOperator [op] (name ++ op :: after) = some (name, op, after) :=
    splitSome.mpr ⟨rfl, List.mem_singleton_self op, fresh⟩
  rw [body, splitSome.mpr ⟨rfl, List.mem_singleton_self op, fresh'⟩] at cut
  cases cut
  refine ⟨?_, ?_, ?_⟩
  · rw [← Option.some_inj, ← Source.letterRead, ← letter, Source.letterRead]
  · rw [← String.toList_inj, ← trimPadded parts.named padded, trimPadded parts'.named padded']
  · rw [← String.toList_inj, ← signedOperand parts.valued signed, signedOperand parts'.valued signed']

end Line

namespace Literal

theorem setResult {literal : Literal} {now : Float} {found x : literal.kind.Carrier} (made : literal.Result '=' now found x) :
    x = literal.valueAt now := by
  cases literal with
  | int n => exact Int64.toInt_inj.mp made
  | timestamp | float | bool | text => exact made

/- The one literal that may differ from itself is the time. -/
theorem equalsOwnValue {token : String} {ruleId : Int64} {literal : Literal} (filled : token.toList ≠ [])
    (denotes : Denotes ruleId token literal) (now : Float) :
    literal.kind.equal (literal.valueAt now) (literal.valueAt now) = true ↔
      ¬ (InAnyCase "timestamp" token ∧ now.isNaN = true) := by
  have timestamp : literal = .timestamp ↔ InAnyCase "timestamp" token := by
    constructor
    · rintro rfl
      cases denotes
      assumption
    · intro word
      exact ((denotesOnce filled denotes .timestamp).mp (.timestamp word)).symm
  rw [← timestamp]
  cases literal with
  | timestamp =>
    change (now == now) = true ↔ _
    simp
  | float x =>
    have regular : x.isNaN = false := by
      cases denotes with
      | float point read => exact pointNumber point read
    change (x == x) = true ↔ _
    simpa using regular
  | int | bool | text => exact iff_of_true (beq_self_eq_true _) nofun

end Literal

theorem criterionAfterWrite {q : Query} {st : Stores} {key : String} {source : Source} {literal : Literal}
    {x : literal.kind.Carrier} (held : st.cell q.toOccasion (q.place source) key = some (.ofCarrier literal.kind x))
    (comparison : Comparison) : (Criterion.compare key source comparison literal).check q st =
      (comparison.holds literal.kind x (literal.valueAt q.now), st) := by
  have read : (st.contents q.toOccasion (q.place source)).read? literal.kind key = some x := by
    change ((st.cell q.toOccasion (q.place source) key).bind _) = _
    rw [held, Option.bind_some, Value.asOfCarrier]
  simp only [Criterion.check, Query.value, Query.getFound read]

namespace Vocabulary

theorem rememberedLinePasses {v : Vocabulary} {raw : String} {ruleId : Int64} {source source' : Source}
    {key key' token token' : String} {e : Effect} {c : Criterion}
    (remember : Line.parse Cell.remember.operators raw = .ok (.operation source key '=' token))
    (criteria : Line.parse Cell.criteria.operators raw = .ok (.operation source' key' '=' token'))
    (effect : v.effectOfLine raw ruleId = .ok e) (criterion : v.criterionOfLine raw ruleId = .ok c)
    (q : Query) (st : Stores) (applied : (e.apply q st).1 = .ok ()) :
    (c.check q (e.apply q st).2).2 = (e.apply q st).2 ∧
      ((c.check q (e.apply q st).2).1 = true ↔ ¬ (Literal.InAnyCase "timestamp" token ∧ q.now.isNaN = true)) := by
  obtain ⟨rfl, rfl, rfl⟩ := Line.splitOnce remember criteria
  have filled := (Line.parseOperation.mp remember).1.valued.filled
  obtain ⟨comparison, literal, sign, denotes, rfl⟩ := criterionCompares criteria criterion
  obtain ⟨_, remembered, read, _, makes⟩ := effectMakes remember effect
  obtain rfl := (Literal.denotesOnce filled denotes remembered).mp ((Literal.interpretOk filled).mp read)
  obtain rfl : comparison = .equal := by cases comparison <;> first | rfl | contradiction
  have outcome := makes q st
  generalize e.apply q st = r at outcome applied
  cases outcome with
  | noTarget | overflow => contradiction
  | @stored x after open_ result left =>
    obtain rfl := Literal.setResult result
    have held : after.cell q.toOccasion (q.place source') key' = some (.ofCarrier remembered.kind (remembered.valueAt q.now)) := by
      rw [left, if_pos ⟨rfl, rfl⟩]
    rw [criterionAfterWrite held]
    exact ⟨rfl, Literal.equalsOwnValue filled denotes q.now⟩

def alarmLine : String := "w Alarm = Timestamp"

def alarmQuery : Query := { now := 5.0 }

theorem rememberedLinePassesForAlarm :
    Line.parse Cell.remember.operators alarmLine = .ok (.operation .world "Alarm" '=' "Timestamp") ∧
    Line.parse Cell.criteria.operators alarmLine = .ok (.operation .world "Alarm" '=' "Timestamp") ∧
    ∃ e c, builtin.effectOfLine alarmLine 1 = .ok e ∧ builtin.criterionOfLine alarmLine 1 = .ok c ∧
      (e.apply alarmQuery {}).1 = .ok () ∧ (c.check alarmQuery (e.apply alarmQuery {}).2).2 = (e.apply alarmQuery {}).2 ∧
      ((c.check alarmQuery (e.apply alarmQuery {}).2).1 = true ↔
        ¬ (Literal.InAnyCase "timestamp" "Timestamp" ∧ alarmQuery.now.isNaN = true)) := by
  have remember : Line.parse Cell.remember.operators alarmLine = .ok (.operation .world "Alarm" '=' "Timestamp") := rfl
  have criteria : Line.parse Cell.criteria.operators alarmLine = .ok (.operation .world "Alarm" '=' "Timestamp") := rfl
  have effect : builtin.effectOfLine alarmLine 1 = .ok (.compute "Alarm" .world .set .now) := rfl
  have criterion : builtin.criterionOfLine alarmLine 1 = .ok (.compare "Alarm" .world .equal .timestamp) := rfl
  exact ⟨remember, criteria, _, _, effect, criterion, rfl,
    rememberedLinePasses remember criteria effect criterion alarmQuery {} rfl⟩

end Vocabulary

end Repartee
