import Repartee.Proofs.CriterionLines
import Repartee.Proofs.EffectLines
import Repartee.Proofs.Trials

/-! Which cell a line names. What a line becomes names the same cell as the line, but for the two names that are built
in and stand for cells of their own. So the lines of a row about one cell and what the rule says about this cell
correspond one to one. -/
namespace Repartee

namespace Line
variable {cell : Cell} {raw : String}

def named? (cell : Cell) (raw : String) : Option (Source × String) :=
  match parse cell.operators raw with
  | .ok (.operation source key _ _) => some (source, key)
  | _ => none

theorem namedByOperation {source : Source} {key token : String} {op : Char}
    (parsed : parse cell.operators raw = .ok (.operation source key op token)) : named? cell raw = some (source, key) := by
  rw [named?, parsed]

theorem namedByName {name : String} (parsed : parse cell.operators raw = .ok (.named name)) : named? cell raw = none := by
  rw [named?, parsed]

end Line

theorem Effect.integerNamed {key : String} {source : Source} {arithmetic : Arithmetic} {amount : Int64} {e : Effect}
    (made : Effect.integer key source arithmetic amount = .ok e) : e.named? = some (source, key) := by
  cases arithmetic with
  | set | add =>
    cases made
    rfl
  | subtract =>
    simp only [integer] at made
    split at made
    · cases made
      rfl
    · contradiction
  | multiply | divide => contradiction

namespace Vocabulary
variable {raw : String} {ruleId : Int64}

theorem literalNamed {key : String} {source : Source} {op : Char} {arithmetic : Arithmetic} {literal : Literal}
    {e : Effect} (made : effectOfLiteral key source op arithmetic literal = .ok e) : e.named? = some (source, key) := by
  cases literal with
  | timestamp | float =>
    cases made
    rfl
  | int n => exact Effect.integerNamed made
  | bool | text =>
    cases arithmetic with
    | set =>
      cases made
      rfl
    | add | subtract | multiply | divide => contradiction

theorem criterionNamed {c : Criterion} (made : builtin.criterionOfLine raw ruleId = .ok c) :
    c.named? = Line.named? .criteria raw ∨ c = targetNotSeen ∧ Line.named? .criteria raw = none := by
  have read := builtin.criterionRead raw ruleId
  rw [made] at read
  cases read with
  | known parsed known => exact .inr ⟨Assoc.onlyValue known, Line.namedByName parsed⟩
  | comparison parsed => exact .inl (Line.namedByOperation parsed).symm

theorem effectNamed {e : Effect} (made : builtin.effectOfLine raw ruleId = .ok e) :
    e.named? = Line.named? .remember raw ∨ e = markTargetSeen ∧ Line.named? .remember raw = none := by
  have read := builtin.effectRead raw ruleId
  generalize builtin.effectOfLine raw ruleId = result at read made
  cases read with
  | fault | unknown | readOnly | misread => contradiction
  | known parsed known =>
    cases made
    exact .inr ⟨Assoc.onlyValue known, Line.namedByName parsed⟩
  | literal parsed => exact .inl ((literalNamed made).trans (Line.namedByOperation parsed).symm)

theorem worldCriterion {c : Criterion} {key : String} (made : builtin.criterionOfLine raw ruleId = .ok c) :
    c.named? = some (.world, key) ↔ Line.named? .criteria raw = some (.world, key) := by
  rcases criterionNamed made with same | ⟨rfl, none_⟩
  · rw [same]
  · simp [none_, targetNotSeen, Criterion.named?]

theorem worldEffect {e : Effect} {key : String} (made : builtin.effectOfLine raw ruleId = .ok e) :
    e.named? = some (.world, key) ↔ Line.named? .remember raw = some (.world, key) := by
  rcases effectNamed made with same | ⟨rfl, none_⟩
  · rw [same]
  · simp [none_, markTargetSeen, Effect.named?]

theorem readAlone {α : Type} {read : String → Int64 → Except LineError α} {lines : List String} {as : List α}
    (made : readLines ruleId read lines = .ok as) {p : String → Prop} {q : α → Prop} [DecidablePred p] [DecidablePred q]
    (same : ∀ text a, read text ruleId = .ok a → (q a ↔ p text)) (alone : lines.filter p = [raw]) :
    ∃ a, read raw ruleId = .ok a ∧ as.filter q = [a] := by
  have related := List.rel_filter (p := fun text => decide (p text)) (q := fun a => decide (q a))
    (fun text a one => by simp [same text a one]) (readLinesOk.mp made)
  rw [alone] at related
  obtain ⟨a, rest, one, none_, shown⟩ := List.forall₂_cons_left_iff.mp related
  obtain rfl := List.forall₂_nil_left_iff.mp none_
  exact ⟨a, one, shown⟩

end Vocabulary

end Repartee
