import Repartee.Proofs.CellLines
import Repartee.Proofs.Compilation

/-! What becomes of one row. It becomes a rule when each of its lines reads and its cooldown can be waited for, and then
the rule has one criterion and one effect for each line, in order. Else it is refused whole, and the refusal names the
row and the first thing that is wrong with it: its criteria are looked at before its effects, and these before its
cooldown. -/
namespace Repartee

def Row.CooldownFits (row : Row) : Prop := ∀ x, row.cooldown = some x → x.isFinite = true ∧ ¬ x < 0.0

namespace Vocabulary

def AllRead {α : Type} (read : String → Int64 → Except LineError α) (ruleId : Int64) (lines : List String) : Prop :=
  ∀ text ∈ lines, ∃ a, read text ruleId = .ok a

def FirstRefused {α : Type} (read : String → Int64 → Except LineError α) (ruleId : Int64) (lines : List String)
    (text : String) (cause : LineError) : Prop :=
  ∃ before after, lines = before ++ text :: after ∧ AllRead read ruleId before ∧ read text ruleId = .error cause

structure LineByLine {α : Type} (read : String → Int64 → Except LineError α) (ruleId : Int64) (lines : List String)
    (as : List α) : Prop where
  length : as.length = lines.length
  reading : ∀ (i : Nat) (text : String), lines[i]? = some text → ∃ a, as[i]? = some a ∧ read text ruleId = .ok a

section Lines
variable {α : Type} {read : String → Int64 → Except LineError α} {ruleId : Int64} {lines : List String}

theorem readLinesByLine {as : List α} : readLines ruleId read lines = .ok as ↔ LineByLine read ruleId lines as := by
  rw [readLinesOk]
  constructor
  · intro related
    induction related with
    | nil => exact ⟨rfl, nofun⟩
    | @cons text a lines as head _ ih =>
      refine ⟨congrArg (· + 1) ih.length, fun i text' stands => ?_⟩
      cases i with
      | zero =>
        cases stands
        exact ⟨a, rfl, head⟩
      | succ i => exact ih.reading i text' stands
  · intro byLine
    induction lines generalizing as with
    | nil =>
      obtain rfl := List.length_eq_zero_iff.mp byLine.length
      exact .nil
    | cons text rest ih =>
      cases as with
      | nil => cases byLine.length
      | cons a as =>
        obtain ⟨_, ⟨⟩, head⟩ := byLine.reading 0 text rfl
        exact .cons head (ih ⟨Nat.succ.inj byLine.length, fun i => byLine.reading (i + 1)⟩)

theorem readLinesAll : AllRead read ruleId lines ↔ ∃ as, readLines ruleId read lines = .ok as := by
  constructor
  · intro all
    induction lines with
    | nil => exact ⟨[], rfl⟩
    | cons text rest ih =>
      obtain ⟨a, head⟩ := all text List.mem_cons_self
      obtain ⟨as, tail⟩ := ih fun text mem => all text (List.mem_cons_of_mem _ mem)
      exact ⟨a :: as, by simp only [readLines, head, tail]⟩
  · rintro ⟨as, made⟩ text mem
    obtain ⟨i, stands⟩ := List.getElem?_of_mem mem
    obtain ⟨a, _, one⟩ := (readLinesByLine.mp made).reading i text stands
    exact ⟨a, one⟩

theorem firstRefusedCons {text first : String} {cause : LineError} :
    FirstRefused read ruleId (first :: lines) text cause ↔
      (text = first ∧ read first ruleId = .error cause) ∨
      ((∃ a, read first ruleId = .ok a) ∧ FirstRefused read ruleId lines text cause) := by
  constructor
  · rintro ⟨before, after, split, all, refused⟩
    cases before with
    | nil =>
      cases split
      exact .inl ⟨rfl, refused⟩
    | cons _ before =>
      cases split
      refine .inr ⟨all _ List.mem_cons_self, before, after, rfl, fun text mem => ?_, refused⟩
      exact all text (List.mem_cons_of_mem _ mem)
  · rintro (⟨rfl, refused⟩ | ⟨reads, before, after, rfl, all, refused⟩)
    · exact ⟨[], lines, rfl, nofun, refused⟩
    · refine ⟨first :: before, after, rfl, fun text mem => ?_, refused⟩
      rcases List.mem_cons.mp mem with rfl | later
      · exact reads
      · exact all text later

theorem readLinesError {e : RowError} : readLines ruleId read lines = .error e ↔
    ∃ text cause, FirstRefused read ruleId lines text cause ∧ e = .line ruleId text cause := by
  induction lines with
  | nil =>
    simp only [readLines, reduceCtorEq, false_iff]
    rintro ⟨_, _, ⟨before, _, split, _⟩, _⟩
    cases before <;> contradiction
  | cons first rest ih =>
    simp only [readLines, firstRefusedCons]
    cases head : read first ruleId with
    | error cause => simp [eq_comm]
    | ok a =>
      simp only [reduceCtorEq, and_false, false_or, Except.ok.injEq, exists_eq', true_and, ← ih]
      cases readLines ruleId read rest <;> simp

end Lines

structure CompiledFrom (v : Vocabulary) (row : Row) (rule : Rule) : Prop where
  id : rule.id = row.id
  concept : rule.concept = row.concept
  who : rule.who = row.who
  response : rule.response = row.response
  idle : rule.state = .idle
  oneShot : rule.isOneShot = true ↔ row.cooldown = none
  cooldown : rule.cooldown = row.cooldown
  fits : row.CooldownFits
  criteria : LineByLine v.criterionOfLine row.id (linesOfCell row.criteria) rule.criteria
  effects : LineByLine v.effectOfLine row.id (linesOfCell row.remember) rule.effects
  specificity : rule.specificity = (linesOfCell row.criteria).length

/- Why a row is refused. What is looked at later is at fault only when nothing before it is. -/
inductive Refused (v : Vocabulary) (row : Row) : RowError → Prop where
  | criterion {text cause} (first : FirstRefused v.criterionOfLine row.id (linesOfCell row.criteria) text cause) :
    Refused v row (.line row.id text cause)
  | effect {text cause} (criteria : AllRead v.criterionOfLine row.id (linesOfCell row.criteria))
    (first : FirstRefused v.effectOfLine row.id (linesOfCell row.remember) text cause) :
    Refused v row (.line row.id text cause)
  | cooldown {x} (criteria : AllRead v.criterionOfLine row.id (linesOfCell row.criteria))
    (effects : AllRead v.effectOfLine row.id (linesOfCell row.remember)) (given : row.cooldown = some x)
    (unfit : ¬ (x.isFinite = true ∧ ¬ x < 0.0)) : Refused v row (.invalidCooldown row.id x)

variable {v : Vocabulary} {row : Row}

theorem allowedIff {x : Float} : cooldownAllowed x = true ↔ x.isFinite = true ∧ ¬ x < 0.0 := by
  simp [cooldownAllowed]

theorem allowedFits : (∀ x ∈ row.cooldown, cooldownAllowed x = true) ↔ row.CooldownFits := by
  simp only [allowedIff, Row.CooldownFits, Option.mem_def]

theorem ruleOfRowIsOk : (v.ruleOfRow row).isOk = true ↔ AllRead v.criterionOfLine row.id (linesOfCell row.criteria) ∧
    AllRead v.effectOfLine row.id (linesOfCell row.remember) ∧ row.CooldownFits := by
  have some_ : (v.ruleOfRow row).isOk = true ↔ ∃ rule, v.ruleOfRow row = .ok rule := by
    cases v.ruleOfRow row <;> simp [Except.isOk, Except.toBool]
  simp only [some_, ruleOfRowOk, readLinesAll, ← allowedFits]
  constructor
  · rintro ⟨_, criteria, effects, first, second, allowed, _⟩
    exact ⟨⟨criteria, first⟩, ⟨effects, second⟩, allowed⟩
  · rintro ⟨⟨criteria, first⟩, ⟨effects, second⟩, allowed⟩
    exact ⟨_, criteria, effects, first, second, allowed, rfl⟩

theorem compiledIff {rule : Rule} : v.ruleOfRow row = .ok rule ↔ v.CompiledFrom row rule := by
  rw [ruleOfRowOk]
  constructor
  · rintro ⟨criteria, effects, first, second, allowed, rfl⟩
    exact {
      id := rfl, concept := rfl, who := rfl, response := rfl, idle := rfl, cooldown := rfl
      oneShot := Option.isNone_iff_eq_none
      fits := allowedFits.mp allowed
      criteria := readLinesByLine.mp first
      effects := readLinesByLine.mp second
      specificity := (readLinesByLine.mp first).length }
  · intro made
    refine ⟨rule.criteria, rule.effects, readLinesByLine.mpr made.criteria, readLinesByLine.mpr made.effects,
      allowedFits.mpr made.fits, ?_⟩
    have unfired : rule.lastFired = none := by
      have idle := made.idle
      unfold Rule.state at idle
      split at idle
      · contradiction
      · rename_i never
        simpa using never
    obtain ⟨id, concept, who, response, criteria, effects, cooldown, lastFired⟩ := rule
    cases made.id
    cases made.concept
    cases made.who
    cases made.response
    cases made.cooldown
    cases unfired
    rfl

theorem ruleOfRowError {e : RowError} : v.ruleOfRow row = .error e ↔
    readLines row.id v.criterionOfLine (linesOfCell row.criteria) = .error e ∨
    (∃ criteria, readLines row.id v.criterionOfLine (linesOfCell row.criteria) = .ok criteria) ∧
      (readLines row.id v.effectOfLine (linesOfCell row.remember) = .error e ∨
      (∃ effects, readLines row.id v.effectOfLine (linesOfCell row.remember) = .ok effects) ∧
        ∃ x, row.cooldown = some x ∧ ¬ cooldownAllowed x = true ∧ e = .invalidCooldown row.id x) := by
  unfold ruleOfRow
  cases readLines row.id v.criterionOfLine (linesOfCell row.criteria) with
  | error cause => simp [bind, Except.bind]
  | ok criteria =>
    cases readLines row.id v.effectOfLine (linesOfCell row.remember) with
    | error cause => simp [bind, Except.bind]
    | ok effects =>
      cases row.cooldown with
      | none => simp [bind, Except.bind]
      | some x =>
        cases allowed : cooldownAllowed x with
        | true => simp [bind, Except.bind, allowed]
        | false =>
          simp only [bind, Except.bind, allowed, Bool.false_eq_true, if_false, Except.error.injEq, reduceCtorEq, false_or,
            Except.ok.injEq, exists_eq', true_and, Option.some.injEq, exists_eq_left', not_false_eq_true]
          exact eq_comm

theorem refusedIff {e : RowError} : v.ruleOfRow row = .error e ↔ v.Refused row e := by
  simp only [ruleOfRowError, ← readLinesAll, readLinesError]
  constructor
  · rintro (⟨_, _, first, rfl⟩ | ⟨criteria, ⟨_, _, first, rfl⟩ | ⟨effects, x, given, refused, rfl⟩⟩)
    · exact .criterion first
    · exact .effect criteria first
    · exact .cooldown criteria effects given fun fits => refused (allowedIff.mpr fits)
  · intro refused
    cases refused with
    | criterion first => exact .inl ⟨_, _, first, rfl⟩
    | effect criteria first => exact .inr ⟨criteria, .inl ⟨_, _, first, rfl⟩⟩
    | cooldown criteria effects given unfit =>
      exact .inr ⟨criteria, .inr ⟨effects, _, given, fun allowed => unfit (allowedIff.mp allowed), rfl⟩⟩

theorem rowCompiledOrRefused (v : Vocabulary) (row : Row) :
    (∀ cell texts, Listed cell texts ↔ linesOfCell cell = texts) ∧
    ((v.ruleOfRow row).isOk = true ↔ AllRead v.criterionOfLine row.id (linesOfCell row.criteria) ∧
      AllRead v.effectOfLine row.id (linesOfCell row.remember) ∧ row.CooldownFits) ∧
    (∀ rule, v.ruleOfRow row = .ok rule ↔ v.CompiledFrom row rule) ∧
    ∀ e, v.ruleOfRow row = .error e ↔ v.Refused row e :=
  ⟨fun _ _ => listedIff, ruleOfRowIsOk, fun _ => compiledIff, fun _ => refusedIff⟩

example : cooldownAllowed (-0.0) = true ∧ cooldownAllowed (1.0 / 0.0) = false ∧ cooldownAllowed (0.0 / 0.0) = false := by
  decide

end Vocabulary
end Repartee
