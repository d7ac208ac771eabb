import Repartee.Proofs.AuthoringOrder
import Repartee.Proofs.Lockstep

/-! Rules that bring no code of the host. Their criteria are lines of the built-in vocabulary, comparisons and
intervals; their effects are such lines, settings, counter changes and float arithmetic. A criterion of this kind
writes the zero of a kind that a literal can have, and an effect of this kind has one cell that it writes. Rows
compiled with the built-in vocabulary give no other rules, and no session changes what a rule is made of. -/
namespace Repartee

inductive Criterion.Authored : Criterion → Prop where
  | line {raw ruleId c} (read : Vocabulary.builtin.criterionOfLine raw ruleId = .ok c) : Authored c
  | compare (key source op literal) : Authored (.compare key source op literal)
  | within (key source interval) : Authored (.within key source interval)

inductive Effect.Authored : Effect → Prop where
  | line {raw ruleId e} (read : Vocabulary.builtin.effectOfLine raw ruleId = .ok e) : Authored e
  | set (key source v) : Authored (.set key source v)
  | integer {key source op amount e} (made : Effect.integer key source op amount = .ok e) : Authored e
  | float (key source op operand) : Authored (.compute key source op operand)

structure Rule.Authored (r : Rule) : Prop where
  criteria : ∀ c ∈ r.criteria, c.Authored
  effects : ∀ e ∈ r.effects, e.Authored

def zeros : List Value := [.bool false, .int 0, .float 0.0, .text ""]

theorem Literal.zeroOfKind (literal : Literal) : Value.ofCarrier literal.kind literal.kind.zero ∈ zeros := by
  cases literal <;> simp [kind, Kind.zero, Value.ofCarrier, zeros]

namespace Criterion
variable {q : Query} {p : Place} {key : String} {v : Value}

theorem compareWritesZero {c : Criterion} (reads : (c.look? q).isSome = true) (writes : c.Writes q p key v) :
    v ∈ zeros := by
  cases c with
  | compare key' source op literal =>
    obtain ⟨_, _, rfl⟩ := writes
    exact literal.zeroOfKind
  | within | custom => contradiction

theorem Authored.writesZero {c : Criterion} (authored : c.Authored) (writes : c.Writes q p key v) : v ∈ zeros := by
  cases authored with
  | line read => exact compareWritesZero (Vocabulary.builtinCompares read q) writes
  | compare => exact compareWritesZero rfl writes
  | within =>
    obtain ⟨_, _, rfl⟩ := writes
    simp [zeros]

end Criterion

namespace Effect

/- The cell that an effect names; what a custom one writes cannot be told from it. -/
def cell? (q : Query) : Effect → Option (Place × String)
  | .set key source _ => some (q.place source, key)
  | .step key source _ => some (q.place source, key)
  | .compute key source .. => some (q.place source, key)
  | .custom .. => none

theorem writesCell {q : Query} {e : Effect} {p p' : Place} {key key' : String} {v : Value}
    (named : e.cell? q = some (p', key')) (writes : e.Writes q p key v) : p' = p ∧ key' = key := by
  cases e with
  | set =>
    cases named
    exact ⟨writes.1.symm, writes.2.1.symm⟩
  | step | compute =>
    cases named
    exact ⟨writes.1.symm, writes.2.symm⟩
  | custom => contradiction

theorem integerCell {key : String} {source : Source} {op : Arithmetic} {amount : Int64} {e : Effect}
    (made : integer key source op amount = .ok e) (q : Query) : e.cell? q = some (q.place source, key) := by
  cases op with
  | set | add =>
    cases made
    rfl
  | subtract =>
    unfold integer at made
    cases down : Step.down? amount with
    | none =>
      rw [down] at made
      contradiction
    | some step =>
      rw [down] at made
      cases made
      rfl
  | multiply | divide => contradiction

end Effect

namespace Vocabulary

theorem literalCell {key : String} {source : Source} {op : Char} {arithmetic : Arithmetic} {literal : Literal}
    {e : Effect} (made : effectOfLiteral key source op arithmetic literal = .ok e) (q : Query) :
    e.cell? q = some (q.place source, key) := by
  unfold effectOfLiteral at made
  split at made
  · cases made
    rfl
  · cases made
    rfl
  · exact Effect.integerCell made q
  · cases made
    rfl
  · cases made
    rfl
  · contradiction

theorem builtinEffect {name : String} {e : Effect} (known : builtin.effect name = .ok e) : e = markTargetSeen := by
  unfold effect at known
  split at known
  · rename_i e' found
    cases known
    exact Assoc.onlyValue found
  · contradiction

theorem builtinCell {raw : String} {ruleId : Int64} {e : Effect} (read : builtin.effectOfLine raw ruleId = .ok e)
    (q : Query) : ∃ source key, e.cell? q = some (q.place source, key) := by
  unfold effectOfLine at read
  cases parsed : Line.parse Cell.remember.operators raw with
  | error cause =>
    rw [parsed] at read
    contradiction
  | ok line =>
    simp only [parsed, bind, Except.bind] at read
    cases line with
    | named name =>
      rw [builtinEffect read]
      exact ⟨.target, targetSeenKey, rfl⟩
    | operation source key op value =>
      simp only at read
      split at read
      · contradiction
      · split at read
        · contradiction
        · split at read
          · contradiction
          · exact ⟨source, key, literalCell read q⟩

theorem compiledAuthored (rows : List Row) : ∀ r ∈ (builtin.rulesOfRows [] rows).1, r.Authored := by
  intro r mem
  rw [← acceptedRules] at mem
  obtain ⟨p, inside, rfl⟩ := List.mem_map.mp mem
  obtain ⟨criteria, effects, first, second, _, made⟩ := ruleOfRowOk.mp (acceptedRead inside).2.2
  rw [made]
  constructor
  · intro c mem
    obtain ⟨text, _, read⟩ := relatedOrigin (readLinesOk.mp first) mem
    exact .line read
  · intro e mem
    obtain ⟨text, _, read⟩ := relatedOrigin (readLinesOk.mp second) mem
    exact .line read

end Vocabulary

theorem Effect.Authored.cell {e : Effect} (authored : e.Authored) (q : Query) :
    ∃ source key, e.cell? q = some (q.place source, key) := by
  cases authored with
  | line read => exact Vocabulary.builtinCell read q
  | set key source v => exact ⟨source, key, rfl⟩
  | @integer key source op amount e made => exact ⟨source, key, integerCell made q⟩
  | float key source op operand => exact ⟨source, key, rfl⟩

theorem Rule.Authored.writesAside {r : Rule} (authored : r.Authored) {q : Query} {p : Place} {key : String}
    (aside : ∀ e ∈ r.effects, e.cell? q ≠ some (p, key)) : ∀ e ∈ r.effects, ∀ v, ¬ e.Writes q p key v := by
  intro e applied v writes
  obtain ⟨source, key', named⟩ := (authored.effects e applied).cell q
  obtain ⟨rfl, rfl⟩ := Effect.writesCell named writes
  exact aside e applied named

theorem Rule.authoredUnmarked {r r' : Rule} (same : r'.unmarked = r.unmarked) (authored : r'.Authored) :
    r.Authored := by
  obtain ⟨criteria, effects⟩ := Rule.linesUnmarked same
  exact ⟨criteria ▸ authored.criteria, effects ▸ authored.effects⟩

namespace Dispatcher
open RuleTable

theorem authoredAfter {d : Dispatcher} {put : List Rule} (built : Built d.table put)
    (authored : ∀ r ∈ put, r.Authored) (calls : List Call) (c w : String) :
    ∀ r ∈ (d.after calls).table.bucket c w, r.Authored := by
  intro r mem
  have kept := keptFires (keptBuilt built) (d.sessionFires calls)
  obtain ⟨r', was, same⟩ := standingWasPut kept mem
  exact Rule.authoredUnmarked same (authored r' was)

theorem compiledAuthoredAfter {d : Dispatcher} {rows : List Row}
    (compiled : d.table = (Vocabulary.builtin.compile rows).table) (calls : List Call) (c w : String) :
    ∀ r ∈ (d.after calls).table.bucket c w, r.Authored :=
  authoredAfter (compiled ▸ .rows _ rows) (Vocabulary.compiledAuthored rows) calls c w

end Dispatcher

end Repartee
