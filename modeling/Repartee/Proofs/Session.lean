import Repartee.Dispatcher
import Repartee.Proofs.Selection

/-! Sessions: what a host does with a dispatcher, call after call. Dispatches come with any times, occasions
and memories; between them the host may rewrite the world and the entities' memories, set the clock and add
sinks. The draws may be replaced before any call, so a session covers whatever could be drawn. All that a
session does to the rule table is a sequence of firings, each of a rule that stands in its bucket and may
be considered at the time. -/
namespace Repartee

inductive Call where
  | dispatchAt (now : Float) (o : Occasion) (memory : Store)
  | dispatch (o : Occasion) (memory : Store)
  | dispatchEntity (speaker : EntityId) (o : Occasion)
  | editWorld (world : Store)
  | editMemories (memories : Memories)
  | setClock (clock : Clock)
  | setDraws (draws : Draws)
  | addSink

structure Firing where
  concept : String
  who : String
  index : Nat
  rule : Rule
  time : Float

namespace RuleTable

def fire (t : RuleTable) (f : Firing) : RuleTable :=
  t.settle f.concept f.who f.index (f.rule.markFired f.time)

structure Due (t : RuleTable) (f : Firing) : Prop where
  stands : (t.bucket f.concept f.who)[f.index]? = some f.rule
  eligible : f.rule.isEligible f.time = true

inductive Fires : RuleTable → List Firing → RuleTable → Prop where
  | nil (t) : Fires t [] t
  | cons {t f fs t'} (due : Due t f) (rest : Fires (t.fire f) fs t') : Fires t (f :: fs) t'

end RuleTable

namespace Dispatcher
open RuleTable (Due Fires)

def firingAt? (d : Dispatcher) (now : Float) (o : Occasion) (memory : Store) : Option Firing :=
  ((d.refreshTime now).findRule { o with now := now } memory).1.map
    (fun found => ⟨o.concept, o.who, found.1, found.2, now⟩)

theorem refreshTimeTable (d : Dispatcher) (now : Float) : (d.refreshTime now).table = d.table := by
  unfold refreshTime
  split <;> rfl

theorem refreshTimeKept (d : Dispatcher) (now : Float) : (d.refreshTime now).clock = d.clock ∧
    (d.refreshTime now).draws = d.draws ∧ (d.refreshTime now).config = d.config ∧
    (d.refreshTime now).sinks = d.sinks := by
  unfold refreshTime
  split <;> exact ⟨rfl, rfl, rfl, rfl⟩

theorem refreshTimeWorld (d : Dispatcher) (now : Float) {key : String} (timeless : d.config.timeKey ≠ some key) :
    (d.refreshTime now).world.get? key = d.world.get? key := by
  unfold refreshTime
  cases known : d.config.timeKey with
  | none => rfl
  | some timeKey => exact Assoc.getInsertOther d.world _ fun same => timeless (same ▸ known)

theorem foundDue {d : Dispatcher} {q : Query} {memory : Store} {i : Nat} {r : Rule}
    (found : (d.findRule q memory).1 = some (i, r)) :
    (d.table.bucket q.concept q.who)[i]? = some r ∧ r.isEligible q.now = true := by
  unfold findRule at found
  unfold RuleTable.bucket
  cases present : d.table.bucket? q.concept q.who with
  | none =>
    rw [present] at found
    contradiction
  | some bucket =>
    simp only [present] at found
    obtain ⟨j, chosen, at_j⟩ := Option.bind_eq_some_iff.mp found
    obtain ⟨r', stands, same⟩ := Option.map_eq_some_iff.mp at_j
    cases same
    obtain ⟨walked, left, outcome⟩ :=
      Selection.prefixChosen (fun r => r.passes q) q.now bucket ⟨memory, d.world, d.memories⟩ d.draws
    obtain ⟨t, _, _, stands', may⟩ := outcome.chosen i chosen
    have same : r = t.rule := Option.some.inj (stands.symm.trans stands')
    exact ⟨stands, same ▸ may⟩

theorem foundNone {d : Dispatcher} {q : Query} {memory : Store} (missed : (d.findRule q memory).1 = none) :
    (d.findRule q memory).2.2 = d.draws := by
  unfold findRule at missed ⊢
  cases present : d.table.bucket? q.concept q.who with
  | none => rfl
  | some bucket =>
    simp only [present] at missed ⊢
    cases chosen : (selectRule bucket q ⟨memory, d.world, d.memories⟩ d.draws).1 with
    | none => exact Draws.chosenNone chosen
    | some i =>
      obtain ⟨walked, left, outcome⟩ :=
        Selection.prefixChosen (fun r => r.passes q) q.now bucket ⟨memory, d.world, d.memories⟩ d.draws
      obtain ⟨t, _, _, stands, _⟩ := outcome.chosen i chosen
      rw [chosen, Option.bind_some, stands] at missed
      contradiction

theorem firingDue {d : Dispatcher} {now : Float} {o : Occasion} {memory : Store} {f : Firing}
    (fired : d.firingAt? now o memory = some f) : Due d.table f := by
  obtain ⟨found, chosen, rfl⟩ := Option.map_eq_some_iff.mp fired
  obtain ⟨stands, may⟩ := foundDue chosen
  rw [refreshTimeTable] at stands
  exact ⟨stands, may⟩

theorem dispatchedTable (d : Dispatcher) (now : Float) (o : Occasion) (memory : Store) :
    (d.dispatchAt now o memory).2.1.table = (d.firingAt? now o memory).elim d.table d.table.fire := by
  simp only [dispatchAt, firingAt?]
  cases (d.refreshTime now).findRule { o with now := now } memory with
  | mk found rest =>
    cases found with
    | none => exact refreshTimeTable d now
    | some found =>
      simp only [Option.map_some, Option.elim_some, refreshTimeTable]
      rfl

theorem dispatchedResponse (d : Dispatcher) (now : Float) (o : Occasion) (memory : Store) :
    (d.dispatchAt now o memory).1.map (fun r => (r.ruleId, r.text)) =
      (d.firingAt? now o memory).map (fun f => (f.rule.id, f.rule.response)) := by
  simp only [dispatchAt, firingAt?]
  cases (d.refreshTime now).findRule { o with now := now } memory with
  | mk found rest => cases found <;> rfl

def without (d : Dispatcher) (speaker : EntityId) : Dispatcher :=
  { d with memories := d.memories.erase speaker }

def step (d : Dispatcher) : Call → Option Response × Dispatcher
  | .dispatchAt now o memory => ((d.dispatchAt now o memory).1, (d.dispatchAt now o memory).2.1)
  | .dispatch o memory => ((d.dispatch o memory).1, (d.dispatch o memory).2.1)
  | .dispatchEntity speaker o => d.dispatchEntity speaker o
  | .editWorld world => (none, { d with world := world })
  | .editMemories memories => (none, { d with memories := memories })
  | .setClock clock => (none, { d with clock := clock })
  | .setDraws draws => (none, { d with draws := draws })
  | .addSink => (none, d.addSink)

def firing? (d : Dispatcher) : Call → Option Firing
  | .dispatchAt now o memory => d.firingAt? now o memory
  | .dispatch o memory => d.firingAt? d.clock.seconds o memory
  | .dispatchEntity speaker o =>
    (d.without speaker).firingAt? d.clock.seconds { o with speaker := some speaker } (d.memories.storeOf speaker)
  | .editWorld _ | .editMemories _ | .setClock _ | .setDraws _ | .addSink => none

theorem stepTable (d : Dispatcher) (call : Call) :
    (d.step call).2.table = (d.firing? call).elim d.table d.table.fire := by
  cases call with
  | dispatchAt now o memory => exact dispatchedTable d now o memory
  | dispatch o memory => exact dispatchedTable d d.clock.seconds o memory
  | dispatchEntity speaker o => exact dispatchedTable (d.without speaker) d.clock.seconds _ _
  | _ => rfl

theorem stepResponse (d : Dispatcher) (call : Call) :
    (d.step call).1.map (fun r => (r.ruleId, r.text)) =
      (d.firing? call).map (fun f => (f.rule.id, f.rule.response)) := by
  cases call with
  | dispatchAt now o memory => exact dispatchedResponse d now o memory
  | dispatch o memory => exact dispatchedResponse d d.clock.seconds o memory
  | dispatchEntity speaker o => exact dispatchedResponse (d.without speaker) d.clock.seconds _ _
  | _ => rfl

theorem stepDue {d : Dispatcher} {call : Call} {f : Firing} (fired : d.firing? call = some f) :
    Due d.table f := by
  cases call with
  | dispatchAt now o memory => exact firingDue fired
  | dispatch o memory => exact firingDue fired
  | dispatchEntity speaker o => exact firingDue (d := d.without speaker) fired
  | _ => contradiction

def after (d : Dispatcher) : List Call → Dispatcher
  | [] => d
  | call :: rest => (d.step call).2.after rest

def Throughout (P : Dispatcher → Call → Prop) (d : Dispatcher) : List Call → Prop
  | [] => True
  | call :: rest => P d call ∧ (d.step call).2.Throughout P rest

def responses (d : Dispatcher) : List Call → List Response
  | [] => []
  | call :: rest => (d.step call).1.toList ++ (d.step call).2.responses rest

def firings (d : Dispatcher) : List Call → List Firing
  | [] => []
  | call :: rest => (d.firing? call).toList ++ (d.step call).2.firings rest

theorem sessionFires (d : Dispatcher) (calls : List Call) :
    Fires d.table (d.firings calls) (d.after calls).table := by
  induction calls generalizing d with
  | nil => exact .nil _
  | cons call rest ih =>
    have tail := ih (d.step call).2
    rw [stepTable] at tail
    simp only [firings, after]
    cases fired : d.firing? call with
    | none =>
      rw [fired] at tail
      exact tail
    | some f =>
      rw [fired] at tail
      exact .cons (stepDue fired) tail

theorem sessionResponses (d : Dispatcher) (calls : List Call) :
    (d.responses calls).map (fun r => (r.ruleId, r.text)) =
      (d.firings calls).map (fun f => (f.rule.id, f.rule.response)) := by
  induction calls generalizing d with
  | nil => rfl
  | cons call rest ih =>
    have one := congrArg Option.toList (stepResponse d call)
    rw [Option.toList_map, Option.toList_map] at one
    simp only [responses, firings, List.map_append, ih, one]

end Dispatcher

end Repartee
