import Repartee.Proofs.Lockstep
import Repartee.Proofs.Session

/-! One dispatch on two dispatchers that differ at most in their stores. When the relation between the stores is
kept in step by the query of the dispatch, both answer alike and stay twins. What a dispatch may write is the
time, what the criteria of its bucket write and what the effects of its bucket write. -/
namespace Repartee

namespace Dispatcher

inductive Probes (d : Dispatcher) (q : Query) : Place → String → Value → Prop where
  | time {key} (known : d.config.timeKey = some key) : Probes d q .world key (.float q.now)
  | criterion {r c p key v} (stands : r ∈ d.table.bucket q.concept q.who) (checked : c ∈ r.criteria)
    (writes : c.Writes q p key v) : Probes d q p key v

inductive Writes (d : Dispatcher) (q : Query) : Place → String → Value → Prop where
  | probe {p key v} (probes : d.Probes q p key v) : Writes d q p key v
  | effect {r e p key v} (stands : r ∈ d.table.bucket q.concept q.who) (applied : e ∈ r.effects)
    (writes : e.Writes q p key v) : Writes d q p key v

def stores (d : Dispatcher) (memory : Store) : Stores := ⟨memory, d.world, d.memories⟩

structure Twins (R : Stores → Stores → Prop) (d d' : Dispatcher) (memory memory' : Store) : Prop where
  table : d'.table = d.table
  clock : d'.clock = d.clock
  draws : d'.draws = d.draws
  config : d'.config = d.config
  sinks : d'.sinks = d.sinks
  stores : R (d.stores memory) (d'.stores memory')

theorem Twins.alone {P : Stores → Prop} {d : Dispatcher} {memory : Store} (holds : P (d.stores memory)) :
    Twins (Lockstep.Alone P) d d memory memory := ⟨rfl, rfl, rfl, rfl, rfl, rfl, holds⟩

section Twins
variable {q : Query} {allowed : Place → String → Value → Prop} {R : Stores → Stores → Prop}
  (both : Lockstep q allowed R) {d d' : Dispatcher} {memory memory' : Store} (twins : Twins R d d' memory memory')

include both twins

theorem refreshedTwins (may : ∀ key, d.config.timeKey = some key → allowed .world key (.float q.now)) :
    Twins R (d.refreshTime q.now) (d'.refreshTime q.now) memory memory' := by
  have same : d'.config.timeKey = d.config.timeKey := congrArg Config.timeKey twins.config
  unfold refreshTime
  rw [same]
  cases known : d.config.timeKey with
  | none => exact twins
  | some key =>
    have stores := both.written .world key (.float q.now) (may key known) twins.stores
    exact ⟨twins.table, twins.clock, twins.draws, twins.config, twins.sinks, stores⟩

theorem foundByTwins (may : ∀ r ∈ d.table.bucket q.concept q.who, ∀ c ∈ r.criteria, ∀ p key v,
      c.Writes q p key v → allowed p key v) :
    (d'.findRule q memory').1 = (d.findRule q memory).1 ∧
    (d'.findRule q memory').2.2 = (d.findRule q memory).2.2 ∧
    R (d.findRule q memory).2.1 (d'.findRule q memory').2.1 := by
  have stores := twins.stores
  unfold Dispatcher.stores at stores
  unfold RuleTable.bucket at may
  unfold findRule
  rw [twins.table, twins.draws]
  cases present : d.table.bucket? q.concept q.who with
  | none => exact ⟨rfl, rfl, stores⟩
  | some bucket =>
    rw [present] at may
    have trials : ∀ r ∈ bucket, ∀ s s', R s s' → InStep R (r.passes q s) (r.passes q s') :=
      fun r mem s s' alike => both.checkAll (may r mem) alike
    obtain ⟨answer, draws, left⟩ := selectByInStep Draws.choose q.now trials stores d.draws
    simp only [selectRule, answer, draws]
    exact ⟨trivial, trivial, left⟩

end Twins

def tried (d : Dispatcher) (now : Float) (o : Occasion) (memory : Store) : Option (Nat × Rule) × Stores × Draws :=
  (d.refreshTime now).findRule { o with now := now } memory

theorem foundStands {d : Dispatcher} {now : Float} {o : Occasion} {memory : Store} {i : Nat} {r : Rule}
    (found : (d.tried now o memory).1 = some (i, r)) : r ∈ d.table.bucket o.concept o.who :=
  d.refreshTimeTable now ▸ List.mem_of_getElem? (foundDue found).1

theorem dispatchedTwins {R : Stores → Stores → Prop} {d d' : Dispatcher} {memory memory' : Store} (now : Float)
    (o : Occasion) (both : Lockstep { o with now := now } (d.Writes { o with now := now }) R)
    (twins : Twins R d d' memory memory') :
    (d'.dispatchAt now o memory').1 = (d.dispatchAt now o memory).1 ∧
    Twins R (d.dispatchAt now o memory).2.1 (d'.dispatchAt now o memory').2.1 (d.dispatchAt now o memory).2.2
      (d'.dispatchAt now o memory').2.2 := by
  have fresh := refreshedTwins both twins fun key known => .probe (.time known)
  have same := refreshTimeTable d now
  have criteria : ∀ r ∈ (d.refreshTime now).table.bucket o.concept o.who, ∀ c ∈ r.criteria, ∀ p key v,
      c.Writes { o with now := now } p key v → d.Writes { o with now := now } p key v :=
    fun r mem c checked p key v writes => .probe (.criterion (same ▸ mem) checked writes)
  obtain ⟨found, draws, stores⟩ := foundByTwins both fresh criteria
  simp only [dispatchAt, found, draws, fresh.config]
  cases chosen : ((d.refreshTime now).findRule { o with now := now } memory).1 with
  | none => exact ⟨rfl, fresh.table, fresh.clock, rfl, rfl, fresh.sinks, stores⟩
  | some p =>
    obtain ⟨i, r⟩ := p
    have fired := both.applyAll (fun e applied p key v writes => .effect (foundStands chosen) applied writes) stores
    simp only [fresh.table, fresh.sinks]
    exact ⟨rfl, rfl, fresh.clock, rfl, rfl, rfl, fired⟩

theorem triedKeeps {P : Stores → Prop} {d : Dispatcher} {now : Float} {o : Occasion} {memory : Store}
    (both : Lockstep { o with now := now } (d.Probes { o with now := now }) (Lockstep.Alone P))
    (holds : P (d.stores memory)) : P (d.tried now o memory).2.1 := by
  have fresh := refreshedTwins both (Twins.alone holds) fun key known => .time known
  have same := refreshTimeTable d now
  exact (foundByTwins both fresh fun r mem c checked p key v writes => .criterion (same ▸ mem) checked writes).2.2.2

theorem dispatchedKeeps {P : Stores → Prop} {d : Dispatcher} {now : Float} {o : Occasion} {memory : Store}
    (both : Lockstep { o with now := now } (d.Writes { o with now := now }) (Lockstep.Alone P))
    (holds : P (d.stores memory)) :
    P ((d.dispatchAt now o memory).2.1.stores (d.dispatchAt now o memory).2.2) :=
  (dispatchedTwins now o both (Twins.alone holds)).2.stores.2

end Dispatcher

theorem Occasion.entityPlace {o : Occasion} {source : Source} {id : EntityId} (leads : o.place source = .entity id) :
    source = .target ∧ o.target = some id ∧ o.speaker ≠ some id := by
  cases source with
  | target =>
    unfold place at leads
    cases named : o.target with
    | none =>
      rw [named] at leads
      contradiction
    | some other =>
      simp only [named] at leads
      split at leads
      · contradiction
      · rename_i apart
        cases leads
        exact ⟨rfl, rfl, apart⟩
  | _ => contradiction

theorem Occasion.elsewhere {o : Occasion} {id : EntityId} (other : o.place .target ≠ .entity id) (source : Source) :
    o.place source ≠ .entity id := fun leads => other ((entityPlace leads).1 ▸ leads)

theorem Stores.entryOpened (st : Stores) {p : Place} {id : EntityId} (other : p ≠ .entity id) :
    (st.openAt p).memories.get? id = st.memories.get? id := by
  cases p with
  | entity id' =>
    have apart : id ≠ id' := fun same => other (same ▸ rfl)
    exact (Memories.getAttach st.memories id' id).trans (if_neg apart)
  | _ => rfl

theorem Stores.entryWritten (st : Stores) {p : Place} {id : EntityId} (other : p ≠ .entity id) (key : String)
    (v : Value) : (st.write p key v).memories.get? id = st.memories.get? id := by
  cases p with
  | entity id' =>
    have apart : id ≠ id' := fun same => other (same ▸ rfl)
    exact Assoc.getInsertOther _ _ apart
  | _ => rfl

theorem Dispatcher.entryKept (d : Dispatcher) (now : Float) {o : Occasion} (memory : Store) {id : EntityId}
    (other : o.place .target ≠ .entity id) :
    (d.dispatchAt now o memory).2.1.memories.get? id = d.memories.get? id := by
  have leads := o.elsewhere other
  have both : Lockstep { o with now := now } (d.Writes { o with now := now })
      (Lockstep.Alone fun st => st.memories.get? id = d.memories.get? id) :=
    Lockstep.alone (fun {st} source same => (st.entryOpened (leads source)).trans same)
      (fun {st} source key v _ same => (st.entryWritten (leads source) key v).trans same)
  exact dispatchedKeeps both rfl

end Repartee
