import Repartee.Compile
import Repartee.Proofs.Twins

/-! Who keeps an asker's memory makes no difference. One dispatcher keeps it among the entities' stores and takes
it out while rules run; for the other the host holds it and hands it in. No source leads a query of that asker
to its own entry, because a target that is the speaker is the memory, so nothing is written behind the store
that was taken out and nothing is lost when it is put back. -/
namespace Repartee

structure ApartFrom (s : EntityId) (st st' : Stores) : Prop where
  memory : st'.memory = st.memory
  world : st'.world = st.world
  others : ∀ id, id ≠ s → st'.memories.get? id = st.memories.get? id

theorem Memories.storeOfEntry {m m' : Memories} {id : EntityId} (same : m'.get? id = m.get? id) :
    m'.storeOf id = m.storeOf id := by
  unfold storeOf
  rw [same]

theorem apartInStep {s : EntityId} {q : Query} (clear : q.place .target ≠ .entity s)
    (allowed : Place → String → Value → Prop) : Lockstep q allowed (ApartFrom s) where
  shown source key apart := by
    cases place : q.place source with
    | memory => exact congrArg (Assoc.get? · key) apart.memory
    | world => exact congrArg (Assoc.get? · key) apart.world
    | entity id =>
      have other : id ≠ s := fun same => q.elsewhere clear source (same ▸ place)
      exact congrArg (Assoc.get? · key) (Memories.storeOfEntry (apart.others id other))
    | _ => rfl
  opened {st st'} source apart := by
    cases place : q.place source with
    | entity id =>
      refine ⟨apart.memory, apart.world, fun id' other => ?_⟩
      have opens (m : Memories) := Memories.getAttach m id id'
      by_cases here : id' = id
      · have same := apart.others id' other
        rw [here] at same
        simp only [Stores.openAt, opens, if_pos here, Memories.storeOfEntry same]
      · simp only [Stores.openAt, opens, if_neg here, apart.others id' other]
    | _ => exact apart
  written {st st'} source key v _ apart := by
    cases place : q.place source with
    | memory => exact ⟨congrArg (Assoc.insert · key v) apart.memory, apart.world, apart.others⟩
    | world => exact ⟨apart.memory, congrArg (Assoc.insert · key v) apart.world, apart.others⟩
    | entity id =>
      refine ⟨apart.memory, apart.world, fun id' other => ?_⟩
      simp only [Stores.write, Memories.write, Assoc.getInsert]
      split
      · rename_i here
        rw [Memories.storeOfEntry (here ▸ apart.others id' other)]
      · exact apart.others id' other
    | _ => exact apart

namespace Dispatcher

/- The first keeps the memory of an entity, which for the second is held outside. -/
structure Beside (s : EntityId) (d d' : Dispatcher) (m : Store) : Prop where
  table : d'.table = d.table
  world : d'.world = d.world
  clock : d'.clock = d.clock
  draws : d'.draws = d.draws
  config : d'.config = d.config
  sinks : d'.sinks = d.sinks
  others : ∀ id, id ≠ s → d'.memories.get? id = d.memories.get? id
  held : m = d.memories.storeOf s

theorem Twins.beside {s : EntityId} {d d' : Dispatcher} {memory memory' m : Store}
    (twins : Twins (ApartFrom s) d d' memory memory') (held : m = d.memories.storeOf s) : Beside s d d' m :=
  ⟨twins.table, twins.stores.world, twins.clock, twins.draws, twins.config, twins.sinks, twins.stores.others, held⟩

section Beside
variable {s : EntityId} {d d' : Dispatcher} {m : Store} (beside : Beside s d d' m)

include beside

theorem Beside.twins (memory : Store) : Twins (ApartFrom s) d d' memory memory :=
  ⟨beside.table, beside.clock, beside.draws, beside.config, beside.sinks, rfl, beside.world, beside.others⟩

theorem Beside.twinsWithout (memory : Store) : Twins (ApartFrom s) (d.without s) d' memory memory := by
  refine ⟨beside.table, beside.clock, beside.draws, beside.config, beside.sinks, rfl, beside.world, fun id other => ?_⟩
  exact (beside.others id other).trans ((Assoc.getErase d.memories s id).trans (if_neg other)).symm

end Beside

theorem Twins.putBack {s : EntityId} {d d' : Dispatcher} {memory memory' : Store}
    (twins : Twins (ApartFrom s) d d' memory memory') :
    Beside s { d with memories := d.memories.insert s memory } d' memory' := by
  refine ⟨twins.table, twins.stores.world, twins.clock, twins.draws, twins.config, twins.sinks, fun id other => ?_, ?_⟩
  · exact (twins.stores.others id other).trans (Assoc.getInsertOther _ _ other).symm
  · have stored : (d.memories.insert s memory).get? s = some memory := Assoc.getInsertSelf _ s memory
    rw [Memories.storeOf, stored]
    exact twins.stores.memory

end Dispatcher

def Occasion.askedBy (o : Occasion) (speaker : EntityId) : Occasion := { o with speaker := some speaker }

theorem Occasion.clearForAsker (o : Occasion) (s : EntityId) : (o.askedBy s).place .target ≠ .entity s :=
  fun leads => (entityPlace leads).2.2 rfl

theorem Occasion.clearForOther {o : Occasion} {s : EntityId} (speaker : EntityId) (other : o.target ≠ some s) :
    (o.askedBy speaker).place .target ≠ .entity s :=
  fun leads => other (entityPlace leads).2.1

namespace Dispatcher

def putBack (speaker : EntityId) (outcome : Option Response × Dispatcher × Store) : Option Response × Dispatcher :=
  (outcome.1, { outcome.2.1 with memories := outcome.2.1.memories.insert speaker outcome.2.2 })

theorem entityDispatch (d : Dispatcher) (speaker : EntityId) (o : Occasion) : d.dispatchEntity speaker o =
    putBack speaker ((d.without speaker).dispatchAt d.clock.seconds (o.askedBy speaker) (d.memories.storeOf speaker)) :=
  rfl

structure SameAsHeld (s : EntityId) (d d' : Dispatcher) (m : Store) (o : Occasion) : Prop where
  response : (d'.dispatch (o.askedBy s) m).1 = (d.dispatchEntity s o).1
  beside : Beside s (d.dispatchEntity s o).2 (d'.dispatch (o.askedBy s) m).2.1 (d'.dispatch (o.askedBy s) m).2.2
  stored : (d.dispatchEntity s o).2.memories.get? s = some (d'.dispatch (o.askedBy s) m).2.2
  untouched : (d'.dispatch (o.askedBy s) m).2.1.memories.get? s = d'.memories.get? s

theorem sameAsHeld {s : EntityId} {d d' : Dispatcher} {m : Store} (beside : Beside s d d' m) (o : Occasion) :
    SameAsHeld s d d' m o := by
  have clear := o.clearForAsker s
  have both := apartInStep (q := { o.askedBy s with now := d.clock.seconds }) clear
    ((d.without s).Writes { o.askedBy s with now := d.clock.seconds })
  obtain ⟨answer, twins⟩ := dispatchedTwins d.clock.seconds (o.askedBy s) both (beside.twinsWithout m)
  have outside : d'.dispatch (o.askedBy s) m = d'.dispatchAt d.clock.seconds (o.askedBy s) m := by
    rw [dispatch, beside.clock]
  have inside := d.entityDispatch s o
  rw [← beside.held] at inside
  constructor
  · rw [outside, inside]
    exact answer
  · rw [outside, inside]
    exact twins.putBack
  · rw [outside, inside]
    exact (Assoc.getInsertSelf _ s _).trans (congrArg some twins.stores.memory.symm)
  · rw [outside]
    exact d'.entryKept d.clock.seconds m clear

section Others
variable {s : EntityId} {d d' : Dispatcher} {m : Store} (beside : Beside s d d' m)

include beside

theorem dispatchedBeside (now : Float) {o : Occasion} (memory : Store) (clear : o.place .target ≠ .entity s) :
    (d'.dispatchAt now o memory).1 = (d.dispatchAt now o memory).1 ∧
    (d'.dispatchAt now o memory).2.2 = (d.dispatchAt now o memory).2.2 ∧
    Beside s (d.dispatchAt now o memory).2.1 (d'.dispatchAt now o memory).2.1 m := by
  have both := apartInStep (s := s) (q := { o with now := now }) clear (d.Writes { o with now := now })
  obtain ⟨answer, twins⟩ := dispatchedTwins now o both (beside.twins memory)
  refine ⟨answer, twins.stores.memory, twins.beside ?_⟩
  exact beside.held.trans (Memories.storeOfEntry (d.entryKept now memory clear)).symm

variable {speaker : EntityId} (other : speaker ≠ s)

include other

theorem Beside.without : Beside s (d.without speaker) (d'.without speaker) m := by
  refine ⟨beside.table, beside.world, beside.clock, beside.draws, beside.config, beside.sinks, fun id apart => ?_, ?_⟩
  · have erased (m : Memories) := Assoc.getErase m speaker id
    simp only [Dispatcher.without, erased, beside.others id apart]
  · refine beside.held.trans (Memories.storeOfEntry ?_).symm
    exact (Assoc.getErase d.memories speaker s).trans (if_neg other.symm)

theorem Beside.insert (memory : Store) : Beside s { d with memories := d.memories.insert speaker memory }
    { d' with memories := d'.memories.insert speaker memory } m := by
  refine ⟨beside.table, beside.world, beside.clock, beside.draws, beside.config, beside.sinks, fun id apart => ?_, ?_⟩
  · simp only [Assoc.getInsert, beside.others id apart]
  · exact beside.held.trans (Memories.storeOfEntry (Assoc.getInsertOther _ memory other.symm)).symm

theorem entityBeside {o : Occasion} (clear : o.target ≠ some s) :
    (d'.dispatchEntity speaker o).1 = (d.dispatchEntity speaker o).1 ∧
    Beside s (d.dispatchEntity speaker o).2 (d'.dispatchEntity speaker o).2 m := by
  have store : d'.memories.storeOf speaker = d.memories.storeOf speaker :=
    Memories.storeOfEntry (beside.others speaker other)
  obtain ⟨answer, memory, left⟩ := dispatchedBeside (beside.without other) d.clock.seconds (d.memories.storeOf speaker)
    (Occasion.clearForOther speaker clear)
  rw [entityDispatch, entityDispatch, store, beside.clock]
  refine ⟨answer, ?_⟩
  unfold putBack
  rw [memory]
  exact left.insert other _

end Others

def answer (d : Dispatcher) : Call → Option Response × Option Store
  | .dispatchAt now o memory => ((d.dispatchAt now o memory).1, some (d.dispatchAt now o memory).2.2)
  | .dispatch o memory => ((d.dispatch o memory).1, some (d.dispatch o memory).2.2)
  | call => ((d.step call).1, none)

end Dispatcher

/- A call by which no rule and no host reaches the entity's own entry. -/
def Call.Clear (s : EntityId) : Call → Prop
  | .dispatchAt _ o _ | .dispatch o _ => o.place .target ≠ .entity s
  | .dispatchEntity speaker o => speaker ≠ s ∧ o.target ≠ some s
  | .editMemories _ => False
  | .editWorld _ | .setClock _ | .setDraws _ | .addSink => True

inductive Move where
  | own (o : Occasion)
  | other (call : Call)

namespace Dispatcher

theorem clearCallBeside {s : EntityId} {d d' : Dispatcher} {m : Store} (beside : Beside s d d' m) {call : Call}
    (clear : call.Clear s) : d'.answer call = d.answer call ∧ Beside s (d.step call).2 (d'.step call).2 m := by
  cases call with
  | dispatchAt now o memory =>
    obtain ⟨response, handed, left⟩ := dispatchedBeside beside now memory clear
    exact ⟨Prod.ext response (congrArg some handed), left⟩
  | dispatch o memory =>
    obtain ⟨response, handed, left⟩ := dispatchedBeside beside d.clock.seconds memory clear
    have same : d'.dispatch o memory = d'.dispatchAt d.clock.seconds o memory := by rw [dispatch, beside.clock]
    simp only [answer, step, same]
    exact ⟨Prod.ext response (congrArg some handed), left⟩
  | dispatchEntity speaker o =>
    obtain ⟨response, left⟩ := entityBeside beside clear.1 clear.2
    exact ⟨Prod.ext response rfl, left⟩
  | editMemories memories => exact clear.elim
  | editWorld world => exact ⟨rfl, { beside with world := rfl }⟩
  | setClock clock => exact ⟨rfl, { beside with clock := rfl }⟩
  | setDraws draws => exact ⟨rfl, { beside with draws := rfl }⟩
  | addSink => exact ⟨rfl, { beside with sinks := congrArg (· ++ [({} : Sink)]) beside.sinks }⟩

theorem clearCallEntry (d : Dispatcher) {s : EntityId} {call : Call} (clear : call.Clear s) :
    (d.step call).2.memories.get? s = d.memories.get? s := by
  cases call with
  | dispatchAt now o memory => exact d.entryKept now memory clear
  | dispatch o memory => exact d.entryKept d.clock.seconds memory clear
  | dispatchEntity speaker o =>
    have other : s ≠ speaker := clear.1.symm
    have kept := (d.without speaker).entryKept d.clock.seconds (d.memories.storeOf speaker)
      (Occasion.clearForOther speaker clear.2)
    have erased : (d.without speaker).memories.get? s = d.memories.get? s :=
      (Assoc.getErase d.memories speaker s).trans (if_neg other)
    exact (Assoc.getInsertOther _ _ other).trans (kept.trans erased)
  | editMemories memories => exact clear.elim
  | editWorld world => rfl
  | setClock clock => rfl
  | setDraws draws => rfl
  | addSink => rfl

def keeping (s : EntityId) (d : Dispatcher) : List Move → List (Option Response × Option Store) × Dispatcher
  | [] => ([], d)
  | .own o :: rest =>
    let (answers, last) := (d.dispatchEntity s o).2.keeping s rest
    (((d.dispatchEntity s o).1, none) :: answers, last)
  | .other call :: rest =>
    let (answers, last) := (d.step call).2.keeping s rest
    (d.answer call :: answers, last)

def handed (s : EntityId) (d : Dispatcher) (m : Store) :
    List Move → List (Option Response × Option Store) × Dispatcher × Store
  | [] => ([], d, m)
  | .own o :: rest =>
    let (response, d, m) := d.dispatch (o.askedBy s) m
    let (answers, last) := d.handed s m rest
    ((response, none) :: answers, last)
  | .other call :: rest =>
    let (answers, last) := (d.step call).2.handed s m rest
    (d.answer call :: answers, last)

structure SameMoves (s : EntityId) (d d' : Dispatcher) (m : Store) (moves : List Move) : Prop where
  answers : (d'.handed s m moves).1 = (d.keeping s moves).1
  beside : Beside s (d.keeping s moves).2 (d'.handed s m moves).2.1 (d'.handed s m moves).2.2
  untouched : (d'.handed s m moves).2.1.memories.get? s = d'.memories.get? s
  stored : (d.memories.get? s = some m ∨ ∃ o, .own o ∈ moves) →
    (d.keeping s moves).2.memories.get? s = some (d'.handed s m moves).2.2

theorem sameMoves {s : EntityId} {d d' : Dispatcher} {m : Store} (beside : Beside s d d' m) {moves : List Move}
    (clear : ∀ call, .other call ∈ moves → call.Clear s) : SameMoves s d d' m moves := by
  induction moves generalizing d d' m with
  | nil => exact ⟨rfl, beside, rfl, fun stored => stored.elim id fun ⟨_, mem⟩ => absurd mem List.not_mem_nil⟩
  | cons move rest ih =>
    have later := fun call mem => clear call (List.mem_cons_of_mem move mem)
    cases move with
    | own o =>
      have head := sameAsHeld beside o
      have tail := ih head.beside later
      refine ⟨?_, tail.beside, tail.untouched.trans head.untouched, fun _ => tail.stored (.inl head.stored)⟩
      simp only [keeping, handed, head.response, tail.answers]
    | other call =>
      have free := clear call List.mem_cons_self
      obtain ⟨answer, left⟩ := clearCallBeside beside free
      have tail := ih left later
      refine ⟨?_, tail.beside, tail.untouched.trans (d'.clearCallEntry free), fun stored => tail.stored ?_⟩
      · simp only [keeping, handed, answer, tail.answers]
      · rw [d.clearCallEntry free]
        refine stored.imp_right fun ⟨o, mem⟩ => ⟨o, ?_⟩
        exact (List.mem_cons.mp mem).resolve_left nofun

theorem custodyIrrelevant {s : EntityId} {d d' : Dispatcher} {m : Store} (beside : Beside s d d' m) :
    (∀ o, SameAsHeld s d d' m o) ∧
    ∀ moves : List Move, (∀ call, .other call ∈ moves → call.Clear s) → SameMoves s d d' m moves :=
  ⟨sameAsHeld beside, fun _ clear => sameMoves beside clear⟩

def greeting : Row where
  id := 1
  concept := "Greet"
  who := "Guard"
  response := "Halt!"
  criteria := "t Greeted = false"
  remember := "m Greeted = true"
  cooldown := some 0.0

def guard : EntityId := ⟨7⟩

def mirror : Occasion where
  concept := "Greet"
  who := "Guard"
  event := Assoc.empty.insert targetKey (.entity guard)

def keeper : Dispatcher where
  table := (Vocabulary.builtin.compile [greeting]).table

def stranger : Dispatcher := { keeper with memories := Memories.write {} guard "Greeted" (.bool true) }

theorem keeperBesideStranger : Beside guard keeper stranger {} where
  table := rfl
  world := rfl
  clock := rfl
  draws := rfl
  config := rfl
  sinks := rfl
  others _ other := Assoc.getInsertOther _ _ other
  held := rfl

def twoGreetings : List Move := [.own mirror, .other (.dispatchEntity EntityId.nil {}), .own mirror]

theorem custodyIrrelevantForTwoGreetings :
    (keeper.keeping guard twoGreetings).1.map (fun a => a.1.map (·.ruleId)) = [some 1, none, none] ∧
    SameMoves guard keeper stranger {} twoGreetings := by
  have table := Vocabulary.builtin.compiledInTurn [greeting]
  refine ⟨?_, (custodyIrrelevant keeperBesideStranger).2 twoGreetings fun call mem => ?_⟩
  · rw [keeper, table]
    rfl
  · obtain rfl : call = .dispatchEntity EntityId.nil {} := by simpa [twoGreetings] using mem
    exact ⟨by decide, by decide⟩

end Dispatcher

end Repartee
