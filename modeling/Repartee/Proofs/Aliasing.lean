import Repartee.Proofs.Refusal

/-! Five sources, one store. The event and the speaker decide where the target leads; every other source always leads to
the same place. Sources that lead to one place cannot be told apart by anything that is asked of them. Whatever is
asked, at most one cell changes, at the place that the source leads to, and no store is opened but the target's. -/
namespace Repartee

inductive Occasion.Leads (o : Occasion) : Source → Place → Prop where
  | event : Leads o .event .event
  | character : Leads o .character .character
  | memory : Leads o .memory .memory
  | world : Leads o .world .world
  | asker {id} (named : o.event.get? targetKey = some (.entity id)) (real : id.isNil = false)
    (self : o.speaker = some id) : Leads o .target .memory
  | other {id} (named : o.event.get? targetKey = some (.entity id)) (real : id.isNil = false)
    (apart : o.speaker ≠ some id) : Leads o .target (.entity id)
  | nobody (unnamed : ¬ o.NamesTarget) : Leads o .target .nowhere

namespace Occasion
variable {o : Occasion} {source source' : Source} {p : Place}

theorem targetLeads (o : Occasion) : o.Leads .target (o.place .target) := by
  unfold place
  cases named : o.target with
  | none =>
    refine .nobody ?_
    rw [namesTarget, named]
    nofun
  | some id =>
    obtain ⟨found, real⟩ := targetNamed.mp named
    by_cases self : o.speaker = some id
    · simp only [self, if_true]
      exact .asker found real self
    · simp only [self, if_false]
      exact .other found real self

theorem leadsToPlace (o : Occasion) (source : Source) : o.Leads source (o.place source) := by
  cases source with
  | event => exact .event
  | character => exact .character
  | memory => exact .memory
  | world => exact .world
  | target => exact o.targetLeads

theorem placeOfLeads (leads : o.Leads source p) : o.place source = p := by
  cases leads with
  | event | character | memory | world => rfl
  | asker named real self => simp only [place, targetNamed.mpr ⟨named, real⟩, self, if_true]
  | other named real apart => simp only [place, targetNamed.mpr ⟨named, real⟩, apart, if_false]
  | nobody unnamed =>
    rw [namesTarget, ← Option.ne_none_iff_exists', not_not] at unnamed
    simp only [place, unnamed]

theorem leadsIff : o.Leads source p ↔ o.place source = p :=
  ⟨placeOfLeads, fun same => same ▸ o.leadsToPlace source⟩

theorem closedSource (closed : (o.place source).writable = false) (same : o.place source = o.place source') :
    source = source' := by
  have leads := o.leadsToPlace source
  have leads' := o.leadsToPlace source'
  rw [← same] at leads'
  generalize o.place source = p at closed leads leads'
  cases leads with
  | event | character | nobody =>
    cases leads'
    rfl
  | memory | world | asker | other => contradiction

end Occasion

theorem Memories.openedIff (m : Memories) (id id' : EntityId) :
    (m.attach id).contains id' = true ↔ m.contains id' = true ∨ id' = id := by
  unfold Assoc.contains
  rw [getAttach]
  split <;> simp_all

theorem Memories.writtenIff (m : Memories) (id id' : EntityId) (key : String) (v : Value) :
    (m.write id key v).contains id' = true ↔ m.contains id' = true ∨ id' = id := by
  unfold Assoc.contains write
  rw [Assoc.getInsert]
  split <;> simp_all

theorem Stores.openedClosed (st : Stores) {p : Place} (closed : p.writable = false) : st.openAt p = st := by
  cases p with
  | entity id => contradiction
  | event | character | memory | world | nowhere => rfl

theorem Look.heldFound {o : Occasion} {st : Stores} {look : Look} (held : look.shown o st ≠ look.kind.zero) :
    st.cell o look.place look.key = some (.ofCarrier look.kind (look.shown o st)) := by
  cases read : (st.contents o look.place).read? look.kind look.key with
  | none =>
    rw [shown, read] at held
    contradiction
  | some x =>
    rw [shown, read]
    exact Store.readFound read

inductive Access where
  | get (k : Kind)
  | getNumber
  | set (v : Value)
  | transform (k : Kind) (f : k.Carrier → k.Carrier)
  | increment (amount : Int64)

namespace Access

@[reducible] def Answer : Access → Type
  | .get k => k.Carrier × Bool
  | .getNumber => Float × Bool
  | .set _ => Except StateError Unit
  | .transform k _ => Except StateError k.Carrier
  | .increment _ => Except StateError Int64

def run (q : Query) (key : String) (source : Source) (st : Stores) : (a : Access) → a.Answer × Stores
  | .get k => q.get k key source st
  | .getNumber => q.getNumber key source st
  | .set v => q.set key v source st
  | .transform k f => q.transform k key source f st
  | .increment amount => q.increment key source amount st

section Aliases
variable {q : Query} {source source' : Source}

theorem setAliased (same : q.place source = q.place source') (key : String) (v : Value) (st : Stores) :
    q.set key v source st = q.set key v source' st := by
  cases open_ : (q.place source).writable with
  | true => rw [Query.setOpen open_, Query.setOpen (same ▸ open_), same]
  | false => rw [Occasion.closedSource open_ same]

theorem runAliased (same : q.place source = q.place source') (a : Access) (key : String) (st : Stores) :
    a.run q key source st = a.run q key source' st := by
  cases a with
  | get k => simp only [run, Query.get, same]
  | getNumber => simp only [run, Query.getNumber, same]
  | set v => exact setAliased same key v st
  | transform k f => simp only [run, Query.transform, Query.value, Query.get, same, setAliased same]
  | increment amount => simp only [run, Query.increment, Query.value, Query.get, same, setAliased same]

end Aliases

/- What an access can leave: nothing new, and then its place was there, or one value written to its place. -/
inductive Leaves (q : Query) (key : String) (source : Source) (st : Stores) : Stores → Prop where
  | kept (there : st.openAt (q.place source) = st) : Leaves q key source st st
  | written (open_ : (q.place source).writable = true) (v : Value) :
      Leaves q key source st (st.write (q.place source) key v)

section Leaves
variable {q : Query} {key : String} {source : Source} {st : Stores}

theorem leavesMiss (v : Value) :
    Leaves q key source st ((st.openAt (q.place source)).write (q.place source) key v) := by
  rw [Stores.writeOpenAt]
  cases open_ : (q.place source).writable with
  | true => exact .written open_ v
  | false =>
    rw [Stores.writeClosed st key v open_]
    exact .kept (st.openedClosed open_)

theorem leavesSet (v : Value) : Leaves q key source st (q.set key v source st).2 := by
  cases open_ : (q.place source).writable with
  | true =>
    rw [Query.setOpen open_]
    exact .written open_ v
  | false =>
    obtain ⟨cause, refused⟩ : ∃ e, q.set key v source st = (.error e, st) := Query.setRefuses open_
    rw [refused]
    exact .kept (st.openedClosed open_)

theorem leavesIncrement (amount : Int64) : Leaves q key source st (q.increment key source amount st).2 := by
  by_cases fits : Fits64 (q.counter key source st + amount.toInt)
  · obtain ⟨sum, exact_⟩ := Query.fittingSum fits
    rw [Query.incrementSets exact_]
    exact leavesSet _
  · have found := Look.heldFound (Query.overflowHeld fits)
    rw [Query.incrementOverflows fits]
    exact .kept (Stores.openAtFound found)

theorem leaves (a : Access) (key : String) (source : Source) (st : Stores) :
    Leaves q key source st (a.run q key source st).2 := by
  cases a with
  | get k =>
    cases read : (st.contents q.toOccasion (q.place source)).read? k key with
    | some x =>
      simp only [run, Query.getFound read]
      exact .kept (Stores.openAtFound (Store.readFound read))
    | none =>
      simp only [run, Query.getMissed read]
      exact leavesMiss _
  | getNumber =>
    cases read : (st.contents q.toOccasion (q.place source)).number? key with
    | some x =>
      obtain ⟨v, found, _⟩ := Option.bind_eq_some_iff.mp read
      simp only [run, Query.getNumberFound read]
      exact .kept (Stores.openAtFound found)
    | none =>
      simp only [run, Query.getNumberMissed read]
      exact leavesMiss _
  | set v => exact leavesSet v
  | transform k f =>
    simp only [run, Query.transformSets f rfl]
    exact leavesSet _
  | increment amount => exact leavesIncrement amount

end Leaves

namespace Leaves
variable {q : Query} {key : String} {source : Source} {st after : Stores} (left : Leaves q key source st after)

include left

theorem cellAside {p : Place} {key' : String} (aside : ¬ (q.place source = p ∧ p.writable = true ∧ key' = key)) :
    after.cell q.toOccasion p key' = st.cell q.toOccasion p key' := by
  cases left with
  | kept => rfl
  | written open_ v =>
    rw [st.writtenCell q.toOccasion open_, if_neg]
    rintro ⟨rfl, same⟩
    exact aside ⟨rfl, open_, same⟩

theorem memoryAside (aside : q.place source ≠ .memory) : after.memory = st.memory := by
  cases left with
  | kept => rfl
  | written _ v =>
    cases leads : q.place source with
    | memory => contradiction
    | event | character | world | entity | nowhere => rfl

theorem worldAside (aside : q.place source ≠ .world) : after.world = st.world := by
  cases left with
  | kept => rfl
  | written _ v =>
    cases leads : q.place source with
    | world => contradiction
    | event | character | memory | entity | nowhere => rfl

theorem memoriesAside (aside : ∀ id, q.place source ≠ .entity id) : after.memories = st.memories := by
  cases left with
  | kept => rfl
  | written _ v =>
    cases leads : q.place source with
    | entity id => exact absurd leads (aside id)
    | event | character | memory | world | nowhere => rfl

theorem entryAside {id : EntityId} (aside : q.place source ≠ .entity id) :
    after.memories.get? id = st.memories.get? id := by
  cases left with
  | kept => rfl
  | written _ v => exact st.entryWritten aside key v

theorem attachedIff (id : EntityId) :
    after.memories.contains id = true ↔ st.memories.contains id = true ∨ q.place source = .entity id := by
  by_cases leads : q.place source = .entity id
  · cases left with
    | kept there =>
      rw [leads] at there
      have attached := (st.memories.openedIff id id).mpr (.inr rfl)
      rw [show st.memories.attach id = st.memories from congrArg Stores.memories there] at attached
      simp [attached, leads]
    | written _ v => simp [leads, Stores.write, Memories.writtenIff]
  · simp only [Assoc.contains, left.entryAside leads, leads, or_false]

end Leaves
end Access

namespace Query

/- What a write is to leave: its value wherever its store is read under its key, and all else as it was. -/
structure Sets (q : Query) (st : Stores) (key : String) (v : Value) (source : Source) : Prop where
  succeeds : (q.set key v source st).1 = .ok () ↔ ∃ p, q.Leads source p ∧ p.writable = true
  there : (q.set key v source st).1 = .ok () → ∀ source' p, q.Leads source p → q.Leads source' p →
    (q.set key v source st).2.cell q.toOccasion p key = some v
  elsewhere : (q.set key v source st).1 = .ok () → ∀ source' p key', q.Leads source' p →
    ¬ (q.Leads source p ∧ key' = key) → (q.set key v source st).2.cell q.toOccasion p key' = st.cell q.toOccasion p key'
  attached : (q.set key v source st).1 = .ok () → ∀ id, q.Leads source (.entity id) →
    (q.set key v source st).2.memories.get? id = some ((st.memories.storeOf id).insert key v)

structure Framed (q : Query) (st : Stores) (key : String) (source : Source) (after : Stores) : Prop where
  cells : ∀ p key', ¬ (q.Leads source p ∧ p.writable = true ∧ key' = key) →
    after.cell q.toOccasion p key' = st.cell q.toOccasion p key'
  memory : ¬ q.Leads source .memory → after.memory = st.memory
  world : ¬ q.Leads source .world → after.world = st.world
  entries : ∀ id, ¬ q.Leads source (.entity id) → after.memories.get? id = st.memories.get? id
  attached : ∀ id, after.memories.contains id = true ↔ st.memories.contains id = true ∨ q.Leads source (.entity id)

structure OneStore (q : Query) (st : Stores) : Prop where
  resolved : ∀ source, ∃! p, q.Leads source p
  sets : ∀ key v source, q.Sets st key v source
  aliased : ∀ source source' p, q.Leads source p → q.Leads source' p →
    ∀ (a : Access) key, a.run q key source st = a.run q key source' st
  apart : ¬ q.Leads .target .memory → ∀ (a : Access) key,
    (a.run q key .target st).2.memory = st.memory ∧ (a.run q key .memory st).2.memories = st.memories
  framed : ∀ (a : Access) key source, q.Framed st key source (a.run q key source st).2

variable {q : Query} {st : Stores}

theorem setSucceeds {key : String} {v : Value} {source : Source} :
    (q.set key v source st).1 = .ok () ↔ (q.place source).writable = true := by
  cases open_ : (q.place source).writable with
  | true => simp [setOpen open_]
  | false =>
    obtain ⟨cause, refused⟩ : ∃ e, q.set key v source st = (.error e, st) := setRefuses open_
    simp [refused]

theorem setsExactly (key : String) (v : Value) (source : Source) : q.Sets st key v source where
  succeeds := by
    simp only [setSucceeds, Occasion.leadsIff, exists_eq_left']
  there ok source' p leads _ := by
    have open_ := setSucceeds.mp ok
    rw [setOpen open_, st.writtenCell q.toOccasion open_, if_pos ⟨(Occasion.placeOfLeads leads).symm, rfl⟩]
  elsewhere ok source' p key' _ other := by
    refine (Access.leavesSet v).cellAside ?_
    rintro ⟨same, _, here⟩
    exact other ⟨Occasion.leadsIff.mpr same, here⟩
  attached ok id leads := by
    rw [setOpen (setSucceeds.mp ok), Occasion.placeOfLeads leads]
    exact Assoc.getInsertSelf _ _ _

theorem accessFramed (a : Access) (key : String) (source : Source) :
    q.Framed st key source (a.run q key source st).2 where
  cells p key' aside := (a.leaves key source st).cellAside (by rwa [← Occasion.leadsIff])
  memory aside := (a.leaves key source st).memoryAside (by rwa [ne_eq, ← Occasion.leadsIff])
  world aside := (a.leaves key source st).worldAside (by rwa [ne_eq, ← Occasion.leadsIff])
  entries id aside := (a.leaves key source st).entryAside (by rwa [ne_eq, ← Occasion.leadsIff])
  attached id := by
    rw [Occasion.leadsIff]
    exact (a.leaves key source st).attachedIff id

theorem sourcesShareStores (q : Query) (st : Stores) : q.OneStore st where
  resolved source := ⟨q.place source, q.leadsToPlace source, fun _ leads => (Occasion.placeOfLeads leads).symm⟩
  sets := setsExactly
  aliased _ _ _ leads leads' a key :=
    a.runAliased ((Occasion.placeOfLeads leads).trans (Occasion.placeOfLeads leads').symm) key st
  apart aside a key := ⟨(accessFramed a key .target).memory aside, (a.leaves key .memory st).memoriesAside nofun⟩
  framed := accessFramed

def atMirror : Query where
  speaker := some ⟨7⟩
  event := Assoc.empty.insert targetKey (.entity ⟨7⟩)
  now := 0.0

example : (atMirror.get .bool "Vain" .memory (atMirror.set "Vain" (.bool true) .target {}).2).1 = (true, true) := rfl

end Query
end Repartee
