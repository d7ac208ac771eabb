import Repartee.Proofs.Authored
import Repartee.Proofs.Twins

/-! What a dispatch may change. Trying the rules already leaves traces: the time is written, the target's store is
opened, and every miss leaves a zero. Beyond them only a firing changes anything, and it changes the one rule that
fired and the cells that the effects of this rule name. -/
namespace Repartee

namespace Stores

def cell (o : Occasion) (st : Stores) (p : Place) (key : String) : Option Value := (st.contents o p).get? key

theorem cellOpened (o : Occasion) (st : Stores) (p p' : Place) (key : String) :
    (st.openAt p).cell o p' key = st.cell o p' key := by
  unfold cell
  rw [contentsOpenAt]

theorem writtenCell (o : Occasion) (st : Stores) {p : Place} (open_ : p.writable = true) (p' : Place) (key key' : String)
    (v : Value) : (st.write p key v).cell o p' key' = if p' = p ∧ key' = key then some v else st.cell o p' key' := by
  simp only [cell, contentsWrite o st p' key v open_]
  by_cases here : p' = p
  · subst here
    simp only [if_true, true_and, Assoc.getInsert]
  · simp only [here, if_false, false_and]

theorem cellWritten (o : Occasion) (st : Stores) (p p' : Place) (key key' : String) (v : Value) :
    (st.write p key v).cell o p' key' = st.cell o p' key' ∨
      p' = p ∧ key' = key ∧ (st.write p key v).cell o p' key' = some v := by
  cases open_ : p.writable with
  | false =>
    rw [writeClosed st key v open_]
    exact .inl rfl
  | true =>
    rw [writtenCell o st open_]
    split
    · rename_i here
      exact .inr ⟨here.1, here.2, rfl⟩
    · exact .inl rfl

end Stores

theorem cellAlone (q : Query) (allowed : Place → String → Value → Prop) (p : Place) (key : String)
    (Fits : Option Value → Prop) (written : ∀ v, allowed p key v → Fits (some v)) :
    Lockstep q allowed (Lockstep.Alone fun st => Fits (st.cell q.toOccasion p key)) := by
  refine Lockstep.alone (fun {st} source holds => ?_) (fun {st} source key' v may holds => ?_)
  · rwa [st.cellOpened q.toOccasion (q.place source) p key]
  · rcases st.cellWritten q.toOccasion (q.place source) p key' key v with kept | ⟨rfl, rfl, shown⟩
    · rwa [kept]
    · exact shown ▸ written v may

theorem appliedAside {q : Query} {effects : List Effect} {p : Place} {key : String}
    (aside : ∀ e ∈ effects, ∀ v, ¬ e.Writes q p key v) (st : Stores) :
    (applyAll q effects st).cell q.toOccasion p key = st.cell q.toOccasion p key := by
  have both := cellAlone q (fun p key v => ∃ e ∈ effects, e.Writes q p key v) p key (· = st.cell q.toOccasion p key)
    fun v ⟨e, applied, writes⟩ => absurd writes (aside e applied v)
  exact (both.applyAll (fun e applied p key v writes => ⟨e, applied, writes⟩) ⟨rfl, rfl⟩).2

namespace Dispatcher

theorem triedCell (d : Dispatcher) (now : Float) (o : Occasion) (memory : Store) (p : Place) (key : String) :
    (d.tried now o memory).2.1.cell o p key = (d.stores memory).cell o p key ∨
      ∃ v, d.Probes { o with now := now } p key v ∧ (d.tried now o memory).2.1.cell o p key = some v := by
  exact triedKeeps (cellAlone { o with now := now } (d.Probes { o with now := now }) p key (fun shown =>
    shown = (d.stores memory).cell o p key ∨ ∃ v, d.Probes { o with now := now } p key v ∧ shown = some v)
    fun v probes => .inr ⟨v, probes, rfl⟩) (.inl rfl)

theorem missedDispatch {d : Dispatcher} {now : Float} {o : Occasion} {memory : Store}
    (missed : (d.tried now o memory).1 = none) : d.dispatchAt now o memory =
      (none, { d.refreshTime now with
        world := (d.tried now o memory).2.1.world
        memories := (d.tried now o memory).2.1.memories
        draws := (d.tried now o memory).2.2 }, (d.tried now o memory).2.1.memory) := by
  unfold tried at missed
  simp only [dispatchAt, tried, missed]

theorem foundDispatch {d : Dispatcher} {now : Float} {o : Occasion} {memory : Store} {i : Nat} {r : Rule}
    (found : (d.tried now o memory).1 = some (i, r)) :
    ∃ response, (d.dispatchAt now o memory).1 = some response ∧
      (d.dispatchAt now o memory).2.1.sinks = (d.refreshTime now).sinks.map (·.deliver response) ∧
      (d.dispatchAt now o memory).2.1.stores (d.dispatchAt now o memory).2.2 =
        applyAll { o with now := now } r.effects (d.tried now o memory).2.1 := by
  unfold tried at found
  simp only [dispatchAt, tried, found]
  exact ⟨_, rfl, rfl, rfl⟩

theorem settingsKept (d : Dispatcher) (now : Float) (o : Occasion) (memory : Store) :
    (d.dispatchAt now o memory).2.1.clock = d.clock ∧ (d.dispatchAt now o memory).2.1.config = d.config := by
  obtain ⟨clock, _, config, _⟩ := d.refreshTimeKept now
  simp only [dispatchAt]
  split <;> exact ⟨clock, config⟩

inductive Probed (d : Dispatcher) (q : Query) (p : Place) (key : String) (before : Option Value) :
    Option Value → Prop where
  | kept : Probed d q p key before before
  | time (here : p = .world) (known : d.config.timeKey = some key) : Probed d q p key before (some (.float q.now))
  | zero {r c v} (stands : r ∈ d.table.bucket q.concept q.who) (checked : c ∈ r.criteria)
    (writes : c.Writes q p key v) (zero : v ∈ zeros) : Probed d q p key before (some v)

def ProbedCells (d : Dispatcher) (q : Query) (before after : Stores) : Prop :=
  ∀ p key, Probed d q p key (before.cell q.toOccasion p key) (after.cell q.toOccasion p key)

theorem triedProbed {d : Dispatcher} {now : Float} {o : Occasion} {memory : Store}
    (authored : ∀ r ∈ d.table.bucket o.concept o.who, r.Authored) :
    ProbedCells d { o with now := now } (d.stores memory) (d.tried now o memory).2.1 := by
  intro p key
  rcases d.triedCell now o memory p key with kept | ⟨v, probes, shown⟩
  · rw [kept]
    exact .kept
  · rw [shown]
    cases probes with
    | time known => exact .time rfl known
    | criterion stands checked writes =>
      exact .zero stands checked writes (((authored _ stands).criteria _ checked).writesZero writes)

structure Framed (d : Dispatcher) (o : Occasion) (d' : Dispatcher) : Prop where
  clock : d'.clock = d.clock
  config : d'.config = d.config
  buckets : ∀ c w, (c, w) ≠ (o.concept, o.who) → d'.table.bucket? c w = d.table.bucket? c w
  memories : ∀ id, d'.memories.get? id ≠ d.memories.get? id →
    o.event.read? .entity targetKey = some id ∧ id.isNil = false ∧ o.speaker ≠ some id

theorem framed (d : Dispatcher) (now : Float) (o : Occasion) (memory : Store) :
    Framed d o (d.dispatchAt now o memory).2.1 where
  clock := (d.settingsKept now o memory).1
  config := (d.settingsKept now o memory).2
  buckets c w other := by
    rw [dispatchedTable]
    unfold firingAt?
    cases ((d.refreshTime now).findRule { o with now := now } memory).1 with
    | none => rfl
    | some found => exact d.table.bucketFireElsewhere other
  memories id changed := by
    by_cases leads : o.place .target = .entity id
    · obtain ⟨_, target, apart⟩ := o.entityPlace leads
      obtain ⟨named, real⟩ := Option.filter_eq_some_iff.mp target
      exact ⟨named, by simpa using real, apart⟩
    · exact absurd (d.entryKept now memory leads) changed

structure Unanswered (d : Dispatcher) (now : Float) (o : Occasion) (memory : Store) : Prop where
  table : (d.dispatchAt now o memory).2.1.table = d.table
  draws : (d.dispatchAt now o memory).2.1.draws = d.draws
  sinks : (d.dispatchAt now o memory).2.1.sinks = d.sinks
  cells : ProbedCells d { o with now := now } (d.stores memory)
    ((d.dispatchAt now o memory).2.1.stores (d.dispatchAt now o memory).2.2)

/- The rule that fired is marked where it stands, or archived, and where none of its effects writes, the trials
have the last word. -/
structure Answered (d : Dispatcher) (now : Float) (o : Occasion) (memory : Store) (response : Response) (i : Nat)
    (r : Rule) : Prop where
  stands : (d.table.bucket o.concept o.who)[i]? = some r
  eligible : r.isEligible now = true
  spoken : response.ruleId = r.id ∧ response.text = r.response
  bucket : (d.dispatchAt now o memory).2.1.table.bucket o.concept o.who =
    if r.isOneShot then (d.table.bucket o.concept o.who).eraseIdx i
    else (d.table.bucket o.concept o.who).set i (r.markFired now)
  archived : (d.dispatchAt now o memory).2.1.table.archived =
    if r.isOneShot then d.table.archived ++ [r.markFired now] else d.table.archived
  marked : (r.markFired now).state = .triggered ∧ (r.markFired now).firedAt = now
  sinks : (d.dispatchAt now o memory).2.1.sinks = d.sinks.map (·.deliver response)
  applied : ∃ tried, ProbedCells d { o with now := now } (d.stores memory) tried ∧
    (d.dispatchAt now o memory).2.1.stores (d.dispatchAt now o memory).2.2 =
      applyAll { o with now := now } r.effects tried
  aside : ∀ p key, (∀ e ∈ r.effects, e.cell? { o with now := now } ≠ some (p, key)) →
    Probed d { o with now := now } p key ((d.stores memory).cell o p key)
      (((d.dispatchAt now o memory).2.1.stores (d.dispatchAt now o memory).2.2).cell o p key)

section Outcome
variable {d : Dispatcher} {now : Float} {o : Occasion} {memory : Store}
  (authored : ∀ r ∈ d.table.bucket o.concept o.who, r.Authored)

include authored

theorem unanswered (missed : (d.tried now o memory).1 = none) : Unanswered d now o memory := by
  obtain ⟨_, draws, _, sinks⟩ := d.refreshTimeKept now
  have undrawn := foundNone missed
  constructor <;> rw [missedDispatch missed]
  · exact refreshTimeTable d now
  · exact undrawn.trans draws
  · exact sinks
  · exact triedProbed authored

theorem answered {i : Nat} {r : Rule} (found : (d.tried now o memory).1 = some (i, r)) {response : Response}
    (answer : (d.dispatchAt now o memory).1 = some response) : Answered d now o memory response i r := by
  have fired : d.firingAt? now o memory = some ⟨o.concept, o.who, i, r, now⟩ := by
    unfold tried at found
    rw [firingAt?, found, Option.map_some]
  have due := firingDue fired
  have table := d.dispatchedTable now o memory
  have spoken := d.dispatchedResponse now o memory
  rw [fired] at table spoken
  rw [answer] at spoken
  obtain ⟨response', answer', sinks, stores⟩ := foundDispatch found
  obtain rfl : response = response' := Option.some.inj (answer.symm.trans answer')
  refine ⟨due.stands, due.eligible, Prod.mk.inj (Option.some.inj spoken), ?_, ?_, ⟨rfl, rfl⟩, ?_, ?_,
    fun p key aside => ?_⟩
  · rw [table, Option.elim_some, RuleTable.bucketFire, if_pos rfl]
    rfl
  · rw [table, Option.elim_some, RuleTable.archivedFire]
  · exact sinks.trans (congrArg (List.map (Sink.deliver · response)) (d.refreshTimeKept now).2.2.2)
  · exact ⟨(d.tried now o memory).2.1, triedProbed authored, stores⟩
  · have untouched := (authored r (List.mem_of_getElem? due.stands)).writesAside aside
    have same := appliedAside untouched (d.tried now o memory).2.1
    rw [stores]
    exact same ▸ triedProbed authored p key

end Outcome

theorem dispatchFootprint (d : Dispatcher) (now : Float) (o : Occasion) (memory : Store)
    (authored : ∀ r ∈ d.table.bucket o.concept o.who, r.Authored) :
    Framed d o (d.dispatchAt now o memory).2.1 ∧
    ((d.dispatchAt now o memory).1 = none → Unanswered d now o memory) ∧
    ∀ response, (d.dispatchAt now o memory).1 = some response → ∃ i r, Answered d now o memory response i r := by
  refine ⟨d.framed now o memory, fun silent => ?_, fun response answer => ?_⟩
  · cases found : (d.tried now o memory).1 with
    | none => exact unanswered authored found
    | some p =>
      obtain ⟨response, answer, _⟩ := foundDispatch found
      rw [silent] at answer
      contradiction
  · cases found : (d.tried now o memory).1 with
    | none =>
      rw [missedDispatch found] at answer
      contradiction
    | some p => exact ⟨p.1, p.2, answered authored found answer⟩

def sighting : Row where
  id := 1
  concept := "SeeObject"
  who := "Player"
  response := "Oh look! A barrel!"
  criteria := "TargetNotSeen\nt Sightings < 2"
  remember := "MarkTargetSeen\nt Sightings + 1"
  cooldown := some 10.0

def observer : Dispatcher where
  table := (Vocabulary.builtin.compile [sighting]).table

def barrelInSight : Occasion where
  concept := "SeeObject"
  who := "Player"
  event := Assoc.empty.insert targetKey (.entity ⟨3⟩)

def observerAfter : Dispatcher := observer.after [.dispatchAt 5.0 barrelInSight {}]

theorem dispatchFootprintOfSighting :
    (∀ r ∈ observer.table.bucket "SeeObject" "Player", r.Authored) ∧
    (∃ response i r, Answered observer 5.0 barrelInSight {} response i r) ∧
    (∀ r ∈ observerAfter.table.bucket "SeeObject" "Player", r.Authored) ∧
    Unanswered observerAfter 6.0 barrelInSight {} := by
  have compiled : observer.table = (Vocabulary.builtin.compile [sighting]).table := rfl
  have authored calls := compiledAuthoredAfter compiled calls "SeeObject" "Player"
  have first := dispatchFootprint observer 5.0 barrelInSight {} (authored [])
  have second := dispatchFootprint observerAfter 6.0 barrelInSight {} (authored _)
  have table := Vocabulary.builtin.compiledInTurn [sighting]
  obtain ⟨response, remarked⟩ : ∃ response, (observer.dispatchAt 5.0 barrelInSight {}).1 = some response := by
    rw [observer, table]
    exact ⟨_, rfl⟩
  have early : (observerAfter.dispatchAt 6.0 barrelInSight {}).1 = none := by
    rw [observerAfter, observer, table]
    rfl
  exact ⟨authored [], ⟨response, first.2.2 response remarked⟩, authored _, second.2.1 early⟩

end Dispatcher

end Repartee
