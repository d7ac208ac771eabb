import Repartee.Proofs.EffectLines

/-! Refused writes. A write is refused when its source can only be read, when there is no target, or when a counter
would leave its range, and then memory, world and the entities' stores stay exactly as they were. A change begins with
a read, and a read may write; but what is not there counts as zero, so nothing leaves the range that was not found,
and a source that takes no value takes no zero either. An effect that the host registers is free to be refused after it
has written. Where those of a rule are not, its effects leave what those among them leave that are not refused. -/
namespace Repartee
namespace Query
variable {q : Query} {k : Kind} {key : String} {source : Source} {st : Stores}

theorem valueShown (k : Kind) (key : String) (source : Source) (st : Stores) :
    (q.value k key source st).1 = (q.look k key source).shown q.toOccasion st :=
  q.getShown k key source st

inductive Written (q : Query) (st : Stores) (key : String) (v : Value) (source : Source) :
    Except StateError Unit × Stores → Prop where
  | readOnly (refuses : source.isReadOnly = true) : Written q st key v source (.error (.readOnly key source), st)
  | noTarget (allowed : source.isReadOnly = false) (closed : (q.place source).writable = false) :
      Written q st key v source (.error (.noTarget key), st)
  | stored (allowed : source.isReadOnly = false) (open_ : (q.place source).writable = true) :
      Written q st key v source (.ok (), st.write (q.place source) key v)

theorem setWritten (key : String) (v : Value) (source : Source) (st : Stores) :
    q.Written st key v source (q.set key v source st) := by
  cases refuses : source.isReadOnly with
  | true =>
    cases source with
    | event | character => exact .readOnly rfl
    | memory | world | target => contradiction
  | false =>
    cases open_ : (q.place source).writable with
    | true =>
      rw [setOpen open_]
      exact .stored refuses open_
    | false =>
      rw [setClosed refuses open_]
      exact .noTarget refuses open_

theorem setRefused {v : Value} {cause : StateError} (refused : (q.set key v source st).1 = .error cause) :
    (q.set key v source st).2 = st := by
  have written := q.setWritten key v source st
  generalize q.set key v source st = outcome at written refused
  cases written with
  | readOnly | noTarget => rfl
  | stored => contradiction

theorem writeAfterGet (v : Value) :
    (q.get k key source st).2.write (q.place source) key v = st.write (q.place source) key v := by
  cases read : (st.contents q.toOccasion (q.place source)).read? k key with
  | some x => rw [getFound read]
  | none => rw [getMissed read, Stores.writeWrite, Stores.writeOpenAt]

theorem setAfterGet (v : Value) : q.set key v source (q.get k key source st).2 = q.set key v source st := by
  cases open_ : (q.place source).writable with
  | true => rw [setOpen open_, setOpen open_, writeAfterGet]
  | false => rw [getClosed open_]

theorem transformSets (f : k.Carrier → k.Carrier) {x : k.Carrier} (found : (q.value k key source st).1 = x) :
    q.transform k key source f st =
      ((q.set key (.ofCarrier k (f x)) source st).1.map fun _ => f x, (q.set key (.ofCarrier k (f x)) source st).2) := by
  subst found
  have set : q.set key (.ofCarrier k (f (q.value k key source st).1)) source (q.get k key source st).2 = _ := setAfterGet _
  simp only [transform]
  rw [← set]
  rfl

theorem refusedMap {α β : Type} {outcome : Except StateError α} {f : α → β} {cause : StateError}
    (refused : outcome.map f = .error cause) : outcome = .error cause := by
  cases outcome with
  | error e => exact congrArg Except.error (Except.error.inj refused)
  | ok a => contradiction

theorem transformRefused {f : k.Carrier → k.Carrier} {cause : StateError}
    (refused : (q.transform k key source f st).1 = .error cause) : (q.transform k key source f st).2 = st := by
  rw [transformSets f rfl] at refused ⊢
  exact setRefused (refusedMap refused)

def counter (q : Query) (key : String) (source : Source) (st : Stores) : Int := (q.value .int key source st).1.toInt

theorem incrementSets {amount sum : Int64} (exact_ : sum.toInt = q.counter key source st + amount.toInt) :
    q.increment key source amount st =
      ((q.set key (.int sum) source st).1.map fun _ => sum, (q.set key (.int sum) source st).2) := by
  have counted : counterSum? (q.value .int key source st).1 amount = some sum := counterSumIff.mpr exact_
  have set : q.set key (.int sum) source (q.get .int key source st).2 = _ := setAfterGet _
  simp only [increment, counted]
  rw [← set]
  rfl

/- Every change fits that is made to a zero, so a counter that overflows was there and reading it wrote nothing. -/
theorem overflowHeld {amount : Int64} (beyond : ¬ Fits64 (q.counter key source st + amount.toInt)) :
    (q.look .int key source).shown q.toOccasion st ≠ (0 : Int64) := by
  intro zero
  rw [counter, valueShown, zero, Int64.toInt_zero, Int.zero_add] at beyond
  exact beyond (counterFits amount)

theorem incrementOverflows {amount : Int64} (beyond : ¬ Fits64 (q.counter key source st + amount.toInt)) :
    q.increment key source amount st = (.error (.overflow key), st) := by
  have none_ : counterSum? (q.value .int key source st).1 amount = none := by
    cases counted : counterSum? (q.value .int key source st).1 amount with
    | none => rfl
    | some sum =>
      have exact_ : sum.toInt = q.counter key source st + amount.toInt := counterSumIff.mp counted
      exact absurd (exact_ ▸ counterFits sum) beyond
  have kept : (q.value .int key source st).2 = st := getHeld (overflowHeld beyond)
  simp only [increment, none_, kept]

inductive Incremented (q : Query) (st : Stores) (key : String) (source : Source) (amount : Int64) :
    Except StateError Int64 × Stores → Prop where
  | overflow (beyond : ¬ Fits64 (q.counter key source st + amount.toInt)) :
      Incremented q st key source amount (.error (.overflow key), st)
  | readOnly (fits : Fits64 (q.counter key source st + amount.toInt)) (refuses : source.isReadOnly = true) :
      Incremented q st key source amount (.error (.readOnly key source), st)
  | noTarget (fits : Fits64 (q.counter key source st + amount.toInt)) (allowed : source.isReadOnly = false)
      (closed : (q.place source).writable = false) : Incremented q st key source amount (.error (.noTarget key), st)
  | stored {sum : Int64} (exact_ : sum.toInt = q.counter key source st + amount.toInt) (allowed : source.isReadOnly = false)
      (open_ : (q.place source).writable = true) :
      Incremented q st key source amount (.ok sum, st.write (q.place source) key (.int sum))

theorem fittingSum {n : Int} (fits : Fits64 n) : ∃ sum : Int64, sum.toInt = n :=
  ⟨Int64.ofInt n, Int64.toInt_ofInt_of_le fits.1 (Int.lt_of_le_sub_one fits.2)⟩

theorem incremented (key : String) (source : Source) (amount : Int64) (st : Stores) :
    q.Incremented st key source amount (q.increment key source amount st) := by
  by_cases fits : Fits64 (q.counter key source st + amount.toInt)
  · obtain ⟨sum, exact_⟩ := fittingSum fits
    have written := q.setWritten key (.int sum) source st
    rw [incrementSets exact_]
    generalize q.set key (.int sum) source st = outcome at written
    cases written with
    | readOnly refuses => exact .readOnly fits refuses
    | noTarget allowed closed => exact .noTarget fits allowed closed
    | stored allowed open_ => exact .stored exact_ allowed open_
  · rw [incrementOverflows fits]
    exact .overflow fits

theorem incrementRefused {amount : Int64} {cause : StateError}
    (refused : (q.increment key source amount st).1 = .error cause) : (q.increment key source amount st).2 = st := by
  have ended := q.incremented key source amount st
  generalize q.increment key source amount st = outcome at ended refused
  cases ended with
  | overflow | readOnly | noTarget => rfl
  | stored => contradiction

structure CountsExactly (q : Query) (st : Stores) (key : String) (source : Source) (amount : Int64) : Prop where
  overflow : ∀ key', (q.increment key source amount st).1 = .error (.overflow key') ↔
    key' = key ∧ ¬ Fits64 (q.counter key source st + amount.toInt)
  readOnly : ∀ key' source', (q.increment key source amount st).1 = .error (.readOnly key' source') ↔
    key' = key ∧ source' = source ∧ Fits64 (q.counter key source st + amount.toInt) ∧ (source = .event ∨ source = .character)
  noTarget : ∀ key', (q.increment key source amount st).1 = .error (.noTarget key') ↔
    key' = key ∧ Fits64 (q.counter key source st + amount.toInt) ∧ source = .target ∧ ¬ q.NamesTarget
  stored : Fits64 (q.counter key source st + amount.toInt) → ¬ (source = .event ∨ source = .character) →
    ¬ (source = .target ∧ ¬ q.NamesTarget) → ∃ sum : Int64, sum.toInt = q.counter key source st + amount.toInt ∧
      q.increment key source amount st = (.ok sum, st.write (q.place source) key (.int sum))

end Query

theorem Source.readable (source : Source) : source.isReadOnly = true ↔ source = .event ∨ source = .character := by
  cases source <;> decide

namespace Query
variable {q : Query} {key : String} {source : Source} {st : Stores}

theorem overflowsExactly (amount : Int64) (key' : String) :
    (q.increment key source amount st).1 = .error (.overflow key') ↔
      key' = key ∧ ¬ Fits64 (q.counter key source st + amount.toInt) := by
  have ended := q.incremented key source amount st
  generalize q.increment key source amount st = outcome at ended
  cases ended with
  | overflow beyond => simp [beyond, eq_comm]
  | readOnly fits | noTarget fits => simp [fits]
  | stored exact_ => simp [← exact_, counterFits]

theorem readOnlyExactly (amount : Int64) (key' : String) (source' : Source) :
    (q.increment key source amount st).1 = .error (.readOnly key' source') ↔
      key' = key ∧ source' = source ∧ Fits64 (q.counter key source st + amount.toInt) ∧
        (source = .event ∨ source = .character) := by
  have ended := q.incremented key source amount st
  generalize q.increment key source amount st = outcome at ended
  rw [← source.readable]
  cases ended with
  | overflow beyond => simp [beyond]
  | readOnly fits refuses => simp [fits, refuses, eq_comm]
  | noTarget fits allowed | stored exact_ allowed => simp [allowed]

theorem noTargetExactly (amount : Int64) (key' : String) :
    (q.increment key source amount st).1 = .error (.noTarget key') ↔
      key' = key ∧ Fits64 (q.counter key source st + amount.toInt) ∧ source = .target ∧ ¬ q.NamesTarget := by
  have ended := q.incremented key source amount st
  generalize q.increment key source amount st = outcome at ended
  cases ended with
  | overflow beyond => simp [beyond]
  | readOnly fits refuses =>
    simp only [Except.error.injEq, reduceCtorEq, false_iff]
    rintro ⟨_, _, rfl, _⟩
    contradiction
  | noTarget fits allowed shut => simp [fits, ← Occasion.closed allowed, shut, eq_comm]
  | stored exact_ allowed open_ =>
    simp only [reduceCtorEq, false_iff]
    rintro ⟨_, _, unnamed⟩
    rw [(Occasion.closed allowed).mpr unnamed] at open_
    contradiction

theorem sumStored {amount : Int64} (fits : Fits64 (q.counter key source st + amount.toInt))
    (writable : ¬ (source = .event ∨ source = .character)) (targeted : ¬ (source = .target ∧ ¬ q.NamesTarget)) :
    ∃ sum : Int64, sum.toInt = q.counter key source st + amount.toInt ∧
      q.increment key source amount st = (.ok sum, st.write (q.place source) key (.int sum)) := by
  have ended := q.incremented key source amount st
  generalize q.increment key source amount st = outcome at ended
  rw [← source.readable, Bool.not_eq_true] at writable
  rw [← Occasion.closed writable, Bool.not_eq_false] at targeted
  cases ended with
  | overflow beyond => exact absurd fits beyond
  | readOnly _ refuses => simp [writable] at refuses
  | noTarget _ _ shut => simp [targeted] at shut
  | stored exact_ => exact ⟨_, exact_, rfl⟩

theorem countsExactly (key : String) (source : Source) (amount : Int64) (st : Stores) :
    q.CountsExactly st key source amount where
  overflow := overflowsExactly amount
  readOnly := readOnlyExactly amount
  noTarget := noTargetExactly amount
  stored := sumStored

end Query

namespace Effect

def Traceless (e : Effect) : Prop := ∀ q st cause, (e.apply q st).1 = .error cause → (e.apply q st).2 = st

theorem traceless {e : Effect} (plain : ∀ label run, e ≠ .custom label run) : e.Traceless := by
  intro q st cause refused
  cases e with
  | set key source v => exact Query.setRefused refused
  | step key source step => exact Query.incrementRefused (Query.refusedMap refused)
  | compute key source op operand =>
    have change : (q.transform .float key source (op.apply · (operand.valueAt q.now)) st).1 = .error cause :=
      Query.refusedMap (f := fun _ => ()) refused
    exact Query.transformRefused change
  | custom label run => exact absurd rfl (plain label run)

end Effect

namespace Vocabulary

def Traceless (v : Vocabulary) : Prop := ∀ name e, v.effects.get? name = some e → e.Traceless

theorem builtinTraceless : builtin.Traceless := by
  intro name e known
  obtain rfl : e = markTargetSeen := Assoc.onlyValue known
  exact Effect.traceless nofun

theorem lineTraceless {v : Vocabulary} {raw : String} {ruleId : Int64} {e : Effect}
    (made : v.effectOfLine raw ruleId = .ok e) (registered : ∀ name, v.effects.get? name = some e → e.Traceless) :
    e.Traceless := by
  have read := v.effectRead raw ruleId
  generalize v.effectOfLine raw ruleId = result at read made
  cases read with
  | fault | unknown | readOnly | misread => contradiction
  | known _ known =>
    cases made
    exact registered _ known
  | literal _ allowed _ =>
    obtain ⟨_, makes⟩ := literalMakes allowed made
    exact fun q st cause refused => (makes q st).refusedKeeps refused

end Vocabulary

def succeeding (q : Query) : List Effect → Stores → List Effect
  | [], _ => []
  | e :: rest, st =>
    match e.apply q st with
    | (.ok (), st) => e :: succeeding q rest st
    | (.error _, st) => succeeding q rest st

inductive Performed (q : Query) : List Effect → Stores → Stores → Prop where
  | nil (st) : Performed q [] st st
  | cons {e rest st st' st''} (done : e.apply q st = (.ok (), st')) (later : Performed q rest st' st'') :
      Performed q (e :: rest) st st''

theorem performedNothing {q : Query} {st st' : Stores} (performed : Performed q [] st st') : st' = st := by
  cases performed
  rfl

theorem succeedingSublist (q : Query) (effects : List Effect) (st : Stores) :
    (succeeding q effects st).Sublist effects := by
  induction effects generalizing st with
  | nil => exact List.Sublist.refl _
  | cons e rest ih =>
    simp only [succeeding]
    split
    · exact (ih _).cons_cons e
    · exact (ih _).cons e

theorem performedSucceeding {q : Query} {effects : List Effect} (traceless : ∀ e ∈ effects, e.Traceless) (st : Stores) :
    Performed q (succeeding q effects st) st (applyAll q effects st) := by
  induction effects generalizing st with
  | nil => exact .nil st
  | cons e rest ih =>
    have later := ih fun e mem => traceless e (List.mem_cons_of_mem _ mem)
    simp only [succeeding, applyAll]
    cases applied : e.apply q st with
    | mk verdict after =>
      cases verdict with
      | ok _ => exact .cons applied (later after)
      | error cause =>
        -- The state after a refused effect is the one before it, so leaving it out changes nothing.
        have kept := traceless e List.mem_cons_self q st cause
        rw [applied] at kept
        rw [show after = st from kept rfl]
        exact later st

structure Rule.Marked (r : Rule) (q : Query) (st : Stores) : Prop where
  ordered : (succeeding q r.effects st).Sublist r.effects
  triggered : (r.fire q st).1.state = .triggered
  timestamp : (r.fire q st).1.firedAt = q.now
  otherwise : (r.fire q st).1 = { r with lastFired := some q.now }

theorem Rule.marked (r : Rule) (q : Query) (st : Stores) : r.Marked q st where
  ordered := succeedingSublist q r.effects st
  triggered := rfl
  timestamp := rfl
  otherwise := rfl

theorem refusedWritesLeaveNoTrace :
    (∀ (q : Query) (st : Stores) (key : String) (source : Source),
      (∀ v cause, (q.set key v source st).1 = .error cause → (q.set key v source st).2 = st) ∧
      (∀ k f cause, (q.transform k key source f st).1 = .error cause → (q.transform k key source f st).2 = st) ∧
      (∀ amount cause, (q.increment key source amount st).1 = .error cause → (q.increment key source amount st).2 = st) ∧
      ∀ amount, q.CountsExactly st key source amount) ∧
    (∀ (r : Rule) (q : Query) (st : Stores), r.Marked q st) ∧
    Vocabulary.builtin.Traceless ∧
    ∀ (v : Vocabulary) (r : Rule), (∀ e ∈ r.effects, ∃ raw ruleId, v.effectOfLine raw ruleId = .ok e) →
      (∀ e ∈ r.effects, ∀ name, v.effects.get? name = some e → e.Traceless) →
      ∀ q st, Performed q (succeeding q r.effects st) st (r.fire q st).2 := by
  refine ⟨fun q st key source => ⟨fun _ _ => Query.setRefused, fun _ _ _ => Query.transformRefused,
    fun _ _ => Query.incrementRefused, fun amount => q.countsExactly key source amount st⟩, Rule.marked,
    Vocabulary.builtinTraceless, fun v r lines registered q st => ?_⟩
  refine performedSucceeding (fun e applied => ?_) st
  obtain ⟨raw, ruleId, made⟩ := lines e applied
  exact Vocabulary.lineTraceless made (registered e applied)

def tally : Rule where
  id := 1
  concept := "Hurt"
  who := "Guard"
  response := "Ow!"
  effects :=
    [.step "Blows" .memory (Step.up 1), Vocabulary.markTargetSeen, .set "Alarm" .world (.bool true)]

def atThree : Query where
  now := 3.0

def fullMemory : Stores := { memory := Assoc.empty.insert "Blows" (.int Int64.maxValue) }

theorem refusedWritesLeaveNoTraceOfFullCounter :
    Performed atThree [.set "Alarm" .world (.bool true)] fullMemory (tally.fire atThree fullMemory).2 ∧
    (tally.fire atThree fullMemory).2 = { fullMemory with world := Assoc.empty.insert "Alarm" (.bool true) } := by
  have lines : ∀ e ∈ tally.effects, ∃ raw ruleId, Vocabulary.builtin.effectOfLine raw ruleId = .ok e := by
    intro e applied
    simp only [tally, List.mem_cons, List.not_mem_nil, or_false] at applied
    rcases applied with rfl | rfl | rfl
    · exact ⟨"m Blows + 1", 1, rfl⟩
    · exact ⟨"MarkTargetSeen", 1, rfl⟩
    · exact ⟨"w Alarm = true", 1, rfl⟩
  have registered : ∀ e ∈ tally.effects, ∀ name, Vocabulary.builtin.effects.get? name = some e → e.Traceless :=
    fun e _ name known => Vocabulary.builtinTraceless name e known
  exact ⟨refusedWritesLeaveNoTrace.2.2.2 _ tally lines registered atThree fullMemory, rfl⟩

def boast : Effect :=
  .custom "Boast" fun _ => .set "Boasts" (.int 1) .memory fun _ => .set "Boasts" (.int 1) .event .done

def boastful : Vocabulary := Vocabulary.builtin.addEffect "Boast" boast

def boaster : Rule where
  id := 1
  concept := "Win"
  who := "Knight"
  response := "Easy!"
  effects := [boast]

/- A registered effect writes to the memory and is refused when it goes on to the event. Not one effect of the rule
succeeds, and yet the memory is not as it was. -/
theorem refusedBoastLeavesTrace :
    ¬ ∀ (v : Vocabulary) (r : Rule), (∀ e ∈ r.effects, ∃ raw ruleId, v.effectOfLine raw ruleId = .ok e) →
      ∀ q st, Performed q (succeeding q r.effects st) st (r.fire q st).2 := by
  intro always
  have lines : ∀ e ∈ boaster.effects, ∃ raw ruleId, boastful.effectOfLine raw ruleId = .ok e := by
    intro e applied
    obtain rfl := List.mem_singleton.mp applied
    exact ⟨"Boast", 1, rfl⟩
  have nothing : Performed atThree [] {} (boaster.fire atThree {}).2 := always boastful boaster lines atThree {}
  have kept : (boaster.fire atThree {}).2.memory.get? "Boasts" = none := by
    rw [performedNothing nothing]
    rfl
  have written : (boaster.fire atThree {}).2.memory.get? "Boasts" = some (.int 1) := rfl
  rw [written] at kept
  contradiction

end Repartee
